import C64Stream.Script.Blocks
import C64Stream.Script.StackEffects

/-! How deep the stack of a statement is at each address of its code. -/

namespace C64Stream

variable {R : Type} [ScriptNumber R]

section Levels

/-- What a statement has on the stack at an address: some values, or a count with as many values
below it. -/
inductive StackLevel where
  | values (depth : Nat)
  | counted (count : Nat)
  deriving DecidableEq

/-- How many values a level stands for. -/
def StackLevel.depth (level : StackLevel) : Nat :=
  match level with
  | .values depth => depth
  | .counted count => count + 1

/-- The instructions that may go on elsewhere than behind themselves, calls apart. -/
def Opcode.leaves (opcode : Opcode) : Bool :=
  opcode.isLocalJump || opcode.isReturn || opcode == .stop || opcode == .halt

/-- An instruction leads from one level to another. -/
inductive Opcode.Leads (opcode : Opcode) (operand : Nat) : StackLevel → StackLevel → Prop where
  | plain (depth : Nat) (uncounted : opcode ≠ .pushNum) (noCall : opcode ≠ .call)
      (settled : opcode.leaves → depth + opcode.pushes = 0) :
      opcode.Leads operand (.values (depth + opcode.pops operand)) (.values (depth + opcode.pushes))
  | count (counts : opcode = .pushNum) : opcode.Leads operand (.values operand) (.counted operand)
  | call (calls : opcode = .call) (count : Nat) : opcode.Leads operand (.counted count) (.values 0)

/-- The values that a call takes besides its arguments. -/
def callExtra (name : Text) (argCount : Nat) : Nat :=
  if (callShape name argCount).1 then 1 else 0

/-- An item leads from one level to another. -/
def Item.Leads (item : Item R) (level next : StackLevel) : Prop :=
  match item with
  | .op opcode operand _ =>
    -- An operand of more than thirty-two bits counts values that never fit on the stack.
    opcode ≠ .call ∧ opcode.Leads operand level next ∧
      (opcode.Leads (operand % operandBound) level next ∨ c64scriptMaxStackDepth < level.depth)
  | .constant opcode _ _ =>
    opcode ≠ .call ∧ opcode.leaves = false ∧ ∀ operand, opcode.Leads operand level next
  | .jump opcode _ _ => ∀ operand, opcode.Leads operand level next
  | .invoke name argCount _ =>
    ∃ depth, level = .values (depth + (argCount + callExtra name argCount)) ∧
      next = .values (depth + 1)
  | .checkCall _ _ | .pool _ => next = level
  | .label _ _ | .function _ _ _ => level = .values 0 ∧ next = .values 0
  | .failure _ => True

/-- Items lead from one level to another, one after the other. -/
def ItemsLead : List (Item R) → StackLevel → StackLevel → Prop
  | [], level, last => last = level
  | item :: rest, level, last => ∃ next, item.Leads level next ∧ ItemsLead rest next last

theorem itemsLead_append {first second : List (Item R)} {level last : StackLevel} :
    ItemsLead (first ++ second) level last ↔
      ∃ middle, ItemsLead first level middle ∧ ItemsLead second middle last := by
  induction first generalizing level with
  | nil => simp [ItemsLead]
  | cons item rest ih =>
    simp only [List.cons_append, ItemsLead, ih]
    constructor
    · rintro ⟨next, leads, middle, others, final⟩
      exact ⟨middle, ⟨next, leads, others⟩, final⟩
    · rintro ⟨middle, ⟨next, leads, others⟩, final⟩
      exact ⟨next, leads, middle, others, final⟩

theorem ItemsLead.append {first second : List (Item R)} {level middle last : StackLevel}
    (one : ItemsLead first level middle) (two : ItemsLead second middle last) :
    ItemsLead (first ++ second) level last :=
  itemsLead_append.mpr ⟨middle, one, two⟩

theorem itemsLead_single {item : Item R} {level last : StackLevel} :
    ItemsLead [item] level last ↔ item.Leads level last := by
  simp [ItemsLead]

theorem constant_leads {opcode : Opcode} {value : Constant R} {line : Int} {pops pushes : Nat}
    (depth : Nat) (takes : ∀ operand, opcode.pops operand = pops) (puts : opcode.pushes = pushes)
    (uncounted : opcode ≠ .pushNum) (noCall : opcode ≠ .call) (stays : opcode.leaves = false) :
    ItemsLead [.constant opcode value line] (.values (depth + pops)) (.values (depth + pushes)) := by
  refine itemsLead_single.mpr ⟨noCall, stays, fun operand => ?_⟩
  rw [← takes operand, ← puts]
  exact .plain depth uncounted noCall fun leaves => by simp [stays] at leaves

theorem taking_leads {opcode : Opcode} {value : Constant R} {line : Int} {pops : Nat}
    (takes : ∀ operand, opcode.pops operand = pops) (puts : opcode.pushes = 0)
    (uncounted : opcode ≠ .pushNum) (noCall : opcode ≠ .call) (stays : opcode.leaves = false) :
    ItemsLead [.constant opcode value line] (.values pops) (.values 0) := by
  have leads := @constant_leads R _ opcode value line pops 0 0 takes puts uncounted noCall stays
  rwa [Nat.zero_add] at leads

theorem op_leads {opcode : Opcode} {operand : Nat} {line : Int} {pops pushes : Nat}
    (depth : Nat) (takes : opcode.pops operand = pops) (puts : opcode.pushes = pushes)
    (uncounted : opcode ≠ .pushNum) (noCall : opcode ≠ .call) (stays : opcode.leaves = false)
    (small : operand < operandBound) :
    ItemsLead [(.op opcode operand line : Item R)] (.values (depth + pops))
      (.values (depth + pushes)) := by
  have leads : opcode.Leads operand (.values (depth + pops)) (.values (depth + pushes)) := by
    rw [← takes, ← puts]
    exact .plain depth uncounted noCall fun leaves => by simp [stays] at leaves
  refine itemsLead_single.mpr ⟨noCall, leads, .inl ?_⟩
  rwa [Nat.mod_eq_of_lt small]

theorem leaving_leads {opcode : Opcode} {operand : Nat} {line : Int} {pops : Nat}
    (takes : opcode.pops operand = pops) (kept : opcode.pops (operand % operandBound) = pops)
    (puts : opcode.pushes = 0) (uncounted : opcode ≠ .pushNum) (noCall : opcode ≠ .call) :
    ItemsLead [(.op opcode operand line : Item R)] (.values pops) (.values 0) := by
  have leads : ∀ operand, opcode.pops operand = pops →
      opcode.Leads operand (.values pops) (.values 0) := by
    intro operand takes
    have plain := @Opcode.Leads.plain opcode operand 0 uncounted noCall
      fun _ => by rw [puts]
    rwa [takes, puts, Nat.zero_add] at plain
  exact itemsLead_single.mpr ⟨noCall, leads _ takes, .inl (leads _ kept)⟩

end Levels

section Expressions

theorem push_leads {opcode : Opcode} {value : Constant R} {line : Int}
    (pushes : opcode = .pushConst ∨ opcode = .pushVar) (depth : Nat) :
    ItemsLead [.constant opcode value line] (.values depth) (.values (depth + 1)) := by
  rcases pushes with rfl | rfl
  · exact @constant_leads R _ .pushConst value line 0 1 depth (fun _ => rfl) rfl nofun nofun rfl
  · exact @constant_leads R _ .pushVar value line 0 1 depth (fun _ => rfl) rfl nofun nofun rfl

theorem flattenArrayName_leads (expr : AstExpr R) (what : Text) (depth : Nat) :
    ItemsLead [flattenArrayName expr what] (.values depth) (.values (depth + 1)) := by
  unfold flattenArrayName
  split
  · exact push_leads (.inl rfl) depth
  · exact push_leads (.inl rfl) depth
  · exact itemsLead_single.mpr trivial

theorem binaryOpcode_leads {op : AstOperator} {opcode : Opcode} {line : Int}
    (known : binaryOpcode op = some opcode) (depth : Nat) :
    ItemsLead [(.op opcode 0 line : Item R)] (.values (depth + 2)) (.values (depth + 1)) := by
  unfold binaryOpcode at known
  split at known <;> cases known <;>
    exact op_leads depth rfl rfl nofun nofun rfl (by decide)

theorem unaryOpcode_leads {op : AstOperator} {opcode : Opcode} {line : Int}
    (known : unaryOpcode op = some opcode) (depth : Nat) :
    ItemsLead [(.op opcode 0 line : Item R)] (.values (depth + 1)) (.values (depth + 1)) := by
  unfold unaryOpcode at known
  split at known <;> cases known <;>
    exact op_leads depth rfl rfl nofun nofun rfl (by decide)

mutual

theorem flattenExpression_leads : ∀ (expr : AstExpr R) (depth : Nat),
    ItemsLead (flattenExpression expr) (.values depth) (.values (depth + 1))
  | .number _ _, depth | .string _ _, depth => push_leads (.inl rfl) depth
  | .identifier _ _, depth => push_leads (.inr rfl) depth
  | .arrayAccess line name index, depth => by
    rw [flattenExpression]
    exact (flattenExpression_leads index depth).append
      (constant_leads depth (fun _ => rfl) rfl nofun nofun rfl)
  | .mapAccess line name key, depth => by
    rw [flattenExpression]
    exact (flattenExpression_leads key depth).append
      (constant_leads depth (fun _ => rfl) rfl nofun nofun rfl)
  | .unary line op operand, depth => by
    rw [flattenExpression]
    refine (flattenExpression_leads operand depth).append ?_
    cases known : unaryOpcode op with
    | none => rfl
    | some opcode => exact unaryOpcode_leads known depth
  | .binary line op left right, depth => by
    rw [flattenExpression]
    refine ((flattenExpression_leads left depth).append
      (flattenExpression_leads right (depth + 1))).append ?_
    cases known : binaryOpcode op with
    | none => exact itemsLead_single.mpr trivial
    | some opcode => exact binaryOpcode_leads known depth
  | .call line name args, depth => by
    rw [flattenExpression]
    -- The string that some calls need lies below the arguments.
    have extra : ItemsLead
        (if (callShape name args.length).1 then
          [(.constant .pushConst (.string []) line : Item R)] else [])
        (.values depth) (.values (depth + callExtra name args.length)) := by
      unfold callExtra
      split
      · exact push_leads (.inl rfl) depth
      · rfl
    have check : ItemsLead [(.checkCall name args.length : Item R)] (.values depth)
        (.values depth) := itemsLead_single.mpr rfl
    refine ((check.append extra).append (flattenArguments_leads _ args _)).append ?_
    exact itemsLead_single.mpr ⟨depth, by rw [Nat.add_assoc, Nat.add_comm args.length], rfl⟩

theorem flattenArguments_leads (arrayArgument : Option Text) : ∀ (args : List (AstExpr R))
    (depth : Nat), ItemsLead (flattenArguments arrayArgument args) (.values depth)
      (.values (depth + args.length))
  | [], depth => rfl
  | arg :: rest, depth => by
    have one : ItemsLead (flattenArgument arrayArgument arg rest) (.values depth)
        (.values (depth + 1)) := by
      unfold flattenArgument
      split
      · exact flattenArrayName_leads arg _ depth
      · exact flattenExpression_leads arg depth
    rw [flattenArguments_cons, List.length_cons, Nat.add_comm rest.length, ← Nat.add_assoc]
    exact one.append (flattenArguments_leads arrayArgument rest (depth + 1))

end

theorem flatMap_expressions_leads : ∀ (exprs : List (AstExpr R)) (depth : Nat),
    ItemsLead (exprs.flatMap flattenExpression) (.values depth) (.values (depth + exprs.length))
  | [], depth => rfl
  | expr :: rest, depth => by
    rw [List.flatMap_cons, List.length_cons, Nat.add_comm rest.length, ← Nat.add_assoc]
    exact (flattenExpression_leads expr depth).append (flatMap_expressions_leads rest (depth + 1))

end Expressions

section Commands

/-- How many values an operand of a command puts on the stack. -/
def Operand.values (operand : Operand R) : Nat :=
  match operand with
  | .pooled _ => 0
  | _ => 1

/-- How many values the operands of a command put on the stack. -/
def operandValues (operands : List (Operand R)) : Nat :=
  (operands.map Operand.values).sum

theorem flattenVarName_leads (expr : AstExpr R) (what : Text) (depth : Nat) :
    ItemsLead (flattenVarName expr what) (.values depth) (.values (depth + 1)) := by
  unfold flattenVarName
  split
  · exact push_leads (.inl rfl) depth
  · exact push_leads (.inl rfl) depth
  · exact itemsLead_single.mpr trivial

theorem flattenOperand_leads (line : Int) (operand : Operand R) (depth : Nat) :
    ItemsLead (flattenOperand line operand) (.values depth) (.values (depth + operand.values)) := by
  cases operand with
  | expression expr => exact flattenExpression_leads expr depth
  | constant value => exact push_leads (.inl rfl) depth
  | variableName expr what => exact flattenVarName_leads expr what depth
  | pooled value => exact itemsLead_single.mpr rfl

theorem flattenOperands_leads (line : Int) : ∀ (operands : List (Operand R)) (depth : Nat),
    ItemsLead (operands.flatMap (flattenOperand line)) (.values depth)
      (.values (depth + operandValues operands))
  | [], depth => rfl
  | operand :: rest, depth => by
    have others := flattenOperands_leads line rest (depth + operand.values)
    rw [List.flatMap_cons]
    rw [Nat.add_assoc] at others
    exact (flattenOperand_leads line operand depth).append others

/-- The instruction of a command takes the values of its operands and pushes nothing. -/
structure CommandForm.Settles (form : CommandForm R) : Prop where
  pops : ∀ operand, (match form.operand with
    | .immediate given => operand = given
    | .name _ => True) → form.opcode.pops operand = operandValues form.operands
  pushes : form.opcode.pushes = 0
  plain : form.opcode ≠ .pushNum ∧ form.opcode ≠ .call ∧ form.opcode.leaves = false
  small : ∀ operand, form.operand = .immediate operand →
    operand < operandBound ∨ c64scriptMaxStackDepth < operandValues form.operands

@[simp] theorem expressionOr_values (value : Option (AstExpr R)) (default : Constant R) :
    (expressionOr value default).values = 1 := by
  cases value <;> rfl

@[simp] theorem variableOrEmpty_values (value : Option (AstExpr R)) (what : Text) :
    (variableOrEmpty value what).values = 1 := by
  cases value <;> rfl

@[simp] theorem operandValues_nil : operandValues ([] : List (Operand R)) = 0 := rfl

@[simp] theorem operandValues_cons (operand : Operand R) (rest : List (Operand R)) :
    operandValues (operand :: rest) = operand.values + operandValues rest := by
  simp [operandValues]

@[simp] theorem operandValues_append (first second : List (Operand R)) :
    operandValues (first ++ second) = operandValues first + operandValues second := by
  simp [operandValues]

@[simp] theorem optionalOperand_values (value : Option (AstExpr R)) :
    operandValues (optionalOperand value) = if value.isSome then 1 else 0 := by
  cases value <;> rfl

@[simp] theorem expressions_values (exprs : List (AstExpr R)) :
    operandValues (exprs.map .expression) = exprs.length := by
  induction exprs with
  | nil => rfl
  | cons expr rest ih =>
    rw [List.map_cons, operandValues_cons, ih, List.length_cons, Nat.add_comm]
    rfl

theorem waitMemOperand_bits (pollUnit : WaitUnit) (hasValue hasPoll : Bool) :
    (waitMemOperand pollUnit hasValue hasPoll).testBit 8 = hasValue ∧
      (waitMemOperand pollUnit hasValue hasPoll).testBit 9 = hasPoll ∧
        waitMemOperand pollUnit hasValue hasPoll < operandBound := by
  cases pollUnit <;> cases hasValue <;> cases hasPoll <;> decide

/-- Every command takes the values of its operands. -/
theorem commandForm_settles (command : AstCommand R) : (commandForm command).Settles := by
  cases command with
  | assignment _ _ | dim _ _ | arraySet _ _ _ | mapSet _ _ _ =>
    exact ⟨fun _ _ => rfl, rfl, ⟨nofun, nofun, rfl⟩, nofun⟩
  | wait duration unit =>
    exact ⟨fun _ _ => rfl, rfl, ⟨nofun, nofun, rfl⟩,
      fun operand same => .inl (by cases same; cases unit <;> decide)⟩
  | waitMem address mask value poll pollUnit =>
    -- Which values there are is told by two bits of the operand.
    obtain ⟨hasValue, hasPoll, small⟩ := waitMemOperand_bits pollUnit value.isSome poll.isSome
    refine ⟨?_, rfl, ⟨nofun, nofun, rfl⟩, fun operand same => .inl (by cases same; exact small)⟩
    rintro _ rfl
    have bits : ∀ operand, Opcode.waitMem.pops operand =
        2 + (if operand.testBit 8 then 1 else 0) + if operand.testBit 9 then 1 else 0 :=
      fun _ => rfl
    change Opcode.waitMem.pops _ = operandValues (_ ++ optionalOperand value ++ optionalOperand poll)
    rw [bits, hasValue, hasPoll, operandValues_append, operandValues_append,
      optionalOperand_values, optionalOperand_values]
    rfl
  | obsScreenshot target path =>
    exact ⟨fun _ _ => rfl, rfl, ⟨nofun, nofun, rfl⟩,
      fun operand same => .inl (by cases same; cases target <;> decide)⟩
  | assertImageEquals actualPath expectedPath tolerance =>
    refine ⟨fun _ _ => ?_, rfl, ⟨nofun, nofun, rfl⟩,
      fun operand same => .inl (by cases same; decide)⟩
    cases tolerance <;> rfl
  | discoverDevices port =>
    cases port with
    | none =>
      exact ⟨by rintro _ rfl; rfl, rfl, ⟨nofun, nofun, rfl⟩,
        fun operand same => .inl (by cases same; exact Nat.zero_lt_succ _)⟩
    | some port =>
      exact ⟨by rintro _ rfl; rfl, rfl, ⟨nofun, nofun, rfl⟩,
        fun operand same => .inl (by cases same; exact (by decide : 1 < operandBound))⟩
  | playsid path songnr =>
    refine ⟨fun _ _ => ?_, rfl, ⟨nofun, nofun, rfl⟩,
      fun operand same => .inl (by cases same; decide)⟩
    cases songnr <;> rfl
  | runlocal path args statusVar outputVar =>
    refine ⟨fun _ _ => ?_, rfl, ⟨nofun, nofun, rfl⟩,
      fun operand same => .inl (by cases same; decide)⟩
    simp only [commandForm, operandValues_cons, expressionOr_values, variableOrEmpty_values,
      operandValues_nil]
    rfl
  | load filename device =>
    cases device with
    | none =>
      exact ⟨by rintro _ rfl; rfl, rfl, ⟨nofun, nofun, rfl⟩,
        fun operand same => .inl (by cases same; exact Nat.zero_lt_succ _)⟩
    | some device =>
      exact ⟨by rintro _ rfl; rfl, rfl, ⟨nofun, nofun, rfl⟩,
        fun operand same => .inl (by cases same; exact (by decide : 1 < operandBound))⟩
  | run file =>
    -- The two low bits of the operand tell which values there are.
    have pops : Opcode.run.pops 0 = 0 ∧ Opcode.run.pops 1 = 1 ∧ Opcode.run.pops 3 = 2 := by decide
    rcases file with _ | ⟨file, _ | device⟩
    · exact ⟨by rintro _ rfl; exact pops.1, rfl, ⟨nofun, nofun, rfl⟩,
        fun operand same => .inl (by cases same; decide)⟩
    · exact ⟨by rintro _ rfl; exact pops.2.1, rfl, ⟨nofun, nofun, rfl⟩,
        fun operand same => .inl (by cases same; exact (by decide : 1 < operandBound))⟩
    · exact ⟨by rintro _ rfl; exact pops.2.2, rfl, ⟨nofun, nofun, rfl⟩,
        fun operand same => .inl (by cases same; exact (by decide : 3 < operandBound))⟩
  | pokeArray address first rest =>
    have count : operandValues (commandForm (.pokeArray address first rest)).operands =
        rest.length + 2 := by
      simp only [commandForm, operandValues_cons, expressions_values]
      show 1 + (1 + rest.length) = _
      omega
    refine ⟨?_, rfl, ⟨nofun, nofun, rfl⟩, fun operand same => ?_⟩
    · rintro _ rfl
      rw [count]
      rfl
    · -- More values than fit into an operand do not fit on the stack.
      cases same
      rw [count]
      simp only [operandBound, c64scriptMaxStackDepth]
      omega
  | logfile path truncate =>
    exact ⟨fun _ _ => rfl, rfl, ⟨nofun, nofun, rfl⟩,
      fun operand same => .inl (by cases same; cases truncate <;> decide)⟩
  | writefile path content truncate =>
    cases truncate <;> exact ⟨fun _ _ => rfl, rfl, ⟨nofun, nofun, rfl⟩,
      fun operand same => .inl (by cases same; decide)⟩
  | http method url headers body statusVar responseVar =>
    refine ⟨fun _ _ => ?_, rfl, ⟨nofun, nofun, rfl⟩,
      fun operand same => .inl (by cases same; cases method <;> decide)⟩
    simp only [commandForm, operandValues_cons, expressionOr_values, variableOrEmpty_values,
      operandValues_nil]
    rfl
  | _ =>
    -- The other commands have a fixed number of operands.
    exact ⟨fun _ _ => rfl, rfl, ⟨nofun, nofun, rfl⟩,
      fun operand same => .inl (by cases same; decide)⟩

theorem flattenCommand_leads (line : Int) (command : AstCommand R) :
    ItemsLead (flattenCommand line command) (.values 0) (.values 0) := by
  have settles := commandForm_settles command
  have operands := flattenOperands_leads line (commandForm command).operands 0
  rw [Nat.zero_add] at operands
  refine operands.append (itemsLead_single.mpr ?_)
  have leads : ∀ operand, (commandForm command).opcode.pops operand =
      operandValues (commandForm command).operands →
      (commandForm command).opcode.Leads operand
        (.values (operandValues (commandForm command).operands)) (.values 0) := by
    intro operand pops
    have plain := @Opcode.Leads.plain (commandForm command).opcode operand 0 settles.plain.1
      settles.plain.2.1
      fun leaves => by rw [settles.plain.2.2] at leaves; cases leaves
    rwa [pops, settles.pushes, Nat.zero_add] at plain
  cases source : (commandForm command).operand with
  | immediate given =>
    have pops := settles.pops given (by rw [source])
    refine ⟨settles.plain.2.1, leads given pops, ?_⟩
    rcases settles.small given source with small | deep
    · exact .inl (leads _ (by rwa [Nat.mod_eq_of_lt small]))
    · exact .inr deep
  | name name =>
    exact ⟨settles.plain.2.1, settles.plain.2.2, fun operand =>
      leads operand (settles.pops operand (by rw [source]; trivial))⟩

end Commands

section Statements

theorem flattenImplicitReturn_leads (line : Int) (items : List (Item R)) :
    ItemsLead (flattenImplicitReturn line items) (.values 0) (.values 0) := by
  unfold flattenImplicitReturn
  split
  · rfl
  · exact (push_leads (.inl rfl) 0).append (leaving_leads rfl rfl rfl nofun nofun)

theorem test_leads {opcode : Opcode} (tests : opcode = .jumpIfFalse ∨ opcode = .whileCheck)
    (condition : AstExpr R) (operand : Nat) (line : Int) :
    ItemsLead (flattenExpression condition ++ [.op opcode operand line]) (.values 0)
      (.values 0) := by
  refine (flattenExpression_leads condition 0).append ?_
  rcases tests with rfl | rfl <;> exact leaving_leads rfl rfl rfl nofun nofun

theorem jump_leads (operand : Nat) (line : Int) :
    ItemsLead [(.op .jump operand line : Item R)] (.values 0) (.values 0) :=
  leaving_leads rfl rfl rfl nofun nofun

theorem forSetup_leads (line : Int) (variableName : Text) (start finish : AstExpr R)
    (step : Option (AstExpr R)) :
    ItemsLead (flattenExpression start ++
        [.constant .popVar (.string variableName) line,
          .constant .pushVar (.string variableName) line] ++ flattenExpression finish ++
        flattenOperand line (expressionOr step (numberConstant 1)) ++
        [.constant .forInit (.string variableName) line]) (.values 0) (.values 0) := by
  have popVar : ItemsLead [(.constant .popVar (.string variableName) line : Item R)]
      (.values 1) (.values 0) := taking_leads (fun _ => rfl) rfl nofun nofun rfl
  have forInit : ItemsLead [(.constant .forInit (.string variableName) line : Item R)]
      (.values 3) (.values 0) := taking_leads (fun _ => rfl) rfl nofun nofun rfl
  have width := flattenOperand_leads line (expressionOr step (numberConstant 1)) 2
  rw [expressionOr_values] at width
  -- The start is stored, and its variable, the end and the step are taken by the last item.
  exact ((((flattenExpression_leads start 0).append
    (popVar.append (push_leads (.inr rfl) 0))).append (flattenExpression_leads finish 1)).append
      width).append forInit

mutual

theorem flattenStatement_leads : ∀ (base : Nat) (stmt : AstStmt R),
    ItemsLead (flattenStatement base stmt) (.values 0) (.values 0)
  | base, .empty _ | base, .rem _ => rfl
  | base, .label _ _ => itemsLead_single.mpr ⟨rfl, rfl⟩
  | base, .goto _ _ => itemsLead_single.mpr fun _ => .plain 0 nofun nofun fun _ => rfl
  | base, .stop _ => leaving_leads rfl rfl rfl nofun nofun
  | base, .return _ none => leaving_leads rfl rfl rfl nofun nofun
  | base, .return line (some value) => by
    rw [flattenStatement]
    exact (flattenExpression_leads value 0).append (leaving_leads rfl rfl rfl nofun nofun)
  | base, .gosub line label params => by
    rw [flattenStatement]
    have values := flatMap_expressions_leads params 0
    rw [Nat.zero_add] at values
    refine values.append ⟨.counted params.length, ⟨nofun, .count rfl, ?_⟩, itemsLead_single.mpr
      fun _ => .call rfl _⟩
    -- A count that does not fit into the operand does not fit on the stack either.
    rcases Nat.lt_or_ge params.length operandBound with small | large
    · rw [Nat.mod_eq_of_lt small]
      exact .inl (.count rfl)
    · refine .inr (lt_of_lt_of_le ?_ large)
      decide
  | base, .command line command => by
    rw [flattenStatement]
    exact flattenCommand_leads line command
  | base, .functionDef line name paramNames body => by
    rw [flattenStatement]
    refine ItemsLead.append ?_ (flattenImplicitReturn_leads _ _)
    refine ItemsLead.append ?_ (flattenStatements_leads (base + 1) body)
    exact (jump_leads _ line).append (itemsLead_single.mpr ⟨rfl, rfl⟩)
  | base, .if line condition thenBranch [] => by
    rw [flattenStatement]
    exact (test_leads (.inl rfl) condition _ line).append (flattenStatements_leads _ thenBranch)
  | base, .if line condition thenBranch (first :: rest) => by
    rw [flattenStatement]
    exact (((test_leads (.inl rfl) condition _ line).append
      (flattenStatements_leads _ thenBranch)).append (jump_leads _ line)).append
        (flattenStatements_leads _ (first :: rest))
  | base, .for line variableName start finish step body => by
    rw [flattenStatement]
    have check : ∀ operand, ItemsLead [(.op .forCheck operand line : Item R)] (.values 0)
        (.values 0) := fun _ => leaving_leads rfl rfl rfl nofun nofun
    have advance : ItemsLead [(.constant .forIncr (.string variableName) line : Item R)]
        (.values 0) (.values 0) := taking_leads (fun _ => rfl) rfl nofun nofun rfl
    exact (((forSetup_leads line variableName start finish step).append (check _)).append
      (flattenStatements_leads _ body)).append (advance.append (jump_leads _ line))
  | base, .while line condition body => by
    rw [flattenStatement]
    exact ((test_leads (.inr rfl) condition _ line).append
      (flattenStatements_leads _ body)).append (jump_leads _ line)

theorem flattenStatements_leads : ∀ (base : Nat) (stmts : List (AstStmt R)),
    ItemsLead (flattenStatements base stmts) (.values 0) (.values 0)
  | base, [] => rfl
  | base, stmt :: rest => by
    rw [flattenStatements]
    exact (flattenStatement_leads base stmt).append (flattenStatements_leads _ rest)

end

theorem flattenProgram_leads (program : List (AstStmt R)) :
    ItemsLead (flattenProgram program) (.values 0) (.values 0) :=
  (flattenStatements_leads 0 program).append (leaving_leads rfl rfl rfl nofun nofun)

end Statements

end C64Stream
