import C64Stream.Script.Assembler

/-! Compiling a tree is the same as assembling its items. -/

namespace C64Stream

variable {R : Type} [ScriptNumber R]

section Patching

variable {index : Nat} {ctx : CompilerContext R}

@[simp] theorem setOperand_length (instructions : List Instruction) (index operand : Nat) :
    (setOperand instructions index operand).length = instructions.length := by
  simp [setOperand]

@[simp] theorem patchOperand_length (ctx : CompilerContext R) (index operand : Nat) :
    (patchOperand ctx index operand).instructions.length = ctx.instructions.length := by
  simp [patchOperand]

theorem setOperand_getElem? (instructions : List Instruction) (index operand position : Nat) :
    (setOperand instructions index operand)[position]? =
      if index = position then instructions[position]?.map fun instruction =>
          { instruction with operand := operand % operandBound }
        else instructions[position]? := by
  rw [setOperand, List.getElem?_modify]
  split <;> cases instructions[position]? <;> rfl

theorem setOperand_append {instructions : List Instruction} (inside : index < instructions.length)
    (operand : Nat) (rest : List Instruction) :
    setOperand (instructions ++ rest) index operand =
      setOperand instructions index operand ++ rest := by
  refine List.ext_getElem? fun position => ?_
  simp only [setOperand_getElem?, List.getElem?_append, setOperand_length]
  by_cases early : position < instructions.length
  · simp [early]
  · have other : index ≠ position := by omega
    simp [early, other]

theorem patchOperand_emit (ctx : CompilerContext R) (opcode : Opcode) (line : Int)
    (operand : Nat) :
    patchOperand (emit ctx opcode 0 line) ctx.instructions.length operand =
      emit ctx opcode operand line := by
  refine congrArg (fun instructions => { ctx with instructions }) ?_
  refine List.ext_getElem? fun position => ?_
  simp only [emit, setOperand_getElem?, List.getElem?_append]
  rcases Nat.lt_trichotomy position ctx.instructions.length with early | here | late
  · have other : ctx.instructions.length ≠ position := by omega
    simp [early, other]
  · simp [here]
  · obtain ⟨beyond, rfl⟩ := Nat.exists_eq_add_of_lt late
    simp [Nat.add_assoc]

theorem emit_patchOperand (inside : index < ctx.instructions.length) (operand : Nat)
    (opcode : Opcode) (value : Nat) (line : Int) :
    emit (patchOperand ctx index operand) opcode value line =
      patchOperand (emit ctx opcode value line) index operand := by
  simp [emit, patchOperand, setOperand_append inside]

theorem addConstant_patchOperand (ctx : CompilerContext R) (index operand : Nat)
    (value : Constant R) :
    addConstant (patchOperand ctx index operand) value =
      ((addConstant ctx value).1, patchOperand (addConstant ctx value).2 index operand) := by
  simp only [addConstant, patchOperand]
  split <;> rfl

theorem emitConstant_patchOperand (inside : index < ctx.instructions.length) (operand : Nat)
    (opcode : Opcode) (value : Constant R) (line : Int) :
    emitConstant (patchOperand ctx index operand) opcode value line =
      (emitConstant ctx opcode value line).map (patchOperand · index operand) := by
  have inside' : index < (addConstant ctx value).2.instructions.length := by
    rw [addConstant_instructions]
    exact inside
  simp only [emitConstant, addConstant_patchOperand]
  split
  · rfl
  · rw [emit_patchOperand inside']
    rfl

theorem emitSource_patchOperand (inside : index < ctx.instructions.length) (operand : Nat)
    (opcode : Opcode) (source : OperandSource) (line : Int) :
    emitSource (patchOperand ctx index operand) opcode source line =
      (emitSource ctx opcode source line).map (patchOperand · index operand) := by
  cases source with
  | immediate value =>
    simp only [emitSource]
    rw [emit_patchOperand inside]
    rfl
  | name name => exact emitConstant_patchOperand inside operand opcode (.string name) line

theorem emitJump_patchOperand (inside : index < ctx.instructions.length) (operand : Nat)
    (opcode : Opcode) (label : Text) (line : Int) :
    emitJump (patchOperand ctx index operand) opcode label line =
      patchOperand (emitJump ctx opcode label line) index operand := by
  have labels : (patchOperand ctx index operand).labels = ctx.labels := rfl
  have patches : (patchOperand ctx index operand).patches = ctx.patches := rfl
  simp only [emitJump, labels, patches, patchOperand_length]
  split
  · simp only [patchOperand, emit, setOperand_append inside]
  · exact emit_patchOperand inside operand opcode _ line

theorem assembleItem_patchOperand (inside : index < ctx.instructions.length) (operand : Nat)
    (item : Item R) :
    assembleItem item (patchOperand ctx index operand) =
      (assembleItem item ctx).map (patchOperand · index operand) := by
  have functions : (patchOperand ctx index operand).functions = ctx.functions := rfl
  have labels : (patchOperand ctx index operand).labels = ctx.labels := rfl
  cases item with
  | op opcode value line =>
    simp only [assembleItem]
    rw [emit_patchOperand inside]
    rfl
  | constant opcode value line => exact emitConstant_patchOperand inside operand opcode value line
  | jump opcode label line =>
    simp only [assembleItem]
    rw [emitJump_patchOperand inside]
    rfl
  | invoke name argCount line =>
    simp only [assembleItem, functions]
    split
    · rfl
    · exact emitSource_patchOperand inside operand _ _ line
  | checkCall name argCount =>
    simp only [assembleItem, functions]
    split <;> rfl
  | pool value =>
    simp only [assembleItem, addConstant_patchOperand]
    rfl
  | label name line =>
    simp only [assembleItem, defineLabel, labels, patchOperand_length]
    split
    · rfl
    · split <;> rfl
  | function name address paramNames =>
    simp only [assembleItem, registerFunction, functions]
    by_cases known : (ctx.functions.any fun function => function.name == name) = true
    · simp only [known, if_true]
      rfl
    · simp only [known]
      rfl
  | failure message => rfl

theorem assemble_patchOperand (inside : index < ctx.instructions.length) (operand : Nat)
    (items : List (Item R)) :
    assemble items (patchOperand ctx index operand) =
      (assemble items ctx).map (patchOperand · index operand) := by
  -- Items only append instructions, so the patched one stays where it is.
  induction items generalizing ctx with
  | nil => rfl
  | cons item rest ih =>
    simp only [assemble, assembleItem_patchOperand inside]
    cases first : assembleItem item ctx with
    | error failure => rfl
    | ok after =>
      have grown := assembleItem_length first
      exact ih (by omega)

theorem assemble_placeholder (ctx : CompilerContext R) (opcode : Opcode) (line : Int)
    (items : List (Item R)) (target : Nat) :
    (assemble items (emit ctx opcode 0 line)).map
        (patchOperand · ctx.instructions.length target) =
      assemble (.op opcode target line :: items) ctx := by
  have inside : ctx.instructions.length < (emit ctx opcode 0 line).instructions.length := by
    simp [emit]
  rw [← assemble_patchOperand inside, patchOperand_emit]
  rfl

end Patching

section LastOpcode

variable {ctx after : CompilerContext R} {opcode : Opcode} {argCount : Nat} {form : CallForm}
  {name : Text}

@[simp] theorem lastOpcode_emit (ctx : CompilerContext R) (opcode : Opcode) (operand : Nat)
    (line : Int) : lastOpcode (emit ctx opcode operand line) = some opcode := by
  simp [lastOpcode, emit]

theorem lastOpcode_emitConstant {value : Constant R} {line : Int}
    (emitted : emitConstant ctx opcode value line = .ok after) :
    lastOpcode after = some opcode := by
  simp only [emitConstant] at emitted
  split at emitted
  · simp [CompilerContext.failSilently] at emitted
  · simp only [Except.ok.injEq] at emitted
    rw [← emitted, lastOpcode_emit]

theorem lastOpcode_emitSource {operand : OperandSource} {line : Int}
    (emitted : emitSource ctx opcode operand line = .ok after) :
    lastOpcode after = some opcode := by
  cases operand with
  | immediate operand =>
    simp only [emitSource, Except.ok.injEq] at emitted
    rw [← emitted, lastOpcode_emit]
  | name name => exact lastOpcode_emitConstant emitted

theorem lastOpcode_emitJump (ctx : CompilerContext R) (opcode : Opcode) (label : Text)
    (line : Int) : lastOpcode (emitJump ctx opcode label line) = some opcode := by
  unfold emitJump
  split <;> rw [lastOpcode_emit]

theorem checkedArity {count : Nat} {call : CallForm} {refusal : Text}
    (known : (if argCount = count then Except.ok call else .error refusal) = .ok form) :
    argCount = count ∧ form = call := by
  split at known
  · exact ⟨‹_›, (Except.ok.inj known).symm⟩
  · cases known

/-- The calls whose instruction has no operand, with the numbers of their arguments. -/
def fixedCalls : List (Nat × CallForm) :=
  [(2, { opcode := .cfgGet, operand := .immediate 0 }),
    (2, { arrayArgument := some (text "CFG_ITEM$"), opcode := .cfgItem, operand := .immediate 0 }),
    (1, { emptyFirst := true, arrayArgument := some (text "CFG_ITEM$"), opcode := .cfgItem
          operand := .immediate 0 }),
    (3, { arrayArgument := some (text "CFG_OPTIONS$"), opcode := .cfgOptions
          operand := .immediate 0 }),
    (2, { opcode := .driveGet, operand := .immediate 0 }),
    (1, { opcode := .callPeek, operand := .immediate 0 }),
    (1, { opcode := .callStr, operand := .immediate 0 })]

theorem namedBuiltin_form (found : namedBuiltin name argCount = some (.ok form)) :
    ∃ index, form =
      { opcode := .callBuiltin, operand := .immediate (callOperand index argCount) } := by
  unfold namedBuiltin at found
  split at found
  · exact ⟨_, (Except.ok.inj (Option.some.inj found)).symm⟩
  · split at found <;> cases found

theorem callForm_cases {functions : List FunctionDef}
    (known : callForm functions name argCount = .ok form) :
    (∃ call ∈ fixedCalls, argCount = call.1 ∧ form = call.2) ∨
      (∃ opcode ∈ [Opcode.callBuiltin, .callFunction], ∃ index,
        form = { opcode, operand := .immediate (callOperand index argCount) }) ∨
      (argCount = 1 ∧ form = { opcode := .arrayGet, operand := .name name }) := by
  -- The names are compared in the order of the source.
  unfold callForm at known
  split at known
  · exact .inl ⟨_, .head _, checkedArity known⟩
  split at known
  · split at known
    · exact .inl ⟨_, .tail _ (.head _), ‹_›, (Except.ok.inj known).symm⟩
    · exact .inl ⟨_, .tail _ (.tail _ (.head _)), checkedArity known⟩
  split at known
  · exact .inl ⟨_, .tail _ (.tail _ (.tail _ (.head _))), checkedArity known⟩
  split at known
  · exact .inl ⟨_, .tail _ (.tail _ (.tail _ (.tail _ (.head _)))), checkedArity known⟩
  split at known
  · exact .inl ⟨_, .tail _ (.tail _ (.tail _ (.tail _ (.tail _ (.head _))))), checkedArity known⟩
  split at known
  · exact .inl ⟨_, .tail _ (.tail _ (.tail _ (.tail _ (.tail _ (.tail _ (.head _)))))),
      checkedArity known⟩
  cases builtin : namedBuiltin name argCount with
  | some result =>
    rw [builtin] at known
    obtain ⟨index, same⟩ := namedBuiltin_form (builtin.trans (congrArg some known))
    exact .inr (.inl ⟨_, .head _, index, same⟩)
  | none =>
    rw [builtin] at known
    dsimp only at known
    split at known
    · exact .inr (.inl ⟨_, .tail _ (.head _), _, (Except.ok.inj known).symm⟩)
    · exact .inr (.inr (checkedArity known))

/-- The instructions that calls end in. -/
def callOpcodes : List Opcode :=
  [.cfgGet, .cfgItem, .cfgOptions, .driveGet, .callPeek, .callStr, .callBuiltin, .callFunction,
    .arrayGet]

theorem callForm_opcode {functions : List FunctionDef}
    (known : callForm functions name argCount = .ok form) :
    form.opcode ∈ callOpcodes := by
  rcases callForm_cases known with ⟨call, fixed, -, rfl⟩ | ⟨opcode, either, index, rfl⟩ | ⟨-, rfl⟩
  · have every : ∀ call ∈ fixedCalls, call.2.opcode ∈ callOpcodes := by decide
    exact every call fixed
  · have both : ∀ opcode ∈ [Opcode.callBuiltin, .callFunction], opcode ∈ callOpcodes := by decide
    exact both opcode either
  · simp [callOpcodes]

theorem callOpcodes_return (known : opcode ∈ callOpcodes) : opcode ≠ .return := by
  rintro rfl
  revert known
  decide

theorem callOpcodes_straight (known : opcode ∈ callOpcodes) : opcode.isLocalJump = false := by
  revert known opcode
  decide

theorem assemble_lastOpcode {items : List (Item R)} (assembled : assemble items ctx = .ok after)
    {before : Bool} (start : decide (lastOpcode ctx = some .return) = before) :
    decide (lastOpcode after = some .return) = endsInReturn before items := by
  -- An item with code sets the last opcode; the others leave the instructions alone.
  induction items generalizing ctx before with
  | nil =>
    rw [← Except.ok.inj assembled]
    exact start
  | cons item rest ih =>
    obtain ⟨middle, first, others⟩ := assemble_cons_ok assembled
    have settles : ∀ opcode, lastOpcode middle = some opcode →
        decide (lastOpcode middle = some .return) = (opcode == .return) := by
      intro opcode last
      cases opcode <;> simp [last]
    cases item with
    | op opcode operand line =>
      exact ih others (settles opcode (by rw [← Except.ok.inj first, lastOpcode_emit]))
    | constant opcode value line =>
      exact ih others (settles opcode (lastOpcode_emitConstant first))
    | jump opcode label line =>
      exact ih others (settles opcode (by rw [← Except.ok.inj first, lastOpcode_emitJump]))
    | invoke name argCount line =>
      obtain ⟨form, known, emitted⟩ := assembleItem_invoke first
      refine ih others ?_
      rw [lastOpcode_emitSource emitted]
      simpa using callOpcodes_return (callForm_opcode known)
    | checkCall name argCount =>
      rw [assembleItem_checkCall first] at others
      exact ih others start
    | pool value =>
      refine ih others ?_
      simp only [← Except.ok.inj first, lastOpcode, addConstant_instructions]
      exact start
    | label name line =>
      rw [assembleItem_label first] at others
      exact ih others start
    | function name address paramNames =>
      rw [assembleItem_function first] at others
      exact ih others start
    | failure message => simp [assembleItem] at first

end LastOpcode

section Expressions

variable {opcode : Opcode} {ctx after : CompilerContext R}

theorem bind_congr_ok {step : Compiled R} {first second : CompilerContext R → Compiled R}
    (agree : ∀ after, step = .ok after → first after = second after) :
    step >>= first = step >>= second := by
  cases step with
  | error failure => rfl
  | ok after => exact agree after rfl

theorem Item.isPlain_of_straight {item : Item R} (straight : item.isStraight) : item.isPlain := by
  cases item <;> first | rfl | exact straight

theorem unaryOpcode_straight {op : AstOperator} (known : unaryOpcode op = some opcode) :
    opcode.isLocalJump = false := by
  unfold unaryOpcode at known
  split at known <;> cases known <;> rfl

theorem binaryOpcode_straight {op : AstOperator} (known : binaryOpcode op = some opcode) :
    opcode.isLocalJump = false := by
  unfold binaryOpcode at known
  split at known <;> cases known <;> rfl

theorem flattenArrayName_straight (expr : AstExpr R) (what : Text) :
    (flattenArrayName expr what).isStraight := by
  unfold flattenArrayName
  split <;> rfl

/-- The items of one argument, given the arguments after it. -/
def flattenArgument (arrayArgument : Option Text) (arg : AstExpr R) (rest : List (AstExpr R)) :
    List (Item R) :=
  match arrayArgument, rest with
  | some what, [] => [flattenArrayName arg what]
  | _, _ => flattenExpression arg

theorem flattenArguments_cons (arrayArgument : Option Text) (arg : AstExpr R)
    (rest : List (AstExpr R)) :
    flattenArguments arrayArgument (arg :: rest) =
      flattenArgument arrayArgument arg rest ++ flattenArguments arrayArgument rest := by
  cases arrayArgument <;> cases rest <;> simp [flattenArguments, flattenArgument]

mutual

theorem flattenExpression_straight : ∀ (expr : AstExpr R),
    ∀ item ∈ flattenExpression expr, item.isStraight
  | .number line value => by simp [flattenExpression, Item.isStraight, Opcode.isLocalJump]
  | .string line value => by simp [flattenExpression, Item.isStraight, Opcode.isLocalJump]
  | .identifier line name => by simp [flattenExpression, Item.isStraight, Opcode.isLocalJump]
  | .arrayAccess line name index => by
    simpa [flattenExpression, or_imp, forall_and, Item.isStraight, Opcode.isLocalJump] using
      flattenExpression_straight index
  | .mapAccess line name key => by
    simpa [flattenExpression, or_imp, forall_and, Item.isStraight, Opcode.isLocalJump] using
      flattenExpression_straight key
  | .unary line op operand => by
    have inner := flattenExpression_straight operand
    cases known : unaryOpcode op with
    | none => simpa [flattenExpression, known] using inner
    | some opcode =>
      have straight := unaryOpcode_straight known
      simpa [flattenExpression, known, or_imp, forall_and, Item.isStraight, straight] using inner
  | .binary line op left right => by
    have first := flattenExpression_straight left
    have second := flattenExpression_straight right
    cases known : binaryOpcode op with
    | none =>
      -- A unary operator between two operands is rejected by the compiler.
      simpa [flattenExpression, known, or_imp, forall_and, Item.isStraight, Item.isPlain] using
        ⟨first, second⟩
    | some opcode =>
      have straight := binaryOpcode_straight known
      simpa [flattenExpression, known, or_imp, forall_and, Item.isStraight, straight] using
        ⟨first, second⟩
  | .call line name args => by
    have inner := flattenArguments_straight (callShape name args.length).2 args
    cases empty : (callShape name args.length).1 <;>
      simpa [flattenExpression, empty, or_imp, forall_and, Item.isStraight, Item.isPlain,
        Opcode.isLocalJump] using inner

theorem flattenArguments_straight (arrayArgument : Option Text) : ∀ (args : List (AstExpr R)),
    ∀ item ∈ flattenArguments arrayArgument args, item.isStraight
  | [] => by simp [flattenArguments]
  | arg :: rest => by
    have value := flattenExpression_straight arg
    have others := flattenArguments_straight arrayArgument rest
    intro item member
    rw [flattenArguments_cons, List.mem_append] at member
    refine member.elim (fun first => ?_) (others item)
    cases arrayArgument with
    | none => exact value item first
    | some what =>
      cases rest with
      | nil =>
        simp only [flattenArgument, List.mem_singleton] at first
        rw [first]
        exact flattenArrayName_straight arg what
      | cons next tail => exact value item first

end

theorem flattenArguments_plain (arrayArgument : Option Text) (args : List (AstExpr R)) :
    ∀ item ∈ flattenArguments arrayArgument args, item.isPlain :=
  fun item member =>
    Item.isPlain_of_straight (flattenArguments_straight arrayArgument args item member)

/-- A context with the same labels, deferred jumps and function table. -/
def CompilerContext.SameTables (after before : CompilerContext R) : Prop :=
  after.labels = before.labels ∧ after.patches = before.patches ∧
    after.functions = before.functions

theorem addConstant_tables (ctx : CompilerContext R) (value : Constant R) :
    (addConstant ctx value).2.SameTables ctx := by
  unfold addConstant
  split <;> exact ⟨rfl, rfl, rfl⟩

theorem emitConstant_tables {value : Constant R} {line : Int}
    (emitted : emitConstant ctx opcode value line = .ok after) :
    after.SameTables ctx := by
  simp only [emitConstant] at emitted
  split at emitted
  · simp [CompilerContext.failSilently] at emitted
  · rw [← Except.ok.inj emitted]
    exact addConstant_tables ctx value

theorem assembleItem_plain {item : Item R} (plain : item.isPlain)
    (assembled : assembleItem item ctx = .ok after) : after.SameTables ctx := by
  cases item with
  | op opcode operand line => rw [← Except.ok.inj assembled]; exact ⟨rfl, rfl, rfl⟩
  | constant opcode value line => exact emitConstant_tables assembled
  | invoke name argCount line =>
    obtain ⟨form, _, emitted⟩ := assembleItem_invoke assembled
    cases source : form.operand with
    | immediate operand =>
      rw [source] at emitted
      rw [← Except.ok.inj emitted]
      exact ⟨rfl, rfl, rfl⟩
    | name name =>
      rw [source] at emitted
      exact emitConstant_tables emitted
  | checkCall name argCount => rw [assembleItem_checkCall assembled]; exact ⟨rfl, rfl, rfl⟩
  | pool value =>
    rw [← Except.ok.inj assembled]
    exact addConstant_tables ctx value
  | failure message => simp [assembleItem] at assembled
  | jump opcode label line => simp [Item.isPlain] at plain
  | label name line => simp [Item.isPlain] at plain
  | function name address paramNames => simp [Item.isPlain] at plain

theorem assemble_plain {items : List (Item R)} (plain : ∀ item ∈ items, item.isPlain)
    (assembled : assemble items ctx = .ok after) :
    after.SameTables ctx := by
  induction items generalizing ctx with
  | nil =>
    rw [← Except.ok.inj assembled]
    exact ⟨rfl, rfl, rfl⟩
  | cons item rest ih =>
    obtain ⟨middle, first, rest⟩ := assemble_cons_ok assembled
    have one := assembleItem_plain (plain item (by simp)) first
    have others := ih (fun item member => plain item (by simp [member])) rest
    exact ⟨others.1.trans one.1, others.2.1.trans one.2.1, others.2.2.trans one.2.2⟩

theorem compileArrayNameExpr_assembles (expr : AstExpr R) (what : Text)
    (ctx : CompilerContext R) :
    compileArrayNameExpr expr what ctx = assemble [flattenArrayName expr what] ctx := by
  rw [assemble_single]
  cases expr with
  | call line name args => cases args <;> rfl
  | _ => rfl

theorem callForm_shape {functions : List FunctionDef} {name : Text} {argCount : Nat}
    {form : CallForm} (known : callForm functions name argCount = .ok form) :
    callShape name argCount = (form.emptyFirst, form.arrayArgument) := by
  -- Only names outside the fixed ones are looked up, and their calls have the plain shape.
  unfold callShape
  unfold callForm at known ⊢
  cases builtin : namedBuiltin name argCount with
  | some result =>
    simp only [builtin] at known ⊢
    rw [known]
  | none =>
    simp only [builtin, List.findIdx?_nil] at known ⊢
    cases found : functions.findIdx? fun function => function.name == name with
    | none =>
      simp only [found] at known
      rw [known]
    | some index =>
      simp only [found] at known
      split_ifs at known ⊢
      all_goals simp only [Except.ok.injEq] at known; rw [← known]

mutual

theorem compileExpression_assembles : ∀ (expr : AstExpr R) (ctx : CompilerContext R),
    compileExpression expr ctx = assemble (flattenExpression expr) ctx
  | .number line value, ctx => by
    rw [flattenExpression, assemble_single, compileExpression, assembleItem]
  | .string line value, ctx => by
    rw [flattenExpression, assemble_single, compileExpression, assembleItem]
  | .identifier line name, ctx => by
    rw [flattenExpression, assemble_single, compileExpression, assembleItem]
  | .arrayAccess line name index, ctx => by
    rw [flattenExpression, assemble_append, compileExpression, compileExpression_assembles index]
    exact bind_congr_ok fun after _ => by rw [assemble_single, assembleItem]
  | .mapAccess line name key, ctx => by
    rw [flattenExpression, assemble_append, compileExpression, compileExpression_assembles key]
    exact bind_congr_ok fun after _ => by rw [assemble_single, assembleItem]
  | .unary line op operand, ctx => by
    rw [flattenExpression, assemble_append, compileExpression,
      compileExpression_assembles operand]
    refine bind_congr_ok fun after _ => ?_
    cases unaryOpcode op with
    | none => rfl
    | some opcode => rw [assemble_single, assembleItem]
  | .binary line op left right, ctx => by
    rw [flattenExpression, assemble_append, assemble_append, compileExpression,
      compileExpression_assembles left, bind_assoc]
    refine bind_congr_ok fun middle _ => ?_
    rw [compileExpression_assembles right]
    refine bind_congr_ok fun after _ => ?_
    cases binaryOpcode op with
    | none => rfl
    | some opcode => rw [assemble_single, assembleItem]
  | .call line name args, ctx => by
    rw [flattenExpression, compileExpression, List.append_assoc, List.append_assoc,
      List.singleton_append, assemble, assembleItem]
    cases known : callForm ctx.functions name args.length with
    | error message => rfl
    | ok form =>
      rw [callForm_shape known]
      -- The empty string, the arguments and the instruction itself follow one another.
      have prepared : (if form.emptyFirst = true then
            emitConstant ctx .pushConst (.string []) line else .ok ctx) =
          assemble (if form.emptyFirst = true then
            [Item.constant .pushConst (.string []) line] else []) ctx := by
        split
        · rw [assemble_single, assembleItem]
        · rfl
      have plainFirst : ∀ item ∈ (if form.emptyFirst = true then
          [Item.constant .pushConst (.string []) line] else [] : List (Item R)),
          item.isPlain := by
        split <;> simp [Item.isPlain]
      simp only [prepared]
      refine Eq.trans ?_ (assemble_append _ _ ctx).symm
      refine bind_congr_ok fun middle pushed => ?_
      rw [assemble_append, compileArguments_assembles form.arrayArgument args]
      refine bind_congr_ok fun after argued => ?_
      have functions : after.functions = ctx.functions :=
        (assemble_plain (flattenArguments_plain _ args) argued).2.2.trans
          (assemble_plain plainFirst pushed).2.2
      rw [assemble_single, assembleItem, functions, known]

theorem compileArguments_assembles (arrayArgument : Option Text) :
    ∀ (args : List (AstExpr R)) (ctx : CompilerContext R),
      compileArguments arrayArgument args ctx =
        assemble (flattenArguments arrayArgument args) ctx
  | [], ctx => by rw [compileArguments, flattenArguments, assemble]
  | arg :: rest, ctx => by
    have value := compileExpression_assembles arg ctx
    have others := compileArguments_assembles arrayArgument rest
    rw [flattenArguments_cons, assemble_append]
    cases arrayArgument with
    | none =>
      simp only [compileArguments, flattenArgument, value]
      exact bind_congr_ok fun after _ => others after
    | some what =>
      cases rest with
      | nil =>
        simp only [compileArguments, flattenArgument, compileArrayNameExpr_assembles]
        exact bind_congr_ok fun after _ => others after
      | cons next tail =>
        simp only [compileArguments, flattenArgument, value]
        exact bind_congr_ok fun after _ => others after

end

end Expressions

section Statements

theorem flattenVarName_straight (expr : AstExpr R) (what : Text) :
    ∀ item ∈ flattenVarName expr what, item.isStraight := by
  unfold flattenVarName
  split <;> simp [Item.isStraight, Item.isPlain, Opcode.isLocalJump]

theorem flattenOperand_straight (line : Int) (operand : Operand R) :
    ∀ item ∈ flattenOperand line operand, item.isStraight := by
  cases operand with
  | expression expr => exact flattenExpression_straight expr
  | constant value => simp [flattenOperand, Item.isStraight, Opcode.isLocalJump]
  | variableName expr what => exact flattenVarName_straight expr what
  | pooled value => simp [flattenOperand, Item.isStraight, Item.isPlain]

theorem commandForm_straight (command : AstCommand R) :
    (commandForm command).opcode.isLocalJump = false := by
  cases command with
  | run file => cases file <;> rfl
  | writefile path content truncate => cases truncate <;> rfl
  | _ => rfl

theorem flattenCommand_straight (line : Int) (command : AstCommand R) :
    ∀ item ∈ flattenCommand line command, item.isStraight := by
  intro item member
  rcases List.mem_append.mp member with operand | last
  · obtain ⟨source, _, inside⟩ := List.mem_flatMap.mp operand
    exact flattenOperand_straight line source item inside
  · -- The last item is the instruction of the command itself.
    have straight := commandForm_straight command
    rw [List.mem_singleton] at last
    rw [last]
    unfold flattenSource
    split <;> simp [Item.isStraight, straight]

theorem compileVarNameExpr_assembles (expr : AstExpr R) (what : Text) (ctx : CompilerContext R) :
    compileVarNameExpr expr what ctx = assemble (flattenVarName expr what) ctx := by
  cases expr with
  | identifier line name =>
    rw [compileVarNameExpr, flattenVarName, assemble_single]
    rfl
  | string line value =>
    rw [compileVarNameExpr, flattenVarName, compileExpression_assembles, flattenExpression]
  | _ =>
    -- Nothing else names a variable.
    simp only [compileVarNameExpr, flattenVarName, assemble_single]
    rfl

theorem compileOperand_assembles (line : Int) (operand : Operand R) (ctx : CompilerContext R) :
    compileOperand line operand ctx = assemble (flattenOperand line operand) ctx := by
  cases operand with
  | expression expr => exact compileExpression_assembles expr ctx
  | constant value => rw [flattenOperand, assemble_single, compileOperand, assembleItem]
  | variableName expr what => exact compileVarNameExpr_assembles expr what ctx
  | pooled value => rw [flattenOperand, assemble_single, compileOperand, assembleItem]

theorem compileOperands_assembles (line : Int) (operands : List (Operand R))
    (ctx : CompilerContext R) :
    compileOperands line operands ctx =
      assemble (operands.flatMap (flattenOperand line)) ctx := by
  induction operands generalizing ctx with
  | nil => rfl
  | cons operand rest ih =>
    rw [List.flatMap_cons, assemble_append, compileOperands, compileOperand_assembles]
    exact bind_congr_ok fun after _ => ih after

theorem emitSource_assembles (opcode : Opcode) (operand : OperandSource) (line : Int)
    (ctx : CompilerContext R) :
    emitSource ctx opcode operand line = assemble [flattenSource opcode operand line] ctx := by
  rw [assemble_single]
  cases operand <;> rfl

theorem compileCommand_assembles (line : Int) (command : AstCommand R)
    (ctx : CompilerContext R) :
    compileCommand line command ctx = assemble (flattenCommand line command) ctx := by
  rw [flattenCommand, assemble_append, compileCommand, compileOperands_assembles]
  exact bind_congr_ok fun after _ => emitSource_assembles _ _ line after

theorem compileExpressions_assembles (exprs : List (AstExpr R)) (ctx : CompilerContext R) :
    compileExpressions exprs ctx = assemble (exprs.flatMap flattenExpression) ctx := by
  induction exprs generalizing ctx with
  | nil => rfl
  | cons expr rest ih =>
    rw [List.flatMap_cons, assemble_append, compileExpressions, compileExpression_assembles]
    exact bind_congr_ok fun after _ => ih after

theorem implicitReturn_assembles {line : Int} {items : List (Item R)}
    {ctx after : CompilerContext R} (start : lastOpcode ctx ≠ some .return)
    (assembled : assemble items ctx = .ok after) :
    implicitReturn line after = assemble (flattenImplicitReturn line items) after := by
  have last := assemble_lastOpcode assembled (decide_eq_false start)
  unfold implicitReturn flattenImplicitReturn
  by_cases returns : lastOpcode after = some .return
  · rw [if_pos returns, if_pos (by rw [← last]; exact decide_eq_true returns)]
    rfl
  · rw [if_neg returns, if_neg (by rw [← last]; simpa using returns)]
    rw [assemble, assembleItem]
    exact bind_congr_ok fun pushed _ => by rw [assemble_single, assembleItem]

theorem assemble_patched {ctx : CompilerContext R} {opcode : Opcode} {line : Int}
    {items : List (Item R)} {known : Nat} (target : CompilerContext R → Nat)
    (next : CompilerContext R → Compiled R)
    (agree : ∀ after, assemble items (emit ctx opcode 0 line) = .ok after →
      target after = known) :
    (assemble items (emit ctx opcode 0 line) >>= fun after =>
        next (patchOperand after ctx.instructions.length (target after))) =
      assemble (.op opcode known line :: items) ctx >>= next := by
  rw [← assemble_placeholder]
  cases assembled : assemble items (emit ctx opcode 0 line) with
  | error failure => rfl
  | ok after =>
    show next _ = next _
    rw [agree after assembled]

theorem emit_length (ctx : CompilerContext R) (opcode : Opcode) (operand : Nat) (line : Int) :
    (emit ctx opcode operand line).instructions.length = ctx.instructions.length + 1 := by
  simp [emit]

theorem bind_ok (step : Compiled R) : (step >>= fun after => .ok after) = step := by
  cases step <;> rfl

mutual

/-- Compiling a statement assembles its items. -/
theorem compileStatement_assembles : ∀ (stmt : AstStmt R) (ctx : CompilerContext R),
    compileStatement stmt ctx = assemble (flattenStatement ctx.instructions.length stmt) ctx
  | .empty line, ctx => by rw [flattenStatement, compileStatement, assemble]
  | .rem line, ctx => by rw [flattenStatement, compileStatement, assemble]
  | .label line name, ctx => by
    rw [flattenStatement, compileStatement, assemble_single, assembleItem]
  | .functionDef line name paramNames body, ctx => by
    have recurse := compileStatements_assembles body
    rw [flattenStatement, compileStatement]
    generalize shape : flattenStatements (ctx.instructions.length + 1) body = items
    simp only [List.cons_append, List.nil_append]
    rw [← bind_ok (assemble _ ctx), ← assemble_patched
      fun after => after.instructions.length]
    · -- The name is registered before the body is compiled.
      simp only [assemble, assembleItem, emit_length]
      cases registered : registerFunction (emit ctx .jump 0 line) name
          (ctx.instructions.length + 1) paramNames with
      | none => rfl
      | some known =>
        have same : known.instructions = (emit ctx .jump 0 line).instructions := by
          unfold registerFunction at registered
          split at registered
          · simp at registered
          · rw [← Option.some.inj registered]
        have address : known.instructions.length = ctx.instructions.length + 1 := by
          rw [same, emit_length]
        have start : lastOpcode known ≠ some .return := by
          have last := lastOpcode_emit ctx .jump 0 line
          simp only [lastOpcode, same] at last ⊢
          simp [last]
        simp only [recurse, address, shape]
        show _ = assemble (items ++ _) known >>= _
        rw [assemble_append, bind_assoc]
        refine bind_congr_ok fun after assembled => ?_
        rw [implicitReturn_assembles start assembled]
    · intro after assembled
      have grown := assemble_length assembled
      simp only [emit_length, codeSize_append, codeSize_cons, Item.size] at grown
      omega
  | .goto line label, ctx => by
    rw [flattenStatement, compileStatement, assemble_single, assembleItem]
  | .gosub line label params, ctx => by
    rw [flattenStatement, compileStatement, assemble_append, compileExpressions_assembles]
    refine bind_congr_ok fun after _ => ?_
    rw [assemble, assembleItem]
    exact (assemble_single (.jump .call label line) _).symm
  | .return line (some value), ctx => by
    rw [flattenStatement, compileStatement, assemble_append, compileExpression_assembles]
    exact bind_congr_ok fun after _ => by rw [assemble_single, assembleItem]
  | .return line none, ctx => by
    rw [flattenStatement, compileStatement, assemble_single, assembleItem]
  | .stop line, ctx => by
    rw [flattenStatement, compileStatement, assemble_single, assembleItem]
  | .if line condition thenBranch [], ctx => by
    rw [flattenStatement, compileStatement, compileExpression_assembles, List.append_assoc,
      assemble_append]
    refine bind_congr_ok fun tested test => ?_
    have here := assemble_length test
    rw [List.singleton_append, ← here]
    have start : tested.instructions.length + 1 =
        (emit tested .jumpIfFalse 0 line).instructions.length := by simp [emit]
    rw [start]
    simp only [compileStatements_assembles thenBranch]
    rw [← bind_ok (assemble (_ :: _) tested)]
    refine assemble_patched _ .ok fun after assembled => ?_
    rw [assemble_length assembled]
  | .if line condition thenBranch (first :: rest), ctx => by
    have recurse := compileStatements_assembles thenBranch
    have recurseElse := compileStatements_assembles (first :: rest)
    rw [flattenStatement, compileStatement, compileExpression_assembles]
    simp only [List.append_assoc]
    rw [assemble_append]
    refine bind_congr_ok fun tested test => ?_
    have here := assemble_length test
    rw [List.singleton_append, ← here]
    have start : tested.instructions.length + 1 =
        (emit tested .jumpIfFalse 0 line).instructions.length := (emit_length _ _ _ _).symm
    simp only [recurse, ← start]
    generalize flattenStatements (tested.instructions.length + 1) thenBranch = items
    rw [← List.cons_append, assemble_append, ← assemble_patched
      fun after => after.instructions.length + 1]
    · refine bind_congr_ok fun after assembled => ?_
      have grown := assemble_length assembled
      rw [emit_length] at grown
      have inside : tested.instructions.length < after.instructions.length := by omega
      -- The patch of the first jump is moved before the second one.
      rw [emit_length, ← emit_patchOperand inside]
      generalize jumped : patchOperand after tested.instructions.length
        (after.instructions.length + 1) = patched
      have address : after.instructions.length = patched.instructions.length := by
        rw [← jumped, patchOperand_length]
      rw [recurseElse, address, List.singleton_append, emit_length, ← grown, address,
        ← bind_ok (assemble (_ :: _) patched)]
      refine assemble_patched _ .ok fun other elseAssembled => ?_
      rw [assemble_length elseAssembled, emit_length]
    · intro after assembled
      have grown := assemble_length assembled
      rw [emit_length] at grown
      omega
  | .for line variableName start finish step body, ctx => by
    have recurse := compileStatements_assembles body
    rw [flattenStatement, compileStatement, compileExpression_assembles]
    simp only [List.append_assoc, List.cons_append, List.nil_append, codeSize_append,
      codeSize_cons, Item.size, codeSize_nil]
    rw [assemble_append]
    refine bind_congr_ok fun started startCode => ?_
    have startLength := assemble_length startCode
    rw [assemble, assembleItem]
    refine bind_congr_ok fun stored storeCode => ?_
    have storeLength := emitConstant_length storeCode
    rw [assemble, assembleItem]
    refine bind_congr_ok fun loaded loadCode => ?_
    have loadLength := emitConstant_length loadCode
    rw [assemble_append, compileExpression_assembles]
    refine bind_congr_ok fun bounded boundCode => ?_
    have boundLength := assemble_length boundCode
    rw [assemble_append, compileOperand_assembles]
    refine bind_congr_ok fun stepped stepCode => ?_
    have stepLength := assemble_length stepCode
    rw [assemble, assembleItem]
    refine bind_congr_ok fun entered enterCode => ?_
    have enterLength := emitConstant_length enterCode
    have loopStart : ctx.instructions.length + (codeSize (flattenExpression start) +
        (1 + (1 + (codeSize (flattenExpression finish) +
          (codeSize (flattenOperand line (expressionOr step (numberConstant 1))) +
            (1 + 0)))))) = entered.instructions.length := by omega
    have bodyStart : (emit entered .forCheck 0 line).instructions.length =
        entered.instructions.length + 1 := emit_length _ _ _ _
    rw [loopStart]
    simp only [recurse, bodyStart]
    generalize flattenStatements (entered.instructions.length + 1) body = items
    rw [← bind_ok (assemble (_ :: _) entered), ← assemble_patched
      fun after => after.instructions.length]
    · rw [assemble_append, bind_assoc]
      refine bind_congr_ok fun after assembled => ?_
      rw [assemble, assembleItem, bind_assoc]
      refine bind_congr_ok fun incremented increment => ?_
      rw [assemble_single, assembleItem]
      rfl
    · intro after assembled
      have grown := assemble_length assembled
      simp only [emit_length, codeSize_append, codeSize_cons, Item.size, codeSize_nil] at grown
      omega
  | .while line condition body, ctx => by
    have recurse := compileStatements_assembles body
    rw [flattenStatement, compileStatement, compileExpression_assembles]
    simp only [List.append_assoc]
    rw [assemble_append]
    refine bind_congr_ok fun tested test => ?_
    have here := assemble_length test
    have start : (emit tested .whileCheck 0 line).instructions.length =
        tested.instructions.length + 1 := emit_length _ _ _ _
    rw [List.singleton_append, ← here]
    simp only [recurse, start]
    generalize flattenStatements (tested.instructions.length + 1) body = items
    rw [← bind_ok (assemble (_ :: _) tested), ← assemble_patched
      fun after => after.instructions.length]
    · rw [assemble_append, bind_assoc]
      refine bind_congr_ok fun after assembled => ?_
      rw [assemble_single, assembleItem]
      rfl
    · intro after assembled
      have grown := assemble_length assembled
      simp only [emit_length, codeSize_append, codeSize_cons, Item.size, codeSize_nil] at grown
      omega
  | .command line command, ctx => by
    rw [flattenStatement, compileStatement, compileCommand_assembles]

theorem compileStatements_assembles : ∀ (stmts : List (AstStmt R)) (ctx : CompilerContext R),
    compileStatements stmts ctx = assemble (flattenStatements ctx.instructions.length stmts) ctx
  | [], ctx => by rw [flattenStatements, compileStatements, assemble]
  | stmt :: rest, ctx => by
    rw [flattenStatements, compileStatements, assemble_append, compileStatement_assembles stmt]
    refine bind_congr_ok fun after assembled => ?_
    rw [← assemble_length assembled]
    exact compileStatements_assembles rest after

end

theorem compileProgram_assembles (program : List (AstStmt R)) (functions : List FunctionDef) :
    compileProgram program (emptyContext functions) =
      assemble (flattenProgram program) (emptyContext functions) := by
  rw [flattenProgram, assemble_append, compileProgram, compileStatements_assembles]
  exact bind_congr_ok fun after _ => (assemble_single (.op .halt 0 (-1)) after).symm

end Statements

end C64Stream
