import C64Stream.Script.Evaluation
import C64Stream.Script.PokeLaws
import C64Stream.Script.Stepping

/-! Compiled code does what the tree of a script means, from any place and on any stack. -/

namespace C64Stream

variable {R World : Type} [ScriptNumber R]

section Places

/-- Where a script stands, with its variables, its values in waiting and its open loops. -/
structure Stands (runtime : Runtime R World) (ip : Nat) (vars : Variables R)
    (stack : List (Value R)) (forStack : List (ForState R)) : Prop where
  ip : runtime.ip = ip
  vars : runtime.globalVars = vars
  stack : runtime.stack = stack
  forStack : runtime.forStack = forStack
  scopes : runtime.scopeStack = []
  awake : runtime.flags.shouldStop = false
  small : runtime.stack.length ≤ c64scriptMaxStackDepth

/-- Where a piece of code ends, and how many instructions it executes at least if it goes on. -/
structure Goal (R : Type) where
  ip : Nat
  stack : List (Value R)
  forStack : List (ForState R)
  rounds : Nat

/-- The code does what was evaluated. -/
def Outcome.Met (host : Host R World) (code : Code R) (runtime : Runtime R World)
    (goal : Goal R) : Outcome R → Prop
  | .unfinished =>
    ∃ count after, executeSpan host code count runtime = .running after ∧
      goal.rounds ≤ count ∧ after.flags.shouldStop = false
  | .fine vars =>
    ∃ count after, executeSpan host code count runtime = .running after ∧
      Stands after goal.ip vars goal.stack goal.forStack
  | .failed vars message =>
    ∃ count after, executeSpan host code count runtime = .failed after ∧
      after.globalVars = vars ∧ after.errorMsg = message.take 1023 ∧
        after.flags.shouldStop = false

variable {host : Host R World} {code : Code R} {runtime : Runtime R World} {goal : Goal R}
  {outcome : Outcome R} {ip : Nat} {vars : Variables R} {stack : List (Value R)}
  {forStack : List (ForState R)} {instruction : Instruction}

theorem Outcome.Met.step {after : Runtime R World} {skip : Bool}
    (here : code.bytecode[runtime.ip]? = some instruction)
    (executed : executeInstruction host code instruction (beginInstruction instruction runtime) =
      (some skip, after))
    (met : outcome.Met host code (updateLines code instruction.sourceLine skip after) goal) :
    outcome.Met host code runtime { goal with rounds := goal.rounds + 1 } := by
  have dispatched : ∀ count, executeSpan host code (count + 1) runtime =
      executeSpan host code count (updateLines code instruction.sourceLine skip after) := by
    intro count
    rw [executeSpan, here]
    simp only [vmDispatch, executed]
  cases outcome with
  | unfinished =>
    obtain ⟨count, last, ran, enough, awake⟩ := met
    exact ⟨count + 1, last, (dispatched count).trans ran, Nat.succ_le_succ enough, awake⟩
  | fine vars =>
    obtain ⟨count, last, ran, stands⟩ := met
    exact ⟨count + 1, last, (dispatched count).trans ran, stands⟩
  | failed vars message =>
    obtain ⟨count, last, ran, complaint⟩ := met
    exact ⟨count + 1, last, (dispatched count).trans ran, complaint⟩

theorem Outcome.Met.weaken {rounds : Nat} (fewer : rounds ≤ goal.rounds)
    (met : outcome.Met host code runtime goal) :
    outcome.Met host code runtime { goal with rounds } := by
  cases outcome with
  | unfinished =>
    obtain ⟨count, last, ran, enough, awake⟩ := met
    exact ⟨count, last, ran, fewer.trans enough, awake⟩
  | _ => exact met

theorem Outcome.Met.behind {after : Runtime R World} {skip : Bool}
    (here : code.bytecode[runtime.ip]? = some instruction)
    (executed : executeInstruction host code instruction (beginInstruction instruction runtime) =
      (some skip, after))
    (met : outcome.Met host code (updateLines code instruction.sourceLine skip after) goal) :
    outcome.Met host code runtime goal := by
  have fewer := Outcome.Met.weaken (Nat.le_succ goal.rounds) (met.step here executed)
  exact fewer

theorem Outcome.Met.fails {after : Runtime R World} {message : Text}
    (here : code.bytecode[runtime.ip]? = some instruction)
    (executed : executeInstruction host code instruction (beginInstruction instruction runtime) =
      (none, after))
    (same : after.globalVars = vars) (complaint : after.errorMsg = message.take 1023)
    (awake : after.flags.shouldStop = false) :
    (Outcome.failed vars message).Met host code runtime goal := by
  refine ⟨1, after, ?_, same, complaint, awake⟩
  rw [executeSpan, here]
  simp only [vmDispatch, executed]

theorem Outcome.Met.andThen {middle : Goal R} {next : Variables R → Outcome R}
    (met : outcome.Met host code runtime middle) (enough : goal.rounds ≤ middle.rounds)
    (follows : ∀ {vars : Variables R} {after : Runtime R World},
      Stands after middle.ip vars middle.stack middle.forStack →
        (next vars).Met host code after goal) :
    (outcome.andThen next).Met host code runtime goal := by
  cases outcome with
  | unfinished =>
    obtain ⟨count, last, ran, many, awake⟩ := met
    exact ⟨count, last, ran, enough.trans many, awake⟩
  | failed vars message => exact met
  | fine vars =>
    obtain ⟨first, between, ran, stands⟩ := met
    have joined : ∀ count, executeSpan host code (first + count) runtime =
        executeSpan host code count between := by
      intro count
      rw [executeSpan_add, ran]
    have later := follows stands
    rw [Outcome.andThen]
    cases reached : next vars with
    | unfinished =>
      rw [reached] at later
      obtain ⟨count, last, rest, many, awake⟩ := later
      exact ⟨first + count, last, (joined count).trans rest, by omega, awake⟩
    | fine others =>
      rw [reached] at later
      obtain ⟨count, last, rest, stands⟩ := later
      exact ⟨first + count, last, (joined count).trans rest, stands⟩
    | failed others message =>
      rw [reached] at later
      obtain ⟨count, last, rest, complaint⟩ := later
      exact ⟨first + count, last, (joined count).trans rest, complaint⟩

omit [ScriptNumber R] in
theorem attempt_bind {α β : Type} (vars : Variables R) (first : Except Text α)
    (second : α → Except Text β) (next : β → Outcome R) :
    attempt vars (first >>= second) next =
      attempt vars first fun value => attempt vars (second value) next := by
  cases first <;> rfl

end Places

section Instructions

variable {host : Host R World} {code : Code R} {runtime : Runtime R World} {goal : Goal R}
  {ip : Nat} {vars : Variables R} {stack : List (Value R)} {forStack : List (ForState R)}
  {instruction : Instruction}

/-- A program comes to a result that leaves other variables and another stack, or it fails with
the complaint of the result. -/
def Computes {α : Type} (program : Program R World Unit) (vars : Variables R)
    (stack : List (Value R)) (result : Except Text α)
    (leaves : α → Variables R × List (Value R)) : Prop :=
  ∀ begun : Runtime R World, begun.globalVars = vars → begun.stack = stack →
    begun.scopeStack = [] →
    match result with
    | .ok value =>
      program.run handleOp begun =
        (some (), { begun with globalVars := (leaves value).1, stack := (leaves value).2 })
    | .error message =>
      ∃ after, program.run handleOp begun = (none, after) ∧ after.globalVars = vars ∧
        after.errorMsg = message.take 1023

theorem Computes.met {α : Type} {program : Program R World Unit} {result : Except Text α}
    {leaves : α → Variables R × List (Value R)} {next : α → Outcome R}
    (computes : Computes program vars stack result leaves)
    (stands : Stands runtime ip vars stack forStack)
    (here : code.bytecode[ip]? = some instruction)
    (executes : executeInstruction host code instruction (beginInstruction instruction runtime) =
      andThen program (beginInstruction instruction runtime) fun _ after => (some false, after))
    (small : ∀ value, result = .ok value →
      (leaves value).2.length ≤ c64scriptMaxStackDepth)
    (follows : ∀ {value : α} {after : Runtime R World},
      Stands after (ip + 1) (leaves value).1 (leaves value).2 forStack →
        (next value).Met host code after goal) :
    (attempt vars result next).Met host code runtime goal := by
  obtain ⟨rfl, rfl, rfl, rfl, scopes, awake, _⟩ := stands
  have ran := computes (beginInstruction instruction runtime) rfl rfl scopes
  have watched := andThen_watched program (beginInstruction instruction runtime)
    fun (_ : Unit) after => (rfl : ((some false, after) : Executed R World).2.watched = _)
  cases result with
  | error message =>
    obtain ⟨after, failed, same, complaint⟩ := ran
    rw [andThen, failed] at watched
    refine .fails here ?_ same complaint ((congrArg (·.1.shouldStop) watched).trans awake)
    rw [executes, andThen, failed]
  | ok value =>
    have executed : executeInstruction host code instruction
        (beginInstruction instruction runtime) =
          (some false,
            { beginInstruction instruction runtime with
              globalVars := (leaves value).1
              stack := (leaves value).2 }) := by
      rw [executes, andThen, ran]
    exact .behind here executed (follows ⟨rfl, rfl, rfl, rfl, scopes, awake, small value rfl⟩)

theorem getVar_global {machine : Machine R} (scopes : machine.scopeStack = []) (name : Text) :
    getVar machine name = readVariable machine.globalVars name := by
  rw [getVar, heldValue, scopes, readVariable]

theorem setVar_global {machine : Machine R} (scopes : machine.scopeStack = []) (name : Text)
    (value : Value R) :
    setVar machine name value =
      (writeVariable machine.globalVars name value).map fun vars =>
        { machine with globalVars := vars } := by
  simp only [setVar, writeVariable, scopes]
  cases coerceForName (normalizeIdentifier name) value with
  | error message => rfl
  | ok stored =>
    simp only [Bind.bind, Except.bind]
    split_ifs <;> rfl

theorem push_computes (value : Value R) :
    Computes (push value : Program R World Unit) vars stack
      (keep (c64scriptMaxStackDepth - stack.length) value) fun value => (vars, value :: stack) := by
  intro begun same held _
  subst same held
  unfold keep
  by_cases full : c64scriptMaxStackDepth ≤ begun.stack.length
  · rw [if_pos (by omega)]
    exact ⟨_, run_push_full value begun full, rfl, rfl⟩
  · rw [if_neg (by omega)]
    exact run_push value begun (by omega)

theorem assign_computes (name : Text) (value : Value R) :
    Computes (assign name value : Program R World Unit) vars stack (writeVariable vars name value)
      fun vars => (vars, stack) := by
  intro begun same held scopes
  subst same held
  have written := setVar_global scopes name value
  cases result : writeVariable begun.globalVars name value with
  | error message =>
    rw [result] at written
    refine ⟨begun.withError message, ?_, rfl, rfl⟩
    simp [assign, trySetVar, failed, Effectful.bind, Effectful.run, handleOp, written,
      Except.map]
  | ok others =>
    rw [result] at written
    simp [assign, trySetVar, Effectful.bind, Effectful.run, handleOp, written, Except.map]

theorem pop_computes {α : Type} {value : Value R} {next : Value R → Program R World Unit}
    {result : Except Text α} {leaves : α → Variables R × List (Value R)}
    (computes : Computes (next value) vars stack result leaves) :
    Computes (pop >>= next) vars (value :: stack) result leaves := by
  intro begun same held scopes
  have popped : (pop >>= next).run handleOp begun =
      (next value).run handleOp { begun with stack } := by
    simp [pop, Effectful.bind, Effectful.run, handleOp, held]
  have ran := computes { begun with stack } same rfl scopes
  rw [popped]
  exact ran

theorem orFail_computes {α β : Type} {checked : Except Text β}
    {next : β → Program R World Unit} {result : β → Except Text α}
    {leaves : α → Variables R × List (Value R)}
    (computes : ∀ value, Computes (next value) vars stack (result value) leaves) :
    Computes (orFail checked >>= next) vars stack (checked >>= result) leaves := by
  cases checked with
  | error message =>
    intro begun same _ _
    exact ⟨begun.withError message, rfl, same, rfl⟩
  | ok value => exact computes value

theorem readVar_computes {α : Type} {name : Text} {next : Value R → Program R World Unit}
    {result : Except Text α} {leaves : α → Variables R × List (Value R)}
    (computes : Computes (next (readVariable vars name)) vars stack result leaves) :
    Computes (readVar name >>= next) vars stack result leaves := by
  intro begun same held scopes
  have ran := computes begun same held scopes
  have read : (readVar name >>= next).run handleOp begun =
      (next (readVariable vars name)).run handleOp begun := by
    simp [readVar, Effectful.bind, Effectful.run, handleOp, getVar_global scopes, same]
  rw [read]
  exact ran

variable (free : stack.length < c64scriptMaxStackDepth)
include free

theorem push_computes_ok (value : Value R) :
    Computes (push value : Program R World Unit) vars stack (.ok value) fun value =>
      (vars, value :: stack) := by
  have pushed := @push_computes R World _ vars stack value
  rwa [keep, if_neg (by omega)] at pushed

theorem unary_computes (operator : Value R → Except Text (Value R)) (a : Value R) :
    Computes (unaryInstruction operator : Program R World Unit) vars (a :: stack) (operator a)
      fun value => (vars, value :: stack) := by
  refine pop_computes ?_
  have pushed : Computes (orFail (operator a) >>= push : Program R World Unit) vars stack
      (operator a >>= Except.ok) fun value => (vars, value :: stack) :=
    orFail_computes fun value => push_computes_ok free value
  rwa [show (operator a >>= Except.ok) = operator a by cases operator a <;> rfl] at pushed

theorem binary_computes (operator : Value R → Value R → Except Text (Value R)) (a b : Value R) :
    Computes (binaryInstruction operator : Program R World Unit) vars (b :: a :: stack)
      (operator a b) fun value => (vars, value :: stack) := by
  refine pop_computes (pop_computes ?_)
  have pushed : Computes (orFail (operator a b) >>= push : Program R World Unit) vars stack
      (operator a b >>= Except.ok) fun value => (vars, value :: stack) :=
    orFail_computes fun value => push_computes_ok free value
  rwa [show (operator a b >>= Except.ok) = operator a b by cases operator a b <;> rfl] at pushed

end Instructions

section Expressions

variable {host : Host R World} {code : Code R} {goal : Goal R} {name : Text} {index : Nat}

theorem placed_constant (constants : code.constants.length ≤ operandBound) {ip : Nat}
    {opcode : Opcode} {value : Constant R} {line : Int}
    (placed : placedAt code.bytecode code.constants ip (.constant opcode value line)) :
    ∃ index : Nat, code.constants[index]? = some value ∧
      code.bytecode[ip]? = some ⟨opcode, index, line⟩ := by
  obtain ⟨index, pooled, here⟩ := placed
  have inside := (List.getElem?_eq_some_iff.mp pooled).1
  rw [Nat.mod_eq_of_lt (by omega)] at here
  exact ⟨index, pooled, here⟩

theorem pushConst_executes {value : Constant R} (pooled : code.constants[index]? = some value)
    (line : Int) (begun : Runtime R World) :
    executeInstruction host code ⟨.pushConst, index, line⟩ begun =
      andThen (push value.toValue) begun fun _ after => (some false, after) := by
  change andThen (pushConst code index) begun _ = _
  rw [pushConst, pooled]

theorem pushVar_executes (pooled : code.constants[index]? = some (.string name)) (line : Int)
    (begun : Runtime R World) :
    executeInstruction host code ⟨.pushVar, index, line⟩ begun =
      andThen (readVar name >>= push) begun fun _ after => (some false, after) := by
  change andThen (pushVar code index) begun _ = _
  rw [pushVar, constantName, pooled]
  rfl

theorem popVar_executes (pooled : code.constants[index]? = some (.string name)) (line : Int)
    (begun : Runtime R World) :
    executeInstruction host code ⟨.popVar, index, line⟩ begun =
      andThen (pop >>= assign name) begun fun _ after => (some false, after) := by
  change andThen (popVar code index) begun _ = _
  rw [popVar, constantName, pooled]
  rfl

theorem unaryOpcode_executes {op : AstOperator} {opcode : Opcode}
    (known : unaryOpcode op = some opcode) (line : Int) (begun : Runtime R World) :
    executeInstruction host code ⟨opcode, 0, line⟩ begun =
      andThen (unaryInstruction (unaryOperation op)) begun fun _ after => (some false, after) := by
  cases op <;> cases known <;> rfl

theorem binaryOpcode_executes {op : AstOperator}
    {operation : Value R → Value R → Except Text (Value R)}
    (known : binaryOperation op = some operation) :
    ∃ opcode, binaryOpcode op = some opcode ∧ ∀ line (begun : Runtime R World),
      executeInstruction host code ⟨opcode, 0, line⟩ begun =
        andThen (binaryInstruction operation) begun fun _ after => (some false, after) := by
  cases op <;> cases known <;> exact ⟨_, rfl, fun _ _ => rfl⟩

omit [ScriptNumber R] in
theorem keep_room {stack : List (Value R)} {value kept : Value R}
    (result : keep (c64scriptMaxStackDepth - stack.length) value = .ok kept) :
    (kept :: stack).length ≤ c64scriptMaxStackDepth := by
  unfold keep at result
  split_ifs at result with full
  rw [List.length_cons]
  omega

/-- The code of an expression comes to its value, or fails as its evaluation does. -/
theorem expression_met (constants : code.constants.length ≤ operandBound) :
    ∀ (expr : AstExpr R) {runtime : Runtime R World} {ip : Nat} {vars : Variables R}
      {stack : List (Value R)} {forStack : List (ForState R)} {next : Value R → Outcome R},
      expr.isCore = true → Stands runtime ip vars stack forStack →
      Placed code.bytecode code.constants ip (flattenExpression expr) →
      (∀ {value : Value R} {after : Runtime R World},
        Stands after (ip + codeSize (flattenExpression expr)) vars (value :: stack) forStack →
          (next value).Met host code after goal) →
      (attempt vars (evaluateExpression vars (c64scriptMaxStackDepth - stack.length) expr)
        next).Met host code runtime goal
  | .number line value, runtime, ip, vars, stack, forStack, next, _, stands, placed, follows => by
    obtain ⟨index, pooled, here⟩ := placed_constant constants placed.1
    exact (push_computes (Value.number value.val)).met stands here
      (pushConst_executes pooled line _) (fun _ => keep_room) follows
  | .string line value, runtime, ip, vars, stack, forStack, next, _, stands, placed, follows => by
    obtain ⟨index, pooled, here⟩ := placed_constant constants placed.1
    exact (push_computes (Value.string value)).met stands here
      (pushConst_executes pooled line _) (fun _ => keep_room) follows
  | .identifier line name, runtime, ip, vars, stack, forStack, next, _, stands, placed,
      follows => by
    obtain ⟨index, pooled, here⟩ := placed_constant constants placed.1
    exact (readVar_computes (push_computes (readVariable vars name))).met stands here
      (pushVar_executes pooled line _) (fun _ => keep_room) follows
  | .unary line op operand, runtime, ip, vars, stack, forStack, next, core, stands, placed,
      follows => by
    obtain ⟨inner, outer⟩ := placed_append.mp placed
    rw [evaluateExpression, attempt_bind]
    refine expression_met constants operand core stands inner fun {value after} there => ?_
    have room := there.small
    rw [there.stack, List.length_cons] at room
    cases known : unaryOpcode op with
    | none =>
      -- Without an instruction, the operand itself is the value.
      have plain : unaryOperation op value = .ok value := by cases op <;> first | rfl | cases known
      rw [plain]
      refine follows ?_
      simpa [flattenExpression, known] using there
    | some opcode =>
      rw [known] at outer
      refine (unary_computes room (unaryOperation op) value).met there outer.1
        (unaryOpcode_executes known line _) (fun _ _ => room) fun behind => follows ?_
      simpa [flattenExpression, known, Item.size, Nat.add_assoc] using behind
  | .binary line op left right, runtime, ip, vars, stack, forStack, next, core, stands, placed,
      follows => by
    simp only [AstExpr.isCore, Bool.and_eq_true] at core
    obtain ⟨operation, operates⟩ := Option.isSome_iff_exists.mp core.1.1
    obtain ⟨opcode, known, executes⟩ := @binaryOpcode_executes _ _ _ host code _ _ operates
    obtain ⟨operands, outer⟩ := placed_append.mp placed
    obtain ⟨first, second⟩ := placed_append.mp operands
    rw [evaluateExpression, attempt_bind]
    refine expression_met constants left core.1.2 stands first fun {a middle} there => ?_
    have deeper : c64scriptMaxStackDepth - stack.length - 1 =
        c64scriptMaxStackDepth - (a :: stack).length := by
      rw [List.length_cons]
      omega
    rw [attempt_bind, deeper]
    refine expression_met constants right core.2 there second fun {b after} behind => ?_
    have room := behind.small
    rw [behind.stack, List.length_cons, List.length_cons] at room
    rw [codeSize_append, ← Nat.add_assoc, known] at outer
    simp only [operates]
    refine (binary_computes (by omega) operation a b).met behind outer.1
      (executes line _) (fun _ _ => by rw [List.length_cons]; omega) fun last => follows ?_
    simpa [flattenExpression, known, Item.size, Nat.add_assoc] using last
  | .arrayAccess _ _ _, _, _, _, _, _, _, core, _, _, _
  | .mapAccess _ _ _, _, _, _, _, _, _, core, _, _, _
  | .call _ _ _, _, _, _, _, _, _, core, _, _, _ => by cases core

end Expressions

end C64Stream
