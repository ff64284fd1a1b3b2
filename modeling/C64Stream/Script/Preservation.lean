import C64Stream.Script.EvaluationLaws

/-! The compiler keeps the meaning of a script: the virtual machine ends as the tree does. -/

namespace C64Stream

variable {R World : Type} [ScriptNumber R]

section Control

variable {host : Host R World} {code : Code R} {runtime : Runtime R World} {goal : Goal R}
  {outcome : Outcome R} {ip target : Nat} {vars : Variables R} {stack : List (Value R)}
  {forStack : List (ForState R)} {line : Int}

theorem jump_met (stands : Stands runtime ip vars stack forStack)
    (here : code.bytecode[ip]? = some ⟨.jump, target, line⟩)
    (follows : ∀ {after : Runtime R World}, Stands after target vars stack forStack →
      outcome.Met host code after goal) :
    outcome.Met host code runtime { goal with rounds := goal.rounds + 1 } := by
  obtain ⟨rfl, rfl, rfl, rfl, scopes, awake, small⟩ := stands
  have jumped : executeInstruction host code ⟨.jump, target, line⟩
      (beginInstruction ⟨.jump, target, line⟩ runtime) =
    (some false, { beginInstruction ⟨.jump, target, line⟩ runtime with ip := target }) := rfl
  exact .step here jumped (follows ⟨rfl, rfl, rfl, rfl, scopes, awake, small⟩)

theorem Outcome.Met.jumps {middle : Nat}
    (met : outcome.Met host code runtime { goal with ip := middle })
    (here : code.bytecode[middle]? = some ⟨.jump, goal.ip, line⟩) :
    outcome.Met host code runtime goal := by
  have whole : outcome = outcome.andThen .fine := by cases outcome <;> rfl
  rw [whole]
  refine met.andThen le_rfl fun {vars after} stands => ?_
  show (Outcome.fine vars).Met host code after { goal with rounds := goal.rounds + 1 }
  exact jump_met stands here fun {last} there => ⟨0, last, rfl, there⟩

theorem run_popNumber (what : Text) {value : Value R} (held : runtime.stack = value :: stack) :
    (popNumber what : Program R World R).run handleOp runtime =
      match requireNumber value what with
      | .ok number => (some number, { runtime with stack })
      | .error message => (none, Runtime.withError { runtime with stack } message) := by
  simp only [popNumber, pop, Effectful.bind_eq, Effectful.bind, Effectful.run, handleOp, held]
  cases requireNumber value what <;> rfl

theorem placed_op {opcode : Opcode} {operand : Nat}
    (placed : placedAt code.bytecode code.constants ip (.op opcode operand line))
    (small : operand < operandBound) : code.bytecode[ip]? = some ⟨opcode, operand, line⟩ := by
  have here : code.bytecode[ip]? = some ⟨opcode, operand % operandBound, line⟩ := placed
  rwa [Nat.mod_eq_of_lt small] at here

theorem condition_met (constants : code.constants.length ≤ operandBound) {what : Text}
    {opcode : Opcode} {condition : AstExpr R} {rest : List (Item R)} {next : Bool → Outcome R}
    (executes : ∀ begun : Runtime R World,
      executeInstruction host code ⟨opcode, target, line⟩ begun =
        executeConditionalJump what target begun)
    (core : condition.isCore = true) (small : target < operandBound)
    (placed : Placed code.bytecode code.constants ip
      (flattenExpression condition ++ [.op opcode target line] ++ rest))
    (stands : Stands runtime ip vars stack forStack)
    (holds : ∀ {after : Runtime R World},
      Stands after (ip + codeSize (flattenExpression condition) + 1) vars stack forStack →
        (next true).Met host code after goal)
    (fails : ∀ {after : Runtime R World}, Stands after target vars stack forStack →
      (next false).Met host code after goal) :
    (attempt vars (evaluateCondition what condition (c64scriptMaxStackDepth - stack.length) vars)
      next).Met host code runtime goal := by
  obtain ⟨test, jump⟩ := placed_append.mp (placed_append.mp placed).1
  rw [evaluateCondition, attempt_bind]
  refine expression_met constants condition core stands test fun {value middle} there => ?_
  have here : code.bytecode[middle.ip]? = some ⟨opcode, target, line⟩ := by
    rw [there.ip]
    exact placed_op jump.1 small
  have room := there.small
  rw [there.stack, List.length_cons] at room
  have popped := @run_popNumber _ _ _ (beginInstruction ⟨opcode, target, line⟩ middle) _ what _
    there.stack
  rw [attempt_bind]
  cases required : requireNumber value what with
  | error message =>
    rw [required] at popped
    have failed : executeInstruction host code ⟨opcode, target, line⟩
        (beginInstruction ⟨opcode, target, line⟩ middle) = (none, Runtime.withError
          { beginInstruction ⟨opcode, target, line⟩ middle with stack } message) := by
      rw [executes, executeConditionalJump, andThen, popped]
    exact .fails here failed there.vars rfl there.awake
  | ok number =>
    rw [required] at popped
    have executed : executeInstruction host code ⟨opcode, target, line⟩
        (beginInstruction ⟨opcode, target, line⟩ middle) = (some false,
          if isZero number then
            { beginInstruction ⟨opcode, target, line⟩ middle with stack, ip := target }
          else { beginInstruction ⟨opcode, target, line⟩ middle with stack }) := by
      rw [executes, executeConditionalJump, andThen, popped]
    show (next (!isZero number)).Met host code middle goal
    cases zero : isZero number with
    | true =>
      rw [zero, if_pos rfl] at executed
      exact .behind here executed
        (fails ⟨rfl, there.vars, rfl, there.forStack, there.scopes, there.awake,
          Nat.le_of_lt room⟩)
    | false =>
      rw [zero, if_neg (by decide)] at executed
      exact .behind here executed (holds ⟨congrArg Nat.succ there.ip, there.vars, rfl,
        there.forStack, there.scopes, there.awake, Nat.le_of_lt room⟩)

theorem loop_met {test : Variables R → Except Text Bool} {body : Variables R → Outcome R}
    {start back exit rounds : Nat} {inner : List (ForState R)} (inside : Nat)
    (tests : ∀ {vars : Variables R} {runtime : Runtime R World} {next : Bool → Outcome R}
      {goal : Goal R}, Stands runtime start vars stack inner →
      (∀ {after : Runtime R World}, Stands after inside vars stack inner →
        (next true).Met host code after goal) →
      (∀ {after : Runtime R World}, Stands after exit vars stack forStack →
        (next false).Met host code after goal) →
      (attempt vars (test vars) next).Met host code runtime goal)
    (bodies : ∀ {vars : Variables R} {runtime : Runtime R World},
      Stands runtime inside vars stack inner →
        (body vars).Met host code runtime ⟨back, stack, inner, rounds⟩)
    (jumps : code.bytecode[back]? = some ⟨.jump, start, line⟩) :
    ∀ left ≤ rounds, ∀ {vars : Variables R} {runtime : Runtime R World},
      Stands runtime start vars stack inner →
        (evaluateLoop test body left vars).Met host code runtime ⟨exit, stack, forStack, left⟩ := by
  -- The induction is on the rounds that are left; each ends with the jump.
  intro left
  induction left with
  | zero => exact fun _ _ runtime stands => ⟨0, runtime, rfl, le_rfl, stands.awake⟩
  | succ left ih =>
    intro enough vars runtime stands
    refine tests stands (fun {after} there => ?_) fun {after} there => ⟨0, after, rfl, there⟩
    refine (bodies there).andThen enough fun {others last} behind => ?_
    exact jump_met behind jumps fun again => ih (by omega) again

end Control

section ForLoops

variable {host : Host R World} {code : Code R} {runtime : Runtime R World} {goal : Goal R}
  {ip target : Nat} {vars : Variables R} {stack : List (Value R)} {forStack : List (ForState R)}
  {line : Int} {name : Text}

theorem run_forBounds {current finish step : Value R}
    (held : runtime.stack = step :: finish :: current :: stack) :
    (forBounds : Program R World (R × R)).run handleOp runtime =
      match checkBounds current finish step with
      | .ok bounds => (some bounds, { runtime with stack })
      | .error message => (none, Runtime.withError { runtime with stack } message) := by
  simp only [forBounds, checkBounds, pop, Effectful.bind_eq, Effectful.bind, Effectful.run,
    handleOp, held]
  cases requireNumber step (text "FOR") with
  | error message => rfl
  | ok step =>
    cases requireNumber finish (text "FOR") with
    | error message => rfl
    | ok finish => cases requireNumber current (text "FOR") <;> rfl

theorem step_met (constants : code.constants.length ≤ operandBound) {step : Option (AstExpr R)}
    {next : Value R → Outcome R} (core : step.all AstExpr.isCore = true)
    (stands : Stands runtime ip vars stack forStack)
    (placed : Placed code.bytecode code.constants ip
      (flattenOperand line (expressionOr step (numberConstant 1))))
    (follows : ∀ {value : Value R} {after : Runtime R World},
      Stands after (ip + codeSize (flattenOperand line (expressionOr step (numberConstant 1))))
          vars (value :: stack) forStack →
        (next value).Met host code after goal) :
    (attempt vars (evaluateStep vars (c64scriptMaxStackDepth - stack.length) step)
      next).Met host code runtime goal := by
  cases step with
  | some step => exact expression_met constants step core stands placed follows
  | none =>
    obtain ⟨index, pooled, here⟩ := placed_constant constants placed.1
    exact (push_computes (Value.number (ScriptNumber.ofInt 1))).met stands here
      (pushConst_executes pooled line _) (fun _ => keep_room) follows

theorem opening_met {index : Nat} {current finish step : Value R} {next : R × R → Outcome R}
    (stands : Stands runtime ip vars (step :: finish :: current :: stack) forStack)
    (here : code.bytecode[ip]? = some ⟨.forInit, index, line⟩)
    (pooled : code.constants[index]? = some (.string name))
    (follows : ∀ {bounds : R × R} {after : Runtime R World},
      Stands after (ip + 1) vars stack (⟨name, bounds.1, bounds.2, ip + 1⟩ :: forStack) →
        (next bounds).Met host code after goal) :
    (attempt vars (checkBounds current finish step) fun bounds =>
      if c64scriptMaxForNesting ≤ forStack.length then
        .failed vars (text "FOR loop nesting too deep")
      else next bounds).Met host code runtime goal := by
  obtain ⟨rfl, rfl, held, rfl, scopes, awake, small⟩ := stands
  rw [held, List.length_cons, List.length_cons, List.length_cons] at small
  have bounds := @run_forBounds _ _ _ (beginInstruction ⟨.forInit, index, line⟩ runtime) _ _ _ _
    held
  have opens : executeInstruction host code ⟨.forInit, index, line⟩
      (beginInstruction ⟨.forInit, index, line⟩ runtime) =
        executeForInit code index (beginInstruction ⟨.forInit, index, line⟩ runtime) := rfl
  cases checked : checkBounds current finish step with
  | error message =>
    rw [checked] at bounds
    rw [executeForInit, andThen, bounds] at opens
    exact .fails here opens rfl rfl awake
  | ok pair =>
    rw [checked] at bounds
    rw [executeForInit, andThen, bounds] at opens
    simp only [constantName, pooled] at opens
    rw [attempt]
    by_cases deep : c64scriptMaxForNesting ≤
        (beginInstruction ⟨.forInit, index, line⟩ runtime).forStack.length
    · rw [if_pos deep] at opens
      rw [if_pos (show c64scriptMaxForNesting ≤ runtime.forStack.length from deep)]
      exact .fails here opens rfl rfl awake
    · rw [if_neg deep] at opens
      rw [if_neg (show ¬ c64scriptMaxForNesting ≤ runtime.forStack.length from deep)]
      exact .behind here opens (follows ⟨rfl, rfl, rfl, rfl, scopes, awake, by
        show stack.length ≤ _
        omega⟩)

theorem setup_met (constants : code.constants.length ≤ operandBound) {start finish : AstExpr R}
    {step : Option (AstExpr R)} {next : Variables R → R × R → Outcome R}
    (core : (start.isCore ∧ finish.isCore) ∧ step.all AstExpr.isCore)
    (stands : Stands runtime ip vars stack forStack)
    (placed : Placed code.bytecode code.constants ip (forSetup line name start finish step))
    (follows : ∀ {vars : Variables R} {bounds : R × R} {after : Runtime R World} {inside : Nat},
      inside = ip + codeSize (forSetup line name start finish step) →
      Stands after inside vars stack (⟨name, bounds.1, bounds.2, inside⟩ :: forStack) →
        (next vars bounds).Met host code after goal) :
    (attempt vars (evaluateExpression vars (c64scriptMaxStackDepth - stack.length) start)
      fun first => attempt vars (writeVariable vars name first) fun vars =>
        attempt vars
          (evaluateBounds vars (c64scriptMaxStackDepth - stack.length) name finish step)
          fun bounds =>
            if c64scriptMaxForNesting ≤ forStack.length then
              .failed vars (text "FOR loop nesting too deep")
            else next vars bounds).Met host code runtime goal := by
  have fits := stands.small
  rw [stands.stack] at fits
  obtain ⟨placed, opens⟩ := placed_append.mp placed
  obtain ⟨placed, steps⟩ := placed_append.mp placed
  obtain ⟨placed, ends⟩ := placed_append.mp placed
  obtain ⟨first, names⟩ := placed_append.mp placed
  obtain ⟨index, pooled, assigns⟩ := placed_constant constants names.1
  obtain ⟨again, repooled, reads⟩ := placed_constant constants names.2.1
  obtain ⟨last, named, there⟩ := placed_constant constants opens.1
  simp only [forSetup, codeSize_append, codeSize_cons, codeSize_nil, Item.size, ← Nat.add_assoc,
    Nat.add_zero] at assigns reads ends steps there follows
  refine expression_met constants start core.1.1 stands first fun {value middle} initial => ?_
  refine (pop_computes (assign_computes name value)).met initial assigns
    (popVar_executes pooled line _) (fun _ _ => fits) fun {vars between} assigned => ?_
  have deeper : ∀ (value : Value R) (held : List (Value R)),
      c64scriptMaxStackDepth - held.length - 1 =
        c64scriptMaxStackDepth - (value :: held).length := by
    intro value held
    rw [List.length_cons]
    omega
  rw [evaluateBounds, attempt_bind]
  -- The current value waits below the end, and the end below the step.
  refine (readVar_computes (push_computes (readVariable vars name))).met assigned reads
    (pushVar_executes repooled line _) (fun _ => keep_room) fun {current pushed} waits => ?_
  rw [attempt_bind, deeper current stack]
  refine expression_met constants finish core.1.2 waits ends fun {limit between} below => ?_
  rw [attempt_bind, deeper limit]
  refine step_met constants core.2 below steps fun {last after} ready => ?_
  exact opening_met ready there named (follows rfl)

theorem executeForCheck_global {begun : Runtime R World} {state : ForState R}
    (held : begun.forStack = state :: forStack) (scopes : begun.scopeStack = []) :
    executeForCheck target begun =
      match requireNumber (readVariable begun.globalVars state.variableName) (text "FOR") with
      | .error message => begun.fail message
      | .ok current =>
        if state.isDone current then (some false, { begun with forStack, ip := target })
        else (some false, begun) := by
  rw [executeForCheck, held]
  dsimp only
  rewrite [getVar_global scopes]
  rfl

theorem executeForIncr_global {begun : Runtime R World} {state : ForState R}
    (held : begun.forStack = state :: forStack) :
    executeForIncr begun =
      andThen (readVar state.variableName >>= fun value =>
        orFail (requireNumber value (text "FOR")) >>= fun current =>
          assign state.variableName (.number (ScriptNumber.add current state.stepValue)))
        begun fun _ after => (some false, after) := by
  rw [executeForIncr, held]
  dsimp only
  rw [andThen, show (readVar state.variableName >>= fun value =>
      orFail (requireNumber value (text "FOR")) >>= fun current =>
        assign state.variableName (.number (ScriptNumber.add current state.stepValue))
      : Program R World Unit).run handleOp begun =
    (orFail (requireNumber (getVar begun.toMachine state.variableName) (text "FOR")) >>=
      fun current => assign state.variableName
        (.number (ScriptNumber.add current state.stepValue))).run handleOp begun from rfl]
  cases requireNumber (getVar begun.toMachine state.variableName) (text "FOR") <;> rfl

theorem check_met {state : ForState R} {next : Bool → Outcome R}
    (stands : Stands runtime ip vars stack (state :: forStack))
    (here : code.bytecode[ip]? = some ⟨.forCheck, target, line⟩)
    (inside : ∀ {after : Runtime R World}, Stands after (ip + 1) vars stack (state :: forStack) →
      (next true).Met host code after goal)
    (leaves : ∀ {after : Runtime R World}, Stands after target vars stack forStack →
      (next false).Met host code after goal) :
    (attempt vars (forGoesOn state.variableName state.endValue state.stepValue vars)
      next).Met host code runtime goal := by
  obtain ⟨rfl, rfl, rfl, held, scopes, awake, small⟩ := stands
  have checks : executeInstruction host code ⟨.forCheck, target, line⟩
      (beginInstruction ⟨.forCheck, target, line⟩ runtime) = _ :=
    @executeForCheck_global _ _ _ _ _ (beginInstruction ⟨.forCheck, target, line⟩ runtime) _ held
      scopes
  have same : (beginInstruction ⟨.forCheck, target, line⟩ runtime).globalVars =
    runtime.globalVars := rfl
  rw [same] at checks
  rw [forGoesOn, attempt_bind]
  cases required : requireNumber (readVariable runtime.globalVars state.variableName)
    (text "FOR") with
  | error message =>
    rw [required] at checks
    exact .fails here checks rfl rfl awake
  | ok current =>
    rw [required] at checks
    show (next (!state.isDone current)).Met host code runtime goal
    dsimp only at checks
    cases done : state.isDone current with
    | true =>
      rw [done, if_pos rfl] at checks
      exact .behind here checks (leaves ⟨rfl, rfl, rfl, rfl, scopes, awake, small⟩)
    | false =>
      rw [done, if_neg (by decide)] at checks
      exact .behind here checks (inside ⟨rfl, rfl, rfl, held, scopes, awake, small⟩)

theorem increment_met {state : ForState R} {index rounds : Nat}
    (stands : Stands runtime ip vars stack (state :: forStack))
    (here : code.bytecode[ip]? = some ⟨.forIncr, index, line⟩) :
    (forAdvance state.variableName state.stepValue vars).Met host code runtime
      ⟨ip + 1, stack, state :: forStack, rounds⟩ := by
  have small := stands.small
  rw [stands.stack] at small
  have advances : Computes
      (readVar state.variableName >>= fun value =>
        orFail (requireNumber value (text "FOR")) >>= fun current =>
          assign state.variableName (.number (ScriptNumber.add current state.stepValue))
        : Program R World Unit)
      vars stack
      (requireNumber (readVariable vars state.variableName) (text "FOR") >>= fun current =>
        writeVariable vars state.variableName (.number (ScriptNumber.add current state.stepValue)))
      fun vars => (vars, stack) := by
    refine readVar_computes ?_
    exact orFail_computes fun current => assign_computes _ _
  rw [forAdvance, ← attempt_bind]
  exact advances.met stands here (executeForIncr_global stands.forStack) (fun _ _ => small)
    fun there => ⟨0, _, rfl, there⟩

end ForLoops

section Statements

variable {host : Host R World} {code : Code R} {runtime : Runtime R World} {ip : Nat}
  {vars : Variables R} {stack : List (Value R)} {forStack : List (ForState R)}

theorem command_met (constants : code.constants.length ≤ operandBound) {line : Int}
    {command : AstCommand R} {rounds : Nat} (core : (AstStmt.command line command).isCore = true)
    (stands : Stands runtime ip vars stack forStack)
    (placed : Placed code.bytecode code.constants ip (flattenCommand line command)) :
    (evaluateStatement rounds (c64scriptMaxStackDepth - stack.length) (.command line command)
      forStack.length vars).Met host code runtime
        ⟨ip + codeSize (flattenCommand line command), stack, forStack, rounds⟩ := by
  have fits := stands.small
  rw [stands.stack] at fits
  cases command with
  | assignment variableName value =>
    have placed : Placed code.bytecode code.constants ip
        (flattenExpression value ++ [] ++ [.constant .popVar (.string variableName) line]) := placed
    rw [List.append_nil] at placed
    obtain ⟨inner, outer⟩ := placed_append.mp placed
    obtain ⟨index, pooled, here⟩ := placed_constant constants outer.1
    rw [evaluateStatement]
    refine expression_met constants value core stands inner fun {value after} there => ?_
    refine (pop_computes (assign_computes variableName value)).met there here
      (popVar_executes pooled line _) (fun _ _ => fits) fun {vars last} behind => ?_
    refine ⟨0, last, rfl, ?_⟩
    simpa [flattenCommand, commandForm, flattenOperand, flattenSource, Item.size,
      Nat.add_assoc] using behind
  | _ => cases core

mutual

/-- The code of a statement does what the statement means. -/
theorem statement_met (constants : code.constants.length ≤ operandBound) (rounds : Nat) :
    ∀ (stmt : AstStmt R) {base : Nat} {runtime : Runtime R World} {vars : Variables R}
      {forStack : List (ForState R)}, stmt.isCore = true →
    Stands runtime base vars stack forStack →
    Placed code.bytecode code.constants base (flattenStatement base stmt) →
    base + codeSize (flattenStatement base stmt) < operandBound →
    (evaluateStatement rounds (c64scriptMaxStackDepth - stack.length) stmt forStack.length
      vars).Met host code runtime
        ⟨base + codeSize (flattenStatement base stmt), stack, forStack, rounds⟩
  | .empty _, base, runtime, vars, forStack, _, stands, _, _
  | .rem _, base, runtime, vars, forStack, _, stands, _, _
  | .label _ _, base, runtime, vars, forStack, _, stands, _, _ => ⟨0, runtime, rfl, stands⟩
  | .command line command, base, runtime, vars, forStack, core, stands, placed, _ =>
    command_met constants core stands placed
  | .if line condition thenBranch [], base, runtime, vars, forStack, core, stands, placed, small =>
    by
    simp only [AstStmt.isCore, areCore, Bool.and_true, Bool.and_eq_true] at core
    rw [flattenStatement] at placed small ⊢
    have inner := (placed_append.mp placed).2
    simp only [codeSize_append, codeSize_cons, codeSize_nil, Item.size, ← Nat.add_assoc,
      Nat.add_zero] at small inner ⊢
    rw [evaluateStatement]
    refine condition_met constants (fun _ => rfl) core.1 small placed stands (fun there => ?_)
      fun {after} there => ⟨0, after, rfl, there⟩
    exact statements_met constants rounds thenBranch core.2 there inner small
  | .if line condition thenBranch (first :: rest), base, runtime, vars, forStack, core, stands,
      placed, small => by
    simp only [AstStmt.isCore, Bool.and_eq_true] at core
    rw [flattenStatement] at placed small ⊢
    obtain ⟨front, other⟩ := placed_append.mp placed
    obtain ⟨front, jump⟩ := placed_append.mp front
    have inner := (placed_append.mp front).2
    simp only [codeSize_append, codeSize_cons, codeSize_nil, Item.size, ← Nat.add_assoc,
      Nat.add_zero] at small front inner jump other ⊢
    rw [evaluateStatement]
    refine condition_met constants (fun _ => rfl) core.1.1 (by omega) front stands
      (fun there => ?_) fun there =>
        statements_met constants rounds (first :: rest) core.2 there other small
    -- The first branch jumps over the second one.
    exact .jumps (statements_met constants rounds thenBranch core.1.2 there inner (by omega))
      (placed_op jump.1 small)
  | .while line condition body, base, runtime, vars, forStack, core, stands, placed, small => by
    rw [evaluateStatement]
    simp only [AstStmt.isCore, Bool.and_eq_true] at core
    rw [flattenStatement] at placed small ⊢
    obtain ⟨front, back⟩ := placed_append.mp placed
    have inner := (placed_append.mp front).2
    have test := front
    simp only [codeSize_append, codeSize_cons, codeSize_nil, Item.size, ← Nat.add_assoc,
      Nat.add_zero] at small back inner ⊢
    -- The jump behind the body leads back to the condition.
    refine loop_met (base + codeSize (flattenExpression condition) + 1) ?_ ?_
      (placed_op back.1 (by omega)) rounds le_rfl stands
    · intro vars runtime next last there holds fails
      exact condition_met constants (fun _ => rfl) core.1 small test there holds fails
    · intro vars runtime there
      exact statements_met constants rounds body core.2 there inner (by omega)
  | .for line variableName start finish step body, base, runtime, vars, forStack, core, stands,
      placed, small => by
    simp only [AstStmt.isCore, Bool.and_eq_true] at core
    rw [flattenStatement, ← forSetup] at placed small ⊢
    obtain ⟨front, back⟩ := placed_append.mp placed
    obtain ⟨front, inner⟩ := placed_append.mp front
    obtain ⟨setup, check⟩ := placed_append.mp front
    rw [codeSize_append, ← Nat.add_assoc] at inner
    generalize ends : base + codeSize (forSetup line variableName start finish step) = loopStart
      at *
    simp only [codeSize_append, codeSize_cons, codeSize_nil, Item.size, ← Nat.add_assoc,
      Nat.add_zero, ends] at small back inner ⊢
    rw [evaluateStatement]
    refine setup_met constants core.1 stands setup fun {vars bounds begun inside} here opened => ?_
    obtain rfl : inside = loopStart := here.trans ends
    refine loop_met (inside + 1) ?_ ?_ (placed_op back.2.1 (by omega)) rounds le_rfl opened
    · intro vars runtime next last there holds fails
      exact check_met there (placed_op check.1 small) holds fails
    · intro vars runtime there
      refine (statements_met constants rounds body core.2 there inner (by omega)).andThen le_rfl
        fun behind => ?_
      obtain ⟨index, _, counts⟩ := placed_constant constants back.1
      exact increment_met behind counts
  | .functionDef _ _ _ _, _, _, _, _, core, _, _, _ | .goto _ _, _, _, _, _, core, _, _, _
  | .gosub _ _ _, _, _, _, _, core, _, _, _ | .return _ _, _, _, _, _, core, _, _, _
  | .stop _, _, _, _, _, core, _, _, _ => by cases core

theorem statements_met (constants : code.constants.length ≤ operandBound) (rounds : Nat) :
    ∀ (stmts : List (AstStmt R)) {base : Nat} {runtime : Runtime R World} {vars : Variables R}
      {forStack : List (ForState R)}, areCore stmts = true →
    Stands runtime base vars stack forStack →
    Placed code.bytecode code.constants base (flattenStatements base stmts) →
    base + codeSize (flattenStatements base stmts) < operandBound →
    (evaluateStatements rounds (c64scriptMaxStackDepth - stack.length) stmts forStack.length
      vars).Met host code runtime
        ⟨base + codeSize (flattenStatements base stmts), stack, forStack, rounds⟩
  | [], base, runtime, vars, forStack, _, stands, _, _ => ⟨0, runtime, rfl, stands⟩
  | stmt :: rest, base, runtime, vars, forStack, core, stands, placed, small => by
    simp only [areCore, Bool.and_eq_true] at core
    rw [flattenStatements] at placed small ⊢
    obtain ⟨first, others⟩ := placed_append.mp placed
    rw [codeSize_append, ← Nat.add_assoc] at small ⊢
    rw [evaluateStatements]
    refine (statement_met constants rounds stmt core.1 stands first (by omega)).andThen le_rfl
      fun {vars after} there => ?_
    exact statements_met constants rounds rest core.2 there others small

end

end Statements

section Programs

variable {host : Host R World} {code : Code R} {runtime : Runtime R World}

/-- Where a run ends, with the counters replaced. -/
def Progress.withCounters (counters : Counters) : Progress R World → Progress R World
  | .running runtime => .running (runtime.withCounters counters)
  | .finished runtime => .finished (runtime.withCounters counters)
  | .failed runtime => .failed (runtime.withCounters counters)

theorem executeSpan_stopped (count : Nat) (stopped : runtime.flags.shouldStop = true) :
    (executeSpan host code count runtime).runtime.flags.shouldStop = true := by
  induction count generalizing runtime with
  | zero => exact stopped
  | succ count ih =>
    rw [executeSpan]
    cases code.bytecode[runtime.ip]? with
    | none => exact stopped
    | some instruction =>
      have kept := @vmDispatch_flags R World _ host code instruction runtime
      dsimp only
      have still : (vmDispatch host code instruction runtime).runtime.flags.shouldStop = true := by
        rcases kept with same | stops
        · rw [same, stopped]
        · rw [stops]
      cases dispatched : vmDispatch host code instruction runtime with
      | running after =>
        rw [dispatched] at still
        exact ih still
      | finished after | failed after =>
        rw [dispatched] at still
        exact still

theorem vmDispatch_withCounters (instruction : Instruction) (counters : Counters) :
    ∃ left : Counters, left.maxIterations = counters.maxIterations ∧
      left.iterationCount = counters.iterationCount ∧
      vmDispatch host code instruction (runtime.withCounters counters) =
        (vmDispatch host code instruction runtime).withCounters left := by
  have same := @executeInstruction_withCounters R World _ host code counters instruction
    (beginInstruction instruction runtime)
  rw [vmDispatch, show beginInstruction instruction (runtime.withCounters counters) =
    (beginInstruction instruction runtime).withCounters counters from rfl, same, vmDispatch]
  cases executeInstruction host code instruction (beginInstruction instruction runtime) with
  | mk result after =>
    cases result with
    | none => exact ⟨counters, rfl, rfl, rfl⟩
    | some skip =>
      exact ⟨(updateLines code instruction.sourceLine skip
        (after.withCounters counters)).counters, rfl, rfl, rfl⟩

theorem vmStep_dispatches (unasked : ∀ world flags, host.requests world flags = (flags, world))
    {instruction : Instruction} (here : code.bytecode[runtime.ip]? = some instruction)
    (awake : runtime.flags.shouldStop = false)
    (unpaused : runtime.flags.shouldPause = false ∨ instruction.sourceLine ≤ 0)
    (near : runtime.atIterationLimit = false) :
    vmStep host code runtime = vmDispatch host code instruction
      (if 0 < runtime.maxIterations then
        { runtime with iterationCount := runtime.iterationCount + 1 }
      else runtime) := by
  have observed : observe host runtime = runtime := by rw [observe, unasked]
  unfold vmStep
  rw [observed]
  dsimp only
  rw [here]
  dsimp only
  rw [awake, near, if_neg Bool.false_ne_true, if_neg Bool.false_ne_true]
  -- The pause is for a line of the source, if one was requested.
  have straight : ∀ counted : Runtime R World, counted.flags = runtime.flags →
      pauseAtLine host instruction.sourceLine counted = counted := by
    intro counted same
    rw [pauseAtLine, same, if_neg]
    rintro ⟨pauses, _, line⟩
    rcases unpaused with unasked | behind
    · rw [unasked] at pauses
      cases pauses
    · omega
  generalize entered : (if 0 < runtime.maxIterations then
    { runtime with iterationCount := runtime.iterationCount + 1 } else runtime) = counted
  have same : counted.flags = runtime.flags := by
    rw [← entered]
    split_ifs <;> rfl
  rw [straight counted same, same, awake, if_neg Bool.false_ne_true]

/-- The loop of the machine executes one instruction after another while nobody asks it to pause
or to stop, and its limit is far. -/
theorem vmRun_span (unasked : ∀ world flags, host.requests world flags = (flags, world))
    {count : Nat} {progress : Progress R World} (counters : Counters)
    (ran : executeSpan host code count runtime = progress)
    (unpaused : runtime.flags.shouldPause = false)
    (awake : progress.runtime.flags.shouldStop = false)
    (far : counters.maxIterations = 0 ∨
      counters.iterationCount + count < counters.maxIterations) :
    ∃ left : Counters, left.maxIterations = counters.maxIterations ∧
      (left.maxIterations = 0 ∨ left.iterationCount ≤ counters.iterationCount + count) ∧
      vmRun host code count (runtime.withCounters counters) = progress.withCounters left := by
  subst ran
  induction count generalizing runtime counters with
  | zero => exact ⟨counters, rfl, .inr le_rfl, rfl⟩
  | succ count ih =>
    have going : runtime.flags.shouldStop = false := by
      by_contra stopped
      have still := @executeSpan_stopped _ _ _ host code runtime (count + 1)
        (by simpa using stopped)
      rw [awake] at still
      cases still
    rw [vmRun]
    rw [executeSpan] at awake ⊢
    cases here : code.bytecode[runtime.ip]? with
    | none =>
      have observed : observe host (runtime.withCounters counters) =
          runtime.withCounters counters := by rw [observe, unasked]
      refine ⟨counters, rfl, .inr (by omega), ?_⟩
      rw [vmStep, observed]
      dsimp only
      rw [show (runtime.withCounters counters).ip = runtime.ip from rfl, here]
      rfl
    | some instruction =>
      rw [here] at awake
      have near : (runtime.withCounters counters).atIterationLimit = false := by
        show decide (0 < counters.maxIterations ∧
          counters.maxIterations ≤ counters.iterationCount + 1) = false
        rw [decide_eq_false_iff_not]
        omega
      rw [@vmStep_dispatches _ _ _ host code (runtime.withCounters counters) unasked _ here going
        (.inl unpaused) near]
      -- The counters after the count was raised.
      obtain ⟨counted, same, most, counts⟩ : ∃ counted : Counters,
          counted.maxIterations = counters.maxIterations ∧
          (counted.maxIterations = 0 ∨
            counted.iterationCount = counters.iterationCount + 1) ∧
          (if 0 < (runtime.withCounters counters).maxIterations then
            { runtime.withCounters counters with
              iterationCount := (runtime.withCounters counters).iterationCount + 1 }
          else runtime.withCounters counters) = runtime.withCounters counted := by
        by_cases limited : 0 < counters.maxIterations
        · exact ⟨{ counters with iterationCount := counters.iterationCount + 1 }, rfl, .inr rfl,
            if_pos limited⟩
        · exact ⟨counters, rfl, .inl (by omega), if_neg limited⟩
      obtain ⟨left, kept, still, dispatches⟩ :=
        @vmDispatch_withCounters _ _ _ host code runtime instruction counted
      rw [counts, dispatches]
      have flags := @vmDispatch_flags _ _ _ host code instruction runtime
      dsimp only at awake ⊢
      cases dispatched : vmDispatch host code instruction runtime with
      | running after =>
        rw [dispatched] at awake flags
        have later : after.flags.shouldPause = false := by
          rcases flags with same | stops
          · exact (congrArg Flags.shouldPause same).trans unpaused
          · exact (congrArg Flags.shouldPause stops).trans unpaused
        obtain ⟨final, same', bounded, ran⟩ := ih left later (by omega) awake
        exact ⟨final, by omega, by omega, ran⟩
      | finished after | failed after => exact ⟨left, by omega, by omega, rfl⟩

theorem vmRun_add {first second : Nat} {middle : Runtime R World}
    (ran : vmRun host code first runtime = .running middle) :
    vmRun host code (first + second) runtime = vmRun host code second middle := by
  induction first generalizing runtime with
  | zero =>
    cases ran
    rw [Nat.zero_add]
  | succ first ih =>
    rw [Nat.add_right_comm, vmRun]
    rw [vmRun] at ran
    cases stepped : vmStep host code runtime with
    | running after =>
      rw [stepped] at ran
      exact ih ran
    | finished after | failed after =>
      rw [stepped] at ran
      cases ran

theorem vmRun_halts (unasked : ∀ world flags, host.requests world flags = (flags, world))
    (here : code.bytecode[runtime.ip]? = some ⟨.halt, 0, -1⟩)
    (last : code.bytecode.length = runtime.ip + 1) (awake : runtime.flags.shouldStop = false)
    (near : runtime.atIterationLimit = false) :
    ∃ after, vmRun host code 2 runtime = .finished after ∧
      after.globalVars = runtime.globalVars := by
  have halts := vmStep_dispatches unasked here awake (.inr (by decide)) near
  generalize entered : (if 0 < runtime.maxIterations then
    { runtime with iterationCount := runtime.iterationCount + 1 } else runtime) = counted at halts
  have machine : counted.toMachine = runtime.toMachine := by
    rw [← entered]
    split_ifs <;> rfl
  obtain ⟨after, dispatched, ip, vars⟩ : ∃ after : Runtime R World,
      vmDispatch host code ⟨.halt, 0, -1⟩ counted = .running after ∧
        after.ip = counted.ip + 1 ∧ after.globalVars = counted.globalVars :=
    ⟨_, rfl, rfl, rfl⟩
  have observed : observe host after = after := by rw [observe, unasked]
  refine ⟨after, ?_, by rw [vars, machine]⟩
  rw [vmRun, halts, dispatched]
  dsimp only
  rw [vmRun, vmStep, observed]
  dsimp only
  rw [List.getElem?_eq_none (by rw [ip, machine, last])]

variable {program : List (AstStmt R)} {functions : List FunctionDef}

/-- How a script ends is what its tree was evaluated to. -/
def Outcome.Ended (outcome : Outcome R) (rounds count : Nat) : Progress R World → Prop
  | .running _ => outcome = .unfinished ∧ rounds ≤ count
  | .finished after => outcome = .fine after.globalVars
  | .failed after =>
    ∃ message : Text, outcome = .failed after.globalVars message ∧
      after.errorMsg = message.take 1023

/-- The machine executes a compiled script to the end that its tree was evaluated to, as long as
nobody interrupts it and it may execute enough instructions. -/
theorem compiledProgram_ends (compiled : c64scriptCompile program functions = .ok code)
    (core : areCore program = true) (fits : (flattenProgram program).length < operandBound)
    (unasked : ∀ world flags, host.requests world flags = (flags, world)) (world : World)
    (rounds : Nat) :
    ∃ count, ∀ limit, limit = 0 ∨ count < limit →
      (evaluateStatements rounds c64scriptMaxStackDepth program 0 []).Ended rounds count
        (c64scriptVmExecute host code count
          { runtimeCreate world with maxIterations := limit }) := by
  obtain ⟨placed, size⟩ := compile_placed compiled
  have constants := (compile_constants compiled).trans fits.le
  have short := codeSize_le_length (flattenProgram program)
  rw [flattenProgram, codeSize_append] at size short
  obtain ⟨body, last⟩ := placed_append.mp placed
  rw [Nat.zero_add] at last
  have halts : code.bytecode[codeSize (flattenStatements 0 program)]? = some ⟨.halt, 0, -1⟩ :=
    placed_op last.1 (by decide)
  have present : code.bytecode ≠ [] := by
    rintro none
    rw [none] at halts
    cases halts
  have runs : ∀ {count limit : Nat} {progress : Progress R World},
      executeSpan host code count (vmStart code (runtimeCreate world)) = progress →
      progress.runtime.flags.shouldStop = false → limit = 0 ∨ count < limit →
      ∃ left : Counters, left.maxIterations = limit ∧
        (left.maxIterations = 0 ∨ left.iterationCount ≤ count) ∧
        vmRun host code count ((vmStart code (runtimeCreate world)).withCounters
          ⟨limit, 0, 0, code.lineAt 0⟩) = progress.withCounters left := by
    intro count limit progress ran awake far
    have spanned := vmRun_span unasked ⟨limit, 0, 0, code.lineAt 0⟩ ran rfl awake
    rw [Nat.zero_add] at spanned
    exact spanned far
  have starts : ∀ count limit, c64scriptVmExecute host code count
      { runtimeCreate world with maxIterations := limit } =
        vmRun host code count ((vmStart code (runtimeCreate world)).withCounters
          ⟨limit, 0, 0, code.lineAt 0⟩) := by
    intro count limit
    rw [c64scriptVmExecute, if_neg present]
    rfl
  have met := @statements_met R World _ host code [] constants rounds program 0
    (vmStart code (runtimeCreate world)) [] [] core
    ⟨rfl, rfl, rfl, rfl, rfl, rfl, Nat.zero_le _⟩ body (by
      rw [← flattenProgram] at short
      omega)
  rw [show c64scriptMaxStackDepth - ([] : List (Value R)).length = c64scriptMaxStackDepth from rfl,
    show ([] : List (ForState R)).length = 0 from rfl] at met
  cases outcome : evaluateStatements rounds c64scriptMaxStackDepth program 0 [] with
  | unfinished =>
    rw [outcome] at met
    obtain ⟨count, after, ran, enough, awake⟩ := met
    refine ⟨count, fun limit far => ?_⟩
    obtain ⟨left, _, _, same⟩ := runs ran awake far
    rw [starts, same]
    exact ⟨rfl, enough⟩
  | failed vars message =>
    rw [outcome] at met
    obtain ⟨count, after, ran, rfl, complaint, awake⟩ := met
    refine ⟨count, fun limit far => ?_⟩
    obtain ⟨left, _, _, same⟩ := runs ran awake far
    rw [starts, same]
    exact ⟨message, rfl, complaint⟩
  | fine vars =>
    rw [outcome] at met
    obtain ⟨count, after, ran, stands⟩ := met
    -- Behind the statements, the script is halted.
    refine ⟨count + 2, fun limit far => ?_⟩
    obtain ⟨left, bound, few, same⟩ := runs ran stands.awake (far.imp_right (by omega))
    have ip : (after.withCounters left).ip = codeSize (flattenStatements 0 program) :=
      stands.ip.trans (Nat.zero_add _)
    have near : (after.withCounters left).atIterationLimit = false := by
      show decide (0 < left.maxIterations ∧ left.maxIterations ≤ left.iterationCount + 1) = false
      rw [decide_eq_false_iff_not]
      omega
    obtain ⟨final, ends, kept⟩ := @vmRun_halts _ _ _ host code (after.withCounters left) unasked
      (by rw [ip, halts]) (by rw [ip, size]; rfl) stands.awake near
    rw [starts, vmRun_add same, ends]
    exact congrArg Outcome.fine (stands.vars.symm.trans kept.symm)

/-- A script that adds up the numbers from one to three. -/
def sumProgram : List (AstStmt Int) :=
  [.for 1 (text "I") (.number 1 (literal 1)) (.number 1 (literal 3)) none
    [.command 2 (.assignment (text "S")
      (.binary 2 .add (.identifier 2 (text "S")) (.identifier 2 (text "I"))))]]

theorem compiledProgram_ends_sum :
    ∃ code vars, c64scriptCompile sumProgram [] = .ok code ∧
      evaluateStatements 4 c64scriptMaxStackDepth sumProgram 0 [] = .fine vars ∧
      lookup vars (text "S") = some (.number 6) ∧
      ∃ count, ∀ limit, limit = 0 ∨ count < limit →
        (evaluateStatements 4 c64scriptMaxStackDepth sumProgram 0 []).Ended 4 count
          (c64scriptVmExecute quietHost code count
            { runtimeCreate () with maxIterations := limit }) := by
  obtain ⟨code, compiled⟩ : ∃ code, c64scriptCompile sumProgram [] = .ok code := ⟨_, rfl⟩
  refine ⟨code, _, compiled, rfl, rfl, ?_⟩
  exact compiledProgram_ends compiled rfl (by decide) (fun _ _ => rfl) () 4

end Programs

end C64Stream
