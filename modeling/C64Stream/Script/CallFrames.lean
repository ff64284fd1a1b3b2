import C64Stream.Script.Tables

/-! What the call of a function leaves alone: the global variables and the scopes of its callers. -/

namespace C64Stream

variable {R World : Type} [ScriptNumber R]

section Calls

/-- The operand of the function call at an address, if there is one. -/
def Code.callAt (code : Code R) (ip : Nat) : Option Nat :=
  match code.bytecode[ip]? with
  | some instruction =>
    if instruction.opcode = .callFunction then some instruction.operand else none
  | none => none

/-- Whether a scope is open that was not open at a call. -/
def insideCall (call runtime : Runtime R World) : Bool :=
  decide (call.toMachine.depth < runtime.toMachine.depth)

/-- The function call that a runtime is about to make, followed for at most so many rounds: the
states in which its scope is open, and the first one behind it. -/
def callRun (host : Host R World) (code : Code R) (rounds : Nat) (call : Runtime R World) :
    Option (List (Runtime R World) × Runtime R World) :=
  if (code.callAt call.ip).isSome then
    (vmNext host code call).bind (stepsWhile (vmNext host code) (insideCall call) rounds)
  else none

end Calls

section Kept

variable {globals : Variables R} {callers : List (Scope R)}

/-- The global variables are these, and so are the scopes below those that a call has opened. -/
structure CallersKept (globals : Variables R) (callers : List (Scope R)) (machine : Machine R) :
    Prop where
  globals : machine.globalVars = globals
  scopes : ∃ inner, inner ≠ [] ∧ machine.scopeStack = inner ++ callers

theorem setVar_keepsCallers {before after : Machine R} {name : Text} {value : Value R}
    (kept : CallersKept globals callers before) (set : setVar before name value = .ok after) :
    CallersKept globals callers after := by
  obtain ⟨inner, opened, scopes⟩ := kept.scopes
  obtain ⟨scope, others, rfl⟩ := List.exists_cons_of_ne_nil opened
  simp only [setVar, Bind.bind, Except.bind] at set
  split at set
  · -- The value does not fit the name.
    cases set
  · rw [scopes] at set
    rw [← Except.ok.inj set]
    exact ⟨kept.globals, _ :: others, List.cons_ne_nil _ _, rfl⟩

theorem handleOp_keepsCallers (op : VmOp R World) (runtime : Runtime R World)
    (kept : CallersKept globals callers runtime.toMachine) :
    CallersKept globals callers (handleOp op runtime).2.toMachine := by
  cases op with
  | pop =>
    simp only [handleOp]
    split <;> exact ⟨kept.globals, kept.scopes⟩
  | push value =>
    simp only [handleOp]
    split <;> exact ⟨kept.globals, kept.scopes⟩
  | setVar name value =>
    simp only [handleOp]
    split
    · exact kept
    · exact setVar_keepsCallers kept ‹_›
  | _ => exact kept

theorem andThen_keepsCallers {α : Type} {program : Program R World α}
    {runtime after : Runtime R World} {next : α → Runtime R World → Executed R World} {skip : Bool}
    (kept : CallersKept globals callers runtime.toMachine)
    (executed : andThen program runtime next = (some skip, after)) :
    ∃ result middle, CallersKept globals callers middle.toMachine ∧
      next result middle = (some skip, after) := by
  -- The program preserves the callers operation by operation.
  have same := Effectful.run_preserves
    (fun runtime : Runtime R World => CallersKept globals callers runtime.toMachine)
    handleOp_keepsCallers program kept
  obtain ⟨result, middle, _, ran, rest⟩ := andThen_control executed
  rw [ran] at same
  exact ⟨result, middle, same, rest⟩

/-- The call has returned, and everything of its callers is as it was. -/
structure CallersBack (globals : Variables R) (callers : List (Scope R)) (machine : Machine R) :
    Prop where
  globals : machine.globalVars = globals
  scopes : machine.scopeStack = callers

variable {host : Host R World} {code : Code R} {instruction : Instruction}
  {runtime after : Runtime R World} {skip : Bool}

theorem executeReturn_keepsCallers {hasReturnValue : Bool}
    (kept : CallersKept globals callers runtime.toMachine)
    (executed : executeReturn hasReturnValue runtime = (some skip, after)) :
    CallersKept globals callers after.toMachine ∨
      CallersBack globals callers after.toMachine := by
  obtain ⟨inner, opened, scopes⟩ := kept.scopes
  obtain ⟨scope, others, rfl⟩ := List.exists_cons_of_ne_nil opened
  have scopes : runtime.scopeStack = scope :: (others ++ callers) := scopes
  unfold executeReturn at executed
  simp only [scopes] at executed
  -- The value is taken in the scope of the function, and put back behind it.
  obtain ⟨value, middle, same, rest⟩ := andThen_keepsCallers kept executed
  obtain ⟨left, unopened, open'⟩ := same.scopes
  obtain ⟨closed, remaining, rfl⟩ := List.exists_cons_of_ne_nil unopened
  have tail : middle.scopeStack.tail = remaining ++ callers := by
    rw [show middle.scopeStack = closed :: (remaining ++ callers) from open']
    rfl
  obtain ⟨_, last, _, pushed, ends⟩ := andThen_control rest
  obtain ⟨-, rfl⟩ := push_ok pushed
  obtain ⟨-, rfl⟩ := Prod.mk.inj ends
  cases remaining with
  | nil => exact .inr ⟨same.globals, tail⟩
  | cons other remaining =>
    exact .inl ⟨same.globals, other :: remaining, List.cons_ne_nil _ _, tail⟩

theorem executeCallFunction_keepsCallers {operand : Nat}
    (kept : CallersKept globals callers runtime.toMachine)
    (executed : executeCallFunction code operand runtime = (some skip, after)) :
    CallersKept globals callers after.toMachine := by
  obtain ⟨inner, opened, scopes⟩ := kept.scopes
  unfold executeCallFunction at executed
  simp only at executed
  split at executed
  · cases executed
  · split_ifs at executed
    · cases executed
    · cases executed
    · cases executed
    · obtain ⟨-, rfl⟩ := Prod.mk.inj executed
      have scopes : runtime.scopeStack = inner ++ callers := scopes
      rename_i function _ _ _ _
      let scope : Scope R := ⟨(function.paramNames.reverse.map nameField).zip runtime.stack,
        runtime.globalVars.length, runtime.ip⟩
      exact ⟨kept.globals, scope :: inner, List.cons_ne_nil _ _, congrArg (List.cons scope) scopes⟩

theorem executeInstruction_keepsCallers (kept : CallersKept globals callers runtime.toMachine)
    (executed : executeInstruction host code instruction runtime = (some skip, after)) :
    CallersKept globals callers after.toMachine ∨
      CallersBack globals callers after.toMachine := by
  unfold executeInstruction at executed
  split at executed
  case h_1 =>
    obtain ⟨-, rfl⟩ := Prod.mk.inj executed
    exact .inl ⟨kept.globals, kept.scopes⟩
  case h_2 =>
    obtain ⟨_, middle, same, rest⟩ := andThen_keepsCallers kept executed
    obtain ⟨-, rfl⟩ := Prod.mk.inj rest
    split <;> exact .inl ⟨same.globals, same.scopes⟩
  case h_3 =>
    obtain ⟨_, middle, same, rest⟩ := andThen_keepsCallers kept executed
    obtain ⟨-, rfl⟩ := Prod.mk.inj rest
    split <;> exact .inl ⟨same.globals, same.scopes⟩
  case h_4 =>
    -- The parameters of a subroutine go to the scope of the function that calls it.
    obtain ⟨_, middle, same, rest⟩ := andThen_keepsCallers kept executed
    split at rest
    · cases rest
    · obtain ⟨-, rfl⟩ := Prod.mk.inj rest
      exact .inl ⟨same.globals, same.scopes⟩
  case h_5 => exact executeReturn_keepsCallers kept executed
  case h_6 => exact executeReturn_keepsCallers kept executed
  case h_7 => exact .inl (executeCallFunction_keepsCallers kept executed)
  case h_8 =>
    obtain ⟨-, rfl⟩ := Prod.mk.inj executed
    exact .inl ⟨kept.globals, kept.scopes⟩
  case h_9 =>
    obtain ⟨-, rfl⟩ := Prod.mk.inj executed
    exact .inl ⟨kept.globals, kept.scopes⟩
  case h_10 =>
    obtain ⟨_, middle, same, rest⟩ := andThen_keepsCallers kept executed
    split at rest
    · cases rest
    · split at rest
      · cases rest
      · obtain ⟨-, rfl⟩ := Prod.mk.inj rest
        exact .inl ⟨same.globals, same.scopes⟩
  case h_11 =>
    unfold executeForCheck at executed
    split at executed
    · cases executed
    · split at executed
      · cases executed
      · split at executed <;> obtain ⟨-, rfl⟩ := Prod.mk.inj executed <;>
          exact .inl ⟨kept.globals, kept.scopes⟩
  case h_12 =>
    unfold executeForIncr at executed
    split at executed
    · cases executed
    · split at executed
      · cases executed
      · obtain ⟨_, middle, same, rest⟩ := andThen_keepsCallers kept executed
        obtain ⟨-, rfl⟩ := Prod.mk.inj rest
        exact .inl same
  case h_13 =>
    obtain ⟨_, middle, same, rest⟩ := andThen_keepsCallers kept executed
    obtain ⟨-, rfl⟩ := Prod.mk.inj rest
    exact .inl same

end Kept

section Rounds

variable {host : Host R World} {code : Code R} {call entered : Runtime R World} {operand : Nat}
  {globals : Variables R} {runtime after : Runtime R World}

theorem callAt_eq_some {ip : Nat} :
    code.callAt ip = some operand ↔
      ∃ line, code.bytecode[ip]? = some ⟨.callFunction, operand, line⟩ := by
  unfold Code.callAt
  cases code.bytecode[ip]? with
  | none => simp
  | some instruction =>
    obtain ⟨opcode, found, line⟩ := instruction
    by_cases calls : opcode = .callFunction
    · simp [calls]
    · simp [calls]

theorem vmNext_call (calls : code.callAt call.ip = some operand)
    (stepped : vmNext host code call = some entered) :
    ∃ function, code.functions[operand / 65536]? = some function ∧
      operand % 65536 = function.paramNames.length ∧ operand % 65536 ≤ call.stack.length ∧
        entered.toMachine =
          { call.toMachine with
            ip := function.bytecodeAddress
            stack := call.stack.drop (operand % 65536)
            scopeStack :=
              ⟨(function.paramNames.reverse.map nameField).zip call.stack, call.globalVars.length,
                call.ip + 1⟩ :: call.scopeStack } := by
  obtain ⟨line, found⟩ := callAt_eq_some.mp calls
  obtain ⟨same, begun, skip, executed, here, begins, outcome, ends⟩ :=
    vmStep_running (vmNext_eq_some.mp stepped)
  obtain rfl := Option.some.inj (found.symm.trans here)
  simp only [executeInstruction, executeCallFunction] at outcome
  split at outcome
  · cases outcome
  · rename_i function known
    split_ifs at outcome with arity deep short
    · cases outcome
    · cases outcome
    · cases outcome
    · obtain ⟨-, rfl⟩ := Prod.mk.inj outcome
      -- Nothing but the instruction pointer had changed before the call was executed.
      have stack : begun.toMachine.stack = call.stack := by rw [begins]
      rw [stack] at short
      refine ⟨function, known, not_ne_iff.mp arity, Nat.le_of_not_lt short, ?_⟩
      rw [ends]
      show { begun.toMachine with
        ip := function.bytecodeAddress
        stack := begun.toMachine.stack.drop (operand % 65536)
        scopeStack :=
          ⟨(function.paramNames.reverse.map nameField).zip begun.toMachine.stack,
            begun.toMachine.globalVars.length, begun.toMachine.ip⟩ ::
              begun.toMachine.scopeStack } = _
      rw [begins]

theorem vmNext_keepsCallers {callers : List (Scope R)}
    (kept : CallersKept globals callers runtime.toMachine)
    (stepped : vmNext host code runtime = some after) :
    CallersKept globals callers after.toMachine ∨
      CallersBack globals callers after.toMachine := by
  obtain ⟨_, begun, _, executed, _, begins, outcome, ends⟩ :=
    vmStep_running (vmNext_eq_some.mp stepped)
  have start : CallersKept globals callers begun.toMachine := by
    rw [begins]
    exact ⟨kept.globals, kept.scopes⟩
  rw [ends]
  exact executeInstruction_keepsCallers start outcome

omit [ScriptNumber R] in
theorem CallersKept.inside (kept : CallersKept globals call.scopeStack runtime.toMachine) :
    insideCall call runtime = true := by
  obtain ⟨inner, opened, scopes⟩ := kept.scopes
  have positive : 0 < inner.length := List.length_pos_of_ne_nil opened
  have scopes : runtime.scopeStack = inner ++ call.scopeStack := scopes
  simp only [insideCall, Machine.depth, scopes, List.length_append, decide_eq_true_eq]
  omega

omit [ScriptNumber R] in
theorem CallersBack.outside (back : CallersBack globals call.scopeStack runtime.toMachine) :
    insideCall call runtime = false := by
  have scopes : runtime.scopeStack = call.scopeStack := back.scopes
  simp [insideCall, Machine.depth, scopes]

theorem callRun_entered {rounds : Nat} {states : List (Runtime R World)}
    (returned : callRun host code rounds call = some (states, after)) :
    ∃ operand entered, code.callAt call.ip = some operand ∧
      vmNext host code call = some entered ∧
        stepsWhile (vmNext host code) (insideCall call) rounds entered = some (states, after) := by
  unfold callRun at returned
  split at returned
  · rename_i calls
    obtain ⟨operand, calls⟩ := Option.isSome_iff_exists.mp calls
    obtain ⟨entered, stepped, ran⟩ := Option.bind_eq_some_iff.mp returned
    exact ⟨operand, entered, calls, stepped, ran⟩
  · cases returned

theorem callRun_keepsCallers {rounds : Nat} {states : List (Runtime R World)}
    (returned : callRun host code rounds call = some (states, after)) :
    after.globalVars = call.globalVars ∧ after.scopeStack = call.scopeStack := by
  obtain ⟨operand, entered, calls, stepped, ran⟩ := callRun_entered returned
  obtain ⟨function, _, _, _, machine⟩ := vmNext_call calls stepped
  have start : CallersKept call.globalVars call.scopeStack entered.toMachine := by
    rw [machine]
    exact ⟨rfl, [_], List.cons_ne_nil _ _, rfl⟩
  -- Every round inside the call either leaves the callers alone or returns to them.
  obtain ⟨ended, outside⟩ := @stepsWhile_preserves _ _ _ _ _ _ _
    (fun runtime => CallersKept call.globalVars call.scopeStack runtime.toMachine ∨
      CallersBack call.globalVars call.scopeStack runtime.toMachine)
    (fun state next holds here stepped => by
      rcases holds with kept | back
      · exact vmNext_keepsCallers kept stepped
      · rw [back.outside] at here
        cases here)
    (.inl start) ran
  rcases ended with kept | back
  · -- The scope of the call is gone at the end.
    rw [kept.inside] at outside
    cases outside
  · exact ⟨back.globals, back.scopes⟩

end Rounds

end C64Stream
