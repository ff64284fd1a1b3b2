import C64Stream.Script.ExecutorLaws
import C64Stream.Script.Jumps

/-! Stepping through a script, one call for each instruction, beside executing it at once. -/

namespace C64Stream

variable {R World : Type} [ScriptNumber R]

section Drivers

/-- Execute one instruction: whether there was one and it succeeded, and the state after it. -/
def c64scriptVmStep (host : Host R World) (code : Code R) (runtime : Runtime R World) :
    Bool × Runtime R World :=
  if code.bytecode = [] then (false, runtime)
  else
    let runtime := observe host runtime
    match code.bytecode[runtime.ip]? with
    | none => (false, runtime)
    | some instruction =>
      if runtime.flags.shouldStop then (false, runtime)
      else if runtime.atIterationLimit then
        (false,
          { runtime.withError (iterationLimitMessage runtime.maxIterations) with
            iterationCount := runtime.iterationCount + 1
            flags := { runtime.flags with shouldStop := true } })
      else
        let counted :=
          if 0 < runtime.maxIterations then
            { runtime with iterationCount := runtime.iterationCount + 1 }
          else runtime
        -- There is no wait for a pause here.
        match executeInstruction host code instruction (beginInstruction instruction counted) with
        | (none, after) => (false, after)
        | (some skipLineUpdate, after) =>
          (true, updateLines code instruction.sourceLine skipLineUpdate after)

/-- Step until a call answers no, or so many times: the last answer, and the state after it. -/
def stepCalls (host : Host R World) (code : Code R) : Nat → Runtime R World →
    Bool × Runtime R World
  | 0, runtime => (true, runtime)
  | calls + 1, runtime =>
    match c64scriptVmStep host code runtime with
    | (true, after) => stepCalls host code calls after
    | (false, after) => (false, after)

/-- Execute a script for at most so many rounds; it finishes with success or fails. -/
def c64scriptVmExecute (host : Host R World) (code : Code R) (rounds : Nat)
    (runtime : Runtime R World) : Progress R World :=
  if code.bytecode = [] then .failed runtime else vmRun host code rounds (vmStart code runtime)

end Drivers

section Agreement

/-- The fields of a runtime that no instruction reads or writes. -/
structure Counters where
  maxIterations : Nat
  iterationCount : Nat
  lastExecutedLine : Int
  nextLineToExecute : Int

/-- These fields of a runtime. -/
def Runtime.counters (runtime : Runtime R World) : Counters :=
  ⟨runtime.maxIterations, runtime.iterationCount, runtime.lastExecutedLine,
    runtime.nextLineToExecute⟩

/-- The runtime with these fields replaced. -/
def Runtime.withCounters (counters : Counters) (runtime : Runtime R World) : Runtime R World :=
  { runtime with
    maxIterations := counters.maxIterations
    iterationCount := counters.iterationCount
    lastExecutedLine := counters.lastExecutedLine
    nextLineToExecute := counters.nextLineToExecute }

/-- Two runtimes agree on all that a script can see, and on when it has run for too long. -/
structure Runtime.Agrees (executed stepped : Runtime R World) : Prop where
  /-- The variables, stacks, flags, world and error, and the instruction pointer. -/
  visible : stepped = executed.withCounters stepped.counters
  limit : stepped.maxIterations = executed.maxIterations
  count : executed.maxIterations = 0 ∨ stepped.iterationCount = executed.iterationCount

/-- No instruction is left, or the script was asked to stop. -/
def Runtime.AtEnd (host : Host R World) (code : Code R) (runtime : Runtime R World) : Prop :=
  code.bytecode.length ≤ runtime.ip ∨ (observe host runtime).flags.shouldStop

/-- Nobody asks the script to pause or to stop. -/
def Host.Quiet (host : Host R World) : Prop :=
  ∀ world flags, (host.requests world flags).1 = flags

/-- The states that both ways of running a script reach, and how they end. -/
def SteppedAlike (host : Host R World) (code : Code R) (runtime : Runtime R World)
    (rounds : Nat) : Progress R World → Prop
  | .running executed =>
    ∃ stepped, stepCalls host code rounds runtime = (true, stepped) ∧ executed.Agrees stepped
  | .finished executed =>
    ∃ calls before stepped, calls < rounds ∧
      stepCalls host code calls runtime = (true, before) ∧ before.AtEnd host code ∧
      c64scriptVmStep host code before = (false, stepped) ∧ executed.Agrees stepped
  | .failed executed =>
    ∃ calls before stepped, calls < rounds ∧
      stepCalls host code calls runtime = (true, before) ∧ ¬ before.AtEnd host code ∧
      c64scriptVmStep host code before = (false, stepped) ∧ executed.Agrees stepped

end Agreement

section Frames

variable {host : Host R World} {code : Code R} (counters : Counters)

/-- The outcome of an instruction with the counters replaced. -/
def Executed.withCounters (executed : Executed R World) : Executed R World :=
  (executed.1, executed.2.withCounters counters)

theorem handleOp_withCounters (op : VmOp R World) (runtime : Runtime R World) :
    handleOp op (runtime.withCounters counters) =
      ((handleOp op runtime).1, (handleOp op runtime).2.withCounters counters) := by
  cases op with
  | pop =>
    simp only [handleOp]
    rw [show (runtime.withCounters counters).stack = runtime.stack from rfl]
    cases runtime.stack <;> rfl
  | push value =>
    show (if c64scriptMaxStackDepth ≤ runtime.stack.length then _ else _) = _
    simp only [handleOp]
    split <;> rfl
  | setVar name value =>
    simp only [handleOp]
    rw [show (runtime.withCounters counters).toMachine = runtime.toMachine from rfl]
    cases setVar runtime.toMachine name value <;> rfl
  | _ => rfl

theorem andThen_withCounters {α : Type} (program : Program R World α) (runtime : Runtime R World)
    {next : α → Runtime R World → Executed R World}
    (blind : ∀ result after, next result (after.withCounters counters) =
      Executed.withCounters counters (next result after)) :
    andThen program (runtime.withCounters counters) next =
      Executed.withCounters counters (andThen program runtime next) := by
  unfold andThen
  rw [Effectful.run_commutes (handleOp_withCounters counters) program runtime]
  cases program.run handleOp runtime with
  | mk reply after =>
    cases reply with
    | none => rfl
    | some result => exact blind result after

omit [ScriptNumber R] in
omit [ScriptNumber R] in
theorem withCounters_machine (runtime : Runtime R World) :
    (runtime.withCounters counters).toMachine = runtime.toMachine := rfl

theorem executeReturn_withCounters (hasReturnValue : Bool) (runtime : Runtime R World) :
    executeReturn hasReturnValue (runtime.withCounters counters) =
      Executed.withCounters counters (executeReturn hasReturnValue runtime) := by
  simp only [executeReturn, withCounters_machine]
  cases runtime.scopeStack with
  | cons scope rest =>
    refine andThen_withCounters counters _ _ fun value after => ?_
    exact andThen_withCounters counters _ { after with scopeStack := after.scopeStack.tail }
      fun _ _ => rfl
  | nil =>
    cases runtime.gosubStack with
    | cons gosub rest => exact andThen_withCounters counters _ _ fun _ _ => rfl
    | nil => rfl

theorem executeCallFunction_withCounters (operand : Nat) (runtime : Runtime R World) :
    executeCallFunction code operand (runtime.withCounters counters) =
      Executed.withCounters counters (executeCallFunction code operand runtime) := by
  unfold executeCallFunction
  dsimp only
  cases code.functions[operand / 65536]? with
  | none => rfl
  | some function =>
    -- The three complaints are made in turn, in the same cases.
    dsimp only
    rw [apply_ite (Executed.withCounters counters), apply_ite (Executed.withCounters counters),
      apply_ite (Executed.withCounters counters)]
    rfl

theorem executeForCheck_withCounters (operand : Nat) (runtime : Runtime R World) :
    executeForCheck operand (runtime.withCounters counters) =
      Executed.withCounters counters (executeForCheck operand runtime) := by
  simp only [executeForCheck, withCounters_machine]
  cases runtime.forStack with
  | nil => rfl
  | cons state rest =>
    dsimp only
    cases requireNumber (getVar runtime.toMachine state.variableName) (text "FOR") with
    | error message => rfl
    | ok current =>
      dsimp only
      split_ifs <;> rfl

theorem executeForIncr_withCounters (runtime : Runtime R World) :
    executeForIncr (runtime.withCounters counters) =
      Executed.withCounters counters (executeForIncr runtime) := by
  simp only [executeForIncr, withCounters_machine]
  cases runtime.forStack with
  | nil => rfl
  | cons state rest =>
    dsimp only
    cases requireNumber (getVar runtime.toMachine state.variableName) (text "FOR") with
    | error message => rfl
    | ok current => exact andThen_withCounters counters _ _ fun _ _ => rfl

theorem executeInstruction_withCounters (instruction : Instruction) (runtime : Runtime R World) :
    executeInstruction host code instruction (runtime.withCounters counters) =
      Executed.withCounters counters (executeInstruction host code instruction runtime) := by
  unfold executeInstruction
  split
  case h_1 => rfl
  case h_2 | h_3 =>
    refine andThen_withCounters counters _ _ fun _ after => ?_
    split_ifs <;> rfl
  case h_4 =>
    refine andThen_withCounters counters _ _ fun _ after => ?_
    rw [apply_ite (Executed.withCounters counters)]
    rfl
  case h_5 | h_6 => exact executeReturn_withCounters counters _ _
  case h_7 => exact executeCallFunction_withCounters counters _ _
  case h_8 | h_9 => rfl
  case h_10 =>
    refine andThen_withCounters counters _ _ fun _ after => ?_
    rw [apply_ite (Executed.withCounters counters)]
    cases constantName code instruction.operand (invalidConstant []) <;> rfl
  case h_11 => exact executeForCheck_withCounters counters _ _
  case h_12 => exact executeForIncr_withCounters counters _
  case h_13 => exact andThen_withCounters counters _ _ fun _ _ => rfl

theorem executeInstruction_counters (instruction : Instruction) (runtime : Runtime R World) :
    (executeInstruction host code instruction runtime).2.counters = runtime.counters := by
  have same := @executeInstruction_withCounters R World _ host code runtime.counters instruction
    runtime
  rw [show runtime.withCounters runtime.counters = runtime from rfl] at same
  rw [same]
  rfl

end Frames

section Simulation

variable {host : Host R World} {code : Code R} {executed stepped : Runtime R World}

omit [ScriptNumber R] in
theorem Runtime.Agrees.exists (agrees : executed.Agrees stepped) :
    ∃ counters, stepped = executed.withCounters counters ∧
      counters.maxIterations = executed.maxIterations ∧
      (executed.maxIterations = 0 ∨ counters.iterationCount = executed.iterationCount) :=
  ⟨stepped.counters, agrees.visible, agrees.limit, agrees.count⟩

theorem Runtime.Agrees.observe (agrees : executed.Agrees stepped) :
    (observe host executed).Agrees (observe host stepped) := by
  obtain ⟨counters, rfl, limit, count⟩ := agrees.exists
  exact ⟨rfl, limit, count⟩

omit [ScriptNumber R] in
theorem Runtime.Agrees.atIterationLimit (agrees : executed.Agrees stepped) :
    executed.atIterationLimit = stepped.atIterationLimit := by
  unfold Runtime.atIterationLimit
  rw [agrees.limit]
  -- Without a limit the counts need not be the same.
  rcases agrees.count with unlimited | same
  · simp [unlimited]
  · rw [same]

omit [ScriptNumber R] in
theorem Runtime.Agrees.overLimit (agrees : executed.Agrees stepped) :
    Runtime.Agrees
      { executed.withError (iterationLimitMessage executed.maxIterations) with
        iterationCount := executed.iterationCount + 1
        flags := { executed.flags with shouldStop := true } }
      { stepped.withError (iterationLimitMessage stepped.maxIterations) with
        iterationCount := stepped.iterationCount + 1
        flags := { stepped.flags with shouldStop := true } } := by
  obtain ⟨counters, rfl, limit, count⟩ := agrees.exists
  refine ⟨?_, limit, count.imp_right (congrArg Nat.succ)⟩
  rw [show (executed.withCounters counters).maxIterations = executed.maxIterations from limit]
  rfl

omit [ScriptNumber R] in
theorem Runtime.Agrees.counted (agrees : executed.Agrees stepped) :
    Runtime.Agrees
      (if 0 < executed.maxIterations then
        { executed with iterationCount := executed.iterationCount + 1 }
      else executed)
      (if 0 < stepped.maxIterations then
        { stepped with iterationCount := stepped.iterationCount + 1 }
      else stepped) := by
  rw [agrees.limit]
  split_ifs with limited
  · obtain ⟨counters, rfl, limit, count⟩ := agrees.exists
    exact ⟨rfl, rfl, count.imp_right (congrArg Nat.succ)⟩
  · exact agrees

theorem Runtime.Agrees.execute (agrees : executed.Agrees stepped) (instruction : Instruction) :
    (executeInstruction host code instruction executed).1 =
        (executeInstruction host code instruction stepped).1 ∧
      (executeInstruction host code instruction executed).2.Agrees
        (executeInstruction host code instruction stepped).2 := by
  obtain ⟨counters, rfl, limit, count⟩ := agrees.exists
  have kept := @executeInstruction_counters R World _ host code instruction executed
  rw [executeInstruction_withCounters]
  refine ⟨rfl, rfl, ?_, ?_⟩
  · exact limit.trans (congrArg Counters.maxIterations kept).symm
  · rw [show Runtime.maxIterations _ = _ from congrArg Counters.maxIterations kept,
      show Runtime.iterationCount (executeInstruction host code instruction executed).2 = _ from
        congrArg Counters.iterationCount kept]
    exact count

theorem Runtime.Agrees.updateLines (agrees : executed.Agrees stepped) (line : Int) (skip : Bool) :
    (updateLines code line skip executed).Agrees (updateLines code line skip stepped) := by
  obtain ⟨counters, rfl, limit, count⟩ := agrees.exists
  exact ⟨rfl, limit, count⟩

/-- A round and a call of the stepper go the same way. -/
theorem vmStep_alike (quiet : host.Quiet) (present : code.bytecode ≠ [])
    (agrees : executed.Agrees stepped) (unpaused : executed.flags.shouldPause = false) :
    match vmStep host code executed with
    | .running after =>
      after.flags.shouldPause = false ∧
        ∃ next, c64scriptVmStep host code stepped = (true, next) ∧ after.Agrees next
    | .finished after =>
      stepped.AtEnd host code ∧
        ∃ next, c64scriptVmStep host code stepped = (false, next) ∧ after.Agrees next
    | .failed after =>
      ¬ stepped.AtEnd host code ∧
        ∃ next, c64scriptVmStep host code stepped = (false, next) ∧ after.Agrees next := by
  have seen := @Runtime.Agrees.observe R World _ host executed stepped agrees
  have unasked : (observe host executed).flags.shouldPause = false := by
    rw [show (observe host executed).flags = executed.flags from quiet _ _, unpaused]
  have place : (observe host stepped).ip = (observe host executed).ip := by
    rw [seen.visible]
    rfl
  have flags : (observe host stepped).flags = (observe host executed).flags := by
    rw [seen.visible]
    rfl
  have ending : stepped.AtEnd host code ↔
      code.bytecode.length ≤ (observe host executed).ip ∨
        (observe host executed).flags.shouldStop := by
    rw [Runtime.AtEnd, flags, ← place]
    rfl
  unfold vmStep c64scriptVmStep
  rw [if_neg present, ending]
  dsimp only
  rw [place, ← seen.atIterationLimit]
  -- What follows only depends on the states that the round and the call have seen.
  generalize observe host executed = executed at *
  generalize observe host stepped = stepped at *
  cases found : code.bytecode[executed.ip]? with
  | none => exact ⟨.inl (List.getElem?_eq_none_iff.mp found), stepped, rfl, seen⟩
  | some instruction =>
    have inside : ¬ code.bytecode.length ≤ executed.ip := by
      intro past
      rw [List.getElem?_eq_none past] at found
      cases found
    dsimp only
    by_cases stopped : executed.flags.shouldStop = true
    · have stops : stepped.flags.shouldStop = true := by rw [flags, stopped]
      rw [if_pos stopped, if_pos stops]
      exact ⟨.inr stopped, stepped, rfl, seen⟩
    have going : ¬ stepped.flags.shouldStop = true := by rwa [flags]
    rw [if_neg stopped, if_neg going]
    have notAtEnd : ¬ (code.bytecode.length ≤ executed.ip ∨ executed.flags.shouldStop = true) :=
      not_or.mpr ⟨inside, stopped⟩
    by_cases limit : executed.atIterationLimit = true
    · rw [if_pos limit, if_pos limit]
      exact ⟨notAtEnd, _, rfl, seen.overLimit⟩
    rw [if_neg limit, if_neg limit]
    have counted := seen.counted
    have kept : (if 0 < executed.maxIterations then
        { executed with iterationCount := executed.iterationCount + 1 } else executed).flags =
          executed.flags := by
      split_ifs <;> rfl
    generalize (if 0 < executed.maxIterations then
      { executed with iterationCount := executed.iterationCount + 1 } else executed) =
        first at *
    generalize (if 0 < stepped.maxIterations then
      { stepped with iterationCount := stepped.iterationCount + 1 } else stepped) = second at *
    have straight : pauseAtLine host instruction.sourceLine first = first := by
      rw [pauseAtLine, if_neg]
      rw [kept, unasked]
      exact fun waits => Bool.false_ne_true waits.1
    rw [straight, kept, if_neg stopped]
    have begun : (beginInstruction instruction first).Agrees
        (beginInstruction instruction second) := by
      obtain ⟨counters, rfl, limit, count⟩ := counted.exists
      exact ⟨rfl, limit, count⟩
    obtain ⟨same, after⟩ := @Runtime.Agrees.execute R World _ host code _ _ begun instruction
    have watched := @executeInstruction_watched R World _ host code instruction
      (beginInstruction instruction first)
    unfold vmDispatch
    cases outcome : executeInstruction host code instruction
      (beginInstruction instruction first) with
    | mk result left =>
      cases other : executeInstruction host code instruction
        (beginInstruction instruction second) with
      | mk answer right =>
        rw [outcome, other] at same after
        rw [outcome] at watched
        obtain rfl : result = answer := same
        cases result with
        | none => exact ⟨notAtEnd, right, rfl, after⟩
        | some skip =>
          refine ⟨?_, _, rfl, after.updateLines _ _⟩
          have pausing : first.flags.shouldPause = false := by rw [kept, unasked]
          rcases watched with same | stops
          · exact (congrArg (fun watched => watched.1.shouldPause) same).trans pausing
          · exact (congrArg (fun watched => watched.1.shouldPause) stops).trans pausing

theorem SteppedAlike.of_next {next : Runtime R World} {rounds : Nat}
    {outcome : Progress R World}
    (answered : c64scriptVmStep host code stepped = (true, next))
    (alike : SteppedAlike host code next rounds outcome) :
    SteppedAlike host code stepped (rounds + 1) outcome := by
  have again : ∀ calls, stepCalls host code (calls + 1) stepped =
      stepCalls host code calls next := by
    intro calls
    rw [stepCalls, answered]
  cases outcome with
  | running after =>
    obtain ⟨last, reached, agrees⟩ := alike
    exact ⟨last, (again rounds).trans reached, agrees⟩
  | finished after =>
    obtain ⟨calls, before, last, fewer, reached, ending, stopped, agrees⟩ := alike
    exact ⟨calls + 1, before, last, Nat.succ_lt_succ fewer, (again calls).trans reached, ending,
      stopped, agrees⟩
  | failed after =>
    obtain ⟨calls, before, last, fewer, reached, ending, stopped, agrees⟩ := alike
    exact ⟨calls + 1, before, last, Nat.succ_lt_succ fewer, (again calls).trans reached, ending,
      stopped, agrees⟩

theorem vmRun_alike (quiet : host.Quiet) (present : code.bytecode ≠ []) (rounds : Nat)
    (agrees : executed.Agrees stepped) (unpaused : executed.flags.shouldPause = false) :
    SteppedAlike host code stepped rounds (vmRun host code rounds executed) := by
  -- The induction is on the rounds, and one round is one call.
  induction rounds generalizing executed stepped with
  | zero => exact ⟨stepped, rfl, agrees⟩
  | succ rounds ih =>
    have alike := vmStep_alike quiet present agrees unpaused
    rw [vmRun]
    cases outcome : vmStep host code executed with
    | running after =>
      rw [outcome] at alike
      obtain ⟨still, next, answered, same⟩ := alike
      exact (ih same still).of_next answered
    | finished after =>
      rw [outcome] at alike
      obtain ⟨ending, next, answered, same⟩ := alike
      exact ⟨0, stepped, next, Nat.succ_pos _, rfl, ending, answered, same⟩
    | failed after =>
      rw [outcome] at alike
      obtain ⟨ending, next, answered, same⟩ := alike
      exact ⟨0, stepped, next, Nat.succ_pos _, rfl, ending, answered, same⟩

theorem compile_present {program : List (AstStmt R)} {functions : List FunctionDef}
    (compiled : c64scriptCompile program functions = .ok code) : code.bytecode ≠ [] := by
  have size := (compile_placed compiled).2
  rintro empty
  rw [empty, flattenProgram, codeSize_append] at size
  simp [Item.size] at size

/-- Stepping and executing agree for a runtime that has counted nothing or has no limit. -/
theorem stepping_agrees (host : Host R World) (quiet : host.Quiet)
    (program : List (AstStmt R)) (functions : List FunctionDef) (code : Code R)
    (compiled : c64scriptCompile program functions = .ok code) (runtime : Runtime R World)
    (start : runtime.ip = 0)
    (unasked : runtime.flags.shouldStop = false ∧ runtime.flags.shouldPause = false)
    (uncounted : runtime.maxIterations = 0 ∨ runtime.iterationCount = 0) (rounds : Nat) :
    SteppedAlike host code runtime rounds (c64scriptVmExecute host code rounds runtime) := by
  have present := compile_present compiled
  rw [c64scriptVmExecute, if_neg present]
  -- Besides the counters, executing only sets what is so already.
  have begins : (vmStart code runtime).withCounters runtime.counters = runtime := by
    show { runtime with ip := 0, flags := { runtime.flags with shouldStop := false } } = runtime
    rw [← start, ← unasked.1]
  have agrees : (vmStart code runtime).Agrees runtime :=
    ⟨begins.symm, rfl, uncounted.imp_right fun none => none⟩
  exact vmRun_alike quiet present rounds agrees unasked.2

def idleProgram : List (AstStmt Int) := [.empty 1]

/-- A runtime that may execute one more instruction, or two from the start. -/
def countedRuntime (iterationCount : Nat) : Runtime Int Unit :=
  { runtimeCreate () with maxIterations := 2, iterationCount }

/-- The code of the program. -/
def idleCode : Code Int where
  bytecode := [⟨.halt, 0, -1⟩]
  constants := []
  functions := []

/-- A runtime that has counted nothing is stepped to the same end. -/
theorem idleProgram_alike :
    SteppedAlike quietHost idleCode (countedRuntime 0) 2
      (c64scriptVmExecute quietHost idleCode 2 (countedRuntime 0)) :=
  stepping_agrees quietHost (fun _ _ => rfl) idleProgram [] idleCode rfl (countedRuntime 0) rfl
    ⟨rfl, rfl⟩ (.inr rfl) 2

/-- An earlier count makes the first step fail where executing succeeds. -/
theorem countedRuntime_differs :
    c64scriptCompile idleProgram [] = .ok idleCode ∧
      (∃ stepped, c64scriptVmStep quietHost idleCode (countedRuntime 1) = (false, stepped) ∧
        stepped.ip = 0 ∧ stepped.errorMsg = text "Iteration limit exceeded (2 iterations)") ∧
      ∃ executed, c64scriptVmExecute quietHost idleCode 2 (countedRuntime 1) =
          .finished executed ∧
        executed.ip = 1 ∧ executed.errorMsg = [] :=
  ⟨rfl, ⟨_, rfl, rfl, by decide +kernel⟩, ⟨_, rfl, rfl, rfl⟩⟩

end Simulation

end C64Stream
