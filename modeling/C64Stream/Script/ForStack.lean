import C64Stream.Script.Bytecode
import C64Stream.Script.VmLaws

/-! The stack of `FOR` loops across calls of subroutines and functions. -/

namespace C64Stream

variable {R World : Type} [ScriptNumber R]

/-- The loop stacks that the open calls were made with, the latest call of each kind first. -/
structure SavedLoops (R : Type) where
  functions : List (List (ForState R))
  gosubs : List (List (ForState R))

/-- The saved loop stacks after an instruction. -/
def savedAfter (instruction : Instruction) (machine : Machine R) (saved : SavedLoops R) :
    SavedLoops R :=
  match instruction.opcode with
  | .call => { saved with gosubs := machine.forStack :: saved.gosubs }
  | .callFunction => { saved with functions := machine.forStack :: saved.functions }
  | .return | .returnValue =>
    if machine.scopeStack.isEmpty then { saved with gosubs := saved.gosubs.tail }
    else { saved with functions := saved.functions.tail }
  | _ => saved

/-- A round that goes on, with a record of the loop stacks at the open calls. -/
def loopStep (host : Host R World) (code : Code R) :
    Runtime R World × SavedLoops R → Option (Runtime R World × SavedLoops R) :=
  recordedStep (fun instruction runtime => savedAfter instruction runtime.toMachine) host code

/-- The loop stack that the call was made with from which a return would return. -/
def savedAtReturn (machine : Machine R) (saved : SavedLoops R) : Option (List (ForState R)) :=
  if machine.scopeStack.isEmpty then saved.gosubs.head? else saved.functions.head?

/-- A return gives the caller back the loop stack it made the call with. -/
def RestoresLoops (code : Code R) (state next : Runtime R World × SavedLoops R) : Prop :=
  code.returnsAt state.1.ip →
    savedAtReturn state.1.toMachine state.2 = some next.1.forStack

/-- A return happens with as many open loops as the call had. -/
def ReturnsAtLoopDepth (code : Code R) (state : Runtime R World × SavedLoops R) : Prop :=
  code.returnsAt state.1.ip →
    (savedAtReturn state.1.toMachine state.2).map List.length = some state.1.forStack.length

/-- Whether the instruction at hand finds the innermost loop done. -/
def finishesLoop (code : Code R) (machine : Machine R) : Bool :=
  match code.bytecode[machine.ip]?, machine.forStack with
  | some instruction, state :: _ =>
    match getVar machine state.variableName with
    | .number current => instruction.opcode == .forCheck && state.isDone current
    | _ => false
  | _, _ => false

/-- A loop that is done was opened after the open calls were made. -/
def FinishesOwnLoop (code : Code R) (state : Runtime R World × SavedLoops R) : Prop :=
  finishesLoop code state.1.toMachine →
    ∀ saved ∈ state.2.functions ++ state.2.gosubs, saved.length < state.1.forStack.length

instance decidableFinishesOwnLoop (code : Code R) (state : Runtime R World × SavedLoops R) :
    Decidable (FinishesOwnLoop code state) :=
  inferInstanceAs (Decidable (_ → _))

/-- No call leaves the caller with more or fewer loops than it had. -/
def LoopsSettled (code : Code R) (state : Runtime R World × SavedLoops R) : Prop :=
  ReturnsAtLoopDepth code state ∧ FinishesOwnLoop code state

/-- The loops of every caller are at the bottom of the stack. -/
def CallersBelow (control : Control R) (saved : SavedLoops R) : Prop :=
  ∀ loops ∈ saved.functions ++ saved.gosubs, loops <:+ control.forStack

section Steps

variable {host : Host R World} {code : Code R} {state next : Runtime R World × SavedLoops R}
  {instruction : Instruction}

theorem executeForCheck_finishes {operand : Nat} {runtime after : Runtime R World} {skip : Bool}
    (executed : executeForCheck operand runtime = (some skip, after)) :
    after.forStack = runtime.forStack ∨
      ∃ loop rest current, runtime.forStack = loop :: rest ∧
        getVar runtime.toMachine loop.variableName = .number current ∧
          loop.isDone current = true := by
  unfold executeForCheck at executed
  split at executed
  · cases executed
  · rename_i loop rest loops
    split at executed
    · cases executed
    · rename_i current number
      have value := requireNumber_eq_ok.mp number
      split at executed
      · exact .inr ⟨loop, rest, current, loops, value, ‹_›⟩
      · obtain ⟨-, rfl⟩ := Prod.mk.inj executed
        exact .inl rfl

theorem finishesLoop_of_shrinks {runtime after : Runtime R World}
    (found : code.bytecode[runtime.ip]? = some instruction)
    (stepped : vmStep host code runtime = .running after) (check : instruction.opcode = .forCheck)
    (shrinks : after.forStack ≠ runtime.forStack) :
    finishesLoop code runtime.toMachine = true := by
  obtain ⟨same, entered, skip, executed, here, begins, outcome, ends⟩ := vmStep_running stepped
  obtain rfl : instruction = same := Option.some.inj (found.symm.trans here)
  unfold executeInstruction at outcome
  rw [check] at outcome
  have loops : entered.forStack = runtime.forStack := by
    show entered.toMachine.forStack = _
    rw [begins]
  have final : after.forStack = executed.forStack := congrArg Machine.forStack ends
  rcases executeForCheck_finishes outcome with kept | ⟨loop, rest, current, stack, value, done⟩
  · exact absurd (final.trans (kept.trans loops)) shrinks
  · rw [loops] at stack
    have same : getVar runtime.toMachine loop.variableName = .number current := by
      rw [begins] at value
      exact value
    simp [finishesLoop, found, stack, same, check, done]

omit [ScriptNumber R] in
theorem suffix_of_shorter {loops rest : List (ForState R)} {loop : ForState R}
    (below : loops <:+ loop :: rest) (shorter : loops.length < (loop :: rest).length) :
    loops <:+ rest := by
  rcases List.suffix_cons_iff.mp below with same | inner
  · rw [same] at shorter
    exact absurd shorter (Nat.lt_irrefl _)
  · exact inner

theorem return_restores_iff (agree : CallersBelow state.1.toMachine.control state.2)
    (stepped : loopStep host code state = some next) :
    RestoresLoops code state next ↔ ReturnsAtLoopDepth code state := by
  obtain ⟨instruction, found, effect, _⟩ := recordedStep_control stepped
  unfold RestoresLoops ReturnsAtLoopDepth
  rw [returnsAt_of_found found]
  cases returns : instruction.opcode.isReturn with
  | false => simp
  | true =>
    simp only [forall_const]
    have kept : next.1.forStack = state.1.forStack := by
      rcases effect.of_return returns with ⟨_, _, _, after⟩ | ⟨_, _, _, _, after⟩
      · exact congrArg Control.forStack after
      · exact congrArg Control.forStack after
    rw [kept]
    cases saved : savedAtReturn state.1.toMachine state.2 with
    | none => simp
    | some loops =>
      have member : loops ∈ state.2.functions ++ state.2.gosubs := by
        unfold savedAtReturn at saved
        split at saved
        · exact List.mem_append_right _ (List.mem_of_head? saved)
        · exact List.mem_append_left _ (List.mem_of_head? saved)
      have below : loops <:+ state.1.forStack := agree loops member
      simp only [Option.some.injEq, Option.map_some]
      exact ⟨fun same => by rw [same], below.eq_of_length⟩

omit [ScriptNumber R] in
theorem mem_savedAfter_return {machine : Machine R} {saved : SavedLoops R}
    (returns : instruction.opcode.isReturn) {loops : List (ForState R)}
    (member : loops ∈ (savedAfter instruction machine saved).functions ++
      (savedAfter instruction machine saved).gosubs) :
    loops ∈ saved.functions ++ saved.gosubs := by
  simp only [Opcode.isReturn, Bool.or_eq_true, beq_iff_eq] at returns
  unfold savedAfter at member
  rcases returns with opcode | opcode
  all_goals
    simp only [opcode] at member
    split at member
    all_goals
      simp only [List.mem_append] at member ⊢
      rcases member with function | gosub
  · exact .inl function
  · exact .inr (List.mem_of_mem_tail gosub)
  · exact .inl (List.mem_of_mem_tail function)
  · exact .inr gosub
  · exact .inl function
  · exact .inr (List.mem_of_mem_tail gosub)
  · exact .inl (List.mem_of_mem_tail function)
  · exact .inr gosub

omit [ScriptNumber R] in
theorem savedAfter_plain (plain : instruction.opcode.isCall = false) (machine : Machine R)
    (saved : SavedLoops R) : savedAfter instruction machine saved = saved := by
  unfold savedAfter
  split <;> rename_i opcode <;> first | rfl | (rw [opcode] at plain; cases plain)

theorem callersBelow_step (below : CallersBelow state.1.toMachine.control state.2)
    (own : FinishesOwnLoop code state) (stepped : loopStep host code state = some next) :
    CallersBelow next.1.toMachine.control next.2 := by
  obtain ⟨instruction, found, running, record⟩ := recordedStep_running stepped
  obtain ⟨same, here, effect⟩ := vmStep_control running
  obtain rfl : instruction = same := Option.some.inj (found.symm.trans here)
  rw [record]
  have shrinks := finishesLoop_of_shrinks found running
  have final : next.1.forStack = next.1.toMachine.control.forStack := rfl
  rw [final] at shrinks
  generalize next.1.toMachine.control = after at effect shrinks ⊢
  cases effect with
  | next plain => rwa [savedAfter_plain plain]
  | jump jumps =>
    rwa [savedAfter_plain (by rcases jumps with opcode | opcode | opcode <;> rw [opcode] <;> rfl)]
  | call calls paramCount =>
    intro loops member
    simp only [savedAfter, calls, List.mem_append, List.mem_cons] at member
    rcases member with function | rfl | gosub
    · exact below loops (List.mem_append_left _ function)
    · exact List.suffix_rfl
    · exact below loops (List.mem_append_right _ gosub)
  | callFunction calls function known =>
    intro loops member
    simp only [savedAfter, calls, List.mem_append, List.mem_cons] at member
    rcases member with (rfl | function) | gosub
    · exact List.suffix_rfl
    · exact below loops (List.mem_append_left _ function)
    · exact below loops (List.mem_append_right _ gosub)
  | functionReturn returns => exact fun loops member => below loops (mem_savedAfter_return returns member)
  | gosubReturn returns => exact fun loops member => below loops (mem_savedAfter_return returns member)
  | forInit enters loop =>
    rw [savedAfter_plain (by rw [enters]; rfl)]
    exact fun loops member => (below loops member).trans (List.suffix_cons _ _)
  | forDone leaves loop rest stack =>
    rw [savedAfter_plain (by rw [leaves]; rfl)]
    intro loops member
    have opened : state.1.forStack = loop :: rest := stack
    have finished := own (shrinks leaves (by rw [opened]; exact fun same => by simp at same))
    have inner := below loops member
    have deeper := finished loops member
    rw [opened] at deeper
    exact suffix_of_shorter (opened ▸ inner) deeper

end Steps

/-- As long as no call finishes a loop of its caller, a return restores the loops of the caller
exactly when it happens at the loop depth of the call. -/
theorem forStack_restored_iff (host : Host R World) (code : Code R) (runtime : Runtime R World)
    {state next : Runtime R World × SavedLoops R}
    (reached : Reaches (loopStep host code) (FinishesOwnLoop code)
      (vmStart code runtime, ⟨[], []⟩) state)
    (stepped : loopStep host code state = some next) :
    RestoresLoops code state next ↔ ReturnsAtLoopDepth code state := by
  refine return_restores_iff (reached.invariant
    (fun state => CallersBelow state.1.toMachine.control state.2)
    (fun _ _ below own => callersBelow_step below own) ?_) stepped
  intro loops member
  simp at member

section Examples

/-- A function that returns from inside its loop, called in a loop. -/
def returnInLoop : List (AstStmt Int) :=
  [.functionDef 1 (text "F") []
      [.for 2 (text "J") (.number 2 (literal 1)) (.number 2 (literal 3)) none
        [.return 3 (some (.number 3 (literal 5)))]],
    .for 6 (text "I") (.number 6 (literal 1)) (.number 6 (literal 2)) none
      [.command 7 (.assignment (text "X") (.call 7 (text "F") []))]]

/-- The loop of the function is still open when its caller goes on. -/
theorem returnInLoop_leaves :
    ∃ code state next, c64scriptCompile returnInLoop [] = .ok code ∧
      Reaches (loopStep quietHost code) (fun _ => True)
        (vmStart code (runtimeCreate ()), ⟨[], []⟩) state ∧
      loopStep quietHost code state = some next ∧
        (savedAtReturn state.1.toMachine state.2).map (List.map ForState.variableName) =
          some [text "I"] ∧
        next.1.forStack.map ForState.variableName = [text "J", text "I"] ∧
          ¬ RestoresLoops code state next := by
  -- The kernel runs the program once, up to the return and behind it.
  have checked : ((c64scriptCompile returnInLoop []).toOption.bind fun code =>
      (stepTimes (loopStep quietHost code) 17 (vmStart code (runtimeCreate ()), ⟨[], []⟩)).bind
        fun state => (loopStep quietHost code state).map fun next =>
          decide (code.returnsAt state.1.ip ∧
            (savedAtReturn state.1.toMachine state.2).map (List.map ForState.variableName) =
              some [text "I"] ∧
            next.1.forStack.map ForState.variableName = [text "J", text "I"])) = some true := by
    decide +kernel
  cases compiled : c64scriptCompile returnInLoop [] with
  | error failure =>
    rw [compiled] at checked
    cases checked
  | ok code =>
    rw [compiled, Except.toOption, Option.bind_some] at checked
    obtain ⟨state, ran, checked⟩ := Option.bind_eq_some_iff.mp checked
    obtain ⟨next, stepped, facts⟩ := Option.map_eq_some_iff.mp checked
    obtain ⟨returns, saved, stack⟩ := of_decide_eq_true facts
    refine ⟨code, state, next, rfl, reaches_of_stepTimes ran, stepped, saved, stack,
      fun restored => ?_⟩
    rw [restored returns, Option.map_some, stack] at saved
    exact absurd saved (by decide)

/-- A subroutine without loops, about to return. -/
theorem forStack_restored_gosub :
    let code : Code Int := ⟨[⟨.pushNum, 0, 1⟩, ⟨.call, 3, 1⟩, ⟨.halt, 0, -1⟩, ⟨.return, 0, 4⟩],
      [], []⟩
    ∃ state next, loopStep quietHost code state = some next ∧ code.returnsAt state.1.ip ∧
      (RestoresLoops code state next ↔ ReturnsAtLoopDepth code state) := by
  intro code
  refine ⟨_, _, rfl, rfl, forStack_restored_iff quietHost code (runtimeCreate ())
    (.step (.step .start ?_ rfl) ?_ rfl) rfl⟩
  · decide
  · decide

end Examples

end C64Stream
