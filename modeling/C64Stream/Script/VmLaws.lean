import C64Stream.Lib.Run
import C64Stream.Script.Vm

/-! What a round of the machine can do to the flow of control. -/

namespace C64Stream

variable {R World : Type} [ScriptNumber R]

section Control

/-- The parts of the state that decide where execution goes on. -/
structure Control (R : Type) where
  ip : Nat
  forStack : List (ForState R)
  gosubStack : List GosubState
  /-- The return addresses of the open scopes. -/
  returnIps : List Nat

/-- The control part of a machine. -/
def Machine.control (machine : Machine R) : Control R :=
  ⟨machine.ip, machine.forStack, machine.gosubStack, machine.scopeStack.map Scope.returnIp⟩

theorem setVar_control {before after : Machine R} {name : Text} {value : Value R}
    (stored : setVar before name value = .ok after) : after.control = before.control := by
  simp only [setVar, Bind.bind, Except.bind] at stored
  split at stored
  · cases stored
  · split at stored
    · rename_i scopes
      rw [← Except.ok.inj stored]
      simp [Machine.control, scopes]
    · split at stored
      · cases stored
      · rw [← Except.ok.inj stored]
        rfl

theorem handleOp_control (op : VmOp R World) (runtime : Runtime R World) :
    (handleOp op runtime).2.toMachine.control = runtime.toMachine.control := by
  cases op with
  | pop =>
    simp only [handleOp]
    split <;> rfl
  | push value =>
    simp only [handleOp]
    split <;> rfl
  | setVar name value =>
    simp only [handleOp]
    split
    · rfl
    · exact setVar_control ‹_›
  | _ => rfl

theorem run_control {α : Type} (program : Program R World α) (runtime : Runtime R World) :
    (program.run handleOp runtime).2.toMachine.control = runtime.toMachine.control :=
  Effectful.run_relates
    (fun before after : Runtime R World =>
      after.toMachine.control = before.toMachine.control)
    (fun _ => rfl) (fun _ _ _ first second => Eq.trans second first)
    program runtime fun entry _ => handleOp_control entry.1 entry.2

theorem andThen_control {α : Type} {program : Program R World α} {runtime after : Runtime R World}
    {next : α → Runtime R World → Executed R World} {skip : Bool}
    (executed : andThen program runtime next = (some skip, after)) :
    ∃ result middle, middle.toMachine.control = runtime.toMachine.control ∧
      program.run handleOp runtime = (some result, middle) ∧
        next result middle = (some skip, after) := by
  unfold andThen at executed
  have same := run_control program runtime
  split at executed
  · rename_i result middle ran
    rw [ran] at same
    exact ⟨result, middle, same, ran, executed⟩
  · cases executed

/-- The opcodes that return from a call. -/
def Opcode.isReturn (opcode : Opcode) : Bool :=
  opcode == .return || opcode == .returnValue

/-- The opcodes that enter or leave a call. -/
def Opcode.isCall (opcode : Opcode) : Bool :=
  opcode == .call || opcode == .callFunction || opcode.isReturn

/-- What an instruction can do to the control part. -/
inductive ControlEffect (code : Code R) (instruction : Instruction) (before : Control R) :
    Control R → Prop where
  | next (plain : instruction.opcode.isCall = false) (loop : instruction.opcode ≠ .forInit)
      (jump : instruction.opcode ≠ .jump) : ControlEffect code instruction before before
  | jump (jumps : instruction.opcode = .jump ∨ instruction.opcode = .jumpIfFalse ∨
      instruction.opcode = .whileCheck) :
      ControlEffect code instruction before { before with ip := instruction.operand }
  | call (calls : instruction.opcode = .call) (paramCount : Nat) :
      ControlEffect code instruction before
        { before with
          gosubStack := ⟨before.ip, paramCount⟩ :: before.gosubStack
          ip := instruction.operand }
  | callFunction (calls : instruction.opcode = .callFunction) (function : FunctionDef)
      (known : code.functions[instruction.operand / 65536]? = some function) :
      ControlEffect code instruction before
        { before with
          returnIps := before.ip :: before.returnIps
          ip := function.bytecodeAddress }
  | functionReturn (returns : instruction.opcode.isReturn) (address : Nat) (rest : List Nat)
      (scopes : before.returnIps = address :: rest) :
      ControlEffect code instruction before { before with returnIps := rest, ip := address }
  | gosubReturn (returns : instruction.opcode.isReturn) (scopes : before.returnIps = [])
      (gosub : GosubState) (rest : List GosubState) (gosubs : before.gosubStack = gosub :: rest) :
      ControlEffect code instruction before
        { before with gosubStack := rest, ip := gosub.returnIp }
  | forInit (enters : instruction.opcode = .forInit) (state : ForState R) :
      ControlEffect code instruction before
        { before with forStack := state :: before.forStack }
  | forDone (leaves : instruction.opcode = .forCheck) (state : ForState R)
      (rest : List (ForState R)) (loops : before.forStack = state :: rest) :
      ControlEffect code instruction before
        { before with forStack := rest, ip := instruction.operand }

theorem ControlEffect.of_return {code : Code R} {instruction : Instruction}
    {before after : Control R} (effect : ControlEffect code instruction before after)
    (returns : instruction.opcode.isReturn) :
    (∃ address rest, before.returnIps = address :: rest ∧
        after = { before with returnIps := rest, ip := address }) ∨
      before.returnIps = [] ∧ ∃ gosub rest, before.gosubStack = gosub :: rest ∧
        after = { before with gosubStack := rest, ip := gosub.returnIp } := by
  have isCall : instruction.opcode.isCall := by simp [Opcode.isCall, returns]
  cases effect with
  | next plain => rw [isCall] at plain; cases plain
  | jump jumps => rcases jumps with opcode | opcode | opcode <;> rw [opcode] at returns <;> cases returns
  | call calls => rw [calls] at returns; cases returns
  | callFunction calls => rw [calls] at returns; cases returns
  | functionReturn _ address rest scopes => exact .inl ⟨address, rest, scopes, rfl⟩
  | gosubReturn _ scopes gosub rest gosubs => exact .inr ⟨scopes, gosub, rest, gosubs, rfl⟩
  | forInit enters => rw [enters] at returns; cases returns
  | forDone leaves => rw [leaves] at returns; cases returns

end Control

section Effects

variable {host : Host R World} {code : Code R} {instruction : Instruction}
  {runtime after : Runtime R World} {skip : Bool}

theorem executeConditionalJump_control {what : Text}
    (jumps : instruction.opcode = .jumpIfFalse ∨ instruction.opcode = .whileCheck)
    (executed : executeConditionalJump what instruction.operand runtime = (some skip, after)) :
    ControlEffect code instruction runtime.toMachine.control after.toMachine.control := by
  obtain ⟨condition, middle, same, _, rest⟩ := andThen_control executed
  obtain ⟨-, rfl⟩ := Prod.mk.inj rest
  rw [← same]
  split
  · exact .jump (.inr jumps)
  · refine .next ?_ ?_ ?_ <;> rcases jumps with opcode | opcode <;> rw [opcode] <;> decide

theorem executeCall_control (calls : instruction.opcode = .call)
    (executed : executeCall instruction.operand runtime = (some skip, after)) :
    ControlEffect code instruction runtime.toMachine.control after.toMachine.control := by
  obtain ⟨paramCount, middle, same, _, rest⟩ := andThen_control executed
  split at rest
  · cases rest
  · obtain ⟨-, rfl⟩ := Prod.mk.inj rest
    rw [← same]
    exact .call calls paramCount

theorem executeCallFunction_control (calls : instruction.opcode = .callFunction)
    (executed : executeCallFunction code instruction.operand runtime = (some skip, after)) :
    ControlEffect code instruction runtime.toMachine.control after.toMachine.control := by
  unfold executeCallFunction at executed
  simp only at executed
  split at executed
  · cases executed
  · rename_i function known
    split_ifs at executed
    · cases executed
    · cases executed
    · cases executed
    · obtain ⟨-, rfl⟩ := Prod.mk.inj executed
      exact .callFunction calls function known

theorem executeReturn_control {hasReturnValue : Bool} (returns : instruction.opcode.isReturn)
    (executed : executeReturn hasReturnValue runtime = (some skip, after)) :
    ControlEffect code instruction runtime.toMachine.control after.toMachine.control := by
  unfold executeReturn at executed
  split at executed
  · rename_i scope rest scopes
    obtain ⟨value, middle, same, _, pushed⟩ := andThen_control executed
    obtain ⟨_, last, sameLast, _, ends⟩ := andThen_control pushed
    obtain ⟨-, rfl⟩ := Prod.mk.inj ends
    have opened : runtime.toMachine.control.returnIps =
        scope.returnIp :: rest.map Scope.returnIp := by simp [Machine.control, scopes]
    have closed : last.toMachine.control =
        { runtime.toMachine.control with returnIps := rest.map Scope.returnIp } := by
      rw [sameLast, ← same]
      have tail : middle.toMachine.control.returnIps = runtime.toMachine.control.returnIps := by
        rw [same]
      rw [opened] at tail
      simp only [Machine.control] at tail ⊢
      rw [List.map_tail, tail]
      rfl
    have outcome : ControlEffect code instruction runtime.toMachine.control _ :=
      .functionReturn returns scope.returnIp _ opened
    have final : ({ last with ip := scope.returnIp } : Runtime R World).toMachine.control =
        { runtime.toMachine.control with
          returnIps := rest.map Scope.returnIp
          ip := scope.returnIp } := by
      have inner := congrArg (fun control : Control R => { control with ip := scope.returnIp })
        closed
      exact inner
    rw [final]
    exact outcome
  · rename_i scopes
    split at executed
    · rename_i gosub rest gosubs
      obtain ⟨_, middle, same, _, ends⟩ := andThen_control executed
      obtain ⟨-, rfl⟩ := Prod.mk.inj ends
      have none : runtime.toMachine.control.returnIps = [] := by simp [Machine.control, scopes]
      have opened : middle.toMachine.control.gosubStack = gosub :: rest := by
        rw [same]
        exact gosubs
      have tail : middle.gosubStack.tail = rest := by
        rw [show middle.gosubStack = gosub :: rest from opened]
        rfl
      have outcome : ControlEffect code instruction middle.toMachine.control _ :=
        .gosubReturn returns (by rw [same]; exact none) gosub rest opened
      rw [← same]
      simpa [Machine.control, tail] using outcome
    · cases executed

theorem executeForInit_control (enters : instruction.opcode = .forInit)
    (executed : executeForInit code instruction.operand runtime = (some skip, after)) :
    ControlEffect code instruction runtime.toMachine.control after.toMachine.control := by
  obtain ⟨bounds, middle, same, _, rest⟩ := andThen_control executed
  split at rest
  · cases rest
  · split at rest
    · cases rest
    · obtain ⟨-, rfl⟩ := Prod.mk.inj rest
      rw [← same]
      exact .forInit enters _

theorem executeForCheck_control (leaves : instruction.opcode = .forCheck)
    (executed : executeForCheck instruction.operand runtime = (some skip, after)) :
    ControlEffect code instruction runtime.toMachine.control after.toMachine.control := by
  unfold executeForCheck at executed
  split at executed
  · cases executed
  · rename_i state rest loops
    split at executed
    · cases executed
    · split at executed
      · obtain ⟨-, rfl⟩ := Prod.mk.inj executed
        exact .forDone leaves state rest loops
      · obtain ⟨-, rfl⟩ := Prod.mk.inj executed
        exact .next (by rw [leaves]; decide) (by rw [leaves]; decide) (by rw [leaves]; decide)

theorem executeForIncr_control (advances : instruction.opcode = .forIncr)
    (executed : executeForIncr runtime = (some skip, after)) :
    ControlEffect code instruction runtime.toMachine.control after.toMachine.control := by
  unfold executeForIncr at executed
  split at executed
  · cases executed
  · split at executed
    · cases executed
    · obtain ⟨_, middle, same, _, rest⟩ := andThen_control executed
      obtain ⟨-, rfl⟩ := Prod.mk.inj rest
      rw [← same]
      exact .next (by rw [advances]; decide) (by rw [advances]; decide)
        (by rw [advances]; decide)

theorem executeInstruction_control
    (executed : executeInstruction host code instruction runtime = (some skip, after)) :
    ControlEffect code instruction runtime.toMachine.control after.toMachine.control := by
  unfold executeInstruction at executed
  split at executed
  case h_1 opcode =>
    obtain ⟨-, rfl⟩ := Prod.mk.inj executed
    exact .jump (.inl opcode)
  case h_2 opcode => exact executeConditionalJump_control (.inl opcode) executed
  case h_3 opcode => exact executeConditionalJump_control (.inr opcode) executed
  case h_4 opcode => exact executeCall_control opcode executed
  case h_5 opcode => exact executeReturn_control (by rw [opcode]; rfl) executed
  case h_6 opcode => exact executeReturn_control (by rw [opcode]; rfl) executed
  case h_7 opcode => exact executeCallFunction_control opcode executed
  case h_8 opcode =>
    obtain ⟨-, rfl⟩ := Prod.mk.inj executed
    exact .next (by rw [opcode]; rfl) (by rw [opcode]; decide) (by rw [opcode]; decide)
  case h_9 opcode =>
    obtain ⟨-, rfl⟩ := Prod.mk.inj executed
    exact .next (by rw [opcode]; rfl) (by rw [opcode]; decide) (by rw [opcode]; decide)
  case h_10 opcode => exact executeForInit_control opcode executed
  case h_11 opcode => exact executeForCheck_control opcode executed
  case h_12 opcode => exact executeForIncr_control opcode executed
  case h_13 =>
    obtain ⟨_, middle, same, _, rest⟩ := andThen_control executed
    obtain ⟨-, rfl⟩ := Prod.mk.inj rest
    rw [← same]
    refine .next ?_ ?_ ?_
    · simp only [Opcode.isCall, Opcode.isReturn, Bool.or_eq_false_iff, beq_eq_false_iff_ne]
      exact ⟨⟨‹_›, ‹_›⟩, ‹_›, ‹_›⟩
    · assumption
    · assumption

end Effects

section Rounds

variable {host : Host R World} {code : Code R} {instruction : Instruction}
  {runtime after : Runtime R World} {skip : Bool}

theorem pauseAtLine_machine (line : Int) (runtime : Runtime R World) :
    (pauseAtLine host line runtime).toMachine = runtime.toMachine := by
  unfold pauseAtLine
  split
  · simp only
    split <;> rfl
  · rfl

theorem vmDispatch_running (stepped : vmDispatch host code instruction runtime = .running after) :
    ∃ skip executed,
      executeInstruction host code instruction (beginInstruction instruction runtime) =
          (some skip, executed) ∧
        after = updateLines code instruction.sourceLine skip executed := by
  unfold vmDispatch at stepped
  split at stepped
  · cases stepped
  · exact ⟨_, _, ‹_›, (Progress.running.inj stepped).symm⟩

/-- The state in which a round executes its instruction. -/
def vmEnter (host : Host R World) (instruction : Instruction) (runtime : Runtime R World) :
    Runtime R World :=
  let seen := observe host runtime
  let counted :=
    if 0 < seen.maxIterations then { seen with iterationCount := seen.iterationCount + 1 }
    else seen
  beginInstruction instruction (pauseAtLine host instruction.sourceLine counted)

theorem vmEnter_machine (instruction : Instruction) (runtime : Runtime R World) :
    (vmEnter host instruction runtime).toMachine =
      { runtime.toMachine with ip := runtime.ip + 1 } := by
  unfold vmEnter beginInstruction
  simp only [pauseAtLine_machine]
  split <;> rfl

theorem vmStep_entered (stepped : vmStep host code runtime = .running after) :
    ∃ instruction skip executed, code.bytecode[runtime.ip]? = some instruction ∧
      executeInstruction host code instruction (vmEnter host instruction runtime) =
          (some skip, executed) ∧
        after.toMachine = executed.toMachine := by
  unfold vmStep at stepped
  simp only at stepped
  split at stepped
  · cases stepped
  · rename_i instruction found
    -- The round neither stops, nor exceeds its limit, nor is stopped in a pause.
    by_cases stopped : (observe host runtime).flags.shouldStop = true
    · rw [if_pos stopped] at stepped
      cases stepped
    rw [if_neg stopped] at stepped
    by_cases limit : (observe host runtime).atIterationLimit = true
    · rw [if_pos limit] at stepped
      cases stepped
    rw [if_neg limit] at stepped
    generalize counting : (if 0 < (observe host runtime).maxIterations then
        { observe host runtime with
          iterationCount := (observe host runtime).iterationCount + 1 }
      else observe host runtime) = counted at stepped
    have begins : vmEnter host instruction runtime =
        beginInstruction instruction (pauseAtLine host instruction.sourceLine counted) := by
      rw [← counting]
      rfl
    split at stepped
    · cases stepped
    · obtain ⟨skip, executed, outcome, rfl⟩ := vmDispatch_running stepped
      rw [← begins] at outcome
      exact ⟨instruction, skip, executed, found, outcome, rfl⟩

theorem vmStep_running (stepped : vmStep host code runtime = .running after) :
    ∃ instruction entered skip executed,
      code.bytecode[runtime.ip]? = some instruction ∧
        entered.toMachine = { runtime.toMachine with ip := runtime.ip + 1 } ∧
          executeInstruction host code instruction entered = (some skip, executed) ∧
            after.toMachine = executed.toMachine := by
  obtain ⟨instruction, skip, executed, found, outcome, same⟩ := vmStep_entered stepped
  exact ⟨instruction, _, skip, executed, found, vmEnter_machine instruction runtime, outcome, same⟩

theorem vmStep_control (stepped : vmStep host code runtime = .running after) :
    ∃ instruction, code.bytecode[runtime.ip]? = some instruction ∧
      ControlEffect code instruction
        { runtime.toMachine.control with ip := runtime.ip + 1 } after.toMachine.control := by
  obtain ⟨instruction, entered, skip, executed, found, begins, outcome, same⟩ :=
    vmStep_running stepped
  refine ⟨instruction, found, ?_⟩
  have effect := executeInstruction_control outcome
  rw [begins, ← same] at effect
  exact effect

/-- The state after a round that goes on. -/
def vmNext (host : Host R World) (code : Code R) (runtime : Runtime R World) :
    Option (Runtime R World) :=
  match vmStep host code runtime with
  | .running after => some after
  | _ => none

theorem vmNext_eq_some :
    vmNext host code runtime = some after ↔ vmStep host code runtime = .running after := by
  unfold vmNext
  cases vmStep host code runtime <;> simp

/-- Whether a jump within a block is taken. -/
def jumpsNow (machine : Machine R) (opcode : Opcode) : Bool :=
  match opcode with
  | .jump => true
  | .jumpIfFalse | .whileCheck =>
    match machine.stack with
    | .number n :: _ => isZero n
    | _ => false
  | .forCheck =>
    match machine.forStack with
    | state :: _ =>
      match getVar machine state.variableName with
      | .number current => state.isDone current
      | _ => false
    | [] => false
  | _ => false

theorem pop_ok {value : Value R} (ran : pop.run handleOp runtime = (some value, after)) :
    ∃ rest, runtime.stack = value :: rest ∧ after = { runtime with stack := rest } := by
  cases stack : runtime.stack with
  | nil =>
    simp only [pop, Effectful.run, handleOp, stack] at ran
    cases ran
  | cons top rest =>
    simp only [pop, Effectful.run, handleOp, stack] at ran
    obtain ⟨same, rfl⟩ := Prod.mk.inj ran
    obtain rfl := Option.some.inj same
    exact ⟨rest, rfl, rfl⟩

theorem push_ok {value : Value R} {reply : Unit}
    (ran : (push value).run handleOp runtime = (some reply, after)) :
    runtime.stack.length < c64scriptMaxStackDepth ∧
      after = { runtime with stack := value :: runtime.stack } := by
  by_cases full : c64scriptMaxStackDepth ≤ runtime.stack.length
  · simp only [push, Effectful.run, handleOp, if_pos full] at ran
    cases ran
  · simp only [push, Effectful.run, handleOp, if_neg full] at ran
    exact ⟨Nat.lt_of_not_le full, (Prod.mk.inj ran).2.symm⟩

theorem popNumber_ok {what : Text} {n : R}
    (ran : (popNumber what).run handleOp runtime = (some n, after)) :
    ∃ rest, runtime.stack = .number n :: rest ∧ after = { runtime with stack := rest } := by
  rw [popNumber, Effectful.bind_eq, Effectful.run_bind] at ran
  split at ran
  · rename_i value middle popped
    obtain ⟨rest, stack, rfl⟩ := pop_ok popped
    cases value with
    | number found =>
      obtain ⟨same, rfl⟩ := Prod.mk.inj ran
      obtain rfl := Option.some.inj same
      exact ⟨rest, stack, rfl⟩
    | _ =>
      -- A value that is no number is refused.
      cases ran
  · cases ran

theorem executeConditionalJump_ip {what : Text} {operand : Nat} {opcode : Opcode}
    (jumps : opcode = .jumpIfFalse ∨ opcode = .whileCheck)
    (executed : executeConditionalJump what operand runtime = (some skip, after)) :
    after.ip = if jumpsNow runtime.toMachine opcode then operand else runtime.ip := by
  obtain ⟨condition, middle, _, ran, rest⟩ := andThen_control executed
  obtain ⟨others, stack, rfl⟩ := popNumber_ok ran
  obtain ⟨-, rfl⟩ := Prod.mk.inj rest
  have taken : jumpsNow runtime.toMachine opcode = isZero condition := by
    rcases jumps with rfl | rfl <;> simp [jumpsNow, stack]
  rw [taken]
  split <;> rfl

theorem executeForCheck_ip {operand : Nat}
    (executed : executeForCheck operand runtime = (some skip, after)) :
    after.ip = if jumpsNow runtime.toMachine .forCheck then operand else runtime.ip := by
  unfold executeForCheck at executed
  split at executed
  · cases executed
  · rename_i state rest loops
    split at executed
    · cases executed
    · rename_i current number
      have value := requireNumber_eq_ok.mp number
      simp only [jumpsNow, loops, value]
      split at executed <;> rename_i done
      · obtain ⟨-, rfl⟩ := Prod.mk.inj executed
        rw [if_pos done]
      · obtain ⟨-, rfl⟩ := Prod.mk.inj executed
        rw [if_neg done]

theorem executeInstruction_ip (plain : instruction.opcode.isCall = false)
    (executed : executeInstruction host code instruction runtime = (some skip, after)) :
    after.ip =
      if jumpsNow runtime.toMachine instruction.opcode then instruction.operand
      else runtime.ip := by
  have kept : jumpsNow runtime.toMachine instruction.opcode = false →
      after.toMachine.control.ip = runtime.toMachine.control.ip →
      after.ip = if jumpsNow runtime.toMachine instruction.opcode then instruction.operand
        else runtime.ip := by
    intro stays same
    rw [stays, if_neg (by decide)]
    exact same
  unfold executeInstruction at executed
  split at executed
  case h_1 opcode =>
    obtain ⟨-, rfl⟩ := Prod.mk.inj executed
    simp [opcode, jumpsNow]
  case h_2 opcode =>
    rw [opcode]
    exact executeConditionalJump_ip (.inl rfl) executed
  case h_3 opcode =>
    rw [opcode]
    exact executeConditionalJump_ip (.inr rfl) executed
  case h_4 opcode => rw [opcode] at plain; cases plain
  case h_5 opcode => rw [opcode] at plain; cases plain
  case h_6 opcode => rw [opcode] at plain; cases plain
  case h_7 opcode => rw [opcode] at plain; cases plain
  case h_8 opcode =>
    obtain ⟨-, rfl⟩ := Prod.mk.inj executed
    simp [opcode, jumpsNow]
  case h_9 opcode =>
    obtain ⟨-, rfl⟩ := Prod.mk.inj executed
    simp [opcode, jumpsNow]
  case h_10 opcode =>
    -- The start of a loop is not one of the calls, and goes on at the next instruction.
    obtain ⟨bounds, middle, same, _, rest⟩ := andThen_control executed
    refine kept (by rw [opcode]; rfl) ?_
    split at rest
    · cases rest
    · split at rest
      · cases rest
      · obtain ⟨-, rfl⟩ := Prod.mk.inj rest
        show middle.toMachine.control.ip = _
        rw [same]
  case h_11 opcode =>
    rw [opcode]
    exact executeForCheck_ip executed
  case h_12 opcode =>
    refine kept (by rw [opcode]; rfl) ?_
    unfold executeForIncr at executed
    split at executed
    · cases executed
    · split at executed
      · cases executed
      · obtain ⟨_, middle, same, _, rest⟩ := andThen_control executed
        obtain ⟨-, rfl⟩ := Prod.mk.inj rest
        exact congrArg Control.ip same
  case h_13 =>
    obtain ⟨_, middle, same, _, rest⟩ := andThen_control executed
    obtain ⟨-, rfl⟩ := Prod.mk.inj rest
    refine kept ?_ (congrArg Control.ip same)
    unfold jumpsNow
    split <;> first | rfl | contradiction

theorem vmStep_ip (found : code.bytecode[runtime.ip]? = some instruction)
    (plain : instruction.opcode.isCall = false)
    (stepped : vmStep host code runtime = .running after) :
    after.ip =
      if jumpsNow runtime.toMachine instruction.opcode then instruction.operand
      else runtime.ip + 1 := by
  obtain ⟨same, entered, skip, executed, here, begins, outcome, ends⟩ := vmStep_running stepped
  obtain rfl : instruction = same := Option.some.inj (found.symm.trans here)
  have address := executeInstruction_ip plain outcome
  have stack : jumpsNow entered.toMachine instruction.opcode =
      jumpsNow runtime.toMachine instruction.opcode := by
    rw [begins]
    rfl
  have next : entered.ip = runtime.ip + 1 := congrArg Machine.ip begins
  have last : after.ip = executed.ip := congrArg Machine.ip ends
  rw [last, address, stack, next]

/-- A round that goes on, with a record that each instruction updates from the state before it. -/
def recordedStep {γ : Type} (record : Instruction → Runtime R World → γ → γ)
    (host : Host R World) (code : Code R) (state : Runtime R World × γ) :
    Option (Runtime R World × γ) :=
  match code.bytecode[state.1.ip]?, vmStep host code state.1 with
  | some instruction, .running after => some (after, record instruction state.1 state.2)
  | _, _ => none

theorem recordedStep_running {γ : Type} {record : Instruction → Runtime R World → γ → γ}
    {state next : Runtime R World × γ} (stepped : recordedStep record host code state = some next) :
    ∃ instruction, code.bytecode[state.1.ip]? = some instruction ∧
      vmStep host code state.1 = .running next.1 ∧ next.2 = record instruction state.1 state.2 := by
  unfold recordedStep at stepped
  split at stepped
  · rw [← Option.some.inj stepped]
    exact ⟨_, ‹_›, ‹_›, rfl⟩
  · cases stepped

theorem recordedStep_control {γ : Type} {record : Instruction → Runtime R World → γ → γ}
    {state next : Runtime R World × γ} (stepped : recordedStep record host code state = some next) :
    ∃ instruction, code.bytecode[state.1.ip]? = some instruction ∧
      ControlEffect code instruction
        { state.1.toMachine.control with ip := state.1.ip + 1 } next.1.toMachine.control ∧
      next.2 = record instruction state.1 state.2 := by
  obtain ⟨instruction, found, running, record⟩ := recordedStep_running stepped
  obtain ⟨same, here, effect⟩ := vmStep_control running
  obtain rfl : instruction = same := Option.some.inj (found.symm.trans here)
  exact ⟨instruction, found, effect, record⟩

/-- Whether the instruction at an address returns. -/
def Code.returnsAt (code : Code R) (ip : Nat) : Bool :=
  code.bytecode[ip]?.any fun instruction => instruction.opcode.isReturn

theorem returnsAt_of_found {ip : Nat} (found : code.bytecode[ip]? = some instruction) :
    code.returnsAt ip = instruction.opcode.isReturn := by
  simp [Code.returnsAt, found]

omit [ScriptNumber R] in
theorem scopeStack_isEmpty (machine : Machine R) :
    machine.scopeStack.isEmpty = machine.control.returnIps.isEmpty := by
  simp [Machine.control]

end Rounds

end C64Stream
