import C64Stream.Script.MirroredCalls

/-! Calls of functions are isolated, as long as they work on loops of their own. -/

namespace C64Stream

variable {R World : Type} [ScriptNumber R]

section Frames

variable {host : Host R World} {devices : Devices R World} {code : Code R}
  {program : List (AstStmt R)} {all : List (Item R)} {outer frames : List FunctionFrame}
  {runtime after : Runtime R World} {record : StackRecord}

theorem FramesHeld.length {addresses : List Nat} (held : FramesHeld all addresses frames) :
    frames.length = addresses.length := by
  induction addresses generalizing frames with
  | nil =>
    obtain rfl : frames = [] := held
    rfl
  | cons address addresses ih =>
    cases frames with
    | nil => exact held.elim
    | cons frame frames => rw [List.length_cons, List.length_cons, ih held.2.2]

theorem FramesHeld.entry_le {addresses : List Nat} (held : FramesHeld all addresses frames)
    (inside : outer <:+ frames) : entryOf outer ≤ entryOf frames := by
  -- The induction is on the open functions; each was entered above its caller's entry.
  induction addresses generalizing frames with
  | nil =>
    obtain rfl : frames = [] := held
    rw [List.suffix_nil.mp inside]
  | cons address addresses ih =>
    cases frames with
    | nil => exact held.elim
    | cons frame frames =>
      rcases List.suffix_cons_iff.mp inside with rfl | inside
      · exact Nat.le_refl _
      · obtain ⟨⟨depth, _, entry⟩, _, others⟩ := held
        have below := ih others inside
        show entryOf outer ≤ frame.entry
        omega

omit [ScriptNumber R] in
theorem stackAfter_frames (starts : List Nat) (instruction : Instruction)
    (runtime : Runtime R World) (record : StackRecord) :
    (stackAfter starts instruction runtime record).frames = record.frames ∨
      (∃ frame, (stackAfter starts instruction runtime record).frames = frame :: record.frames) ∨
        ∃ frame, record.frames = frame :: (stackAfter starts instruction runtime record).frames := by
  unfold stackAfter
  split
  · exact .inr (.inl ⟨_, rfl⟩)
  · split
    · rename_i known
      exact .inr (.inr ⟨_, known⟩)
    · exact .inl rfl
  · split
    · rename_i known
      exact .inr (.inr ⟨_, known⟩)
    · exact .inl rfl
  · exact .inl rfl

theorem stackStep_of_vmNext {starts : List Nat} (stepped : vmNext host code runtime = some after)
    (record : StackRecord) :
    ∃ instruction, code.bytecode[runtime.ip]? = some instruction ∧
      stackStep host code starts (runtime, record) =
        some (after, stackAfter starts instruction runtime record) := by
  have running := vmNext_eq_some.mp stepped
  obtain ⟨instruction, _, _, found, _, _⟩ := vmStep_entered running
  refine ⟨instruction, found, ?_⟩
  simp only [stackStep, recordedStep, found, running]

/-- The stack is as deep as the levels of a compiled script say, and some functions are open. -/
def InsideFrames (program : List (AstStmt R)) (outer : List FunctionFrame)
    (runtime : Runtime R World) : Prop :=
  ∃ record, StateHeld program (runtime, record) ∧ outer <:+ record.frames

theorem InsideFrames.step (compiled : c64scriptCompile program [] = .ok code)
    (fits : code.bytecode.length ≤ operandBound) (inside : InsideFrames program outer runtime)
    (stepped : vmNext (host.withDevices devices) code runtime = some after)
    (deep : outer.length ≤ after.toMachine.depth) : InsideFrames program outer after := by
  obtain ⟨record, held, opened⟩ := inside
  obtain ⟨instruction, _, recorded⟩ := @stackStep_of_vmNext _ _ _ _ _ _ _
    (programStarts program) stepped record
  have next := stackStep_held compiled fits held recorded
  refine ⟨_, next, ?_⟩
  -- There are as many frames as scopes, so none of the outer ones can be the one that is left.
  have length : (stackAfter (programStarts program) instruction runtime record).frames.length =
      after.toMachine.depth := next.frames.length.trans (List.length_map ..)
  rcases stackAfter_frames (programStarts program) instruction runtime record with
    same | ⟨frame, more⟩ | ⟨frame, fewer⟩
  · rw [same]
    exact opened
  · rw [more]
    exact opened.trans (List.suffix_cons _ _)
  · rw [fewer] at opened
    rcases List.suffix_cons_iff.mp opened with whole | rest
    · have longer := congrArg List.length whole
      rw [List.length_cons] at longer
      omega
    · exact rest

/-- A state that an execution of a script comes to, if it starts with nothing open. -/
def Executes (host : Host R World) (code : Code R) (state : Runtime R World) : Prop :=
  ∃ runtime : Runtime R World,
    (runtime.stack = [] ∧ runtime.scopeStack = [] ∧ runtime.gosubStack = []) ∧
      Reaches (vmNext host code) (fun _ => True) (vmStart code runtime) state

theorem Executes.held (compiled : c64scriptCompile program [] = .ok code)
    (fits : code.bytecode.length ≤ operandBound)
    (executes : Executes (host.withDevices devices) code runtime) :
    ∃ record, StateHeld program (runtime, record) := by
  obtain ⟨start, ⟨stack, scopes, gosubs⟩, reached⟩ := executes
  refine reached.invariant (fun runtime => ∃ record, StateHeld program (runtime, record)) ?_ ?_
  · rintro state next ⟨record, held⟩ - stepped
    obtain ⟨_, _, recorded⟩ := @stackStep_of_vmNext _ _ _ _ _ _ _ (programStarts program) stepped
      record
    exact ⟨_, stackStep_held compiled fits held recorded⟩
  · -- At the start nothing is on the stack, and no function is open.
    have start : StackHeld (flattenProgram program) ⟨0, start.forStack, [], []⟩
        ([] : List (Value R)) ⟨0, []⟩ :=
      ⟨Nat.zero_le _, ⟨.values 0, ground_zero _, rfl, trivial⟩, rfl, nofun, rfl⟩
    refine ⟨⟨0, []⟩, ?_⟩
    unfold StateHeld vmStart Machine.control
    simpa only [stack, scopes, gosubs, List.map_nil] using start

end Frames

section Rounds

variable {host : Host R World} {devices : Devices R World} {code : Code R}
  {program : List (AstStmt R)} {below below' : Below R} {outer : List FunctionFrame}
  {runtime runtime' after after' : Runtime R World}

/-- An instruction on the innermost loop meets one that was entered since a call. -/
def MeetsOwnLoop (code : Code R) (call runtime : Runtime R World) : Prop :=
  ∀ instruction, code.bytecode[runtime.ip]? = some instruction →
    instruction.opcode.usesLoop = true → call.forStack.length < runtime.forStack.length

/-- A round that meets a loop of its own, if any, leads to alike machines or ends both calls with
the same value. -/
theorem vmNext_alike (blind : devices.Blind) (compiled : c64scriptCompile program [] = .ok code)
    (inside : InsideFrames program outer runtime) (entry : entryOf outer = below.values.length)
    (alike : Mirrored below below' 0 runtime.toMachine runtime'.toMachine)
    (own : ∀ instruction, code.bytecode[runtime.ip]? = some instruction →
      instruction.opcode.usesLoop = true → below.loops.length < runtime.forStack.length)
    (shown : answers (host.withDevices devices) code runtime =
      answers (host.withDevices devices) code runtime')
    (stepped : vmNext (host.withDevices devices) code runtime = some after)
    (stepped' : vmNext (host.withDevices devices) code runtime' = some after') :
    Mirrored below below' 0 after.toMachine after'.toMachine ∨
      ReturnedAlike below below' after after' := by
  obtain ⟨record, held, opened⟩ := inside
  obtain ⟨instruction, skip, executed, found, outcome, ends⟩ :=
    vmStep_entered (vmNext_eq_some.mp stepped)
  obtain ⟨same, skip', executed', found', outcome', ends'⟩ :=
    vmStep_entered (vmNext_eq_some.mp stepped')
  have ip : runtime.ip = runtime'.ip := alike.ip
  obtain rfl : instruction = same := Option.some.inj (by rw [← found, ← found', ip])
  obtain ⟨level, next, leads, depth, onTop, fitting, _⟩ := held.leads compiled found
  -- What the level speaks of lies above what the call has below it.
  have bottom : entryOf outer ≤ entryOf record.frames := held.frames.entry_le opened
  have depth : runtime.stack.length = entryOf record.frames + level.depth := depth
  have deep := alike.deepen
    (show below.values.length + level.depth ≤ runtime.stack.length by omega)
  have start := vmEnter_alike found deep shown
  have loops : instruction.opcode.usesLoop = true → below.loops.length <
      (vmEnter (host.withDevices devices) instruction runtime).forStack.length := by
    intro uses
    show _ < (vmEnter (host.withDevices devices) instruction runtime).toMachine.forStack.length
    rw [vmEnter_machine]
    exact own instruction found uses
  have top : level.OnTop (vmEnter (host.withDevices devices) instruction runtime).stack := by
    show level.OnTop
      (vmEnter (host.withDevices devices) instruction runtime).toMachine.stack
    rw [vmEnter_machine]
    exact onTop
  have outcome : SeesAlike below below' 0 executed executed' ∨
      ReturnedAlike below below' executed executed' := by
    cases leads with
    | plain values uncounted noCall =>
      exact executeInstruction_alike blind noCall start loops outcome outcome'
    | count counts =>
      -- A count is pushed, and nothing is taken.
      have taken : SeesAlike below below'
          (instruction.operand + instruction.opcode.pops instruction.operand)
          (vmEnter (host.withDevices devices) instruction runtime)
          (vmEnter (host.withDevices devices) instruction runtime') := by
        rw [counts]
        exact start
      exact executeInstruction_alike blind (by rw [counts]; decide) taken loops outcome outcome'
    | call calls count =>
      simp only [executeInstruction, calls] at outcome outcome'
      have small : count + 1 ≤ c64scriptMaxStackDepth := fitting
      exact .inl (executeCall_alike (Nat.le_of_succ_le small) start top outcome outcome')
  rcases outcome with on | back
  · left
    rw [ends, ends']
    exact on.machines
  · right
    obtain ⟨value, rest, rest', stack, stack'⟩ := back.value
    exact ⟨(congrArg Machine.scopeStack ends).trans back.scopes,
      (congrArg Machine.scopeStack ends').trans back.scopes', value, rest, rest',
      (congrArg Machine.stack ends).trans stack, (congrArg Machine.stack ends').trans stack'⟩

end Rounds

section Calls

variable {host : Host R World} {devices : Devices R World} {code : Code R}
  {program : List (AstStmt R)}

/-- Two calls of the same function with the same arguments and the same global variables. -/
structure SameCall (code : Code R) (call call' : Machine R) : Prop where
  callee : code.callAt call'.ip = code.callAt call.ip
  arguments : ∀ operand, code.callAt call.ip = some operand →
    call'.stack.take (operand % 65536) = call.stack.take (operand % 65536)
  globals : ∀ key, lookup call.globalVars key = lookup call'.globalVars key

/-- The outside world answers two calls alike, as far as both go. -/
def SameAnswers (host : Host R World) (code : Code R) (states states' : List (Runtime R World)) :
    Prop :=
  AgreeSoFar (states.map (answers host code)) (states'.map (answers host code))

instance decidableSameAnswers [DecidableEq World] (host : Host R World) (code : Code R)
    (states states' : List (Runtime R World)) :
    Decidable (SameAnswers host code states states') :=
  inferInstanceAs (Decidable (AgreeSoFar _ _))

/-- What a call has below it. -/
def belowCall (operand : Nat) (call : Machine R) : Below R :=
  ⟨call.stack.drop (operand % 65536), call.forStack, call.scopeStack⟩

theorem entered_alike {operand : Nat} {call call' entered entered' : Runtime R World}
    (same : SameCall code call.toMachine call'.toMachine)
    (calls : code.callAt call.ip = some operand)
    (stepped : vmNext host code call = some entered)
    (stepped' : vmNext host code call' = some entered') :
    Mirrored (belowCall operand call.toMachine) (belowCall operand call'.toMachine) 0
      entered.toMachine entered'.toMachine := by
  obtain ⟨function, known, arity, _, machine⟩ := vmNext_call calls stepped
  obtain ⟨function', known', _, _, machine'⟩ := vmNext_call (same.callee.trans calls) stepped'
  obtain rfl := Option.some.inj (known.symm.trans known')
  have names : (function.paramNames.reverse.map nameField).length = operand % 65536 := by
    rw [List.length_map, List.length_reverse, arity]
  rw [machine, machine']
  refine ⟨rfl, same.globals, ⟨[], Nat.le_refl _, rfl, rfl⟩, ⟨[], rfl, rfl⟩, .function ?_⟩
  -- The parameters are the arguments, which are the same.
  show (function.paramNames.reverse.map nameField).zip call.stack =
    (function.paramNames.reverse.map nameField).zip call'.stack
  rw [zip_take, zip_take _ call'.stack, names, same.arguments operand calls]

theorem entered_inside (compiled : c64scriptCompile program [] = .ok code)
    (fits : code.bytecode.length ≤ operandBound) {operand : Nat} {call entered : Runtime R World}
    (executes : Executes (host.withDevices devices) code call)
    (calls : code.callAt call.ip = some operand)
    (stepped : vmNext (host.withDevices devices) code call = some entered) :
    ∃ outer, entryOf outer = (call.stack.drop (operand % 65536)).length ∧
      outer.length = call.toMachine.depth + 1 ∧ InsideFrames program outer entered := by
  obtain ⟨record, held⟩ := executes.held compiled fits
  obtain ⟨line, found⟩ := callAt_eq_some.mp calls
  obtain ⟨instruction, here, recorded⟩ := @stackStep_of_vmNext _ _ _ _ _ _ _
    (programStarts program) stepped record
  obtain rfl := Option.some.inj (found.symm.trans here)
  have next := stackStep_held compiled fits held recorded
  obtain ⟨_, _, _, _, machine⟩ := vmNext_call calls stepped
  refine ⟨_, ?_, ?_, _, next, List.suffix_rfl⟩
  · rw [List.length_drop]
    rfl
  · -- There are as many frames as open scopes.
    refine next.frames.length.trans ?_
    show (entered.toMachine.scopeStack.map Scope.returnIp).length = _
    rw [machine, List.length_map, List.length_cons]
    rfl

omit [ScriptNumber R] in
theorem ScopesAlike.inside {below below' scopes scopes' : List (Scope R)}
    (alike : ScopesAlike below below' scopes scopes') :
    below.length < scopes.length ∧ below'.length < scopes'.length := by
  induction alike with
  | function => exact ⟨Nat.lt_succ_self _, Nat.lt_succ_self _⟩
  | inner _ _ _ ih => exact ⟨Nat.lt_succ_of_lt ih.1, Nat.lt_succ_of_lt ih.2⟩

/-- A call that returns leaves the global variables and the variables of all its callers as they
were. If its loop instructions meet only loops that were entered since the call, then every other
call with the same arguments and global variables that the outside world answers alike returns the
same value. -/
theorem functionCalls_isolated (host : Host R World) (devices : Devices R World)
    (blind : devices.Blind) (compiled : c64scriptCompile program [] = .ok code)
    (fits : code.bytecode.length ≤ operandBound) {call after : Runtime R World} {rounds : Nat}
    {states : List (Runtime R World)} (executes : Executes (host.withDevices devices) code call)
    (returned : callRun (host.withDevices devices) code rounds call = some (states, after)) :
    (after.globalVars = call.globalVars ∧ after.scopeStack = call.scopeStack) ∧
      ((∀ state ∈ states, MeetsOwnLoop code call state) →
        ∀ (call' after' : Runtime R World) (rounds' : Nat) (states' : List (Runtime R World)),
          callRun (host.withDevices devices) code rounds' call' = some (states', after') →
            SameCall code call.toMachine call'.toMachine →
              SameAnswers (host.withDevices devices) code states states' →
                ∃ value rest rest', after.stack = value :: rest ∧ after'.stack = value :: rest') := by
  refine ⟨callRun_keepsCallers returned, fun own call' after' rounds' states' returned' same agree => ?_⟩
  obtain ⟨operand, entered, calls, stepped, ran⟩ := callRun_entered returned
  obtain ⟨_, entered', _, stepped', ran'⟩ := callRun_entered returned'
  obtain ⟨outer, entry, length, inside⟩ := entered_inside compiled fits executes calls stepped
  -- Both calls are followed side by side until they return.
  have back := @stepsWhile_alike _ _ _ _ _ _ _ _ (insideCall call')
    (answers (host.withDevices devices) code) (MeetsOwnLoop code call)
    (fun first second =>
      Mirrored (belowCall operand call.toMachine) (belowCall operand call'.toMachine) 0
          first.toMachine second.toMachine ∧ InsideFrames program outer first)
    (ReturnedAlike (belowCall operand call.toMachine) (belowCall operand call'.toMachine))
    (fun first second alike => by
      have deeper := alike.1.scopes.inside
      exact ⟨decide_eq_true deeper.1, decide_eq_true deeper.2⟩)
    (fun first second back => by
      have here : first.toMachine.depth = call.toMachine.depth := congrArg List.length back.scopes
      have there : second.toMachine.depth = call'.toMachine.depth :=
        congrArg List.length back.scopes'
      simp [insideCall, here, there])
    (fun first second next next' alike own shown stepped stepped' => by
      refine (vmNext_alike blind compiled alike.2 entry alike.1 own shown stepped stepped').imp_left
        fun on => ⟨on, alike.2.step compiled fits stepped ?_⟩
      rw [length]
      exact on.scopes.inside.1)
    _ _ _ _ ⟨entered_alike same calls stepped stepped', inside⟩ ran ran' own agree
  exact back.value

end Calls

section Verified

variable {R World World' : Type} [ScriptNumber R] {host : Host R World} {host' : Host R World'}
  {devices : Devices R World} {devices' : Devices R World'} {code : Code R}
  {program : List (AstStmt R)} {all : List (Item R)} {frames : List FunctionFrame}

theorem LevelAt.le {address : Nat} {level : StackLevel} (here : LevelAt all address level) :
    address ≤ codeSize all := by
  obtain ⟨before, after, rfl, rfl, _⟩ := here
  rw [codeSize_append]
  exact Nat.le_add_right _ _

theorem FramesHeld.inside {addresses : List Nat} (held : FramesHeld all addresses frames) :
    ∀ address ∈ addresses, address ≤ codeSize all := by
  induction addresses generalizing frames with
  | nil => simp
  | cons address addresses ih =>
    cases frames with
    | nil => exact held.elim
    | cons frame frames =>
      obtain ⟨⟨_, here, _⟩, _, others⟩ := held
      intro other member
      rcases List.mem_cons.mp member with rfl | among
      · exact here.le
      · exact ih others other among

/-- Compiled code never leaves itself, neither by a jump nor by a return, and wherever it gets to
with no function open, the number of values on the stack is known from the place alone. -/
theorem executes_verified (compiled : c64scriptCompile program [] = .ok code)
    (fits : code.bytecode.length ≤ operandBound) {state : Runtime R World}
    (executes : Executes (host.withDevices devices) code state) :
    (state.ip ≤ code.bytecode.length ∧ state.stack.length ≤ c64scriptMaxStackDepth ∧
      (∀ gosub ∈ state.gosubStack, gosub.returnIp ≤ code.bytecode.length) ∧
      ∀ scope ∈ state.scopeStack, scope.returnIp ≤ code.bytecode.length) ∧
    ∀ other : Runtime R World', Executes (host'.withDevices devices') code other →
      other.ip = state.ip → other.scopeStack = [] → state.scopeStack = [] →
        other.stack.length = state.stack.length := by
  obtain ⟨record, held⟩ := executes.held compiled fits
  obtain ⟨level, here, depth, _⟩ := held.level
  have size := (compile_placed compiled).2
  refine ⟨⟨size ▸ here.le, held.bounded, fun gosub member => ?_, fun scope member => ?_⟩, ?_⟩
  · exact size ▸ (held.gosubs gosub member).le
  · exact size ▸ held.frames.inside _ (List.mem_map_of_mem member)
  · intro other executes' ip none' none
    obtain ⟨record', held'⟩ := executes'.held compiled fits
    obtain ⟨level', here', depth', _⟩ := held'.level
    have same : other.toMachine.control.ip = state.toMachine.control.ip := ip
    rw [same] at here'
    obtain rfl := here.unique (compile_sound compiled) here'
    -- With no function open, nothing lies below the level.
    have bottom := held.frames
    have bottom' := held'.frames
    simp only [Machine.control, none, none', List.map_nil, FramesHeld] at bottom bottom'
    dsimp only at depth depth'
    rw [depth', depth, bottom, bottom']

/-- A call in a sum is made above the first value, and returns to the addition. -/
theorem executes_verified_inSum :
    ∃ state : Runtime Int Unit,
      Executes (quietHost.withDevices idleDevices) functionInSumCode state ∧
      state.scopeStack.length = 1 ∧
      ∀ scope ∈ state.scopeStack, scope.returnIp ≤ functionInSumCode.bytecode.length := by
  have compiled : c64scriptCompile functionInSum [] = .ok functionInSumCode := rfl
  obtain ⟨state, ran, deep⟩ : ∃ state : Runtime Int Unit,
      stepTimes (vmNext (quietHost.withDevices idleDevices) functionInSumCode) 4
        (vmStart functionInSumCode (runtimeCreate ())) = some state ∧
      state.scopeStack.length = 1 := ⟨_, rfl, rfl⟩
  have executes : Executes (quietHost.withDevices idleDevices) functionInSumCode state :=
    ⟨_, ⟨rfl, rfl, rfl⟩, reaches_of_stepTimes ran⟩
  exact ⟨state, executes, deep, (@executes_verified Int Unit Unit _ quietHost quietHost idleDevices
    idleDevices _ _ compiled (by decide) _ executes).1.2.2.2⟩

end Verified

section Examples

/-- A function that jumps behind the `FOR` of its loop, called in a loop of its caller that ends at
the parameter of the caller. -/
def loopOfCaller : List (AstStmt Int) :=
  [.functionDef 1 (text "F") []
      [.goto 2 (text "L"),
        .for 3 (text "J") (.number 3 (literal 1)) (.number 3 (literal 1)) none
          [.label 4 (text "L"),
            .command 5 (.assignment (text "X")
              (.binary 5 .add (.identifier 5 (text "X")) (.number 5 (literal 1))))],
        .return 7 (some (.identifier 7 (text "X")))],
    .functionDef 9 (text "G") [text "A"]
      [.for 10 (text "I") (.number 10 (literal 1)) (.identifier 10 (text "A")) none
        [.return 11 (some (.call 11 (text "F") []))]],
    .command 14 (.assignment (text "Y") (.binary 14 .add
      (.call 14 (text "G") [.number 14 (literal 1)])
      (.call 14 (text "G") [.number 14 (literal 2)])))]

/-- The state of a script after so many rounds, and what follows from it up to the return. -/
def callAfter (code : Code Int) (rounds : Nat) :
    Option (Runtime Int Unit × List (Runtime Int Unit) × Runtime Int Unit) :=
  (stepTimes (vmNext (quietHost.withDevices idleDevices) code) rounds
    (vmStart code (runtimeCreate ()))).bind fun call =>
      (callRun (quietHost.withDevices idleDevices) code 60 call).map fun run => (call, run)

theorem callAfter_executes {code : Code Int} {rounds : Nat} {call after : Runtime Int Unit}
    {states : List (Runtime Int Unit)} (found : callAfter code rounds = some (call, states, after)) :
    Executes (quietHost.withDevices idleDevices) code call ∧
      callRun (quietHost.withDevices idleDevices) code 60 call = some (states, after) := by
  obtain ⟨state, stepped, found⟩ := Option.bind_eq_some_iff.mp found
  obtain ⟨run, returned, same⟩ := Option.map_eq_some_iff.mp found
  obtain ⟨rfl, rfl⟩ := Prod.mk.inj same
  exact ⟨⟨_, ⟨rfl, rfl, rfl⟩, reaches_of_stepTimes stepped⟩, returned⟩

/-- Called without arguments, with the same global variables and the same answers, the function
returns two where its caller's loop ends at one, and three where it ends at two. -/
theorem loopOfCaller_leaks :
    ∃ code call states after call' states' after',
      c64scriptCompile loopOfCaller [] = .ok code ∧
        Executes (quietHost.withDevices idleDevices) code call ∧
        callRun (quietHost.withDevices idleDevices) code 60 call = some (states, after) ∧
        Executes (quietHost.withDevices idleDevices) code call' ∧
        callRun (quietHost.withDevices idleDevices) code 60 call' = some (states', after') ∧
        SameCall code call.toMachine call'.toMachine ∧
        SameAnswers (quietHost.withDevices idleDevices) code states states' ∧
          after.stack.head? = some (.number 2) ∧ after'.stack.head? = some (.number 3) := by
  -- The kernel runs the script up to both calls and follows them to their ends.
  have checked : ((c64scriptCompile loopOfCaller []).toOption.bind fun code =>
      (callAfter code 11).bind fun first => (callAfter code 39).map fun second =>
        decide (code.callAt second.1.ip = code.callAt first.1.ip ∧
          code.callAt first.1.ip = some 0 ∧ first.1.globalVars = second.1.globalVars ∧
          SameAnswers (quietHost.withDevices idleDevices) code first.2.1 second.2.1 ∧
          first.2.2.stack.head? = some (.number 2) ∧
            second.2.2.stack.head? = some (.number 3))) = some true := by
    decide +kernel
  cases compiled : c64scriptCompile loopOfCaller [] with
  | error failure =>
    rw [compiled] at checked
    cases checked
  | ok code =>
    rw [compiled, Except.toOption, Option.bind_some] at checked
    obtain ⟨⟨call, states, after⟩, first, checked⟩ := Option.bind_eq_some_iff.mp checked
    obtain ⟨⟨call', states', after'⟩, second, facts⟩ := Option.map_eq_some_iff.mp checked
    obtain ⟨callee, noArguments, globals, answered, two, three⟩ := of_decide_eq_true facts
    obtain ⟨executes, returned⟩ := callAfter_executes first
    obtain ⟨executes', returned'⟩ := callAfter_executes second
    have same : SameCall code call.toMachine call'.toMachine := by
      refine ⟨callee, fun operand calls => ?_, fun key => by rw [globals]⟩
      obtain rfl := Option.some.inj (noArguments.symm.trans calls)
      rfl
    exact ⟨code, call, states, after, call', states', after', rfl, executes, returned, executes',
      returned', same, answered, two, three⟩

/-- A function that is called twice in a sum. -/
def twiceInSum : List (AstStmt Int) :=
  [.functionDef 1 (text "F") [text "X"] [.return 2 (some (.identifier 2 (text "X")))],
    .command 4 (.assignment (text "A") (.binary 4 .add
      (.call 4 (text "F") [.number 4 (literal 2)]) (.call 4 (text "F") [.number 4 (literal 2)])))]

/-- Both calls return the same value, although the second one is made above the first value. -/
theorem functionCalls_isolated_inSum :
    ∃ code call states after call' states' after',
      callRun (quietHost.withDevices idleDevices) code 60 call = some (states, after) ∧
        callRun (quietHost.withDevices idleDevices) code 60 call' = some (states', after') ∧
        call.stack.length = 1 ∧ call'.stack.length = 2 ∧
        (after.globalVars = call.globalVars ∧ after.scopeStack = call.scopeStack) ∧
          ∃ value rest rest', after.stack = value :: rest ∧ after'.stack = value :: rest' := by
  have checked : ((c64scriptCompile twiceInSum []).toOption.bind fun code =>
      (callAfter code 2).bind fun first => (callAfter code 6).map fun second =>
        decide (code.bytecode.length ≤ operandBound ∧
          code.callAt second.1.ip = code.callAt first.1.ip ∧
          code.callAt first.1.ip = some 1 ∧ first.1.globalVars = second.1.globalVars ∧
          second.1.stack.take 1 = first.1.stack.take 1 ∧
          (code.bytecode.all fun instruction => !instruction.opcode.usesLoop) = true ∧
          SameAnswers (quietHost.withDevices idleDevices) code first.2.1 second.2.1 ∧
          first.1.stack.length = 1 ∧ second.1.stack.length = 2)) = some true := by
    decide +kernel
  cases compiled : c64scriptCompile twiceInSum [] with
  | error failure =>
    rw [compiled] at checked
    cases checked
  | ok code =>
    rw [compiled, Except.toOption, Option.bind_some] at checked
    obtain ⟨⟨call, states, after⟩, first, checked⟩ := Option.bind_eq_some_iff.mp checked
    obtain ⟨⟨call', states', after'⟩, second, facts⟩ := Option.map_eq_some_iff.mp checked
    obtain ⟨fits, callee, oneArgument, globals, arguments, noLoops, answered, one, two⟩ :=
      of_decide_eq_true facts
    obtain ⟨executes, returned⟩ := callAfter_executes first
    obtain ⟨executes', returned'⟩ := callAfter_executes second
    have same : SameCall code call.toMachine call'.toMachine := by
      refine ⟨callee, fun operand calls => ?_, fun key => by rw [globals]⟩
      obtain rfl := Option.some.inj (oneArgument.symm.trans calls)
      exact arguments
    have own : ∀ state ∈ states, MeetsOwnLoop code call state := by
      intro state _ instruction found uses
      -- No instruction of the script works on a loop.
      have none := List.all_eq_true.mp noLoops instruction (List.mem_of_getElem? found)
      rw [uses] at none
      cases none
    have isolated := functionCalls_isolated quietHost idleDevices (fun _ _ _ => rfl) compiled fits
      executes returned
    exact ⟨code, call, states, after, call', states', after', returned, returned', one, two,
      isolated.1, isolated.2 own call' after' 60 states' returned' same answered⟩

end Examples

end C64Stream
