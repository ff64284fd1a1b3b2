import C64Stream.Script.FunctionBodies
import C64Stream.Script.GosubParams
import C64Stream.Script.StackLayout

/-! The value stack of a running script: no statement takes what another one has put there. -/

namespace C64Stream

variable {R World : Type} [ScriptNumber R]

/-- A host whose devices take the values of their instructions before they act. -/
def Host.withDevices (host : Host R World) (devices : Devices R World) : Host R World :=
  { host with device := deviceProgram devices }

section Pops

/-- The depths at which a function call takes its arguments, if it comes so far. -/
def argumentPops (code : Code R) (operand : Nat) (runtime : Runtime R World) : List Nat :=
  match code.functions[operand / 65536]? with
  | none => []
  | some function =>
    if operand % 65536 ≠ function.paramNames.length then []
    else if maxScopeDepth ≤ runtime.scopeStack.length then []
    else (List.range (operand % 65536)).map fun taken => runtime.stack.length - taken

/-- The depths at which a return takes the value it returns. -/
def returnPops (hasReturnValue : Bool) (runtime : Runtime R World) : List Nat :=
  match runtime.scopeStack with
  | _ :: _ => popDepths (@returnValue R World _ hasReturnValue) runtime
  | [] =>
    match runtime.gosubStack with
    | gosub :: _ => popDepths (leaveGosub hasReturnValue gosub.paramCount) runtime
    | [] => []

/-- The depths of the stack at which an instruction takes values; zero is the empty stack. -/
def instructionPops (host : Host R World) (code : Code R) (instruction : Instruction)
    (runtime : Runtime R World) : List Nat :=
  match instruction.opcode with
  | .jump | .stop | .halt | .forCheck | .forIncr => []
  | .jumpIfFalse => popDepths (popNumber (text "JUMP_IF_FALSE")) runtime
  | .whileCheck => popDepths (popNumber (text "WHILE")) runtime
  | .call => popDepths callParams runtime
  | .return => returnPops (decide (instruction.operand ≠ 0)) runtime
  | .returnValue => returnPops true runtime
  | .callFunction => argumentPops code instruction.operand runtime
  | .forInit => popDepths forBounds runtime
  | _ => popDepths (dataProgram host code instruction) runtime

end Pops

section Records

/-- A function that is still open: how deep the stack was when it was entered, and where the
statement of its caller began. -/
structure FunctionFrame where
  entry : Nat
  callerBegan : Nat
  deriving DecidableEq

/-- How deep the stack was when the current statement began, and the open functions, the latest one
first. -/
structure StackRecord where
  began : Nat
  frames : List FunctionFrame
  deriving DecidableEq

/-- The depth at the entry of the innermost open function, zero if none is open. -/
def entryOf (frames : List FunctionFrame) : Nat :=
  match frames with
  | frame :: _ => frame.entry
  | [] => 0

/-- Where the statement began that an instruction belongs to. -/
def statementBegan (starts : List Nat) (runtime : Runtime R World) (record : StackRecord) : Nat :=
  if runtime.ip ∈ starts then runtime.stack.length else record.began

/-- The record after an instruction. -/
def stackAfter (starts : List Nat) (instruction : Instruction) (runtime : Runtime R World)
    (record : StackRecord) : StackRecord :=
  let began := statementBegan starts runtime record
  match instruction.opcode with
  | .callFunction =>
    let entry := runtime.stack.length - instruction.operand % 65536
    { began := entry, frames := ⟨entry, began⟩ :: record.frames }
  | .return | .returnValue =>
    match runtime.scopeStack, record.frames with
    | _ :: _, frame :: frames => { began := frame.callerBegan, frames }
    | _, frames => { began, frames }
  | _ => { began, frames := record.frames }

/-- A round that goes on, with a record of how deep the stack was. -/
def stackStep (host : Host R World) (code : Code R) (starts : List Nat) :
    Runtime R World × StackRecord → Option (Runtime R World × StackRecord) :=
  recordedStep (stackAfter starts) host code

/-- An instruction takes no value from an empty stack, and none that was there when its statement
began. -/
def TakesOwnValues (host : Host R World) (code : Code R) (starts : List Nat)
    (state : Runtime R World × StackRecord) : Prop :=
  ∀ instruction, code.bytecode[state.1.ip]? = some instruction →
    ∀ depth ∈ instructionPops host code instruction (vmEnter host instruction state.1),
      statementBegan starts state.1 state.2 < depth

/-- At the first instruction of a statement the stack is as deep as when the innermost open function
was entered. -/
def BeginsAtEntry (starts : List Nat) (state : Runtime R World × StackRecord) : Prop :=
  state.1.ip ∈ starts → state.1.stack.length = entryOf state.2.frames

end Records

section Instructions

variable {host : Host R World} {devices : Devices R World} {code : Code R}
  {instruction : Instruction} {runtime after : Runtime R World} {skip : Bool} {base depth : Nat}
  {count operand : Nat} {hasReturnValue : Bool}

theorem andThen_moves {α : Type} {program : Program R World α} {last : Nat}
    (moves : MovesStack program depth last) (start : StackAt base depth runtime)
    {next : α → Runtime R World → Executed R World}
    (executed : andThen program runtime next = (some skip, after)) :
    ∃ result middle, StackAt base last middle ∧ next result middle = (some skip, after) := by
  obtain ⟨result, middle, _, ran, rest⟩ := andThen_control executed
  exact ⟨result, middle, moves.run start ran, rest⟩

theorem executeInstruction_moves (plain : instruction.opcode.isCall = false)
    (start : StackAt base (depth + instruction.opcode.pops instruction.operand) runtime)
    (executed : executeInstruction (host.withDevices devices) code instruction runtime =
      (some skip, after)) : StackAt base (depth + instruction.opcode.pushes) after := by
  unfold executeInstruction at executed
  split at executed
  case h_1 opcode =>
    obtain ⟨-, rfl⟩ := Prod.mk.inj executed
    rw [opcode] at start ⊢
    exact start
  case h_2 opcode =>
    rw [opcode] at start ⊢
    obtain ⟨_, middle, last, rest⟩ := andThen_moves (moves_popNumber _) start executed
    obtain ⟨-, rfl⟩ := Prod.mk.inj rest
    split <;> exact last
  case h_3 opcode =>
    rw [opcode] at start ⊢
    obtain ⟨_, middle, last, rest⟩ := andThen_moves (moves_popNumber _) start executed
    obtain ⟨-, rfl⟩ := Prod.mk.inj rest
    split <;> exact last
  case h_4 opcode => rw [opcode] at plain; cases plain
  case h_5 opcode => rw [opcode] at plain; cases plain
  case h_6 opcode => rw [opcode] at plain; cases plain
  case h_7 opcode => rw [opcode] at plain; cases plain
  case h_8 opcode =>
    obtain ⟨-, rfl⟩ := Prod.mk.inj executed
    rw [opcode] at start ⊢
    exact start
  case h_9 opcode =>
    obtain ⟨-, rfl⟩ := Prod.mk.inj executed
    rw [opcode] at start ⊢
    exact start
  case h_10 opcode =>
    rw [opcode] at start ⊢
    obtain ⟨_, middle, last, rest⟩ := andThen_moves moves_forBounds start executed
    split at rest
    · cases rest
    · split at rest
      · cases rest
      · obtain ⟨-, rfl⟩ := Prod.mk.inj rest
        exact last
  case h_11 opcode =>
    rw [opcode] at start ⊢
    unfold executeForCheck at executed
    split at executed
    · cases executed
    · split at executed
      · cases executed
      · split at executed <;> obtain ⟨-, rfl⟩ := Prod.mk.inj executed <;> exact start
  case h_12 opcode =>
    rw [opcode] at start ⊢
    unfold executeForIncr at executed
    split at executed
    · cases executed
    · split at executed
      · cases executed
      · obtain ⟨_, middle, last, rest⟩ := andThen_moves (moves_assign _ _) start executed
        obtain ⟨-, rfl⟩ := Prod.mk.inj rest
        exact last
  case h_13 =>
    have data : instruction.opcode.isControl = false := by
      unfold Opcode.isControl
      split <;> first | rfl | contradiction
    obtain ⟨_, middle, last, rest⟩ :=
      andThen_moves (@moves_dataProgram _ _ _ _ devices rfl code _ data depth) start executed
    obtain ⟨-, rfl⟩ := Prod.mk.inj rest
    exact last

theorem instructionPops_above (plain : instruction.opcode.isCall = false)
    (start : StackAt base (depth + instruction.opcode.pops instruction.operand) runtime) :
    ∀ found ∈ instructionPops (host.withDevices devices) code instruction runtime, base < found := by
  unfold instructionPops
  split
  case h_6 opcode =>
    rw [opcode] at start
    exact (moves_popNumber _).above start
  case h_7 opcode =>
    rw [opcode] at start
    exact (moves_popNumber _).above start
  case h_8 opcode => rw [opcode] at plain; cases plain
  case h_9 opcode => rw [opcode] at plain; cases plain
  case h_10 opcode => rw [opcode] at plain; cases plain
  case h_11 opcode => rw [opcode] at plain; cases plain
  case h_12 opcode =>
    rw [opcode] at start
    exact moves_forBounds.above start
  case h_13 =>
    have data : instruction.opcode.isControl = false := by
      unfold Opcode.isControl
      split <;> first | rfl | contradiction
    exact (@moves_dataProgram _ _ _ _ devices rfl code _ data depth).above start
  -- Jumps, stops and the checks of loops take nothing.
  all_goals exact fun _ member => nomatch member

theorem executeInstruction_pushNum (counts : instruction.opcode = .pushNum)
    (executed : executeInstruction host code instruction runtime = (some skip, after)) :
    after.stack = .number (ScriptNumber.ofInt instruction.operand) :: runtime.stack := by
  unfold executeInstruction at executed
  simp only [counts] at executed
  obtain ⟨_, middle, _, ran, rest⟩ := andThen_control executed
  simp only [dataProgram, counts] at ran
  obtain ⟨_, rfl⟩ := push_ok ran
  obtain ⟨-, rfl⟩ := Prod.mk.inj rest
  rfl

theorem sizeOfNumber_ofInt (small : count ≤ c64scriptMaxStackDepth) :
    sizeOfNumber (ScriptNumber.ofInt count : R) = count := by
  have bound : count ≤ 64 := small
  unfold sizeOfNumber
  rw [ScriptNumber.truncated_ofInt (count : Int) (by omega) (by omega)]
  rfl

theorem popDepths_bind {α β : Type} (program : Program R World α) (next : α → Program R World β)
    (runtime : Runtime R World) :
    popDepths (program.bind next) runtime =
      popDepths program runtime ++
        match program.run handleOp runtime with
        | (some result, after) => popDepths (next result) after
        | (none, _) => [] := by
  unfold popDepths
  rw [Effectful.performed_bind, List.filterMap_append]
  split <;> simp_all

theorem executeCall_moves {rest : List (Value R)} (small : count ≤ c64scriptMaxStackDepth)
    (stack : runtime.stack = .number (ScriptNumber.ofInt count) :: rest)
    (deep : rest.length = base + count)
    (executed : executeCall operand runtime = (some skip, after)) : after.stack.length = base := by
  obtain ⟨paramCount, middle, _, ran, final⟩ := andThen_control executed
  obtain ⟨number, below, reply, same, rfl, bound⟩ := callParams_ok ran
  obtain ⟨value, rfl⟩ := List.cons.inj (stack.symm.trans same)
  obtain rfl := Value.number.inj value
  rw [sizeOfNumber_ofInt small] at bound
  have last : StackAt base 0 middle := (moves_bindParams count).run
    (by show rest.length = base + (0 + count); omega) bound
  split at final
  · cases final
  · obtain ⟨-, rfl⟩ := Prod.mk.inj final
    exact last

theorem callParams_above {rest : List (Value R)} (small : count ≤ c64scriptMaxStackDepth)
    (stack : runtime.stack = .number (ScriptNumber.ofInt count) :: rest)
    (deep : rest.length = base + count) :
    ∀ found ∈ popDepths (@callParams R World _) runtime, base < found := by
  intro found member
  have popped : (pop : Program R World (Value R)).run handleOp runtime =
      (some (.number (ScriptNumber.ofInt count)), { runtime with stack := rest }) := by
    simp only [pop, Effectful.run, handleOp, stack]
  rw [callParams, Effectful.bind_eq, popDepths_bind, List.mem_append, popped] at member
  rcases member with counted | others
  · -- The count lies on top of the parameters.
    have whole : StackAt base (count + 1) runtime := by
      show runtime.stack.length = _
      rw [stack, List.length_cons]
      omega
    exact moves_pop.above whole found counted
  · have moves : MovesStack
        ((bindParams (sizeOfNumber (ScriptNumber.ofInt count : R))).bind fun _ =>
          .done (sizeOfNumber (ScriptNumber.ofInt count : R)) : Program R World Nat)
        (0 + count) 0 := by
      rw [sizeOfNumber_ofInt small]
      exact .bind (moves_bindParams count) fun _ => rfl
    have start : StackAt base (0 + count) ({ runtime with stack := rest } : Runtime R World) := by
      show rest.length = base + (0 + count)
      omega
    exact moves.above start found others

theorem executeReturn_function {scope : Scope R} {scopes : List (Scope R)}
    (opened : runtime.scopeStack = scope :: scopes)
    (start : StackAt base (if hasReturnValue then 1 else 0) runtime)
    (executed : executeReturn hasReturnValue runtime = (some skip, after)) :
    after.stack.length = base + 1 := by
  unfold executeReturn at executed
  simp only [opened] at executed
  rw [← Nat.zero_add (if hasReturnValue then 1 else 0)] at start
  obtain ⟨value, middle, empty, rest⟩ := andThen_moves (moves_returnValue _) start executed
  have empty : StackAt base 0
      ({ middle with scopeStack := middle.scopeStack.tail } : Runtime R World) := empty
  obtain ⟨_, last, pushed, ends⟩ := andThen_moves (moves_push value) empty rest
  obtain ⟨-, rfl⟩ := Prod.mk.inj ends
  exact pushed

theorem executeReturn_gosub (closed : runtime.scopeStack = [])
    (start : StackAt base (if hasReturnValue then 1 else 0) runtime)
    (executed : executeReturn hasReturnValue runtime = (some skip, after)) :
    after.stack.length = base := by
  unfold executeReturn at executed
  simp only [closed] at executed
  rw [← Nat.zero_add (if hasReturnValue then 1 else 0)] at start
  split at executed
  · obtain ⟨_, middle, last, rest⟩ := andThen_moves (moves_leaveGosub _ _) start executed
    obtain ⟨-, rfl⟩ := Prod.mk.inj rest
    exact last
  · cases executed

theorem returnPops_above (start : StackAt base (if hasReturnValue then 1 else 0) runtime) :
    ∀ found ∈ returnPops hasReturnValue runtime, base < found := by
  rw [← Nat.zero_add (if hasReturnValue then 1 else 0)] at start
  unfold returnPops
  split
  · exact (moves_returnValue hasReturnValue).above start
  · split
    · exact (moves_leaveGosub hasReturnValue _).above start
    · exact fun _ member => nomatch member

theorem executeCallFunction_moves
    (executed : executeCallFunction code operand runtime = (some skip, after)) :
    operand % 65536 ≤ runtime.stack.length ∧
      after.stack.length = runtime.stack.length - operand % 65536 := by
  unfold executeCallFunction at executed
  simp only at executed
  split at executed
  · cases executed
  · split_ifs at executed
    · cases executed
    · cases executed
    · cases executed
    · rename_i enough
      obtain ⟨-, rfl⟩ := Prod.mk.inj executed
      exact ⟨Nat.le_of_not_lt enough, List.length_drop ..⟩

theorem argumentPops_above (start : StackAt base (depth + operand % 65536) runtime) :
    ∀ found ∈ argumentPops code operand runtime, base < found := by
  have start : runtime.stack.length = base + (depth + operand % 65536) := start
  unfold argumentPops
  intro found member
  split at member
  · cases member
  · split_ifs at member
    · cases member
    · cases member
    · obtain ⟨taken, inside, rfl⟩ := List.mem_map.mp member
      have inside := List.mem_range.mp inside
      omega

end Instructions

section Invariant

variable {instruction : Instruction} {starts : List Nat} {level behind : StackLevel}

/-- A count that a level speaks of lies on top of the stack. -/
def StackLevel.OnTop (level : StackLevel) (stack : List (Value R)) : Prop :=
  match level with
  | .values _ => True
  | .counted count => stack.head? = some (.number (ScriptNumber.ofInt count))

/-- The open functions go on in the middle of statements, each as deep as its caller was. -/
def FramesHeld (all : List (Item R)) : List Nat → List FunctionFrame → Prop
  | [], frames => frames = []
  | _ :: _, [] => False
  | address :: addresses, frame :: frames =>
    (∃ depth, LevelAt all address (.values (depth + 1)) ∧ frame.entry = entryOf frames + depth) ∧
      frame.callerBegan = entryOf frames ∧ FramesHeld all addresses frames

/-- The stack is as deep as the level at hand says, above what the open functions found. -/
structure StackHeld (all : List (Item R)) (control : Control R) (stack : List (Value R))
    (record : StackRecord) : Prop where
  bounded : stack.length ≤ c64scriptMaxStackDepth
  level : ∃ level, LevelAt all control.ip level ∧
    stack.length = entryOf record.frames + level.depth ∧ level.OnTop stack
  began : record.began = entryOf record.frames
  gosubs : ∀ gosub ∈ control.gosubStack, Ground all gosub.returnIp
  frames : FramesHeld all control.returnIps record.frames

variable {host : Host R World} {devices : Devices R World} {code : Code R}
  {program : List (AstStmt R)} {state next : Runtime R World × StackRecord}

/-- The invariant of a recorded state. -/
def StateHeld (program : List (AstStmt R)) (state : Runtime R World × StackRecord) : Prop :=
  StackHeld (flattenProgram program) state.1.toMachine.control state.1.stack state.2

theorem StateHeld.statementBegan_eq (compiled : c64scriptCompile program [] = .ok code)
    (held : StateHeld program state) :
    statementBegan (programStarts program) state.1 state.2 = entryOf state.2.frames := by
  unfold statementBegan
  split
  · rename_i begins
    obtain ⟨level, here, depth, _⟩ := held.level
    obtain rfl := LevelAt.unique (compile_sound compiled) here
      ((program_ground program).2 _ begins)
    exact depth
  · exact held.began

theorem StateHeld.beginsAtEntry (compiled : c64scriptCompile program [] = .ok code)
    (held : StateHeld program state) : BeginsAtEntry (programStarts program) state := by
  intro begins
  rw [← held.statementBegan_eq compiled, statementBegan, if_pos begins]

theorem StateHeld.leads (compiled : c64scriptCompile program [] = .ok code)
    (held : StateHeld program state) (found : code.bytecode[state.1.ip]? = some instruction) :
    ∃ level next, instruction.opcode.Leads instruction.operand level next ∧
      state.1.stack.length = entryOf state.2.frames + level.depth ∧ level.OnTop state.1.stack ∧
        level.depth ≤ c64scriptMaxStackDepth ∧
          LevelAt (flattenProgram program) (state.1.ip + 1) next := by
  obtain ⟨level, here, depth, onTop⟩ := held.level
  obtain ⟨level', next, here', behind, leads⟩ := compile_leads compiled found
  obtain rfl := LevelAt.unique (compile_sound compiled) here' here
  have bounded := held.bounded
  have fitting : level'.depth ≤ c64scriptMaxStackDepth := by omega
  exact ⟨level', next, leads fitting, depth, onTop, fitting, behind⟩

theorem pops_return (operand : Nat) :
    Opcode.return.pops operand = if decide (operand ≠ 0) then 1 else 0 := by
  by_cases zero : operand = 0 <;> simp [Opcode.pops, zero]

theorem StateHeld.takesOwnValues (compiled : c64scriptCompile program [] = .ok code)
    (held : StateHeld program state) :
    TakesOwnValues (host.withDevices devices) code (programStarts program) state := by
  intro instruction found
  rw [held.statementBegan_eq compiled]
  obtain ⟨level, next, leads, depth, onTop, fitting, _⟩ := held.leads compiled found
  have stack : (vmEnter (host.withDevices devices) instruction state.1).stack = state.1.stack := by
    show (vmEnter (host.withDevices devices) instruction state.1).toMachine.stack = _
    rw [vmEnter_machine]
  generalize vmEnter (host.withDevices devices) instruction state.1 = entered at stack
  rw [← stack] at depth onTop
  cases leads with
  | plain below uncounted noCall settled =>
    have start : StackAt (entryOf state.2.frames)
      (below + instruction.opcode.pops instruction.operand) entered := depth
    by_cases plain : instruction.opcode.isCall = false
    · exact instructionPops_above plain start
    · have calls : instruction.opcode = .callFunction ∨ instruction.opcode = .return ∨
          instruction.opcode = .returnValue := by
        have opened : instruction.opcode.isCall = true := by simpa using plain
        simp only [Opcode.isCall, Opcode.isReturn, Bool.or_eq_true, beq_iff_eq] at opened
        rcases opened with (call | function) | returns
        · exact absurd call noCall
        · exact .inl function
        · exact .inr returns
      rcases calls with opcode | opcode | opcode
      · simp only [instructionPops, opcode]
        rw [opcode] at start
        exact argumentPops_above start
      · simp only [instructionPops, opcode]
        rw [opcode] at start settled
        obtain rfl : below = 0 := (Nat.add_eq_zero_iff.mp (settled rfl)).1
        rw [Nat.zero_add, pops_return] at start
        exact returnPops_above start
      · simp only [instructionPops, opcode]
        rw [opcode] at start settled
        obtain rfl : below = 0 := (Nat.add_eq_zero_iff.mp (settled rfl)).1
        exact returnPops_above start
  | count counts =>
    have start : StackAt (entryOf state.2.frames)
        (instruction.operand + instruction.opcode.pops instruction.operand) entered := by
      rw [counts]
      exact depth
    exact instructionPops_above (by rw [counts]; rfl) start
  | call calls count =>
    simp only [instructionPops, calls]
    obtain ⟨rest, top⟩ : ∃ rest, entered.stack = .number (ScriptNumber.ofInt count) :: rest :=
      List.head?_eq_some_iff.mp onTop
    rw [top] at depth
    have deep : rest.length + 1 = entryOf state.2.frames + (count + 1) := depth
    have small : count + 1 ≤ c64scriptMaxStackDepth := fitting
    exact callParams_above (by omega) top (by omega)

omit [ScriptNumber R] in
theorem stackAfter_other (noFunction : instruction.opcode ≠ .callFunction)
    (noReturn : instruction.opcode.isReturn = false) (runtime : Runtime R World)
    (record : StackRecord) :
    stackAfter starts instruction runtime record =
      ⟨statementBegan starts runtime record, record.frames⟩ := by
  unfold stackAfter
  split
  · exact absurd ‹_› noFunction
  · rename_i opcode; rw [opcode] at noReturn; cases noReturn
  · rename_i opcode; rw [opcode] at noReturn; cases noReturn
  · rfl

omit [ScriptNumber R] in
theorem stackAfter_return (returns : instruction.opcode.isReturn = true) {runtime : Runtime R World}
    {record : StackRecord} {frame : FunctionFrame} {frames : List FunctionFrame}
    (opened : runtime.scopeStack ≠ []) (known : record.frames = frame :: frames) :
    stackAfter starts instruction runtime record = ⟨frame.callerBegan, frames⟩ := by
  simp only [Opcode.isReturn, Bool.or_eq_true, beq_iff_eq] at returns
  obtain ⟨scope, scopes, opened⟩ := List.exists_cons_of_ne_nil opened
  unfold stackAfter
  rcases returns with opcode | opcode <;> simp only [opcode, opened, known]

omit [ScriptNumber R] in
theorem stackAfter_gosubReturn (returns : instruction.opcode.isReturn = true)
    {runtime : Runtime R World} {record : StackRecord} (closed : runtime.scopeStack = []) :
    stackAfter starts instruction runtime record =
      ⟨statementBegan starts runtime record, record.frames⟩ := by
  simp only [Opcode.isReturn, Bool.or_eq_true, beq_iff_eq] at returns
  unfold stackAfter
  rcases returns with opcode | opcode <;> simp only [opcode, closed]

theorem Opcode.Leads.ground {opcode : Opcode} {operand : Nat}
    (leads : opcode.Leads operand level behind) (leaves : opcode.leaves = true) :
    behind = .values 0 := by
  cases leads with
  | plain depth _ _ settled => rw [settled leaves]
  | count counts => rw [counts] at leaves; cases leaves
  | call => rfl

theorem Opcode.Leads.stack {base : Nat} {entered executed : Runtime R World} {skip : Bool}
    (leads : instruction.opcode.Leads instruction.operand level behind)
    (plain : instruction.opcode.isCall = false) (depth : entered.stack.length = base + level.depth)
    (outcome : executeInstruction (host.withDevices devices) code instruction entered =
      (some skip, executed)) :
    executed.stack.length = base + behind.depth ∧ behind.OnTop executed.stack := by
  cases leads with
  | plain below => exact ⟨executeInstruction_moves plain depth outcome, trivial⟩
  | count counts =>
    have pushed := executeInstruction_pushNum counts outcome
    have depth : entered.stack.length = base + instruction.operand := depth
    rw [pushed]
    exact ⟨by rw [List.length_cons, depth]; rfl, rfl⟩
  | call calls => rw [calls] at plain; cases plain

theorem Opcode.Leads.returns {base : Nat} {entered executed : Runtime R World} {skip : Bool}
    (leads : instruction.opcode.Leads instruction.operand level behind)
    (returns : instruction.opcode.isReturn = true)
    (depth : entered.stack.length = base + level.depth)
    (outcome : executeInstruction host code instruction entered = (some skip, executed)) :
    ∃ hasReturnValue : Bool, StackAt base (if hasReturnValue then 1 else 0) entered ∧
      executeReturn hasReturnValue entered = (some skip, executed) := by
  cases leads with
  | plain below _ _ settled =>
    have leaves : instruction.opcode.leaves = true := by simp [Opcode.leaves, returns]
    obtain rfl : below = 0 := (Nat.add_eq_zero_iff.mp (settled leaves)).1
    simp only [Opcode.isReturn, Bool.or_eq_true, beq_iff_eq] at returns
    rcases returns with opcode | opcode
    · simp only [executeInstruction, opcode] at outcome
      rw [opcode] at depth
      refine ⟨_, ?_, outcome⟩
      rw [← pops_return, ← Nat.zero_add (Opcode.return.pops instruction.operand)]
      exact depth
    · simp only [executeInstruction, opcode] at outcome
      rw [opcode] at depth
      exact ⟨true, depth, outcome⟩
  | count counts => rw [counts] at returns; cases returns
  | call calls => rw [calls] at returns; cases returns

/-- A round that goes on keeps the invariant. -/
theorem stackStep_held (compiled : c64scriptCompile program [] = .ok code)
    (fits : code.bytecode.length ≤ operandBound) (held : StateHeld program state)
    (stepped : stackStep (host.withDevices devices) code (programStarts program) state = some next) :
    StateHeld program next := by
  obtain ⟨instruction, found, running, record⟩ := recordedStep_running stepped
  obtain ⟨same, entered, skip, executed, here, begins, outcome, ends⟩ := vmStep_running running
  obtain rfl : instruction = same := Option.some.inj (found.symm.trans here)
  have effect := executeInstruction_control outcome
  have bounded : executed.stack.length ≤ c64scriptMaxStackDepth := by
    refine executeInstruction_stack ?_ outcome
    show entered.toMachine.stack.length ≤ _
    rw [begins]
    exact held.bounded
  have began := held.statementBegan_eq compiled
  obtain ⟨level, behind, leads, depth, onTop, fitting, nextLevel⟩ := held.leads compiled found
  have stack : entered.stack = state.1.stack := by
    show entered.toMachine.stack = _
    rw [begins]
  have before : entered.toMachine.control =
      { state.1.toMachine.control with ip := state.1.ip + 1 } := by
    rw [begins]
    rfl
  unfold StateHeld
  rw [ends, record]
  rw [before] at effect
  rw [← stack] at depth onTop
  -- What neither calls nor returns goes on at a level that the stack is as deep as.
  have other : ∀ control : Control R, instruction.opcode.isCall = false →
      control.gosubStack = state.1.gosubStack →
      control.returnIps = state.1.toMachine.control.returnIps →
      LevelAt (flattenProgram program) control.ip behind →
      StackHeld (flattenProgram program) control executed.stack
        (stackAfter (programStarts program) instruction state.1 state.2) := by
    intro control plain gosubs scopes here
    have noReturn : instruction.opcode.isReturn = false ∧ instruction.opcode ≠ .callFunction := by
      simp only [Opcode.isCall, Bool.or_eq_false_iff, beq_eq_false_iff_ne] at plain
      exact ⟨plain.2, plain.1.2⟩
    rw [stackAfter_other noReturn.2 noReturn.1]
    refine ⟨bounded, ⟨behind, here, leads.stack plain depth outcome⟩, began, ?_, ?_⟩
    · rw [gosubs]
      exact held.gosubs
    · rw [scopes]
      exact held.frames
  have target := compile_target_ground compiled fits found
  generalize executed.toMachine.control = after at effect
  cases effect with
  | next plain => exact other _ plain rfl rfl nextLevel
  | forInit enters => exact other _ (by rw [enters]; rfl) rfl rfl nextLevel
  | jump jumps =>
    have isJump : instruction.opcode.isLocalJump = true := by
      rcases jumps with opcode | opcode | opcode <;> rw [opcode] <;> rfl
    have ground := target (.inl isJump)
    have settled := leads.ground (by simp [Opcode.leaves, isJump])
    exact other _ (isCall_of_isLocalJump isJump) rfl rfl (by rw [settled]; exact ground)
  | forDone leaves =>
    have isJump : instruction.opcode.isLocalJump = true := by rw [leaves]; rfl
    have ground := target (.inl isJump)
    have settled := leads.ground (by simp [Opcode.leaves, isJump])
    exact other _ (isCall_of_isLocalJump isJump) rfl rfl (by rw [settled]; exact ground)
  | call calls paramCount =>
    cases leads with
    | plain _ _ noCall => exact absurd calls noCall
    | count counts => rw [counts] at calls; cases calls
    | call _ count =>
      simp only [executeInstruction, calls] at outcome
      obtain ⟨rest, top⟩ := List.head?_eq_some_iff.mp onTop
      rw [top] at depth
      have deep : rest.length + 1 = entryOf state.2.frames + (count + 1) := depth
      have small : count + 1 ≤ c64scriptMaxStackDepth := fitting
      have below : rest.length = entryOf state.2.frames + count := by omega
      have empty := executeCall_moves (Nat.le_of_succ_le small) top below outcome
      rw [stackAfter_other (by rw [calls]; decide) (by rw [calls]; rfl)]
      refine ⟨bounded, ⟨_, target (.inr calls), empty, trivial⟩, began, ?_, held.frames⟩
      -- The subroutine returns behind the statement that calls it.
      intro gosub member
      rcases List.mem_cons.mp member with rfl | member
      · exact nextLevel
      · exact held.gosubs gosub member
  | callFunction calls function known =>
    cases leads with
    | count counts => rw [counts] at calls; cases calls
    | call call => rw [call] at calls; cases calls
    | plain below =>
      simp only [executeInstruction, calls] at outcome
      obtain ⟨enough, taken⟩ := executeCallFunction_moves outcome
      rw [stack] at enough taken depth
      have depth : state.1.stack.length =
          entryOf state.2.frames + (below + instruction.opcode.pops instruction.operand) := depth
      rw [calls, show Opcode.callFunction.pops instruction.operand = instruction.operand % 65536
        from rfl] at depth
      rw [calls] at nextLevel
      have entry : state.1.stack.length - instruction.operand % 65536 =
          entryOf state.2.frames + below := by omega
      simp only [stackAfter, calls]
      refine ⟨bounded, ⟨.values 0, ?_, ?_, trivial⟩, rfl, held.gosubs,
        ⟨⟨below, nextLevel, entry⟩, began, held.frames⟩⟩
      · exact compile_function_ground compiled function (List.mem_of_getElem? known)
      · rw [taken]
        rfl
  | functionReturn returns address rest scopes =>
    obtain ⟨hasReturnValue, start, returning⟩ := leads.returns returns depth outcome
    have scopes : state.1.scopeStack.map Scope.returnIp = address :: rest := scopes
    have frames := held.frames
    rw [show state.1.toMachine.control.returnIps = address :: rest from scopes] at frames
    cases known : state.2.frames with
    | nil =>
      rw [known] at frames
      exact frames.elim
    | cons frame others =>
      rw [known] at frames
      obtain ⟨⟨below, there, entry⟩, callerBegan, suspended⟩ := frames
      have opened : state.1.scopeStack ≠ [] := fun none => by rw [none] at scopes; cases scopes
      obtain ⟨scope, outer, found⟩ := List.exists_cons_of_ne_nil opened
      have entered : entered.scopeStack = scope :: outer := by
        show entered.toMachine.scopeStack = _
        rw [begins, ← found]
      have value := executeReturn_function entered start returning
      rw [known, show entryOf (frame :: others) = frame.entry from rfl, entry] at value
      rw [stackAfter_return returns opened known]
      -- The caller goes on with the value of the call on top of what it had.
      exact ⟨bounded, ⟨_, there, value, trivial⟩, callerBegan, held.gosubs, suspended⟩
  | gosubReturn returns scopes gosub rest gosubs =>
    obtain ⟨hasReturnValue, start, returning⟩ := leads.returns returns depth outcome
    have scopes : state.1.scopeStack.map Scope.returnIp = [] := scopes
    have closed : state.1.scopeStack = [] := List.map_eq_nil_iff.mp scopes
    have entered : entered.scopeStack = [] := by
      show entered.toMachine.scopeStack = _
      rw [begins, ← closed]
    have empty := executeReturn_gosub entered start returning
    have gosubs : state.1.gosubStack = gosub :: rest := gosubs
    rw [stackAfter_gosubReturn returns closed]
    have kept : ∀ other ∈ gosub :: rest, Ground (flattenProgram program) other.returnIp := by
      rw [← gosubs]
      exact held.gosubs
    exact ⟨bounded, ⟨_, kept gosub (List.mem_cons_self ..), empty, trivial⟩, began,
      fun other member => kept other (List.mem_cons_of_mem _ member), held.frames⟩

/-- No statement of a compiled script takes a value that it has not put on the stack itself, and
every statement begins with the stack as deep as the innermost open function found it. -/
theorem valueStack_disciplined (host : Host R World) (devices : Devices R World)
    (compiled : c64scriptCompile program [] = .ok code)
    (fits : code.bytecode.length ≤ operandBound) {runtime : Runtime R World}
    (fresh : runtime.stack = [] ∧ runtime.scopeStack = [] ∧ runtime.gosubStack = [])
    (reached : Reaches (stackStep (host.withDevices devices) code (programStarts program))
      (fun _ => True) (vmStart code runtime, ⟨0, []⟩) state) :
    TakesOwnValues (host.withDevices devices) code (programStarts program) state ∧
      BeginsAtEntry (programStarts program) state := by
  have held : StateHeld program state := by
    refine reached.invariant (StateHeld program)
      (fun _ _ held _ stepped => stackStep_held compiled fits held stepped) ?_
    obtain ⟨stack, scopes, gosubs⟩ := fresh
    have start : StackHeld (flattenProgram program) ⟨0, runtime.forStack, [], []⟩ ([] : List (Value R))
        ⟨0, []⟩ := ⟨Nat.zero_le _, ⟨.values 0, ground_zero _, rfl, trivial⟩, rfl, nofun, rfl⟩
    unfold StateHeld vmStart Machine.control
    simpa only [stack, scopes, gosubs, List.map_nil] using start
  exact ⟨held.takesOwnValues compiled, held.beginsAtEntry compiled⟩

end Invariant

section Examples

/-- Devices that answer zero and do nothing. -/
def idleDevices : Devices Int Unit where
  act _ _ _ := .done (.number 0)
  leavesStack _ _ _ := rfl

/-- A function that is called in the middle of a sum. -/
def functionInSum : List (AstStmt Int) :=
  [.functionDef 1 (text "F") [text "X"] [.return 2 (some (.identifier 2 (text "X")))],
    .command 4 (.assignment (text "A") (.binary 4 .add (.number 4 (literal 1))
      (.call 4 (text "F") [.number 4 (literal 2)])))]

/-- Its code. -/
def functionInSumCode : Code Int :=
  ⟨[⟨.jump, 3, 1⟩, ⟨.pushVar, 0, 2⟩, ⟨.return, 1, 2⟩, ⟨.pushConst, 1, 4⟩, ⟨.pushConst, 2, 4⟩,
      ⟨.callFunction, 1, 4⟩, ⟨.add, 0, 4⟩, ⟨.popVar, 3, 4⟩, ⟨.halt, 0, -1⟩],
    [.string (text "X"), .number (literal 1), .number (literal 2), .string (text "A")],
    [⟨text "F", 1, [text "X"]⟩]⟩

/-- While the function is open, the stack is as deep as it found it. -/
theorem valueStack_disciplined_inSum :
    ∃ state, Reaches (stackStep (quietHost.withDevices idleDevices) functionInSumCode
        (programStarts functionInSum)) (fun _ => True)
        (vmStart functionInSumCode (runtimeCreate ()), ⟨0, []⟩) state ∧
      state.2.frames = [⟨1, 0⟩] ∧
        TakesOwnValues (quietHost.withDevices idleDevices) functionInSumCode
          (programStarts functionInSum) state ∧
          BeginsAtEntry (programStarts functionInSum) state := by
  have compiled : c64scriptCompile functionInSum [] = .ok functionInSumCode := rfl
  obtain ⟨state, stepped, frames⟩ : ∃ state,
      stepTimes (stackStep (quietHost.withDevices idleDevices) functionInSumCode
        (programStarts functionInSum)) 4
        (vmStart functionInSumCode (runtimeCreate ()), ⟨0, []⟩) = some state ∧
      state.2.frames = [⟨1, 0⟩] := ⟨_, rfl, rfl⟩
  have reached := reaches_of_stepTimes stepped
  exact ⟨state, reached, frames, valueStack_disciplined quietHost idleDevices compiled (by decide)
    ⟨rfl, rfl, rfl⟩ reached⟩

theorem compileStatements_returns (count : Nat) (ctx : CompilerContext Int) :
    compileStatements (List.replicate count (.return 2 none)) ctx =
      .ok { ctx with
        instructions := ctx.instructions ++ List.replicate count ⟨.return, 0, 2⟩ } := by
  induction count generalizing ctx with
  | zero => simp [compileStatements]
  | succ count ih =>
    rw [List.replicate_succ, compileStatements]
    show compileStatements (List.replicate count (.return 2 none)) (emit ctx .return 0 2) = _
    rw [ih, List.replicate_succ]
    simp [emit]

/-- A branch of so many statements that the address behind it does not fit into an operand. -/
def longBranch (count : Nat) : List (AstStmt Int) :=
  [.if 1 (.number 1 (literal 0)) (List.replicate count (.return 2 none)) []]

/-- Its code. -/
def longBranchCode (count : Nat) : Code Int :=
  ⟨⟨.pushConst, 0, 1⟩ :: ⟨.jumpIfFalse, (2 + count) % operandBound, 1⟩ ::
      (List.replicate count ⟨.return, 0, 2⟩ ++ [⟨.halt, 0, -1⟩]),
    [.number (literal 0)], []⟩

theorem longBranch_compiles (count : Nat) :
    c64scriptCompile (longBranch count) [] = .ok (longBranchCode count) := by
  let start : CompilerContext Int :=
    ⟨[⟨.pushConst, 0, 1⟩, ⟨.jumpIfFalse, 0, 1⟩], [.number (literal 0)], [], [], []⟩
  have body := compileStatements_returns count start
  have test : compileStatements (longBranch count) (emptyContext []) =
      (do
        let ctx ← compileStatements (List.replicate count (.return 2 none)) start
        .ok (patchOperand ctx 1 ctx.instructions.length)) := by
    show (do
      let ctx ← (do
        let ctx ← compileStatements (List.replicate count (.return 2 none)) start
        .ok (patchOperand ctx 1 ctx.instructions.length))
      compileStatements [] ctx) = _
    rw [body]
    rfl
  -- The operand of the test is patched once the length of the branch is known.
  have program : compileProgram (longBranch count) (emptyContext []) =
      .ok ⟨(longBranchCode count).bytecode, [.number (literal 0)], [], [], []⟩ := by
    rw [compileProgram, test, body]
    show Except.ok (emit (patchOperand _ 1 _) .halt 0 (-1)) = _
    simp [emit, patchOperand, setOperand, start, longBranchCode, Nat.add_comm 2 count]
  rw [longBranch] at program ⊢
  rw [c64scriptCompile, program]
  rfl

/-- The test of a branch of 2^32 - 1 statements leads back to itself, where it takes a condition from
the empty stack. -/
theorem longBranch_popsEmpty :
    ∃ state, c64scriptCompile (longBranch 4294967295) [] = .ok (longBranchCode 4294967295) ∧
      Reaches (stackStep (quietHost.withDevices idleDevices) (longBranchCode 4294967295)
        (programStarts (longBranch 4294967295))) (fun _ => True)
        (vmStart (longBranchCode 4294967295) (runtimeCreate ()), ⟨0, []⟩) state ∧
      state.1.stack = [] ∧
        ¬ TakesOwnValues (quietHost.withDevices idleDevices) (longBranchCode 4294967295)
          (programStarts (longBranch 4294967295)) state := by
  generalize programStarts (longBranch 4294967295) = starts
  obtain ⟨state, stepped, ip, empty⟩ : ∃ state,
      stepTimes (stackStep (quietHost.withDevices idleDevices) (longBranchCode 4294967295) starts) 2
        (vmStart (longBranchCode 4294967295) (runtimeCreate ()), ⟨0, []⟩) = some state ∧
      state.1.ip = 1 ∧ state.1.stack = [] := ⟨_, rfl, rfl, rfl⟩
  refine ⟨state, longBranch_compiles _, reaches_of_stepTimes stepped, empty, fun own => ?_⟩
  have found : (longBranchCode 4294967295).bytecode[state.1.ip]? = some ⟨.jumpIfFalse, 1, 1⟩ := by
    rw [ip]
    rfl
  have entered : (vmEnter (quietHost.withDevices idleDevices) ⟨.jumpIfFalse, 1, 1⟩ state.1).stack =
      [] := by
    show (vmEnter (quietHost.withDevices idleDevices) _ state.1).toMachine.stack = _
    rw [vmEnter_machine]
    exact empty
  -- The condition is taken at depth zero, below which nothing can begin.
  refine Nat.not_lt_zero _ (own _ found 0 ?_)
  simp [instructionPops, popDepths, popNumber, pop, Effectful.bind, Effectful.performed, handleOp,
    entered]

end Examples

end C64Stream
