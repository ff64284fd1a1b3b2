import C64Stream.Script.Bytecode
import C64Stream.Script.VmLaws

/-! Calls of subroutines and functions, and the order in which they return. -/

namespace C64Stream

variable {R World : Type} [ScriptNumber R]

/-- The two kinds of calls. -/
inductive CallKind where
  | gosub
  | function
  deriving DecidableEq

/-- The instruction that makes a call. -/
def CallKind.opcode (kind : CallKind) : Opcode :=
  match kind with
  | .gosub => .call
  | .function => .callFunction

abbrev OpenCalls := List (CallKind × Nat)

/-- The open calls after an instruction, given the address of the next one. -/
def callsAfter (opcode : Opcode) (nextIp : Nat) (calls : OpenCalls) : OpenCalls :=
  match opcode with
  | .call => (.gosub, nextIp) :: calls
  | .callFunction => (.function, nextIp) :: calls
  | .return | .returnValue => calls.tail
  | _ => calls

/-- A round that goes on, with a record of the open calls. -/
def callStep (host : Host R World) (code : Code R) :
    Runtime R World × OpenCalls → Option (Runtime R World × OpenCalls) :=
  recordedStep (fun instruction runtime => callsAfter instruction.opcode (runtime.ip + 1))
    host code

/-- A return resumes after the latest call that has not returned. -/
def ReturnsInOrder (code : Code R) (state next : Runtime R World × OpenCalls) : Prop :=
  code.returnsAt state.1.ip → state.2.head?.map Prod.snd = some next.1.ip

/-- A return with a function scope open returns from a function. -/
def ReturnMatchesCall (code : Code R) (state : Runtime R World × OpenCalls) : Prop :=
  code.returnsAt state.1.ip → state.1.scopeStack.isEmpty = false →
    state.2.head?.map Prod.fst = some .function

instance decidableReturnMatchesCall (code : Code R) (state : Runtime R World × OpenCalls) :
    Decidable (ReturnMatchesCall code state) :=
  inferInstanceAs (Decidable (_ → _ → _))

/-- The return addresses of the open calls of a kind. -/
def addressesOf (kind : CallKind) (calls : OpenCalls) : List Nat :=
  (calls.filter fun call => call.1 == kind).map Prod.snd

/-- The two stacks of the machine hold the open calls of their kinds. -/
structure CallsAgree (code : Code R) (control : Control R) (calls : OpenCalls) : Prop where
  functions : addressesOf .function calls = control.returnIps
  gosubs : addressesOf .gosub calls = control.gosubStack.map GosubState.returnIp
  sites : ∀ call ∈ calls, 0 < call.2 ∧ ∃ instruction,
    code.bytecode[call.2 - 1]? = some instruction ∧ instruction.opcode = call.1.opcode

section Steps

variable {host : Host R World} {code : Code R} {state next : Runtime R World × OpenCalls}
  {calls : OpenCalls} {control : Control R}

theorem callsAfter_plain {opcode : Opcode} (plain : opcode.isCall = false) (nextIp : Nat)
    (calls : OpenCalls) : callsAfter opcode nextIp calls = calls := by
  unfold callsAfter
  split <;> first | rfl | (exact absurd plain (by decide))

theorem callsAfter_return {opcode : Opcode} (returns : opcode.isReturn) (nextIp : Nat)
    (calls : OpenCalls) : callsAfter opcode nextIp calls = calls.tail := by
  unfold callsAfter
  split <;> first | rfl | (exact absurd returns (by decide)) | skip
  simp only [Opcode.isReturn, Bool.or_eq_true, beq_iff_eq] at returns
  rcases returns with same | same <;> contradiction

theorem sites_cons {kind : CallKind} {instruction : Instruction} {ip : Nat}
    (sites : ∀ call ∈ calls, 0 < call.2 ∧ ∃ instruction,
      code.bytecode[call.2 - 1]? = some instruction ∧ instruction.opcode = call.1.opcode)
    (found : code.bytecode[ip]? = some instruction) (opcode : instruction.opcode = kind.opcode) :
    ∀ call ∈ (kind, ip + 1) :: calls, 0 < call.2 ∧ ∃ instruction,
      code.bytecode[call.2 - 1]? = some instruction ∧ instruction.opcode = call.1.opcode := by
  intro call member
  rcases List.mem_cons.mp member with rfl | member
  · exact ⟨Nat.succ_pos _, instruction, found, opcode⟩
  · exact sites call member

theorem CallsAgree.address_kind (agree : CallsAgree code control calls)
    {first second : CallKind × Nat} (one : first ∈ calls) (two : second ∈ calls)
    (same : first.2 = second.2) :
    first.1 = second.1 := by
  obtain ⟨_, instruction, found, opcode⟩ := agree.sites first one
  obtain ⟨_, other, also, otherOpcode⟩ := agree.sites second two
  rw [same] at found
  obtain rfl : instruction = other := Option.some.inj (found.symm.trans also)
  rw [opcode] at otherOpcode
  cases kind : first.1 <;> cases other : second.1 <;> rw [kind, other] at otherOpcode
  all_goals first | rfl | cases otherOpcode

theorem mem_addressesOf {kind : CallKind} {address : Nat}
    (member : address ∈ addressesOf kind calls) : (kind, address) ∈ calls := by
  simp only [addressesOf, List.mem_map, List.mem_filter, beq_iff_eq] at member
  obtain ⟨⟨other, found⟩, ⟨member, rfl⟩, rfl⟩ := member
  exact member

theorem CallsAgree.latest_function (agree : CallsAgree code control calls) {address : Nat}
    {rest : List Nat} (scopes : control.returnIps = address :: rest) :
    calls.head?.map Prod.snd = some address ↔ calls.head?.map Prod.fst = some .function := by
  have functions := agree.functions
  rw [scopes] at functions
  cases calls with
  | nil => simp [addressesOf] at functions
  | cons call others =>
    obtain ⟨kind, next⟩ := call
    simp only [List.head?_cons, Option.map_some, Option.some.injEq]
    cases kind with
    | function =>
      have same : next = address := by
        simp only [addressesOf, List.filter_cons] at functions
        simpa using (List.cons.inj functions).1
      simp [same]
    | gosub =>
      -- The address of a function call is never that of a subroutine call.
      have member : (.function, address) ∈ (CallKind.gosub, next) :: others :=
        mem_addressesOf (by rw [functions]; simp)
      constructor
      · intro same
        exact agree.address_kind (List.mem_cons_self ..) member same
      · intro same
        cases same

theorem CallsAgree.latest_gosub (agree : CallsAgree code control calls)
    (scopes : control.returnIps = []) {gosub : GosubState} {rest : List GosubState}
    (gosubs : control.gosubStack = gosub :: rest) :
    calls.head? = some (.gosub, gosub.returnIp) := by
  have functions := agree.functions
  have subroutines := agree.gosubs
  rw [scopes] at functions
  rw [gosubs] at subroutines
  cases calls with
  | nil => simp [addressesOf] at subroutines
  | cons call others =>
    obtain ⟨kind, next⟩ := call
    cases kind with
    | function => simp [addressesOf] at functions
    | gosub =>
      simp only [addressesOf, List.filter_cons] at subroutines
      have same : next = gosub.returnIp := by simpa using (List.cons.inj subroutines).1
      rw [List.head?_cons, same]

theorem return_inOrder_iff (agree : CallsAgree code state.1.toMachine.control state.2)
    (stepped : callStep host code state = some next) :
    ReturnsInOrder code state next ↔ ReturnMatchesCall code state := by
  obtain ⟨instruction, found, effect, _⟩ := recordedStep_control stepped
  unfold ReturnsInOrder ReturnMatchesCall
  rw [returnsAt_of_found found]
  cases returns : instruction.opcode.isReturn with
  | false => simp
  | true =>
    simp only [forall_const]
    rw [scopeStack_isEmpty]
    rcases effect.of_return returns with
      ⟨address, rest, scopes, after⟩ | ⟨scopes, gosub, rest, gosubs, after⟩
    · have resumed : next.1.ip = address := congrArg Control.ip after
      have opened : state.1.toMachine.control.returnIps = address :: rest := scopes
      rw [resumed, opened]
      simpa using agree.latest_function opened
    · have resumed : next.1.ip = gosub.returnIp := congrArg Control.ip after
      have none : state.1.toMachine.control.returnIps = [] := scopes
      rw [resumed, none, agree.latest_gosub none gosubs]
      simp

theorem callsAgree_step (agree : CallsAgree code state.1.toMachine.control state.2)
    (matching : ReturnMatchesCall code state) (stepped : callStep host code state = some next) :
    CallsAgree code next.1.toMachine.control next.2 := by
  obtain ⟨instruction, found, effect, record⟩ := recordedStep_control stepped
  rw [record]
  generalize next.1.toMachine.control = after at effect
  have kept : instruction.opcode.isCall = false →
      callsAfter instruction.opcode (state.1.ip + 1) state.2 = state.2 := fun plain =>
    callsAfter_plain plain _ _
  cases effect with
  | next plain =>
    rw [kept plain]
    exact ⟨agree.functions, agree.gosubs, agree.sites⟩
  | jump jumps =>
    rw [kept (by rcases jumps with opcode | opcode | opcode <;> rw [opcode] <;> rfl)]
    exact ⟨agree.functions, agree.gosubs, agree.sites⟩
  | call calls paramCount =>
    rw [calls]
    refine ⟨?_, ?_, sites_cons agree.sites found calls⟩
    · simpa [callsAfter, addressesOf] using agree.functions
    · simpa [callsAfter, addressesOf] using agree.gosubs
  | callFunction calls function known =>
    rw [calls]
    refine ⟨?_, ?_, sites_cons agree.sites found calls⟩
    · simpa [callsAfter, addressesOf] using agree.functions
    · simpa [callsAfter, addressesOf] using agree.gosubs
  | functionReturn returns address rest scopes =>
    rw [callsAfter_return returns]
    have opened : state.1.toMachine.control.returnIps = address :: rest := scopes
    have nonempty : state.1.scopeStack.isEmpty = false := by
      rw [scopeStack_isEmpty, opened]
      rfl
    have latest := matching (by rw [returnsAt_of_found found]; exact returns) nonempty
    have functions := agree.functions
    have gosubs := agree.gosubs
    have sites := agree.sites
    cases record : state.2 with
    | nil => rw [record] at latest; cases latest
    | cons call others =>
      obtain ⟨kind, next⟩ := call
      rw [record] at latest functions gosubs sites
      obtain rfl : kind = .function := by simpa using latest
      rw [opened] at functions
      refine ⟨?_, ?_, fun call member => sites call (List.mem_cons_of_mem _ member)⟩
      · simp only [addressesOf, List.filter_cons] at functions
        simpa [addressesOf] using (List.cons.inj functions).2
      · simpa [addressesOf] using gosubs
  | gosubReturn returns scopes gosub rest gosubStack =>
    rw [callsAfter_return returns]
    have latest := agree.latest_gosub scopes gosubStack
    have functions := agree.functions
    have gosubs := agree.gosubs
    have sites := agree.sites
    cases record : state.2 with
    | nil => rw [record] at latest; cases latest
    | cons call others =>
      rw [record] at latest functions gosubs sites
      obtain rfl : call = (.gosub, gosub.returnIp) := by simpa using latest
      have stack : state.1.toMachine.control.gosubStack = gosub :: rest := gosubStack
      rw [stack] at gosubs
      refine ⟨?_, ?_, fun call member => sites call (List.mem_cons_of_mem _ member)⟩
      · simpa [addressesOf] using functions
      · simp only [addressesOf, List.filter_cons] at gosubs
        simpa [addressesOf] using gosubs
  | forInit enters state =>
    rw [kept (by rw [enters]; rfl)]
    exact ⟨agree.functions, agree.gosubs, agree.sites⟩
  | forDone leaves state rest loops =>
    rw [kept (by rw [leaves]; rfl)]
    exact ⟨agree.functions, agree.gosubs, agree.sites⟩

end Steps

/-- As long as returns match, each return is in order, and the first that does not is not. -/
theorem returns_inOrder_iff (host : Host R World) (code : Code R) {runtime : Runtime R World}
    (scopes : runtime.scopeStack = []) (gosubs : runtime.gosubStack = [])
    {state next : Runtime R World × OpenCalls}
    (reached : Reaches (callStep host code) (ReturnMatchesCall code) (vmStart code runtime, [])
      state)
    (stepped : callStep host code state = some next) :
    ReturnsInOrder code state next ↔ ReturnMatchesCall code state := by
  refine return_inOrder_iff (reached.invariant
    (fun state => CallsAgree code state.1.toMachine.control state.2)
    (fun _ _ agree matching => callsAgree_step agree matching) ?_) stepped
  refine ⟨?_, ?_, by simp⟩
  · simp [vmStart, Machine.control, scopes, addressesOf]
  · simp [vmStart, Machine.control, gosubs, addressesOf]

section Examples

/-- A function that runs a subroutine before it returns. -/
def gosubInFunction : List (AstStmt Int) :=
  [.functionDef 1 (text "F") []
      [.gosub 2 (text "S") [], .return 3 (some (.number 3 (literal 7)))],
    .command 4 (.assignment (text "A") (.call 4 (text "F") [])), .stop 5,
    .label 6 (text "S"), .return 7 none]

/-- The subroutine of a function returns to the caller of the function. -/
theorem gosubInFunction_misreturns :
    ∃ code state next, c64scriptCompile gosubInFunction [] = .ok code ∧
      Reaches (callStep quietHost code) (fun _ => True) (vmStart code (runtimeCreate ()), [])
        state ∧
      callStep quietHost code state = some next ∧
        state.2 = [(.gosub, 3), (.function, 6)] ∧ next.1.ip = 6 ∧
          ¬ ReturnsInOrder code state next := by
  refine ⟨_, _, _, rfl, reaches_of_stepTimes (n := 4) rfl, rfl, rfl, rfl, ?_⟩
  intro ordered
  have resumed := ordered rfl
  revert resumed
  decide

/-- A subroutine of the main program, about to return. -/
theorem returns_inOrder_gosub :
    let code : Code Int := ⟨[⟨.pushNum, 0, 1⟩, ⟨.call, 3, 1⟩, ⟨.halt, 0, -1⟩, ⟨.return, 0, 4⟩],
      [], []⟩
    ∃ state next, callStep quietHost code state = some next ∧ code.returnsAt state.1.ip ∧
      (ReturnsInOrder code state next ↔ ReturnMatchesCall code state) := by
  intro code
  refine ⟨_, _, rfl, rfl, returns_inOrder_iff quietHost code
    (show (runtimeCreate () : Runtime Int Unit).scopeStack = [] from rfl) rfl
    (.step (.step .start ?_ rfl) ?_ rfl) rfl⟩
  · decide
  · decide

end Examples

end C64Stream
