import C64Stream.Script.Pokes

/-! What the code of a statement that writes a list to memory does, on any stack. -/

namespace C64Stream

variable {R World : Type} [ScriptNumber R]

section Spans

/-- Execute so many instructions one after another, as the loop does while nothing interrupts it. -/
def executeSpan (host : Host R World) (code : Code R) : Nat → Runtime R World → Progress R World
  | 0, runtime => .running runtime
  | count + 1, runtime =>
    match code.bytecode[runtime.ip]? with
    | none => .finished runtime
    | some instruction =>
      match vmDispatch host code instruction runtime with
      | .running after => executeSpan host code count after
      | outcome => outcome

theorem executeSpan_add {host : Host R World} {code : Code R} {first second : Nat} :
    ∀ {runtime : Runtime R World},
      executeSpan host code (first + second) runtime =
        match executeSpan host code first runtime with
        | .running middle => executeSpan host code second middle
        | outcome => outcome := by
  induction first with
  | zero => intro runtime; rw [Nat.zero_add]; rfl
  | succ first ih =>
    intro runtime
    rw [Nat.add_right_comm, executeSpan, executeSpan]
    cases code.bytecode[runtime.ip]? with
    | none => rfl
    | some instruction =>
      simp only
      cases vmDispatch host code instruction runtime with
      | running after => exact ih
      | finished after => rfl
      | failed after => rfl

/-- Whether an expression is a literal or a variable. -/
def AstExpr.isAtom (expr : AstExpr R) : Bool :=
  match expr with
  | .number _ _ | .string _ _ | .identifier _ _ => true
  | _ => false

/-- The value of a literal or a variable. -/
def atomValue (machine : Machine R) (expr : AstExpr R) : Value R :=
  match expr with
  | .number _ number => .number number.val
  | .string _ string => .string string
  | .identifier _ name => getVar machine name
  | _ => .number numberZero

/-- The state after some values were pushed by as many instructions. -/
structure Pushed (before after : Runtime R World) (values : List (Value R)) : Prop where
  ip : after.ip = before.ip + values.length
  stack : after.stack = values.reverse ++ before.stack
  globalVars : after.globalVars = before.globalVars
  scopeStack : after.scopeStack = before.scopeStack
  world : after.world = before.world

theorem Pushed.atomValue {before after : Runtime R World} {values : List (Value R)}
    (pushed : Pushed before after values) (expr : AstExpr R) :
    atomValue after.toMachine expr = atomValue before.toMachine expr := by
  cases expr with
  | identifier line name =>
    simp only [C64Stream.atomValue, getVar, heldValue, pushed.globalVars, pushed.scopeStack]
  | _ => rfl

omit [ScriptNumber R] in
theorem Pushed.trans {before middle after : Runtime R World} {first second : List (Value R)}
    (earlier : Pushed before middle first) (later : Pushed middle after second) :
    Pushed before after (first ++ second) where
  ip := by rw [later.ip, earlier.ip, List.length_append, Nat.add_assoc]
  stack := by rw [later.stack, earlier.stack, List.reverse_append, List.append_assoc]
  globalVars := later.globalVars.trans earlier.globalVars
  scopeStack := later.scopeStack.trans earlier.scopeStack
  world := later.world.trans earlier.world

end Spans

section Operands

variable (host : Host R World) {code : Code R} {runtime : Runtime R World} {expr : AstExpr R}

theorem run_push (value : Value R) (runtime : Runtime R World)
    (room : runtime.stack.length < c64scriptMaxStackDepth) :
    (push value : Program R World Unit).run handleOp runtime =
      (some (), { runtime with stack := value :: runtime.stack }) := by
  simp [push, Effectful.run, handleOp, Nat.not_le.mpr room]

theorem run_push_full (value : Value R) (runtime : Runtime R World)
    (full : c64scriptMaxStackDepth ≤ runtime.stack.length) :
    (push value : Program R World Unit).run handleOp runtime =
      (none, runtime.withError (text "Stack overflow")) := by
  simp [push, Effectful.run, handleOp, full]

theorem dataProgram_atom (atom : expr.isAtom = true)
    (placed : Placed code.bytecode code.constants runtime.ip (flattenExpression expr))
    (fits : code.constants.length ≤ operandBound) :
    ∃ instruction, code.bytecode[runtime.ip]? = some instruction ∧
      ∀ begun : Runtime R World, begun.toMachine.globalVars = runtime.globalVars →
        begun.scopeStack = runtime.scopeStack →
        executeInstruction host code instruction begun =
          andThen (push (atomValue runtime.toMachine expr)) begun
            fun _ after => (some false, after) := by
  have index_small : ∀ {index : Nat} {value : Constant R}, code.constants[index]? = some value →
      index % operandBound = index := by
    intro index value there
    have := (List.getElem?_eq_some_iff.mp there).1
    exact Nat.mod_eq_of_lt (by omega)
  cases expr with
  | number line value =>
    obtain ⟨⟨index, pooled, here⟩, -⟩ := placed
    rw [index_small pooled] at here
    refine ⟨_, here, fun begun _ _ => ?_⟩
    change andThen (pushConst code index) begun _ = _
    rw [pushConst, pooled]
    rfl
  | string line value =>
    obtain ⟨⟨index, pooled, here⟩, -⟩ := placed
    rw [index_small pooled] at here
    refine ⟨_, here, fun begun _ _ => ?_⟩
    change andThen (pushConst code index) begun _ = _
    rw [pushConst, pooled]
    rfl
  | identifier line name =>
    obtain ⟨⟨index, pooled, here⟩, -⟩ := placed
    rw [index_small pooled] at here
    refine ⟨_, here, fun begun vars scopes => ?_⟩
    change andThen (pushVar code index) begun _ = _
    have same : getVar begun.toMachine name = getVar runtime.toMachine name := by
      simp only [getVar, heldValue, vars, scopes]
    rw [pushVar, constantName, pooled, atomValue, ← same]
    rfl
  | _ => cases atom

theorem codeSize_atom (atom : expr.isAtom = true) : codeSize (flattenExpression expr) = 1 := by
  cases expr <;> first | rfl | cases atom

theorem codeSize_atoms {exprs : List (AstExpr R)} (atoms : ∀ expr ∈ exprs, expr.isAtom = true) :
    codeSize (exprs.flatMap flattenExpression) = exprs.length := by
  induction exprs with
  | nil => rfl
  | cons expr rest ih =>
    rw [List.flatMap_cons, codeSize_append, codeSize_atom (atoms expr (List.mem_cons_self ..)),
      ih fun other there => atoms other (List.mem_cons_of_mem _ there), List.length_cons,
      Nat.add_comm]

theorem executeSpan_atom (atom : expr.isAtom = true)
    (placed : Placed code.bytecode code.constants runtime.ip (flattenExpression expr))
    (fits : code.constants.length ≤ operandBound) :
    (runtime.stack.length < c64scriptMaxStackDepth → ∃ after,
      executeSpan host code 1 runtime = .running after ∧
        Pushed runtime after [atomValue runtime.toMachine expr]) ∧
    (c64scriptMaxStackDepth ≤ runtime.stack.length → ∃ after,
      executeSpan host code 1 runtime = .failed after ∧ after.world = runtime.world) := by
  obtain ⟨instruction, here, executes⟩ := dataProgram_atom host atom placed fits
  have executed := executes (beginInstruction instruction runtime) rfl rfl
  constructor
  · intro room
    have span : executeSpan host code 1 runtime =
        .running (updateLines code instruction.sourceLine false
          { beginInstruction instruction runtime with
            stack := atomValue runtime.toMachine expr :: runtime.stack }) := by
      rw [executeSpan, here]
      simp only [vmDispatch, executed, andThen]
      rw [run_push _ (beginInstruction instruction runtime) room]
      rfl
    exact ⟨_, span, rfl, rfl, rfl, rfl, rfl⟩
  · intro full
    have span : executeSpan host code 1 runtime =
        .failed ((beginInstruction instruction runtime).withError (text "Stack overflow")) := by
      rw [executeSpan, here]
      simp only [vmDispatch, executed, andThen]
      rw [run_push_full _ (beginInstruction instruction runtime) full]
    exact ⟨_, span, rfl⟩

theorem executeSpan_atoms {exprs : List (AstExpr R)} (fits : code.constants.length ≤ operandBound) :
    ∀ {runtime : Runtime R World}, (∀ expr ∈ exprs, expr.isAtom = true) →
      Placed code.bytecode code.constants runtime.ip (exprs.flatMap flattenExpression) →
      (runtime.stack.length + exprs.length ≤ c64scriptMaxStackDepth → ∃ after,
        executeSpan host code exprs.length runtime = .running after ∧
          Pushed runtime after (exprs.map (atomValue runtime.toMachine))) ∧
      (exprs ≠ [] → c64scriptMaxStackDepth < runtime.stack.length + exprs.length → ∃ after,
        executeSpan host code exprs.length runtime = .failed after ∧
          after.world = runtime.world) := by
  -- The induction is on the expressions still to be pushed.
  induction exprs with
  | nil =>
    intro runtime _ _
    exact ⟨fun _ => ⟨runtime, rfl, rfl, rfl, rfl, rfl, rfl⟩, fun some_expr => absurd rfl some_expr⟩
  | cons expr rest ih =>
    intro runtime atoms placed
    have atom := atoms expr (List.mem_cons_self ..)
    obtain ⟨here, behind⟩ := placed_append.mp placed
    obtain ⟨pushes, overflows⟩ := executeSpan_atom host atom here fits
    have size := codeSize_atom atom
    rw [List.length_cons, Nat.add_comm rest.length 1, executeSpan_add]
    by_cases room : runtime.stack.length < c64scriptMaxStackDepth
    · obtain ⟨middle, first, pushed⟩ := pushes room
      rw [first]
      have values : rest.map (atomValue middle.toMachine) =
          rest.map (atomValue runtime.toMachine) :=
        List.map_congr_left fun other _ => pushed.atomValue other
      have deeper : middle.stack.length = runtime.stack.length + 1 := by
        rw [pushed.stack]
        simp
      have next := @ih middle (fun other there => atoms other (List.mem_cons_of_mem _ there))
        (by rw [pushed.ip, List.length_singleton]; rwa [size] at behind)
      rw [values, deeper, pushed.world] at next
      constructor
      · intro fit
        obtain ⟨after, others, more⟩ := next.1 (by omega)
        exact ⟨after, others, pushed.trans more⟩
      · intro _ full
        refine next.2 (fun none_left => ?_) (by omega)
        rw [none_left, List.length_nil] at full
        omega
    · obtain ⟨after, failed, same⟩ := overflows (by omega)
      rw [failed]
      exact ⟨fun fit => by omega, fun _ _ => ⟨after, rfl, same⟩⟩

end Operands

section Instruction

variable {values : List (Value R)} {runtime : Runtime R RestMemory} {address : Value R}

theorem run_popValues {taken below : List (Value R)} :
    ∀ {runtime : Runtime R World}, runtime.stack = taken ++ below →
      (popValues taken.length : Program R World _).run handleOp runtime =
        (some taken, { runtime with stack := below }) := by
  induction taken with
  | nil =>
    intro runtime stack
    rw [List.nil_append] at stack
    subst stack
    rfl
  | cons value rest ih =>
    intro runtime stack
    have others := @ih { runtime with stack := rest ++ below } rfl
    rw [List.length_cons, popValues, Effectful.bind_eq, Effectful.run_bind]
    have first : (pop : Program R World _).run handleOp runtime =
        (some value, { runtime with stack := rest ++ below }) := by
      simp [pop, Effectful.run, handleOp, stack]
    rw [first]
    simp only [Effectful.bind_eq, Effectful.run_bind, others]
    rfl

/-- The address that a value stands for. -/
def pokeBase (address : Value R) : Option UInt16 :=
  match address with
  | .number number => if isAddress number then some (addressOf number) else none
  | _ => none

theorem run_pokeChunks {bytes : List UInt8} (some_value : values ≠ [])
    (short : values.length ≤ pokeChunk) (converted : pokeBytes values = .ok bytes) (base : UInt16)
    (accepted : ∀ address data, runtime.world.answer address data = none) :
    (pokeChunks base values.length 0 values).run handleOp runtime =
      (some (), { runtime with
        world :=
          { runtime.world with requests := runtime.world.requests ++ [(base, bytes)] } }) := by
  cases values with
  | nil => exact absurd rfl some_value
  | cons value rest =>
    have whole : (value :: rest).take pokeChunk = value :: rest := List.take_of_length_le short
    have nothing : (value :: rest).drop pokeChunk = [] := List.drop_of_length_le short
    have last : ∀ (chunks : Nat) (offset : Nat),
        pokeChunks base chunks offset ([] : List (Value R)) = .done () := by
      intro chunks offset
      cases chunks <;> rfl
    simp only [List.length_cons, pokeChunks, whole, nothing, converted, orFail, last,
      restWriteMemory, Effectful.bind_eq, Effectful.bind, Effectful.run, handleOp, accepted]
    rw [show UInt16.ofNat 0 = 0 from rfl, UInt16.add_zero]

theorem run_pokeChunks_bad {message : Text} (short : values.length ≤ pokeChunk)
    (bad : pokeBytes values = .error message) (base : UInt16) (runtime : Runtime R RestMemory) :
    (pokeChunks base values.length 0 values).run handleOp runtime =
      (none, runtime.withError message) := by
  cases values with
  | nil => cases bad
  | cons value rest =>
    have whole : (value :: rest).take pokeChunk = value :: rest := List.take_of_length_le short
    simp only [List.length_cons, pokeChunks, whole, bad, orFail, Effectful.bind_eq]
    rfl

theorem pokeArray_base {base : UInt16} (known : pokeBase address = some base)
    (client : runtime.world.restClient = true) :
    (pokeArray (values.reverse ++ [address])).run handleOp runtime =
      (pokeChunks base values.length 0 values).run handleOp runtime := by
  cases address with
  | number number =>
    simp only [pokeBase] at known
    split at known
    · rename_i isBase
      obtain rfl := Option.some.inj known
      simp [pokeArray, Effectful.run, handleOp, client, requireNumber, orFail, isBase,
        Effectful.bind]
    · cases known
  | _ => cases known

theorem pokeArray_unknown (values : List (Value R)) (unknown : pokeBase address = none)
    (client : runtime.world.restClient = true) :
    ∃ message, (pokeArray (values.reverse ++ [address])).run handleOp runtime =
      (none, runtime.withError message) := by
  cases address with
  | number number =>
    simp only [pokeBase] at unknown
    split at unknown
    · cases unknown
    · rename_i other
      exact ⟨text "ILLEGAL QUANTITY", by
        simp [pokeArray, Effectful.run, handleOp, client, requireNumber, orFail, other,
          Effectful.bind, failWith, failed]⟩
  | _ =>
    exact ⟨typeMismatch (text "POKE"), by
      simp [pokeArray, Effectful.run, handleOp, client, requireNumber, orFail, Effectful.bind,
        failWith, failed]⟩

theorem executeInstruction_pokeArray (devices : Devices R RestMemory) (host : Host R RestMemory)
    (code : Code R) (line : Int) {below : List (Value R)} (small : values.length ≤ 65536)
    {begun : Runtime R RestMemory} (stack : begun.stack = values.reverse ++ address :: below) :
    executeInstruction (host.withDevices devices.withPokes) code
        ⟨.pokeArray, values.length, line⟩ begun =
      andThen (pokeArray (values.reverse ++ [address])) { begun with stack := below }
        fun _ after => (some false, after) := by
  have taken := @run_popValues R RestMemory _ (values.reverse ++ [address]) below begun
    (by rw [stack, List.append_assoc]; rfl)
  rw [List.length_append, List.length_reverse, List.length_singleton] at taken
  have enough : ¬ begun.stack.length < values.length := by
    rw [stack, List.length_append, List.length_reverse]
    omega
  have checked : (deviceCheck ⟨.pokeArray, values.length, line⟩ : Program R RestMemory Unit).run
      handleOp begun = (some (), begun) := by
    simp [deviceCheck, Nat.not_lt.mpr small, Effectful.run, Effectful.bind, handleOp, enough]
  change andThen (deviceProgram devices.withPokes code ⟨.pokeArray, values.length, line⟩) begun _ =
    _
  have program : (deviceProgram devices.withPokes code ⟨.pokeArray, values.length, line⟩).run
      handleOp begun =
      (pokeArray (values.reverse ++ [address])).run handleOp { begun with stack := below } := by
    simp only [deviceProgram, Effectful.bind_eq, Effectful.run_bind, checked, deviceOperands, taken,
      Devices.withPokes, if_true, deviceYields]
    cases (pokeArray (values.reverse ++ [address])).run handleOp { begun with stack := below } with
    | mk result after => cases result <;> rfl
  simp only [andThen, program]

end Instruction

section Statement

/-- The bytes that requests write, each with its address, in the order they are written. -/
def memoryWrites (requests : List (UInt16 × List UInt8)) : List (Nat × UInt8) :=
  requests.flatMap fun request =>
    request.2.zipIdx.map fun byte => (request.1.toNat + byte.2, byte.1)

/-- A block from an address on. -/
def blockWrites (base : Nat) (bytes : List UInt8) : List (Nat × UInt8) :=
  bytes.zipIdx.map fun byte => (base + byte.2, byte.1)

/-- The statement went on after it wrote a block, by requests that are not too long. -/
def WroteBlock (before : List (UInt16 × List UInt8)) (base : Nat) (bytes : List UInt8)
    (outcome : Progress R RestMemory) : Prop :=
  ∃ after sent, outcome = .running after ∧ after.world.requests = before ++ sent ∧
    (∀ request ∈ sent, request.2.length ≤ 128) ∧ memoryWrites sent = blockWrites base bytes

/-- The statement ended with an error before anything was written. -/
def RefusedBlock (before : List (UInt16 × List UInt8)) (outcome : Progress R RestMemory) : Prop :=
  ∃ after, outcome = .failed after ∧ after.world.requests = before

/-- The whole block was written if it can be, and nothing otherwise. -/
def WholeBlockOrNothing (before : List (UInt16 × List UInt8)) (address : Value R)
    (values : List (Value R)) (outcome : Progress R RestMemory) : Prop :=
  match pokeBase address, pokeBytes values with
  | some base, .ok bytes =>
    if base.toNat + bytes.length ≤ 65536 then WroteBlock before base.toNat bytes outcome
    else RefusedBlock before outcome
  | _, _ => RefusedBlock before outcome

/-- Whether the address and all values are numbers that stand for an address and for bytes. -/
def Pokeable (address : Value R) (values : List (Value R)) : Prop :=
  (pokeBase address).isSome ∧ (pokeBytes values).isOk = true

theorem pokeBytes_length {values : List (Value R)} :
    ∀ {bytes : List UInt8}, pokeBytes values = .ok bytes → bytes.length = values.length := by
  induction values with
  | nil =>
    intro bytes converted
    cases converted
    rfl
  | cons value rest ih =>
    intro bytes converted
    rw [pokeBytes] at converted
    cases whole : numberToInt value (text "POKE") with
    | error message =>
      rw [whole] at converted
      cases converted
    | ok number =>
      cases others : pokeBytes rest with
      | error message =>
        rw [whole, others] at converted
        cases converted
      | ok other_bytes =>
        rw [whole, others] at converted
        cases converted
        rw [List.length_cons, List.length_cons, ih others]

theorem flattenCommand_pokeArray (line : Int) (address first : AstExpr R)
    (rest : List (AstExpr R)) :
    flattenCommand line (.pokeArray address first rest) =
      (address :: first :: rest).flatMap flattenExpression ++
        [.op .pokeArray (first :: rest).length line] := by
  simp [flattenCommand, commandForm, flattenOperand, flattenSource, List.flatMap_map]

theorem memoryWrites_single (base : UInt16) (bytes : List UInt8) :
    memoryWrites [(base, bytes)] = blockWrites base.toNat bytes := by
  simp [memoryWrites, blockWrites]

variable {code : Code R} {line : Int} {address first : AstExpr R} {rest : List (AstExpr R)}
  {runtime : Runtime R RestMemory}

/-- How an instruction ends whose program has run. -/
def endInstruction (code : Code R) (line : Int) (ran : Option Unit × Runtime R World) :
    Progress R World :=
  match ran with
  | (some _, after) => .running (updateLines code line false after)
  | (none, after) => .failed after

theorem poke_overflows (devices : Devices R RestMemory) (host : Host R RestMemory)
    (atoms : ∀ expr ∈ address :: first :: rest, expr.isAtom = true)
    (placed : Placed code.bytecode code.constants runtime.ip
      (flattenCommand line (.pokeArray address first rest)))
    (fits : code.constants.length ≤ operandBound)
    (full : c64scriptMaxStackDepth < runtime.stack.length + (first :: rest).length + 1) :
    ∃ after, executeSpan (host.withDevices devices.withPokes) code ((first :: rest).length + 2)
      runtime = .failed after ∧ after.world = runtime.world := by
  rw [flattenCommand_pokeArray] at placed
  obtain ⟨operands, -⟩ := placed_append.mp placed
  obtain ⟨after, failed, same⟩ := (executeSpan_atoms (host.withDevices devices.withPokes)
    fits atoms operands).2 (List.cons_ne_nil _ _) (by rw [List.length_cons]; omega)
  refine ⟨after, ?_, same⟩
  rw [show (first :: rest).length + 2 = (address :: first :: rest).length + 1 from rfl,
    executeSpan_add, failed]

theorem poke_fits (devices : Devices R RestMemory) (host : Host R RestMemory)
    (atoms : ∀ expr ∈ address :: first :: rest, expr.isAtom = true)
    (placed : Placed code.bytecode code.constants runtime.ip
      (flattenCommand line (.pokeArray address first rest)))
    (fits : code.constants.length ≤ operandBound)
    (room : runtime.stack.length + (first :: rest).length + 1 ≤ c64scriptMaxStackDepth) :
    ∃ begun : Runtime R RestMemory, begun.world = runtime.world ∧
      executeSpan (host.withDevices devices.withPokes) code ((first :: rest).length + 2) runtime =
        endInstruction code line
          ((pokeArray (((first :: rest).map (atomValue runtime.toMachine)).reverse ++
            [atomValue runtime.toMachine address])).run handleOp begun) := by
  rw [flattenCommand_pokeArray] at placed
  obtain ⟨operands, last⟩ := placed_append.mp placed
  obtain ⟨middle, ran, pushed⟩ := (executeSpan_atoms (host.withDevices devices.withPokes)
    fits atoms operands).1 (by rw [List.length_cons]; omega)
  have size := codeSize_atoms atoms
  have small : (first :: rest).length % operandBound = (first :: rest).length := by
    refine Nat.mod_eq_of_lt ?_
    simp only [c64scriptMaxStackDepth, operandBound] at room ⊢
    omega
  have here : code.bytecode[middle.ip]? = some ⟨.pokeArray, (first :: rest).length, line⟩ := by
    have there := last.1
    rw [size, placedAt, small] at there
    rw [pushed.ip, List.length_map]
    exact there
  -- The values lie on the stack in the order they were pushed, the address below them.
  let values := (first :: rest).map (atomValue runtime.toMachine)
  have count : (first :: rest).length = values.length := by rw [List.length_map]
  have stack : (beginInstruction ⟨.pokeArray, values.length, line⟩ middle).stack =
      values.reverse ++ atomValue runtime.toMachine address :: runtime.stack := by
    change middle.stack = _
    rw [pushed.stack, List.map_cons, List.reverse_cons, List.append_assoc]
    rfl
  have instruction := executeInstruction_pokeArray devices host code line
    (by simp only [c64scriptMaxStackDepth] at room; omega) stack
  refine ⟨{ beginInstruction ⟨.pokeArray, values.length, line⟩ middle with stack := runtime.stack },
    pushed.world, ?_⟩
  rw [show (first :: rest).length + 2 = (address :: first :: rest).length + 1 from rfl,
    executeSpan_add, ran]
  simp only [executeSpan, here, count, vmDispatch, instruction, andThen]
  change _ = endInstruction code line
    ((pokeArray (values.reverse ++ [atomValue runtime.toMachine address])).run handleOp
      { beginInstruction ⟨.pokeArray, values.length, line⟩ middle with stack := runtime.stack })
  cases (pokeArray (values.reverse ++ [atomValue runtime.toMachine address])).run handleOp
      { beginInstruction ⟨.pokeArray, values.length, line⟩ middle with stack := runtime.stack } with
  | mk result after => cases result <;> rfl

/-- The address that a statement writes to, as a number. -/
def pokeStart (address : Value R) : Nat :=
  ((pokeBase address).map UInt16.toNat).getD 0

theorem wholeBlock_failed {before : List (UInt16 × List UInt8)} (address : Value R)
    (values : List (Value R)) {outcome : Progress R RestMemory} {after : Runtime R RestMemory}
    (failed : outcome = .failed after) (same : after.world.requests = before) :
    WholeBlockOrNothing before address values outcome ↔
      (Pokeable address values → ¬ pokeStart address + values.length ≤ 65536) := by
  subst failed
  have refused : RefusedBlock before (.failed after) := ⟨after, rfl, same⟩
  unfold WholeBlockOrNothing Pokeable pokeStart
  cases base : pokeBase address with
  | none => exact iff_of_true refused fun both => by simp at both
  | some start =>
    cases converted : pokeBytes values with
    | error message =>
      exact iff_of_true refused fun both => by simp [Except.isOk, Except.toBool] at both
    | ok bytes =>
      rw [← pokeBytes_length converted]
      simp only [Option.isSome_some, Option.map_some, Option.getD_some]
      by_cases inside : start.toNat + bytes.length ≤ 65536
      · rw [if_pos inside]
        refine iff_of_false ?_ fun outside => outside ⟨trivial, rfl⟩ inside
        rintro ⟨reached, sent, running, -⟩
        cases running
      · rw [if_neg inside]
        exact iff_of_true refused fun _ => inside

theorem wholeBlock_written {before : List (UInt16 × List UInt8)} {address : Value R}
    {values : List (Value R)} {base : UInt16} {bytes : List UInt8}
    {outcome : Progress R RestMemory} {after : Runtime R RestMemory}
    (known : pokeBase address = some base) (converted : pokeBytes values = .ok bytes)
    (short : values.length ≤ pokeChunk) (ran : outcome = .running after)
    (written : after.world.requests = before ++ [(base, bytes)]) :
    WholeBlockOrNothing before address values outcome ↔
      pokeStart address + values.length ≤ 65536 := by
  subst ran
  unfold WholeBlockOrNothing pokeStart
  rw [← pokeBytes_length converted] at short ⊢
  simp only [known, converted, Option.map_some, Option.getD_some]
  by_cases inside : base.toNat + bytes.length ≤ 65536
  · rw [if_pos inside]
    refine iff_of_true ⟨after, [(base, bytes)], rfl, written, ?_,
      memoryWrites_single base bytes⟩ inside
    intro request there
    rw [List.mem_singleton.mp there]
    exact short
  · rw [if_neg inside]
    refine iff_of_false ?_ inside
    rintro ⟨reached, failed, -⟩
    cases failed

/-- A statement that writes zeros, with its list. -/
def zeroBlock (address count : Nat) : List (AstStmt Int) :=
  [.command 1 (.pokeArray (.number 1 (literal address)) (.number 1 (literal 0))
    (List.replicate count (.number 1 (literal 0))))]

/-- Its code. -/
def zeroBlockCode (address count : Nat) : Code Int :=
  ⟨⟨.pushConst, 0, 1⟩ :: ⟨.pushConst, 1, 1⟩ :: List.replicate count ⟨.pushConst, 1, 1⟩ ++
      [⟨.pokeArray, count + 1, 1⟩, ⟨.halt, 0, -1⟩],
    [.number (literal address), .number (literal 0)], []⟩

/-- A client all of whose writes succeed. -/
def willingMemory : RestMemory :=
  ⟨true, fun _ _ => none, []⟩

/-- Devices that do nothing but write lists. -/
def pokeDevices : Devices Int RestMemory where
  act _ _ _ := .done (.number 0)
  leavesStack _ _ _ := rfl

/-- A host whose devices are these. -/
def pokeHost : Host Int RestMemory :=
  { device := fun _ _ => .done ()
    requests := fun world flags => (flags, world)
    release := fun world => (.resume, world) }

/-- What is left of a run of the statement: whether it went on, and the requests it sent. -/
def zeroBlockRun (address count : Nat) : Bool × List (UInt16 × List UInt8) :=
  match executeSpan (pokeHost.withDevices pokeDevices.withPokes) (zeroBlockCode address count)
      (count + 3) (runtimeCreate willingMemory) with
  | .running after => (true, after.world.requests)
  | .finished after | .failed after => (false, after.world.requests)

end Statement

end C64Stream
