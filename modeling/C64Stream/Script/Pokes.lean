import C64Stream.Script.ValueStack

/-! Writing a list of values to the memory of the device: one statement, its values on the stack. -/

namespace C64Stream

variable {R World : Type} [ScriptNumber R]

section Memory

/-- The REST client of a script: what the device answers to writes, and the requests so far. -/
structure RestMemory where
  restClient : Bool
  /-- The message of a failed write. -/
  answer : UInt16 → List UInt8 → Option Text
  requests : List (UInt16 × List UInt8)

/-- Send a request to write some bytes; the message tells why it failed. -/
def restWriteMemory (address : UInt16) (data : List UInt8) :
    Program R RestMemory (Option Text) :=
  .perform .world fun memory =>
    .perform (.setWorld { memory with requests := memory.requests ++ [(address, data)] }) fun _ =>
      .done (memory.answer address data)

/-- Whether a number is an address of the device. -/
def isAddress (number : R) : Bool :=
  (ScriptNumber.less numberZero number || ScriptNumber.equal number numberZero) &&
    (ScriptNumber.less number (ScriptNumber.ofInt 65535) ||
      ScriptNumber.equal number (ScriptNumber.ofInt 65535))

/-- The address that a number stands for. -/
def addressOf (number : R) : UInt16 :=
  UInt16.ofNat ((ScriptNumber.truncated number).getD 0).toNat

/-- The bytes of some values; the message is that of the first one that is no whole number. -/
def pokeBytes : List (Value R) → Except Text (List UInt8)
  | [] => .ok []
  | value :: rest => do
    let whole ← numberToInt value (text "POKE")
    let others ← pokeBytes rest
    .ok (UInt8.ofNat (whole % 256).toNat :: others)

def pokeChunk : Nat := 128

/-- Write values chunk by chunk, at most so many; each is converted when its turn comes. -/
def pokeChunks (baseAddr : UInt16) : Nat → Nat → List (Value R) → Program R RestMemory Unit
  | 0, _, _ => .done ()
  | _ + 1, _, [] => .done ()
  | chunks + 1, offset, value :: rest => do
    let chunk := (value :: rest).take pokeChunk
    let buf ← orFail (pokeBytes chunk)
    match ← restWriteMemory (baseAddr + UInt16.ofNat offset) buf with
    | some message => failWith (text "POKE failed: " ++ message)
    | none => pokeChunks baseAddr chunks (offset + chunk.length) ((value :: rest).drop pokeChunk)

/-- Write the values that were taken off the stack, the last one first and the address last. -/
def pokeArray (taken : List (Value R)) : Program R RestMemory Unit :=
  match taken.reverse with
  | [] => .done ()
  | address :: values =>
    .perform .world fun memory =>
      if memory.restClient = false then failWith (text "REST client not available")
      else do
        let number ← orFail (requireNumber address (text "POKE"))
        if isAddress number = false then failWith (text "ILLEGAL QUANTITY")
        else pokeChunks (addressOf number) values.length 0 values

omit [ScriptNumber R] in
theorem leaves_failWith {α : Type} (message : Text) :
    LeavesStack (failWith message : Program R World α) :=
  ⟨rfl, fun _ => ⟨rfl, fun impossible => impossible.elim⟩⟩

omit [ScriptNumber R] in
theorem leaves_orFail {α : Type} (result : Except Text α) :
    LeavesStack (orFail result : Program R World α) := by
  cases result with
  | error message => exact leaves_failWith message
  | ok value => rfl

omit [ScriptNumber R] in
theorem LeavesStack.bind {α β : Type} {program : Program R World α}
    {next : α → Program R World β} (first : LeavesStack program)
    (second : ∀ result, LeavesStack (next result)) : LeavesStack (program.bind next) :=
  Effectful.Typed.bind first second

theorem leaves_pokeChunks (baseAddr : UInt16) (chunks : Nat) :
    ∀ (offset : Nat) (values : List (Value R)),
      LeavesStack (pokeChunks baseAddr chunks offset values) := by
  induction chunks with
  | zero => exact fun offset values => rfl
  | succ chunks ih =>
    intro offset values
    cases values with
    | nil => rfl
    | cons value rest =>
      refine .bind (leaves_orFail _) fun buf => .bind ⟨rfl, fun _ => ⟨rfl, fun _ => rfl⟩⟩ ?_
      intro failure
      cases failure with
      | none => exact ih _ _
      | some message => exact leaves_failWith _

theorem leaves_pokeArray (taken : List (Value R)) : LeavesStack (pokeArray taken) := by
  unfold pokeArray
  cases taken.reverse with
  | nil => rfl
  | cons address values =>
    refine ⟨rfl, fun memory => ?_⟩
    dsimp only
    split
    · exact leaves_failWith _
    · refine .bind (leaves_orFail _) fun number => ?_
      split
      · exact leaves_failWith _
      · exact leaves_pokeChunks _ _ _ _

/-- Some devices, with the writing of lists to memory as it is. -/
def Devices.withPokes (devices : Devices R RestMemory) : Devices R RestMemory where
  act code instruction values :=
    if instruction.opcode = .pokeArray then do
      pokeArray values
      .done (.number numberZero)
    else devices.act code instruction values
  leavesStack code instruction values := by
    split
    · exact .bind (leaves_pokeArray values) fun _ => rfl
    · exact devices.leavesStack code instruction values

end Memory

end C64Stream
