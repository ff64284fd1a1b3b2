import Mathlib
import C64Stream.Lib.Run
import C64Stream.Input.Matrix

/-! The queue of typed bytes, and the worker that sends them to the device in batches. -/

namespace C64Stream

section State

/-- How keys may be sent: by whichever way works, by REST only, or by the KERNAL buffer only. -/
inductive Transport where
  | auto
  | rest
  | legacy
  deriving DecidableEq

/-- How a request failed. -/
inductive RestFailure where
  | notSupported
  | forbidden
  | badRequest
  | unreachable
  | serverError
  deriving DecidableEq

/-- Where the worker is: the access or the request it makes next. -/
inductive InjectionPc where
  | idle
  /-- A batch was read; the transport decides how it is sent. -/
  | choose
  | sendInput (transport : Transport)
  | waitBufferEmpty
  | writeStopFlag
  | writeBuffer
  | writeLength
  | verify
  /-- The batch is done or given up; its entries leave the queue. -/
  | discard
  deriving DecidableEq

def queueSize : Nat := 1024

def c64KeyboardBufferSize : Nat := 10

def c64KeyboardMaxRetries : Nat := 20

def c64KeyboardRestRetryNs : UInt64 := 60000000000

/-- An entry that the device acted on, and whether a `machine:input` request delivered it. -/
structure Delivery where
  entry : KeyEntry
  byInput : Bool
  deriving DecidableEq

/-- A batch that was refused, and the transport that was set. -/
structure Refusal where
  transport : Transport
  batch : List KeyEntry
  deriving DecidableEq

/-- The queue and the worker, with what became of the entries. -/
structure Keyboard where
  queue : List KeyEntry
  capturing : Bool
  transport : Transport
  transportGeneration : UInt64
  pc : InjectionPc
  pending : List KeyEntry
  /-- Entries of the queue that the batch stands for. -/
  pendingConsumed : Nat
  retryCount : Nat
  restDemotedUntilNs : UInt64
  workerGeneration : UInt64
  /-- All entries that were ever accepted. -/
  accepted : List KeyEntry
  /-- The entries of the batches that a request was made for. -/
  attempted : List KeyEntry
  /-- The batches that were refused without a request. -/
  refused : List Refusal
  /-- The entries that the worker took out of the queue. -/
  discarded : List KeyEntry
  delivered : List Delivery
  /-- The bytes for which a press or a release was asked. -/
  holds : List (UInt8 × KeyTransition)
  deriving DecidableEq

/-- The keyboard as it is created. -/
def initialKeyboard : Keyboard :=
  { queue := []
    capturing := false
    transport := .auto
    transportGeneration := 0
    pc := .idle
    pending := []
    pendingConsumed := 0
    retryCount := 0
    restDemotedUntilNs := 0
    workerGeneration := 0
    accepted := []
    attempted := []
    refused := []
    discarded := []
    delivered := []
    holds := [] }

end State

section Queue

/-- The entries for bytes, numbered on from a serial. -/
def entriesFrom (serial : Nat) (transition : KeyTransition) : List UInt8 → List KeyEntry
  | [] => []
  | byte :: rest => ⟨serial, byte, transition⟩ :: entriesFrom (serial + 1) transition rest

/-- Queues bytes if there is room for all of them. -/
def queuePushMany (keyboard : Keyboard) (bytes : List UInt8) (transition : KeyTransition) :
    Keyboard × Bool :=
  if bytes.length > queueSize - keyboard.queue.length then (keyboard, false)
  else
    let entries := entriesFrom keyboard.accepted.length transition bytes
    ({ keyboard with
      queue := keyboard.queue ++ entries
      accepted := keyboard.accepted ++ entries }, true)

/-- The first entries of the queue. -/
def queuePeekBatch (keyboard : Keyboard) (maxCount : Nat) : List KeyEntry :=
  keyboard.queue.take maxCount

/-- Takes so many entries out of the queue, or all of them if there are fewer. -/
def queueDiscardMany (keyboard : Keyboard) (count : Nat) : Keyboard :=
  let count := min count keyboard.queue.length
  { keyboard with
    queue := keyboard.queue.drop count
    discarded := keyboard.discarded ++ keyboard.queue.take count }

def queueFlush (keyboard : Keyboard) : Keyboard := { keyboard with queue := [] }

/-- Disabling the capture flushes the queue. -/
def c64KeyboardSetCapture (keyboard : Keyboard) (enabled : Bool) : Keyboard :=
  let keyboard := { keyboard with capturing := enabled }
  if enabled then keyboard else queueFlush keyboard

def c64KeyboardSetTransport (keyboard : Keyboard) (transport : Transport) : Keyboard :=
  { keyboard with transport }

def c64KeyboardResetTransportNegotiation (keyboard : Keyboard) : Keyboard :=
  { keyboard with transportGeneration := keyboard.transportGeneration + 1 }

end Queue

section Output

/-- The codes of the symbolic names. -/
def symbolicKeys : List (String × UInt8) :=
  [("c64:RETURN", 0x0D), ("c64:RUNSTOP", 0x03), ("c64:INSTDEL", 0x14), ("c64:TAB", 0x09),
    ("c64:F1", 0x85), ("c64:F3", 0x86), ("c64:F5", 0x87), ("c64:F7", 0x88), ("c64:F2", 0x89),
    ("c64:F4", 0x8A), ("c64:F6", 0x8B), ("c64:F8", 0x8C), ("c64:CURSOR_UP", 0x91),
    ("c64:CURSOR_DOWN", 0x11), ("c64:CURSOR_LEFT", 0x9D), ("c64:CURSOR_RIGHT", 0x1D),
    ("c64:HOME", 0x13), ("c64:CLEAR", 0x93), ("c64:SHIFT_RETURN", 0x8D),
    ("c64:SHIFT_SPACE", 0xA0), ("c64:CLR_HOME", 0x13), ("c64:INSERT", 0x94),
    ("c64:DELETE", 0x14), ("c64:RVS_ON", 0x12), ("c64:RVS_OFF", 0x92), ("c64:COLOR_BLACK", 0x90),
    ("c64:COLOR_WHITE", 0x05), ("c64:COLOR_RED", 0x1C), ("c64:COLOR_CYAN", 0x9F),
    ("c64:COLOR_PURPLE", 0x9C), ("c64:COLOR_GREEN", 0x1E), ("c64:COLOR_BLUE", 0x1F),
    ("c64:COLOR_YELLOW", 0x9E), ("c64:COLOR_ORANGE", 0x81), ("c64:COLOR_BROWN", 0x95),
    ("c64:COLOR_LT_RED", 0x96), ("c64:COLOR_DK_GREY", 0x97), ("c64:COLOR_GREY", 0x98),
    ("c64:COLOR_LT_GREEN", 0x99), ("c64:COLOR_LT_BLUE", 0x9A), ("c64:COLOR_LT_GREY", 0x9B)]

def lookupSymbolicKey (name : String) : UInt8 := (symbolicKeys.lookup name).getD 0

/-- What a key of the host stands for. -/
inductive C64Output where
  | text (bytes : List UInt8)
  | petscii (byte : UInt8)
  | symbolic (name : String)
  deriving DecidableEq

def outputTextSize : Nat := 256

/-- The byte of an output that can be held down: a single key without shift. -/
def c64KeyboardOutputIsHoldable (output : C64Output) : Option UInt8 :=
  let holdable (byte : UInt8) : Option UInt8 :=
    match petsciiToMatrix byte with
    | some (_, false) => some byte
    | _ => none
  match output with
  | .petscii byte => holdable byte
  | .symbolic name => holdable (lookupSymbolicKey name)
  | .text _ => none

/-- The bytes that an output types; none if its name is unknown. -/
def outputBytes : C64Output → Option (List UInt8)
  | .petscii byte => some [byte]
  | .symbolic name =>
    let code := lookupSymbolicKey name
    if code = 0 then none else some [code]
  | .text bytes => some ((bytes.take outputTextSize).takeWhile (· ≠ 0))

/-- Queues an output; what cannot be held is tapped. -/
def c64KeyboardQueueOutputEx (keyboard : Keyboard) (output : C64Output)
    (transition : KeyTransition) : Keyboard × Bool :=
  let transition :=
    if transition ≠ .tap ∧ c64KeyboardOutputIsHoldable output = none then .tap else transition
  match outputBytes output with
  | none => (keyboard, false)
  | some bytes =>
    let (keyboard, queued) := queuePushMany keyboard bytes transition
    (if transition = .tap then keyboard
      else { keyboard with holds := keyboard.holds ++ bytes.map fun byte => (byte, transition) },
      queued)

end Output

section Worker

/-- What the worker meets in a step: the time, and the answer to its request. -/
structure InjectionAnswer where
  nowNs : UInt64
  /-- How a `machine:input` request failed, with its status, if it did. -/
  inputFailure : Option (RestFailure × Int)
  /-- The bytes read, and the length of the KERNAL buffer. -/
  bytesRead : Int
  bufferLength : UInt8
  written : Bool
  deriving DecidableEq

/-- Prepares a batch for the KERNAL buffer: ten entries at most, without the releases. -/
def legacyBatch (keyboard : Keyboard) : Keyboard :=
  let slots := keyboard.pending.take c64KeyboardBufferSize
  let writable := slots.filter (·.transition ≠ .release)
  { keyboard with
    pending := writable
    pendingConsumed := slots.length
    retryCount := 0
    -- A batch of releases only has nothing to type.
    pc := if writable = [] then .discard else .waitBufferEmpty }

/-- Counts a failed request; after too many of them the batch is given up. -/
def retryAt (keyboard : Keyboard) (pc : InjectionPc) : Keyboard :=
  let retryCount := keyboard.retryCount + 1
  { keyboard with
    retryCount
    pc := if retryCount ≥ c64KeyboardMaxRetries then .discard else pc }

/-- Decides how a batch is sent, and forgets a demotion from before a new negotiation. -/
def chooseTransport (keyboard : Keyboard) (nowNs : UInt64) : Keyboard :=
  let keyboard := { keyboard with
    restDemotedUntilNs :=
      if keyboard.transportGeneration ≠ keyboard.workerGeneration then 0
      else keyboard.restDemotedUntilNs
    workerGeneration := keyboard.transportGeneration }
  let tryRest : Bool := keyboard.transport ≠ .legacy ∧
    (keyboard.transport = .rest ∨ nowNs ≥ keyboard.restDemotedUntilNs)
  if tryRest ∧ (buildRestInputBatch keyboard.pending).isSome then
    { keyboard with pc := .sendInput keyboard.transport }
  else if keyboard.transport = .rest then
    { keyboard with
      refused := keyboard.refused ++ [⟨keyboard.transport, keyboard.pending⟩]
      pc := .discard }
  else legacyBatch keyboard

/-- A step of the worker: one access to the queue or one request. -/
def injectionWorker (keyboard : Keyboard) (answer : InjectionAnswer) : Keyboard :=
  match keyboard.pc with
  | .idle =>
    let batch := queuePeekBatch keyboard c64RestInputBatchSize
    if batch = [] then keyboard
    else
      { keyboard with
        pending := batch
        pendingConsumed := batch.length
        pc := .choose }
  | .choose => chooseTransport keyboard answer.nowNs
  | .sendInput transport =>
    let keyboard := { keyboard with attempted := keyboard.attempted ++ keyboard.pending }
    match answer.inputFailure with
    | none =>
      { keyboard with
        delivered := keyboard.delivered ++ keyboard.pending.map fun entry => ⟨entry, true⟩
        restDemotedUntilNs := 0
        pc := .discard }
    | some (failure, status) =>
      if transport = .rest ∨ failure ≠ .notSupported then { keyboard with pc := .discard }
      else
        legacyBatch { keyboard with
          restDemotedUntilNs :=
            if status = 404 then 0xFFFFFFFFFFFFFFFF else answer.nowNs + c64KeyboardRestRetryNs }
  | .waitBufferEmpty =>
    let keyboard := { keyboard with attempted := keyboard.attempted ++ keyboard.pending }
    if answer.bytesRead = 1 ∧ answer.bufferLength = 0 then
      { keyboard with
        retryCount := 0
        pc := .writeStopFlag }
    else retryAt keyboard .waitBufferEmpty
  | .writeStopFlag =>
    if answer.written then { keyboard with pc := .writeBuffer }
    else retryAt keyboard .writeStopFlag
  | .writeBuffer =>
    if answer.written then { keyboard with pc := .writeLength }
    else retryAt keyboard .writeStopFlag
  | .writeLength =>
    -- The KERNAL takes the bytes from the buffer once its length is written.
    if answer.written then
      { keyboard with
        delivered := keyboard.delivered ++ keyboard.pending.map fun entry => ⟨entry, false⟩
        retryCount := 0
        pc := .verify }
    else retryAt keyboard .writeStopFlag
  | .verify =>
    if answer.bytesRead = 1 ∧
        (answer.bufferLength = UInt8.ofNat keyboard.pending.length ∨ answer.bufferLength = 0) then
      { keyboard with pc := .discard }
    else retryAt keyboard .verify
  | .discard =>
    { queueDiscardMany keyboard keyboard.pendingConsumed with
      pending := []
      pendingConsumed := 0
      retryCount := 0
      pc := .idle }

/-- A call of another thread, or a step of the worker. -/
inductive KeyboardOp where
  | pushMany (bytes : List UInt8) (transition : KeyTransition)
  | queueOutput (output : C64Output) (transition : KeyTransition)
  | setCapture (enabled : Bool)
  | setTransport (transport : Transport)
  | resetNegotiation
  | worker (answer : InjectionAnswer)
  deriving DecidableEq

/-- One step of the keyboard. -/
def keyboardStep (keyboard : Keyboard) : KeyboardOp → Keyboard
  | .pushMany bytes transition => (queuePushMany keyboard bytes transition).1
  | .queueOutput output transition => (c64KeyboardQueueOutputEx keyboard output transition).1
  | .setCapture enabled => c64KeyboardSetCapture keyboard enabled
  | .setTransport transport => c64KeyboardSetTransport keyboard transport
  | .resetNegotiation => c64KeyboardResetTransportNegotiation keyboard
  | .worker answer => injectionWorker keyboard answer

end Worker

end C64Stream
