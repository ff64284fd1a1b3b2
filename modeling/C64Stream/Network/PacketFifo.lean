import C64Stream.Lib.Ring
import C64Stream.Lib.Run
import C64Stream.Stream.Context

/-! The queue between two threads, access by access: one fills slots at its head, one empties its tail. -/

namespace C64Stream

section Slots

def c64NetworkFifoPacketMaxSize : Nat := c64VideoPacketSize

/-- A slot of the queue, which is also what a push is called with. -/
structure FifoSlot where
  timestampNs : UInt64
  size : UInt16
  fromHandover : Bool
  paletteCutover : Bool
  data : Nat → UInt8

/-- A packet: as many bytes as its size says, and what is noted of them. -/
structure TaggedPacket where
  timestampNs : UInt64
  size : UInt16
  fromHandover : Bool
  paletteCutover : Bool
  data : List UInt8
  deriving DecidableEq

/-- The packet that a slot holds. -/
def FifoSlot.packet (slot : FifoSlot) : TaggedPacket :=
  ⟨slot.timestampNs, slot.size, slot.fromHandover, slot.paletteCutover,
    (List.range slot.size.toNat).map slot.data⟩

def FifoSlot.accesses (slot : FifoSlot) : Nat := slot.size.toNat + 4

/-- One access: copy a field of a slot, or one of its bytes, to another. -/
def copyAccess (source : FifoSlot) (access : Nat) (target : FifoSlot) : FifoSlot :=
  match access with
  | 0 => { target with timestampNs := source.timestampNs }
  | 1 => { target with size := source.size }
  | 2 => { target with fromHandover := source.fromHandover }
  | 3 => { target with paletteCutover := source.paletteCutover }
  | byte + 4 => { target with data := Function.update target.data byte (source.data byte) }

def blankSlot : FifoSlot := ⟨0, 0, false, false, fun _ => 0⟩

end Slots

section Queue

/-- The memory that both threads share. -/
structure PacketFifo where
  entries : Nat → FifoSlot
  capacity : Nat
  head : Nat
  tail : Nat
  droppedFull : Nat

/-- Empty the queue; no thread uses it meanwhile. -/
def c64NetworkFifoReset (fifo : PacketFifo) : PacketFifo :=
  { fifo with head := 0, tail := 0, droppedFull := 0 }

/-- Where the pushing thread is. -/
inductive FifoProducer where
  | idle
  /-- It loaded the head. -/
  | headLoaded (packet : FifoSlot) (head : Nat)
  /-- It found no room. -/
  | full
  /-- It fills the slot at the head, and so many accesses are done. -/
  | filling (packet : FifoSlot) (head nextHead written : Nat)

/-- Where the popping thread is. -/
inductive FifoConsumer where
  | idle
  /-- It peeks, and loaded the head. -/
  | headLoaded (head : Nat)
  /-- It reads the slot that it peeked at, and so many accesses are done. -/
  | reading (slot : Nat) (copy : FifoSlot) (read : Nat)
  /-- It read the slot, and loaded the tail to give the slot up. -/
  | committing (copy : FifoSlot) (tail : Nat)

/-- The two threads, their queue, and what came of their calls. -/
structure FifoRun where
  fifo : PacketFifo
  producer : FifoProducer
  consumer : FifoConsumer
  /-- The packets whose push returned true, in order. -/
  accepted : List TaggedPacket
  /-- The packets that were read and given up, in order. -/
  delivered : List TaggedPacket
  /-- How many pushes found no room. -/
  refused : Nat

/-- What happens next: a call of a push, or the next access of one of the threads. -/
inductive FifoOp where
  | push (packet : FifoSlot) (hasData : Bool)
  | produce
  | consume

/-- A push is called: it loads the head, unless its arguments are refused at once. -/
def pushTaggedCall (run : FifoRun) (packet : FifoSlot) (hasData : Bool) : FifoRun :=
  if hasData = false ∨ run.fifo.capacity < 2 then run
  else if packet.size.toNat > c64NetworkFifoPacketMaxSize then run
  else { run with producer := .headLoaded packet run.fifo.head }

/-- The next access of a push. -/
def pushTaggedAccess (run : FifoRun) : FifoRun :=
  match run.producer with
  | .idle => run
  | .headLoaded packet head =>
    -- The tail is loaded behind the head, so the two need not be of one moment.
    let nextHead := (head + 1) % run.fifo.capacity
    if nextHead = run.fifo.tail then { run with producer := .full, refused := run.refused + 1 }
    else { run with producer := .filling packet head nextHead 0 }
  | .full =>
    { run with
      producer := .idle
      fifo := { run.fifo with droppedFull := run.fifo.droppedFull + 1 } }
  | .filling packet head nextHead written =>
    if written < packet.accesses then
      { run with
        producer := .filling packet head nextHead (written + 1)
        fifo :=
          { run.fifo with
            entries :=
              Function.update run.fifo.entries head
                (copyAccess packet written (run.fifo.entries head)) } }
    else
      { run with
        producer := .idle
        fifo := { run.fifo with head := nextHead }
        accepted := run.accepted ++ [packet.packet] }

/-- The second access of a peek, which loads the tail and hands out its slot unless they meet. -/
def peekAccess (run : FifoRun) (head : Nat) : FifoRun :=
  if head = run.fifo.tail then { run with consumer := .idle }
  else { run with consumer := .reading run.fifo.tail blankSlot 0 }

/-- The next access of the reader of a slot, or the first of the commit behind it. -/
def readAccess (run : FifoRun) (slot : Nat) (copy : FifoSlot) (read : Nat) : FifoRun :=
  -- The size is the second field, so the number of bytes to read is known by then.
  if read < 4 ∨ read < copy.accesses then
    { run with
      consumer := .reading slot (copyAccess (run.fifo.entries slot) read copy) (read + 1) }
  else { run with consumer := .committing copy run.fifo.tail }

/-- The second access of a commit, which stores the tail. -/
def commitPopAccess (run : FifoRun) (copy : FifoSlot) (tail : Nat) : FifoRun :=
  { run with
    consumer := .idle
    fifo := { run.fifo with tail := (tail + 1) % run.fifo.capacity }
    delivered := run.delivered ++ [copy.packet] }

/-- The next access of the popping thread. -/
def drainAccess (run : FifoRun) : FifoRun :=
  match run.consumer with
  | .idle => { run with consumer := .headLoaded run.fifo.head }
  | .headLoaded head => peekAccess run head
  | .reading slot copy read => readAccess run slot copy read
  | .committing copy tail => commitPopAccess run copy tail

/-- One access of a thread; a push is only called when the one before has returned. -/
def FifoRun.step (run : FifoRun) : FifoOp → FifoRun
  | .push packet hasData =>
    match run.producer with
    | .idle => pushTaggedCall run packet hasData
    | .headLoaded _ _ | .full | .filling _ _ _ _ => run
  | .produce => pushTaggedAccess run
  | .consume => drainAccess run

/-- The threads before their first calls, with a queue that was just emptied. -/
def FifoRun.start (fifo : PacketFifo) : FifoRun :=
  ⟨c64NetworkFifoReset fifo, .idle, .idle, [], [], 0⟩

end Queue

end C64Stream
