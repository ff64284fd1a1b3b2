import C64Stream.Network.Buffer
import C64Stream.Stream.Context

/-! A switch of devices: two receive threads filter packets, and one processor hands them on. -/

namespace C64Stream

section IngestFilter

/-- What the receive threads and the processor know of the devices. -/
structure IngestFilter where
  expectedPeerIp : Option UInt32
  expectedPeerAltIp : Option UInt32
  learnedPeerIp : Option UInt32
  /-- The device that is switched away from, until the new one has sent a packet. -/
  handoverPeerIp : Option UInt32
  handoverFlushPending : Bool
  rejectedPeerIp : UInt32
  deriving DecidableEq

/-- Whether a packet is from the selected device; all are while its address is not known. -/
def c64PacketFromExpectedPeer (filter : IngestFilter) (sender : UInt32) : Bool :=
  match filter.expectedPeerIp with
  | none => true
  | some expected =>
    sender = expected || filter.expectedPeerAltIp = some sender ||
      filter.learnedPeerIp = some sender

/-- Whether an admitted packet closes the handover. -/
def closesHandover (filter : IngestFilter) (sender : UInt32) : Bool :=
  filter.handoverPeerIp.isSome && filter.expectedPeerIp.isSome &&
    filter.handoverPeerIp != some sender

/-- Whether a packet is admitted; the first one of the selected device closes the handover. -/
def c64PacketAdmit (filter : IngestFilter) (sender : UInt32) : IngestFilter × Bool :=
  if c64PacketFromExpectedPeer filter sender then
    if closesHandover filter sender then
      ({ filter with handoverFlushPending := true, handoverPeerIp := none }, true)
    else (filter, true)
  else if filter.handoverPeerIp = some sender then (filter, true)
  else ({ filter with rejectedPeerIp := sender }, false)

/-- Whether a packet is from the device that is switched away from. -/
def c64PacketFromHandover (filter : IngestFilter) (sender : UInt32) : Bool :=
  filter.handoverPeerIp = some sender

/-- Whether the processor drops a packet, and whether it flushes what it holds. -/
def c64HandoverShouldDrop (filter : IngestFilter) (fromHandover : Bool) :
    IngestFilter × Bool × Bool :=
  if fromHandover then (filter, filter.handoverPeerIp.isNone, false)
  else if filter.handoverFlushPending then
    ({ filter with handoverFlushPending := false }, false, true)
  else (filter, false, false)

end IngestFilter

section Fifo

/-- A packet with the address that it came from, which no queue records. -/
structure Datagram where
  sender : UInt32
  data : List UInt8
  deriving DecidableEq

/-- A packet in the queue between a receive thread and the processor. -/
structure FifoPacket where
  datagram : Datagram
  timestampNs : UInt64
  fromHandover : Bool
  paletteCutover : Bool
  deriving DecidableEq

/-- A queue between a receive thread and the processor, oldest packet first. -/
structure NetworkFifo where
  packets : List FifoPacket
  capacity : Nat
  droppedFull : Nat
  deriving DecidableEq

/-- Queue a packet, unless the queue is full. -/
def c64NetworkFifoPushTagged (fifo : NetworkFifo) (packet : FifoPacket) : NetworkFifo × Bool :=
  if fifo.capacity < 2 then (fifo, false)
  else if packet.datagram.data.length > c64VideoPacketSize then (fifo, false)
  else if fifo.packets.length + 1 = fifo.capacity then
    ({ fifo with droppedFull := fifo.droppedFull + 1 }, false)
  else ({ fifo with packets := fifo.packets ++ [packet] }, true)

/-- The oldest packet of a queue. -/
def c64NetworkFifoPeek (fifo : NetworkFifo) : Option FifoPacket :=
  fifo.packets.head?

/-- Remove the oldest packet. -/
def c64NetworkFifoCommitPop (fifo : NetworkFifo) : NetworkFifo :=
  { fifo with packets := fifo.packets.tail }

end Fifo

section Rings

/-- What a ring holds once a packet was put at a place in it, unless the ring was full. -/
def ringPush {α : Type*} (capacity : Nat) (ring : List α) (place : Nat) (packet : α) : List α :=
  if ring.length + 1 = capacity then ring else ring.take place ++ packet :: ring.drop place

/-- A frame that is assembled, with its packets by their places in it. -/
structure PartialFrame where
  frameNum : UInt16
  packets : List (Nat × Datagram)
  deriving DecidableEq

/-- Begin a frame. -/
def c64InitFrameAssembly (frameNum : UInt16) : PartialFrame :=
  ⟨frameNum, []⟩

/-- Put a packet into the frame that is assembled; a packet of another frame begins a new one. -/
def processVideoPacketDirect (frame : PartialFrame) (packet : Datagram) : PartialFrame :=
  if packet.data.length ≠ c64VideoPacketSize then frame
  else
    let frameNum := readUint16 packet.data 2
    let lineNum := readUint16 packet.data 4 &&& 0x7FFF
    let linesPerPacket := packet.data.getD 8 0
    let frame := if frame.frameNum ≠ frameNum then c64InitFrameAssembly frameNum else frame
    let packetIndex := lineNum.toNat / linesPerPacket.toNat
    if packetIndex < c64MaxPacketsPerFrame ∧ ∀ entry ∈ frame.packets, entry.1 ≠ packetIndex then
      { frame with packets := frame.packets ++ [(packetIndex, packet)] }
    else frame

/-- Whether the header of a video packet has the format of the stream. -/
def hasVideoFormat (data : List UInt8) : Bool :=
  data.getD 8 0 == 4 && readUint16 data 6 == 384 && data.getD 9 0 == 4

end Rings

section System

/-- Where a receive thread is with a packet. -/
inductive Receiver where
  | waiting
  /-- It was asked whether the packet is from the device switched away from. -/
  | tagged (packet : Datagram) (fromHandover : Bool)
  /-- The packet was admitted. -/
  | admitted (packet : Datagram) (fromHandover : Bool)
  deriving DecidableEq

/-- Where the processor is with a packet. -/
inductive Processor where
  | idle
  | popped (stream : BufferType) (packet : FifoPacket)
  /-- The packet is not dropped. -/
  | kept (stream : BufferType) (packet : FifoPacket) (flush : Bool)
  /-- What had to be flushed was. -/
  | ready (stream : BufferType) (packet : FifoPacket)
  deriving DecidableEq

/-- The threads of a source that take part in a switch of devices, and what they share. -/
structure HandoverSystem where
  filter : IngestFilter
  fifo : BufferType → NetworkFifo
  receiver : BufferType → Receiver
  processor : Processor
  /-- The rings, if packets go through them and are not processed directly. -/
  networkBuffer : Option (BufferType → List Datagram)
  currentFrame : PartialFrame
  paletteCutoverPending : Bool
  paletteCutoverMarked : Bool
  paletteCutoverFlush : Bool
  /-- What the processor handed on, and what a cut-over removed from it again. -/
  put : List Datagram
  flushed : List Datagram

/-- The packets in the rings, if there are any. -/
def ringPackets (networkBuffer : Option (BufferType → List Datagram)) : List Datagram :=
  match networkBuffer with
  | none => []
  | some ring => ring .video ++ ring .audio

/-- The packets in the rings and in the frame that is assembled. -/
def HandoverSystem.held (system : HandoverSystem) : List Datagram :=
  ringPackets system.networkBuffer ++ system.currentFrame.packets.map (·.2)

/-- Drop everything that the processor holds. -/
def c64HandoverFlush (system : HandoverSystem) : HandoverSystem :=
  { system with
    networkBuffer := system.networkBuffer.map fun _ _ => []
    currentFrame := c64InitFrameAssembly 0
    flushed := system.flushed ++ system.held }

/-- One atomic step of a thread. -/
inductive HandoverOp where
  | receive (stream : BufferType) (packet : Datagram)
  | accept (stream : BufferType)
  | push (stream : BufferType) (timestampNs : UInt64)
  | pop (stream : BufferType)
  | check
  | flush
  /-- Where a ring puts a packet depends on the headers in it. -/
  | put (place : Nat)
  | popReady (video audio : Bool)

/-- A packet arrives; only an audio packet is checked for its size at once. -/
def receiveStep (system : HandoverSystem) (stream : BufferType) (packet : Datagram) :
    HandoverSystem :=
  match system.receiver stream with
  | .waiting =>
    if stream = .audio ∧ packet.data.length ≠ packetSize .audio then system
    else
      { system with
        receiver := Function.update system.receiver stream
          (.tagged packet (c64PacketFromHandover system.filter packet.sender)) }
  | _ => system

/-- A packet is admitted or rejected; then a video packet is checked for its size. -/
def admitStep (system : HandoverSystem) (stream : BufferType) : HandoverSystem :=
  match system.receiver stream with
  | .tagged packet fromHandover =>
    let (filter, admitted) := c64PacketAdmit system.filter packet.sender
    { system with
      filter := filter
      receiver := Function.update system.receiver stream
        (if admitted ∧ packet.data.length = packetSize stream then .admitted packet fromHandover
         else .waiting) }
  | _ => system

/-- Whether a video packet is the first one that shows the palette of the selected device. -/
def takesPaletteCutover (system : HandoverSystem) (stream : BufferType) (packet : Datagram)
    (fromHandover : Bool) : Bool :=
  stream = .video && !fromHandover && system.paletteCutoverPending &&
    c64PacketFromExpectedPeer system.filter packet.sender && !system.paletteCutoverMarked

/-- A packet is queued; if that fails, the next one may carry the palette. -/
def pushStep (system : HandoverSystem) (stream : BufferType) (timestampNs : UInt64) :
    HandoverSystem :=
  match system.receiver stream with
  | .admitted packet fromHandover =>
    let paletteCutover := takesPaletteCutover system stream packet fromHandover
    let (fifo, pushed) := c64NetworkFifoPushTagged (system.fifo stream)
      ⟨packet, timestampNs, fromHandover, paletteCutover⟩
    { system with
      fifo := Function.update system.fifo stream fifo
      receiver := Function.update system.receiver stream .waiting
      paletteCutoverMarked := system.paletteCutoverMarked || (paletteCutover && pushed) }
  | _ => system

/-- The processor takes the oldest packet of a queue. -/
def popStep (system : HandoverSystem) (stream : BufferType) : HandoverSystem :=
  match system.processor, c64NetworkFifoPeek (system.fifo stream) with
  | .idle, some packet =>
    { system with
      fifo := Function.update system.fifo stream (c64NetworkFifoCommitPop (system.fifo stream))
      processor := .popped stream packet }
  | _, _ => system

/-- The processor asks whether to drop the packet and whether to flush. -/
def checkStep (system : HandoverSystem) : HandoverSystem :=
  match system.processor with
  | .popped stream packet =>
    let (filter, drop, flush) := c64HandoverShouldDrop system.filter packet.fromHandover
    { system with
      filter := filter
      processor := if drop then .idle else .kept stream packet flush }
  | _ => system

/-- The processor flushes what it holds, for the handover or for the palette. -/
def flushStep (system : HandoverSystem) : HandoverSystem :=
  match system.processor with
  | .kept stream packet flush =>
    let system := if flush then c64HandoverFlush system else system
    let system :=
      if stream = .video ∧ packet.paletteCutover then
        let system :=
          if !flush && system.paletteCutoverFlush then
            c64HandoverFlush { system with paletteCutoverFlush := false }
          else system
        { system with paletteCutoverPending := false }
      else system
    { system with processor := .ready stream packet }
  | _ => system

/-- The processor hands the packet on: into a ring, or directly into a frame or to the viewer. -/
def putStep (system : HandoverSystem) (place : Nat) : HandoverSystem :=
  match system.processor with
  | .ready stream packet =>
    let idle := { system with processor := .idle }
    if stream = .video ∧ hasVideoFormat packet.datagram.data = false then idle
    else
      let idle := { idle with put := system.put ++ [packet.datagram] }
      match system.networkBuffer with
      | some ring =>
        { idle with
          networkBuffer := some (Function.update ring stream
            (ringPush (maxPackets stream) (ring stream) place packet.datagram)) }
      | none =>
        if stream = .video then
          { idle with
            currentFrame := processVideoPacketDirect system.currentFrame packet.datagram }
        else idle
  | _ => system

/-- The processor takes what is ready from the rings; video goes into the frame. -/
def popReadyStep (system : HandoverSystem) (video audio : Bool) : HandoverSystem :=
  match system.processor, system.networkBuffer with
  | .idle, some ring =>
    let taken : BufferType → List Datagram
      | .video => if video then (ring .video).take 1 else []
      | .audio => if audio then (ring .audio).take 1 else []
    { system with
      networkBuffer := some fun stream => (ring stream).drop (taken stream).length
      currentFrame := (taken .video).foldl processVideoPacketDirect system.currentFrame }
  | _, _ => system

/-- One atomic step of a thread. -/
def handoverStep (system : HandoverSystem) : HandoverOp → HandoverSystem
  | .receive stream packet => receiveStep system stream packet
  | .accept stream => admitStep system stream
  | .push stream timestampNs => pushStep system stream timestampNs
  | .pop stream => popStep system stream
  | .check => checkStep system
  | .flush => flushStep system
  | .put place => putStep system place
  | .popReady video audio => popReadyStep system video audio

end System

end C64Stream
