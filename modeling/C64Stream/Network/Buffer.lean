import C64Stream.Lib.Ring
import C64Stream.Lib.Wrap

/-! The jitter buffer: two rings of packet slots, sorted on arrival and drained after a delay. -/

namespace C64Stream

/-- The two kinds of ring. -/
inductive BufferType where
  | video
  | audio
  deriving DecidableEq

/-- The payload bytes one packet of a ring holds. -/
def packetSize : BufferType → Nat
  | .video => 780
  | .audio => 770

/-- The highest packet rate of a stream, in packets per second. -/
def maxRate : BufferType → Nat
  | .video => 3590
  | .audio => 250

def c64MaxDelayMs : Nat := 500

def c64MaxJitterMs : Nat := 400

/-- The number of slots of a ring. -/
def maxPackets (type : BufferType) : Nat :=
  maxRate type * (c64MaxDelayMs + c64MaxJitterMs) * 11 / 10000

/-- The number of packets the insertion search looks at, and the longest shift it may ask for. -/
def maxSearchDepth : BufferType → Nat
  | .video => 2048
  | .audio => 150

/-- The shortest packet whose header can be read. -/
def minHeaderSize : BufferType → Nat
  | .video => 6
  | .audio => 2

/-- A slot describes one packet and names the payload buffer that holds its bytes. -/
structure PacketSlot where
  data : Nat
  size : Nat
  timestampUs : UInt64
  sequenceNum : UInt16
  frameNum : UInt16
  lineNum : UInt16
  valid : Bool
  deriving DecidableEq

/-- The packet last handed to the consumer, in its own storage. -/
structure PopScratch where
  bytes : List UInt8
  size : Nat
  timestampUs : UInt64
  sequenceNum : UInt16
  frameNum : UInt16
  lineNum : UInt16
  valid : Bool
  deriving DecidableEq

/-- A ring of slots, with the payload buffers its slots point into. -/
structure PacketRingBuffer where
  slots : Nat → PacketSlot
  payload : Nat → List UInt8
  maxCapacity : Nat
  activeSlots : Nat
  head : Nat
  tail : Nat
  packetSize : Nat
  nextExpectedSeq : UInt16
  seqInitialized : Bool
  delayUs : UInt64
  type : BufferType
  popScratch : PopScratch

/-- The header fields of a packet, as far as its type carries them. -/
structure PacketHeader where
  sequenceNum : UInt16
  frameNum : UInt16
  lineNum : UInt16
  deriving DecidableEq

/-- Read a little-endian number of two bytes. -/
def readUint16 (data : List UInt8) (offset : Nat) : UInt16 :=
  (data.getD offset 0).toUInt16 ||| ((data.getD (offset + 1) 0).toUInt16 <<< 8)

/-- The header of an incoming packet; only video carries a frame and a line. -/
def packetHeader (type : BufferType) (data : List UInt8) : PacketHeader :=
  match type with
  | .video =>
    -- The top bit of the line marks the last packet of a frame.
    { sequenceNum := readUint16 data 0
      frameNum := readUint16 data 2
      lineNum := readUint16 data 4 &&& 0x7FFF }
  | .audio => { sequenceNum := readUint16 data 0, frameNum := 0, lineNum := 0 }

/-- Whether an incoming packet belongs behind a queued one. -/
def shouldInsertHere (type : BufferType) (packet : PacketHeader) (slot : PacketSlot) : Bool :=
  match type with
  | .video =>
    let frameDiff := int16 (packet.frameNum - slot.frameNum)
    if frameDiff > 0 then true
    else if frameDiff = 0 then decide (int16 (packet.lineNum - slot.lineNum) ≥ 0)
    else false
  | .audio => decide (int16 (packet.sequenceNum - slot.sequenceNum) ≥ 0)

/-- Search backwards for the place of a packet, within a number of steps. -/
def searchInsertPos (rb : PacketRingBuffer) (packet : PacketHeader) : Nat → Nat → Option Nat
  | 0, _ => none
  | depth + 1, current =>
    if current = rb.tail then none
    else
      let prev := ringPrev rb.maxCapacity current
      -- The slot at the tail is never compared.
      if prev = rb.tail then none
      else if !(rb.slots prev).valid then searchInsertPos rb packet depth prev
      else if shouldInsertHere rb.type packet (rb.slots prev) then some current
      else searchInsertPos rb packet depth prev

/-- Clear the metadata of a slot, which keeps its payload buffer. -/
def PacketSlot.clear (slot : PacketSlot) : PacketSlot :=
  { slot with
    valid := false, size := 0, timestampUs := 0, sequenceNum := 0, frameNum := 0, lineNum := 0 }

/-- Replace one entry of an indexed store. -/
def setAt {α : Type*} (store : Nat → α) (index : Nat) (value : α) : Nat → α :=
  fun i => if i = index then value else store i

/-- Choose the slot of a new packet, and open a hole there if it is not the head. -/
def openInsertSlot (rb : PacketRingBuffer) (packet : PacketHeader) :
    Nat × (Nat → PacketSlot) :=
  match searchInsertPos rb packet (maxSearchDepth rb.type) rb.head with
  | none => (rb.head, rb.slots)
  | some pos =>
    if pos = rb.head then (rb.head, rb.slots)
    else
      let shiftDistance :=
        if rb.head ≥ pos then rb.head - pos else rb.head + rb.maxCapacity - pos
      if shiftDistance > maxSearchDepth rb.type then (rb.head, rb.slots)
      else
        let hole := setAt rb.slots rb.head (rb.slots rb.head).clear
        (pos, swapBack rb.maxCapacity shiftDistance rb.head hole)

/-- The payload of a packet, cut or padded with zeros to the size of the buffer. -/
def paddedPayload (size : Nat) (data : List UInt8) : List UInt8 :=
  let copyLen := min data.length size
  data.take copyLen ++ List.replicate (size - copyLen) 0

/-- Start the sequence tracking with the first packet. -/
def startTracking (rb : PacketRingBuffer) (packet : PacketHeader) : PacketRingBuffer :=
  if rb.seqInitialized then rb
  else { rb with nextExpectedSeq := packet.sequenceNum, seqInitialized := true }

/-- Put a packet in its slot and move the head. -/
def insertPacket (rb : PacketRingBuffer) (packet : PacketHeader) (data : List UInt8)
    (ts : UInt64) : PacketRingBuffer :=
  let (insertPos, slots) := openInsertSlot rb packet
  let filled : PacketSlot :=
    { data := (slots insertPos).data
      size := rb.packetSize
      timestampUs := ts
      sequenceNum := packet.sequenceNum
      frameNum := packet.frameNum
      lineNum := packet.lineNum
      valid := true }
  { rb with
    slots := setAt slots insertPos filled
    payload := setAt rb.payload filled.data (paddedPayload rb.packetSize data)
    head := (rb.head + 1) % rb.maxCapacity }

/-- Push a packet at its place in the order; a short packet or a full ring drops it. -/
def rbPush (rb : PacketRingBuffer) (data : List UInt8) (ts : UInt64) : PacketRingBuffer :=
  if data.length < minHeaderSize rb.type then rb
  else
    let packet := packetHeader rb.type data
    let rb := startTracking rb packet
    let nextHead := (rb.head + 1) % rb.maxCapacity
    if nextHead = rb.tail then rb else insertPacket rb packet data ts

/-- Pop the packet at the tail into the consumer's storage. -/
def rbPopOldest (rb : PacketRingBuffer) : Option PacketRingBuffer :=
  if rb.head = rb.tail then none
  else
    let src := rb.slots rb.tail
    let scratch : PopScratch :=
      { bytes := (rb.payload src.data).take rb.packetSize
        size := src.size
        timestampUs := src.timestampUs
        sequenceNum := src.sequenceNum
        frameNum := src.frameNum
        lineNum := src.lineNum
        valid := true }
    some { rb with
      popScratch := scratch
      nextExpectedSeq :=
        if src.valid && rb.seqInitialized then src.sequenceNum + 1 else rb.nextExpectedSeq
      tail := (rb.tail + 1) % rb.maxCapacity
      slots := setAt rb.slots rb.tail { src with valid := false } }

/-- Empty a ring and forget its sequence tracking. -/
def rbReset (rb : PacketRingBuffer) (activeSlots : Nat) : PacketRingBuffer :=
  { rb with
    activeSlots := if activeSlots > rb.maxCapacity then rb.maxCapacity else activeSlots
    head := 0
    tail := 0
    nextExpectedSeq := 0
    seqInitialized := false
    slots := fun i =>
      if i < rb.maxCapacity then { rb.slots i with valid := false } else rb.slots i }

/-- The number of packets a ring holds. -/
def rbPacketCount (rb : PacketRingBuffer) : Nat :=
  ringCount rb.maxCapacity rb.head rb.tail

/-- Drop packets from the tail until enough valid ones are gone or the ring is empty. -/
def discardOldest (rb : PacketRingBuffer) : Nat → Nat → PacketRingBuffer
  -- The first number bounds the iterations: the tail meets the head within one turn.
  | 0, _ => rb
  | _, 0 => rb
  | steps + 1, packetsToDiscard + 1 =>
    if rb.tail = rb.head then rb
    else
      let slot := rb.slots rb.tail
      let tail := (rb.tail + 1) % rb.maxCapacity
      if slot.valid then
        discardOldest
          { rb with
            slots := setAt rb.slots rb.tail slot.clear
            payload := setAt rb.payload slot.data (List.replicate rb.packetSize 0)
            tail := tail }
          steps packetsToDiscard
      else discardOldest { rb with tail := tail } steps (packetsToDiscard + 1)

/-- Discard what exceeds the capacity of a new delay. -/
def rbTrim (rb : PacketRingBuffer) (newCapacity : Nat) : PacketRingBuffer :=
  let currentPackets := rbPacketCount rb
  if currentPackets > newCapacity then
    discardOldest rb rb.maxCapacity (currentPackets - newCapacity)
  else rb

/-- Give every valid slot one timestamp. -/
def rbRetimestamp (rb : PacketRingBuffer) (readyTimestamp : UInt64) : PacketRingBuffer :=
  { rb with
    slots := fun i =>
      if i < rb.maxCapacity ∧ (rb.slots i).valid then
        { rb.slots i with timestampUs := readyTimestamp }
      else rb.slots i }

/-- The slots a delay needs, from the rate of the stream. -/
def delaySlots (rb : PacketRingBuffer) (delayMs : Nat) : Nat :=
  let slots := (maxRate rb.type * delayMs + 999) / 1000
  if slots > rb.maxCapacity then rb.maxCapacity else slots

/-- The share of a delay change that one ring takes. -/
def rbSetDelay (rb : PacketRingBuffer) (delayMs : Nat) (nowUs : UInt64) : PacketRingBuffer :=
  let delayMs := if delayMs > c64MaxDelayMs then c64MaxDelayMs else delayMs
  let slots := delaySlots rb delayMs
  let oldDelay := rb.delayUs
  let newDelay := UInt64.ofNat (delayMs * 1000)
  let rb := { rb with delayUs := newDelay }
  if newDelay < oldDelay then
    if newDelay = 0 ∧ oldDelay > 50000 then rbReset rb slots
    else rbRetimestamp (rbTrim rb slots) (nowUs - newDelay - 1000)
  else rb

/-- Whether a slot has waited long enough. -/
def isPacketReadyForPop (slot : PacketSlot) (delayUs nowUs : UInt64) : Bool :=
  if !slot.valid then false else decide (nowUs - slot.timestampUs ≥ delayUs)

/-- The share of a pop that one ring takes, with the packet it hands out. -/
def rbPopReady (rb : PacketRingBuffer) (nowUs : UInt64) : PacketRingBuffer × Option PopScratch :=
  if rb.head ≠ rb.tail ∧ (rb.slots rb.tail).valid
      ∧ isPacketReadyForPop (rb.slots rb.tail) rb.delayUs nowUs then
    match rbPopOldest rb with
    | some popped => (popped, some popped.popScratch)
    | none => (rb, none)
  else (rb, none)

/-- The network buffer: one ring for each stream. -/
structure C64NetworkBuffer where
  video : PacketRingBuffer
  audio : PacketRingBuffer

/-- The contents of freshly allocated memory, which creation does not clear. -/
structure RawRing where
  slots : Nat → PacketSlot
  payload : Nat → List UInt8
  popScratch : PopScratch

/-- Set up one ring over freshly allocated memory. -/
def rbCreate (type : BufferType) (raw : RawRing) : PacketRingBuffer :=
  rbReset
    { slots := fun i =>
        if i < maxPackets type then
          { raw.slots i with data := i, size := packetSize type, valid := false }
        else raw.slots i
      -- A payload array has room for one packet, whatever bytes lie in it.
      payload := fun i => paddedPayload (packetSize type) (raw.payload i)
      maxCapacity := maxPackets type
      activeSlots := 0
      head := 0
      tail := 0
      packetSize := packetSize type
      nextExpectedSeq := 0
      seqInitialized := false
      delayUs := 0
      type := type
      popScratch :=
        { raw.popScratch with
          bytes := paddedPayload (packetSize type) raw.popScratch.bytes
          size := packetSize type
          valid := false } }
    (maxPackets type)

/-- Create a network buffer over freshly allocated memory. -/
def c64NetworkBufferCreate (rawVideo rawAudio : RawRing) : C64NetworkBuffer :=
  { video := rbCreate .video rawVideo, audio := rbCreate .audio rawAudio }

/-- Set the delays of both rings, each with the time its own adjustment reads. -/
def c64NetworkBufferSetDelay (buf : C64NetworkBuffer) (videoDelayMs audioDelayMs : Nat)
    (videoNowUs audioNowUs : UInt64) : C64NetworkBuffer :=
  { video := rbSetDelay buf.video videoDelayMs videoNowUs
    audio := rbSetDelay buf.audio audioDelayMs audioNowUs }

/-- Push a video packet with its arrival time in nanoseconds. -/
def c64NetworkBufferPushVideo (buf : C64NetworkBuffer) (data : List UInt8)
    (timestampNs : UInt64) : C64NetworkBuffer :=
  { buf with video := rbPush buf.video data (timestampNs / 1000) }

/-- Push an audio packet with its arrival time in nanoseconds. -/
def c64NetworkBufferPushAudio (buf : C64NetworkBuffer) (data : List UInt8)
    (timestampNs : UInt64) : C64NetworkBuffer :=
  { buf with audio := rbPush buf.audio data (timestampNs / 1000) }

/-- What a pop hands to the consumer. -/
structure PopResult where
  videoData : Option (List UInt8)
  videoSize : Nat
  audioData : Option (List UInt8)
  audioSize : Nat
  timestampUs : UInt64
  available : Bool

/-- Pop whatever is ready from either ring. -/
def c64NetworkBufferPop (buf : C64NetworkBuffer) (videoNowUs audioNowUs : UInt64) :
    C64NetworkBuffer × PopResult :=
  let (video, v) := rbPopReady buf.video videoNowUs
  let (audio, a) := rbPopReady buf.audio audioNowUs
  let timestampUs :=
    match a, v with
    | some a, some v => if a.timestampUs < v.timestampUs then a.timestampUs else v.timestampUs
    | some a, none => a.timestampUs
    | none, some v => v.timestampUs
    | none, none => 0
  ({ video := video, audio := audio },
    { videoData := v.map (·.bytes)
      videoSize := (v.map (·.size)).getD 0
      audioData := a.map (·.bytes)
      audioSize := (a.map (·.size)).getD 0
      timestampUs := timestampUs
      available := v.isSome || a.isSome })

/-- Empty both rings, keeping their active slot counts. -/
def c64NetworkBufferFlush (buf : C64NetworkBuffer) : C64NetworkBuffer :=
  { video := rbReset buf.video buf.video.activeSlots
    audio := rbReset buf.audio buf.audio.activeSlots }

/-- One call of the public interface, with everything it reads. -/
inductive BufferCall where
  | pushVideo (data : List UInt8) (timestampNs : UInt64)
  | pushAudio (data : List UInt8) (timestampNs : UInt64)
  | pop (videoNowUs audioNowUs : UInt64)
  | setDelay (videoDelayMs audioDelayMs : Nat) (videoNowUs audioNowUs : UInt64)
  | flush

/-- The buffer after one call. -/
def BufferCall.apply (buf : C64NetworkBuffer) : BufferCall → C64NetworkBuffer
  | .pushVideo data timestampNs => c64NetworkBufferPushVideo buf data timestampNs
  | .pushAudio data timestampNs => c64NetworkBufferPushAudio buf data timestampNs
  | .pop videoNowUs audioNowUs => (c64NetworkBufferPop buf videoNowUs audioNowUs).1
  | .setDelay videoDelayMs audioDelayMs videoNowUs audioNowUs =>
    c64NetworkBufferSetDelay buf videoDelayMs audioDelayMs videoNowUs audioNowUs
  | .flush => c64NetworkBufferFlush buf

end C64Stream
