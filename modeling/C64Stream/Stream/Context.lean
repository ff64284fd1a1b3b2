import C64Stream.Audio.Timeline

/-! The shared clock of a stream: how packets become timestamped frames and audio packets. -/

namespace C64Stream

section Constants

def c64PalHeight : UInt32 := 272

def c64NtscHeight : UInt32 := 240

def c64MaxPacketsPerFrame : Nat := 68

def c64VideoPacketSize : Nat := 780

def c64PalFrameIntervalNs : UInt64 := 19950125

def c64NtscFrameIntervalNs : UInt64 := 16715141

def audioSamplesSize : Nat := 768

def c64AudioConcealMaxPackets : Nat := 25

/-- The sample rates that are ever set. -/
inductive AudioSampleRate where
  | unset
  | pal
  | ntsc
  deriving DecidableEq

def c64PalAudioSampleRate : Nat := 479828869047619

def c64NtscAudioSampleRate : Nat := 479403408482143

/-- Nanoseconds that the samples of one packet last, rounded down; PAL is assumed by default. -/
def AudioSampleRate.intervalNs (rate : AudioSampleRate) : UInt64 :=
  match rate with
  | .ntsc => UInt64.ofNat (192 * 1000000000 * 10000000000 / c64NtscAudioSampleRate)
  | .pal | .unset => UInt64.ofNat (192 * 1000000000 * 10000000000 / c64PalAudioSampleRate)

end Constants

section Context

/-- A frame that is assembled from packets. -/
structure FrameAssembly where
  frameNum : UInt16
  /-- The places of the packets that have arrived. -/
  received : List Nat
  expectedPackets : UInt16
  deriving DecidableEq

/-- The parts of a source that decide about timestamps. -/
structure StreamContext where
  streamStartSet : Bool
  streamStartNs : UInt64
  /-- The delay of the network buffer, zero without one. -/
  bufferDelayMs : UInt32
  currentFrame : FrameAssembly
  lastCompletedFrame : UInt16
  formatDetected : Bool
  detectedFrameHeight : UInt32
  frameIntervalNs : UInt64
  videoTsFrameNumSet : Bool
  lastVideoTsFrameNum : UInt16
  videoFrameIndex : UInt64
  lastVideoTsNs : UInt64
  audioSampleRate : AudioSampleRate
  /-- Zero until it is derived from the sample rate. -/
  audioIntervalNs : UInt64
  audioTimeline : AudioTimeline
  audioLastSampleSet : Bool
  lastAudioTsNs : UInt64
  deriving DecidableEq

/-- What is handed to the viewer: a frame or an audio packet, by its timestamp. -/
inductive Submission where
  | video (timestampNs : UInt64)
  | audio (timestampNs : UInt64)
  deriving DecidableEq

/-- The timestamp of a frame. -/
def Submission.videoTimestamp? (submission : Submission) : Option UInt64 :=
  match submission with
  | .video timestampNs => some timestampNs
  | .audio _ => none

/-- The timestamp of an audio packet. -/
def Submission.audioTimestamp? (submission : Submission) : Option UInt64 :=
  match submission with
  | .audio timestampNs => some timestampNs
  | .video _ => none

/-- The first packet of a stream fixes its start and resets its counters. -/
def c64TryInitStreamStartNs (context : StreamContext) (packetTimeNs : UInt64) : StreamContext :=
  if context.streamStartSet then context
  else
    { context with
      streamStartNs := packetTimeNs + context.bufferDelayMs.toUInt64 * 1000000
      streamStartSet := true
      audioTimeline := c64AudioTimelineReset context.audioTimeline
      audioLastSampleSet := false
      audioIntervalNs := 0
      lastVideoTsFrameNum := 0
      videoTsFrameNumSet := false
      videoFrameIndex := 0
      lastVideoTsNs := 0
      lastAudioTsNs := 0 }

/-- Whether the start of the stream is known. -/
def StreamContext.isStarted (context : StreamContext) : Bool :=
  context.streamStartSet && context.streamStartNs != 0

end Context

section Video

/-- A video packet, by the fields of its header; a packet has at least one line. -/
structure VideoPacket where
  size : Nat
  frameNum : UInt16
  lineNumRaw : UInt16
  linesPerPacket : UInt8
  positive : linesPerPacket ≠ 0
  deriving DecidableEq

theorem fourLines_positive : (4 : UInt8) ≠ 0 := by decide

/-- How far a frame number is ahead of the last one, around the end of the numbers. -/
def frameNumDiff (frameNum last : UInt16) : Int :=
  let diff : Int := frameNum.toNat - last.toNat
  if diff < -32768 then diff + 65536 else if diff > 32768 then diff - 65536 else diff

/-- The timestamp of a frame; zero if there is none yet. -/
def c64CalculateIdealTimestamp (context : StreamContext) (frameNum : UInt16) :
    UInt64 × StreamContext :=
  if !context.isStarted then (0, context)
  else
    let next :=
      if !context.videoTsFrameNumSet then
        { context with
          lastVideoTsFrameNum := frameNum, videoTsFrameNumSet := true, videoFrameIndex := 0 }
      else
        let diff := frameNumDiff frameNum context.lastVideoTsFrameNum
        if 0 < diff then
          { context with
            videoFrameIndex := context.videoFrameIndex + UInt64.ofInt diff
            lastVideoTsFrameNum := frameNum }
        -- A late or repeated number must not reuse a timestamp.
        else { context with videoFrameIndex := context.videoFrameIndex + 1 }
    (next.streamStartNs + next.videoFrameIndex * next.frameIntervalNs, next)

/-- A frame is complete when as many packets have arrived as its last packet announced. -/
def c64IsFrameComplete (frame : FrameAssembly) : Bool :=
  frame.expectedPackets != 0 && decide (frame.expectedPackets.toNat ≤ frame.received.length)

/-- Whether the frame under assembly is shown when a packet of another frame arrives. -/
def StreamContext.showsFrame (context : StreamContext) : Bool :=
  !context.currentFrame.received.isEmpty && c64IsFrameComplete context.currentFrame &&
    context.lastCompletedFrame != context.currentFrame.frameNum

/-- Hand the frame under assembly to the viewer, if it has a timestamp. -/
def c64RenderFrameDirect (context : StreamContext) : StreamContext × List Submission :=
  let (timestamp, next) := c64CalculateIdealTimestamp context context.currentFrame.frameNum
  if timestamp = 0 then (next, [])
  else ({ next with lastVideoTsNs := timestamp }, [.video timestamp])

/-- Finish the frame under assembly and begin another one. -/
def StreamContext.beginFrame (context : StreamContext) (frameNum : UInt16) :
    StreamContext × List Submission :=
  let (shown, submitted) :=
    if context.showsFrame then
      let (next, submitted) := c64RenderFrameDirect context
      ({ next with lastCompletedFrame := context.currentFrame.frameNum }, submitted)
    else (context, [])
  ({ shown with currentFrame := ⟨frameNum, [], 0⟩ }, submitted)

/-- A frame height that the frame storage has room for. -/
def c64ClampFrameHeight (height : UInt32) : UInt32 :=
  if height < c64NtscHeight then c64NtscHeight
  else if c64PalHeight < height then c64PalHeight
  else height

/-- Whether frames of a height come at the PAL rate; other heights are estimated. -/
def isPalFrameHeight (frameHeight : UInt32) : Bool :=
  if frameHeight = c64PalHeight then true
  else if frameHeight = c64NtscHeight then false
  else !decide (frameHeight ≤ 250)

/-- Take over the video standard that a frame height announces. -/
def StreamContext.detectFormat (context : StreamContext) (frameHeight : UInt32) : StreamContext :=
  if !context.formatDetected || context.detectedFrameHeight != frameHeight then
    { context with
      detectedFrameHeight := frameHeight
      formatDetected := true
      frameIntervalNs :=
        if isPalFrameHeight frameHeight then c64PalFrameIntervalNs else c64NtscFrameIntervalNs
      audioSampleRate := if isPalFrameHeight frameHeight then .pal else .ntsc
      audioIntervalNs := 0 }
  else context

/-- Add a packet to the frame under assembly, unless its place is taken or out of range. -/
def FrameAssembly.addPacket (frame : FrameAssembly) (packetIndex : Nat) : FrameAssembly :=
  if packetIndex < c64MaxPacketsPerFrame ∧ packetIndex ∉ frame.received then
    { frame with received := packetIndex :: frame.received }
  else frame

/-- Add a video packet to the frame that was begun for it; the last packet of a frame announces the
number of packets and the video standard. -/
def StreamContext.addVideoPacket (context : StreamContext) (packet : VideoPacket) :
    StreamContext :=
  let lineNum := packet.lineNumRaw &&& 0x7FFF
  let lastPacket := packet.lineNumRaw &&& 0x8000 != 0
  let packetIndex := lineNum.toNat / packet.linesPerPacket.toNat
  let frame := context.currentFrame.addPacket packetIndex
  if lastPacket && frame.expectedPackets == 0 then
    let announced :=
      { context with
        currentFrame := { frame with expectedPackets := UInt16.ofNat (packetIndex + 1) } }
    let reportedFrameHeight := lineNum.toUInt32 + packet.linesPerPacket.toUInt32
    -- A height out of range is dropped, but the number of packets stays announced.
    if reportedFrameHeight ≠ c64ClampFrameHeight reportedFrameHeight then announced
    else announced.detectFormat reportedFrameHeight
  else { context with currentFrame := frame }

/-- Process a video packet. -/
def c64ProcessVideoPacketDirect (context : StreamContext) (packet : VideoPacket) :
    StreamContext × List Submission :=
  if packet.size ≠ c64VideoPacketSize then (context, [])
  else
    let (begun, submitted) :=
      if context.currentFrame.frameNum ≠ packet.frameNum then context.beginFrame packet.frameNum
      else (context, [])
    (begun.addVideoPacket packet, submitted)

end Video

section Audio

/-- An audio packet, with the times at which it was received and is processed. -/
structure AudioPacket where
  dataSize : Nat
  seq : UInt16
  timestampNs : UInt64
  nowNs : UInt64
  deriving DecidableEq

/-- Derive the interval of audio packets from the sample rate, if that was not done yet. -/
def c64EnsureAudioInterval (context : StreamContext) : StreamContext :=
  if context.audioIntervalNs ≠ 0 then context
  else
    { context with
      audioSampleRate := if context.audioSampleRate = .unset then .pal else context.audioSampleRate
      audioIntervalNs := context.audioSampleRate.intervalNs }

/-- The timestamp of an audio packet by its index. -/
def c64AudioIndexTimestamp (context : StreamContext) (index : UInt64) : UInt64 :=
  context.streamStartNs + index * context.audioIntervalNs

/-- The index that the wall clock has reached. -/
def StreamContext.nowSlot (context : StreamContext) (nowNs : UInt64) : UInt64 :=
  if context.streamStartNs < nowNs then (nowNs - context.streamStartNs) / context.audioIntervalNs
  else 0

/-- What the timeline makes of an audio packet. -/
def StreamContext.advanceAudio (context : StreamContext) (packet : AudioPacket) :
    AudioSeqAction × AudioTimeline × AudioAdvanceOut :=
  c64AudioTimelineAdvance context.audioTimeline packet.seq (context.nowSlot packet.nowNs) ⟨0, 0⟩

/-- The indices of the packets that fill a gap towards the viewer. -/
def concealedIndices (realIndex : UInt64) (gap : UInt32) : List UInt64 :=
  (List.range (min gap.toNat c64AudioConcealMaxPackets)).map fun k =>
    realIndex - gap.toUInt64 + UInt64.ofNat k

/-- The indices at which an accepted packet and what conceals the gap before it are played. -/
def StreamContext.playedIndices (context : StreamContext) (action : AudioSeqAction)
    (out : AudioAdvanceOut) : List UInt64 :=
  -- A gap can be concealed only after a first packet.
  if action = .conceal ∧ context.audioLastSampleSet then
    concealedIndices out.index out.gap ++ [out.index]
  else [out.index]

/-- Hand an accepted packet to the viewer, behind what conceals the gap before it. -/
def StreamContext.playAudio (context : StreamContext) (action : AudioSeqAction)
    (out : AudioAdvanceOut) : StreamContext × List Submission :=
  ({ context with
      lastAudioTsNs := c64AudioIndexTimestamp context out.index
      audioLastSampleSet := true },
    (context.playedIndices action out).map fun index =>
      .audio (c64AudioIndexTimestamp context index))

/-- A packet without a sequence number or with too few samples is ignored. -/
def AudioPacket.isTooSmall (packet : AudioPacket) : Bool :=
  decide (packet.dataSize < 2) || decide (packet.dataSize - 2 < audioSamplesSize)

/-- Process an audio packet. -/
def c64ProcessAudioPacket (context : StreamContext) (packet : AudioPacket) :
    StreamContext × List Submission :=
  if packet.isTooSmall then (context, [])
  else
    let started := c64TryInitStreamStartNs context packet.timestampNs
    if !started.isStarted then (started, [])
    else
      let ready := c64EnsureAudioInterval started
      let (action, timeline, out) := ready.advanceAudio packet
      let advanced := { ready with audioTimeline := timeline }
      if action = .drop then (advanced, []) else advanced.playAudio action out

end Audio

section Packets

/-- A packet that the processor takes from one of its queues. -/
inductive StreamPacket where
  | video (packet : VideoPacket)
  | audio (packet : AudioPacket)
  deriving DecidableEq

/-- Process a packet. -/
def StreamContext.process (context : StreamContext) (packet : StreamPacket) :
    StreamContext × List Submission :=
  match packet with
  | .video packet => c64ProcessVideoPacketDirect context packet
  | .audio packet => c64ProcessAudioPacket context packet

end Packets

end C64Stream
