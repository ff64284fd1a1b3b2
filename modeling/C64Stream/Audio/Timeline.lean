import C64Stream.Lib.Wrap

/-! The audio sequence timeline: sixteen-bit packet numbers mapped onto a monotonic packet index. -/

namespace C64Stream

def audioWavFillMaxPackets : UInt32 := 1250

def audioResyncThreshold : Int := 250

/-- What the caller has to do with an incoming packet. -/
inductive AudioSeqAction where
  | play
  | drop
  | conceal
  | resync
  deriving DecidableEq

/-- The timeline state, with its counters. -/
structure AudioTimeline where
  seqSet : Bool
  lastSeq : UInt16
  packetIndex : UInt64
  packetsLost : UInt64
  concealed : UInt64
  lateDropped : UInt64
  duplicates : UInt64
  resyncs : UInt64
  deriving DecidableEq

/-- The two output parameters of an advance. -/
structure AudioAdvanceOut where
  index : UInt64
  gap : UInt32
  deriving DecidableEq

/-- Resetting clears every field, whatever the timeline held before. -/
def c64AudioTimelineReset (_tl : AudioTimeline) : AudioTimeline :=
  { seqSet := false, lastSeq := 0, packetIndex := 0, packetsLost := 0, concealed := 0,
    lateDropped := 0, duplicates := 0, resyncs := 0 }

/-- Advance the timeline with one packet; a dropped packet leaves the outputs untouched. -/
def c64AudioTimelineAdvance (tl : AudioTimeline) (seq : UInt16) (nowSlot : UInt64)
    (out : AudioAdvanceOut) : AudioSeqAction × AudioTimeline × AudioAdvanceOut :=
  if !tl.seqSet then
    (.play, { tl with seqSet := true, lastSeq := seq, packetIndex := 0 }, { index := 0, gap := 0 })
  else
    -- The signed cast handles the wraparound of the sequence number.
    let delta := int16 (seq - tl.lastSeq)
    if delta = 1 then
      let next := tl.packetIndex + 1
      (.play, { tl with packetIndex := next, lastSeq := seq }, { index := next, gap := 0 })
    else if delta ≤ 0 ∧ delta > -audioResyncThreshold then
      -- A duplicate or a packet that comes too late never advances the timeline.
      if delta = 0 then (.drop, { tl with duplicates := tl.duplicates + 1 }, out)
      else (.drop, { tl with lateDropped := tl.lateDropped + 1 }, out)
    else if delta > 1 ∧ UInt32.ofInt (delta - 1) ≤ audioWavFillMaxPackets then
      let gap := UInt32.ofInt delta - 1
      let next := tl.packetIndex + UInt64.ofInt delta
      (.conceal,
        { tl with
          packetsLost := tl.packetsLost + gap.toUInt64
          concealed := tl.concealed + gap.toUInt64
          packetIndex := next
          lastSeq := seq },
        { index := next, gap := gap })
    else
      -- A discontinuity re-anchors the index to the wall clock, never backwards.
      let lost := if delta > 1 then tl.packetsLost + (UInt32.ofInt delta - 1).toUInt64
        else tl.packetsLost
      let follow := tl.packetIndex + 1
      let next := if nowSlot > follow then nowSlot else follow
      (.resync,
        { tl with packetsLost := lost, resyncs := tl.resyncs + 1, packetIndex := next, lastSeq := seq },
        { index := next, gap := 0 })

/-- One packet on its way to the timeline: its unbounded number and the wall-clock slot. -/
structure AudioArrival where
  packet : Int
  nowSlot : UInt64

/-- What one arrival led to, together with the outputs the caller then holds. -/
structure AudioOutcome where
  packet : Int
  action : AudioSeqAction
  index : UInt64
  gap : UInt32
  deriving DecidableEq

/-- Feed a sequence of arrivals to the timeline, each under its wrapped sequence number. -/
def advanceAudioTimeline (tl : AudioTimeline) (out : AudioAdvanceOut) :
    List AudioArrival → AudioTimeline × List AudioOutcome
  | [] => (tl, [])
  | arrival :: rest =>
    let (action, next, written) :=
      c64AudioTimelineAdvance tl (UInt16.ofInt arrival.packet) arrival.nowSlot out
    let (final, outcomes) := advanceAudioTimeline next written rest
    (final, ⟨arrival.packet, action, written.index, written.gap⟩ :: outcomes)

/-- The indices one outcome fills: the concealed packets first, then the real one. -/
def AudioOutcome.filledIndices (outcome : AudioOutcome) : List UInt64 :=
  match outcome.action with
  | .drop => []
  | _ =>
    (List.range outcome.gap.toNat).map
      (fun k => outcome.index - outcome.gap.toUInt64 + UInt64.ofNat k) ++ [outcome.index]

end C64Stream
