import C64Stream.Lib.Run
import C64Stream.Audio.TimelineLaws
import C64Stream.Stream.Context

/-! When the timestamps of a stream increase: format changes move the clock. -/

namespace C64Stream

section Runs

/-- A stream with a record of what was handed to the viewer, the latest first, and of the intervals
that were in force for the last frame and the last audio packet. -/
structure StreamRun where
  context : StreamContext
  videoTimestamps : List UInt64
  audioTimestamps : List UInt64
  videoIntervalNs : UInt64
  audioIntervalNs : UInt64
  deriving DecidableEq

/-- A stream whose first packet was just received. -/
def StreamRun.start (context : StreamContext) (packetTimeNs : UInt64) : StreamRun :=
  ⟨c64TryInitStreamStartNs context packetTimeNs, [], [], 0, 0⟩

/-- Process a packet and record what is handed to the viewer. -/
def StreamRun.step (run : StreamRun) (packet : StreamPacket) : StreamRun :=
  let (context, submitted) := run.context.process packet
  let videos := submitted.filterMap Submission.videoTimestamp?
  let audios := submitted.filterMap Submission.audioTimestamp?
  { context
    videoTimestamps := videos.reverse ++ run.videoTimestamps
    audioTimestamps := audios.reverse ++ run.audioTimestamps
    -- Only frames that precede the packet are shown, at the interval before it.
    videoIntervalNs := if videos.isEmpty then run.videoIntervalNs else run.context.frameIntervalNs
    audioIntervalNs := if audios.isEmpty then run.audioIntervalNs else context.audioIntervalNs }

/-- The timestamps of frames increase from each frame to the next, and so do those of audio
packets. -/
def StreamRun.Increasing (run : StreamRun) : Prop :=
  run.videoTimestamps.Pairwise (· > ·) ∧ run.audioTimestamps.Pairwise (· > ·)

/-- By how many frames the index advances when a frame is shown. -/
def frameAdvance (context : StreamContext) : Nat :=
  (max 1 (frameNumDiff context.currentFrame.frameNum context.lastVideoTsFrameNum)).toNat

/-- A timestamp fits into its field. -/
def TimestampFits (startNs : UInt64) (index : Nat) (intervalNs : UInt64) : Prop :=
  startNs.toNat + index * intervalNs.toNat < 2 ^ 64

/-- What a shorter interval takes from an index is made up for by an advance of the index. -/
def MakesUpFor (index advance : Nat) (lastNs intervalNs : UInt64) : Prop :=
  index * (lastNs.toNat - intervalNs.toNat) < advance * intervalNs.toNat

/-- If a packet lets a frame be shown that is not the first one, its timestamp fits and the advance
makes up for a shorter interval. -/
def VideoSteady (run : StreamRun) (packet : VideoPacket) : Prop :=
  let context := run.context
  context.isStarted = true → packet.size = c64VideoPacketSize →
    context.currentFrame.frameNum ≠ packet.frameNum → context.showsFrame = true →
      context.videoTsFrameNumSet = true →
        TimestampFits context.streamStartNs
            (context.videoFrameIndex.toNat + frameAdvance context) context.frameIntervalNs ∧
          MakesUpFor context.videoFrameIndex.toNat (frameAdvance context) run.videoIntervalNs
            context.frameIntervalNs

/-- If a packet is played that is not the first one, its timestamp fits and the first advance of the
index makes up for a shorter interval. -/
def AudioSteady (run : StreamRun) (packet : AudioPacket) : Prop :=
  let context := c64EnsureAudioInterval run.context
  let action := (context.advanceAudio packet).1
  let out := (context.advanceAudio packet).2.2
  context.isStarted = true → packet.isTooSmall = false →
    context.audioTimeline.seqSet = true → action ≠ .drop →
      let index := context.audioTimeline.packetIndex.toNat
      let first := out.index.toNat - out.gap.toNat
      TimestampFits context.streamStartNs out.index.toNat context.audioIntervalNs ∧
        MakesUpFor index (first - index) run.audioIntervalNs context.audioIntervalNs

/-- A packet does not let the clock go back. -/
def ClockSteady (run : StreamRun) (packet : StreamPacket) : Prop :=
  match packet with
  | .video packet => VideoSteady run packet
  | .audio packet => AudioSteady run packet

end Runs

section Clock

variable {startNs index intervalNs : UInt64}

/-- The last of some increasing timestamps belongs to an index at an interval. -/
def ClockAt (startNs : UInt64) (timestamps : List UInt64) (index intervalNs : UInt64) : Prop :=
  TimestampFits startNs index.toNat intervalNs ∧
    ∃ earlier, timestamps = (startNs + index * intervalNs) :: earlier ∧
      timestamps.Pairwise (· > ·)

theorem timestamp_toNat (fits : TimestampFits startNs index.toNat intervalNs) :
    (startNs + index * intervalNs).toNat =
      startNs.toNat + index.toNat * intervalNs.toNat := by
  unfold TimestampFits at fits
  have product : index.toNat * intervalNs.toNat < 2 ^ 64 := by omega
  rw [UInt64.toNat_add, UInt64.toNat_mul, Nat.mod_eq_of_lt product, Nat.mod_eq_of_lt fits]

theorem ClockAt.first (startNs intervalNs : UInt64) :
    ClockAt startNs [startNs + 0 * intervalNs] 0 intervalNs := by
  refine ⟨?_, [], rfl, List.pairwise_singleton _ _⟩
  have bound := startNs.toNat_lt
  simpa [TimestampFits] using bound

theorem ClockAt.next {lastNs later : UInt64} {timestamps : List UInt64}
    (clock : ClockAt startNs timestamps index lastNs)
    (fits : TimestampFits startNs later.toNat intervalNs)
    (ahead : MakesUpFor index.toNat (later.toNat - index.toNat) lastNs intervalNs) :
    ClockAt startNs ((startNs + later * intervalNs) :: timestamps) later intervalNs := by
  obtain ⟨lastFits, earlier, rfl, sorted⟩ := clock
  -- The new timestamp is above the last one, which is above the others.
  have above : startNs + index * lastNs < startNs + later * intervalNs := by
    rw [UInt64.lt_iff_toNat_lt, timestamp_toNat lastFits, timestamp_toNat fits]
    unfold MakesUpFor at ahead
    have lost : index.toNat * lastNs.toNat ≤
        index.toNat * (lastNs.toNat - intervalNs.toNat) + index.toNat * intervalNs.toNat := by
      rw [← Nat.mul_add]
      exact Nat.mul_le_mul_left _ (by omega)
    have order : index.toNat ≤ later.toNat := by
      by_contra behind
      have none : later.toNat - index.toNat = 0 := by omega
      rw [none, Nat.zero_mul] at ahead
      exact absurd ahead (Nat.not_lt_zero _)
    have whole : (later.toNat - index.toNat) * intervalNs.toNat +
        index.toNat * intervalNs.toNat = later.toNat * intervalNs.toNat := by
      rw [← Nat.add_mul, Nat.sub_add_cancel order]
    omega
  refine ⟨fits, _, rfl, List.pairwise_cons.mpr ⟨fun timestamp member => ?_, sorted⟩⟩
  rcases List.mem_cons.mp member with rfl | member
  · exact above
  · exact UInt64.lt_trans ((List.pairwise_cons.mp sorted).1 timestamp member) above

theorem ClockAt.extend {timestamps : List UInt64}
    (clock : ClockAt startNs timestamps index intervalNs) (positive : 0 < intervalNs.toNat)
    {indices : List UInt64} (sorted : (index :: indices).Pairwise (· < ·))
    (fits : ∀ later ∈ indices, TimestampFits startNs later.toNat intervalNs) :
    ClockAt startNs ((indices.map fun later => startNs + later * intervalNs).reverse ++ timestamps)
      ((index :: indices).getLast (List.cons_ne_nil _ _)) intervalNs := by
  -- The induction is on the indices, the next one first.
  induction indices generalizing index timestamps with
  | nil => exact clock
  | cons later rest ih =>
    have order := List.pairwise_cons.mp sorted
    have above : index.toNat < later.toNat :=
      UInt64.lt_iff_toNat_lt.mp (order.1 later (List.mem_cons_self ..))
    have ahead : MakesUpFor index.toNat (later.toNat - index.toNat) intervalNs intervalNs := by
      unfold MakesUpFor
      rw [Nat.sub_self, Nat.mul_zero]
      exact Nat.mul_pos (by omega) positive
    have next := ih (clock.next (fits later (List.mem_cons_self ..)) ahead) order.2
      fun other member => fits other (List.mem_cons_of_mem _ member)
    rw [List.map_cons, List.reverse_cons, List.append_assoc, List.getLast_cons_cons]
    exact next

end Clock

section Steps

variable {context : StreamContext}

/-- The parts of a source that only the clock and the audio timeline touch. -/
structure StreamClock where
  streamStartSet : Bool
  streamStartNs : UInt64
  videoTsFrameNumSet : Bool
  videoFrameIndex : UInt64
  audioTimeline : AudioTimeline

/-- The clock of a source. -/
def StreamContext.clock (context : StreamContext) : StreamClock :=
  ⟨context.streamStartSet, context.streamStartNs, context.videoTsFrameNumSet,
    context.videoFrameIndex, context.audioTimeline⟩

theorem detectFormat_clock (context : StreamContext) (frameHeight : UInt32) :
    (context.detectFormat frameHeight).clock = context.clock := by
  unfold StreamContext.detectFormat
  split <;> rfl

theorem addVideoPacket_clock (context : StreamContext) (packet : VideoPacket) :
    (context.addVideoPacket packet).clock = context.clock := by
  unfold StreamContext.addVideoPacket
  simp only
  split
  · split
    · rfl
    · rw [detectFormat_clock]
      rfl
  · rfl

/-- Whether a video packet lets a frame be shown. -/
def StreamContext.shows (context : StreamContext) (packet : VideoPacket) : Prop :=
  packet.size = c64VideoPacketSize ∧ context.currentFrame.frameNum ≠ packet.frameNum ∧
    context.showsFrame = true

theorem processVideo_clock (context : StreamContext) (packet : VideoPacket) :
    context.shows packet ∧
        (c64ProcessVideoPacketDirect context packet).1.clock =
          (c64RenderFrameDirect context).1.clock ∧
        (c64ProcessVideoPacketDirect context packet).2 = (c64RenderFrameDirect context).2 ∨
      ¬ context.shows packet ∧
        (c64ProcessVideoPacketDirect context packet).1.clock = context.clock ∧
        (c64ProcessVideoPacketDirect context packet).2 = [] := by
  unfold c64ProcessVideoPacketDirect
  by_cases size : packet.size = c64VideoPacketSize
  · rw [if_neg (not_not_intro size)]
    by_cases other : context.currentFrame.frameNum ≠ packet.frameNum
    · rw [if_pos other, StreamContext.beginFrame]
      cases shown : context.showsFrame with
      | false =>
        refine .inr ⟨fun shows => ?_, addVideoPacket_clock _ _, rfl⟩
        rw [shows.2.2] at shown
        cases shown
      | true => exact .inl ⟨⟨size, other, shown⟩, addVideoPacket_clock _ _, rfl⟩
    · -- A packet of the same frame shows nothing.
      rw [if_neg other]
      exact .inr ⟨fun shows => other shows.2.1, addVideoPacket_clock _ _, rfl⟩
  · rw [if_pos size]
    exact .inr ⟨fun shows => size shows.1, rfl, rfl⟩

theorem renderFrame_waiting (waiting : context.isStarted = false) :
    c64RenderFrameDirect context = (context, []) := by
  simp [c64RenderFrameDirect, c64CalculateIdealTimestamp, waiting]

theorem renderFrame_first (started : context.isStarted = true)
    (first : context.videoTsFrameNumSet = false) :
    (c64RenderFrameDirect context).1.clock =
        { context.clock with videoTsFrameNumSet := true, videoFrameIndex := 0 } ∧
      (c64RenderFrameDirect context).2 =
        [.video (context.streamStartNs + 0 * context.frameIntervalNs)] := by
  have nonzero : context.streamStartNs ≠ 0 := by
    simp only [StreamContext.isStarted, Bool.and_eq_true, bne_iff_ne] at started
    exact started.2
  simp [c64RenderFrameDirect, c64CalculateIdealTimestamp, started, first, nonzero,
    StreamContext.clock]

theorem ofNat_frameAdvance (context : StreamContext) :
    UInt64.ofNat (frameAdvance context) =
      if 0 < frameNumDiff context.currentFrame.frameNum context.lastVideoTsFrameNum then
        UInt64.ofInt (frameNumDiff context.currentFrame.frameNum context.lastVideoTsFrameNum)
      else 1 := by
  unfold frameAdvance
  split <;> rename_i ahead
  · rw [ofNat_eq_ofInt, max_eq_right ahead, Int.toNat_of_nonneg ahead.le]
  · rw [max_eq_left (by omega)]
    rfl

theorem renderFrame_next (started : context.isStarted = true)
    (set : context.videoTsFrameNumSet = true)
    (fits : TimestampFits context.streamStartNs
      (context.videoFrameIndex.toNat + frameAdvance context) context.frameIntervalNs)
    (positive : 0 < context.frameIntervalNs.toNat) :
    ∃ later : UInt64, later.toNat = context.videoFrameIndex.toNat + frameAdvance context ∧
      (c64RenderFrameDirect context).1.clock =
        { context.clock with videoTsFrameNumSet := true, videoFrameIndex := later } ∧
      (c64RenderFrameDirect context).2 =
        [.video (context.streamStartNs + later * context.frameIntervalNs)] := by
  have nonzero : context.streamStartNs ≠ 0 := by
    simp only [StreamContext.isStarted, Bool.and_eq_true, bne_iff_ne] at started
    exact started.2
  have index : (context.videoFrameIndex + UInt64.ofNat (frameAdvance context)).toNat =
      context.videoFrameIndex.toNat + frameAdvance context := by
    have small : context.videoFrameIndex.toNat + frameAdvance context < 2 ^ 64 := by
      have scaled := Nat.le_mul_of_pos_right
        (context.videoFrameIndex.toNat + frameAdvance context) positive
      unfold TimestampFits at fits
      omega
    rw [UInt64.toNat_add, UInt64.toNat_ofNat', Nat.mod_eq_of_lt (by omega : frameAdvance context < _),
      Nat.mod_eq_of_lt small]
  refine ⟨_, index, ?_⟩
  -- A timestamp that fits is at least the start, so that it is not taken for a missing one.
  have shown : context.streamStartNs +
      (context.videoFrameIndex + UInt64.ofNat (frameAdvance context)) *
        context.frameIntervalNs ≠ 0 := by
    intro missing
    have value := timestamp_toNat (by rw [index]; exact fits :
      TimestampFits context.streamStartNs
        (context.videoFrameIndex + UInt64.ofNat (frameAdvance context)).toNat
          context.frameIntervalNs)
    rw [missing] at value
    have zero : context.streamStartNs.toNat = 0 := by
      have none : (0 : UInt64).toNat = 0 := rfl
      omega
    exact nonzero (UInt64.toNat_inj.mp zero)
  have advance := ofNat_frameAdvance context
  split at advance <;> rename_i ahead
  · rw [advance] at shown ⊢
    simp [c64RenderFrameDirect, c64CalculateIdealTimestamp, started, set, ahead, shown,
      StreamContext.clock]
  · rw [advance] at shown ⊢
    simp [c64RenderFrameDirect, c64CalculateIdealTimestamp, started, set, ahead, shown,
      StreamContext.clock]

end Steps

section AudioSteps

variable {out : AudioAdvanceOut}

theorem audioAdvance_accepted {tl next : AudioTimeline} {seq : UInt16} {nowSlot : UInt64}
    {action : AudioSeqAction}
    (advanced : c64AudioTimelineAdvance tl seq nowSlot ⟨0, 0⟩ = (action, next, out))
    (accepted : action ≠ .drop) :
    next.seqSet = true ∧ next.packetIndex = out.index ∧
      (tl.seqSet = false → action = .play ∧ out.index = 0) := by
  cases set : tl.seqSet with
  | false =>
    simp only [c64AudioTimelineAdvance, set, Bool.not_false, if_true, Prod.mk.injEq] at advanced
    obtain ⟨rfl, rfl, rfl⟩ := advanced
    exact ⟨rfl, rfl, fun _ => ⟨rfl, rfl⟩⟩
  | true =>
    refine (and_assoc.mp ⟨?_, fun impossible => by cases impossible⟩)
    simp only [c64AudioTimelineAdvance, set, Bool.not_true, Bool.false_eq_true, if_false] at advanced
    -- Duplicates and late packets are dropped, and all others set the index.
    split_ifs at advanced
    all_goals obtain ⟨rfl, rfl, rfl⟩ := advanced
    all_goals first | exact absurd rfl accepted | exact ⟨rfl, rfl⟩

theorem audioAdvance_dropped {tl next : AudioTimeline} {seq : UInt16} {nowSlot : UInt64}
    (advanced : c64AudioTimelineAdvance tl seq nowSlot ⟨0, 0⟩ = (.drop, next, out)) :
    tl.seqSet = true ∧ next.seqSet = true ∧ next.packetIndex = tl.packetIndex := by
  cases set : tl.seqSet with
  | false =>
    simp only [c64AudioTimelineAdvance, set, Bool.not_false, if_true, Prod.mk.injEq] at advanced
    cases advanced.1
  | true =>
    simp only [c64AudioTimelineAdvance, set, Bool.not_true, Bool.false_eq_true, if_false] at advanced
    split_ifs at advanced
    all_goals obtain ⟨impossible, rfl, rfl⟩ := advanced
    all_goals first | cases impossible | exact ⟨rfl, rfl, rfl⟩

theorem concealedIndices_sorted {realIndex : UInt64} {gap : UInt32}
    (room : gap.toNat ≤ realIndex.toNat) :
    (concealedIndices realIndex gap ++ [realIndex]).Pairwise (· < ·) ∧
      ∀ index ∈ concealedIndices realIndex gap ++ [realIndex],
        realIndex.toNat - gap.toNat ≤ index.toNat ∧ index.toNat ≤ realIndex.toNat := by
  have value : ∀ k < min gap.toNat c64AudioConcealMaxPackets,
      (realIndex - gap.toUInt64 + UInt64.ofNat k).toNat = realIndex.toNat - gap.toNat + k := by
    intro k small
    have bound := realIndex.toNat_lt
    have le : gap.toUInt64 ≤ realIndex := by
      rw [UInt64.le_iff_toNat_le]
      simpa using room
    rw [UInt64.toNat_add, UInt64.toNat_sub_of_le _ _ le, UInt64.toNat_ofNat']
    simp only [UInt32.toNat_toUInt64]
    omega
  refine ⟨List.pairwise_append.mpr ⟨?_, List.pairwise_singleton _ _, ?_⟩, ?_⟩
  · refine List.pairwise_map.mpr (List.Pairwise.imp_of_mem ?_ List.pairwise_lt_range)
    intro first second one two order
    rw [UInt64.lt_iff_toNat_lt, value _ (List.mem_range.mp one), value _ (List.mem_range.mp two)]
    omega
  · intro index member last here
    obtain rfl := List.mem_singleton.mp here
    obtain ⟨k, inside, rfl⟩ := List.mem_map.mp member
    have small := List.mem_range.mp inside
    rw [UInt64.lt_iff_toNat_lt, value k small]
    omega
  · intro index member
    rcases List.mem_append.mp member with filled | real
    · obtain ⟨k, inside, rfl⟩ := List.mem_map.mp filled
      have small := List.mem_range.mp inside
      rw [value k small]
      omega
    · obtain rfl := List.mem_singleton.mp real
      omega

theorem playedIndices_sorted (context : StreamContext) (action : AudioSeqAction)
    (room : out.gap.toNat ≤ out.index.toNat) :
    ∃ before, context.playedIndices action out = before ++ [out.index] ∧
      (context.playedIndices action out).Pairwise (· < ·) ∧
        ∀ index ∈ context.playedIndices action out,
          out.index.toNat - out.gap.toNat ≤ index.toNat ∧ index.toNat ≤ out.index.toNat := by
  unfold StreamContext.playedIndices
  split
  · exact ⟨_, rfl, concealedIndices_sorted room⟩
  · refine ⟨[], rfl, List.pairwise_singleton _ _, fun index member => ?_⟩
    obtain rfl := List.mem_singleton.mp member
    omega

theorem ClockAt.play {startNs index lastNs later intervalNs : UInt64} {timestamps : List UInt64}
    {indices before : List UInt64} {first : Nat} (clock : ClockAt startNs timestamps index lastNs)
    (fits : TimestampFits startNs later.toNat intervalNs)
    (ahead : MakesUpFor index.toNat (first - index.toNat) lastNs intervalNs)
    (ends : indices = before ++ [later]) (sorted : indices.Pairwise (· < ·))
    (between : ∀ other ∈ indices, first ≤ other.toNat ∧ other.toNat ≤ later.toNat) :
    ClockAt startNs ((indices.map fun other => startNs + other * intervalNs).reverse ++ timestamps)
      later intervalNs := by
  have positive : 0 < intervalNs.toNat := by
    refine Nat.pos_of_ne_zero fun zero => ?_
    rw [MakesUpFor, zero, Nat.mul_zero] at ahead
    exact Nat.not_lt_zero _ ahead
  have all : ∀ other ∈ indices, TimestampFits startNs other.toNat intervalNs := by
    intro other member
    have scaled := Nat.mul_le_mul_right intervalNs.toNat (between other member).2
    unfold TimestampFits at *
    omega
  cases indices with
  | nil => cases before <;> cases ends
  | cons head rest =>
    -- The first index makes up for the interval, and the others follow at the same one.
    have leads : MakesUpFor index.toNat (head.toNat - index.toNat) lastNs intervalNs := by
      have above := (between head (List.mem_cons_self ..)).1
      exact Nat.lt_of_lt_of_le ahead (Nat.mul_le_mul_right _ (by omega))
    have next := clock.next (all head (List.mem_cons_self ..)) leads
    have others := next.extend positive sorted
      fun other member => all other (List.mem_cons_of_mem _ member)
    have last : (head :: rest).getLast (List.cons_ne_nil _ _) = later := by
      simp only [ends, List.getLast_append_singleton]
    rw [last] at others
    rw [List.map_cons, List.reverse_cons, List.append_assoc]
    exact others

end AudioSteps

section Run

variable {run : StreamRun} {packet : StreamPacket}

/-- What was handed to the viewer agrees with the clock. -/
structure ClockHeld (clock : StreamClock) (videoTimestamps audioTimestamps : List UInt64)
    (videoIntervalNs audioIntervalNs : UInt64) : Prop where
  started : clock.streamStartSet = true
  video : clock.videoTsFrameNumSet = false ∧ videoTimestamps = [] ∨
    clock.videoTsFrameNumSet = true ∧
      ClockAt clock.streamStartNs videoTimestamps clock.videoFrameIndex videoIntervalNs
  audio : clock.audioTimeline.seqSet = false ∧ audioTimestamps = [] ∨
    clock.audioTimeline.seqSet = true ∧
      ClockAt clock.streamStartNs audioTimestamps clock.audioTimeline.packetIndex audioIntervalNs

/-- The record of a run agrees with its clock. -/
def StreamRun.Held (run : StreamRun) : Prop :=
  ClockHeld run.context.clock run.videoTimestamps run.audioTimestamps run.videoIntervalNs
    run.audioIntervalNs

theorem StreamRun.Held.increasing (held : run.Held) : run.Increasing := by
  constructor
  · rcases held.video with ⟨_, none⟩ | ⟨_, _, _, _, sorted⟩
    · rw [none]
      exact .nil
    · exact sorted
  · rcases held.audio with ⟨_, none⟩ | ⟨_, _, _, _, sorted⟩
    · rw [none]
      exact .nil
    · exact sorted

theorem StreamRun.Held.silent (held : run.Held)
    (clock : (run.context.process packet).1.clock = run.context.clock)
    (silent : (run.context.process packet).2 = []) : (run.step packet).Held := by
  unfold StreamRun.Held StreamRun.step
  simp only [silent, List.filterMap_nil, List.reverse_nil, List.nil_append, List.isEmpty_nil, if_true,
    clock]
  exact held

theorem StreamRun.Held.shown {timestamp index : UInt64} (held : run.Held)
    (clock : (run.context.process packet).1.clock =
      { run.context.clock with videoTsFrameNumSet := true, videoFrameIndex := index })
    (shown : (run.context.process packet).2 = [.video timestamp])
    (next : ClockAt run.context.streamStartNs (timestamp :: run.videoTimestamps) index
      run.context.frameIntervalNs) : (run.step packet).Held := by
  unfold StreamRun.Held StreamRun.step
  simp only [shown, clock]
  exact ⟨held.started, .inr ⟨rfl, next⟩, held.audio⟩

theorem videoStep_held {packet : VideoPacket} (held : run.Held) (steady : VideoSteady run packet) :
    (run.step (.video packet)).Held := by
  rcases processVideo_clock run.context packet with ⟨shows, clock, shown⟩ | ⟨_, clock, silent⟩
  · cases started : run.context.isStarted with
    | false =>
      -- A frame that is complete before the stream has started is not shown.
      rw [renderFrame_waiting started] at clock shown
      exact held.silent clock shown
    | true =>
      rcases held.video with ⟨unset, none⟩ | ⟨set, last⟩
      · obtain ⟨first, submitted⟩ := renderFrame_first started unset
        refine held.shown (clock.trans first) (shown.trans submitted) ?_
        rw [none]
        exact .first _ _
      · obtain ⟨fits, ahead⟩ := steady started shows.1 shows.2.1 shows.2.2 set
        have positive : 0 < run.context.frameIntervalNs.toNat := by
          refine Nat.pos_of_ne_zero fun zero => ?_
          rw [MakesUpFor, zero, Nat.mul_zero] at ahead
          exact Nat.not_lt_zero _ ahead
        obtain ⟨later, index, next, submitted⟩ := renderFrame_next started set fits positive
        refine held.shown (clock.trans next) (shown.trans submitted) (last.next ?_ ?_)
        · rw [index]
          exact fits
        · have advance : later.toNat - run.context.clock.videoFrameIndex.toNat =
              frameAdvance run.context := by
            have before : run.context.clock.videoFrameIndex = run.context.videoFrameIndex := rfl
            rw [index, before]
            omega
          rw [advance]
          exact ahead
  · exact held.silent clock silent

theorem StreamRun.Held.dropped {timeline : AudioTimeline} (held : run.Held)
    (playing : run.context.audioTimeline.seqSet = true)
    (kept : timeline.seqSet = true ∧ timeline.packetIndex = run.context.audioTimeline.packetIndex)
    (clock : (run.context.process packet).1.clock =
      { run.context.clock with audioTimeline := timeline })
    (silent : (run.context.process packet).2 = []) : (run.step packet).Held := by
  unfold StreamRun.Held StreamRun.step
  simp only [silent, List.filterMap_nil, List.reverse_nil, List.nil_append, List.isEmpty_nil, if_true,
    clock]
  refine ⟨held.started, held.video, .inr ⟨kept.1, ?_⟩⟩
  rcases held.audio with ⟨unset, _⟩ | ⟨_, last⟩
  · exact absurd (unset.symm.trans playing) (by decide)
  · show ClockAt _ _ timeline.packetIndex _
    rw [kept.2]
    exact last

theorem StreamRun.Held.played {timeline : AudioTimeline} {timestamps : List UInt64}
    (held : run.Held) (playing : timeline.seqSet = true)
    (clock : (run.context.process packet).1.clock =
      { run.context.clock with audioTimeline := timeline })
    (shown : (run.context.process packet).2 = timestamps.map Submission.audio)
    (some : timestamps ≠ [])
    (next : ClockAt run.context.streamStartNs (timestamps.reverse ++ run.audioTimestamps)
      timeline.packetIndex (run.context.process packet).1.audioIntervalNs) :
    (run.step packet).Held := by
  have videos : (timestamps.map Submission.audio).filterMap Submission.videoTimestamp? = [] := by
    rw [List.filterMap_map]
    exact List.filterMap_eq_nil_iff.mpr fun _ _ => rfl
  have audios : (timestamps.map Submission.audio).filterMap Submission.audioTimestamp? =
      timestamps := by
    rw [List.filterMap_map]
    exact List.filterMap_some
  have filled : timestamps.isEmpty = false := by simpa using some
  unfold StreamRun.Held StreamRun.step
  simp only [shown, videos, audios, filled, clock]
  exact ⟨held.started, held.video, .inr ⟨playing, next⟩⟩

theorem ensureAudioInterval_clock (context : StreamContext) :
    (c64EnsureAudioInterval context).clock = context.clock := by
  unfold c64EnsureAudioInterval
  split <;> rfl

theorem audioStep_held {packet : AudioPacket} (held : run.Held) (steady : AudioSteady run packet) :
    (run.step (.audio packet)).Held := by
  have same : c64TryInitStreamStartNs run.context packet.timestampNs = run.context := by
    have started : run.context.streamStartSet = true := held.started
    rw [c64TryInitStreamStartNs, if_pos started]
  have processed : run.context.process (.audio packet) = c64ProcessAudioPacket run.context packet := rfl
  unfold c64ProcessAudioPacket at processed
  rw [same] at processed
  by_cases small : packet.isTooSmall = true
  · rw [if_pos small] at processed
    exact held.silent (by rw [processed]) (by rw [processed])
  rw [if_neg small] at processed
  cases started : run.context.isStarted with
  | false =>
    simp only [started, Bool.not_false, if_true] at processed
    exact held.silent (by rw [processed]) (by rw [processed])
  | true =>
    simp only [started, Bool.not_true, Bool.false_eq_true, if_false] at processed
    unfold AudioSteady at steady
    have ready := ensureAudioInterval_clock run.context
    generalize c64EnsureAudioInterval run.context = context at processed steady ready
    have start : context.streamStartNs = run.context.streamStartNs :=
      congrArg StreamClock.streamStartNs ready
    have timeline : context.audioTimeline = run.context.audioTimeline :=
      congrArg StreamClock.audioTimeline ready
    have begun : context.isStarted = true := by
      rw [StreamContext.isStarted, start, show context.streamStartSet = run.context.streamStartSet from
        congrArg StreamClock.streamStartSet ready]
      exact started
    rcases advanced : context.advanceAudio packet with ⟨action, next, out⟩
    simp only [advanced] at processed steady
    have facts : c64AudioTimelineAdvance context.audioTimeline packet.seq
        (context.nowSlot packet.nowNs) ⟨0, 0⟩ = (action, next, out) := advanced
    by_cases dropped : action = .drop
    · subst dropped
      rw [if_pos rfl] at processed
      obtain ⟨playing, kept⟩ := audioAdvance_dropped facts
      rw [timeline] at playing kept
      refine held.dropped playing kept ?_ (by rw [processed])
      rw [processed, ← ready]
      rfl
    · rw [if_neg dropped] at processed
      obtain ⟨playing, index, first⟩ := audioAdvance_accepted facts dropped
      have clock : (run.context.process (.audio packet)).1.clock =
          { run.context.clock with audioTimeline := next } := by
        rw [processed, ← ready]
        rfl
      have interval : (run.context.process (.audio packet)).1.audioIntervalNs =
          context.audioIntervalNs := by rw [processed]; rfl
      have shown : (run.context.process (.audio packet)).2 =
          ((context.playedIndices action out).map fun other =>
            context.streamStartNs + other * context.audioIntervalNs).map .audio := by
        rw [processed, List.map_map]
        rfl
      rcases held.audio with ⟨unset, none⟩ | ⟨set, last⟩
      · -- The first packet is played at the start of the stream.
        obtain ⟨rfl, zero⟩ := first (by rw [timeline]; exact unset)
        refine held.played playing clock shown (by simp [StreamContext.playedIndices]) ?_
        rw [none, interval, index, zero, ← start]
        simp only [StreamContext.playedIndices, zero, reduceCtorEq, false_and, if_false,
          List.map_cons, List.map_nil, List.reverse_singleton, List.append_nil]
        exact .first _ _
      · have large : packet.isTooSmall = false := by simpa using small
        obtain ⟨fits, ahead⟩ := steady begun large (by rw [timeline]; exact set) dropped
        have room : out.gap.toNat ≤ out.index.toNat := by
          by_contra beyond
          rw [MakesUpFor, Nat.sub_eq_zero_of_le (by omega : out.index.toNat ≤ out.gap.toNat),
            Nat.zero_sub, Nat.zero_mul] at ahead
          exact Nat.not_lt_zero _ ahead
        obtain ⟨before, ends, sorted, between⟩ := playedIndices_sorted context action room
        refine held.played playing clock shown ?_ ?_
        · rw [ends]
          simp
        · have clockAt : ClockAt context.streamStartNs run.audioTimestamps
              context.audioTimeline.packetIndex run.audioIntervalNs := by
            rw [start, timeline]
            exact last
          rw [interval, index, ← start]
          exact clockAt.play fits ahead ends sorted between

theorem step_held (held : run.Held) (steady : ClockSteady run packet) : (run.step packet).Held := by
  cases packet with
  | video packet => exact videoStep_held held steady
  | audio packet => exact audioStep_held held steady

theorem StreamRun.start_held {context : StreamContext} (unset : context.streamStartSet = false)
    (packetTimeNs : UInt64) : (StreamRun.start context packetTimeNs).Held := by
  unfold StreamRun.start c64TryInitStreamStartNs
  rw [unset]
  exact ⟨rfl, .inl ⟨rfl, rfl⟩, .inl ⟨rfl, rfl⟩⟩

end Run

section Examples

/-- A source before its stream starts, with the PAL rates that it assumes by default. -/
def freshContext : StreamContext :=
  { streamStartSet := false
    streamStartNs := 0
    bufferDelayMs := 0
    currentFrame := ⟨0, [], 0⟩
    lastCompletedFrame := 0
    formatDetected := false
    detectedFrameHeight := 0
    frameIntervalNs := c64PalFrameIntervalNs
    videoTsFrameNumSet := false
    lastVideoTsFrameNum := 0
    videoFrameIndex := 0
    lastVideoTsNs := 0
    audioSampleRate := .pal
    audioIntervalNs := 0
    audioTimeline := ⟨false, 0, 0, 0, 0, 0, 0, 0⟩
    audioLastSampleSet := false
    lastAudioTsNs := 0 }

/-- A packet of four lines. -/
def fourLines (frameNum lineNumRaw : UInt16) : StreamPacket :=
  .video ⟨c64VideoPacketSize, frameNum, lineNumRaw, 4, fourLines_positive⟩

/-- All packets of a frame, the last one marked. -/
def wholeFrame (frameNum : UInt16) (packetCount : Nat) : List StreamPacket :=
  (List.range packetCount).map fun k =>
    fourLines frameNum (UInt16.ofNat (4 * k) ||| if k + 1 = packetCount then 0x8000 else 0)

/-- Two PAL frames a hundred frames apart, and then an NTSC frame. -/
def formatSwitch : List StreamPacket :=
  wholeFrame 1 68 ++ wholeFrame 101 68 ++ wholeFrame 102 60 ++ [fourLines 103 0]

end Examples

end C64Stream
