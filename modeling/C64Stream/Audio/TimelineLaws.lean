import C64Stream.Audio.Timeline

/-! The audio timeline counts unwrapped packet numbers, whatever the sixteen-bit counter does. -/

namespace C64Stream

/-- The timeline as it would be kept over unbounded packet numbers. -/
structure UnwrappedTimeline where
  first : Int
  top : Int
  skipped : Nat
  duplicates : Nat
  late : Nat

/-- The abstract advance: only a packet above the largest played one is played. -/
def UnwrappedTimeline.advance (timeline : UnwrappedTimeline) (packet : Int) : UnwrappedTimeline :=
  if packet = timeline.top then { timeline with duplicates := timeline.duplicates + 1 }
  else if packet < timeline.top then { timeline with late := timeline.late + 1 }
  else { timeline with
    top := packet
    skipped := timeline.skipped + (packet - timeline.top - 1).toNat }

/-- The fate of a packet under the abstract advance, with the outputs the caller then holds. -/
def UnwrappedTimeline.outcome (timeline : UnwrappedTimeline) (packet : Int)
    (out : AudioAdvanceOut) : AudioOutcome :=
  if packet ≤ timeline.top then ⟨packet, .drop, out.index, out.gap⟩
  else if packet = timeline.top + 1 then ⟨packet, .play, UInt64.ofInt (packet - timeline.first), 0⟩
  else ⟨packet, .conceal, UInt64.ofInt (packet - timeline.first),
    UInt32.ofNat (packet - timeline.top - 1).toNat⟩

/-- The machine state that stands for an abstract timeline. -/
def UnwrappedTimeline.wrap (timeline : UnwrappedTimeline) : AudioTimeline :=
  { seqSet := true
    lastSeq := UInt16.ofInt timeline.top
    packetIndex := UInt64.ofInt (timeline.top - timeline.first)
    packetsLost := UInt64.ofNat timeline.skipped
    concealed := UInt64.ofNat timeline.skipped
    lateDropped := UInt64.ofNat timeline.late
    duplicates := UInt64.ofNat timeline.duplicates
    resyncs := 0 }

/-- Every arrival lies near the largest packet seen before it. -/
def NearTop : Int → List AudioArrival → Prop
  -- The window is open below, since a jump of exactly the threshold already counts as a restart.
  | _, [] => True
  | top, arrival :: rest =>
    -250 < arrival.packet - top ∧ arrival.packet - top ≤ 1251 ∧
      NearTop (max top arrival.packet) rest

theorem gap_toNat {count : Nat} (small : count < 2 ^ 32) : (UInt32.ofNat count).toNat = count := by
  simp only [UInt32.toNat_ofNat']
  omega

theorem ofInt_gap {delta : Int} (positive : 1 ≤ delta) (small : delta ≤ 1251) :
    UInt32.ofInt delta - 1 = UInt32.ofNat (delta - 1).toNat := by
  -- Both sides are the residue of the same small number.
  obtain ⟨count, rfl⟩ : ∃ count : Nat, delta = count + 1 := ⟨(delta - 1).toNat, by omega⟩
  have whole : UInt32.ofInt ((count : Int) + 1) = UInt32.ofNat count + 1 := by
    rw [← UInt32.toNat_inj]
    simp only [UInt32.ofInt, UInt32.toNat_add, UInt32.toNat_ofNat', UInt32.reduceToNat]
    omega
  rw [whole]
  simp

theorem advance_wrap (timeline : UnwrappedTimeline) (packet : Int) (nowSlot : UInt64)
    (out : AudioAdvanceOut) (above : -250 < packet - timeline.top)
    (below : packet - timeline.top ≤ 1251) :
    c64AudioTimelineAdvance timeline.wrap (UInt16.ofInt packet) nowSlot out =
      ((timeline.outcome packet out).action, (timeline.advance packet).wrap,
        ⟨(timeline.outcome packet out).index, (timeline.outcome packet out).gap⟩) := by
  -- The window makes the wrapped difference the true one, so the four outcomes are decided by it.
  have delta : int16 (UInt16.ofInt packet - UInt16.ofInt timeline.top) = packet - timeline.top :=
    int16_ofInt_sub (by omega) (by omega)
  unfold c64AudioTimelineAdvance
  simp only [UnwrappedTimeline.wrap, delta, Bool.not_true, Bool.false_eq_true, if_false,
    audioResyncThreshold, audioWavFillMaxPackets]
  rcases lt_trichotomy packet timeline.top with late | same | ahead
  · -- An older packet is counted as late.
    rw [if_neg (by omega), if_pos (by omega), if_neg (by omega)]
    simp only [UnwrappedTimeline.outcome, UnwrappedTimeline.advance,
      if_neg (show ¬ packet = timeline.top by omega), if_pos late, if_pos (le_of_lt late),
      UInt64.ofNat_add]
    rfl
  · -- A repeated packet is counted as a duplicate.
    rw [if_neg (by omega), if_pos (by omega), if_pos (by omega)]
    simp only [UnwrappedTimeline.outcome, UnwrappedTimeline.advance, if_pos same,
      if_pos (le_of_eq same), UInt64.ofNat_add]
    rfl
  · by_cases next : packet = timeline.top + 1
    · -- The direct successor is played at the next index.
      rw [if_pos (by omega)]
      have index : UInt64.ofInt (timeline.top - timeline.first) + 1
          = UInt64.ofInt (packet - timeline.first) := by
        have one : (1 : UInt64) = UInt64.ofInt 1 := rfl
        rw [one, ← UInt64.ofInt_add, next]
        congr 1
        omega
      simp only [UnwrappedTimeline.outcome, UnwrappedTimeline.advance, index,
        if_neg (show ¬ packet = timeline.top by omega),
        if_neg (show ¬ packet < timeline.top by omega),
        if_neg (show ¬ packet ≤ timeline.top by omega), if_pos next,
        show (packet - timeline.top - 1).toNat = 0 by omega, Nat.add_zero]
    · -- A gap within the fill cap is concealed.
      have cap : UInt32.ofInt (packet - timeline.top - 1) ≤ 1250 := by
        rw [UInt32.le_iff_toNat_le]
        simp only [UInt32.ofInt, UInt32.toNat_ofNat', UInt32.reduceToNat]
        omega
      rw [if_neg (by omega), if_neg (by omega), if_pos ⟨by omega, cap⟩]
      have gap : UInt32.ofInt (packet - timeline.top) - 1 = _ := ofInt_gap (by omega) below
      have index : UInt64.ofInt (timeline.top - timeline.first)
          + UInt64.ofInt (packet - timeline.top) = UInt64.ofInt (packet - timeline.first) := by
        rw [← UInt64.ofInt_add]
        congr 1
        omega
      have widened : (UInt32.ofNat (packet - timeline.top - 1).toNat).toUInt64
          = UInt64.ofNat (packet - timeline.top - 1).toNat := by
        rw [← UInt64.toNat_inj]
        simp only [UInt32.toNat_toUInt64, UInt32.toNat_ofNat', UInt64.toNat_ofNat']
        omega
      simp only [UnwrappedTimeline.outcome, UnwrappedTimeline.advance, index, gap, widened,
        if_neg (show ¬ packet = timeline.top by omega),
        if_neg (show ¬ packet < timeline.top by omega),
        if_neg (show ¬ packet ≤ timeline.top by omega), if_neg next, UInt64.ofNat_add]

/-- The abstract run, threading the outputs the caller holds. -/
def UnwrappedTimeline.run (timeline : UnwrappedTimeline) (out : AudioAdvanceOut) :
    List AudioArrival → UnwrappedTimeline × List AudioOutcome
  | [] => (timeline, [])
  | arrival :: rest =>
    let outcome := timeline.outcome arrival.packet out
    let (final, outcomes) :=
      (timeline.advance arrival.packet).run ⟨outcome.index, outcome.gap⟩ rest
    (final, outcome :: outcomes)

@[simp] theorem UnwrappedTimeline.advance_top (timeline : UnwrappedTimeline) (packet : Int) :
    (timeline.advance packet).top = max timeline.top packet := by
  unfold UnwrappedTimeline.advance
  split_ifs <;> simp <;> omega

@[simp] theorem UnwrappedTimeline.advance_first (timeline : UnwrappedTimeline) (packet : Int) :
    (timeline.advance packet).first = timeline.first := by
  unfold UnwrappedTimeline.advance
  split_ifs <;> rfl

@[simp] theorem UnwrappedTimeline.outcome_packet (timeline : UnwrappedTimeline) (packet : Int)
    (out : AudioAdvanceOut) : (timeline.outcome packet out).packet = packet := by
  unfold UnwrappedTimeline.outcome
  split_ifs <;> rfl

theorem UnwrappedTimeline.outcome_eta (timeline : UnwrappedTimeline) (packet : Int)
    (out : AudioAdvanceOut) :
    (⟨packet, (timeline.outcome packet out).action, (timeline.outcome packet out).index,
      (timeline.outcome packet out).gap⟩ : AudioOutcome) = timeline.outcome packet out := by
  -- Every branch writes the packet it was given.
  unfold UnwrappedTimeline.outcome
  split_ifs <;> rfl

theorem advanceAudioTimeline_wrap (timeline : UnwrappedTimeline) (out : AudioAdvanceOut)
    (arrivals : List AudioArrival) (near : NearTop timeline.top arrivals) :
    advanceAudioTimeline timeline.wrap out arrivals =
      ((timeline.run out arrivals).1.wrap, (timeline.run out arrivals).2) := by
  -- Each step is the step lemma, and the window moves with the largest packet.
  induction arrivals generalizing timeline out with
  | nil => rfl
  | cons arrival rest ih =>
    obtain ⟨above, below, following⟩ := near
    have step := advance_wrap timeline arrival.packet arrival.nowSlot out above below
    have tail := ih (timeline.advance arrival.packet)
      ⟨(timeline.outcome arrival.packet out).index, (timeline.outcome arrival.packet out).gap⟩
      (by simpa using following)
    simp only [advanceAudioTimeline, step, tail, UnwrappedTimeline.run,
      UnwrappedTimeline.outcome_eta]

theorem UnwrappedTimeline.outcome_drop (timeline : UnwrappedTimeline) (packet : Int)
    (out : AudioAdvanceOut) :
    (timeline.outcome packet out).action = .drop ↔ packet ≤ timeline.top := by
  unfold UnwrappedTimeline.outcome
  split_ifs <;> simp_all

theorem UnwrappedTimeline.run_resync (timeline : UnwrappedTimeline) (out : AudioAdvanceOut)
    (arrivals : List AudioArrival) :
    ∀ outcome ∈ (timeline.run out arrivals).2, outcome.action ≠ .resync := by
  -- None of the three abstract outcomes is a resynchronization.
  induction arrivals generalizing timeline out with
  | nil => simp [UnwrappedTimeline.run]
  | cons arrival rest ih =>
    intro outcome member
    simp only [UnwrappedTimeline.run, List.mem_cons] at member
    rcases member with rfl | later
    · unfold UnwrappedTimeline.outcome
      split_ifs <;> simp
    · exact ih _ _ outcome later

theorem UnwrappedTimeline.run_length (timeline : UnwrappedTimeline) (out : AudioAdvanceOut)
    (arrivals : List AudioArrival) :
    (timeline.run out arrivals).2.length = arrivals.length := by
  induction arrivals generalizing timeline out with
  | nil => rfl
  | cons arrival rest ih => simp [UnwrappedTimeline.run, ih]

theorem exists_earlier_cons (first : AudioArrival) (rest : List AudioArrival) (i : Nat)
    (arrival : AudioArrival) :
    (arrival.packet ≤ first.packet ∨
      ∃ j earlier, j < i ∧ rest[j]? = some earlier ∧ arrival.packet ≤ earlier.packet) ↔
    ∃ (j : Nat) (earlier : AudioArrival), j < i + 1 ∧ (first :: rest)[j]? = some earlier ∧
      arrival.packet ≤ earlier.packet := by
  -- Position zero is the head, and every other position is one of the tail.
  constructor
  · rintro (low | ⟨j, earlier, before, stored, low⟩)
    · exact ⟨0, first, by omega, rfl, low⟩
    · exact ⟨j + 1, earlier, by omega, stored, low⟩
  · rintro ⟨j, earlier, before, stored, low⟩
    cases j with
    | zero =>
      simp only [List.getElem?_cons_zero, Option.some.injEq] at stored
      exact .inl (stored ▸ low)
    | succ j => exact .inr ⟨j, earlier, by omega, stored, low⟩

theorem UnwrappedTimeline.run_drop (timeline : UnwrappedTimeline) (out : AudioAdvanceOut)
    (arrivals : List AudioArrival) (i : Nat) (outcome : AudioOutcome) (arrival : AudioArrival)
    (reached : (timeline.run out arrivals).2[i]? = some outcome)
    (arrived : arrivals[i]? = some arrival) :
    outcome.packet = arrival.packet ∧
      (outcome.action = .drop ↔ arrival.packet ≤ timeline.top ∨
        ∃ j earlier, j < i ∧ arrivals[j]? = some earlier ∧ arrival.packet ≤ earlier.packet) := by
  -- The induction moves the head of the list into the top.
  induction arrivals generalizing timeline out i with
  | nil => simp at arrived
  | cons head rest ih =>
    cases i with
    | zero =>
      simp only [UnwrappedTimeline.run, List.getElem?_cons_zero, Option.some.injEq] at reached arrived
      subst reached arrived
      simp [UnwrappedTimeline.outcome_drop]
    | succ i =>
      simp only [UnwrappedTimeline.run, List.getElem?_cons_succ] at reached arrived
      obtain ⟨named, dropped⟩ := ih _ _ i reached arrived
      refine ⟨named, dropped.trans ?_⟩
      simp only [UnwrappedTimeline.advance_top, le_max_iff, or_assoc]
      exact or_congr_right (exists_earlier_cons head rest i arrival)

theorem UnwrappedTimeline.run_index (timeline : UnwrappedTimeline) (out : AudioAdvanceOut)
    (arrivals : List AudioArrival) :
    ∀ outcome ∈ (timeline.run out arrivals).2, outcome.action ≠ .drop →
      outcome.index = UInt64.ofInt (outcome.packet - timeline.first) := by
  -- The index is written from the packet itself, and the first packet never changes.
  induction arrivals generalizing timeline out with
  | nil => simp [UnwrappedTimeline.run]
  | cons arrival rest ih =>
    intro outcome member played
    simp only [UnwrappedTimeline.run, List.mem_cons] at member
    rcases member with rfl | later
    · unfold UnwrappedTimeline.outcome at played ⊢
      split_ifs at played ⊢ <;> simp_all
    · simpa using ih _ _ outcome later played

/-- The packets that were played, in order. -/
def playedPackets (outcomes : List AudioOutcome) : List Int :=
  (outcomes.filter (fun outcome => outcome.action ≠ .drop)).map (·.packet)

theorem playedPackets_cons (outcome : AudioOutcome) (rest : List AudioOutcome) :
    playedPackets (outcome :: rest) =
      if outcome.action = .drop then playedPackets rest
      else outcome.packet :: playedPackets rest := by
  unfold playedPackets
  by_cases dropped : outcome.action = .drop <;> simp [dropped]

/-- The number of packets one outcome conceals. -/
def AudioOutcome.concealedCount (outcome : AudioOutcome) : Nat :=
  if outcome.action = .conceal then outcome.gap.toNat else 0

/-- The largest packet of a sequence that starts with `top`. -/
def largestPacket (top : Int) : List AudioArrival → Int
  | [] => top
  | arrival :: rest => largestPacket (max top arrival.packet) rest

/-- The arrivals that stand in a given relation to the largest packet before them. -/
def countAgainstLargest (test : Int → Int → Bool) (top : Int) : List AudioArrival → Nat
  | [] => 0
  | arrival :: rest =>
    (if test arrival.packet top then 1 else 0) +
      countAgainstLargest test (max top arrival.packet) rest

theorem le_largestPacket (top : Int) (arrivals : List AudioArrival) :
    top ≤ largestPacket top arrivals := by
  induction arrivals generalizing top with
  | nil => simp [largestPacket]
  | cons arrival rest ih => exact le_trans (le_max_left _ _) (ih _)

theorem UnwrappedTimeline.run_duplicates (timeline : UnwrappedTimeline) (out : AudioAdvanceOut)
    (arrivals : List AudioArrival) :
    (timeline.run out arrivals).1.duplicates =
      timeline.duplicates + countAgainstLargest (fun packet top => packet = top) timeline.top arrivals := by
  induction arrivals generalizing timeline out with
  | nil => rfl
  | cons arrival rest ih =>
    simp only [UnwrappedTimeline.run, countAgainstLargest, ih, UnwrappedTimeline.advance_top]
    unfold UnwrappedTimeline.advance
    split_ifs <;> simp_all
    omega

theorem UnwrappedTimeline.run_late (timeline : UnwrappedTimeline) (out : AudioAdvanceOut)
    (arrivals : List AudioArrival) :
    (timeline.run out arrivals).1.late =
      timeline.late + countAgainstLargest (fun packet top => packet < top) timeline.top arrivals := by
  induction arrivals generalizing timeline out with
  | nil => rfl
  | cons arrival rest ih =>
    simp only [UnwrappedTimeline.run, countAgainstLargest, ih, UnwrappedTimeline.advance_top]
    unfold UnwrappedTimeline.advance
    split_ifs <;> simp_all <;> omega

theorem widen_gap {gap : Nat} (small : gap < 2 ^ 32) :
    (UInt32.ofNat gap).toUInt64 = UInt64.ofInt gap := by
  rw [← UInt64.toNat_inj]
  simp only [UInt32.toNat_toUInt64, UInt32.toNat_ofNat', UInt64.ofInt, UInt64.toNat_ofNat']
  omega

theorem ofNat_eq_ofInt (n : Nat) : UInt64.ofNat n = UInt64.ofInt n := by
  rw [← UInt64.toNat_inj]
  simp only [UInt64.ofInt, UInt64.toNat_ofNat']
  omega

theorem UnwrappedTimeline.outcome_filled (timeline : UnwrappedTimeline) (packet : Int)
    (out : AudioAdvanceOut) (below : packet - timeline.top ≤ 1251) :
    (timeline.outcome packet out).filledIndices =
      (List.range (packet - timeline.top).toNat).map
        (fun k : Nat => UInt64.ofInt (timeline.top - timeline.first + 1 + k)) := by
  -- A played packet closes its own gap, so the two parts join into one interval.
  unfold UnwrappedTimeline.outcome AudioOutcome.filledIndices
  split_ifs with dropped next
  · simp [show (packet - timeline.top).toNat = 0 by omega]
  · subst next
    have one : (timeline.top + 1 - timeline.top).toNat = 1 := by omega
    have index : timeline.top + 1 - timeline.first = timeline.top - timeline.first + 1 := by omega
    simp only [one, index, List.range_succ, List.range_zero]
    simp
    rfl
  · obtain ⟨gap, rfl⟩ : ∃ gap : Nat, packet = timeline.top + 1 + gap :=
      ⟨(packet - timeline.top - 1).toNat, by omega⟩
    have small : gap < 2 ^ 32 := by omega
    have count : (timeline.top + 1 + (gap : Int) - timeline.top - 1).toNat = gap := by omega
    have total : (timeline.top + 1 + (gap : Int) - timeline.top).toNat = gap + 1 := by omega
    -- Stepping back over the gap lands on the index after the old top.
    have filled : ∀ k : Nat,
        UInt64.ofInt (timeline.top + 1 + gap - timeline.first) - UInt64.ofInt gap + UInt64.ofNat k
          = UInt64.ofInt (timeline.top - timeline.first + 1 + k) := by
      intro k
      rw [ofNat_eq_ofInt, UInt64.sub_eq_add_neg, ← UInt64.ofInt_neg, ← UInt64.ofInt_add,
        ← UInt64.ofInt_add]
      congr 1
      omega
    have last : timeline.top + 1 + (gap : Int) - timeline.first
        = timeline.top - timeline.first + 1 + gap := by omega
    simp only [count, total, gap_toNat small, widen_gap small, filled, List.range_succ (n := gap)]
    rw [last]
    simp

theorem UnwrappedTimeline.run_filled (timeline : UnwrappedTimeline) (out : AudioAdvanceOut)
    (arrivals : List AudioArrival) (near : NearTop timeline.top arrivals) :
    (timeline.run out arrivals).2.flatMap AudioOutcome.filledIndices =
      (List.range (largestPacket timeline.top arrivals - timeline.top).toNat).map
        (fun k : Nat => UInt64.ofInt (timeline.top - timeline.first + 1 + k)) := by
  -- The head fills the interval up to the new top, and the rest continues from there.
  induction arrivals generalizing timeline out with
  | nil => simp [UnwrappedTimeline.run, largestPacket]
  | cons arrival rest ih =>
    obtain ⟨_, below, following⟩ := near
    have grown := le_largestPacket (max timeline.top arrival.packet) rest
    have tail := ih (timeline.advance arrival.packet)
      ⟨(timeline.outcome arrival.packet out).index, (timeline.outcome arrival.packet out).gap⟩
      (by simpa using following)
    simp only [UnwrappedTimeline.run, List.flatMap_cons, tail, largestPacket,
      timeline.outcome_filled arrival.packet out below, UnwrappedTimeline.advance_top,
      UnwrappedTimeline.advance_first]
    generalize largestPacket (max timeline.top arrival.packet) rest = final at grown ⊢
    have total : (final - timeline.top).toNat = (arrival.packet - timeline.top).toNat
        + (final - max timeline.top arrival.packet).toNat := by omega
    rw [total, List.range_add, List.map_append, List.map_map]
    congr 1
    apply List.map_congr_left
    intro k _
    simp only [Function.comp]
    congr 1
    push_cast
    omega

theorem UnwrappedTimeline.advance_skipped (timeline : UnwrappedTimeline) (packet : Int)
    (out : AudioAdvanceOut) (below : packet - timeline.top ≤ 1251) :
    (timeline.advance packet).skipped =
      timeline.skipped + (timeline.outcome packet out).concealedCount := by
  unfold UnwrappedTimeline.advance UnwrappedTimeline.outcome AudioOutcome.concealedCount
  rcases lt_trichotomy packet timeline.top with late | same | ahead
  · simp [late, late.ne, le_of_lt late]
  · simp [same]
  · by_cases next : packet = timeline.top + 1
    · simp [next]
    · have small : (packet - timeline.top - 1).toNat < 2 ^ 32 := by omega
      simp only [if_neg ahead.ne', if_neg ahead.asymm, if_neg (not_le.mpr ahead), if_neg next,
        if_true, gap_toNat small]

theorem UnwrappedTimeline.run_concealed (timeline : UnwrappedTimeline) (out : AudioAdvanceOut)
    (arrivals : List AudioArrival) (near : NearTop timeline.top arrivals) :
    (timeline.run out arrivals).1.skipped =
      timeline.skipped + ((timeline.run out arrivals).2.map AudioOutcome.concealedCount).sum := by
  -- Each advance adds exactly the gap its outcome reports.
  induction arrivals generalizing timeline out with
  | nil => rfl
  | cons arrival rest ih =>
    obtain ⟨_, below, following⟩ := near
    simp only [UnwrappedTimeline.run, List.map_cons, List.sum_cons]
    rw [ih _ _ (by simpa using following), timeline.advance_skipped arrival.packet out below]
    omega

theorem UnwrappedTimeline.run_played (timeline : UnwrappedTimeline) (out : AudioAdvanceOut)
    (arrivals : List AudioArrival) :
    (playedPackets (timeline.run out arrivals).2).Pairwise (· < ·) ∧
      ∀ packet ∈ playedPackets (timeline.run out arrivals).2,
        timeline.top < packet ∧ packet ≤ largestPacket timeline.top arrivals := by
  -- A played head becomes the top that every later played packet has to pass.
  induction arrivals generalizing timeline out with
  | nil => simp [UnwrappedTimeline.run, playedPackets]
  | cons arrival rest ih =>
    obtain ⟨sorted, within⟩ := ih (timeline.advance arrival.packet)
      ⟨(timeline.outcome arrival.packet out).index, (timeline.outcome arrival.packet out).gap⟩
    have grown := le_largestPacket (max timeline.top arrival.packet) rest
    simp only [UnwrappedTimeline.advance_top] at within
    simp only [UnwrappedTimeline.run, playedPackets_cons, timeline.outcome_drop,
      UnwrappedTimeline.outcome_packet, largestPacket]
    by_cases low : arrival.packet ≤ timeline.top
    · rw [if_pos low]
      refine ⟨sorted, fun packet member => ?_⟩
      have bounds := within packet member
      omega
    · rw [if_neg low, List.pairwise_cons]
      refine ⟨⟨fun packet member => ?_, sorted⟩, fun packet member => ?_⟩
      · have bounds := within packet member
        omega
      · rcases List.mem_cons.mp member with rfl | later
        · omega
        · have bounds := within packet later
          omega

theorem UnwrappedTimeline.run_skipped (timeline : UnwrappedTimeline) (out : AudioAdvanceOut)
    (arrivals : List AudioArrival) :
    (timeline.run out arrivals).1.skipped + (playedPackets (timeline.run out arrivals).2).length =
      timeline.skipped + (largestPacket timeline.top arrivals - timeline.top).toNat := by
  -- A played packet accounts for itself, and the gap before it for the rest of the distance.
  induction arrivals generalizing timeline out with
  | nil => simp [UnwrappedTimeline.run, playedPackets, largestPacket]
  | cons arrival rest ih =>
    have tail := ih (timeline.advance arrival.packet)
      ⟨(timeline.outcome arrival.packet out).index, (timeline.outcome arrival.packet out).gap⟩
    have grown := le_largestPacket (max timeline.top arrival.packet) rest
    have gained : (timeline.advance arrival.packet).skipped =
        timeline.skipped + (arrival.packet - timeline.top - 1).toNat := by
      unfold UnwrappedTimeline.advance
      split_ifs <;> simp <;> omega
    simp only [UnwrappedTimeline.advance_top] at tail
    simp only [UnwrappedTimeline.run, playedPackets_cons, timeline.outcome_drop, largestPacket]
    by_cases low : arrival.packet ≤ timeline.top
    · rw [if_pos low]
      omega
    · rw [if_neg low, List.length_cons]
      omega

theorem UnwrappedTimeline.run_unplayed (timeline : UnwrappedTimeline) (out : AudioAdvanceOut)
    (arrivals : List AudioArrival) (fresh : timeline.skipped = 0) :
    (timeline.run out arrivals).1.skipped =
      (Finset.Ioc timeline.top (largestPacket timeline.top arrivals) \
        (playedPackets (timeline.run out arrivals).2).toFinset).card := by
  -- The played packets are distinct members of the range, so the rest are the skipped ones.
  obtain ⟨sorted, within⟩ := timeline.run_played out arrivals
  have total := timeline.run_skipped out arrivals
  have distinct : (playedPackets (timeline.run out arrivals).2).Nodup :=
    sorted.imp (fun less => ne_of_lt less)
  have inside : (playedPackets (timeline.run out arrivals).2).toFinset ⊆
      Finset.Ioc timeline.top (largestPacket timeline.top arrivals) := by
    intro packet member
    simpa using within packet (by simpa using member)
  rw [Finset.card_sdiff_of_subset inside, List.toFinset_card_of_nodup distinct, Int.card_Ioc]
  omega

/-- The timeline right after its first packet. -/
def UnwrappedTimeline.start (packet : Int) : UnwrappedTimeline :=
  { first := packet, top := packet, skipped := 0, duplicates := 0, late := 0 }

theorem advance_reset (tl : AudioTimeline) (packet : Int) (nowSlot : UInt64) (out : AudioAdvanceOut) :
    c64AudioTimelineAdvance (c64AudioTimelineReset tl) (UInt16.ofInt packet) nowSlot out =
      (.play, (UnwrappedTimeline.start packet).wrap, { index := 0, gap := 0 }) := by
  simp only [c64AudioTimelineAdvance, c64AudioTimelineReset, UnwrappedTimeline.wrap,
    UnwrappedTimeline.start, sub_self]
  rfl

theorem advanceAudioTimeline_reset (tl : AudioTimeline) (out : AudioAdvanceOut)
    (first : AudioArrival) (rest : List AudioArrival) (near : NearTop first.packet rest) :
    advanceAudioTimeline (c64AudioTimelineReset tl) out (first :: rest) =
      let run := (UnwrappedTimeline.start first.packet).run { index := 0, gap := 0 } rest
      (run.1.wrap, ⟨first.packet, .play, 0, 0⟩ :: run.2) := by
  simp only [advanceAudioTimeline, advance_reset]
  rw [advanceAudioTimeline_wrap (UnwrappedTimeline.start first.packet) _ rest near]

/--
A reset timeline counts unbounded packet numbers.

Indices and counters are sixty-four-bit words, so every equation below is one between such words.
-/
theorem audioTimeline_unwrapped (tl : AudioTimeline) (out : AudioAdvanceOut)
    (first : AudioArrival) (rest : List AudioArrival) (near : NearTop first.packet rest) :
    let arrivals := first :: rest
    let top := largestPacket first.packet rest
    let final := (advanceAudioTimeline (c64AudioTimelineReset tl) out arrivals).1
    let outcomes := (advanceAudioTimeline (c64AudioTimelineReset tl) out arrivals).2
    (outcomes.length = arrivals.length ∧ ∀ outcome ∈ outcomes, outcome.action ≠ .resync) ∧
    (∀ (i : Nat) outcome arrival, outcomes[i]? = some outcome → arrivals[i]? = some arrival →
      outcome.packet = arrival.packet ∧
        (outcome.action = .drop ↔
          ∃ (j : Nat) (earlier : AudioArrival), j < i ∧ arrivals[j]? = some earlier ∧
            arrival.packet ≤ earlier.packet)) ∧
    (∀ outcome ∈ outcomes, outcome.action ≠ .drop →
      outcome.index = UInt64.ofInt (outcome.packet - first.packet)) ∧
    outcomes.flatMap AudioOutcome.filledIndices =
      (List.range (top - first.packet + 1).toNat).map UInt64.ofNat ∧
    final.packetsLost =
      UInt64.ofNat (Finset.Icc first.packet top \ (playedPackets outcomes).toFinset).card ∧
    final.concealed = UInt64.ofNat (outcomes.map AudioOutcome.concealedCount).sum ∧
    final.duplicates =
      UInt64.ofNat (countAgainstLargest (fun packet largest => packet = largest) first.packet rest) ∧
    final.lateDropped =
      UInt64.ofNat (countAgainstLargest (fun packet largest => packet < largest) first.packet rest) ∧
    final.resyncs = 0 := by
  -- The first packet is played at index zero; everything after it is the abstract run.
  dsimp only
  rw [advanceAudioTimeline_reset tl out first rest near]
  dsimp only
  generalize started : UnwrappedTimeline.start first.packet = timeline
  have top_eq : timeline.top = first.packet := by rw [← started]; rfl
  have first_eq : timeline.first = first.packet := by rw [← started]; rfl
  have fresh : timeline.skipped = 0 := by rw [← started]; rfl
  have noDuplicates : timeline.duplicates = 0 := by rw [← started]; rfl
  have noLate : timeline.late = 0 := by rw [← started]; rfl
  have grown := le_largestPacket first.packet rest
  generalize opened : (⟨0, 0⟩ : AudioAdvanceOut) = written
  refine ⟨⟨?_, ?_⟩, ?_, ?_, ?_, ?_, ?_, ?_, ?_, rfl⟩
  · simp [timeline.run_length]
  · intro outcome member
    rcases List.mem_cons.mp member with rfl | later
    · simp
    · exact timeline.run_resync written rest outcome later
  · intro i outcome arrival reached arrived
    cases i with
    | zero =>
      simp only [List.getElem?_cons_zero, Option.some.injEq] at reached arrived
      subst reached arrived
      simp
    | succ i =>
      obtain ⟨named, dropped⟩ := timeline.run_drop written rest i outcome arrival reached arrived
      exact ⟨named, dropped.trans (by rw [top_eq]; exact exists_earlier_cons first rest i arrival)⟩
  · intro outcome member played
    rcases List.mem_cons.mp member with rfl | later
    · simp; rfl
    · rw [← first_eq]
      exact timeline.run_index written rest outcome later played
  · have tail := timeline.run_filled written rest (by rw [top_eq]; exact near)
    rw [top_eq, first_eq] at tail
    have split : (largestPacket first.packet rest - first.packet + 1).toNat
        = 1 + (largestPacket first.packet rest - first.packet).toNat := by omega
    simp only [List.flatMap_cons, tail, split, List.range_add, List.map_append, List.map_map]
    congr 1
    apply List.map_congr_left
    intro k _
    simp only [Function.comp, ofNat_eq_ofInt]
    congr 1
    push_cast
    omega
  · show UInt64.ofNat _ = _
    rw [timeline.run_unplayed written rest fresh, top_eq]
    congr 2
    ext packet
    simp only [Finset.mem_sdiff, Finset.mem_Ioc, Finset.mem_Icc, List.mem_toFinset,
      playedPackets_cons]
    constructor
    · rintro ⟨⟨above, below⟩, unplayed⟩
      exact ⟨⟨le_of_lt above, below⟩, by simp [above.ne', unplayed]⟩
    · rintro ⟨⟨above, below⟩, unplayed⟩
      simp only [reduceCtorEq, if_false, List.mem_cons, not_or] at unplayed
      exact ⟨⟨lt_of_le_of_ne above (Ne.symm unplayed.1), below⟩, unplayed.2⟩
  · show UInt64.ofNat _ = _
    rw [timeline.run_concealed written rest (by rw [top_eq]; exact near), fresh]
    simp [AudioOutcome.concealedCount]
  · show UInt64.ofNat _ = _
    rw [timeline.run_duplicates, noDuplicates, top_eq, Nat.zero_add]
  · show UInt64.ofNat _ = _
    rw [timeline.run_late, noLate, top_eq, Nat.zero_add]

/-- Across a wrap, with a gap, a late packet and a duplicate, the indices are still consecutive. -/
theorem audioTimeline_unwrapped_wrap :
    (advanceAudioTimeline (c64AudioTimelineReset ⟨true, 7, 3, 1, 1, 1, 1, 1⟩) ⟨9, 9⟩
      [⟨65534, 0⟩, ⟨65535, 0⟩, ⟨65536, 0⟩, ⟨65539, 0⟩, ⟨65538, 0⟩, ⟨65539, 0⟩, ⟨65540, 0⟩]).2.flatMap
        AudioOutcome.filledIndices = [0, 1, 2, 3, 4, 5, 6] :=
  (audioTimeline_unwrapped ⟨true, 7, 3, 1, 1, 1, 1, 1⟩ ⟨9, 9⟩ ⟨65534, 0⟩
    [⟨65535, 0⟩, ⟨65536, 0⟩, ⟨65539, 0⟩, ⟨65538, 0⟩, ⟨65539, 0⟩, ⟨65540, 0⟩]
    (by simp [NearTop])).2.2.2.1.trans (by decide)

end C64Stream
