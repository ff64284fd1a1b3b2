import C64Stream.Stream.FramePictures
import Mathlib.Data.List.SplitBy

/-! Stragglers: what packets of other frames do to the frame in progress. -/

namespace C64Stream

section Stretches

/-- The longest stretches of packets that belong to one frame. -/
def stretches (packets : List PayloadPacket) : List (List PayloadPacket) :=
  packets.splitBy fun packet next => packet.frameNum == next.frameNum

/-- The number of the frame of a stretch. -/
def numberOf (stretch : List PayloadPacket) : Option UInt16 :=
  stretch.head?.map fun packet => packet.frameNum

instance (packets : List VideoPacket) : Decidable (CountsItsLast packets) :=
  match found : packets.find? VideoPacket.isLast with
  | none => isFalse fun ⟨_, first, _⟩ => by
    rw [found] at first
    cases first
  | some last =>
    decidable_of_iff (last.packetIndex < (placesOf packets).card)
      ⟨fun counted => ⟨last, found, counted⟩, fun ⟨other, first, counted⟩ => by
        obtain rfl := Option.some.inj (found.symm.trans first)
        exact counted⟩

/-- A stretch has packets enough for its frame to be complete. -/
def Completes (stretch : List PayloadPacket) : Prop :=
  CountsItsLast (stretch.map PayloadPacket.toVideoPacket)

instance (stretch : List PayloadPacket) : Decidable (Completes stretch) :=
  inferInstanceAs (Decidable (CountsItsLast _))

/-- The last stretch completes a frame, and no stretch of that frame before it does. -/
def OnlyLastCompletes (frameNum : UInt16) (stretches : List (List PayloadPacket)) : Prop :=
  ∃ earlier last, stretches = earlier ++ [last] ∧ numberOf last = some frameNum ∧
    Completes last ∧ ∀ stretch ∈ earlier, numberOf stretch = some frameNum → ¬ Completes stretch

/-- The stretches from the first one on that completes another frame. -/
def fromOtherFrame (frameNum : UInt16) (stretches : List (List PayloadPacket)) :
    List (List PayloadPacket) :=
  stretches.dropWhile fun stretch =>
    decide ¬ (numberOf stretch ≠ some frameNum ∧ Completes stretch)

/-- Of the stretches of packets that come before those of a newer frame, only the last one completes
the frame; if it was rendered before, another frame is completed first. -/
def KeepsFrame (context : StreamContext) (frameNum : UInt16) (packets : List PayloadPacket) :
    Prop :=
  (context.notRenderedYet frameNum → OnlyLastCompletes frameNum (stretches packets)) ∧
    (¬ context.notRenderedYet frameNum →
      OnlyLastCompletes frameNum (fromOtherFrame frameNum (stretches packets)))

/-- The frames that stretches let be rendered, each with the stretch behind it. -/
def completions (last : UInt16) (stretches : List (List PayloadPacket)) : List UInt16 :=
  match stretches with
  | [] => []
  | stretch :: rest =>
    match numberOf stretch with
    | some number =>
      if Completes stretch ∧ last ≠ number then number :: completions number rest
      else completions last rest
    | none => completions last rest

/-- A stretch of packets of the size of video packets. -/
structure StretchOf (frameNum : UInt16) (stretch : List PayloadPacket) : Prop where
  some : stretch ≠ []
  each : ∀ packet ∈ stretch, packet.size = c64VideoPacketSize ∧ packet.frameNum = frameNum

end Stretches

section Splitting

variable {packets stretch : List PayloadPacket}

theorem stretches_uniform (sized : ∀ packet ∈ packets, packet.size = c64VideoPacketSize)
    (member : stretch ∈ stretches packets) :
    ∃ number, numberOf stretch = some number ∧ StretchOf number stretch := by
  have some := List.ne_nil_of_mem_splitBy member
  have chain := List.isChain_of_mem_splitBy member
  have inside : ∀ packet ∈ stretch, packet ∈ packets := by
    intro packet among
    rw [← List.flatten_splitBy (fun packet next : PayloadPacket => packet.frameNum == next.frameNum)
      packets]
    exact List.mem_flatten_of_mem member among
  cases stretch with
  | nil => exact absurd rfl some
  | cons first rest =>
    refine ⟨first.frameNum, rfl, some, fun packet among => ⟨sized packet (inside packet among), ?_⟩⟩
    -- Neighbors have the same number, so all of them do.
    have same : (first :: rest).IsChain fun packet next => packet.frameNum = next.frameNum :=
      chain.imp fun _ _ equal => by simpa using equal
    have : IsTrans PayloadPacket fun packet next => packet.frameNum = next.frameNum :=
      ⟨fun _ _ _ => Eq.trans⟩
    rcases List.mem_cons.mp among with rfl | behind
    · rfl
    · exact ((List.pairwise_cons.mp (List.isChain_iff_pairwise.mp same)).1 packet behind).symm

theorem stretches_change (sized : ∀ packet ∈ packets, packet.size = c64VideoPacketSize) :
    (stretches packets).IsChain fun stretch next => numberOf stretch ≠ numberOf next := by
  apply (List.isChain_getLast_head_splitBy _ _).imp_of_mem_imp
  rintro stretch next member memberNext ⟨some, someNext, differ⟩ same
  obtain ⟨number, first, uniform⟩ := stretches_uniform sized member
  obtain ⟨numberNext, firstNext, uniformNext⟩ := stretches_uniform sized memberNext
  rw [first, firstNext] at same
  obtain rfl := Option.some.inj same
  rw [(uniform.each _ (List.getLast_mem some)).2, (uniformNext.each _ (List.head_mem someNext)).2]
    at differ
  simp at differ

theorem Completes.number (completes : Completes stretch) :
    ∃ number, numberOf stretch = some number := by
  cases stretch with
  | nil =>
    obtain ⟨last, first, -⟩ := completes
    cases first
  | cons packet rest => exact ⟨packet.frameNum, rfl⟩

end Splitting

section Completions

variable {frameNum last : UInt16} {earlier : List (List PayloadPacket)}
  {final : List PayloadPacket}

theorem onlyLastCompletes_append :
    OnlyLastCompletes frameNum (earlier ++ [final]) ↔
      numberOf final = some frameNum ∧ Completes final ∧
        ∀ stretch ∈ earlier, numberOf stretch = some frameNum → ¬ Completes stretch := by
  constructor
  · rintro ⟨others, last, shape, number, completes, none⟩
    obtain ⟨rfl, same⟩ := List.append_inj' shape rfl
    obtain rfl := List.singleton_inj.mp same
    exact ⟨number, completes, none⟩
  · rintro ⟨number, completes, none⟩
    exact ⟨earlier, final, rfl, number, completes, none⟩

theorem notMem_completions_iff (other : last ≠ frameNum) :
    frameNum ∉ completions last earlier ∧
        (completions last earlier).getLastD last ≠ frameNum ↔
      ∀ stretch ∈ earlier, numberOf stretch = some frameNum → ¬ Completes stretch := by
  -- The induction is on the stretches, with the frame that was rendered last.
  induction earlier generalizing last with
  | nil => simp [completions, other]
  | cons stretch rest ih =>
    rw [List.forall_mem_cons]
    cases found : numberOf stretch with
    | none =>
      simp only [completions, found, reduceCtorEq, false_implies, true_and]
      exact ih other
    | some number =>
      by_cases same : number = frameNum
      · subst same
        by_cases completes : Completes stretch
        · simp [completions, found, completes, other]
        · simp only [completions, found, completes, false_and, if_false, not_false_eq_true,
            implies_true, true_and]
          exact ih other
      · by_cases rendered : Completes stretch ∧ last ≠ number
        · have rest := ih same
          simp only [completions, found, if_pos rendered, List.getLastD_cons, List.mem_cons,
            not_or, Ne.symm same, not_false_eq_true, true_and, rest, Option.some.injEq, same,
            false_implies]
        · simp only [completions, found, if_neg rendered, ih other, Option.some.injEq, same,
            false_implies, true_and]

theorem fromOtherFrame_cons (stretch : List PayloadPacket) (rest : List (List PayloadPacket)) :
    fromOtherFrame frameNum (stretch :: rest) =
      if numberOf stretch ≠ some frameNum ∧ Completes stretch then stretch :: rest
      else fromOtherFrame frameNum rest := by
  unfold fromOtherFrame
  rw [List.dropWhile_cons]
  by_cases completes : numberOf stretch ≠ some frameNum ∧ Completes stretch
  · rw [if_pos completes, if_neg (by rw [decide_eq_true_iff]; exact not_not_intro completes)]
  · rw [if_neg completes, if_pos (by rw [decide_eq_true_iff]; exact completes)]

theorem completions_again_iff :
    (frameNum ∉ completions frameNum earlier ∧
        (completions frameNum earlier).getLastD frameNum ≠ frameNum) ∧
        numberOf final = some frameNum ∧ Completes final ↔
      OnlyLastCompletes frameNum (fromOtherFrame frameNum (earlier ++ [final])) := by
  induction earlier with
  | nil =>
    -- There is no stretch before the last one to complete another frame.
    rw [List.nil_append, fromOtherFrame_cons]
    constructor
    · rintro ⟨⟨-, again⟩, -⟩
      exact absurd rfl again
    · split
      · rename_i completes
        intro only
        exact absurd (onlyLastCompletes_append.mp (show OnlyLastCompletes frameNum ([] ++ [final])
          from only)).1 completes.1
      · rintro ⟨others, last, shape, -⟩
        simp [fromOtherFrame] at shape
  | cons stretch rest ih =>
    rw [List.cons_append, fromOtherFrame_cons]
    split
    · -- This stretch completes another frame, and from here on the frame can be rendered.
      rename_i completes
      obtain ⟨number, found⟩ := completes.2.number
      have other : number ≠ frameNum := by
        rintro rfl
        exact completes.1 found
      have behind := @notMem_completions_iff frameNum number rest other
      rw [← List.cons_append, onlyLastCompletes_append, List.forall_mem_cons, ← behind]
      simp only [completions, found, completes.2, Ne.symm other, ne_eq, not_false_eq_true, and_self,
        if_true, List.mem_cons, false_or, List.getLastD_cons, Option.some.injEq, other,
        false_implies, true_and]
      tauto
    · rename_i passed
      rw [← ih]
      have skips : completions frameNum (stretch :: rest) = completions frameNum rest := by
        cases found : numberOf stretch with
        | none => simp only [completions, found]
        | some number =>
          rw [completions]
          simp only [found]
          refine if_neg fun rendered => passed ⟨?_, rendered.1⟩
          rw [found]
          exact fun same => rendered.2 (Option.some.inj same).symm
      rw [skips]

end Completions

section Runs

variable {frameNum : UInt16}

theorem stretch_foldl {packets : List VideoPacket} (ofFrame : OfFrame frameNum packets)
    (some : packets ≠ []) {run : FrameRun} (nothing : NothingArrived run.context frameNum) :
    let after := packets.foldl FrameRun.step run
    Assembling frameNum packets after.context.currentFrame ∧
      (after.rendered, after.context.lastCompletedFrame) =
        if run.context.showsFrame = true then
          (run.rendered ++ [run.context.currentFrame.frameNum], run.context.currentFrame.frameNum)
        else (run.rendered, run.context.lastCompletedFrame) := by
  cases packets with
  | nil => exact absurd rfl some
  | cons packet rest =>
    obtain ⟨size, rfl⟩ := ofFrame packet (List.mem_cons_self ..)
    obtain ⟨whole, completed, rendered⟩ := assembling_foldl
      (fun other member => ofFrame other (List.mem_cons_of_mem _ member)) (run.step packet)
      ((frameFor_empty nothing).receive size)
    have last := completed.trans (process_frame run.context size).2
    -- A frame of which nothing has arrived is not shown.
    have shows : run.context.shows packet ↔ run.context.showsFrame = true := by
      refine ⟨fun shows => shows.2.2, fun shown => ⟨size, fun same => ?_, shown⟩⟩
      obtain ⟨received, -⟩ := nothing same
      simp [StreamContext.showsFrame, received] at shown
    refine ⟨whole, ?_⟩
    rw [List.foldl_cons, rendered, last]
    by_cases shown : run.context.showsFrame = true
    · rw [if_pos shown, if_pos (shows.mpr shown)]
      exact congrArg (·, _) (if_pos (shows.mpr shown))
    · rw [if_neg shown, if_neg fun shows' => shown (shows.mp shows')]
      exact congrArg (·, _) (if_neg fun shows' => shown (shows.mp shows'))

theorem stretches_foldl {stretch : List PayloadPacket} {rest : List (List PayloadPacket)}
    {number : UInt16} {run : FrameRun}
    (change : (stretch :: rest).IsChain fun stretch next => numberOf stretch ≠ numberOf next)
    (each : ∀ stretch ∈ rest, ∃ number, numberOf stretch = some number ∧ StretchOf number stretch)
    (found : numberOf stretch = some number)
    (assembling : Assembling number (stretch.map PayloadPacket.toVideoPacket)
      run.context.currentFrame) :
    let after := (rest.flatten.map PayloadPacket.toVideoPacket).foldl FrameRun.step run
    let rendered := completions run.context.lastCompletedFrame (stretch :: rest).dropLast
    let last := (stretch :: rest).getLast (List.cons_ne_nil _ _)
    after.rendered = run.rendered ++ rendered ∧
      after.context.lastCompletedFrame = rendered.getLastD run.context.lastCompletedFrame ∧
      ∃ final, numberOf last = some final ∧
        Assembling final (last.map PayloadPacket.toVideoPacket) after.context.currentFrame := by
  -- The induction is on the stretches behind, the next one first.
  induction rest generalizing stretch number run with
  | nil => exact ⟨(List.append_nil _).symm, rfl, number, found, assembling⟩
  | cons next others ih =>
    obtain ⟨differ, changes⟩ := List.isChain_cons_cons.mp change
    obtain ⟨numberNext, foundNext, stretchOf⟩ := each next (List.mem_cons_self ..)
    have other : number ≠ numberNext := by
      rintro rfl
      exact differ (found.trans foundNext.symm)
    have ofFrame : OfFrame numberNext (next.map PayloadPacket.toVideoPacket) := by
      intro packet member
      obtain ⟨packet, among, rfl⟩ := List.mem_map.mp member
      exact stretchOf.each packet among
    obtain ⟨assembled, after⟩ := stretch_foldl ofFrame (by simpa using stretchOf.some)
      fun same => absurd (assembling.number.symm.trans same) other
    rw [assembling.number] at after
    have step := ih changes (fun stretch member => each stretch (List.mem_cons_of_mem _ member))
      foundNext assembled
    rw [List.flatten_cons, List.map_append, List.foldl_append, List.dropLast_cons_cons, completions,
      found]
    simp only at step ⊢
    by_cases renders : Completes stretch ∧ run.context.lastCompletedFrame ≠ number
    · rw [if_pos (assembling.showsFrame_iff.mpr renders)] at after
      obtain ⟨rendered, last⟩ := Prod.mk.inj after
      rw [rendered, last] at step
      rw [if_pos renders, List.getLastD_cons]
      obtain ⟨all, completed, final⟩ := step
      exact ⟨by rw [all, List.append_assoc, List.singleton_append], completed, final⟩
    · rw [if_neg fun shown => renders (assembling.showsFrame_iff.mp shown)] at after
      obtain ⟨rendered, last⟩ := Prod.mk.inj after
      rw [rendered, last] at step
      rw [if_neg renders]
      exact step

end Runs

section Whole

variable {frameNum : UInt16} {height : Nat} {packets : List PayloadPacket}

theorem Completes.whole (range : 240 ≤ height ∧ height ≤ 272) (multiple : height % 4 = 0)
    (ofFrame : ∀ packet ∈ packets, FrameOf frameNum height packet)
    (completes : Completes packets) : WholeFrame frameNum height packets := by
  have most : c64MaxPacketsPerFrame = 68 := rfl
  obtain ⟨last, first, counted⟩ := completes
  obtain ⟨packet, among, rfl⟩ := List.mem_map.mp (List.mem_of_find?_eq_some first)
  have start := (ofFrame packet among).line
  have lines := (ofFrame packet among).last.mp (List.find?_some first)
  -- There are no places but those of the lines, so as many packets take all of them.
  have below : placesOf (packets.map PayloadPacket.toVideoPacket) ⊆ Finset.range (height / 4) := by
    intro place member
    obtain ⟨⟨_, taken, rfl⟩, -⟩ := mem_placesOf.mp member
    obtain ⟨other, there, rfl⟩ := List.mem_map.mp taken
    have begins := (ofFrame other there).line
    have inFrame := (ofFrame other there).inside
    rw [Finset.mem_range]
    omega
  have every := Finset.eq_of_subset_of_card_le below (by rw [Finset.card_range]; omega)
  refine ⟨range, multiple, ofFrame, fun line inside => ?_⟩
  have member : line / 4 ∈ placesOf (packets.map PayloadPacket.toVideoPacket) := by
    rw [every, Finset.mem_range]
    omega
  obtain ⟨⟨_, taken, place⟩, -⟩ := mem_placesOf.mp member
  obtain ⟨other, there, rfl⟩ := List.mem_map.mp taken
  have begins := (ofFrame other there).line
  rw [firstFor, List.find?_isSome]
  exact ⟨other, there, by rw [beq_iff_eq]; omega⟩

/-- The pixels of a frame all come from packets of its own. -/
def OwnPixels (palette : Vector UInt32 16) (frameNum : UInt16) (height : Nat)
    (packets : List PayloadPacket) (frame : RenderedFrame) : Prop :=
  frame.height.toNat = height ∧ ∀ x < c64PixelsPerLine, ∀ y < height, ∃ packet ∈ packets,
    packet.frameNum = frameNum ∧ packet.lineNum.toNat = 4 * (y / 4) ∧
      pixelAt frame.frameBuffer x y =
        nibbleColor palette (packet.payload.getD (c64BytesPerLine * (y % 4) + x / 2) 0) x

/-- A frame is not rendered before a newer one begins, and then it is, from packets of its own. -/
structure RendersOwn (palette : Vector UInt32 16) (source : VideoSource) (frameNum : UInt16)
    (height : Nat) (packets : List PayloadPacket) (newer : PayloadPacket) : Prop where
  before : (packets.foldl (VideoSource.step palette) source).frames.rendered.count frameNum =
    source.frames.rendered.count frameNum
  behind : ∃ frame,
    ((packets.foldl (VideoSource.step palette) source).step palette newer).rendered =
      (packets.foldl (VideoSource.step palette) source).rendered ++ [frame] ∧
    frame.frameNum = frameNum ∧ OwnPixels palette frameNum height packets frame

theorem stretches_first {stretch : List PayloadPacket} {rest : List (List PayloadPacket)}
    (sized : ∀ packet ∈ packets, packet.size = c64VideoPacketSize)
    (starts : numberOf packets = some frameNum) (split : stretches packets = stretch :: rest) :
    packets = stretch ++ rest.flatten ∧ numberOf stretch = some frameNum ∧
      stretch.map PayloadPacket.toVideoPacket ≠ [] ∧
      OfFrame frameNum (stretch.map PayloadPacket.toVideoPacket) := by
  have whole : packets = stretch ++ rest.flatten := by
    rw [← List.flatten_cons, ← split]
    exact (List.flatten_splitBy _ _).symm
  have member : stretch ∈ stretches packets := split ▸ List.mem_cons_self ..
  obtain ⟨number, found, stretchOf⟩ := stretches_uniform sized member
  obtain rfl : number = frameNum := by
    have head := starts
    rw [whole, numberOf, List.head?_append_of_ne_nil _ stretchOf.some] at head
    exact Option.some.inj (found.symm.trans head)
  refine ⟨whole, found, by simpa using stretchOf.some, fun packet member => ?_⟩
  obtain ⟨packet, among, rfl⟩ := List.mem_map.mp member
  exact stretchOf.each packet among

theorem packets_assembled {source : VideoSource} (palette : Vector UInt32 16)
    (sized : ∀ packet ∈ packets, packet.size = c64VideoPacketSize)
    (starts : numberOf packets = some frameNum)
    (nothing : NothingArrived source.context frameNum) :
    ∃ earlier final number last, stretches packets = earlier ++ [final] ∧
      (last ≠ frameNum ↔ source.context.notRenderedYet frameNum) ∧
      let after := packets.foldl (VideoSource.step palette) source
      after.frames.rendered.count frameNum =
        source.frames.rendered.count frameNum + (completions last earlier).count frameNum ∧
      after.context.lastCompletedFrame = (completions last earlier).getLastD last ∧
      numberOf final = some number ∧
      Assembling number (final.map PayloadPacket.toVideoPacket) after.context.currentFrame := by
  cases split : stretches packets with
  | nil =>
    rw [List.splitBy_eq_nil.mp split] at starts
    cases starts
  | cons stretch rest =>
    obtain ⟨whole, found, some, ofFrame⟩ := stretches_first sized starts split
    have change := stretches_change sized
    rw [split] at change
    obtain ⟨assembled, yet, count⟩ := @frame_assembled frameNum _ ofFrame some source.frames nothing
    have run := stretches_foldl change (fun other member => stretches_uniform sized
      (split ▸ List.mem_cons_of_mem _ member)) found assembled
    rw [← List.foldl_append, ← List.map_append, ← whole, ← frames_foldl palette] at run
    obtain ⟨rendered, last, final, number, assembling⟩ := run
    refine ⟨_, _, final, _, (List.dropLast_append_getLast (List.cons_ne_nil stretch rest)).symm,
      yet, ?_, last, number, assembling⟩
    rw [rendered, List.count_append, count]

theorem nothingArrived_final {source : VideoSource} (palette : Vector UInt32 16)
    (sized : ∀ packet ∈ packets, packet.size = c64VideoPacketSize)
    (starts : numberOf packets = some frameNum)
    (nothing : NothingArrived source.context frameNum) {earlier : List (List PayloadPacket)}
    {final : List PayloadPacket} {number : UInt16} (split : stretches packets = earlier ++ [final])
    (found : numberOf final = some number) :
    NothingArrived (earlier.flatten.foldl (VideoSource.step palette) source).context number := by
  cases earlier with
  | nil =>
    -- The last stretch is the first one, too.
    obtain ⟨-, first, -⟩ := stretches_first sized starts split
    obtain rfl := Option.some.inj (first.symm.trans found)
    exact nothing
  | cons stretch rest =>
    obtain ⟨-, first, many, ofFrame⟩ := stretches_first sized starts split
    have change := stretches_change sized
    rw [split] at change
    obtain ⟨chain, -, differ⟩ := List.isChain_append.mp change
    obtain ⟨assembled, -, -⟩ := @frame_assembled frameNum _ ofFrame many source.frames nothing
    have run := stretches_foldl chain (fun other member => stretches_uniform sized
      (split ▸ List.mem_append_left _ (List.mem_cons_of_mem _ member))) first assembled
    rw [← List.foldl_append, ← List.map_append, ← List.flatten_cons, ← frames_foldl palette] at run
    obtain ⟨-, -, before, numberBefore, assembling⟩ := run
    intro same
    -- The stretch before it belongs to another frame.
    have other := differ _ (List.getLast?_eq_some_getLast (List.cons_ne_nil stretch rest)) final rfl
    rw [numberBefore, found, ← assembling.number] at other
    exact absurd (congrArg some same) other

theorem keepsFrame_iff_completions {context : StreamContext} {last : UInt16}
    {earlier : List (List PayloadPacket)} {final : List PayloadPacket}
    (split : stretches packets = earlier ++ [final])
    (yet : last ≠ frameNum ↔ context.notRenderedYet frameNum) :
    KeepsFrame context frameNum packets ↔
      (frameNum ∉ completions last earlier ∧
        (completions last earlier).getLastD last ≠ frameNum) ∧
        numberOf final = some frameNum ∧ Completes final := by
  unfold KeepsFrame
  rw [split, ← yet]
  by_cases same : last = frameNum
  · -- The frame was rendered before.
    subst same
    rw [completions_again_iff]
    simp
  · rw [notMem_completions_iff same, onlyLastCompletes_append]
    simp only [ne_eq, same, not_false_eq_true, forall_const, not_true_eq_false, false_implies,
      and_true]
    tauto

theorem ownPixels_final {source : VideoSource} (palette : Vector UInt32 16)
    (range : 240 ≤ height ∧ height ≤ 272) (multiple : height % 4 = 0)
    (own : ∀ packet ∈ packets, packet.frameNum = frameNum → FrameOf frameNum height packet)
    (sized : ∀ packet ∈ packets, packet.size = c64VideoPacketSize)
    {earlier : List (List PayloadPacket)} {final : List PayloadPacket}
    (split : stretches packets = earlier ++ [final]) (found : numberOf final = some frameNum)
    (completes : Completes final)
    (nothing : NothingArrived
      (earlier.flatten.foldl (VideoSource.step palette) source).context frameNum) :
    OwnPixels palette frameNum height packets
      ((packets.foldl (VideoSource.step palette) source).renderedFrame palette) := by
  have whole : packets = earlier.flatten ++ final := by
    have joined : (stretches packets).flatten = packets := List.flatten_splitBy _ _
    rw [split, List.flatten_append, List.flatten_singleton] at joined
    exact joined.symm
  obtain ⟨number, first, stretchOf⟩ := stretches_uniform sized
    (split ▸ List.mem_append_right _ (List.mem_singleton_self final))
  obtain rfl := Option.some.inj (first.symm.trans found)
  have inside : ∀ packet ∈ final, packet ∈ packets := by
    intro packet among
    rw [whole]
    exact List.mem_append_right _ among
  have ofFrame : ∀ packet ∈ final, FrameOf number height packet := fun packet among =>
    own packet (inside packet among) (stretchOf.each packet among).2
  -- The last stretch is collected alone, since the frame begins anew with it.
  have collects := collects_frame palette range stretchOf.some nothing ofFrame
  rw [← List.foldl_append, ← whole] at collects
  have pictured := (completes.whole range multiple ofFrame).pictured palette collects
  refine ⟨pictured.tall, fun x inLine y inFrame => ?_⟩
  obtain ⟨packet, among, pixel⟩ := pictured.pixels x inLine y inFrame
  have member := List.mem_of_find?_eq_some among
  exact ⟨packet, inside packet member, (stretchOf.each packet member).2,
    by simpa using List.find?_some among, pixel⟩

/-- Packets let a frame be rendered once, by the newer one behind them and from packets of its own,
exactly if only their last stretch completes it. -/
theorem rendersOwn_iff (palette : Vector UInt32 16) (source : VideoSource)
    {newer : PayloadPacket} (range : 240 ≤ height ∧ height ≤ 272) (multiple : height % 4 = 0)
    (sized : ∀ packet ∈ packets, packet.size = c64VideoPacketSize)
    (own : ∀ packet ∈ packets, packet.frameNum = frameNum → FrameOf frameNum height packet)
    (starts : numberOf packets = some frameNum)
    (nothing : NothingArrived source.context frameNum)
    (size : newer.size = c64VideoPacketSize) (other : newer.frameNum ≠ frameNum) :
    RendersOwn palette source frameNum height packets newer ↔
      KeepsFrame source.context frameNum packets := by
  obtain ⟨earlier, final, number, last, split, yet, count, completed, found, assembling⟩ :=
    packets_assembled palette sized starts nothing
  have arrived := nothingArrived_final palette sized starts nothing split found
  have pixels := @ownPixels_final _ _ _ source palette range multiple own sized _ _ split
  have shown := assembling.showsFrame_iff
  have current := assembling.number
  rw [keepsFrame_iff_completions split yet, ← completed]
  generalize assembled : packets.foldl (VideoSource.step palette) source = after at *
  constructor
  · rintro ⟨before, frame, rendered, frameOf, -⟩
    rw [assembled] at before rendered
    have never : (completions last earlier).count frameNum = 0 := by omega
    rw [rendered_step] at rendered
    have appended := List.append_cancel_left rendered
    split at appended
    · rename_i shows
      obtain rfl := List.singleton_inj.mp appended
      obtain rfl : number = frameNum := current.symm.trans frameOf
      obtain ⟨completes, again⟩ := shown.mp shows.2.2
      exact ⟨⟨List.count_eq_zero.mp never, again⟩, found, completes⟩
    · cases appended
  · rintro ⟨⟨never, again⟩, numberFinal, completes⟩
    obtain rfl := Option.some.inj (found.symm.trans numberFinal)
    have shows : after.context.shows newer.toVideoPacket :=
      ⟨size, current.trans_ne other.symm, shown.mpr ⟨completes, again⟩⟩
    refine ⟨?_, after.renderedFrame palette, ?_, current, pixels found completes arrived⟩
    · rw [assembled, count, List.count_eq_zero.mpr never, Nat.add_zero]
    · rw [assembled, rendered_step, if_pos shows]

def earlyStraggler : List PayloadPacket := packetBehind 2 :: packetBehind 1 :: plainFrame 2

/-- A packet of the frame before comes in the middle of a frame. -/
def lateStraggler : List PayloadPacket :=
  (plainFrame 2).take 30 ++ packetBehind 1 :: (plainFrame 2).drop 30

/-- An early straggler does no harm. -/
theorem earlyStraggler_rendersOwn :
    RendersOwn (Vector.replicate 16 7) (glowingSource startedContext false rfl rfl) 2 240
      earlyStraggler (packetBehind 3) := by
  have whole := (plainFrame_whole 2).ofFrame
  have first : FrameOf 2 240 (packetBehind 2) :=
    ⟨rfl, rfl, rfl, by decide, by decide, by decide, List.length_replicate⟩
  refine (@rendersOwn_iff 2 240 earlyStraggler (Vector.replicate 16 7)
    (glowingSource startedContext false rfl rfl) (packetBehind 3) (by decide) rfl
    (fun packet member => ?_) (fun packet member number => ?_) rfl (fun same => by cases same) rfl
    (by decide)).mpr ⟨fun _ => ?_, fun rendered => ?_⟩
  · rcases List.mem_cons.mp member with rfl | member
    · rfl
    rcases List.mem_cons.mp member with rfl | member
    · rfl
    · exact (whole packet member).size
  · rcases List.mem_cons.mp member with rfl | member
    · exact first
    rcases List.mem_cons.mp member with rfl | member
    · cases number
    · exact whole packet member
  · refine ⟨[[packetBehind 2], [packetBehind 1]], plainFrame 2, rfl, rfl,
      by decide +kernel, fun stretch member number => ?_⟩
    rcases List.mem_cons.mp member with rfl | member
    · decide +kernel
    · obtain rfl := List.mem_singleton.mp member
      cases number
  · exact absurd (fun same => by cases same) rendered

/-- All packets of a frame arrive, and it is never rendered because of a late straggler. -/
theorem lateStraggler_loses_frame :
    (∀ line < 240,
      (firstFor (lateStraggler.filter fun packet => packet.frameNum == 2) line).isSome = true) ∧
    (∀ packet ∈ lateStraggler, packet.frameNum ≠ 2 → frameNumDiff packet.frameNum 2 < 0) ∧
    ((lateStraggler.foldl (VideoSource.step (Vector.replicate 16 7))
      (glowingSource startedContext false rfl rfl)).step (Vector.replicate 16 7)
        (packetBehind 3)).frames.rendered = [] :=
  ⟨by decide +kernel, by decide +kernel, by decide +kernel⟩

end Whole

end C64Stream
