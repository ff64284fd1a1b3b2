import C64Stream.Stream.Timestamps

/-! Frames that are assembled from packets: what a rejected packet does to the one it belongs to. -/

namespace C64Stream

section Packets

/-- The first line of a packet. -/
def VideoPacket.lineNum (packet : VideoPacket) : UInt16 :=
  packet.lineNumRaw &&& 0x7FFF

/-- Whether a packet is marked as the last one of its frame. -/
def VideoPacket.isLast (packet : VideoPacket) : Bool :=
  packet.lineNumRaw &&& 0x8000 != 0

/-- The place of a packet in its frame. -/
def VideoPacket.packetIndex (packet : VideoPacket) : Nat :=
  packet.lineNum.toNat / packet.linesPerPacket.toNat

/-- The height of the frame that a last packet announces. -/
def VideoPacket.reportedFrameHeight (packet : VideoPacket) : UInt32 :=
  packet.lineNum.toUInt32 + packet.linesPerPacket.toUInt32

/-- The frame that a packet is added to; a packet of another frame begins a new one. -/
def StreamContext.frameFor (context : StreamContext) (packet : VideoPacket) : FrameAssembly :=
  if context.currentFrame.frameNum ≠ packet.frameNum then ⟨packet.frameNum, [], 0⟩
  else context.currentFrame

/-- Whether a packet announces the number of packets of the frame that it is added to. -/
def StreamContext.announces (context : StreamContext) (packet : VideoPacket) : Prop :=
  packet.isLast = true ∧ (context.frameFor packet).expectedPackets = 0

instance (context : StreamContext) (packet : VideoPacket) :
    Decidable (context.announces packet) :=
  inferInstanceAs (Decidable (_ ∧ _))

/-- Whether a packet is rejected: its place is out of range, or it announces a height that is. -/
def StreamContext.rejects (context : StreamContext) (packet : VideoPacket) : Prop :=
  c64MaxPacketsPerFrame ≤ packet.packetIndex ∨
    context.announces packet ∧
      packet.reportedFrameHeight ≠ c64ClampFrameHeight packet.reportedFrameHeight

end Packets

section Runs

/-- A source that receives video, with the numbers of the frames that it rendered. -/
structure FrameRun where
  context : StreamContext
  rendered : List UInt16

instance (context : StreamContext) (packet : VideoPacket) : Decidable (context.shows packet) :=
  inferInstanceAs (Decidable (_ ∧ _ ∧ _))

/-- A packet is processed. -/
def FrameRun.step (run : FrameRun) (packet : VideoPacket) : FrameRun where
  context := (c64ProcessVideoPacketDirect run.context packet).1
  rendered :=
    if run.context.shows packet then run.rendered ++ [run.context.currentFrame.frameNum]
    else run.rendered

/-- A frame is not rendered by its packets, and once by the packet that begins the next frame. -/
def FrameRun.RendersOnce (run : FrameRun) (frameNum : UInt16) (packets : List VideoPacket)
    (next : VideoPacket) : Prop :=
  let assembled := packets.foldl FrameRun.step run
  assembled.rendered.count frameNum = run.rendered.count frameNum ∧
    (assembled.step next).rendered.count frameNum = run.rendered.count frameNum + 1

/-- The places of packets that the storage of a frame has room for. -/
def placesOf (packets : List VideoPacket) : Finset Nat :=
  (packets.map VideoPacket.packetIndex).toFinset.filter (· < c64MaxPacketsPerFrame)

/-- The first packet that is marked as the last one is placed within as many packets as came. -/
def CountsItsLast (packets : List VideoPacket) : Prop :=
  ∃ last, packets.find? VideoPacket.isLast = some last ∧
    last.packetIndex < (placesOf packets).card

/-- The last frame that was rendered has another number, or the frame before will be it. -/
def StreamContext.notRenderedYet (context : StreamContext) (frameNum : UInt16) : Prop :=
  context.lastCompletedFrame = frameNum →
    context.currentFrame.frameNum ≠ frameNum ∧ context.showsFrame = true

end Runs

section Steps

variable {context : StreamContext} {packet : VideoPacket}

theorem detectFormat_frame (context : StreamContext) (frameHeight : UInt32) :
    (context.detectFormat frameHeight).currentFrame = context.currentFrame ∧
      (context.detectFormat frameHeight).lastCompletedFrame = context.lastCompletedFrame := by
  unfold StreamContext.detectFormat
  split <;> exact ⟨rfl, rfl⟩

theorem addPacket_kept (frame : FrameAssembly) (packetIndex : Nat) :
    (frame.addPacket packetIndex).frameNum = frame.frameNum ∧
      (frame.addPacket packetIndex).expectedPackets = frame.expectedPackets := by
  unfold FrameAssembly.addPacket
  split <;> exact ⟨rfl, rfl⟩

theorem mem_addPacket (frame : FrameAssembly) (packetIndex place : Nat) :
    place ∈ (frame.addPacket packetIndex).received ↔
      place ∈ frame.received ∨ place = packetIndex ∧ packetIndex < c64MaxPacketsPerFrame := by
  unfold FrameAssembly.addPacket
  split_ifs with free
  · simp only [List.mem_cons]
    constructor
    · rintro (rfl | before)
      · exact .inr ⟨rfl, free.1⟩
      · exact .inl before
    · rintro (before | ⟨rfl, -⟩)
      · exact .inr before
      · exact .inl rfl
  · constructor
    · exact .inl
    · rintro (before | ⟨rfl, room⟩)
      · exact before
      · by_contra absent
        exact free ⟨room, absent⟩

theorem nodup_addPacket {frame : FrameAssembly} (nodup : frame.received.Nodup)
    (packetIndex : Nat) : (frame.addPacket packetIndex).received.Nodup := by
  unfold FrameAssembly.addPacket
  split_ifs with free
  · exact List.nodup_cons.mpr ⟨free.2, nodup⟩
  · exact nodup

theorem addVideoPacket_frame (context : StreamContext) (packet : VideoPacket) :
    (context.addVideoPacket packet).currentFrame =
        { context.currentFrame.addPacket packet.packetIndex with
          expectedPackets :=
            if packet.isLast = true ∧ context.currentFrame.expectedPackets = 0 then
              UInt16.ofNat (packet.packetIndex + 1)
            else context.currentFrame.expectedPackets } ∧
      (context.addVideoPacket packet).lastCompletedFrame = context.lastCompletedFrame := by
  have kept := (addPacket_kept context.currentFrame packet.packetIndex).2
  have test : (packet.isLast &&
      (context.currentFrame.addPacket packet.packetIndex).expectedPackets == 0) = true ↔
        packet.isLast = true ∧ context.currentFrame.expectedPackets = 0 := by
    rw [kept, Bool.and_eq_true, beq_iff_eq]
  rw [StreamContext.addVideoPacket]
  simp only [← VideoPacket.lineNum.eq_1, ← VideoPacket.packetIndex.eq_1,
    ← VideoPacket.isLast.eq_1, test]
  by_cases announces : packet.isLast = true ∧ context.currentFrame.expectedPackets = 0
  · -- The height may be rejected, which comes too late for the number of packets.
    rw [if_pos announces, if_pos announces]
    split
    · exact ⟨rfl, rfl⟩
    · exact detectFormat_frame _ _
  · rw [if_neg announces, if_neg announces, ← kept]
    exact ⟨rfl, rfl⟩

theorem toNat_announced (packet : VideoPacket) :
    (UInt16.ofNat (packet.packetIndex + 1)).toNat = packet.packetIndex + 1 := by
  have line : packet.lineNum.toNat ≤ 0x7FFF := by
    rw [VideoPacket.lineNum, UInt16.toNat_and]
    exact Nat.and_le_right
  have index : packet.packetIndex ≤ packet.lineNum.toNat := Nat.div_le_self _ _
  rw [UInt16.toNat_ofNat']
  exact Nat.mod_eq_of_lt (by omega)

theorem process_frame (context : StreamContext) {packet : VideoPacket}
    (size : packet.size = c64VideoPacketSize) :
    (c64ProcessVideoPacketDirect context packet).1.currentFrame =
        { (context.frameFor packet).addPacket packet.packetIndex with
          expectedPackets :=
            if context.announces packet then UInt16.ofNat (packet.packetIndex + 1)
            else (context.frameFor packet).expectedPackets } ∧
      (c64ProcessVideoPacketDirect context packet).1.lastCompletedFrame =
        if context.shows packet then context.currentFrame.frameNum
        else context.lastCompletedFrame := by
  unfold c64ProcessVideoPacketDirect
  rw [if_neg (not_not_intro size)]
  by_cases other : context.currentFrame.frameNum ≠ packet.frameNum
  · -- The packet begins a frame, and the one before is rendered if it is complete.
    have frame : context.frameFor packet = (context.beginFrame packet.frameNum).1.currentFrame := by
      rw [StreamContext.frameFor, if_pos other, StreamContext.beginFrame]
    have completed : (context.beginFrame packet.frameNum).1.lastCompletedFrame =
        if context.shows packet then context.currentFrame.frameNum
        else context.lastCompletedFrame := by
      by_cases shown : context.showsFrame = true
      · rw [StreamContext.beginFrame, if_pos shown, if_pos ⟨size, other, shown⟩]
      · rw [StreamContext.beginFrame, if_neg shown,
          if_neg fun shows : context.shows packet => shown shows.2.2]
    have announces : context.announces packet ↔ packet.isLast = true ∧
        (context.beginFrame packet.frameNum).1.currentFrame.expectedPackets = 0 := by
      rw [← frame]
      rfl
    rw [if_pos other, ← completed]
    simp only [announces, frame]
    exact addVideoPacket_frame _ _
  · have frame : context.frameFor packet = context.currentFrame := by
      rw [StreamContext.frameFor, if_neg other]
    have announces : context.announces packet ↔ packet.isLast = true ∧
        context.currentFrame.expectedPackets = 0 := by
      rw [← frame]
      rfl
    rw [if_neg other, if_neg fun shows : context.shows packet => other shows.2.1]
    simp only [announces, frame]
    exact addVideoPacket_frame _ _

end Steps

section Rejected

theorem rejected_unchanged_iff (context : StreamContext) {packet : VideoPacket}
    (size : packet.size = c64VideoPacketSize) (rejected : context.rejects packet) :
    ((∀ place, place ∈ (c64ProcessVideoPacketDirect context packet).1.currentFrame.received ↔
          place ∈ (context.frameFor packet).received) ∧
        (c64ProcessVideoPacketDirect context packet).1.currentFrame.expectedPackets =
          (context.frameFor packet).expectedPackets) ↔
      ¬ context.announces packet := by
  rw [(process_frame context size).1]
  by_cases announces : context.announces packet
  · -- The announced number is positive, and was zero before.
    have positive := toNat_announced packet
    have zero := announces.2
    simp only [zero, announces, if_true, not_true_eq_false, iff_false, not_and]
    intro _ same
    rw [same] at positive
    cases positive
  · have room : ¬ packet.packetIndex < c64MaxPacketsPerFrame :=
      not_lt.mpr (rejected.resolve_right fun height => announces height.1)
    simp only [mem_addPacket, room, and_false, or_false, announces, if_false, not_false_eq_true,
      implies_true, and_self]

end Rejected

section Assembling

variable {packet : VideoPacket}

/-- What is known of the frame under assembly once the packets of a frame have arrived. -/
structure Assembling (frameNum : UInt16) (seen : List VideoPacket) (frame : FrameAssembly) :
    Prop where
  number : frame.frameNum = frameNum
  places : ∀ place, place ∈ frame.received ↔ place ∈ placesOf seen
  nodup : frame.received.Nodup
  expected : frame.expectedPackets.toNat =
    ((seen.find? VideoPacket.isLast).map (·.packetIndex + 1)).getD 0

theorem mem_placesOf {packets : List VideoPacket} {place : Nat} :
    place ∈ placesOf packets ↔
      (∃ packet ∈ packets, packet.packetIndex = place) ∧ place < c64MaxPacketsPerFrame := by
  simp [placesOf]

theorem mem_placesOf_append {packets : List VideoPacket} {place : Nat} :
    place ∈ placesOf (packets ++ [packet]) ↔
      place ∈ placesOf packets ∨
        place = packet.packetIndex ∧ packet.packetIndex < c64MaxPacketsPerFrame := by
  simp only [mem_placesOf, List.mem_append, List.mem_singleton]
  constructor
  · rintro ⟨⟨other, member | rfl, rfl⟩, room⟩
    · exact .inl ⟨⟨other, member, rfl⟩, room⟩
    · exact .inr ⟨rfl, room⟩
  · rintro (⟨⟨other, member, rfl⟩, room⟩ | ⟨rfl, room⟩)
    · exact ⟨⟨other, .inl member, rfl⟩, room⟩
    · exact ⟨⟨packet, .inr rfl, rfl⟩, room⟩

theorem Assembling.length {frameNum : UInt16} {seen : List VideoPacket} {frame : FrameAssembly}
    (assembling : Assembling frameNum seen frame) :
    frame.received.length = (placesOf seen).card := by
  rw [← List.toFinset_card_of_nodup assembling.nodup]
  congr 1
  ext place
  rw [List.mem_toFinset, assembling.places]

theorem Assembling.complete_iff {frameNum : UInt16} {seen : List VideoPacket}
    {frame : FrameAssembly} (assembling : Assembling frameNum seen frame) :
    c64IsFrameComplete frame = true ↔ CountsItsLast seen := by
  have expected := assembling.expected
  rw [c64IsFrameComplete, Bool.and_eq_true, bne_iff_ne, decide_eq_true_iff, assembling.length]
  cases found : seen.find? VideoPacket.isLast with
  | none =>
    -- No number of packets was announced.
    rw [found] at expected
    constructor
    · rintro ⟨announced, -⟩
      exact absurd (UInt16.toNat_inj.mp expected) announced
    · rintro ⟨last, first, -⟩
      rw [found] at first
      cases first
  | some last =>
    rw [found, Option.map_some, Option.getD_some] at expected
    rw [expected]
    constructor
    · rintro ⟨-, counted⟩
      exact ⟨last, found, counted⟩
    · rintro ⟨other, first, counted⟩
      obtain rfl := Option.some.inj (found.symm.trans first)
      refine ⟨fun zero => ?_, counted⟩
      rw [zero] at expected
      cases expected

theorem Assembling.showsFrame_iff {context : StreamContext} {frameNum : UInt16}
    {seen : List VideoPacket} (assembling : Assembling frameNum seen context.currentFrame) :
    context.showsFrame = true ↔ CountsItsLast seen ∧ context.lastCompletedFrame ≠ frameNum := by
  rw [StreamContext.showsFrame, Bool.and_eq_true, Bool.and_eq_true, bne_iff_ne, assembling.number,
    assembling.complete_iff]
  constructor
  · rintro ⟨⟨-, counts⟩, yet⟩
    exact ⟨counts, yet⟩
  · rintro ⟨counts, yet⟩
    refine ⟨⟨?_, counts⟩, yet⟩
    -- A place is taken, since one of them is counted.
    obtain ⟨last, -, counted⟩ := counts
    have length := assembling.length
    cases arrived : context.currentFrame.received with
    | nil =>
      rw [arrived, List.length_nil] at length
      omega
    | cons place rest => rfl

variable {context : StreamContext} {frameNum : UInt16} {seen : List VideoPacket}

theorem Assembling.receive (size : packet.size = c64VideoPacketSize)
    (assembling : Assembling frameNum seen (context.frameFor packet)) :
    Assembling frameNum (seen ++ [packet])
      (c64ProcessVideoPacketDirect context packet).1.currentFrame := by
  rw [(process_frame context size).1]
  refine ⟨(addPacket_kept _ _).1.trans assembling.number, fun place => ?_,
    nodup_addPacket assembling.nodup _, ?_⟩
  · rw [mem_addPacket, assembling.places, mem_placesOf_append]
  · -- Only the first packet that is marked as the last one announces a number.
    have expected := assembling.expected
    rw [List.find?_append]
    cases found : seen.find? VideoPacket.isLast with
    | some last =>
      rw [found, Option.map_some, Option.getD_some] at expected
      have announced : ¬ context.announces packet := by
        intro announces
        rw [announces.2] at expected
        cases expected
      rw [if_neg announced]
      simpa using expected
    | none =>
      rw [found] at expected
      have zero : (context.frameFor packet).expectedPackets = 0 := UInt16.toNat_inj.mp expected
      by_cases last : packet.isLast = true
      · rw [if_pos ⟨last, zero⟩, toNat_announced]
        simp [last]
      · rw [if_neg fun announces => last announces.1, zero]
        simp [last]

/-- Nothing of a frame has arrived yet. -/
def NothingArrived (context : StreamContext) (frameNum : UInt16) : Prop :=
  context.currentFrame.frameNum = frameNum →
    context.currentFrame.received = [] ∧ context.currentFrame.expectedPackets = 0

theorem frameFor_empty (nothing : NothingArrived context packet.frameNum) :
    Assembling packet.frameNum [] (context.frameFor packet) := by
  unfold StreamContext.frameFor
  split_ifs with other
  · exact ⟨rfl, fun place => by simp [placesOf], List.nodup_nil, rfl⟩
  · obtain ⟨received, expected⟩ := nothing (not_not.mp other)
    refine ⟨not_not.mp other, fun place => ?_, ?_, ?_⟩
    · simp [received, placesOf]
    · simp [received]
    · simp [expected]

theorem Assembling.frameFor (assembling : Assembling packet.frameNum seen context.currentFrame) :
    Assembling packet.frameNum seen (context.frameFor packet) := by
  rw [StreamContext.frameFor, if_neg (not_not_intro assembling.number)]
  exact assembling

/-- Packets of a frame only, of the size of video packets. -/
def OfFrame (frameNum : UInt16) (packets : List VideoPacket) : Prop :=
  ∀ packet ∈ packets, packet.size = c64VideoPacketSize ∧ packet.frameNum = frameNum

end Assembling

section Runs

variable {frameNum : UInt16} {packets : List VideoPacket}

theorem assembling_foldl {seen : List VideoPacket} (ofFrame : OfFrame frameNum packets)
    (run : FrameRun) (assembling : Assembling frameNum seen run.context.currentFrame) :
    let assembled := packets.foldl FrameRun.step run
    Assembling frameNum (seen ++ packets) assembled.context.currentFrame ∧
      assembled.context.lastCompletedFrame = run.context.lastCompletedFrame ∧
      assembled.rendered = run.rendered := by
  -- The induction is on the packets; none of them begins another frame.
  induction packets generalizing seen run with
  | nil => exact ⟨by rwa [List.append_nil], rfl, rfl⟩
  | cons packet rest ih =>
    obtain ⟨size, rfl⟩ := ofFrame packet (List.mem_cons_self ..)
    have same : ¬ run.context.shows packet := fun shows => shows.2.1 assembling.number
    obtain ⟨whole, completed, rendered⟩ := ih
      (fun other member => ofFrame other (List.mem_cons_of_mem _ member)) (run.step packet)
      (assembling.frameFor.receive size)
    refine ⟨by simpa using whole, completed.trans ?_, rendered.trans (if_neg same)⟩
    exact (process_frame run.context size).2.trans (if_neg same)

theorem frame_assembled (ofFrame : OfFrame frameNum packets) (some : packets ≠ []) {run : FrameRun}
    (nothing : NothingArrived run.context frameNum) :
    let assembled := packets.foldl FrameRun.step run
    Assembling frameNum packets assembled.context.currentFrame ∧
      (assembled.context.lastCompletedFrame ≠ frameNum ↔ run.context.notRenderedYet frameNum) ∧
      assembled.rendered.count frameNum = run.rendered.count frameNum := by
  cases packets with
  | nil => exact absurd rfl some
  | cons packet rest =>
    obtain ⟨size, rfl⟩ := ofFrame packet (List.mem_cons_self ..)
    obtain ⟨whole, completed, rendered⟩ := assembling_foldl
      (fun other member => ofFrame other (List.mem_cons_of_mem _ member)) (run.step packet)
      ((frameFor_empty nothing).receive size)
    have last := completed.trans (process_frame run.context size).2
    refine ⟨whole, ?_, ?_⟩
    · rw [List.foldl_cons, last]
      by_cases shows : run.context.shows packet
      · -- The frame before is the last one that was rendered now, and it has another number.
        rw [if_pos shows]
        exact iff_of_true shows.2.1 fun _ => ⟨shows.2.1, shows.2.2⟩
      · rw [if_neg shows]
        constructor
        · intro other same
          exact absurd same other
        · intro yet same
          obtain ⟨other, shown⟩ := yet same
          exact shows ⟨size, other, shown⟩
    · rw [List.foldl_cons, rendered]
      unfold FrameRun.step
      simp only
      split_ifs with shows
      · rw [List.count_append, List.count_singleton, if_neg, Nat.add_zero]
        simpa using shows.2.1
      · rfl

theorem count_step (run : FrameRun) (packet : VideoPacket) (frameNum : UInt16) :
    (run.step packet).rendered.count frameNum =
      if run.context.shows packet ∧ run.context.currentFrame.frameNum = frameNum then
        run.rendered.count frameNum + 1
      else run.rendered.count frameNum := by
  unfold FrameRun.step
  by_cases shows : run.context.shows packet
  · by_cases same : run.context.currentFrame.frameNum = frameNum <;> simp [shows, same]
  · simp [shows]

theorem rendersOnce_iff (ofFrame : OfFrame frameNum packets) {run : FrameRun}
    (nothing : NothingArrived run.context frameNum) {next : VideoPacket}
    (size : next.size = c64VideoPacketSize) (other : next.frameNum ≠ frameNum) :
    run.RendersOnce frameNum packets next ↔
      run.context.notRenderedYet frameNum ∧ CountsItsLast packets := by
  by_cases empty : packets = []
  · -- Without packets there is nothing to render.
    subst empty
    constructor
    · rintro ⟨-, once⟩
      rw [List.foldl_nil, count_step] at once
      split_ifs at once with shows
      · obtain ⟨received, -⟩ := nothing shows.2
        have shown := shows.1.2.2
        simp [StreamContext.showsFrame, received] at shown
      · omega
    · rintro ⟨-, last, first, -⟩
      cases first
  · obtain ⟨assembling, completed, count⟩ := frame_assembled ofFrame empty nothing
    generalize assembled : packets.foldl FrameRun.step run = after at assembling completed count
    have shows : after.context.shows next ↔
        run.context.notRenderedYet frameNum ∧ CountsItsLast packets := by
      rw [← completed, StreamContext.shows, assembling.showsFrame_iff, assembling.number]
      constructor
      · rintro ⟨-, -, counts, yet⟩
        exact ⟨yet, counts⟩
      · rintro ⟨yet, counts⟩
        exact ⟨size, other.symm, counts, yet⟩
    unfold FrameRun.RendersOnce
    rw [assembled]
    simp only
    rw [count_step, count, ← shows]
    simp only [assembling.number, and_true, true_and]
    by_cases shown : after.context.shows next <;> simp [shown]

end Runs

section Rendering

/-- A rejected packet leaves its frame alone exactly when it does not announce the number of its
packets; and a frame is rendered once when the next one begins, exactly if it was not rendered
before and its first last packet is placed within as many as came. -/
theorem rejectedPackets_harmless (run : FrameRun) {frameNum : UInt16} {packets : List VideoPacket}
    {next : VideoPacket} (nothing : NothingArrived run.context frameNum)
    (ofFrame : OfFrame frameNum packets) (size : next.size = c64VideoPacketSize)
    (other : next.frameNum ≠ frameNum) :
    (∀ (context : StreamContext) (packet : VideoPacket), packet.size = c64VideoPacketSize →
      context.rejects packet →
        ((∀ place,
            place ∈ (c64ProcessVideoPacketDirect context packet).1.currentFrame.received ↔
              place ∈ (context.frameFor packet).received) ∧
          (c64ProcessVideoPacketDirect context packet).1.currentFrame.expectedPackets =
            (context.frameFor packet).expectedPackets ↔
        ¬ context.announces packet)) ∧
    (run.RendersOnce frameNum packets next ↔
      run.context.notRenderedYet frameNum ∧ CountsItsLast packets) :=
  ⟨fun context _ size rejected => rejected_unchanged_iff context size rejected,
    rendersOnce_iff ofFrame nothing size other⟩

/-- The packets of an NTSC frame, behind one that is marked as the last and out of range. -/
def misledFrame : List VideoPacket :=
  ⟨c64VideoPacketSize, 2, 0xFFFF, 4, fourLines_positive⟩ ::
    (List.range 60).map fun k =>
      ⟨c64VideoPacketSize, 2, UInt16.ofNat (4 * k) ||| if k = 59 then 0x8000 else 0, 4, fourLines_positive⟩

def nextFramePacket : VideoPacket := ⟨c64VideoPacketSize, 3, 0, 4, fourLines_positive⟩

/-- A packet that is out of range and not marked is harmless, and all packets of the frame let it
be rendered. -/
theorem rejectedPackets_harmless_ntsc :
    (c64ProcessVideoPacketDirect freshContext
        ⟨c64VideoPacketSize, 2, 0x7FFF, 4, by decide⟩).1.currentFrame.expectedPackets = 0 ∧
      FrameRun.RendersOnce ⟨freshContext, []⟩ 2 misledFrame.tail nextFramePacket := by
  have ofFrame : OfFrame 2 misledFrame.tail := by
    intro packet member
    simp only [misledFrame, List.tail_cons, List.mem_map] at member
    obtain ⟨_, _, rfl⟩ := member
    exact ⟨rfl, rfl⟩
  obtain ⟨unchanged, once⟩ := @rejectedPackets_harmless ⟨freshContext, []⟩ 2 misledFrame.tail
    nextFramePacket (fun same => (by cases same)) ofFrame rfl (by decide)
  constructor
  · exact ((unchanged freshContext ⟨c64VideoPacketSize, 2, 0x7FFF, 4, by decide⟩ rfl
      (.inl (by decide))).mpr fun announces => absurd announces.1 (by decide)).2
  · refine once.mpr ⟨fun same => (by cases same), ?_⟩
    exact ⟨⟨c64VideoPacketSize, 2, 0x80EC, 4, by decide⟩, by decide +kernel, by decide +kernel⟩

/-- A rejected packet that is marked as the last one fixes the number of packets of its frame, and
the frame is never rendered although all its packets arrive behind it. -/
theorem misledFrame_lost :
    (∃ packet ∈ misledFrame.head?, freshContext.rejects packet ∧
      (freshContext.frameFor packet).expectedPackets = 0 ∧
      (c64ProcessVideoPacketDirect freshContext packet).1.currentFrame.expectedPackets = 8192) ∧
    ¬ FrameRun.RendersOnce ⟨freshContext, []⟩ 2 misledFrame nextFramePacket ∧
    ((misledFrame.foldl FrameRun.step ⟨freshContext, []⟩).step nextFramePacket).rendered = [] := by
  refine ⟨⟨_, rfl, .inl (by decide), rfl, rfl⟩, ?_, by decide +kernel⟩
  rintro ⟨-, once⟩
  revert once
  decide +kernel

end Rendering

end C64Stream
