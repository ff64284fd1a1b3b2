import C64Stream.Stream.RejectedPackets

/-! Complete frames: what the packets that are stored for a frame give for each of its lines. -/

namespace C64Stream

section Storage

def c64BytesPerLine : Nat := 192

/-- A video packet with the lines in it. -/
structure PayloadPacket extends VideoPacket where
  payload : List UInt8

/-- A packet as it is stored for its frame. -/
structure FramePacket where
  lineNum : UInt16
  linesPerPacket : UInt8
  packetData : List UInt8
  deriving DecidableEq

abbrev FrameStorage : Type := Nat → Option FramePacket

/-- What is stored for the frame that a packet is added to; a packet of another frame begins one. -/
def storageFor (context : StreamContext) (packets : FrameStorage) (packet : VideoPacket) :
    FrameStorage :=
  if context.currentFrame.frameNum ≠ packet.frameNum then fun _ => none else packets

/-- A packet is stored for its frame, unless its place is taken or out of range. -/
def storePacket (context : StreamContext) (packets : FrameStorage) (packet : PayloadPacket) :
    FrameStorage :=
  if packet.size ≠ c64VideoPacketSize then packets
  else
    let packets := storageFor context packets packet.toVideoPacket
    if packet.packetIndex < c64MaxPacketsPerFrame ∧ packets packet.packetIndex = none then
      Function.update packets packet.packetIndex
        (some ⟨packet.lineNum, packet.linesPerPacket, packet.payload⟩)
    else packets

/-- A source that receives the packets of a frame, with the packets that arrived so far. -/
structure StorageRun where
  context : StreamContext
  packets : FrameStorage
  arrived : List VideoPacket

/-- A packet is processed. -/
def StorageRun.step (run : StorageRun) (packet : PayloadPacket) : StorageRun where
  context := (c64ProcessVideoPacketDirect run.context packet.toVideoPacket).1
  packets := storePacket run.context run.packets packet
  arrived := run.arrived ++ [packet.toVideoPacket]

end Storage

section Lines

/-- Whether a stored packet has a line of a frame that is shown with a height. -/
def FramePacket.covers (packet : FramePacket) (height line : Nat) : Prop :=
  packet.lineNum.toNat ≤ line ∧ line < packet.lineNum.toNat + packet.linesPerPacket.toNat ∧
    line < height

instance (packet : FramePacket) (height line : Nat) : Decidable (packet.covers height line) :=
  inferInstanceAs (Decidable (_ ∧ _ ∧ _))

/-- A line of a stored packet. -/
def FramePacket.row (packet : FramePacket) (line : Nat) : List UInt8 :=
  (packet.packetData.drop ((line - packet.lineNum.toNat) * c64BytesPerLine)).take c64BytesPerLine

/-- Write the lines of a stored packet. -/
def writePacket (height : Nat) (written : Nat → Option (List UInt8))
    (packet : Option FramePacket) : Nat → Option (List UInt8) :=
  match packet with
  | none => written
  | some packet => fun line =>
    if packet.covers height line then some (packet.row line) else written line

/-- The lines that the packets stored for a frame give, a later place before an earlier one. -/
def writtenLines (packets : FrameStorage) (height : Nat) : Nat → Option (List UInt8) :=
  (List.range c64MaxPacketsPerFrame).foldl
    (fun written index => writePacket height written (packets index)) fun _ => none

/-- The nearest line that was written at or above a line. -/
def lastValidLine (written : Nat → Option (List UInt8)) : Nat → Option (List UInt8)
  | 0 => written 0
  | line + 1 => written (line + 1) <|> lastValidLine written line

/-- Assemble a frame: lines without a packet repeat the nearest one above, and above the first one
the line at the top as it was. -/
def c64AssembleFrameWithInterpolation (lut : UInt8 → UInt64) (packets : FrameStorage)
    (height : Nat) (frameBuffer : Nat → List UInt64) : Nat → List UInt64 :=
  if 272 < height then frameBuffer
  else fun line =>
    if line < height then
      match lastValidLine (writtenLines packets height) line with
      | some row => row.map lut
      | none => frameBuffer 0
    else frameBuffer line

end Lines

section Frames

/-- The height that the packets of a frame announce. -/
def announcedHeight (arrived : List VideoPacket) : Nat :=
  match arrived.find? VideoPacket.isLast with
  | some last => last.reportedFrameHeight.toNat
  | none => 0

/-- A frame that counts as complete has all the packets that it expects, and a line of its own for
every line below the announced height. -/
def StorageRun.Whole (run : StorageRun) : Prop :=
  run.arrived ≠ [] → c64IsFrameComplete run.context.currentFrame = true →
    (∀ index < run.context.currentFrame.expectedPackets.toNat, (run.packets index).isSome) ∧
    ∀ height line, line < height → line < announcedHeight run.arrived →
      (writtenLines run.packets height line).isSome

/-- A packet that is stored begins at a multiple of its lines, and it is not behind the packet of
its frame that was marked first as the last one. -/
def FitsFrame (run : StorageRun) (packet : PayloadPacket) : Prop :=
  packet.packetIndex < c64MaxPacketsPerFrame →
    packet.lineNum.toNat % packet.linesPerPacket.toNat = 0 ∧
    match run.arrived.find? VideoPacket.isLast with
    | some last => packet.packetIndex ≤ last.packetIndex
    | none => packet.isLast = true → ∀ place ∈ placesOf run.arrived, place ≤ packet.packetIndex

instance (run : StorageRun) (packet : PayloadPacket) : Decidable (FitsFrame run packet) :=
  have : Decidable (match run.arrived.find? VideoPacket.isLast with
      | some last => packet.packetIndex ≤ last.packetIndex
      | none => packet.isLast = true →
          ∀ place ∈ placesOf run.arrived, place ≤ packet.packetIndex) :=
    match run.arrived.find? VideoPacket.isLast with
    | some last => inferInstanceAs (Decidable (packet.packetIndex ≤ last.packetIndex))
    | none => inferInstanceAs (Decidable (packet.isLast = true → _))
  inferInstanceAs (Decidable (_ → _ ∧ _))

/-- Packets of a frame only, as the processor hands them on: of the size of video packets, and of
four lines each. -/
def StreamedPackets (frameNum : UInt16) (packets : List PayloadPacket) : Prop :=
  ∀ packet ∈ packets, packet.size = c64VideoPacketSize ∧ packet.frameNum = frameNum ∧
    packet.linesPerPacket = 4

end Frames

section Written

variable {packets : FrameStorage} {height line : Nat}

theorem writtenLines_isSome_iff :
    (writtenLines packets height line).isSome = true ↔
      ∃ index < c64MaxPacketsPerFrame, ∃ packet, packets index = some packet ∧
        packet.covers height line := by
  -- The induction is on the places, the last one first, for what is written when it starts.
  have general : ∀ (indices : List Nat) (written : Nat → Option (List UInt8)),
      (indices.foldl (fun written index => writePacket height written (packets index)) written
          line).isSome = true ↔
        (written line).isSome = true ∨ ∃ index ∈ indices, ∃ packet,
          packets index = some packet ∧ packet.covers height line := by
    intro indices
    induction indices with
    | nil => intro written; simp
    | cons index rest ih =>
      intro written
      rw [List.foldl_cons, ih]
      have first : (writePacket height written (packets index) line).isSome = true ↔
          (written line).isSome = true ∨
            ∃ packet, packets index = some packet ∧ packet.covers height line := by
        cases stored : packets index with
        | none => simp [writePacket]
        | some packet =>
          by_cases covers : packet.covers height line <;> simp [writePacket, covers]
      rw [first, or_assoc]
      simp only [List.mem_cons, exists_eq_or_imp]
  unfold writtenLines
  rw [general]
  simp

theorem assembleFrame_written (lut : UInt8 → UInt64) (frameBuffer : Nat → List UInt64)
    (fits : height ≤ 272) (below : line < height) {row : List UInt8}
    (written : writtenLines packets height line = some row) :
    c64AssembleFrameWithInterpolation lut packets height frameBuffer line = row.map lut := by
  have nearest : lastValidLine (writtenLines packets height) line = some row := by
    cases line with
    | zero => exact written
    | succ line => rw [lastValidLine, written]; rfl
  rw [c64AssembleFrameWithInterpolation, if_neg (by omega)]
  simp only [if_pos below, nearest]

end Written

section Invariant

variable {frameNum : UInt16} {run : StorageRun} {packet : PayloadPacket}

/-- What is known of the frame under assembly while its packets fit. -/
structure Fitting (frameNum : UInt16) (run : StorageRun) (frame : FrameAssembly)
    (packets : FrameStorage) : Prop where
  assembling : Assembling frameNum run.arrived frame
  agrees : ∀ place, place ∈ frame.received ↔ (packets place).isSome = true
  stored : ∀ place packet, packets place = some packet →
    packet.lineNum.toNat = 4 * place ∧ packet.linesPerPacket = 4
  last : ∀ last, run.arrived.find? VideoPacket.isLast = some last →
    (∀ place ∈ placesOf run.arrived, place ≤ last.packetIndex) ∧ last.linesPerPacket = 4 ∧
      (last.packetIndex < c64MaxPacketsPerFrame → last.lineNum.toNat = 4 * last.packetIndex)

theorem Fitting.whole
    (fitting : Fitting frameNum run run.context.currentFrame run.packets) : run.Whole := by
  intro _ complete
  obtain ⟨last, found, counted⟩ := fitting.assembling.complete_iff.mp complete
  obtain ⟨below, four, aligned⟩ := fitting.last last found
  -- As many places are taken as there are up to the last one, so each of them is.
  have every : placesOf run.arrived = Finset.range (last.packetIndex + 1) := by
    apply Finset.eq_of_subset_of_card_le
    · intro place member
      exact Finset.mem_range.mpr (Nat.lt_succ_of_le (below place member))
    · rw [Finset.card_range]
      exact counted
  have arrived : ∀ index ≤ last.packetIndex, (run.packets index).isSome = true := by
    intro index small
    rw [← fitting.agrees, fitting.assembling.places, every, Finset.mem_range]
    exact Nat.lt_succ_of_le small
  have expected := fitting.assembling.expected
  rw [found, Option.map_some, Option.getD_some] at expected
  refine ⟨fun index small => arrived index (by omega), fun height line shown announced => ?_⟩
  have inRange : last.packetIndex < c64MaxPacketsPerFrame := by
    have member : last.packetIndex ∈ placesOf run.arrived := by
      rw [every, Finset.mem_range]
      exact Nat.lt_succ_self _
    exact (mem_placesOf.mp member).2
  have tall : announcedHeight run.arrived = 4 * last.packetIndex + 4 := by
    have line := aligned inRange
    have room : c64MaxPacketsPerFrame = 68 := rfl
    simp only [announcedHeight, found, VideoPacket.reportedFrameHeight, four, UInt32.toNat_add,
      UInt16.toNat_toUInt32, line]
    change (4 * last.packetIndex + 4) % 2 ^ 32 = 4 * last.packetIndex + 4
    omega
  -- The packet at a quarter of the line covers it.
  have quarter : line / 4 ≤ last.packetIndex := by omega
  obtain ⟨packet, stored⟩ := Option.isSome_iff_exists.mp (arrived (line / 4) quarter)
  obtain ⟨start, lines⟩ := fitting.stored _ _ stored
  refine writtenLines_isSome_iff.mpr ⟨line / 4, by omega, packet, stored, ?_, ?_, shown⟩
  · omega
  · have four : packet.linesPerPacket.toNat = 4 := by
      rw [lines]
      rfl
    omega

theorem FitsFrame.aligned (four : packet.linesPerPacket = 4) (fits : FitsFrame run packet)
    (room : packet.packetIndex < c64MaxPacketsPerFrame) :
    packet.lineNum.toNat = 4 * packet.packetIndex := by
  have multiple := (fits room).1
  have lines : packet.linesPerPacket.toNat = 4 := by
    rw [four]
    rfl
  rw [lines] at multiple
  rw [VideoPacket.packetIndex, lines]
  omega

theorem FitsFrame.last (four : packet.linesPerPacket = 4) (fits : FitsFrame run packet)
    (before : ∀ last, run.arrived.find? VideoPacket.isLast = some last →
      (∀ place ∈ placesOf run.arrived, place ≤ last.packetIndex) ∧ last.linesPerPacket = 4 ∧
        (last.packetIndex < c64MaxPacketsPerFrame → last.lineNum.toNat = 4 * last.packetIndex))
    (last : VideoPacket)
    (found : (run.arrived ++ [packet.toVideoPacket]).find? VideoPacket.isLast = some last) :
    (∀ place ∈ placesOf (run.arrived ++ [packet.toVideoPacket]), place ≤ last.packetIndex) ∧
      last.linesPerPacket = 4 ∧
      (last.packetIndex < c64MaxPacketsPerFrame → last.lineNum.toNat = 4 * last.packetIndex) := by
  rw [List.find?_append] at found
  cases earlier : run.arrived.find? VideoPacket.isLast with
  | some marked =>
    rw [earlier] at found
    obtain rfl := Option.some.inj found
    obtain ⟨below, lines, aligned⟩ := before marked earlier
    refine ⟨fun place member => ?_, lines, aligned⟩
    rcases mem_placesOf_append.mp member with old | ⟨rfl, room⟩
    · exact below place old
    · have order := (fits room).2
      rwa [earlier] at order
  | none =>
    -- The packet is the first one that is marked.
    rw [earlier, Option.none_or] at found
    have marked := List.find?_some found
    obtain rfl := List.mem_singleton.mp (List.mem_of_find?_eq_some found)
    refine ⟨fun place member => ?_, four, fits.aligned four⟩
    rcases mem_placesOf_append.mp member with old | ⟨rfl, -⟩
    · by_cases room : packet.packetIndex < c64MaxPacketsPerFrame
      · have order := (fits room).2
        rw [earlier] at order
        exact order marked place old
      · have inside := (mem_placesOf.mp old).2
        omega
    · exact le_refl _

theorem Fitting.store (size : packet.size = c64VideoPacketSize) (four : packet.linesPerPacket = 4)
    (fits : FitsFrame run packet)
    (fitting : Fitting frameNum run (run.context.frameFor packet.toVideoPacket)
      (storageFor run.context run.packets packet.toVideoPacket)) :
    Fitting frameNum (run.step packet) (run.step packet).context.currentFrame
      (run.step packet).packets := by
  have received := congrArg FrameAssembly.received
    (@process_frame run.context packet.toVideoPacket size).1
  have stores : (run.step packet).packets =
      storePacket run.context run.packets packet := rfl
  rw [storePacket, if_neg (not_not_intro size)] at stores
  generalize storageFor run.context run.packets packet.toVideoPacket = packets at fitting stores
  refine ⟨fitting.assembling.receive size, fun place => ?_, fun place held stored => ?_,
    FitsFrame.last four fits fitting.last⟩
  · rw [show (run.step packet).context.currentFrame.received = _ from received, mem_addPacket,
      fitting.agrees, stores]
    by_cases free : packet.packetIndex < c64MaxPacketsPerFrame ∧ packets packet.packetIndex = none
    · rw [if_pos free]
      by_cases here : place = packet.packetIndex
      · simp [here, free.1]
      · simp [here]
    · rw [if_neg free]
      constructor
      · rintro (taken | ⟨rfl, room⟩)
        · exact taken
        · exact Option.isSome_iff_ne_none.mpr fun none => free ⟨room, none⟩
      · exact .inl
  · by_cases free : packet.packetIndex < c64MaxPacketsPerFrame ∧ packets packet.packetIndex = none
    · rw [stores, if_pos free] at stored
      by_cases here : place = packet.packetIndex
      · subst here
        rw [Function.update_self] at stored
        obtain rfl := Option.some.inj stored
        exact ⟨fits.aligned four free.1, four⟩
      · rw [Function.update_of_ne here] at stored
        exact fitting.stored place held stored
    · rw [stores, if_neg free] at stored
      exact fitting.stored place held stored

theorem fitting_first {context : StreamContext} {packets : FrameStorage} {packet : VideoPacket}
    (nothing : NothingArrived context packet.frameNum)
    (agrees : ∀ place, place ∈ context.currentFrame.received ↔ (packets place).isSome = true) :
    Fitting packet.frameNum ⟨context, packets, []⟩ (context.frameFor packet)
      (storageFor context packets packet) := by
  have empty : ∀ place, storageFor context packets packet place = none := by
    intro place
    unfold storageFor
    split_ifs with other
    · rfl
    · have taken := agrees place
      rw [(nothing (not_not.mp other)).1] at taken
      cases held : packets place with
      | none => rfl
      | some stored =>
        rw [held] at taken
        exact absurd (taken.mpr rfl) List.not_mem_nil
  have assembling := frameFor_empty nothing
  refine ⟨assembling, fun place => ?_, fun place held stored => ?_, fun last found => ?_⟩
  · rw [assembling.places, empty]
    simp [placesOf]
  · rw [empty] at stored
    cases stored
  · cases found

theorem Fitting.next (fitting : Fitting packet.frameNum run run.context.currentFrame run.packets) :
    Fitting packet.frameNum run (run.context.frameFor packet.toVideoPacket)
      (storageFor run.context run.packets packet.toVideoPacket) := by
  have same := not_not_intro fitting.assembling.number
  rw [StreamContext.frameFor, if_neg same, storageFor, if_neg same]
  exact fitting

theorem Fitting.always {packets : List PayloadPacket} (streamed : StreamedPackets frameNum packets)
    (each : EachStep StorageRun.step FitsFrame run packets)
    (fitting : Fitting frameNum run run.context.currentFrame run.packets) :
    Always StorageRun.step StorageRun.Whole run packets := by
  -- The induction is on the packets, and the invariant says that a complete frame is whole.
  induction packets generalizing run with
  | nil => exact fitting.whole
  | cons packet rest ih =>
    obtain ⟨size, rfl, four⟩ := streamed packet (List.mem_cons_self ..)
    have stored := Fitting.store size four each.1 fitting.next
    exact ⟨fitting.whole,
      ih (fun other member => streamed other (List.mem_cons_of_mem _ member)) each.2 stored⟩

end Invariant

section Completeness

/-- A frame whose packets fit is whole whenever it counts as complete. -/
theorem completeFrames_whole {context : StreamContext} {storage : FrameStorage} {frameNum : UInt16}
    {packets : List PayloadPacket} (nothing : NothingArrived context frameNum)
    (agrees : ∀ place, place ∈ context.currentFrame.received ↔ (storage place).isSome = true)
    (streamed : StreamedPackets frameNum packets)
    (each : EachStep StorageRun.step FitsFrame ⟨context, storage, []⟩ packets) :
    Always StorageRun.step StorageRun.Whole ⟨context, storage, []⟩ packets := by
  have start : StorageRun.Whole ⟨context, storage, []⟩ := fun some => absurd rfl some
  cases packets with
  | nil => exact start
  | cons packet rest =>
    -- The first packet may begin the frame; the invariant holds from there on.
    obtain ⟨size, rfl, four⟩ := streamed packet (List.mem_cons_self ..)
    have stored := Fitting.store size four each.1 (fitting_first nothing agrees)
    exact ⟨start, stored.always
      (fun other member => streamed other (List.mem_cons_of_mem _ member)) each.2⟩

/-- A packet of frame two with a raw line number. -/
def packetAt (lineNumRaw : UInt16) : PayloadPacket where
  size := c64VideoPacketSize
  frameNum := 2
  lineNumRaw := lineNumRaw
  linesPerPacket := 4
  positive := fourLines_positive
  payload := []

def emptyStorage : StorageRun := ⟨freshContext, fun _ => none, []⟩

/-- Three packets of a frame of twelve lines, the last one first. -/
theorem completeFrames_whole_three :
    Always StorageRun.step StorageRun.Whole emptyStorage
      [packetAt 0x8008, packetAt 0, packetAt 4] := by
  refine @completeFrames_whole _ _ 2 _ (fun same => (by cases same)) (fun place => ?_)
    (fun packet member => ?_) (by decide +kernel)
  · simp [freshContext]
  · simp only [List.mem_cons, List.not_mem_nil, or_false] at member
    rcases member with rfl | rfl | rfl <;> exact ⟨rfl, rfl, rfl⟩

/-- A frame counts as complete without its first packet, because one behind its last is counted;
and with a packet between the places, without its first line. -/
theorem strayPackets_incomplete :
    (∃ run, [packetAt 20, packetAt 0x8004].foldl StorageRun.step emptyStorage = run ∧
      c64IsFrameComplete run.context.currentFrame = true ∧ run.packets 0 = none ∧ ¬ run.Whole) ∧
    ∃ run, emptyStorage.step (packetAt 0x8001) = run ∧
      c64IsFrameComplete run.context.currentFrame = true ∧
      writtenLines run.packets 5 0 = none ∧ ¬ run.Whole := by
  constructor
  · refine ⟨_, rfl, by decide +kernel, by decide +kernel, fun whole => ?_⟩
    have first := (whole (by decide +kernel) (by decide +kernel)).1 0 (by decide +kernel)
    exact absurd first (by decide +kernel)
  · refine ⟨_, rfl, by decide +kernel, by decide +kernel, fun whole => ?_⟩
    have first :=
      (whole (by decide +kernel) (by decide +kernel)).2 5 0 (by decide) (by decide +kernel)
    exact absurd first (by decide +kernel)

end Completeness

end C64Stream
