import C64Stream.Stream.CompleteFrames

/-! Pictures of frames: what the viewer and the recorder are handed. -/

namespace C64Stream

section Colors

def c64PixelsPerLine : Nat := 384

/-- The colors of the two pixels of a byte, the left one in the lower half. -/
def c64ColorBuildLut (palette : Vector UInt32 16) (pair : UInt8) : UInt64 :=
  let color1 := pair &&& 0x0F
  let color2 := pair >>> 4 &&& 0x0F
  (palette.get (Fin.ofNat 16 color2.toNat)).toUInt64 <<< 32 |||
    (palette.get (Fin.ofNat 16 color1.toNat)).toUInt64

/-- Convert bytes to pairs of pixels, four at a time as long as there are as many. -/
def c64ConvertPixelsOptimized (lut : UInt8 → UInt64) (source : List UInt8) : List UInt64 :=
  match source with
  | pp0 :: pp1 :: pp2 :: pp3 :: rest =>
    lut pp0 :: lut pp1 :: lut pp2 :: lut pp3 :: c64ConvertPixelsOptimized lut rest
  | remaining => remaining.map lut

/-- A pixel of a frame buffer, whose lines have two pixels in each entry. -/
def pixelAt (frameBuffer : Nat → List UInt64) (x y : Nat) : UInt32 :=
  let pair := (frameBuffer y).getD (x / 2) 0
  if x % 2 = 0 then pair.toUInt32 else (pair >>> 32).toUInt32

/-- The color of a pixel that is encoded in a byte together with its neighbor. -/
def nibbleColor (palette : Vector UInt32 16) (pair : UInt8) (x : Nat) : UInt32 :=
  let nibble := if x % 2 = 0 then pair.toNat % 16 else pair.toNat / 16
  palette.get (Fin.ofNat 16 nibble)

end Colors

section Halves

theorem convertPixels_eq_map (lut : UInt8 → UInt64) (source : List UInt8) :
    c64ConvertPixelsOptimized lut source = source.map lut := by
  induction source using c64ConvertPixelsOptimized.induct with
  | case1 pp0 pp1 pp2 pp3 rest ih =>
    rw [c64ConvertPixelsOptimized, ih]
    rfl
  | case2 remaining few =>
    rw [c64ConvertPixelsOptimized]
    exact few

theorem halves_of_pair (left right : UInt32) :
    (right.toUInt64 <<< 32 ||| left.toUInt64).toUInt32 = left ∧
      ((right.toUInt64 <<< 32 ||| left.toUInt64) >>> 32).toUInt32 = right := by
  constructor
  · apply UInt32.toBitVec_inj.mp
    ext bit inside
    simp
  · apply UInt32.toBitVec_inj.mp
    ext bit inside
    have below : 32 + bit < 64 := by omega
    have low : bit < 64 := by omega
    simp [below, low, BitVec.getLsbD_eq_getElem inside]

theorem lut_halves (palette : Vector UInt32 16) (pair : UInt8) (x : Nat) :
    (if x % 2 = 0 then (c64ColorBuildLut palette pair).toUInt32
      else (c64ColorBuildLut palette pair >>> 32).toUInt32) = nibbleColor palette pair x := by
  have low : (pair &&& 0x0F).toNat = pair.toNat % 16 := by
    rw [UInt8.toNat_and]
    exact Nat.and_two_pow_sub_one_eq_mod _ 4
  have high : (pair >>> 4 &&& 0x0F).toNat = pair.toNat / 16 := by
    have bound := pair.toNat_lt
    rw [UInt8.toNat_and, UInt8.toNat_shiftRight]
    change pair.toNat >>> 4 &&& 15 = pair.toNat / 16
    rw [show (15 : Nat) = 2 ^ 4 - 1 from rfl, Nat.and_two_pow_sub_one_eq_mod,
      Nat.shiftRight_eq_div_pow]
    omega
  unfold c64ColorBuildLut nibbleColor
  simp only [low, high, halves_of_pair]
  split <;> rfl

end Halves

section Afterglow

abbrev Picture : Type := Nat → Nat → UInt32

/-- The afterglow of a source. -/
structure Afterglow where
  /-- Whether it is enabled, with a duration. -/
  enabled : Bool
  /-- What is left of a value after a frame interval, for red, green and blue. -/
  trail : UInt64 → Nat → UInt8 → UInt8
  /-- The picture before, with its number of pixels, if there is one. -/
  accum : Option (Nat × Picture)

/-- A pixel that glows from the picture before. -/
def glowPixel (trail : Nat → UInt8 → UInt8) (previous current : UInt32) : UInt32 :=
  let channel := fun index : Nat =>
    let shift := UInt32.ofNat (8 * index)
    (max (current >>> shift).toUInt8 (trail index (previous >>> shift).toUInt8)).toUInt32 <<< shift
  0xFF000000 ||| channel 2 ||| channel 1 ||| channel 0

/-- The picture for the viewer, which is the next one to glow. -/
def c64AfterglowApply (afterglow : Afterglow) (frameIntervalNs : UInt64) (pixelCount : Nat)
    (current : Picture) : Picture :=
  match afterglow.accum with
  | some (count, previous) =>
    if count = pixelCount then
      fun x y => glowPixel (afterglow.trail frameIntervalNs) (previous x y) (current x y)
    else current
  | none => current

end Afterglow

section Rendering

/-- A frame that was rendered. -/
structure RenderedFrame where
  frameNum : UInt16
  height : UInt32
  frameBuffer : Nat → List UInt64
  /-- What the viewer is handed, unless the frame has no timestamp. -/
  viewed : Option Picture
  /-- What the recorder is handed. -/
  recorded : Option Picture

/-- The height that is shown behind a packet, which may announce another one. -/
def StreamContext.heightBehind (context : StreamContext) (packet : VideoPacket)
    (height : UInt32) : UInt32 :=
  if packet.size = c64VideoPacketSize ∧ context.announces packet ∧
      packet.reportedFrameHeight = c64ClampFrameHeight packet.reportedFrameHeight ∧
      (context.formatDetected = false ∨
        context.detectedFrameHeight ≠ packet.reportedFrameHeight) then
    packet.reportedFrameHeight
  else height

/-- The parts of a source that decide about its pictures; places are taken by the packets that are
stored, and the height is the one that was detected last. -/
structure VideoSource where
  context : StreamContext
  packets : FrameStorage
  height : UInt32
  frameBuffer : Nat → List UInt64
  afterglow : Afterglow
  recordVideo : Bool
  rendered : List RenderedFrame
  taken : ∀ place, place ∈ context.currentFrame.received ↔ (packets place).isSome = true
  known : context.formatDetected = true → height = context.detectedFrameHeight

/-- The timestamp that the frame under assembly is rendered with, zero if there is none. -/
def VideoSource.timestamp (source : VideoSource) : UInt64 :=
  (c64CalculateIdealTimestamp source.context source.context.currentFrame.frameNum).1

/-- The frame under assembly as it is rendered. -/
def VideoSource.renderedFrame (palette : Vector UInt32 16) (source : VideoSource) :
    RenderedFrame :=
  let frameBuffer := c64AssembleFrameWithInterpolation (c64ColorBuildLut palette) source.packets
    source.height.toNat source.frameBuffer
  let raw := pixelAt frameBuffer
  let viewed :=
    if source.afterglow.enabled then
      c64AfterglowApply source.afterglow source.context.frameIntervalNs
        (c64PixelsPerLine * source.height.toNat) raw
    else raw
  { frameNum := source.context.currentFrame.frameNum
    height := source.height
    frameBuffer
    -- Without a timestamp nothing is handed on.
    viewed := if source.timestamp = 0 then none else some viewed
    recorded := if source.timestamp = 0 ∨ source.recordVideo = false then none else some raw }

/-- The afterglow behind a frame. -/
def Afterglow.behind (afterglow : Afterglow) (frame : RenderedFrame) : Afterglow :=
  match afterglow.enabled, frame.viewed with
  | true, some viewed =>
    { afterglow with accum := some (c64PixelsPerLine * frame.height.toNat, viewed) }
  | _, _ => afterglow

end Rendering

section Steps

variable {context : StreamContext} {packets : FrameStorage}

theorem storePacket_places {packet : PayloadPacket} (size : packet.size = c64VideoPacketSize)
    (place : Nat) :
    storePacket context packets packet place =
      if place = packet.packetIndex ∧ place < c64MaxPacketsPerFrame ∧
          storageFor context packets packet.toVideoPacket place = none then
        some ⟨packet.lineNum, packet.linesPerPacket, packet.payload⟩
      else storageFor context packets packet.toVideoPacket place := by
  rw [storePacket, if_neg (not_not_intro size)]
  by_cases here : place = packet.packetIndex
  · subst here
    simp only [true_and]
    split
    · rw [Function.update_self]
    · rfl
  · simp only [here, false_and, if_false]
    split
    · rw [Function.update_of_ne here]
    · rfl

theorem storePacket_taken
    (taken : ∀ place, place ∈ context.currentFrame.received ↔ (packets place).isSome = true)
    (packet : PayloadPacket) (place : Nat) :
    place ∈ (c64ProcessVideoPacketDirect context packet.toVideoPacket).1.currentFrame.received ↔
      (storePacket context packets packet place).isSome = true := by
  by_cases size : packet.size = c64VideoPacketSize
  · -- The frame that the packet is added to has its places taken in the same way.
    have before : place ∈ (context.frameFor packet.toVideoPacket).received ↔
        (storageFor context packets packet.toVideoPacket place).isSome = true := by
      unfold StreamContext.frameFor storageFor
      split
      · simp
      · exact taken place
    rw [(process_frame context size).1, storePacket_places size]
    simp only [mem_addPacket, before]
    cases held : storageFor context packets packet.toVideoPacket place with
    | some stored => simp
    | none =>
      by_cases here : place = packet.packetIndex ∧ place < c64MaxPacketsPerFrame
      · obtain ⟨rfl, room⟩ := here
        simp [room]
      · rw [if_neg fun free => here ⟨free.1, free.2.1⟩]
        simp only [Option.isSome_none, Bool.false_eq_true, false_or, iff_false]
        rintro ⟨rfl, room⟩
        exact here ⟨rfl, room⟩
  · rw [c64ProcessVideoPacketDirect, if_pos size, storePacket, if_pos size]
    exact taken place

theorem renderFrame_format (context : StreamContext) :
    (c64RenderFrameDirect context).1.formatDetected = context.formatDetected ∧
      (c64RenderFrameDirect context).1.detectedFrameHeight = context.detectedFrameHeight := by
  have kept : (c64CalculateIdealTimestamp context context.currentFrame.frameNum).2.formatDetected =
        context.formatDetected ∧
      (c64CalculateIdealTimestamp context context.currentFrame.frameNum).2.detectedFrameHeight =
        context.detectedFrameHeight := by
    unfold c64CalculateIdealTimestamp
    simp only
    split_ifs <;> exact ⟨rfl, rfl⟩
  unfold c64RenderFrameDirect
  simp only
  split_ifs <;> exact kept

theorem beginFrame_format (context : StreamContext) (frameNum : UInt16) :
    (context.beginFrame frameNum).1.formatDetected = context.formatDetected ∧
      (context.beginFrame frameNum).1.detectedFrameHeight = context.detectedFrameHeight := by
  by_cases shown : context.showsFrame = true
  · rw [StreamContext.beginFrame, if_pos shown]
    exact renderFrame_format context
  · rw [StreamContext.beginFrame, if_neg shown]
    exact ⟨rfl, rfl⟩

theorem addVideoPacket_format (context : StreamContext) (packet : VideoPacket) :
    let after := context.addVideoPacket packet
    let gives := (packet.isLast = true ∧ context.currentFrame.expectedPackets = 0) ∧
      packet.reportedFrameHeight = c64ClampFrameHeight packet.reportedFrameHeight
    (gives → after.formatDetected = true ∧
      after.detectedFrameHeight = packet.reportedFrameHeight) ∧
    (¬ gives → after.formatDetected = context.formatDetected ∧
      after.detectedFrameHeight = context.detectedFrameHeight) := by
  have kept := (addPacket_kept context.currentFrame packet.packetIndex).2
  have test : (packet.isLast &&
      (context.currentFrame.addPacket packet.packetIndex).expectedPackets == 0) = true ↔
        packet.isLast = true ∧ context.currentFrame.expectedPackets = 0 := by
    rw [kept, Bool.and_eq_true, beq_iff_eq]
  rw [StreamContext.addVideoPacket]
  simp only [← VideoPacket.lineNum.eq_1, ← VideoPacket.packetIndex.eq_1,
    ← VideoPacket.isLast.eq_1, ← VideoPacket.reportedFrameHeight.eq_1, test]
  constructor
  · rintro ⟨announces, valid⟩
    rw [if_pos announces, if_neg (not_not_intro valid), StreamContext.detectFormat]
    split
    · exact ⟨rfl, rfl⟩
    · -- The format is the one that was detected before.
      rename_i same
      simpa using same
  · intro gives
    by_cases announces : packet.isLast = true ∧ context.currentFrame.expectedPackets = 0
    · rw [if_pos announces, if_pos fun valid => gives ⟨announces, valid⟩]
      exact ⟨rfl, rfl⟩
    · rw [if_neg announces]
      exact ⟨rfl, rfl⟩

theorem process_format (context : StreamContext) {packet : VideoPacket}
    (size : packet.size = c64VideoPacketSize) :
    let after := (c64ProcessVideoPacketDirect context packet).1
    let gives := context.announces packet ∧
      packet.reportedFrameHeight = c64ClampFrameHeight packet.reportedFrameHeight
    (gives → after.formatDetected = true ∧
      after.detectedFrameHeight = packet.reportedFrameHeight) ∧
    (¬ gives → after.formatDetected = context.formatDetected ∧
      after.detectedFrameHeight = context.detectedFrameHeight) := by
  unfold c64ProcessVideoPacketDirect StreamContext.announces
  rw [if_neg (not_not_intro size)]
  by_cases other : context.currentFrame.frameNum ≠ packet.frameNum
  · have frame : context.frameFor packet = (context.beginFrame packet.frameNum).1.currentFrame := by
      rw [StreamContext.frameFor, if_pos other, StreamContext.beginFrame]
    obtain ⟨detected, height⟩ := beginFrame_format context packet.frameNum
    rw [if_pos other, frame, ← detected, ← height]
    exact addVideoPacket_format _ _
  · have frame : context.frameFor packet = context.currentFrame := by
      rw [StreamContext.frameFor, if_neg other]
    rw [if_neg other, frame]
    exact addVideoPacket_format _ _

theorem heightBehind_known {height : UInt32}
    (known : context.formatDetected = true → height = context.detectedFrameHeight)
    (packet : VideoPacket)
    (detected : (c64ProcessVideoPacketDirect context packet).1.formatDetected = true) :
    context.heightBehind packet height =
      (c64ProcessVideoPacketDirect context packet).1.detectedFrameHeight := by
  unfold StreamContext.heightBehind
  by_cases size : packet.size = c64VideoPacketSize
  · obtain ⟨given, kept⟩ := process_format context size
    by_cases gives : context.announces packet ∧
        packet.reportedFrameHeight = c64ClampFrameHeight packet.reportedFrameHeight
    · rw [(given gives).2]
      split
      · rfl
      · -- The same height was detected before.
        rename_i same
        simp only [size, gives.1, true_and, not_and, not_or] at same
        obtain ⟨before, equal⟩ := same gives.2
        rw [known (by simpa using before)]
        exact not_not.mp equal
    · obtain ⟨same, height⟩ := kept gives
      rw [if_neg fun all => gives ⟨all.2.1, all.2.2.1⟩, height]
      exact known (same.symm.trans detected)
  · rw [if_neg fun all => size all.1]
    rw [c64ProcessVideoPacketDirect, if_pos size] at detected ⊢
    exact known detected

end Steps

section Runs

/-- A frame is rendered when a packet lets it be shown. -/
def VideoSource.render (palette : Vector UInt32 16) (source : VideoSource) : VideoSource :=
  let frame := source.renderedFrame palette
  { source with
    frameBuffer := frame.frameBuffer
    afterglow := source.afterglow.behind frame
    rendered := source.rendered ++ [frame] }

/-- A packet is processed. -/
def VideoSource.step (palette : Vector UInt32 16) (source : VideoSource)
    (packet : PayloadPacket) : VideoSource :=
  let shown :=
    if source.context.shows packet.toVideoPacket then source.render palette else source
  { shown with
    context := (c64ProcessVideoPacketDirect source.context packet.toVideoPacket).1
    packets := storePacket source.context source.packets packet
    height := source.context.heightBehind packet.toVideoPacket source.height
    taken := storePacket_taken source.taken packet
    known := heightBehind_known source.known packet.toVideoPacket }

/-- The frames of a source that were rendered, by their numbers. -/
def VideoSource.frames (source : VideoSource) : FrameRun :=
  ⟨source.context, source.rendered.map RenderedFrame.frameNum⟩

theorem rendered_step (palette : Vector UInt32 16) (source : VideoSource)
    (packet : PayloadPacket) :
    (source.step palette packet).rendered = source.rendered ++
      if source.context.shows packet.toVideoPacket then [source.renderedFrame palette] else [] := by
  unfold VideoSource.step
  by_cases shows : source.context.shows packet.toVideoPacket
  · simp only [if_pos shows]
    rfl
  · simp only [if_neg shows, List.append_nil]

theorem frames_step (palette : Vector UInt32 16) (source : VideoSource) (packet : PayloadPacket) :
    (source.step palette packet).frames = source.frames.step packet.toVideoPacket := by
  have context : (source.step palette packet).context =
      (source.frames.step packet.toVideoPacket).context := rfl
  have rendered : (source.step palette packet).rendered.map RenderedFrame.frameNum =
      (source.frames.step packet.toVideoPacket).rendered := by
    by_cases shows : source.context.shows packet.toVideoPacket
    · have run : (source.frames.step packet.toVideoPacket).rendered =
          source.frames.rendered ++ [source.context.currentFrame.frameNum] := if_pos shows
      rw [run, rendered_step, if_pos shows, List.map_append]
      rfl
    · have run : (source.frames.step packet.toVideoPacket).rendered =
          source.frames.rendered := if_neg shows
      rw [run, rendered_step, if_neg shows, List.append_nil]
      rfl
  rw [VideoSource.frames, context, rendered]

theorem frames_foldl (palette : Vector UInt32 16) (source : VideoSource)
    (packets : List PayloadPacket) :
    (packets.foldl (VideoSource.step palette) source).frames =
      (packets.map PayloadPacket.toVideoPacket).foldl FrameRun.step source.frames := by
  induction packets generalizing source with
  | nil => rfl
  | cons packet rest ih => rw [List.foldl_cons, ih, frames_step, List.map_cons, List.foldl_cons]

end Runs

section Collecting

/-- A packet as it is stored. -/
def PayloadPacket.stored (packet : PayloadPacket) : FramePacket :=
  ⟨packet.lineNum, packet.linesPerPacket, packet.payload⟩

/-- Each place holds the first packet that was received for it. -/
def HoldsFirst (seen : List PayloadPacket) (packets : FrameStorage) : Prop :=
  ∀ place < c64MaxPacketsPerFrame,
    packets place = (seen.find? fun packet => packet.packetIndex == place).map
      PayloadPacket.stored

/-- A packet of a frame with a height: four lines of pixels, which are the last ones exactly if it
is marked so. -/
structure FrameOf (frameNum : UInt16) (height : Nat) (packet : PayloadPacket) : Prop where
  size : packet.size = c64VideoPacketSize
  number : packet.frameNum = frameNum
  lines : packet.linesPerPacket = 4
  aligned : packet.lineNum.toNat % 4 = 0
  inside : packet.lineNum.toNat < height
  last : packet.isLast = true ↔ packet.lineNum.toNat + 4 = height
  payload : packet.payload.length = 4 * c64BytesPerLine

/-- What is known of a frame under assembly of which packets have been seen. -/
structure Collecting (frameNum : UInt16) (height : Nat) (seen : List PayloadPacket)
    (frame : FrameAssembly) (packets : FrameStorage) (context : StreamContext) : Prop where
  assembling : Assembling frameNum (seen.map PayloadPacket.toVideoPacket) frame
  first : HoldsFirst seen packets
  detected : frame.expectedPackets ≠ 0 →
    context.formatDetected = true ∧ context.detectedFrameHeight.toNat = height

/-- A source that has seen packets of a frame. -/
abbrev VideoSource.Collects (source : VideoSource) (frameNum : UInt16) (height : Nat)
    (seen : List PayloadPacket) : Prop :=
  Collecting frameNum height seen source.context.currentFrame source.packets source.context

theorem HoldsFirst.store {seen : List PayloadPacket} {context : StreamContext}
    {packets : FrameStorage} {packet : PayloadPacket} (size : packet.size = c64VideoPacketSize)
    (first : HoldsFirst seen (storageFor context packets packet.toVideoPacket)) :
    HoldsFirst (seen ++ [packet]) (storePacket context packets packet) := by
  intro place room
  have before := first place room
  rw [storePacket_places size, List.find?_append, before]
  cases held : seen.find? fun packet => packet.packetIndex == place with
  | some earlier => simp
  | none =>
    by_cases here : packet.packetIndex = place
    · simp [here, room, PayloadPacket.stored]
    · simp [here, Ne.symm here]

variable {frameNum : UInt16} {height : Nat} {seen : List PayloadPacket} {source : VideoSource}

theorem collecting_first {packet : VideoPacket}
    (nothing : NothingArrived source.context packet.frameNum) :
    Collecting packet.frameNum height [] (source.context.frameFor packet)
      (storageFor source.context source.packets packet) source.context := by
  have assembling := frameFor_empty nothing
  refine ⟨assembling, fun place _ => ?_, fun announced => ?_⟩
  · -- No place is taken, so none holds a packet.
    unfold storageFor
    split
    · rfl
    · rename_i same
      have free := source.taken place
      rw [(nothing (not_not.mp same)).1] at free
      cases held : source.packets place with
      | none => rfl
      | some stored =>
        rw [held] at free
        exact absurd (free.mpr rfl) List.not_mem_nil
  · have none := assembling.expected
    exact absurd (UInt16.toNat_inj.mp none) announced

theorem Collecting.next {packet : VideoPacket}
    (collects : source.Collects packet.frameNum height seen) :
    Collecting packet.frameNum height seen (source.context.frameFor packet)
      (storageFor source.context source.packets packet) source.context := by
  have same := not_not_intro collects.assembling.number
  rw [StreamContext.frameFor, if_neg same, storageFor, if_neg same]
  exact collects

theorem Collecting.receive (palette : Vector UInt32 16) {packet : PayloadPacket}
    (range : 240 ≤ height ∧ height ≤ 272) (ofFrame : FrameOf frameNum height packet)
    (collecting : Collecting frameNum height seen
      (source.context.frameFor packet.toVideoPacket)
      (storageFor source.context source.packets packet.toVideoPacket) source.context) :
    (source.step palette packet).Collects frameNum height (seen ++ [packet]) := by
  refine ⟨?_, collecting.first.store ofFrame.size, fun announced => ?_⟩
  · rw [List.map_append]
    exact collecting.assembling.receive ofFrame.size
  · obtain ⟨given, kept⟩ := process_format source.context ofFrame.size
    by_cases announces : source.context.announces packet.toVideoPacket
    · -- The packet is the last one of its frame, and tells the height.
      have lines : packet.linesPerPacket.toUInt32.toNat = 4 := by
        rw [ofFrame.lines]
        rfl
      have tall : packet.reportedFrameHeight.toNat = height := by
        have sum := ofFrame.last.mp announces.1
        rw [VideoPacket.reportedFrameHeight, UInt32.toNat_add, lines, UInt16.toNat_toUInt32]
        omega
      have valid : packet.reportedFrameHeight =
          c64ClampFrameHeight packet.reportedFrameHeight := by
        have low : ¬ packet.reportedFrameHeight < c64NtscHeight := by
          rw [UInt32.lt_iff_toNat_lt, tall]
          exact not_lt.mpr range.1
        have high : ¬ c64PalHeight < packet.reportedFrameHeight := by
          rw [UInt32.lt_iff_toNat_lt, tall]
          exact not_lt.mpr range.2
        rw [c64ClampFrameHeight, if_neg low, if_neg high]
      obtain ⟨detected, reported⟩ := given ⟨announces, valid⟩
      exact ⟨detected, (congrArg UInt32.toNat reported).trans tall⟩
    · obtain ⟨detected, reported⟩ := kept fun gives => announces gives.1
      have expected := congrArg FrameAssembly.expectedPackets (process_frame source.context
        ofFrame.size).1
      simp only [if_neg announces] at expected
      obtain ⟨before, same⟩ := collecting.detected fun none =>
        announced (expected.trans none)
      exact ⟨detected.trans before, (congrArg UInt32.toNat reported).trans same⟩

theorem Collecting.foldl (palette : Vector UInt32 16) {packets : List PayloadPacket}
    (range : 240 ≤ height ∧ height ≤ 272)
    (ofFrame : ∀ packet ∈ packets, FrameOf frameNum height packet)
    (collects : source.Collects frameNum height seen) :
    (packets.foldl (VideoSource.step palette) source).Collects frameNum height
      (seen ++ packets) := by
  -- The induction is on the packets; none of them begins another frame.
  induction packets generalizing seen source with
  | nil => rwa [List.append_nil]
  | cons packet rest ih =>
    have here := ofFrame packet (List.mem_cons_self ..)
    obtain rfl := here.number
    have all := ih (fun other member => ofFrame other (List.mem_cons_of_mem _ member))
      (collects.next.receive palette range here)
    rwa [List.append_assoc] at all

theorem collects_frame (palette : Vector UInt32 16) {packets : List PayloadPacket}
    (range : 240 ≤ height ∧ height ≤ 272) (some : packets ≠ [])
    (nothing : NothingArrived source.context frameNum)
    (ofFrame : ∀ packet ∈ packets, FrameOf frameNum height packet) :
    (packets.foldl (VideoSource.step palette) source).Collects frameNum height packets := by
  cases packets with
  | nil => exact absurd rfl some
  | cons packet rest =>
    have here := ofFrame packet (List.mem_cons_self ..)
    obtain rfl := here.number
    exact ((collecting_first nothing).receive palette range here).foldl palette range
      fun other member => ofFrame other (List.mem_cons_of_mem _ member)

end Collecting

section Pixels

theorem writtenLines_eq {packets : FrameStorage} {height line index : Nat} {packet : FramePacket}
    (room : index < c64MaxPacketsPerFrame) (stored : packets index = some packet)
    (covers : packet.covers height line)
    (only : ∀ other < c64MaxPacketsPerFrame, other ≠ index → ∀ held,
      packets other = some held → ¬ held.covers height line) :
    writtenLines packets height line = some (packet.row line) := by
  -- The induction is on the places; the line is written at its place, and kept behind it.
  have general : ∀ (indices : List Nat) (written : Nat → Option (List UInt8)),
      (∀ other ∈ indices, other < c64MaxPacketsPerFrame) →
      index ∈ indices ∨ written line = some (packet.row line) →
      indices.foldl (fun written place => writePacket height written (packets place)) written
        line = some (packet.row line) := by
    intro indices
    induction indices with
    | nil =>
      rintro written - (absent | kept)
      · cases absent
      · exact kept
    | cons place rest ih =>
      intro written bounded found
      rw [List.foldl_cons]
      apply ih _ fun other member => bounded other (List.mem_cons_of_mem _ member)
      by_cases here : place = index
      · subst here
        right
        rw [stored, writePacket]
        exact if_pos covers
      · rcases found with member | kept
        · exact .inl ((List.mem_cons.mp member).resolve_left (Ne.symm here))
        · right
          cases held : packets place with
          | none => exact kept
          | some other =>
            have uncovered := only place (bounded place (List.mem_cons_self ..)) here other held
            exact (if_neg uncovered).trans kept
  exact general _ _ (fun other member => List.mem_range.mp member) (.inl (List.mem_range.mpr room))

variable {frameNum : UInt16} {height : Nat} {packets : List PayloadPacket}

/-- The first packet that was received for the lines around a line. -/
def firstFor (packets : List PayloadPacket) (line : Nat) : Option PayloadPacket :=
  packets.find? fun packet => packet.lineNum.toNat == 4 * (line / 4)

theorem FrameOf.line {packet : PayloadPacket} (ofFrame : FrameOf frameNum height packet) :
    packet.lineNum.toNat = 4 * packet.packetIndex := by
  have lines : packet.linesPerPacket.toNat = 4 := by
    rw [ofFrame.lines]
    rfl
  have aligned := ofFrame.aligned
  rw [VideoPacket.packetIndex, lines]
  omega

theorem find_place (ofFrame : ∀ packet ∈ packets, FrameOf frameNum height packet) (line : Nat) :
    (packets.find? fun packet => packet.packetIndex == line / 4) = firstFor packets line := by
  apply List.find?_congr
  intro packet member
  have start := (ofFrame packet member).line
  rw [Bool.eq_iff_iff, beq_iff_eq, beq_iff_eq]
  omega

theorem writtenLines_first {storage : FrameStorage}
    (range : 240 ≤ height ∧ height ≤ 272)
    (ofFrame : ∀ packet ∈ packets, FrameOf frameNum height packet)
    (holds : HoldsFirst packets storage) {line : Nat} (below : line < height)
    {first : PayloadPacket} (found : firstFor packets line = some first) :
    writtenLines storage height line =
      some ((first.payload.drop ((line % 4) * c64BytesPerLine)).take c64BytesPerLine) := by
  have start : first.lineNum.toNat = 4 * (line / 4) := by simpa using List.find?_some found
  have lines : first.linesPerPacket.toNat = 4 := by
    rw [(ofFrame first (List.mem_of_find?_eq_some found)).lines]
    rfl
  have most : c64MaxPacketsPerFrame = 68 := rfl
  have room : line / 4 < c64MaxPacketsPerFrame := by omega
  have stored := holds (line / 4) room
  rw [find_place ofFrame, found, Option.map_some] at stored
  have covers : first.stored.covers height line := by
    refine ⟨?_, ?_, below⟩
    · change first.lineNum.toNat ≤ line
      omega
    · change line < first.lineNum.toNat + first.linesPerPacket.toNat
      omega
  have written := writtenLines_eq room stored covers fun other small different held kept => ?_
  · rw [written]
    unfold FramePacket.row PayloadPacket.stored
    rw [show line - first.lineNum.toNat = line % 4 by omega]
  · -- The packet at another place has other lines.
    rw [holds other small] at kept
    obtain ⟨packet, there, rfl⟩ := Option.map_eq_some_iff.mp kept
    have place : packet.packetIndex = other := by simpa using List.find?_some there
    have own := ofFrame packet (List.mem_of_find?_eq_some there)
    have begins := own.line
    have four : packet.linesPerPacket.toNat = 4 := by
      rw [own.lines]
      rfl
    rintro ⟨above, behind, -⟩
    change packet.lineNum.toNat ≤ line at above
    change line < packet.lineNum.toNat + packet.linesPerPacket.toNat at behind
    omega

/-- The pixels of a picture have the colors that the first packets for their lines encode. -/
def PixelExact (palette : Vector UInt32 16) (packets : List PayloadPacket) (height : Nat)
    (picture : Picture) : Prop :=
  ∀ x < c64PixelsPerLine, ∀ y < height, ∃ first, firstFor packets y = some first ∧
    picture x y =
      nibbleColor palette (first.payload.getD (c64BytesPerLine * (y % 4) + x / 2) 0) x

/-- The packets of a frame, and all of them. -/
structure WholeFrame (frameNum : UInt16) (height : Nat) (packets : List PayloadPacket) : Prop where
  range : 240 ≤ height ∧ height ≤ 272
  multiple : height % 4 = 0
  ofFrame : ∀ packet ∈ packets, FrameOf frameNum height packet
  every : ∀ line < height, (firstFor packets line).isSome = true

theorem assembled_exact (palette : Vector UInt32 16) (whole : WholeFrame frameNum height packets)
    {storage : FrameStorage} (holds : HoldsFirst packets storage)
    (frameBuffer : Nat → List UInt64) :
    PixelExact palette packets height (pixelAt (c64AssembleFrameWithInterpolation
      (c64ColorBuildLut palette) storage height frameBuffer)) := by
  intro x inLine y inFrame
  obtain ⟨first, found⟩ := Option.isSome_iff_exists.mp (whole.every y inFrame)
  refine ⟨first, found, ?_⟩
  have written := writtenLines_first whole.range whole.ofFrame holds inFrame found
  have payload := (whole.ofFrame first (List.mem_of_find?_eq_some found)).payload
  have sizes : c64PixelsPerLine = 384 ∧ c64BytesPerLine = 192 := ⟨rfl, rfl⟩
  have inside : x / 2 < c64BytesPerLine := by omega
  have within : y % 4 * c64BytesPerLine + x / 2 < first.payload.length := by
    have row := Nat.mod_lt y (show 0 < 4 by decide)
    rw [payload, sizes.2]
    omega
  rw [← lut_halves, pixelAt, assembleFrame_written _ _ whole.range.2 inFrame written]
  -- The entry of the pixel is that of the byte at its place in the packet.
  rw [List.getD_eq_getElem?_getD, List.getD_eq_getElem?_getD, List.getElem?_map,
    List.getElem?_take_of_lt inside, List.getElem?_drop, Nat.mul_comm c64BytesPerLine,
    List.getElem?_eq_getElem within, Option.map_some, Option.getD_some, Option.getD_some]

end Pixels

section Pictures

variable {frameNum : UInt16} {height : Nat} {packets : List PayloadPacket}

theorem WholeFrame.counts (whole : WholeFrame frameNum height packets) :
    CountsItsLast (packets.map PayloadPacket.toVideoPacket) := by
  obtain ⟨⟨low, high⟩, multiple, ofFrame, every⟩ := whole
  have most : c64MaxPacketsPerFrame = 68 := rfl
  obtain ⟨bottom, found⟩ := Option.isSome_iff_exists.mp (every (height - 1) (by omega))
  have member := List.mem_of_find?_eq_some found
  have start : bottom.lineNum.toNat = 4 * ((height - 1) / 4) := by
    simpa using List.find?_some found
  have marked : bottom.isLast = true := (ofFrame bottom member).last.mpr (by omega)
  -- The first packet that is marked is placed where the last lines are.
  cases first : (packets.map PayloadPacket.toVideoPacket).find? VideoPacket.isLast with
  | none =>
    have unmarked := List.find?_eq_none.mp first _ (List.mem_map_of_mem member)
    exact absurd marked unmarked
  | some last =>
    refine ⟨last, first, ?_⟩
    obtain ⟨packet, among, rfl⟩ := List.mem_map.mp (List.mem_of_find?_eq_some first)
    have own := ofFrame packet among
    have line := own.line
    have lines := own.last.mp (List.find?_some first)
    have all : Finset.range (height / 4) ⊆
        placesOf (packets.map PayloadPacket.toVideoPacket) := by
      intro place inFrame
      have small := Finset.mem_range.mp inFrame
      obtain ⟨other, there⟩ := Option.isSome_iff_exists.mp (every (4 * place) (by omega))
      have among := List.mem_of_find?_eq_some there
      have begins : other.lineNum.toNat = 4 * (4 * place / 4) := by
        simpa using List.find?_some there
      have place := (ofFrame other among).line
      exact mem_placesOf.mpr ⟨⟨other.toVideoPacket, List.mem_map_of_mem among, by omega⟩, by omega⟩
    have card := Finset.card_le_card all
    rw [Finset.card_range] at card
    omega

theorem WholeFrame.sized (whole : WholeFrame frameNum height packets) :
    OfFrame frameNum (packets.map PayloadPacket.toVideoPacket) := by
  intro packet member
  obtain ⟨packet, among, rfl⟩ := List.mem_map.mp member
  exact ⟨(whole.ofFrame packet among).size, (whole.ofFrame packet among).number⟩

theorem WholeFrame.some (whole : WholeFrame frameNum height packets) : packets ≠ [] := by
  rintro rfl
  obtain ⟨_, first, -⟩ := whole.counts
  cases first

theorem WholeFrame.shows_iff (whole : WholeFrame frameNum height packets)
    (palette : Vector UInt32 16) {source : VideoSource}
    (nothing : NothingArrived source.context frameNum) {next : PayloadPacket}
    (size : next.size = c64VideoPacketSize) (other : next.frameNum ≠ frameNum) :
    (packets.foldl (VideoSource.step palette) source).context.shows next.toVideoPacket ↔
      source.context.notRenderedYet frameNum := by
  have some : packets.map PayloadPacket.toVideoPacket ≠ [] := by
    simpa using whole.some
  obtain ⟨assembling, completed, -⟩ := @frame_assembled frameNum _ whole.sized some source.frames
    nothing
  rw [← frames_foldl palette] at assembling completed
  have shown := assembling.showsFrame_iff
  rw [completed] at shown
  constructor
  · rintro ⟨-, -, shows⟩
    exact (shown.mp shows).2
  · intro yet
    exact ⟨size, assembling.number.trans_ne other.symm, shown.mpr ⟨whole.counts, yet⟩⟩

/-- What a frame is shown and recorded as: exact pixels for the recorder, and for the viewer unless
they glow from the frame before. -/
structure Pictured (palette : Vector UInt32 16) (packets : List PayloadPacket) (height : Nat)
    (source : VideoSource) (frame : RenderedFrame) : Prop where
  tall : frame.height.toNat = height
  pixels : PixelExact palette packets height (pixelAt frame.frameBuffer)
  recorded : frame.recorded =
    if source.timestamp = 0 ∨ source.recordVideo = false then none
    else some (pixelAt frame.frameBuffer)
  viewed : frame.viewed =
    if source.timestamp = 0 then none
    else if source.afterglow.enabled then
      some (c64AfterglowApply source.afterglow source.context.frameIntervalNs
        (c64PixelsPerLine * height) (pixelAt frame.frameBuffer))
    else some (pixelAt frame.frameBuffer)

theorem WholeFrame.pictured (whole : WholeFrame frameNum height packets)
    (palette : Vector UInt32 16) {assembled : VideoSource}
    (collects : assembled.Collects frameNum height packets) :
    Pictured palette packets height assembled (assembled.renderedFrame palette) := by
  have tall : assembled.height.toNat = height := by
    -- The last packet of the frame has told the height.
    obtain ⟨last, found, -⟩ := whole.counts
    have expected := collects.assembling.expected
    rw [found] at expected
    obtain ⟨detected, same⟩ := collects.detected fun none => by
      rw [none] at expected
      cases expected
    rw [assembled.known detected, same]
  refine ⟨tall, ?_, rfl, ?_⟩
  · have exact := assembled_exact palette whole collects.first assembled.frameBuffer
    rw [← tall] at exact ⊢
    exact exact
  · rw [← tall, VideoSource.renderedFrame]
    simp only
    split
    · rfl
    · split <;> rfl

/-- A frame all of whose packets have arrived is rendered by the next packet, unless it was before,
with exactly the pixels that were received first. -/
theorem wholeFrame_pictured (palette : Vector UInt32 16) (source : VideoSource)
    (whole : WholeFrame frameNum height packets)
    (nothing : NothingArrived source.context frameNum) {next : PayloadPacket}
    (size : next.size = c64VideoPacketSize) (other : next.frameNum ≠ frameNum) :
    let assembled := packets.foldl (VideoSource.step palette) source
    (source.context.notRenderedYet frameNum →
      ∃ frame, (assembled.step palette next).rendered = assembled.rendered ++ [frame] ∧
        frame.frameNum = frameNum ∧ Pictured palette packets height assembled frame) ∧
    (¬ source.context.notRenderedYet frameNum →
      (assembled.step palette next).rendered = assembled.rendered) := by
  have collects := collects_frame palette whole.range whole.some nothing whole.ofFrame
  have shows := whole.shows_iff palette nothing size other
  generalize packets.foldl (VideoSource.step palette) source = assembled at collects shows
  simp only
  rw [rendered_step]
  constructor
  · intro yet
    rw [if_pos (shows.mpr yet)]
    exact ⟨_, rfl, collects.assembling.number, whole.pictured palette collects⟩
  · intro rendered
    rw [if_neg fun shown => rendered (shows.mp shown), List.append_nil]

/-- All packets of an NTSC frame, in which all pixels have the first color. -/
def plainFrame (frameNum : UInt16) : List PayloadPacket :=
  (List.range 60).map fun k =>
    { size := c64VideoPacketSize
      frameNum
      lineNumRaw := UInt16.ofNat (4 * k) ||| if k = 59 then 0x8000 else 0
      linesPerPacket := 4
      positive := fourLines_positive
      payload := List.replicate 768 0 }

/-- A source with an afterglow, which has shown a white frame. -/
def glowingSource (context : StreamContext) (enabled : Bool)
    (none : context.currentFrame.received = []) (undetected : context.formatDetected = false) :
    VideoSource where
  context
  packets := fun _ => .none
  height := c64NtscHeight
  frameBuffer := fun _ => []
  -- A duration of a tenth of a second with a linear curve.
  afterglow :=
    { enabled
      trail := fun _ channel value =>
        UInt8.ofNat (value.toNat * [8762, 8328, 7771].getD channel 0 / 10000)
      accum := some (c64PixelsPerLine * 240, fun _ _ => 0xFFFFFFFF) }
  recordVideo := true
  rendered := []
  taken := by simp [none]
  known := by simp [undetected]

/-- The first packet of the frame behind. -/
def packetBehind (frameNum : UInt16) : PayloadPacket where
  size := c64VideoPacketSize
  frameNum
  lineNumRaw := 0
  linesPerPacket := 4
  positive := fourLines_positive
  payload := List.replicate 768 0

/-- A source that has started. -/
def startedContext : StreamContext :=
  { freshContext with streamStartSet := true, streamStartNs := 1 }

theorem plainFrame_whole (frameNum : UInt16) : WholeFrame frameNum 240 (plainFrame frameNum) := by
  have fields : ∀ k < 60,
      (UInt16.ofNat (4 * k) ||| if k = 59 then 0x8000 else 0) &&& 0x7FFF = UInt16.ofNat (4 * k) ∧
      ((UInt16.ofNat (4 * k) ||| if k = 59 then 0x8000 else 0) &&& 0x8000 != 0) =
        decide (k = 59) := by
    decide +kernel
  have values : ∀ k < 60, (UInt16.ofNat (4 * k)).toNat = 4 * k := by
    intro k small
    rw [UInt16.toNat_ofNat']
    omega
  refine ⟨by decide, rfl, fun packet member => ?_, fun line inside => ?_⟩
  · obtain ⟨k, small, rfl⟩ := List.mem_map.mp member
    have small := List.mem_range.mp small
    obtain ⟨line, last⟩ := fields k small
    have value := values k small
    refine ⟨rfl, rfl, rfl, ?_, ?_, ?_, List.length_replicate⟩
    · rw [VideoPacket.lineNum, line, value]
      omega
    · rw [VideoPacket.lineNum, line, value]
      omega
    · rw [VideoPacket.isLast, last, VideoPacket.lineNum, line, value, decide_eq_true_iff]
      omega
  · rw [firstFor, List.find?_isSome]
    refine ⟨_, List.mem_map_of_mem (List.mem_range.mpr (show line / 4 < 60 by omega)), ?_⟩
    obtain ⟨start, -⟩ := fields (line / 4) (by omega)
    rw [beq_iff_eq, VideoPacket.lineNum, start, values (line / 4) (by omega)]

/-- A started source without an afterglow shows a frame with the first color everywhere. -/
theorem wholeFrame_pictured_plain :
    let source := glowingSource startedContext false rfl rfl
    let assembled := (plainFrame 2).foldl (VideoSource.step (Vector.replicate 16 7)) source
    ∃ frame, (assembled.step (Vector.replicate 16 7) (packetBehind 3)).rendered =
        assembled.rendered ++ [frame] ∧ frame.frameNum = 2 ∧
      Pictured (Vector.replicate 16 7) (plainFrame 2) 240 assembled frame :=
  (@wholeFrame_pictured 2 240 (plainFrame 2) (Vector.replicate 16 7)
    (glowingSource startedContext false rfl rfl) (plainFrame_whole 2)
    (fun same => by cases same) (packetBehind 3) rfl (by decide)).1 fun same => by cases same

/-- The viewer does not see the colors of a frame that glows from the one before; a frame with the
number that no frame was completed with yet is not rendered; and a source that has not started hands
nothing on. -/
theorem plainFrame_notPictured :
    (∀ frameNum, WholeFrame frameNum 240 (plainFrame frameNum)) ∧
    (let palette := Vector.replicate 16 0xFF000000
    let source := glowingSource startedContext true rfl rfl
    (((plainFrame 2).foldl (VideoSource.step palette) source).step palette
        (packetBehind 3)).rendered.map (fun frame => frame.viewed.map fun picture => picture 0 0) =
      [some 0xFFC6D4DF]) ∧
    (let palette := Vector.replicate 16 0xFF000000
    let source := glowingSource startedContext false rfl rfl
    (((plainFrame 0).foldl (VideoSource.step palette) source).step palette
        (packetBehind 1)).rendered.map RenderedFrame.frameNum = []) ∧
    (let palette := Vector.replicate 16 0xFF000000
    let source := glowingSource freshContext false rfl rfl
    (((plainFrame 2).foldl (VideoSource.step palette) source).step palette
        (packetBehind 3)).rendered.map (fun frame => frame.viewed.isSome || frame.recorded.isSome) =
      [false]) :=
  ⟨plainFrame_whole, by decide +kernel, by decide +kernel, by decide +kernel⟩

end Pictures

end C64Stream
