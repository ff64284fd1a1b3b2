import C64Stream.Lib.Lerp
import C64Stream.Lib.Riff
import C64Stream.Network.Buffer
import Mathlib.Data.List.GetD

/-! The sound that is made up for missing audio packets: a fade to silence, and a ramp out of it. -/

namespace C64Stream

section Fill

def audioPacketSamples : Nat := 192

def audioConcealMaxPackets : Nat := 25

def audioConcealFadeSamples : Nat := audioConcealMaxPackets * audioPacketSamples

def audioConcealRampSamples : Nat := 128

/-- The two channels of a sample. -/
inductive Channel where
  | left
  | right
  deriving DecidableEq

/-- The samples next to a gap. -/
structure AudioConcealFill where
  lastLeft : Int16
  lastRight : Int16
  nextLeft : Int16
  nextRight : Int16
  deriving DecidableEq

/-- The last sample before a gap. -/
def AudioConcealFill.last (fill : AudioConcealFill) (channel : Channel) : Int :=
  match channel with
  | .left => fill.lastLeft.toInt
  | .right => fill.lastRight.toInt

/-- The first sample behind a gap. -/
def AudioConcealFill.next (fill : AudioConcealFill) (channel : Channel) : Int :=
  match channel with
  | .left => fill.nextLeft.toInt
  | .right => fill.nextRight.toInt

/-- A wider number cut to a signed type of thirty-two bits. -/
def int32 (value : Int) : Int :=
  value.bmod 4294967296

/-- The held value at a position of the fill. -/
def concealHeldValue (last : Int) (s : Nat) : Int :=
  if audioConcealFadeSamples ≤ s then 0
  else int32 ((last * ((audioConcealFadeSamples - s : Nat) : Int)).tdiv audioConcealFadeSamples)

/-- The value at a position of the fill of so many packets, before it is cut to sixteen bits. -/
def concealFillValue (last next : Int) (n s : Nat) : Int :=
  let total := n * audioPacketSamples
  let rampLen := if total < audioConcealRampSamples then total else audioConcealRampSamples
  let rampStart := total - rampLen
  let held := concealHeldValue last s
  if rampStart ≤ s then
    let pos := s - rampStart + 1
    held + int32 (((next - held) * (pos : Int)).tdiv rampLen)
  else held

/-- The bytes of one sample, the lower one first. -/
def sampleBytes (value : Int) : List UInt8 :=
  let bits := (Int16.ofInt value).toUInt16
  [(bits &&& 0xFF).toUInt8, (bits >>> 8 &&& 0xFF).toUInt8]

/-- Packet `k` of the fill for `n` missing packets; without a fill or past its end it is silent. -/
def c64AudioConcealFillPacket (fill : Option AudioConcealFill) (k n : Nat) : List UInt8 :=
  match fill with
  | none => List.replicate (audioPacketSamples * 4) 0
  | some fill =>
    if n = 0 ∨ n ≤ k then List.replicate (audioPacketSamples * 4) 0
    else
      (List.range audioPacketSamples).flatMap fun i =>
        let s := k * audioPacketSamples + i
        sampleBytes (concealFillValue (fill.last .left) (fill.next .left) n s) ++
          sampleBytes (concealFillValue (fill.last .right) (fill.next .right) n s)

/-- All packets of the fill for a gap, one behind the other. -/
def concealFillPackets (fill : AudioConcealFill) (n : Nat) : List UInt8 :=
  (List.range n).flatMap fun k => c64AudioConcealFillPacket (some fill) k n

/-- The sample of a channel at a position of some packets. -/
def sampleAt (pcm : List UInt8) (frame : Nat) (channel : Channel) : Int :=
  match channel with
  | .left => int16 (readUint16 pcm (frame * 4))
  | .right => int16 (readUint16 pcm (frame * 4 + 2))

def maxStep : Int := 600

end Fill

section Values

variable {s : Nat}

/-- Whether a value can be a sample. -/
def FitsSample (value : Int) : Prop :=
  -32768 ≤ value ∧ value ≤ 32767

theorem fitsSample_toInt (sample : Int16) : FitsSample sample.toInt := by
  have lower := Int16.le_toInt sample
  have upper := Int16.toInt_lt sample
  unfold FitsSample
  omega

theorem AudioConcealFill.fits (fill : AudioConcealFill) (channel : Channel) :
    FitsSample (fill.last channel) ∧ FitsSample (fill.next channel) := by
  cases channel <;> exact ⟨fitsSample_toInt _, fitsSample_toInt _⟩

theorem int32_of_fits {value : Int} (lower : -2147483648 ≤ value) (upper : value < 2147483648) :
    int32 value = value :=
  Int.bmod_eq_of_le (by omega) (by omega)

theorem concealHeldValue_eq {last : Int} (fits : FitsSample last) (s : Nat) :
    concealHeldValue last s =
      lerp 0 last audioConcealFadeSamples (audioConcealFadeSamples - s) := by
  -- Past the fade the way back has been walked to its start.
  unfold concealHeldValue
  split
  next past => rw [Nat.sub_eq_zero_of_le past, lerp_zero]
  next inside =>
    have bounds := @lerp_between (-32768) 32767 0 last audioConcealFadeSamples
      (audioConcealFadeSamples - s) (by omega) fits (by decide) (Nat.sub_le _ _)
    have value : (last * ((audioConcealFadeSamples - s : Nat) : Int)).tdiv
        audioConcealFadeSamples =
        lerp 0 last audioConcealFadeSamples (audioConcealFadeSamples - s) := by
      rw [lerp, Int.sub_zero, Int.zero_add]
    rw [value]
    exact int32_of_fits (by omega) (by omega)

theorem concealHeldValue_fits {last : Int} (fits : FitsSample last) (s : Nat) :
    FitsSample (concealHeldValue last s) := by
  rw [concealHeldValue_eq fits]
  exact lerp_between ⟨by decide, by decide⟩ fits (by decide) (Nat.sub_le _ _)

theorem concealHeldValue_zero {last : Int} (fits : FitsSample last) :
    concealHeldValue last 0 = last := by
  rw [concealHeldValue_eq fits, Nat.sub_zero, lerp_last _ _ (by decide)]

theorem concealHeldValue_step {last : Int} (fits : FitsSample last) (s : Nat) :
    |concealHeldValue last (s + 1) - concealHeldValue last s| ≤ 8 := by
  rw [concealHeldValue_eq fits, concealHeldValue_eq fits]
  by_cases inside : s < audioConcealFadeSamples
  · -- Within the fade, two neighbours are one step of the way apart.
    have position : audioConcealFadeSamples - s = audioConcealFadeSamples - (s + 1) + 1 := by
      omega
    have far : |last - 0| ≤ 32768 := by
      unfold FitsSample at fits
      rw [abs_le]
      omega
    have step := @lerp_step 0 0 last 32768 0 audioConcealFadeSamples
      (audioConcealFadeSamples - (s + 1)) far (by decide) (by decide) (by omega)
    rw [position, abs_sub_comm]
    have fade : (audioConcealFadeSamples : Int) = 4800 := rfl
    rw [fade] at step
    omega
  · have past : audioConcealFadeSamples - s = 0 ∧ audioConcealFadeSamples - (s + 1) = 0 := by
      omega
    rw [past.1, past.2]
    simp

/-- Where the ramp of a fill begins. -/
def rampStart (n : Nat) : Nat :=
  n * audioPacketSamples - audioConcealRampSamples

theorem concealFillValue_eq {last next : Int} (fitsLast : FitsSample last)
    (fitsNext : FitsSample next) {n : Nat} (some : 1 ≤ n) (inside : s < n * audioPacketSamples) :
    concealFillValue last next n s =
      if rampStart n ≤ s then
        lerp (concealHeldValue last s) next audioConcealRampSamples (s - rampStart n + 1)
      else concealHeldValue last s := by
  -- A single packet is longer than the ramp, so that the ramp always has its full length.
  have long : ¬ n * audioPacketSamples < audioConcealRampSamples := by
    unfold audioPacketSamples audioConcealRampSamples
    omega
  unfold concealFillValue
  dsimp only
  rw [if_neg long]
  show (if rampStart n ≤ s then _ else _) = _
  split
  next onRamp =>
    have held := concealHeldValue_fits fitsLast s
    have within : s - rampStart n + 1 ≤ audioConcealRampSamples := by
      unfold rampStart at onRamp ⊢
      omega
    have bounds : FitsSample (lerp (concealHeldValue last s) next audioConcealRampSamples
        (s - rampStart n + 1)) := lerp_between held fitsNext (by decide) within
    unfold lerp FitsSample at bounds
    unfold FitsSample at held
    rw [lerp]
    show concealHeldValue last s + int32 (((next - concealHeldValue last s) *
      ((s - rampStart n + 1 : Nat) : Int)).tdiv audioConcealRampSamples) = _
    rw [int32_of_fits (by omega) (by omega)]
  next => rfl

variable {last next : Int} {n : Nat}

theorem concealFillValue_fits (fitsLast : FitsSample last) (fitsNext : FitsSample next)
    (some : 1 ≤ n) (inside : s < n * audioPacketSamples) :
    FitsSample (concealFillValue last next n s) := by
  have held := concealHeldValue_fits fitsLast s
  rw [concealFillValue_eq fitsLast fitsNext some inside]
  split
  next onRamp =>
    refine lerp_between held fitsNext (by decide) ?_
    unfold rampStart at onRamp ⊢
    omega
  next => exact held

theorem concealFillValue_first (fitsLast : FitsSample last) (fitsNext : FitsSample next)
    (some : 1 ≤ n) : concealFillValue last next n 0 = last := by
  rw [concealFillValue_eq fitsLast fitsNext some
    (by unfold audioPacketSamples; omega), if_neg, concealHeldValue_zero fitsLast]
  unfold rampStart audioPacketSamples audioConcealRampSamples
  omega

theorem concealFillValue_last (fitsLast : FitsSample last) (fitsNext : FitsSample next)
    (some : 1 ≤ n) : concealFillValue last next n (n * audioPacketSamples - 1) = next := by
  have long : audioConcealRampSamples ≤ n * audioPacketSamples := by
    unfold audioPacketSamples audioConcealRampSamples
    omega
  have ramp : 0 < audioConcealRampSamples := by decide
  rw [concealFillValue_eq fitsLast fitsNext some (by omega), if_pos]
  · have arrived : n * audioPacketSamples - 1 - rampStart n + 1 = audioConcealRampSamples := by
      unfold rampStart
      omega
    rw [arrived, lerp_last _ _ ramp]
  · unfold rampStart
    omega

theorem concealFillValue_step (fitsLast : FitsSample last) (fitsNext : FitsSample next)
    (some : 1 ≤ n) (inside : s + 1 < n * audioPacketSamples) :
    |concealFillValue last next n (s + 1) - concealFillValue last next n s| ≤ maxStep := by
  have drifts := concealHeldValue_step fitsLast s
  have held := concealHeldValue_fits fitsLast s
  have heldNext := concealHeldValue_fits fitsLast (s + 1)
  have ramp : (audioConcealRampSamples : Int) = 128 := rfl
  unfold FitsSample at held heldNext
  unfold FitsSample at fitsNext
  have far : ∀ {start : Int}, -32768 ≤ start ∧ start ≤ 32767 → |next - start| ≤ 65535 := by
    intro start bounds
    rw [abs_le]
    omega
  rw [concealFillValue_eq fitsLast fitsNext some inside,
    concealFillValue_eq fitsLast fitsNext some (by omega)]
  unfold maxStep
  by_cases before : rampStart n ≤ s
  · -- Both are on the ramp, whose start drifts with the held value.
    have position : s + 1 - rampStart n + 1 = s - rampStart n + 1 + 1 := by omega
    rw [if_pos (by omega), if_pos before, position]
    have step := lerp_step (far held) drifts
      (by decide : 0 < audioConcealRampSamples)
      (by unfold rampStart at before ⊢; omega : s - rampStart n + 1 + 1 ≤ audioConcealRampSamples)
    rw [ramp] at step
    omega
  · rw [if_neg before]
    split
    next entered =>
      -- The first step of the ramp is one from the held value itself.
      have position : s + 1 - rampStart n + 1 = 0 + 1 := by omega
      have step := lerp_step (far held) drifts
        (by decide : 0 < audioConcealRampSamples) (by decide : 0 + 1 ≤ audioConcealRampSamples)
      rw [ramp, lerp_zero] at step
      rw [position]
      omega
    next => omega

theorem concealFillValue_silent (fitsLast : FitsSample last) (fitsNext : FitsSample next)
    (some : 1 ≤ n) (faded : audioConcealFadeSamples ≤ s) (before : s < rampStart n) :
    concealFillValue last next n s = 0 := by
  rw [concealFillValue_eq fitsLast fitsNext some (by unfold rampStart at before; omega),
    if_neg (by omega), concealHeldValue, if_pos faded]

end Values

section Packets

theorem flatMap_range_mul {α : Type} (block : Nat → List α) (n m : Nat) :
    (List.range n).flatMap (fun k => (List.range m).flatMap fun i => block (k * m + i)) =
      (List.range (n * m)).flatMap block := by
  induction n with
  | zero => simp
  | succ n ih =>
    -- The last row of blocks continues the ones before it.
    rw [List.range_succ, List.flatMap_append, ih, Nat.succ_mul, List.range_add,
      List.flatMap_append, List.flatMap_map, List.flatMap_singleton]

theorem flatMap_range_length {α : Type} {block : Nat → List α} {width : Nat}
    (wide : ∀ i, (block i).length = width) (n : Nat) :
    ((List.range n).flatMap block).length = n * width := by
  simp [List.length_flatMap, wide]

theorem flatMap_range_getD {α : Type} {block : Nat → List α} {width : Nat} (default : α)
    (wide : ∀ i, (block i).length = width) {n s j : Nat} (inside : s < n) (within : j < width) :
    ((List.range n).flatMap block).getD (s * width + j) default = (block s).getD j default := by
  induction n with
  | zero => omega
  | succ n ih =>
    have length := flatMap_range_length wide n
    rw [List.range_succ, List.flatMap_append, List.flatMap_singleton]
    rcases Nat.lt_or_ge s n with before | last
    · -- Blocks behind the one that is read do not matter.
      have room : s * width + j < n * width := by
        have := Nat.mul_le_mul_right width before
        rw [Nat.succ_mul] at this
        omega
      rw [List.getD_append _ _ _ _ (by omega), ih before]
    · obtain rfl : s = n := by omega
      rw [List.getD_append_right _ _ _ _ (by omega), length, Nat.add_sub_cancel_left]

theorem uint16_bytes (bits : UInt16) :
    (bits &&& 0xFF).toUInt8.toUInt16 ||| ((bits >>> 8 &&& 0xFF).toUInt8.toUInt16 <<< 8) = bits := by
  -- The bytes are the digits of the number in base 256.
  apply UInt16.toNat_inj.mp
  have bound := bits.toNat_lt
  have low : ∀ x : Nat, (x &&& 255) % 256 = x % 256 := by
    intro x
    rw [show (255 : Nat) = 2 ^ 8 - 1 from rfl, Nat.and_two_pow_sub_one_eq_mod]
    omega
  simp only [UInt16.toNat_or, UInt8.toNat_toUInt16, UInt16.toNat_toUInt8, UInt16.toNat_and,
    UInt16.toNat_shiftLeft, UInt16.toNat_shiftRight, UInt16.reduceToNat, Nat.reduceMod,
    Nat.shiftRight_eq_div_pow, Nat.shiftLeft_eq, Nat.reducePow]
  rw [low, low]
  have high : bits.toNat / 256 % 256 * 256 % 65536 = (bits.toNat / 256) <<< 8 := by
    rw [Nat.shiftLeft_eq]
    omega
  rw [high, Nat.or_comm, ← Nat.shiftLeft_add_eq_or_of_lt (by omega), Nat.shiftLeft_eq]
  omega

/-- The bytes of both channels at a position of a fill. -/
def sampleFrameBytes (fill : AudioConcealFill) (n s : Nat) : List UInt8 :=
  sampleBytes (concealFillValue (fill.last .left) (fill.next .left) n s) ++
    sampleBytes (concealFillValue (fill.last .right) (fill.next .right) n s)

theorem sampleFrameBytes_length (fill : AudioConcealFill) (n s : Nat) :
    (sampleFrameBytes fill n s).length = 4 :=
  rfl

theorem concealFillPackets_eq (fill : AudioConcealFill) (n : Nat) :
    concealFillPackets fill n =
      (List.range (n * audioPacketSamples)).flatMap (sampleFrameBytes fill n) := by
  -- Every packet that is asked for is one of the fill.
  rw [← flatMap_range_mul]
  unfold concealFillPackets
  rw [List.flatMap_def, List.flatMap_def]
  congr 1
  refine List.map_congr_left fun k member => ?_
  have within := List.mem_range.mp member
  show (if n = 0 ∨ n ≤ k then _ else _) = _
  rw [if_neg (by omega)]
  rfl

theorem int16_sampleBytes {value : Int} (fits : FitsSample value) :
    int16 (readUint16 (sampleBytes value) 0) = value := by
  have bytes : readUint16 (sampleBytes value) 0 = (Int16.ofInt value).toUInt16 := uint16_bytes _
  unfold FitsSample at fits
  rw [bytes, int16, Int16.toInt16_toUInt16]
  exact Int16.toInt_ofInt_of_le (by omega) (by omega)

theorem sampleAt_fill (fill : AudioConcealFill) {n s : Nat} (some : 1 ≤ n)
    (inside : s < n * audioPacketSamples) (channel : Channel) :
    sampleAt (concealFillPackets fill n) s channel =
      concealFillValue (fill.last channel) (fill.next channel) n s := by
  -- The bytes of a position are those of its left and then of its right value.
  have bytes : ∀ j, j < 4 →
      (concealFillPackets fill n).getD (s * 4 + j) 0 = (sampleFrameBytes fill n s).getD j 0 := by
    intro j within
    rw [concealFillPackets_eq]
    exact flatMap_range_getD 0 (sampleFrameBytes_length fill n) inside within
  have value := int16_sampleBytes (concealFillValue_fits (fill.fits channel).1
    (fill.fits channel).2 some inside)
  rw [← value]
  cases channel with
  | left =>
    simp only [sampleAt, readUint16]
    rw [show s * 4 = s * 4 + 0 from rfl, bytes 0 (by decide), Nat.add_assoc, bytes 1 (by decide)]
    rfl
  | right =>
    simp only [sampleAt, readUint16]
    rw [bytes 2 (by decide), Nat.add_assoc, bytes 3 (by decide)]
    rfl

/-- The values of a fill on a channel, with what they lead from and to. -/
structure ClickFree (fill : AudioConcealFill) (n : Nat) (channel : Channel) : Prop where
  fits : ∀ s < n * audioPacketSamples,
    FitsSample (concealFillValue (fill.last channel) (fill.next channel) n s)
  /-- The samples are the values, so that none was changed by the cut to sixteen bits. -/
  sample : ∀ s < n * audioPacketSamples, sampleAt (concealFillPackets fill n) s channel =
    concealFillValue (fill.last channel) (fill.next channel) n s
  first : sampleAt (concealFillPackets fill n) 0 channel = fill.last channel
  last : sampleAt (concealFillPackets fill n) (n * audioPacketSamples - 1) channel =
    fill.next channel
  step : ∀ s, s + 1 < n * audioPacketSamples →
    |sampleAt (concealFillPackets fill n) (s + 1) channel -
      sampleAt (concealFillPackets fill n) s channel| ≤ maxStep
  silent : audioConcealFadeSamples + audioConcealRampSamples < n * audioPacketSamples →
    ∀ s, audioConcealFadeSamples ≤ s → s < n * audioPacketSamples - audioConcealRampSamples →
      sampleAt (concealFillPackets fill n) s channel = 0

/-- The fill for any gap has its samples on both channels, starts and ends next to the real ones,
never steps far, and falls silent when the gap is long. -/
theorem concealFill_clickFree (fill : AudioConcealFill) (n : Nat) (some : 1 ≤ n) :
    (concealFillPackets fill n).length = n * audioPacketSamples * 4 ∧
      ∀ channel, ClickFree fill n channel := by
  constructor
  · rw [concealFillPackets_eq]
    exact flatMap_range_length (sampleFrameBytes_length fill n) _
  intro channel
  have ends := fill.fits channel
  have samples : 1 ≤ n * audioPacketSamples := by
    unfold audioPacketSamples
    omega
  -- Each sample is the value of its position, about which everything is known.
  have read : ∀ s < n * audioPacketSamples, sampleAt (concealFillPackets fill n) s channel =
      concealFillValue (fill.last channel) (fill.next channel) n s :=
    fun s inside => sampleAt_fill fill some inside channel
  refine ⟨fun s inside => concealFillValue_fits ends.1 ends.2 some inside, read, ?_, ?_, ?_, ?_⟩
  · rw [read 0 (by omega)]
    exact concealFillValue_first ends.1 ends.2 some
  · rw [read _ (by omega)]
    exact concealFillValue_last ends.1 ends.2 some
  · intro s inside
    rw [read _ inside, read s (by omega)]
    exact concealFillValue_step ends.1 ends.2 some inside
  · intro long s faded before
    rw [read s (by omega)]
    exact concealFillValue_silent ends.1 ends.2 some faded before

/-- Extreme samples at both ends of a gap of two packets. -/
def extremeFill : AudioConcealFill :=
  ⟨32767, -32768, -32768, 32767⟩

/-- Even such a gap is filled without a click. -/
theorem extremeFill_clickFree :
    (concealFillPackets extremeFill 2).length = 2 * audioPacketSamples * 4 ∧
      ∀ channel, ClickFree extremeFill 2 channel :=
  concealFill_clickFree extremeFill 2 (by decide)

end Packets

end C64Stream
