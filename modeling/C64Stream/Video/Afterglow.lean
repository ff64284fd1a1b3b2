import Mathlib.Tactic

/-! The afterglow: trails of earlier frames, pixel by pixel and in lanes of several pixels. -/

namespace C64Stream

section Numbers

variable {F : Type} [LinearOrder F]

/-- Single-precision numbers without NaN, as far as the afterglow computes with them. -/
structure SinglePrecision (F : Type) [LinearOrder F] where
  /-- The number of a channel. -/
  ofChannel : UInt32 → F
  mul : F → F → F
  /-- The conversion of C, and that of a lane. -/
  toUint32 : F → UInt32
  cvttps : F → UInt32
  ofChannel_low : ∀ channel, channel ≤ 255 → ofChannel 0 ≤ ofChannel channel
  ofChannel_high : ∀ channel, channel ≤ 255 → ofChannel channel ≤ ofChannel 255
  /-- Both conversions cut off the fraction of a number that is a channel's. -/
  cvttps_eq : ∀ x, ofChannel 0 ≤ x → x ≤ ofChannel 255 → cvttps x = toUint32 x

/-- How much of each channel is left after a frame. -/
structure Decay (F : Type) where
  r : F
  g : F
  b : F

/-- The new value of a channel: the current one or its trail, whichever is brighter. -/
def glowChannel (ops : SinglePrecision F) (curr prev : UInt32) (decay : F) : F :=
  let c := ops.ofChannel curr
  let trail := ops.mul (ops.ofChannel prev) decay
  let out := if c > trail then c else trail
  if out > ops.ofChannel 255 then ops.ofChannel 255 else out

/-- The new value of a pixel. -/
def afterglowPixel (ops : SinglePrecision F) (decay : Decay F) (curr prev : UInt32) : UInt32 :=
  let r := glowChannel ops ((curr >>> 0) &&& 0xFF) ((prev >>> 0) &&& 0xFF) decay.r
  let g := glowChannel ops ((curr >>> 8) &&& 0xFF) ((prev >>> 8) &&& 0xFF) decay.g
  let b := glowChannel ops ((curr >>> 16) &&& 0xFF) ((prev >>> 16) &&& 0xFF) decay.b
  (0xFF000000 : UInt32) ||| (ops.toUint32 b <<< 16) ||| (ops.toUint32 g <<< 8) ||| ops.toUint32 r

/-- Exact fractions in place of single precision. -/
def exactPrecision : SinglePrecision ℚ where
  ofChannel channel := channel.toNat
  mul := (· * ·)
  toUint32 x := UInt32.ofNat ⌊x⌋.toNat
  cvttps x := UInt32.ofNat ⌊x⌋.toNat
  ofChannel_low channel _ := by simp
  ofChannel_high channel small := by exact_mod_cast UInt32.le_iff_toNat_le.mp small
  cvttps_eq _ _ _ := rfl

end Numbers

section Buffers

abbrev Pixels := Nat → UInt32

/-- Overwrite a pixel. -/
def setPixel (pixels : Pixels) (i : Nat) (pixel : UInt32) : Pixels :=
  fun j => if j = i then pixel else pixels j

/-- A loop that goes on in strides as long as a whole stride is left, and where it ends. -/
def strideLoop (stride : Nat) (positive : 0 < stride) (pixelCount : Nat)
    (body : Nat → Pixels → Pixels) (i : Nat) (acc : Pixels) : Nat × Pixels :=
  if i + stride ≤ pixelCount then
    strideLoop stride positive pixelCount body (i + stride) (body i acc)
  else (i, acc)
termination_by pixelCount - i

abbrev Lanes (n : Nat) (α : Type) := Fin n → α

variable {n : Nat} {α : Type} {F : Type} [LinearOrder F]

/-- Read pixels into a register. -/
def loadu (n : Nat) (pixels : Pixels) (i : Nat) : Lanes n UInt32 :=
  fun lane => pixels (i + lane)

/-- Write a register to pixels. -/
def storeu (pixels : Pixels) (i : Nat) (lanes : Lanes n UInt32) : Pixels :=
  fun j => if inside : i ≤ j ∧ j - i < n then lanes ⟨j - i, inside.2⟩ else pixels j

/-- Write a register past the caches; what is stored is the same. -/
def stream (pixels : Pixels) (i : Nat) (lanes : Lanes n UInt32) : Pixels :=
  storeu pixels i lanes

/-- The same value in every lane. -/
def set1 (value : α) : Lanes n α :=
  fun _ => value

/-- The bits that two registers share, lane by lane. -/
def andSi (a b : Lanes n UInt32) : Lanes n UInt32 :=
  fun lane => a lane &&& b lane

/-- The bits of either register. -/
def orSi (a b : Lanes n UInt32) : Lanes n UInt32 :=
  fun lane => a lane ||| b lane

/-- Each lane shifted to the right, filled with zeros. -/
def srliEpi32 (a : Lanes n UInt32) (count : UInt32) : Lanes n UInt32 :=
  fun lane => a lane >>> count

/-- Each lane shifted to the left. -/
def slliEpi32 (a : Lanes n UInt32) (count : UInt32) : Lanes n UInt32 :=
  fun lane => a lane <<< count

/-- Whole numbers as single precision. -/
def cvtepi32Ps (ops : SinglePrecision F) (a : Lanes n UInt32) : Lanes n F :=
  fun lane => ops.ofChannel (a lane)

/-- Single precision as whole numbers. -/
def cvttpsEpi32 (ops : SinglePrecision F) (a : Lanes n F) : Lanes n UInt32 :=
  fun lane => ops.cvttps (a lane)

/-- The products, lane by lane. -/
def mulPs (ops : SinglePrecision F) (a b : Lanes n F) : Lanes n F :=
  fun lane => ops.mul (a lane) (b lane)

/-- The larger numbers; of equal ones the second is taken. -/
def maxPs (a b : Lanes n F) : Lanes n F :=
  fun lane => if a lane > b lane then a lane else b lane

/-- The smaller numbers; of equal ones the second is taken. -/
def minPs (a b : Lanes n F) : Lanes n F :=
  fun lane => if a lane < b lane then a lane else b lane

/-- The new values of pixels side by side. -/
def glowLanes (ops : SinglePrecision F) (decay : Decay F) (curr prev : Lanes n UInt32) :
    Lanes n UInt32 :=
  let v255 : Lanes n F := set1 (ops.ofChannel 255)
  let vmaskChannel : Lanes n UInt32 := set1 0xFF
  let valpha : Lanes n UInt32 := set1 0xFF000000
  let prevR := cvtepi32Ps ops (andSi prev vmaskChannel)
  let currR := cvtepi32Ps ops (andSi curr vmaskChannel)
  let prevG := cvtepi32Ps ops (andSi (srliEpi32 prev 8) vmaskChannel)
  let currG := cvtepi32Ps ops (andSi (srliEpi32 curr 8) vmaskChannel)
  let prevB := cvtepi32Ps ops (andSi (srliEpi32 prev 16) vmaskChannel)
  let currB := cvtepi32Ps ops (andSi (srliEpi32 curr 16) vmaskChannel)
  let outR := minPs (maxPs currR (mulPs ops prevR (set1 decay.r))) v255
  let outG := minPs (maxPs currG (mulPs ops prevG (set1 decay.g))) v255
  let outB := minPs (maxPs currB (mulPs ops prevB (set1 decay.b))) v255
  let rgb := orSi (cvttpsEpi32 ops outR)
    (orSi (slliEpi32 (cvttpsEpi32 ops outG) 8) (slliEpi32 (cvttpsEpi32 ops outB) 16))
  orSi rgb valpha

end Buffers

section Functions

variable {F : Type} [LinearOrder F] (ops : SinglePrecision F) (decay : Decay F)
  (currPixels : Pixels) (pixelCount : Nat)

/-- The body of a loop over single pixels. -/
def glowOne (i : Nat) (acc : Pixels) : Pixels :=
  setPixel acc i (afterglowPixel ops decay (currPixels i) (acc i))

/-- The scalar loop of `c64_afterglow_apply`, which the vectorised functions end with too. -/
def c64AfterglowScalar (i : Nat) (acc : Pixels) : Pixels :=
  (strideLoop 1 Nat.one_pos pixelCount (glowOne ops decay currPixels) i acc).2

/-- One register of four pixels. -/
def glowFour (i : Nat) (acc : Pixels) : Pixels :=
  let curr := loadu 4 currPixels i
  let prev := loadu 4 acc i
  storeu acc i (glowLanes ops decay curr prev)

/-- The variant with registers of four pixels. -/
def c64AfterglowSse2 (acc : Pixels) : Pixels :=
  let rest := strideLoop 4 (by decide) pixelCount (glowFour ops decay currPixels) 0 acc
  c64AfterglowScalar ops decay currPixels pixelCount rest.1 rest.2

/-- Write a register of eight pixels in one of two ways. -/
def storeEight (useStreaming : Bool) (acc : Pixels) (i : Nat) (result : Lanes 8 UInt32) : Pixels :=
  if useStreaming then stream acc i result else storeu acc i result

/-- Two registers of eight pixels; both are read before one is written. -/
def glowSixteen (useStreaming : Bool) (i : Nat) (acc : Pixels) : Pixels :=
  let curr0 := loadu 8 currPixels i
  let prev0 := loadu 8 acc i
  let curr1 := loadu 8 currPixels (i + 8)
  let prev1 := loadu 8 acc (i + 8)
  let acc := storeEight useStreaming acc i (glowLanes ops decay curr0 prev0)
  storeEight useStreaming acc (i + 8) (glowLanes ops decay curr1 prev1)

/-- One register of eight pixels. -/
def glowEight (useStreaming : Bool) (i : Nat) (acc : Pixels) : Pixels :=
  let curr := loadu 8 currPixels i
  let prev := loadu 8 acc i
  storeEight useStreaming acc i (glowLanes ops decay curr prev)

/-- A stage of its own for one more register, if so many pixels are left. -/
def onceLeft (stride : Nat) (body : Nat → Pixels → Pixels) (state : Nat × Pixels) : Nat × Pixels :=
  if state.1 + stride ≤ pixelCount then (state.1 + stride, body state.1 state.2) else state

/-- The variant with registers of eight pixels: sixteen, eight, four and one at a time. -/
def c64AfterglowAvx2 (useStreaming : Bool) (acc : Pixels) : Pixels :=
  let state := strideLoop 16 (by decide) pixelCount
    (glowSixteen ops decay currPixels useStreaming) 0 acc
  let state := onceLeft pixelCount 8 (glowEight ops decay currPixels useStreaming) state
  let state := onceLeft pixelCount 4 (glowFour ops decay currPixels) state
  c64AfterglowScalar ops decay currPixels pixelCount state.1 state.2

end Functions

end C64Stream
