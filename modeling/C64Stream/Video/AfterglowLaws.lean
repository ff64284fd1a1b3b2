import C64Stream.Video.Afterglow

/-! The vectorised afterglow updates the same pixels to the same values as the scalar loop. -/

namespace C64Stream

variable {F : Type} [LinearOrder F] (ops : SinglePrecision F) (decay : Decay F)

section Lanes

variable {n : Nat}

theorem masked_small (value : UInt32) : value &&& 0xFF ≤ 255 := by
  rw [UInt32.le_iff_toNat_le, UInt32.toNat_and]
  exact Nat.and_le_right

theorem glowChannel_range {curr : UInt32} (small : curr ≤ 255) (prev : UInt32) (factor : F) :
    ops.ofChannel 0 ≤ glowChannel ops curr prev factor ∧
      glowChannel ops curr prev factor ≤ ops.ofChannel 255 := by
  have low := ops.ofChannel_low curr small
  have top := ops.ofChannel_low 255 (le_refl 255)
  simp only [glowChannel]
  generalize ops.mul (ops.ofChannel prev) factor = trail
  generalize brighter : (if ops.ofChannel curr > trail then ops.ofChannel curr else trail) = out
  -- A trail is only taken if it is at least as bright as the channel.
  have above : ops.ofChannel 0 ≤ out := by
    rw [← brighter]
    split_ifs with less
    · exact low
    · exact low.trans (not_lt.mp less)
  split_ifs with cut
  · exact ⟨top, le_refl _⟩
  · exact ⟨above, not_lt.mp cut⟩

theorem min_eq_cut (out high : F) :
    (if out < high then out else high) = if out > high then high else out := by
  rcases lt_trichotomy out high with below | rfl | above
  · rw [if_pos below, if_neg (not_lt.mpr below.le)]
  · simp
  · rw [if_neg (not_lt.mpr above.le), if_pos above]

theorem channelLane_eq (curr prev : Lanes n UInt32) (factor : F) {lane : Fin n}
    (small : curr lane ≤ 255) :
    cvttpsEpi32 ops (minPs (maxPs (cvtepi32Ps ops curr)
        (mulPs ops (cvtepi32Ps ops prev) (set1 factor))) (set1 (ops.ofChannel 255))) lane =
      ops.toUint32 (glowChannel ops (curr lane) (prev lane) factor) := by
  have range := glowChannel_range ops small (prev lane) factor
  have cut : minPs (maxPs (cvtepi32Ps ops curr) (mulPs ops (cvtepi32Ps ops prev) (set1 factor)))
      (set1 (ops.ofChannel 255)) lane = glowChannel ops (curr lane) (prev lane) factor :=
    min_eq_cut _ _
  rw [cvttpsEpi32, cut]
  exact ops.cvttps_eq _ range.1 range.2

theorem or_reverse (a b c d : UInt32) : a ||| (b ||| c) ||| d = d ||| c ||| b ||| a := by
  rw [UInt32.or_comm _ d, UInt32.or_comm a, UInt32.or_comm b, ← UInt32.or_assoc, ← UInt32.or_assoc]

theorem glowLanes_lane (curr prev : Lanes n UInt32) (lane : Fin n) :
    glowLanes ops decay curr prev lane = afterglowPixel ops decay (curr lane) (prev lane) := by
  have r := channelLane_eq ops (andSi curr (set1 0xFF)) (andSi prev (set1 0xFF)) decay.r
    (masked_small (curr lane))
  have g := channelLane_eq ops (andSi (srliEpi32 curr 8) (set1 0xFF))
    (andSi (srliEpi32 prev 8) (set1 0xFF)) decay.g (masked_small (curr lane >>> 8))
  have b := channelLane_eq ops (andSi (srliEpi32 curr 16) (set1 0xFF))
    (andSi (srliEpi32 prev 16) (set1 0xFF)) decay.b (masked_small (curr lane >>> 16))
  have unshifted : ∀ value : UInt32, value >>> 0 = value := fun _ => UInt32.shiftRight_zero
  rw [afterglowPixel, unshifted, unshifted]
  -- The four channels are packed in another order.
  refine Eq.trans ?_ (or_reverse _ _ _ _)
  rw [glowLanes, orSi, orSi, orSi, slliEpi32, slliEpi32, r, g, b]
  rfl

end Lanes

section Progress

variable (currPixels before : Pixels)

/-- The buffer once all pixels below an index are updated, each from its own old value. -/
def glowBelow (i : Nat) : Pixels :=
  fun j => if j < i then afterglowPixel ops decay (currPixels j) (before j) else before j

/-- A body that updates the next pixels of its stride, and nothing else. -/
def Advances (stride : Nat) (body : Nat → Pixels → Pixels) : Prop :=
  ∀ i, body i (glowBelow ops decay currPixels before i) =
    glowBelow ops decay currPixels before (i + stride)

theorem storeu_glowBelow {n : Nat} (i : Nat) :
    storeu (glowBelow ops decay currPixels before i) i
        (glowLanes ops decay (loadu n currPixels i)
          (loadu n (glowBelow ops decay currPixels before i) i)) =
      glowBelow ops decay currPixels before (i + n) := by
  funext j
  by_cases inside : i ≤ j ∧ j - i < n
  · -- The pixel was not updated before, so its lane is made from its old value.
    have here : i + (j - i) = j := by omega
    rw [storeu, dif_pos inside, glowLanes_lane]
    simp only [loadu, here, glowBelow]
    rw [if_neg (by omega), if_pos (by omega)]
  · rw [storeu, dif_neg inside]
    simp only [glowBelow]
    by_cases updated : j < i
    · rw [if_pos updated, if_pos (by omega)]
    · rw [if_neg updated, if_neg (by omega)]

theorem glowOne_advances :
    Advances ops decay currPixels before 1 (glowOne ops decay currPixels) := by
  intro i
  funext j
  simp only [glowOne, setPixel, glowBelow]
  by_cases here : j = i
  · subst here
    rw [if_pos rfl, if_neg (lt_irrefl j), if_pos (by omega)]
  · rw [if_neg here]
    by_cases updated : j < i
    · rw [if_pos updated, if_pos (by omega)]
    · rw [if_neg updated, if_neg (by omega)]

theorem glowFour_advances :
    Advances ops decay currPixels before 4 (glowFour ops decay currPixels) :=
  storeu_glowBelow ops decay currPixels before

theorem storeEight_eq (useStreaming : Bool) (acc : Pixels) (i : Nat) (result : Lanes 8 UInt32) :
    storeEight useStreaming acc i result = storeu acc i result := by
  cases useStreaming <;> rfl

theorem glowEight_advances (useStreaming : Bool) :
    Advances ops decay currPixels before 8 (glowEight ops decay currPixels useStreaming) := by
  intro i
  simp only [glowEight, storeEight_eq]
  exact storeu_glowBelow ops decay currPixels before i

theorem glowSixteen_advances (useStreaming : Bool) :
    Advances ops decay currPixels before 16 (glowSixteen ops decay currPixels useStreaming) := by
  intro i
  have untouched : loadu 8 (glowBelow ops decay currPixels before i) (i + 8) =
      loadu 8 (glowBelow ops decay currPixels before (i + 8)) (i + 8) := by
    funext lane
    simp only [loadu, glowBelow]
    rw [if_neg (by omega), if_neg (by omega)]
  simp only [glowSixteen, storeEight_eq]
  rw [untouched, storeu_glowBelow, storeu_glowBelow, Nat.add_assoc]

variable {ops decay currPixels before}

theorem strideLoop_glowBelow {stride : Nat} (positive : 0 < stride)
    {body : Nat → Pixels → Pixels} (advances : Advances ops decay currPixels before stride body)
    (pixelCount : Nat) : ∀ i, i ≤ pixelCount → ∃ reached, i ≤ reached ∧ reached ≤ pixelCount ∧
      pixelCount < reached + stride ∧
      strideLoop stride positive pixelCount body i (glowBelow ops decay currPixels before i) =
        (reached, glowBelow ops decay currPixels before reached) := by
  -- The induction is on what is left of the buffer.
  intro i
  induction left : pixelCount - i using Nat.strong_induction_on generalizing i with
  | _ left ih =>
    intro within
    rw [strideLoop]
    by_cases fits : i + stride ≤ pixelCount
    · rw [if_pos fits, advances i]
      obtain ⟨reached, later, bounded, done, ends⟩ :=
        ih (pixelCount - (i + stride)) (by omega) (i + stride) rfl fits
      exact ⟨reached, by omega, bounded, done, ends⟩
    · rw [if_neg fits]
      exact ⟨i, le_refl i, within, by omega, rfl⟩

theorem onceLeft_glowBelow {stride : Nat} {body : Nat → Pixels → Pixels}
    (advances : Advances ops decay currPixels before stride body) {pixelCount i : Nat}
    (within : i ≤ pixelCount) : ∃ reached, reached ≤ pixelCount ∧
      onceLeft pixelCount stride body (i, glowBelow ops decay currPixels before i) =
        (reached, glowBelow ops decay currPixels before reached) := by
  by_cases fits : i + stride ≤ pixelCount
  · exact ⟨i + stride, fits, by rw [onceLeft, if_pos fits, advances i]⟩
  · exact ⟨i, within, by rw [onceLeft, if_neg fits]⟩

theorem scalar_glowBelow {pixelCount i : Nat} (within : i ≤ pixelCount) :
    c64AfterglowScalar ops decay currPixels pixelCount i
        (glowBelow ops decay currPixels before i) =
      glowBelow ops decay currPixels before pixelCount := by
  obtain ⟨reached, -, bounded, done, ends⟩ := strideLoop_glowBelow Nat.one_pos
    (glowOne_advances ops decay currPixels before) pixelCount i within
  obtain rfl : reached = pixelCount := by omega
  rw [c64AfterglowScalar, ends]

theorem glowBelow_zero : glowBelow ops decay currPixels before 0 = before := by
  funext j
  rw [glowBelow, if_neg (Nat.not_lt_zero j)]

theorem sse2_glowBelow (pixelCount : Nat) :
    c64AfterglowSse2 ops decay currPixels pixelCount before =
      glowBelow ops decay currPixels before pixelCount := by
  obtain ⟨reached, -, bounded, -, ends⟩ := strideLoop_glowBelow (by decide)
    (glowFour_advances ops decay currPixels before) pixelCount 0 (Nat.zero_le _)
  rw [glowBelow_zero] at ends
  rw [c64AfterglowSse2, ends]
  exact scalar_glowBelow bounded

theorem avx2_glowBelow (pixelCount : Nat) (useStreaming : Bool) :
    c64AfterglowAvx2 ops decay currPixels pixelCount useStreaming before =
      glowBelow ops decay currPixels before pixelCount := by
  obtain ⟨sixteens, -, first, -, ends⟩ := strideLoop_glowBelow (by decide)
    (glowSixteen_advances ops decay currPixels before useStreaming) pixelCount 0 (Nat.zero_le _)
  rw [glowBelow_zero] at ends
  obtain ⟨eights, second, again⟩ := onceLeft_glowBelow
    (glowEight_advances ops decay currPixels before useStreaming) first
  obtain ⟨fours, third, last⟩ := onceLeft_glowBelow
    (glowFour_advances ops decay currPixels before) second
  rw [c64AfterglowAvx2, ends]
  simp only [again, last]
  exact scalar_glowBelow third

theorem afterglowPixel_alpha (curr prev : UInt32) :
    afterglowPixel ops decay curr prev &&& 0xFF000000 = 0xFF000000 := by
  simp only [afterglowPixel, UInt32.or_assoc]
  -- Whatever the other bits are, those of the alpha are joined to them.
  exact UInt32.toBitVec_inj.mp (BitVec.eq_of_getLsbD_eq fun i _ => by
    simp only [UInt32.toBitVec_and, UInt32.toBitVec_or, BitVec.getLsbD_and, BitVec.getLsbD_or]
    grind)

end Progress

section Equality

/-- The vectorised variants leave what the scalar loop leaves: each pixel below the count is updated
once, from its own old value and its own current pixel, to full alpha, and no other is touched. -/
theorem afterglow_vectorised (currPixels before : Pixels) (pixelCount : Nat) :
    let after := c64AfterglowScalar ops decay currPixels pixelCount 0 before
    c64AfterglowSse2 ops decay currPixels pixelCount before = after ∧
      (∀ useStreaming,
        c64AfterglowAvx2 ops decay currPixels pixelCount useStreaming before = after) ∧
      (∀ j, j < pixelCount → after j = afterglowPixel ops decay (currPixels j) (before j) ∧
        after j &&& 0xFF000000 = 0xFF000000) ∧
      ∀ j, pixelCount ≤ j → after j = before j := by
  intro after
  have scalar : after = glowBelow ops decay currPixels before pixelCount := by
    have start := @scalar_glowBelow F _ ops decay currPixels before pixelCount 0 (Nat.zero_le _)
    rwa [glowBelow_zero] at start
  refine ⟨(sse2_glowBelow pixelCount).trans scalar.symm,
    fun useStreaming => (avx2_glowBelow pixelCount useStreaming).trans scalar.symm,
    fun j below => ?_, fun j above => ?_⟩
  · have updated : after j = afterglowPixel ops decay (currPixels j) (before j) := by
      rw [scalar, glowBelow, if_pos below]
    exact ⟨updated, updated ▸ afterglowPixel_alpha _ _⟩
  · rw [scalar, glowBelow, if_neg (by omega)]

/-- A bright pixel over a dim one leaves half of its red. -/
example :
    afterglowPixel exactPrecision ⟨1 / 2, 1 / 2, 1 / 2⟩ 0xFF000010 0xFF0000C9 = 0xFF000064 := by
  decide +kernel

end Equality

end C64Stream
