import Mathlib.Tactic

/-! Linear interpolation in whole numbers, by a division that rounds towards zero. -/

namespace C64Stream

/-- The value at a position on the way from one number to another in so many steps. -/
def lerp (start finish : Int) (steps position : Nat) : Int :=
  start + ((finish - start) * position).tdiv steps

/-- A division towards zero is off by less than one. -/
theorem tdiv_near (a : Int) {b : Int} (positive : 0 < b) :
    a - b < b * a.tdiv b ∧ b * a.tdiv b < a + b := by
  -- The remainder lies strictly between the divisor and its negative.
  have split := Int.mul_tdiv_add_tmod a b
  have below := Int.tmod_lt_of_pos a positive
  have above := Int.lt_tmod_of_pos a positive
  omega

theorem tdiv_between {a b bound : Int} (positive : 0 < b) (nonneg : 0 ≤ a)
    (bounded : a ≤ bound * b) : 0 ≤ a.tdiv b ∧ a.tdiv b ≤ bound := by
  refine ⟨Int.tdiv_nonneg nonneg positive.le, ?_⟩
  rw [Int.tdiv_eq_ediv_of_nonneg nonneg]
  exact Int.ediv_le_of_le_mul positive bounded

theorem lerp_zero (start finish : Int) (steps : Nat) : lerp start finish steps 0 = start := by
  simp [lerp]

theorem lerp_last (start finish : Int) {steps : Nat} (some : 0 < steps) :
    lerp start finish steps steps = finish := by
  rw [lerp, Int.mul_tdiv_cancel _ (by omega)]
  omega

/-- On the way up every value lies between the two ends. -/
theorem lerp_between_up {start finish : Int} (up : start ≤ finish) {steps position : Nat}
    (some : 0 < steps) (within : position ≤ steps) :
    start ≤ lerp start finish steps position ∧ lerp start finish steps position ≤ finish := by
  -- What is added is a part of the whole way.
  have wayNonneg : 0 ≤ finish - start := by omega
  have part : (finish - start) * position ≤ (finish - start) * steps :=
    mul_le_mul_of_nonneg_left (by exact_mod_cast within) wayNonneg
  have bounds := tdiv_between (by exact_mod_cast some)
    (mul_nonneg wayNonneg (Int.natCast_nonneg position)) part
  unfold lerp
  omega

theorem lerp_neg (start finish : Int) (steps position : Nat) :
    lerp (-start) (-finish) steps position = -lerp start finish steps position := by
  have way : (-finish - -start) * (position : Int) = -((finish - start) * position) := by ring
  rw [lerp, lerp, way, Int.neg_tdiv]
  omega

/-- Every value lies between the two ends. -/
theorem lerp_between {lower upper start finish : Int} {steps position : Nat}
    (atStart : lower ≤ start ∧ start ≤ upper) (atFinish : lower ≤ finish ∧ finish ≤ upper)
    (some : 0 < steps) (within : position ≤ steps) :
    lower ≤ lerp start finish steps position ∧ lerp start finish steps position ≤ upper := by
  rcases Int.le_total start finish with up | down
  · have bounds := lerp_between_up up some within
    omega
  · -- The way down is the way up turned round.
    have bounds := lerp_between_up (Int.neg_le_neg down) some within
    rw [lerp_neg] at bounds
    omega

/-- From one position to the next the value moves by no more than its share of the way, the
movement of the start, and the two roundings. -/
theorem lerp_step {start next finish way drift : Int} {steps position : Nat}
    (far : |finish - start| ≤ way) (drifts : |next - start| ≤ drift) (some : 0 < steps)
    (within : position + 1 ≤ steps) :
    steps * |lerp next finish steps (position + 1) - lerp start finish steps position| ≤
      way + steps * (drift + 2) := by
  have positive : (0 : Int) < steps := by exact_mod_cast some
  have before := tdiv_near ((finish - start) * position) positive
  have after := tdiv_near ((finish - next) * ((position + 1 : Nat) : Int)) positive
  -- The exact movement is a share of the way and what is left of the start's own movement.
  have exact : (finish - next) * ((position + 1 : Nat) : Int) + steps * (next - start) -
      (finish - start) * position =
      (finish - start) + (next - start) * (steps - ((position + 1 : Nat) : Int)) := by
    push_cast
    ring
  have left : |(next - start) * (steps - ((position + 1 : Nat) : Int))| ≤ drift * steps := by
    rw [abs_mul]
    have small : |(steps : Int) - ((position + 1 : Nat) : Int)| ≤ steps := by
      rw [abs_of_nonneg (by omega)]
      omega
    exact mul_le_mul drifts small (abs_nonneg _) ((abs_nonneg _).trans drifts)
  have moved : steps * (lerp next finish steps (position + 1) - lerp start finish steps position) =
      steps * ((finish - next) * ((position + 1 : Nat) : Int)).tdiv steps + steps * (next - start) -
        steps * ((finish - start) * position).tdiv steps := by
    unfold lerp
    ring
  have spread : (steps : Int) * (drift + 2) = drift * steps + 2 * steps := by ring
  rw [← abs_of_pos positive, ← abs_mul, abs_of_pos positive, moved, spread]
  rw [abs_le] at *
  omega

end C64Stream
