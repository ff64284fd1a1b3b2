import Mathlib.Tactic
import Mathlib.Analysis.Complex.Exponential
import Mathlib.Analysis.Complex.Trigonometric

/-! Sines of whole numbers in fixed point, with the error that they may have. -/

namespace C64Stream

section One

/-- The powers of the imaginary unit. -/
def unitPower : Nat → ℚ × ℚ
  | 0 => (1, 0)
  | n + 1 => (-(unitPower n).2, (unitPower n).1)

/-- The first terms of the series of the exponential at the imaginary unit. -/
def unitSeries : Nat → ℚ × ℚ
  | 0 => (0, 0)
  | n + 1 =>
    ((unitSeries n).1 + (unitPower n).1 / n.factorial,
      (unitSeries n).2 + (unitPower n).2 / n.factorial)

/-- The powers are those of the imaginary unit. -/
theorem unitPower_eq (n : Nat) :
    ((unitPower n).1 : ℂ) + (unitPower n).2 * Complex.I = Complex.I ^ n := by
  induction n with
  | zero => simp [unitPower]
  | succ n ih =>
    rw [pow_succ, ← ih, unitPower]
    push_cast
    -- The square of the imaginary unit turns up in the second term.
    linear_combination -((unitPower n).2 : ℂ) * Complex.I_mul_I

/-- The terms are those of the exponential. -/
theorem unitSeries_eq (n : Nat) :
    ((unitSeries n).1 : ℂ) + (unitSeries n).2 * Complex.I =
      ∑ m ∈ Finset.range n, Complex.I ^ m / m.factorial := by
  induction n with
  | zero => simp [unitSeries]
  | succ n ih =>
    rw [Finset.sum_range_succ, ← ih, ← unitPower_eq, unitSeries]
    push_cast
    ring

/-- The sine and the cosine of one, up to the next term of the series. -/
theorem unitSeries_bound {n : Nat} (some : 0 < n) :
    |Real.cos 1 - (unitSeries n).1| ≤ n.succ * ((n.factorial : ℝ) * n)⁻¹ ∧
      |Real.sin 1 - (unitSeries n).2| ≤ n.succ * ((n.factorial : ℝ) * n)⁻¹ := by
  have close := Complex.exp_bound (x := Complex.I) (by simp) some
  rw [Complex.norm_I, one_pow, one_mul, ← unitSeries_eq] at close
  have parts : Complex.exp Complex.I = Real.cos 1 + Real.sin 1 * Complex.I := by
    simpa using Complex.exp_mul_I 1
  rw [parts] at close
  -- The two errors are the parts of one complex number.
  generalize Real.cos 1 = cosine at close ⊢
  generalize Real.sin 1 = sine at close ⊢
  constructor
  · refine le_trans (le_trans (le_of_eq ?_) (Complex.abs_re_le_norm _)) close
    simp
  · refine le_trans (le_trans (le_of_eq ?_) (Complex.abs_im_le_norm _)) close
    simp

end One

section Multiples

/-- What the numbers in fixed point are multiplied by. -/
def sineScale : Int := 10 ^ 40

/-- The cosine and the sine of one. -/
def unitSine : Int × Int :=
  (5403023058681397174009366074429766037323,
    8414709848078965066525023216302989996226)

/-- The cosine and the sine of a whole number, by the addition theorems. -/
def sineOf : Nat → Int × Int
  | 0 => (sineScale, 0)
  | n + 1 =>
    (((sineOf n).1 * unitSine.1 - (sineOf n).2 * unitSine.2) / sineScale,
      ((sineOf n).2 * unitSine.1 + (sineOf n).1 * unitSine.2) / sineScale)

/-- The cosine and the sine of one are near enough. -/
theorem unitSine_near :
    |Real.cos 1 * sineScale - unitSine.1| ≤ 2 ∧ |Real.sin 1 * sineScale - unitSine.2| ≤ 2 := by
  obtain ⟨cosine, sine⟩ := unitSeries_bound (n := 36) (by norm_num)
  have small : ((36 : Nat).succ : ℝ) * (((36 : Nat).factorial : ℝ) * (36 : Nat))⁻¹ ≤
      1 / sineScale := by
    norm_num [sineScale, Nat.factorial]
  have first : |((unitSeries 36).1 : ℝ) * sineScale - unitSine.1| ≤ 1 := by
    have : |(unitSeries 36).1 * (sineScale : ℚ) - unitSine.1| ≤ 1 := by decide +kernel
    exact_mod_cast this
  have second : |((unitSeries 36).2 : ℝ) * sineScale - unitSine.2| ≤ 1 := by
    have : |(unitSeries 36).2 * (sineScale : ℚ) - unitSine.2| ≤ 1 := by decide +kernel
    exact_mod_cast this
  have positive : (0 : ℝ) < sineScale := by norm_num [sineScale]
  -- The error of the series, and that of the rounding.
  have near : ∀ {exact series : ℝ} {rounded : Int}, |exact - series| ≤ 1 / sineScale →
      |series * sineScale - rounded| ≤ 1 → |exact * sineScale - rounded| ≤ 2 := by
    intro exact series rounded close rounds
    have scaled : |(exact - series) * sineScale| ≤ 1 := by
      rw [abs_mul, abs_of_pos positive]
      calc |exact - series| * sineScale ≤ 1 / sineScale * sineScale :=
            mul_le_mul_of_nonneg_right close positive.le
        _ = 1 := one_div_mul_cancel positive.ne'
    calc |exact * sineScale - rounded|
        = |(exact - series) * sineScale + (series * sineScale - rounded)| := by ring_nf
      _ ≤ |(exact - series) * sineScale| + |series * sineScale - rounded| := abs_add_le _ _
      _ ≤ 2 := by linarith
  exact ⟨near (cosine.trans small) first, near (sine.trans small) second⟩

/-- One product of the addition theorems: the errors of its factors add up. -/
theorem product_near {x y : ℝ} {u v : Int} {error : ℝ} (bounded : |x| ≤ 1)
    (left : |x * sineScale - u| ≤ error) (right : |y * sineScale - v| ≤ 2) :
    |x * y * sineScale - u * v / sineScale| ≤ 2 + error * (|(v : ℝ)| / sineScale) := by
  have positive : (0 : ℝ) < sineScale := by norm_num [sineScale]
  have parts : x * y * sineScale - u * v / sineScale =
      x * (y * sineScale - v) + (x * sineScale - u) * (v / sineScale) := by
    field_simp
    ring
  rw [parts]
  refine (abs_add_le _ _).trans (add_le_add ?_ ?_)
  · calc |x * (y * sineScale - v)| = |x| * |y * sineScale - v| := abs_mul _ _
      _ ≤ 1 * 2 := mul_le_mul bounded right (abs_nonneg _) zero_le_one
      _ = 2 := one_mul 2
  · rw [abs_mul, abs_div, abs_of_pos positive]
    exact mul_le_mul_of_nonneg_right left (by positivity)

/-- Rounding a quotient down costs less than one. -/
theorem floor_near (a : Int) : |(a : ℝ) / sineScale - (a / sineScale : Int)| ≤ 1 := by
  have positive : 0 < sineScale := by decide
  have real : (0 : ℝ) < sineScale := by exact_mod_cast positive
  have low : a / sineScale * sineScale ≤ a := Int.ediv_mul_le a positive.ne'
  have high : a < (a / sineScale + 1) * sineScale := Int.lt_ediv_add_one_mul_self a positive
  have lowReal : ((a / sineScale : Int) : ℝ) ≤ a / sineScale := by
    rw [le_div_iff₀ real]
    exact_mod_cast low
  have highReal : (a : ℝ) / sineScale ≤ (a / sineScale : Int) + 1 := by
    rw [div_le_iff₀ real]
    exact_mod_cast high.le
  rw [abs_le]
  constructor <;> linarith

/-- Cosines and sines in fixed point, with an error that at most doubles from one to the next. -/
theorem sineOf_near (n : Nat) :
    |Real.cos n * sineScale - (sineOf n).1| ≤ 5 * (2 ^ n - 1) ∧
      |Real.sin n * sineScale - (sineOf n).2| ≤ 5 * (2 ^ n - 1) := by
  obtain ⟨cosOne, sinOne⟩ := unitSine_near
  -- The factors of one are small enough for the error to double at most.
  have factors : |(unitSine.1 : ℝ)| / sineScale + |(unitSine.2 : ℝ)| / sineScale ≤ 2 := by
    norm_num [unitSine, sineScale]
  induction n with
  | zero => simp [sineOf]
  | succ n ih =>
    obtain ⟨cosine, sine⟩ := ih
    set error : ℝ := 5 * (2 ^ n - 1)
    have nonneg : 0 ≤ error := le_trans (abs_nonneg _) cosine
    have total : 2 + error * (|(unitSine.1 : ℝ)| / sineScale) +
        (2 + error * (|(unitSine.2 : ℝ)| / sineScale)) + 1 ≤ 5 * (2 ^ (n + 1) - 1) := by
      have := mul_le_mul_of_nonneg_left factors nonneg
      have power : (5 : ℝ) * (2 ^ (n + 1) - 1) = 2 * error + 5 := by
        rw [pow_succ]
        ring
      rw [power]
      linarith
    have cosCos := product_near (Real.abs_cos_le_one n) cosine cosOne
    have sinSin := product_near (Real.abs_sin_le_one n) sine sinOne
    have sinCos := product_near (Real.abs_sin_le_one n) sine cosOne
    have cosSin := product_near (Real.abs_cos_le_one n) cosine sinOne
    refine ⟨le_trans ?_ total, le_trans ?_ total⟩
    · have rounds := floor_near ((sineOf n).1 * unitSine.1 - (sineOf n).2 * unitSine.2)
      rw [Int.cast_sub, Int.cast_mul, Int.cast_mul, sub_div] at rounds
      rw [Nat.cast_succ, Real.cos_add, sub_mul, sineOf]
      rw [abs_le] at *
      constructor <;> linarith
    · have rounds := floor_near ((sineOf n).2 * unitSine.1 + (sineOf n).1 * unitSine.2)
      rw [Int.cast_add, Int.cast_mul, Int.cast_mul, add_div] at rounds
      rw [Nat.cast_succ, Real.sin_add, add_mul, sineOf]
      rw [abs_le] at *
      constructor <;> linarith

/-- The whole part of a multiple of a sine, where the error does not matter. -/
theorem floor_abs_sin {n factor whole : Nat}
    (low : whole * sineScale + factor * (5 * 2 ^ n) ≤ factor * |(sineOf n).2|)
    (high : factor * |(sineOf n).2| + factor * (5 * 2 ^ n) < (whole + 1) * sineScale) :
    ⌊factor * |Real.sin n|⌋₊ = whole := by
  have positive : (0 : ℝ) < sineScale := by norm_num [sineScale]
  have near : |(|Real.sin n| * sineScale - |((sineOf n).2 : ℝ)|)| ≤ 5 * 2 ^ n := by
    have close := (sineOf_near n).2
    have scaled : |Real.sin n| * sineScale = |Real.sin n * sineScale| := by
      rw [abs_mul, abs_of_pos positive]
    rw [scaled]
    refine (abs_abs_sub_abs_le _ _).trans (close.trans ?_)
    linarith
  have times : (0 : ℝ) ≤ factor := Nat.cast_nonneg factor
  have lowReal :
      (whole : ℝ) * sineScale + factor * (5 * 2 ^ n) ≤ factor * |((sineOf n).2 : ℝ)| := by
    exact_mod_cast low
  have highReal : (factor : ℝ) * |((sineOf n).2 : ℝ)| + factor * (5 * 2 ^ n) <
      (whole + 1) * sineScale := by
    exact_mod_cast high
  rw [abs_le] at near
  have below := mul_le_mul_of_nonneg_left near.1 times
  have above := mul_le_mul_of_nonneg_left near.2 times
  rw [Nat.floor_eq_iff (mul_nonneg times (abs_nonneg _))]
  constructor
  · refine le_of_mul_le_mul_right ?_ positive
    linarith
  · refine lt_of_mul_lt_mul_right ?_ positive.le
    linarith

end Multiples

end C64Stream
