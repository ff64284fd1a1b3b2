import Mathlib.Tactic

/-! Sixteen-bit counters that wrap around, and the order their signed differences give. -/

namespace C64Stream

/-- The value of a sixteen-bit difference after the cast to a signed type. -/
def int16 (difference : UInt16) : Int :=
  difference.toInt16.toInt

@[simp] theorem int16_zero : int16 0 = 0 := by decide

/-- The signed reading of a wrapped integer is its balanced remainder. -/
theorem int16_ofInt (value : Int) : int16 (UInt16.ofInt value) = value.bmod 65536 := by
  -- Both sides read the same sixteen bits, once as a residue and once as a signed number.
  have bits : (UInt16.ofInt value).toBitVec = BitVec.ofInt 16 value := by
    apply BitVec.eq_of_toNat_eq
    simp only [UInt16.ofInt, UInt16.toBitVec_ofNat', BitVec.toNat_ofNat, BitVec.toNat_ofInt]
    omega
  have reading : int16 (UInt16.ofInt value) = (UInt16.ofInt value).toBitVec.toInt := rfl
  rw [reading, bits, BitVec.toInt_ofInt]

theorem ofInt_sub_ofInt (a b : Int) :
    UInt16.ofInt a - UInt16.ofInt b = UInt16.ofInt (a - b) := by
  rw [Int.sub_eq_add_neg, UInt16.ofInt_add, UInt16.ofInt_neg, UInt16.sub_eq_add_neg]

theorem int16_ofInt_sub {a b : Int} (lower : -32768 ≤ a - b) (upper : a - b < 32768) :
    int16 (UInt16.ofInt a - UInt16.ofInt b) = a - b := by
  -- Wrapping commutes with subtraction, and the balanced remainder fixes small numbers.
  rw [ofInt_sub_ofInt, int16_ofInt]
  exact Int.bmod_eq_of_le (by omega) (by omega)

theorem ofInt_toNat (a : UInt16) : UInt16.ofInt a.toNat = a := by
  apply UInt16.toNat_inj.mp
  have small := a.toNat_lt
  simp only [UInt16.ofInt, UInt16.toNat_ofNat']
  omega

/-- Within half the range above a base, the signed difference is the difference of the distances. -/
theorem int16_sub_above (base : UInt16) {a b : UInt16} (left : (a - base).toNat < 32768)
    (right : (b - base).toNat < 32768) :
    int16 (a - b) = (a - base).toNat - (b - base).toNat := by
  -- Both numbers are their distance from the base, and distances do not wrap.
  have shifted : a - b = UInt16.ofInt (a - base).toNat - UInt16.ofInt (b - base).toNat := by
    rw [ofInt_toNat, ofInt_toNat]
    grind
  rw [shifted, int16_ofInt_sub (by omega) (by omega)]

end C64Stream
