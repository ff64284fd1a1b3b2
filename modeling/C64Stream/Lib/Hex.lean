import Mathlib.Tactic

/-! Bytes: their hexadecimal digits, the words that they make, and how they are overwritten. -/

namespace C64Stream

section Hex

/-- The digit of a number below sixteen. -/
def digitByte (upper : Bool) (n : Nat) : UInt8 :=
  UInt8.ofNat (if n < 10 then 48 + n else (if upper then 55 else 87) + n)

/-- The two digits of a byte. -/
def hexByte (upper : Bool) (byte : UInt8) : List UInt8 :=
  [digitByte upper (byte.toNat / 16), digitByte upper (byte.toNat % 16)]

/-- The value of a hexadecimal digit in either case. -/
def hexValue (byte : UInt8) : Option Nat :=
  if 48 ≤ byte ∧ byte ≤ 57 then some (byte.toNat - 48)
  else if 65 ≤ byte ∧ byte ≤ 70 then some (byte.toNat - 55)
  else if 97 ≤ byte ∧ byte ≤ 102 then some (byte.toNat - 87)
  else none

theorem forall_byte {holds : UInt8 → Prop} (each : ∀ n : Fin 256, holds (UInt8.ofNat n)) :
    ∀ byte, holds byte := by
  intro byte
  have here := each ⟨byte.toNat, byte.toNat_lt⟩
  rwa [UInt8.ofNat_toNat] at here

theorem forall_mem_of_all {α : Type*} {holds : α → Prop} [DecidablePred holds] {list : List α}
    (checked : (list.all fun member => decide (holds member)) = true) :
    ∀ member ∈ list, holds member :=
  fun member among => of_decide_eq_true (List.all_eq_true.mp checked member among)

theorem digit_listed : ∀ byte : UInt8, 48 ≤ byte ∧ byte ≤ 57 →
    byte ∈ ([48, 49, 50, 51, 52, 53, 54, 55, 56, 57] : List UInt8) :=
  forall_byte (by decide +kernel)

theorem hexValue_digitByte (upper : Bool) {n : Nat} (small : n < 16) :
    hexValue (digitByte upper n) = some n := by
  have all : ∀ upper : Bool, ∀ n < 16, hexValue (digitByte upper n) = some n := by decide
  exact all upper n small

@[simp] theorem hexByte_length (upper : Bool) (byte : UInt8) : (hexByte upper byte).length = 2 :=
  rfl

theorem hexByte_value (byte : UInt8) : 16 * (byte.toNat / 16) + byte.toNat % 16 = byte.toNat :=
  Nat.div_add_mod byte.toNat 16

end Hex

section Words

/-- Bytes that stand one above the other make a word. -/
theorem word_of_bytes (b0 b1 b2 b3 : UInt8) :
    b0.toUInt32 ||| (b1.toUInt32 <<< 8) ||| (b2.toUInt32 <<< 16) ||| (b3.toUInt32 <<< 24) =
      UInt32.ofNat (b0.toNat + 256 * b1.toNat + 65536 * b2.toNat + 16777216 * b3.toNat) := by
  have l0 := b0.toNat_lt
  have l1 := b1.toNat_lt
  have l2 := b2.toNat_lt
  have l3 := b3.toNat_lt
  -- The bytes above the lowest ones do not overlap with them.
  have join : ∀ low high n : Nat, low < 2 ^ n → low ||| high <<< n = low + high <<< n := by
    intro low high n small
    rw [Nat.or_comm, ← Nat.shiftLeft_add_eq_or_of_lt small, Nat.add_comm]
  apply UInt32.toNat.inj
  simp only [UInt32.toNat_or, UInt32.toNat_shiftLeft, UInt8.toNat_toUInt32, UInt32.reduceToNat,
    Nat.reduceMod, UInt32.toNat_ofNat']
  rw [Nat.mod_eq_of_lt (by rw [Nat.shiftLeft_eq]; omega),
    Nat.mod_eq_of_lt (by rw [Nat.shiftLeft_eq]; omega),
    Nat.mod_eq_of_lt (by rw [Nat.shiftLeft_eq]; omega), Nat.mod_eq_of_lt (by omega),
    join b0.toNat _ _ (by omega), join (b0.toNat + b1.toNat <<< 8) _ _ (by
      rw [Nat.shiftLeft_eq]; omega),
    join (b0.toNat + b1.toNat <<< 8 + b2.toNat <<< 16) _ _ (by
      rw [Nat.shiftLeft_eq, Nat.shiftLeft_eq]; omega)]
  simp only [Nat.shiftLeft_eq]
  omega

end Words

section Overwriting

/-- Overwrite the bytes of a file from an offset on. -/
def overwrite (file : List UInt8) (offset : Nat) (bytes : List UInt8) : List UInt8 :=
  file.take offset ++ bytes ++ file.drop (offset + bytes.length)

/-- Bytes that are overwritten within a file leave its length. -/
theorem overwrite_length {content bytes : List UInt8} {offset : Nat}
    (inside : offset + bytes.length ≤ content.length) :
    (overwrite content offset bytes).length = content.length := by
  unfold overwrite
  rw [List.length_append, List.length_append, List.length_take, List.length_drop]
  omega

end Overwriting

end C64Stream
