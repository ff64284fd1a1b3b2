import Mathlib.Tactic

/-! Counting the members of a list that meet a test, while single members are replaced. -/

namespace C64Stream

section Tally

variable {α : Type*} {members : List α} {i : Nat} {old : α}

/-- Replacing a member moves the count by what the test says of the two. -/
theorem tally_set (test : α → Bool) (present : members[i]? = some old) (new : α) :
    (members.set i new).countP test + (test old).toNat = members.countP test + (test new).toNat := by
  obtain ⟨within, found⟩ := List.getElem?_eq_some_iff.mp present
  -- A member that meets the test is counted, so the count can be lowered by one.
  have counted : test old = true → 0 < members.countP test := fun met =>
    List.countP_pos_iff.mpr ⟨old, List.mem_of_getElem? present, met⟩
  rw [List.countP_set within, found]
  cases met : test old with
  | true =>
    have := counted met
    cases test new <;> simp <;> omega
  | false => cases test new <;> simp

theorem tally_pos (test : α → Bool) (present : members[i]? = some old) (met : test old = true) :
    0 < members.countP test :=
  List.countP_pos_iff.mpr ⟨old, List.mem_of_getElem? present, met⟩

theorem tally_zero {test : α → Bool} (none : members.countP test = 0) {member : α}
    (present : member ∈ members) : test member = false := by
  have := List.countP_eq_zero.mp none member present
  simpa using this

/-- Two counts are at most two others when they are so for each member. -/
theorem tally_sum_le {one two three four : α → Bool}
    (bounded : ∀ member, (one member).toNat + (two member).toNat ≤
      (three member).toNat + (four member).toNat) (members : List α) :
    members.countP one + members.countP two ≤ members.countP three + members.countP four := by
  have asNat : ∀ (test : α → Bool) (member : α),
      (if test member = true then 1 else 0) = (test member).toNat := by
    intro test member
    cases test member <;> rfl
  induction members with
  | nil => exact Nat.le_refl 0
  | cons first rest ih =>
    have := bounded first
    simp only [List.countP_cons, asNat]
    omega

end Tally

end C64Stream
