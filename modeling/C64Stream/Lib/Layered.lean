import Mathlib.Tactic

/-! Maps with a fallback: what is set hides the fallback, and the last of several settings counts. -/

namespace C64Stream

/-- Values by their keys, each set or left to a fallback. -/
structure Layered (κ ν : Type*) where
  user : κ → Option ν
  fallback : κ → Option ν

section Layers

variable {κ ν : Type*} [DecidableEq κ]

/-- The value of a key. -/
def Layered.get (layered : Layered κ ν) (key : κ) : Option ν :=
  (layered.user key).or (layered.fallback key)

/-- Set the value of a key. -/
def Layered.set (layered : Layered κ ν) (key : κ) (value : ν) : Layered κ ν :=
  { layered with user := Function.update layered.user key (some value) }

/-- Set several values, one after the other. -/
def Layered.setAll (layered : Layered κ ν) (assigned : List (κ × ν)) : Layered κ ν :=
  assigned.foldl (fun layered entry => layered.set entry.1 entry.2) layered

/-- The last value that a list gives a key. -/
def lastAssigned (assigned : List (κ × ν)) (key : κ) : Option ν :=
  assigned.foldl (fun found entry => if entry.1 = key then some entry.2 else found) none

variable (layered : Layered κ ν)

@[simp] theorem Layered.get_set_same (key : κ) (value : ν) :
    (layered.set key value).get key = some value := by
  simp [Layered.get, Layered.set]

theorem Layered.get_set_of_ne {key other : κ} (apart : other ≠ key) (value : ν) :
    (layered.set key value).get other = layered.get other := by
  simp [Layered.get, Layered.set, Function.update_of_ne apart]

theorem Layered.user_set_of_ne {key other : κ} (apart : other ≠ key) (value : ν) :
    (layered.set key value).user other = layered.user other :=
  Function.update_of_ne apart _ _

/-- An earlier find only counts where the list gives the key nothing. -/
theorem lastAssigned_or (assigned : List (κ × ν)) (key : κ) (found : Option ν) :
    assigned.foldl (fun found entry => if entry.1 = key then some entry.2 else found) found =
      (lastAssigned assigned key).or found := by
  induction assigned generalizing found with
  | nil => rfl
  | cons entry rest ih =>
    unfold lastAssigned
    rw [List.foldl_cons, List.foldl_cons, ih, ih (if entry.1 = key then some entry.2 else none)]
    split_ifs <;> simp

theorem lastAssigned_cons (entry : κ × ν) (rest : List (κ × ν)) (key : κ) :
    lastAssigned (entry :: rest) key =
      (lastAssigned rest key).or (if entry.1 = key then some entry.2 else none) :=
  lastAssigned_or rest key _

/-- After several settings a key has the last value that it was given, or else its old one. -/
theorem Layered.get_setAll (assigned : List (κ × ν)) (key : κ) :
    (layered.setAll assigned).get key = (lastAssigned assigned key).or (layered.get key) := by
  -- The induction is on the settings, each of which changes one key.
  induction assigned generalizing layered with
  | nil => rfl
  | cons entry rest ih =>
    have rest_ := ih (layered.set entry.1 entry.2)
    change ((layered.set entry.1 entry.2).setAll rest).get key = _
    rw [rest_, lastAssigned_cons, Option.or_assoc]
    split_ifs with same
    · rw [← same, Layered.get_set_same]
      rfl
    · rw [Layered.get_set_of_ne _ (Ne.symm same)]
      rfl

/-- A key that the list does not name is given nothing. -/
theorem lastAssigned_none {assigned : List (κ × ν)} {key : κ}
    (unnamed : ∀ entry ∈ assigned, entry.1 ≠ key) : lastAssigned assigned key = none := by
  induction assigned with
  | nil => rfl
  | cons entry rest ih =>
    have apart := unnamed entry (by simp)
    rw [lastAssigned, List.foldl_cons, if_neg apart]
    exact ih fun other among => unnamed other (by simp [among])

/-- Among different keys each has the value that stands with it. -/
theorem lastAssigned_of_nodup {assigned : List (κ × ν)} (distinct : (assigned.map Prod.fst).Nodup)
    {key : κ} {value : ν} (among : (key, value) ∈ assigned) :
    lastAssigned assigned key = some value := by
  induction assigned with
  | nil => cases among
  | cons entry rest ih =>
    obtain ⟨apart, distinct⟩ := List.nodup_cons.mp distinct
    rw [lastAssigned_cons]
    rcases List.mem_cons.mp among with rfl | behind
    · -- No entry behind it has the same key.
      have unnamed : ∀ other ∈ rest, other.1 ≠ key :=
        fun other there same => apart (List.mem_map.mpr ⟨other, there, same⟩)
      rw [lastAssigned_none unnamed]
      simp
    · rw [ih distinct behind]
      rfl

/-- After several settings a key is set to the last value that it was given, or as it was. -/
theorem Layered.user_setAll (assigned : List (κ × ν)) (key : κ) :
    (layered.setAll assigned).user key = (lastAssigned assigned key).or (layered.user key) := by
  induction assigned generalizing layered with
  | nil => rfl
  | cons entry rest ih =>
    change ((layered.set entry.1 entry.2).setAll rest).user key = _
    rw [ih, lastAssigned_cons, Option.or_assoc]
    split_ifs with same
    · have here : (layered.set entry.1 entry.2).user entry.1 = some entry.2 :=
        Function.update_self ..
      rw [← same, here]
      rfl
    · rw [Layered.user_set_of_ne _ (Ne.symm same)]
      rfl

theorem Layered.fallback_setAll (assigned : List (κ × ν)) :
    (layered.setAll assigned).fallback = layered.fallback := by
  induction assigned generalizing layered with
  | nil => rfl
  | cons entry rest ih => exact ih (layered.set entry.1 entry.2)

/-- Making the same settings again changes nothing. -/
theorem Layered.setAll_setAll (assigned : List (κ × ν)) :
    (layered.setAll assigned).setAll assigned = layered.setAll assigned := by
  have user : ((layered.setAll assigned).setAll assigned).user =
      (layered.setAll assigned).user := by
    funext key
    rw [Layered.user_setAll, Layered.user_setAll, ← Option.or_assoc, Option.or_self]
  have fallback := Layered.fallback_setAll (layered.setAll assigned) assigned
  cases again : (layered.setAll assigned).setAll assigned
  cases once : layered.setAll assigned
  rw [again, once] at user fallback
  simp_all

end Layers

end C64Stream
