import Mathlib.Tactic

/-! Searching sorted lists by halving. -/

namespace C64Stream

section Search

variable {Element Key : Type} [LinearOrder Key] (key : Element → Key)

/-- The element with a key between two places, looked for in the middle first. -/
def bsearchBetween (elements : List Element) (wanted : Key) : Nat → Nat → Nat → Option Element
  | 0, _, _ => none
  | fuel + 1, low, high =>
    if low < high then
      let middle := (low + high) / 2
      match elements[middle]? with
      | none => none
      | some element =>
        if wanted < key element then bsearchBetween elements wanted fuel low middle
        else if key element < wanted then bsearchBetween elements wanted fuel (middle + 1) high
        else some element
    else none

/-- The element with a key. Each comparison leaves out at least one place, so as many as there are
elements are enough. -/
def bsearch (elements : List Element) (wanted : Key) : Option Element :=
  bsearchBetween key elements wanted elements.length 0 elements.length

/-- A way to sort elements by their keys. -/
structure SortFunction where
  sort : List Element → List Element
  perm : ∀ elements, (sort elements).Perm elements
  sorted : ∀ elements, (sort elements).Pairwise fun first second => key first ≤ key second

/-- Sorting by insertion. -/
def SortFunction.insertion : SortFunction key where
  sort := List.insertionSort fun first second => key first ≤ key second
  perm := List.perm_insertionSort _
  sorted elements := by
    have total : Std.Total fun first second : Element => key first ≤ key second :=
      ⟨fun first second => le_total (key first) (key second)⟩
    have trans : IsTrans Element fun first second => key first ≤ key second :=
      ⟨fun _ _ _ => le_trans⟩
    exact List.pairwise_insertionSort _ elements

end Search

section Laws

variable {Element Key : Type} [LinearOrder Key] {key : Element → Key}
  {elements : List Element} {wanted : Key}

/-- What is found has the key and is an element. -/
theorem bsearchBetween_sound {fuel low high : Nat} {element : Element}
    (found : bsearchBetween key elements wanted fuel low high = some element) :
    element ∈ elements ∧ key element = wanted := by
  induction fuel generalizing low high with
  | zero => cases found
  | succ fuel ih =>
    rw [bsearchBetween] at found
    split at found
    · simp only at found
      split at found
      · cases found
      · rename_i middle here
        split at found
        · exact ih found
        · split at found
          · exact ih found
          · rename_i notBelow notAbove
            obtain rfl := Option.some.inj found
            exact ⟨List.mem_of_getElem? here, le_antisymm (not_lt.mp notBelow) (not_lt.mp notAbove)⟩
    · cases found

/-- An element between two places is found there, if the elements are sorted. -/
theorem bsearchBetween_complete
    (sorted : elements.Pairwise fun first second => key first < key second) {element : Element}
    {place : Nat} (stands : elements[place]? = some element) {fuel low high : Nat}
    (enough : high - low ≤ fuel) (above : low ≤ place) (below : place < high)
    (inside : high ≤ elements.length) :
    bsearchBetween key elements (key element) fuel low high = some element := by
  -- The induction is on the comparisons, and the element stays between the two places.
  induction fuel generalizing low high with
  | zero => omega
  | succ fuel ih =>
    obtain ⟨small, rfl⟩ := List.getElem?_eq_some_iff.mp stands
    have middleInside : (low + high) / 2 < elements.length := by omega
    have order := List.pairwise_iff_getElem.mp sorted
    rw [bsearchBetween, if_pos (by omega)]
    simp only [List.getElem?_eq_getElem middleInside]
    rcases lt_trichotomy place ((low + high) / 2) with before | same | behind
    · rw [if_pos (order _ _ small middleInside before)]
      exact ih (by omega) above before (by omega)
    · simp only [← same, lt_irrefl, if_false]
    · have less := order _ _ middleInside small behind
      rw [if_neg less.not_gt, if_pos less]
      exact ih (by omega) (by omega) below inside

/-- An element with a key is found exactly if it is among sorted elements with different keys. -/
theorem bsearch_eq_some_iff
    (sorted : elements.Pairwise fun first second => key first < key second) {element : Element} :
    bsearch key elements wanted = some element ↔ element ∈ elements ∧ key element = wanted := by
  constructor
  · exact bsearchBetween_sound
  · rintro ⟨member, rfl⟩
    obtain ⟨place, stands⟩ := List.mem_iff_getElem?.mp member
    have small := (List.getElem?_eq_some_iff.mp stands).1
    exact bsearchBetween_complete sorted stands (by omega) (by omega) small le_rfl

/-- Elements with different keys are sorted strictly. -/
theorem SortFunction.strict (sorting : SortFunction key)
    (distinct : (elements.map key).Nodup) :
    (sorting.sort elements).Pairwise fun first second => key first < key second := by
  have different : ((sorting.sort elements).map key).Nodup :=
    ((sorting.perm elements).map key).nodup_iff.mpr distinct
  rw [List.Nodup, List.pairwise_map] at different
  exact (different.and (sorting.sorted elements)).imp fun both => lt_of_le_of_ne both.2 both.1

theorem bsearch_sort (sorting : SortFunction key) (distinct : (elements.map key).Nodup)
    {element : Element} :
    bsearch key (sorting.sort elements) wanted = some element ↔
      element ∈ elements ∧ key element = wanted := by
  rw [bsearch_eq_some_iff (sorting.strict distinct), (sorting.perm elements).mem_iff]

end Laws

end C64Stream
