import Mathlib.Data.List.Basic
import Mathlib.Data.List.Perm.Basic

/-! Lists of items under keys, in which several items may share a key. -/

namespace C64Stream

section Keyed

variable {α κ : Type*} [BEq κ] [LawfulBEq κ] {key : α → κ} {items : List α}

/-- The items of a key, in their order. -/
def underKey (key : α → κ) (wanted : κ) (items : List α) : List α :=
  items.filter (key · == wanted)

/-- The items with one in the place of the first of its key, or else at the end. -/
def putKey (key : α → κ) (item : α) (items : List α) : List α :=
  let index := items.findIdx (key · == key item)
  if index = items.length then items ++ [item] else items.set index item

/-- The items without the first one of a key. -/
def dropKey (key : α → κ) (wanted : κ) (items : List α) : List α :=
  items.eraseIdx (items.findIdx (key · == wanted))

omit [LawfulBEq κ] in
theorem find?_key (wanted : κ) (items : List α) :
    items.find? (key · == wanted) = (underKey key wanted items).head? :=
  List.head?_filter.symm

omit [LawfulBEq κ] in
theorem find?_key_and (wanted : κ) (has : α → Bool) (items : List α) :
    (items.find? fun item => key item == wanted && has item)
      = (underKey key wanted items).find? has := by
  rw [underKey, List.find?_filter]
  simp

omit [LawfulBEq κ] in
theorem findIdx_key_eq_length (wanted : κ) (items : List α) :
    items.findIdx (key · == wanted) = items.length ↔ underKey key wanted items = [] := by
  rw [List.findIdx_eq_length, underKey, List.filter_eq_nil_iff]
  simp

/-- A changed list has the new item first under its key, in the place of the first old one. -/
theorem underKey_put_same (key : α → κ) (item : α) (items : List α) :
    underKey key (key item) (putKey key item items)
      = item :: (underKey key (key item) items).tail := by
  induction items with
  | nil => simp [putKey, underKey]
  | cons first rest ih =>
    simp only [putKey, underKey] at ih ⊢
    rw [List.findIdx_cons]
    by_cases same : key first = key item
    · -- The first item is the one that is replaced.
      simp [same]
    · have differ : (key first == key item) = false := beq_eq_false_iff_ne.mpr same
      simp only [differ, cond_false, List.length_cons, Nat.add_right_cancel_iff]
      -- Behind another item, the search goes on as it does in the rest.
      split_ifs at ih ⊢ <;> simpa [differ] using ih

/-- A changed list has the same items under the other keys. -/
theorem underKey_put_other {item : α} {wanted : κ} (differ : key item ≠ wanted)
    (items : List α) :
    underKey key wanted (putKey key item items) = underKey key wanted items := by
  have apart : (key item == wanted) = false := beq_eq_false_iff_ne.mpr differ
  induction items with
  | nil => simp [putKey, underKey, apart]
  | cons first rest ih =>
    simp only [putKey, underKey] at ih ⊢
    rw [List.findIdx_cons]
    by_cases same : key first = key item
    · -- Neither the item that goes nor the one that comes has the key.
      simp [same, apart]
    · have other : (key first == key item) = false := beq_eq_false_iff_ne.mpr same
      simp only [other, cond_false, List.length_cons, Nat.add_right_cancel_iff]
      split_ifs at ih ⊢ <;> simpa [List.filter_cons] using congrArg
        (fun kept => if key first == wanted then first :: kept else kept) ih

omit [LawfulBEq κ] in
theorem putKey_length_new (key : α → κ) {item : α} (new : underKey key (key item) items = []) :
    (putKey key item items).length = items.length + 1 := by
  have absent := (findIdx_key_eq_length (key item) items).mpr new
  simp [putKey, absent]

omit [LawfulBEq κ] in
theorem putKey_length_known {item : α} (known : underKey key (key item) items ≠ []) :
    (putKey key item items).length = items.length := by
  have present := (findIdx_key_eq_length (key item) items).not.mpr known
  simp [putKey, present]

/-- A list without the first item of a key has its others still. -/
theorem underKey_drop_same (wanted : κ) (items : List α) :
    underKey key wanted (dropKey key wanted items) = (underKey key wanted items).tail := by
  induction items with
  | nil => simp [dropKey, underKey]
  | cons first rest ih =>
    simp only [dropKey, underKey] at ih ⊢
    rw [List.findIdx_cons]
    by_cases same : key first = wanted
    · simp [same]
    · have differ : (key first == wanted) = false := beq_eq_false_iff_ne.mpr same
      simpa [differ] using ih

/-- A list without an item of a key has the same items under the other keys. -/
theorem underKey_drop_other {gone wanted : κ} (differ : gone ≠ wanted) (items : List α) :
    underKey key wanted (dropKey key gone items) = underKey key wanted items := by
  induction items with
  | nil => simp [dropKey, underKey]
  | cons first rest ih =>
    simp only [dropKey, underKey] at ih ⊢
    rw [List.findIdx_cons]
    by_cases same : key first = gone
    · simp [same, differ]
    · have other : (key first == gone) = false := beq_eq_false_iff_ne.mpr same
      simp only [other, cond_false, List.eraseIdx_cons_succ]
      rw [List.filter_cons, List.filter_cons, ih]

omit [LawfulBEq κ] in
theorem dropKey_length {wanted : κ} (known : underKey key wanted items ≠ []) :
    (dropKey key wanted items).length = items.length - 1 := by
  have within : items.findIdx (key · == wanted) ≤ items.length := List.findIdx_le_length
  have present := (findIdx_key_eq_length wanted items).not.mpr known
  rw [dropKey, List.length_eraseIdx_of_lt (by omega)]

omit [BEq κ] [LawfulBEq κ] in
/-- No two items share a key if the keys are distinct. -/
theorem filter_key_length_le_one [DecidableEq κ] (distinct : (items.map key).Nodup) (wanted : κ) :
    (items.filter fun item => decide (key item = wanted)).length ≤ 1 := by
  -- The keys of the items that are found are distinct, and all the same.
  have single : ((items.filter fun item => decide (key item = wanted)).map key).Nodup :=
    distinct.sublist (List.filter_sublist.map key)
  have same : ∀ found ∈ (items.filter fun item => decide (key item = wanted)).map key,
      found = wanted := by
    intro found among
    obtain ⟨item, within, rfl⟩ := List.mem_map.mp among
    simpa using (List.mem_filter.mp within).2
  rw [List.eq_replicate_of_mem same, List.nodup_replicate, List.length_map] at single
  exact single

omit [BEq κ] [LawfulBEq κ] in
/-- A selection of one item at most does not depend on the order of the list. -/
theorem filter_eq_of_perm {others : List α} (perm : items.Perm others) {has : α → Bool}
    (few : (others.filter has).length ≤ 1) : items.filter has = others.filter has := by
  have same := perm.filter has
  cases found : others.filter has with
  | nil => rwa [found, List.perm_nil] at same
  | cons item rest =>
    rw [found, List.length_cons] at few
    have alone : rest = [] := List.length_eq_zero_iff.mp (by omega)
    rwa [found, alone, List.perm_singleton, ← alone] at same

/-- Lists that agree under every key have the same items. -/
theorem perm_of_underKey [DecidableEq α] (key : α → κ) {others : List α}
    (agree : ∀ wanted, underKey key wanted items = underKey key wanted others) :
    items.Perm others := by
  refine List.perm_iff_count.mpr fun item => ?_
  -- An item is found under its own key as often as in the whole list.
  have under : ∀ list : List α, (underKey key (key item) list).count item = list.count item :=
    fun list => List.count_filter (by simp)
  rw [← under items, ← under others, agree]

end Keyed

end C64Stream
