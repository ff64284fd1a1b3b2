import Mathlib.Tactic

/-! Circular positions of a ring of slots, counted from its tail, and the shift that opens a hole. -/

namespace C64Stream

/-- The slot that lies a number of places after the tail. -/
def ringPos (cap tail offset : Nat) : Nat :=
  (tail + offset) % cap

/-- The number of slots from the tail up to the head. -/
def ringCount (cap head tail : Nat) : Nat :=
  if head ≥ tail then head - tail else cap - tail + head

/-- The slot before a given one, going around the ring. -/
def ringPrev (cap pos : Nat) : Nat :=
  if pos = 0 then cap - 1 else pos - 1

section Positions

variable {cap tail : Nat}

theorem ringPos_lt (positive : 0 < cap) (tail offset : Nat) : ringPos cap tail offset < cap :=
  Nat.mod_lt _ positive

theorem ringPos_zero (inside : tail < cap) : ringPos cap tail 0 = tail := by
  simp [ringPos, Nat.mod_eq_of_lt inside]

/-- A position wraps at most once while its offset stays below the capacity. -/
theorem ringPos_cases (inside : tail < cap) {offset : Nat} (small : offset < cap) :
    ringPos cap tail offset =
      if tail + offset < cap then tail + offset else tail + offset - cap := by
  unfold ringPos
  split_ifs with fits
  · exact Nat.mod_eq_of_lt fits
  · rw [Nat.mod_eq_sub_mod (by omega), Nat.mod_eq_of_lt (by omega)]

theorem ringPos_inj (inside : tail < cap) {i j : Nat} (left : i < cap) (right : j < cap) :
    ringPos cap tail i = ringPos cap tail j ↔ i = j := by
  -- Each side wraps at most once, so the equation is linear.
  rw [ringPos_cases inside left, ringPos_cases inside right]
  split_ifs <;> omega

/-- Every slot has an offset from the tail. -/
theorem exists_ringPos (inside : tail < cap) {slot : Nat} (within : slot < cap) :
    ∃ offset, offset < cap ∧ ringPos cap tail offset = slot := by
  -- A slot before the tail is reached after one wrap.
  by_cases behind : tail ≤ slot
  · refine ⟨slot - tail, by omega, ?_⟩
    rw [ringPos_cases inside (by omega), if_pos (by omega)]
    omega
  · refine ⟨cap - tail + slot, by omega, ?_⟩
    rw [ringPos_cases inside (by omega), if_neg (by omega)]
    omega

/-- Stepping back from an occupied position lowers its offset by one. -/
theorem ringPrev_ringPos (inside : tail < cap) {offset : Nat} (small : offset + 1 < cap) :
    ringPrev cap (ringPos cap tail (offset + 1)) = ringPos cap tail offset := by
  -- The step back crosses the wrap point exactly when the upper position is slot zero.
  rw [ringPos_cases inside small, ringPos_cases inside (show offset < cap by omega)]
  unfold ringPrev
  by_cases fits : tail + (offset + 1) < cap
  · have lower : tail + offset < cap := by omega
    have nonzero : tail + (offset + 1) ≠ 0 := by omega
    rw [if_pos fits, if_pos lower, if_neg nonzero]
    omega
  · rw [if_neg fits]
    by_cases wraps : tail + offset < cap
    · have zero : tail + (offset + 1) - cap = 0 := by omega
      rw [if_pos wraps, if_pos zero]
      omega
    · have nonzero : tail + (offset + 1) - cap ≠ 0 := by omega
      rw [if_neg wraps, if_neg nonzero]
      omega

theorem ringPos_succ (cap tail offset : Nat) :
    (ringPos cap tail offset + 1) % cap = ringPos cap tail (offset + 1) := by
  unfold ringPos
  rw [Nat.mod_add_mod, Nat.add_assoc]

/-- Moving the tail forward renumbers every position by one. -/
theorem ringPos_tail_succ (tail offset : Nat) :
    ringPos cap ((tail + 1) % cap) offset = ringPos cap tail (offset + 1) := by
  unfold ringPos
  rw [Nat.mod_add_mod]
  congr 1
  omega

theorem ringCount_lt {head : Nat} (insideHead : head < cap) : ringCount cap head tail < cap := by
  unfold ringCount
  split_ifs with ahead
  · exact Nat.lt_of_le_of_lt (Nat.sub_le head tail) insideHead
  · omega

theorem ringPos_count {head : Nat} (insideHead : head < cap) (insideTail : tail < cap) :
    ringPos cap tail (ringCount cap head tail) = head := by
  rw [ringPos_cases insideTail (ringCount_lt insideHead)]
  unfold ringCount
  split_ifs <;> omega

theorem ringCount_ringPos (insideTail : tail < cap) {offset : Nat} (small : offset < cap) :
    ringCount cap (ringPos cap tail offset) tail = offset := by
  rw [ringPos_cases insideTail small]
  unfold ringCount
  split_ifs <;> omega

theorem ringCount_eq_zero {head : Nat} (insideTail : tail < cap) :
    ringCount cap head tail = 0 ↔ head = tail := by
  unfold ringCount
  split_ifs <;> omega

/-- A head that moves on counts one slot more. -/
theorem ringCount_head_succ {head : Nat} (insideHead : head < cap) (insideTail : tail < cap)
    (room : ringCount cap head tail + 1 < cap) :
    ringCount cap ((head + 1) % cap) tail = ringCount cap head tail + 1 := by
  have moved := ringPos_succ cap tail (ringCount cap head tail)
  rw [ringPos_count insideHead insideTail] at moved
  rw [moved, ringCount_ringPos insideTail room]

/-- A tail that moves on counts one slot less. -/
theorem ringCount_tail_succ {head : Nat} (insideHead : head < cap) (insideTail : tail < cap)
    (occupied : head ≠ tail) :
    ringCount cap head ((tail + 1) % cap) + 1 = ringCount cap head tail := by
  -- The head is one place nearer to the new tail.
  have bound : ringCount cap head tail < cap := ringCount_lt insideHead
  have positive : ringCount cap head tail ≠ 0 := (ringCount_eq_zero insideTail).not.mpr occupied
  have nearer := @ringPos_tail_succ cap tail (ringCount cap head tail - 1)
  rw [Nat.sub_add_cancel (by omega), ringPos_count insideHead insideTail] at nearer
  conv_lhs => rw [← nearer]
  rw [ringCount_ringPos (Nat.mod_lt _ (by omega)) (by omega)]
  omega

/-- The next head meets the tail exactly when one slot is left. -/
theorem next_head_eq_tail {head : Nat} (insideHead : head < cap) (insideTail : tail < cap) :
    (head + 1) % cap = tail ↔ ringCount cap head tail = cap - 1 := by
  unfold ringCount
  by_cases wraps : head + 1 = cap
  · rw [wraps, Nat.mod_self]
    split_ifs <;> omega
  · rw [Nat.mod_eq_of_lt (by omega)]
    split_ifs <;> omega

end Positions

section Contents

variable {α : Type*} {cap head tail : Nat}

/-- What the slots from the tail up to the head hold, the tail first. -/
def ringContents (cap head tail : Nat) (slots : Nat → α) : List α :=
  (List.range (ringCount cap head tail)).map fun offset => slots (ringPos cap tail offset)

@[simp] theorem ringContents_length (cap head tail : Nat) (slots : Nat → α) :
    (ringContents cap head tail slots).length = ringCount cap head tail := by
  simp [ringContents]

/-- The slot at the head is not one of those that are held. -/
theorem ringContents_congr (insideHead : head < cap) (insideTail : tail < cap)
    {before after : Nat → α} (same : ∀ slot, slot ≠ head → after slot = before slot) :
    ringContents cap head tail after = ringContents cap head tail before := by
  -- The head is the place behind the last one that is counted.
  refine List.map_congr_left fun offset member => same _ fun meets => ?_
  have within := List.mem_range.mp member
  have bound : ringCount cap head tail < cap := ringCount_lt insideHead
  rw [← ringPos_count insideHead insideTail, ringPos_inj insideTail (by omega) bound] at meets
  omega

/-- Moving the head on takes in the slot that it leaves. -/
theorem ringContents_head_succ (insideHead : head < cap) (insideTail : tail < cap)
    (room : ringCount cap head tail + 1 < cap) (slots : Nat → α) :
    ringContents cap ((head + 1) % cap) tail slots =
      ringContents cap head tail slots ++ [slots head] := by
  unfold ringContents
  rw [ringCount_head_succ insideHead insideTail room, List.range_succ, List.map_append]
  simp [ringPos_count insideHead insideTail]

/-- Moving the tail on gives up the slot that it leaves. -/
theorem ringContents_tail_succ (insideHead : head < cap) (insideTail : tail < cap)
    (occupied : head ≠ tail) (slots : Nat → α) :
    ringContents cap head tail slots =
      slots tail :: ringContents cap head ((tail + 1) % cap) slots := by
  unfold ringContents
  rw [← ringCount_tail_succ insideHead insideTail occupied, List.range_succ_eq_map, List.map_cons,
    List.map_map, ringPos_zero insideTail]
  simp [Function.comp_def, ringPos_tail_succ]

end Contents

section Shift

variable {α : Type*}

/-- Exchange the contents of two slots. -/
def swapSlots (slots : Nat → α) (a b : Nat) : Nat → α :=
  fun i => if i = a then slots b else if i = b then slots a else slots i

/-- Walk backwards from a slot, exchanging it with its predecessor a number of times. -/
def swapBack (cap : Nat) : Nat → Nat → (Nat → α) → Nat → α
  | 0, _, slots => slots
  | count + 1, pos, slots =>
    swapBack cap count (ringPrev cap pos) (swapSlots slots pos (ringPrev cap pos))

variable {cap tail : Nat}

/-- After the exchanges the last slot is in front, and the others have moved up by one. -/
theorem swapBack_ringPos (inside : tail < cap) (slots : Nat → α) (low count : Nat)
    (small : low + count < cap) {offset : Nat} (within : offset < cap) :
    swapBack cap count (ringPos cap tail (low + count)) slots (ringPos cap tail offset) =
      if offset < low ∨ low + count < offset then slots (ringPos cap tail offset)
      else if offset = low then slots (ringPos cap tail (low + count))
      else slots (ringPos cap tail (offset - 1)) := by
  -- One exchange moves the hole down by one place, and the rest of the walk starts there.
  induction count generalizing slots with
  | zero =>
    simp only [swapBack, Nat.add_zero]
    split_ifs with outside same
    · rfl
    · rw [same]
    · omega
  | succ count ih =>
    have before : ringPrev cap (ringPos cap tail (low + (count + 1)))
        = ringPos cap tail (low + count) := by
      rw [← Nat.add_assoc, ringPrev_ringPos inside (by omega)]
    rw [swapBack, before, ih _ (by omega)]
    have top : low + (count + 1) < cap := small
    have apart : ringPos cap tail (low + count) ≠ ringPos cap tail (low + (count + 1)) := by
      rw [Ne, ringPos_inj inside (by omega) top]
      omega
    simp only [swapSlots, ringPos_inj inside within top,
      ringPos_inj inside within (show low + count < cap by omega)]
    by_cases high : offset = low + (count + 1)
    · -- The topmost slot receives its predecessor in the first exchange.
      have above : offset < low ∨ low + count < offset := by omega
      rw [if_pos above, if_pos high, if_neg (by omega), if_neg (by omega)]
      congr 2
      omega
    · by_cases outside : offset < low ∨ low + count < offset
      · have still : offset < low ∨ low + (count + 1) < offset := by omega
        have other : offset ≠ low + count := by omega
        rw [if_pos outside, if_pos still, if_neg high, if_neg other]
      · have still : ¬(offset < low ∨ low + (count + 1) < offset) := by omega
        rw [if_neg outside, if_neg still]
        by_cases same : offset = low
        · rw [if_pos same, if_pos same, if_neg apart, if_pos trivial]
        · have one : offset - 1 < cap := by omega
          have under : ringPos cap tail (offset - 1) ≠ ringPos cap tail (low + (count + 1)) := by
            rw [Ne, ringPos_inj inside one top]
            omega
          have beneath : ringPos cap tail (offset - 1) ≠ ringPos cap tail (low + count) := by
            rw [Ne, ringPos_inj inside one (by omega)]
            omega
          rw [if_neg same, if_neg same, if_neg under, if_neg beneath]

end Shift

end C64Stream
