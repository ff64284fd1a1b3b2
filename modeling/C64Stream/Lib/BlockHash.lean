import Mathlib.Tactic

/-! Hashing block by block: whole blocks change the state, the rest is kept until there is more. -/

namespace C64Stream

section Absorb

variable {σ α : Type*}

/-- Takes one more element; a block that is full is compressed into the state. -/
def feed (size : Nat) (compress : σ → List α → σ) (held : σ × List α) (element : α) :
    σ × List α :=
  let block := held.2 ++ [element]
  if block.length = size then (compress held.1 block, []) else (held.1, block)

/-- Takes all elements of a list. -/
def absorb (size : Nat) (compress : σ → List α → σ) (held : σ × List α) (data : List α) :
    σ × List α :=
  data.foldl (feed size compress) held

variable {size : Nat} {compress : σ → List α → σ}

theorem absorb_append (held : σ × List α) (first second : List α) :
    absorb size compress held (first ++ second) =
      absorb size compress (absorb size compress held first) second :=
  List.foldl_append

@[simp] theorem absorb_nil (held : σ × List α) : absorb size compress held [] = held := rfl

/-- Data that does not fill the block is only kept. -/
theorem absorb_short (state : σ) (rest data : List α) (short : rest.length + data.length < size) :
    absorb size compress (state, rest) data = (state, rest ++ data) := by
  induction data generalizing rest with
  | nil => rw [absorb_nil, List.append_nil]
  | cons element data ih =>
    rw [List.length_cons] at short
    have open_ : (rest ++ [element]).length ≠ size := by
      rw [List.length_append, List.length_singleton]
      omega
    -- The block is still open behind the first element.
    rw [absorb, List.foldl_cons, feed, if_neg open_, ← absorb,
      ih (rest ++ [element]) (by rw [List.length_append, List.length_singleton]; omega),
      List.append_assoc, List.singleton_append]

/-- Data that fills the block is compressed with what was kept. -/
theorem absorb_fill (state : σ) (rest data : List α) (some : data ≠ [])
    (full : rest.length + data.length = size) :
    absorb size compress (state, rest) data = (compress state (rest ++ data), []) := by
  obtain ⟨start, last, rfl⟩ := (List.eq_nil_or_concat' data).resolve_left some
  rw [List.length_append, List.length_singleton] at full
  -- All but the last element are kept; the last one fills the block.
  rw [absorb_append, absorb_short state rest start (by omega), absorb, List.foldl_cons,
    List.foldl_nil, feed, if_pos (by simp only [List.length_append, List.length_singleton]; omega),
    List.append_assoc]

/-- Data behind that which fills the block goes into the next one. -/
theorem absorb_fill_append (state : σ) (rest block data : List α) (positive : rest.length < size)
    (full : rest.length + block.length = size) :
    absorb size compress (state, rest) (block ++ data) =
      absorb size compress (compress state (rest ++ block), []) data := by
  have some : block ≠ [] := by
    rintro rfl
    rw [List.length_nil] at full
    omega
  rw [absorb_append, absorb_fill state rest block some full]

/-- What is kept is what the whole blocks leave over. -/
theorem absorb_rest_length (positive : 0 < size) (state : σ) (rest data : List α)
    (short : rest.length < size) :
    (absorb size compress (state, rest) data).2.length = (rest.length + data.length) % size := by
  induction data generalizing state rest with
  | nil => exact (Nat.mod_eq_of_lt short).symm
  | cons element data ih =>
    rw [absorb, List.foldl_cons, ← absorb, feed, List.length_cons]
    dsimp only
    split
    · rename_i full
      rw [List.length_append, List.length_singleton] at full
      rw [ih _ [] positive, List.length_nil, Nat.zero_add,
        show rest.length + (data.length + 1) = size + data.length by omega, Nat.add_mod_left]
    · rename_i open_
      rw [List.length_append, List.length_singleton] at open_
      rw [ih _ (rest ++ [element]) (by rw [List.length_append, List.length_singleton]; omega),
        List.length_append, List.length_singleton]
      congr 1
      omega

/-- Whole blocks are compressed one after another. -/
theorem absorb_blocks (positive : 0 < size) (state : σ) (count : Nat) (data : List α)
    (whole : data.length = size * count) :
    absorb size compress (state, []) data =
      ((List.range count).foldl
        (fun state n => compress state ((data.drop (size * n)).take size)) state, []) := by
  induction count generalizing data with
  | zero =>
    rw [Nat.mul_zero] at whole
    rw [List.length_eq_zero_iff.mp whole]
    rfl
  | succ count ih =>
    rw [Nat.mul_succ] at whole
    -- The last block is split off.
    have start : (data.take (size * count)).length = size * count := by
      rw [List.length_take]
      omega
    have last : (data.drop (size * count)).length = size := by
      rw [List.length_drop]
      omega
    conv_lhs => rw [← List.take_append_drop (size * count) data]
    rw [absorb_append, ih _ start, absorb_fill _ _ _ (by
        intro none
        rw [none, List.length_nil] at last
        omega) (by rw [List.length_nil, last, Nat.zero_add]), List.range_succ, List.foldl_append,
      List.foldl_cons, List.foldl_nil, List.nil_append]
    congr 1
    rw [List.take_of_length_le (Nat.le_of_eq last)]
    congr 1
    -- The blocks before it are the same in the shortened data.
    refine List.foldl_ext _ _ _ fun state n among => ?_
    have below : n + 1 ≤ count := List.mem_range.mp among
    have ends : size * n + size ≤ size * count := by
      calc size * n + size = size * (n + 1) := (Nat.mul_succ size n).symm
        _ ≤ size * count := Nat.mul_le_mul_left size below
    congr 1
    rw [List.drop_take, List.take_take, Nat.min_eq_left (by omega)]

end Absorb

end C64Stream
