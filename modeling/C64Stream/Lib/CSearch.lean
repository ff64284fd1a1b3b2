import Mathlib.Tactic

/-! Searching in memory that holds a text without a terminator. -/

namespace C64Stream

section Search

/-- The rest of a text from the first place of a byte on. The search ends without one at a zero
byte, and has no result if it leaves the text. -/
def strchr (byte : UInt8) (source : List UInt8) : Option (Option (List UInt8)) :=
  match source with
  | [] => none
  | first :: rest =>
    if first = byte then some (some (first :: rest))
    else if first = 0 then some none
    else strchr byte rest

/-- The rest of a text from the first place of a nonempty text on, in the same way. -/
def strstr (needle : List UInt8) (source : List UInt8) : Option (Option (List UInt8)) :=
  match source with
  | [] => none
  | first :: rest =>
    if needle <+: first :: rest then some (some (first :: rest))
    else if first = 0 then some none
    else strstr needle rest

end Search

section Bytes

variable {byte : UInt8} {front source : List UInt8}

@[simp] theorem strchr_here (byte : UInt8) (source : List UInt8) :
    strchr byte (byte :: source) = some (some (byte :: source)) := by
  rw [strchr, if_pos rfl]

/-- A search passes over bytes among which there is neither the one it looks for nor a zero. -/
theorem strchr_append (absent : byte ∉ front) (solid : 0 ∉ front) :
    strchr byte (front ++ source) = strchr byte source := by
  induction front with
  | nil => rfl
  | cons first rest ih =>
    rw [List.mem_cons, not_or] at absent solid
    rw [List.cons_append, strchr, if_neg (Ne.symm absent.1), if_neg (Ne.symm solid.1)]
    exact ih absent.2 solid.2

/-- The first place of a byte that is among the bytes in front is found there. -/
theorem strchr_takeWhile (present : byte ∈ front) (solid : 0 ∉ front) :
    strchr byte (front ++ source) =
      some (some (front.dropWhile (· != byte) ++ source)) := by
  induction front with
  | nil => cases present
  | cons first rest ih =>
    rw [List.mem_cons, not_or] at solid
    by_cases here : first = byte
    · subst here
      simp
    · rw [List.cons_append, strchr, if_neg here, if_neg (Ne.symm solid.1),
        List.dropWhile_cons_of_pos (by simpa using here)]
      exact ih ((List.mem_cons.mp present).resolve_left (Ne.symm here)) solid.2

end Bytes

section Texts

variable {mark : UInt8} {needle front inner source : List UInt8}

theorem strstr_here (first : UInt8) (needle source : List UInt8) :
    strstr (first :: needle) (first :: needle ++ source) =
      some (some (first :: needle ++ source)) := by
  rw [List.cons_append, strstr, if_pos ⟨source, rfl⟩]

/-- A search passes over bytes among which there is neither the first one of the text it looks for
nor a zero. -/
theorem strstr_append (absent : mark ∉ front) (solid : 0 ∉ front) :
    strstr (mark :: needle) (front ++ source) = strstr (mark :: needle) source := by
  induction front with
  | nil => rfl
  | cons first rest ih =>
    rw [List.mem_cons, not_or] at absent solid
    have other : ¬ mark :: needle <+: first :: (rest ++ source) := fun starts =>
      absent.1 (List.cons_prefix_cons.mp starts).1
    rw [List.cons_append, strstr, if_neg other, if_neg (Ne.symm solid.1)]
    exact ih absent.2 solid.2

/-- Of two texts that end at the first mark, one is in front of the other only if they are equal. -/
theorem eq_of_marked (absent : mark ∉ needle) (absentInner : mark ∉ inner)
    (starts : needle ++ [mark] <+: inner ++ mark :: source) : needle = inner := by
  induction needle generalizing inner with
  | nil =>
    cases inner with
    | nil => rfl
    | cons byte inner =>
      obtain ⟨rfl, -⟩ := List.cons_prefix_cons.mp starts
      exact absurd (List.mem_cons_self ..) absentInner
  | cons first needle ih =>
    cases inner with
    | nil =>
      obtain ⟨rfl, -⟩ := List.cons_prefix_cons.mp starts
      exact absurd (List.mem_cons_self ..) absent
    | cons byte inner =>
      rw [List.mem_cons, not_or] at absent absentInner
      obtain ⟨rfl, behind⟩ := List.cons_prefix_cons.mp starts
      rw [ih absent.2 absentInner.2 behind]

/-- A search for a marked text passes over another text between marks, up to its second mark. -/
theorem strstr_marked (nonzero : mark ≠ 0) (absent : mark ∉ needle) (absentInner : mark ∉ inner)
    (solid : 0 ∉ inner) (other : inner ≠ needle) :
    strstr (mark :: (needle ++ [mark])) (mark :: (inner ++ mark :: source)) =
      strstr (mark :: (needle ++ [mark])) (mark :: source) := by
  have differs : ¬ mark :: (needle ++ [mark]) <+: mark :: (inner ++ mark :: source) := fun starts =>
    other (eq_of_marked absent absentInner (List.cons_prefix_cons.mp starts).2).symm
  rw [strstr, if_neg differs, if_neg nonzero]
  exact strstr_append absentInner solid

end Texts

end C64Stream
