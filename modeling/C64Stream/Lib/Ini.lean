import Mathlib.Data.List.DropRight
import Mathlib.Tactic

/-! Settings text of one key and value a line: how it is read line by line, and that it reads back. -/

namespace C64Stream

section Blanks

/-- Whether a byte is white space. -/
def isSpace (byte : UInt8) : Bool :=
  byte == 32 || (9 ≤ byte && byte ≤ 13)

/-- A text without the white space at its end. -/
def trimEnd (line : List UInt8) : List UInt8 :=
  line.rdropWhile isSpace

theorem trimEnd_append_of_not_space (line : List UInt8) {byte : UInt8}
    (solid : isSpace byte = false) : trimEnd (line ++ [byte]) = line ++ [byte] :=
  List.rdropWhile_concat_neg _ _ _ (by simp [solid])

theorem trimEnd_append_of_space (line : List UInt8) {byte : UInt8} (blank : isSpace byte = true) :
    trimEnd (line ++ [byte]) = trimEnd line :=
  List.rdropWhile_concat_pos _ _ _ blank

theorem trimEnd_of_solid {line : List UInt8} (solid : ∀ byte ∈ line, isSpace byte = false) :
    trimEnd line = line := by
  refine List.rdropWhile_eq_self_iff.mpr fun nonempty => ?_
  simp [solid _ (List.getLast_mem nonempty)]

@[simp] theorem trimEnd_trimEnd (line : List UInt8) : trimEnd (trimEnd line) = trimEnd line :=
  List.rdropWhile_idempotent _ _

theorem trimEnd_isPrefix (line : List UInt8) : trimEnd line <+: line :=
  List.rdropWhile_prefix _ _

end Blanks

section Lines

/-- The lines of a text, each cut behind its line break or where the buffer is full. -/
def linesFrom (room : Nat) : Nat → List UInt8 → List UInt8 → List (List UInt8)
  | _, line, [] => if line = [] then [] else [line.reverse]
  | left, line, byte :: rest =>
    if byte = 10 ∨ left ≤ 1 then (byte :: line).reverse :: linesFrom room room [] rest
    else linesFrom room (left - 1) (byte :: line) rest

/-- The lines that a buffer of a size reads, its last byte kept for the end mark. -/
def bufferedLines (size : Nat) (content : List UInt8) : List (List UInt8) :=
  linesFrom (size - 1) (size - 1) [] content

/-- A line that fits the buffer is read whole. -/
theorem linesFrom_line (room : Nat) {line : List UInt8} (single : 10 ∉ line) (rest : List UInt8)
    {left : Nat} (fits : line.length < left) (before : List UInt8) :
    linesFrom room left before (line ++ 10 :: rest)
      = (before.reverse ++ line ++ [10]) :: linesFrom room room [] rest := by
  -- The induction is on the line, whose read part moves into the buffer.
  induction line generalizing left before with
  | nil => simp [linesFrom]
  | cons byte line ih =>
    rw [List.mem_cons, not_or] at single
    rw [List.length_cons] at fits
    have goesOn : ¬(byte = 10 ∨ left ≤ 1) := by
      rintro (rfl | full)
      · exact single.1 rfl
      · omega
    rw [List.cons_append, linesFrom, if_neg goesOn, ih single.2 (by omega)]
    simp

theorem bufferedLines_line {size : Nat} {line : List UInt8} (single : 10 ∉ line)
    (fits : line.length + 1 < size) (rest : List UInt8) :
    bufferedLines size (line ++ 10 :: rest) = (line ++ [10]) :: bufferedLines size rest := by
  rw [bufferedLines, linesFrom_line _ single rest (by omega) []]
  rfl

/-- A text without a line break that fits the buffer is one line, unless it is empty. -/
theorem linesFrom_last (room : Nat) {line : List UInt8} (single : 10 ∉ line) {left : Nat}
    (fits : line.length < left) (before : List UInt8) :
    linesFrom room left before line
      = if before.reverse ++ line = [] then [] else [before.reverse ++ line] := by
  induction line generalizing left before with
  | nil => simp [linesFrom]
  | cons byte line ih =>
    rw [List.mem_cons, not_or] at single
    rw [List.length_cons] at fits
    have goesOn : ¬(byte = 10 ∨ left ≤ 1) := by
      rintro (rfl | full)
      · exact single.1 rfl
      · omega
    rw [linesFrom, if_neg goesOn, ih single.2 (by omega)]
    simp

theorem bufferedLines_last {size : Nat} {line : List UInt8} (single : 10 ∉ line)
    (fits : line.length + 1 < size) :
    bufferedLines size line = if line = [] then [] else [line] := by
  rw [bufferedLines, linesFrom_last _ single (by omega) []]
  rfl

/-- A line that fills the buffer is read without what follows it. -/
theorem linesFrom_full (room : Nat) {line : List UInt8} (single : 10 ∉ line) (rest : List UInt8)
    {left : Nat} (full : line.length = left) (some : 0 < left) (before : List UInt8) :
    linesFrom room left before (line ++ rest)
      = (before.reverse ++ line) :: linesFrom room room [] rest := by
  -- The induction is on the line: only its last byte finds no room behind it.
  induction line generalizing left before with
  | nil => exact absurd full some.ne
  | cons byte line ih =>
    rw [List.mem_cons, not_or] at single
    rw [List.length_cons] at full
    rw [List.cons_append, linesFrom]
    cases line with
    | nil =>
      rw [if_pos (.inr (by simp at full; omega))]
      simp
    | cons next line =>
      have goesOn : ¬(byte = 10 ∨ left ≤ 1) := by
        rintro (rfl | tight)
        · exact single.1 rfl
        · simp at full
          omega
      rw [if_neg goesOn, ih single.2 (by omega) (by simp at full; omega)]
      simp

/-- A line that fills the buffer is read before what follows it. -/
theorem bufferedLines_full {size : Nat} {line : List UInt8} (single : 10 ∉ line)
    (full : line.length + 1 = size) (some : line ≠ []) (rest : List UInt8) :
    bufferedLines size (line ++ rest) = line :: bufferedLines size rest := by
  have := List.length_pos_iff.mpr some
  rw [bufferedLines, linesFrom_full _ single rest (by omega) (by omega) []]
  rfl

/-- Short lines are taken one by one, where neither a line break nor an empty line counts. -/
theorem foldl_bufferedLines {σ : Type*} {size : Nat} {step : σ → List UInt8 → σ}
    (newline : ∀ state line, step state (line ++ [10]) = step state line)
    (empty : ∀ state, step state [] = state) {lines : List (List UInt8)}
    (short : ∀ line ∈ lines, 10 ∉ line ∧ line.length + 1 < size) (state : σ) :
    (bufferedLines size ([10].intercalate lines)).foldl step state = lines.foldl step state := by
  -- The induction is on the lines: the last of them has no line break behind it.
  induction lines generalizing state with
  | nil => rfl
  | cons line lines ih =>
    obtain ⟨single, fits⟩ := short line List.mem_cons_self
    cases lines with
    | nil =>
      rw [List.intercalate_singleton, bufferedLines_last single fits]
      split_ifs with none
      · rw [none, List.foldl_cons, empty]
      · rfl
    | cons next lines =>
      rw [List.intercalate_cons_cons, List.append_assoc, List.singleton_append,
        bufferedLines_line single fits, List.foldl_cons, newline,
        ih fun line among => short line (List.mem_cons_of_mem _ among)]
      rfl

end Lines

section Entries

/-- The key and the value of a line, unless it is blank, a comment or without an equals sign. -/
def parseEntry (line : List UInt8) : Option (List UInt8 × List UInt8) :=
  match line.dropWhile isSpace with
  | [] => none
  | mark :: rest =>
    if mark = 35 ∨ mark = 59 then none
    else match (mark :: rest).dropWhile (· != 61) with
      | [] => none
      | _ :: value => some (trimEnd ((mark :: rest).takeWhile (· != 61)), trimEnd value)

/-- The entries of a settings text, read through a buffer of a size. -/
def iniEntries (size : Nat) (content : List UInt8) : List (List UInt8 × List UInt8) :=
  (bufferedLines size content).filterMap parseEntry

/-- The line that is written for an entry. -/
def iniLine (entry : List UInt8 × List UInt8) : List UInt8 :=
  entry.1 ++ 61 :: entry.2 ++ [10]

/-- A key that reads as it is written. -/
def PlainKey (key : List UInt8) : Prop :=
  (∃ mark rest, key = mark :: rest ∧ mark ≠ 35 ∧ mark ≠ 59) ∧
    ∀ byte ∈ key, isSpace byte = false ∧ byte ≠ 61

theorem PlainKey.no_break {key : List UInt8} (plain : PlainKey key) : 10 ∉ key :=
  fun within => absurd (plain.2 10 within).1 (by decide)

/-- A line with a plain key gives it, and the text behind the equals sign without white space at
the end. -/
theorem parseEntry_plain {key : List UInt8} (plain : PlainKey key) (value : List UInt8) :
    parseEntry (key ++ 61 :: value) = some (key, trimEnd value) := by
  have trimmed := trimEnd_of_solid fun byte within => (plain.2 byte within).1
  have untilEquals : ∀ byte ∈ key, (byte != 61) = true := by
    intro byte within
    simpa using (plain.2 byte within).2
  have after : (key ++ 61 :: value).dropWhile (· != 61) = 61 :: value := by
    rw [List.dropWhile_append_of_pos untilEquals]
    simp
  have before : (key ++ 61 :: value).takeWhile (· != 61) = key := by
    rw [List.takeWhile_append_of_pos untilEquals]
    simp
  obtain ⟨⟨mark, rest, rfl, noHash, noSemicolon⟩, solid⟩ := plain
  -- The key starts the line, so neither white space nor a comment does.
  have front : (mark :: rest ++ 61 :: value).dropWhile isSpace = mark :: rest ++ 61 :: value := by
    simp [(solid mark (by simp)).1]
  unfold parseEntry
  rw [front]
  rw [List.cons_append] at after before ⊢
  simp only [noHash, noSemicolon, or_self, if_false, after, before, trimmed]

/-- A line without an equals sign gives nothing. -/
theorem parseEntry_of_no_equals {line : List UInt8} (without : 61 ∉ line) :
    parseEntry line = none := by
  unfold parseEntry
  split
  · rfl
  · rename_i mark rest shape
    have none : ∀ byte ∈ mark :: rest, (byte != 61) = true := by
      intro byte within
      have among : byte ∈ line := (List.dropWhile_sublist isSpace).mem (shape ▸ within)
      exact bne_iff_ne.mpr fun same => without (same ▸ among)
    rw [List.dropWhile_eq_nil_iff.mpr none]
    split_ifs <;> rfl

theorem parseEntry_iniLine {key : List UInt8} (plain : PlainKey key) (value : List UInt8) :
    parseEntry (iniLine (key, value)) = some (key, trimEnd value) := by
  rw [iniLine, List.append_assoc, List.cons_append, parseEntry_plain plain]
  -- The line break behind the value is white space, so it is trimmed with the rest.
  rw [trimEnd_append_of_space value (show isSpace 10 = true by decide)]

section Files

variable {size : Nat} {entries : List (List UInt8 × List UInt8)}

/-- The first entry of a settings text takes the first line. -/
theorem iniEntries_cons {entry : List UInt8 × List UInt8} (plain : PlainKey entry.1)
    (single : 10 ∉ entry.2) (fits : entry.1.length + entry.2.length + 2 < size)
    (behind : List UInt8) :
    iniEntries size (iniLine entry ++ behind)
      = (entry.1, trimEnd entry.2) :: iniEntries size behind := by
  obtain ⟨key, value⟩ := entry
  have noBreak : 10 ∉ key ++ 61 :: value := by
    simp [plain.no_break, single]
  have shape : iniLine (key, value) ++ behind = (key ++ 61 :: value) ++ 10 :: behind := by
    simp [iniLine]
  have line : (key ++ 61 :: value) ++ [10] = iniLine (key, value) := by
    simp [iniLine]
  rw [iniEntries, shape, bufferedLines_line noBreak (by simp at fits ⊢; omega), line,
    List.filterMap_cons, parseEntry_iniLine plain]
  rfl

/-- A settings text reads back as its entries, each value without white space at its end. -/
theorem iniEntries_lines (plain : ∀ entry ∈ entries, PlainKey entry.1 ∧ 10 ∉ entry.2)
    (fits : ∀ entry ∈ entries, entry.1.length + entry.2.length + 2 < size) :
    iniEntries size (entries.flatMap iniLine)
      = entries.map fun entry => (entry.1, trimEnd entry.2) := by
  -- The induction is on the entries: the first line is read whole, the rest starts behind it.
  induction entries with
  | nil => rfl
  | cons entry rest ih =>
    obtain ⟨plainKey, noBreak⟩ := plain entry (by simp)
    rw [List.flatMap_cons, iniEntries_cons plainKey noBreak (fits entry (by simp)),
      ih (fun entry within => plain entry (by simp [within]))
        (fun entry within => fits entry (by simp [within]))]
    rfl

/-- A line that was cut short gives nothing, or its key and the front of its value. -/
theorem parseEntry_cut {key value : List UInt8} (plain : PlainKey key) (n : Nat) :
    parseEntry ((key ++ 61 :: value).take n) = none ∨
      ∃ front, front <+: value ∧
        parseEntry ((key ++ 61 :: value).take n) = some (key, trimEnd front) := by
  by_cases inKey : n ≤ key.length
  · refine .inl (parseEntry_of_no_equals fun within => ?_)
    rw [List.take_append_of_le_length inKey] at within
    exact (plain.2 61 (List.mem_of_mem_take within)).2 rfl
  · obtain ⟨more, rfl⟩ : ∃ more, n = key.length + (more + 1) := ⟨n - key.length - 1, by omega⟩
    refine .inr ⟨value.take more, List.take_prefix _ _, ?_⟩
    rw [List.take_length_add_append, List.take_succ_cons, parseEntry_plain plain]

/-- What a settings text that was cut short reads back as comes from its entries, whose values may
have lost their ends. -/
theorem iniEntries_take (plain : ∀ entry ∈ entries, PlainKey entry.1 ∧ 10 ∉ entry.2)
    (fits : ∀ entry ∈ entries, entry.1.length + entry.2.length + 2 < size) (n : Nat) :
    ∀ read ∈ iniEntries size ((entries.flatMap iniLine).take n),
      ∃ entry ∈ entries, ∃ front, front <+: entry.2 ∧ read = (entry.1, trimEnd front) := by
  induction entries generalizing n with
  | nil => simp [iniEntries, bufferedLines, linesFrom]
  | cons entry rest ih =>
    obtain ⟨plainKey, noBreak⟩ := plain entry (by simp)
    have short := fits entry (by simp)
    intro read within
    rw [List.flatMap_cons] at within
    by_cases whole : (iniLine entry).length ≤ n
    · -- The first line is there, and the cut is in the rest.
      obtain ⟨more, rfl⟩ : ∃ more, n = (iniLine entry).length + more :=
        ⟨n - (iniLine entry).length, by omega⟩
      rw [List.take_length_add_append, iniEntries_cons plainKey noBreak short,
        List.mem_cons] at within
      rcases within with rfl | within
      · exact ⟨entry, by simp, entry.2, List.prefix_rfl, rfl⟩
      · obtain ⟨source, among, front, isFront, rfl⟩ :=
          ih (fun entry within => plain entry (by simp [within]))
            (fun entry within => fits entry (by simp [within])) more read within
        exact ⟨source, by simp [among], front, isFront, rfl⟩
    · -- The cut is in the first line, whose line break is lost.
      obtain ⟨key, value⟩ := entry
      have length : (iniLine (key, value)).length = (key ++ 61 :: value).length + 1 := by
        simp [iniLine]
        omega
      have cut : (iniLine (key, value) ++ rest.flatMap iniLine).take n
          = (key ++ 61 :: value).take n := by
        have shape : iniLine (key, value) ++ rest.flatMap iniLine
            = (key ++ 61 :: value) ++ (10 :: rest.flatMap iniLine) := by simp [iniLine]
        rw [shape, List.take_append_of_le_length (by omega)]
      have single : 10 ∉ (key ++ 61 :: value).take n := by
        intro among
        have := List.mem_of_mem_take among
        simp [plainKey.no_break, noBreak] at this
      rw [cut, iniEntries, bufferedLines_last single (by simp at short ⊢; omega)] at within
      split_ifs at within
      · simp at within
      · rcases @parseEntry_cut key value plainKey n with nothing | ⟨front, isFront, parsed⟩
        · simp [nothing] at within
        · refine ⟨(key, value), by simp, front, isFront, ?_⟩
          simpa [parsed] using within

end Files

end Entries

end C64Stream
