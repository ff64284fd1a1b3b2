import C64Stream.Device.ProfileFiles
import C64Stream.Input.KeyIdentifiers

/-! Which names of keys mean the same key, and that a name in its form is found again. -/

namespace C64Stream.Keymap

section Modifiers

/-- A modifier as it is written, in any case and under any of its names. -/
structure ModifierSpelling where
  written : Text
  bit : Nat
  spelled : ∃ entry ∈ modifierPrefixes,
    written.map toLower = entry.written.map toLower ∧ bit = entry.bit

theorem testBit_foldl_or (bits : List Nat) (modifiers i : Nat) :
    (bits.foldl (· ||| ·) modifiers).testBit i =
      (modifiers.testBit i || bits.any (·.testBit i)) := by
  induction bits generalizing modifiers with
  | nil => simp
  | cons bit bits ih => rw [List.foldl_cons, ih, Nat.testBit_or, List.any_cons, Bool.or_assoc]

theorem foldl_or_congr {first second : List Nat} (same : ∀ bit, bit ∈ first ↔ bit ∈ second)
    (modifiers : Nat) :
    first.foldl (· ||| ·) modifiers = second.foldl (· ||| ·) modifiers := by
  refine Nat.eq_of_testBit_eq fun i => ?_
  have any : first.any (·.testBit i) = second.any (·.testBit i) := by
    rw [Bool.eq_iff_iff, List.any_eq_true, List.any_eq_true]
    simp only [same]
  rw [testBit_foldl_or, testBit_foldl_or, any]

theorem findModifier_spelled {entry : ModifierPrefix} (among : entry ∈ modifierPrefixes)
    {written : Text} (same : written.map toLower = entry.written.map toLower) (rest : Text) :
    findModifier modifierPrefixes (written ++ rest) = some entry := by
  have lowered : findModifier modifierPrefixes (written ++ rest) =
      modifierPrefixes.find? fun other =>
        (other.written.map toLower).isPrefixOf
          (entry.written.map toLower ++ rest.map toLower) := by
    rw [← same, ← List.map_append]
    rfl
  rw [lowered]
  simp only [modifierPrefixes, List.mem_cons, List.not_mem_nil, or_false] at among
  -- No modifier starts with another one.
  rcases among with rfl | rfl | rfl | rfl | rfl | rfl | rfl <;> rfl

theorem stripModifiers_found {prefixes : List ModifierPrefix} {base : Text}
    {entry : ModifierPrefix} (found : findModifier prefixes base = some entry) (modifiers : Nat) :
    stripModifiers prefixes modifiers base =
      stripModifiers prefixes (modifiers ||| entry.bit) (base.drop entry.written.length) := by
  rw [stripModifiers, found]

theorem stripModifiers_spelled (spelling : ModifierSpelling) (modifiers : Nat) (rest : Text) :
    stripModifiers modifierPrefixes modifiers (spelling.written ++ rest) =
      stripModifiers modifierPrefixes (modifiers ||| spelling.bit) rest := by
  obtain ⟨written, bit, entry, among, same, rfl⟩ := spelling
  have length : written.length = entry.written.length := by
    simpa only [List.length_map] using congrArg List.length same
  rw [stripModifiers_found (findModifier_spelled among same rest), ← length, List.drop_left]

theorem stripModifiers_flatMap (spellings : List ModifierSpelling) (modifiers : Nat)
    (rest : Text) :
    stripModifiers modifierPrefixes modifiers (spellings.flatMap (·.written) ++ rest) =
      stripModifiers modifierPrefixes ((spellings.map (·.bit)).foldl (· ||| ·) modifiers) rest := by
  induction spellings generalizing modifiers with
  | nil => rfl
  | cons spelling spellings ih =>
    rw [List.flatMap_cons, List.append_assoc, stripModifiers_spelled, ih]
    rfl

variable {prefixes : List ModifierPrefix}

theorem stripModifiers_base {base : Text} (none : findModifier prefixes base = none)
    (modifiers : Nat) : stripModifiers prefixes modifiers base = (modifiers, base) := by
  rw [stripModifiers, none]

theorem findModifier_stripModifiers (modifiers : Nat) (base : Text) :
    findModifier prefixes (stripModifiers prefixes modifiers base).2 = none := by
  fun_induction stripModifiers prefixes modifiers base with
  | case1 modifiers base none => exact none
  | case2 modifiers base entry found ih => exact ih

theorem stripModifiers_lt (modifiers : Nat) (base : Text) (small : modifiers < 16) :
    (stripModifiers modifierPrefixes modifiers base).1 < 16 := by
  have bits : ∀ entry ∈ modifierPrefixes, entry.bit < 2 ^ 4 := by decide
  fun_induction stripModifiers modifierPrefixes modifiers base with
  | case1 modifiers base none => exact small
  | case2 modifiers base entry found ih =>
    exact ih (Nat.or_lt_two_pow small (bits entry (List.mem_of_find?_eq_some found)))

theorem findModifier_take {base : Text} (none : findModifier prefixes base = none) (n : Nat) :
    findModifier prefixes (base.take n) = Option.none := by
  rw [findModifier, List.find?_eq_none] at none ⊢
  intro entry among starts
  refine none entry among ?_
  rw [stringStartsWithI, List.isPrefixOf_iff_prefix] at starts ⊢
  exact starts.trans ((List.take_prefix n base).map toLower)

theorem findModifier_short {base : Text} (short : base.length < 4) :
    findModifier modifierPrefixes base = none := by
  rw [findModifier, List.find?_eq_none]
  intro entry among starts
  have long : ∀ entry ∈ modifierPrefixes, 4 ≤ entry.written.length := by decide
  rw [stringStartsWithI, List.isPrefixOf_iff_prefix] at starts
  have fits := starts.length_le
  rw [List.length_map, List.length_map] at fits
  have := long entry among
  omega

/-- The modifiers of a form, as they are written. -/
def chosenModifiers (modifiers : Nat) : List ModifierSpelling :=
  [⟨text "Shift+", 0x01, by decide⟩, ⟨text "Ctrl+", 0x02, by decide⟩,
    ⟨text "Alt+", 0x04, by decide⟩, ⟨text "Meta+", 0x08, by decide⟩].filter
      fun spelling => modifiers &&& spelling.bit ≠ 0

theorem appendModifierPrefixes_eq {modifiers : Nat} (small : modifiers < 16) :
    appendModifierPrefixes modifiers = (chosenModifiers modifiers).flatMap (·.written) := by
  have all : ∀ modifiers < 16, appendModifierPrefixes modifiers =
      (chosenModifiers modifiers).flatMap (·.written) := by decide
  exact all modifiers small

theorem chosenModifiers_bits {modifiers : Nat} (small : modifiers < 16) :
    ((chosenModifiers modifiers).map (·.bit)).foldl (· ||| ·) 0 = modifiers := by
  have all : ∀ modifiers < 16,
      ((chosenModifiers modifiers).map (·.bit)).foldl (· ||| ·) 0 = modifiers := by decide
  exact all modifiers small

theorem appendModifierPrefixes_length {modifiers : Nat} (small : modifiers < 16) :
    (appendModifierPrefixes modifiers).length ≤ 20 := by
  have all : ∀ modifiers < 16, (appendModifierPrefixes modifiers).length ≤ 20 := by decide
  exact all modifiers small

theorem stripModifiers_append {modifiers : Nat} (small : modifiers < 16) {base : Text}
    (none : findModifier modifierPrefixes base = none) :
    stripModifiers modifierPrefixes 0 (appendModifierPrefixes modifiers ++ base) =
      (modifiers, base) := by
  rw [appendModifierPrefixes_eq small, stripModifiers_flatMap, chosenModifiers_bits small,
    stripModifiers_base none]

theorem normalizeIdentifier_modifiers {first second : List ModifierSpelling}
    (same : ∀ bit, bit ∈ first.map (·.bit) ↔ bit ∈ second.map (·.bit)) (base : Text) :
    c64KeymapNormalizeIdentifier (first.flatMap (·.written) ++ base) =
      c64KeymapNormalizeIdentifier (second.flatMap (·.written) ++ base) := by
  rw [c64KeymapNormalizeIdentifier, c64KeymapNormalizeIdentifier, stripModifiers_flatMap,
    stripModifiers_flatMap, foldl_or_congr same]

end Modifiers

section Bases

/-- The ways to write a base, and the name of the key that each of them means. -/
inductive Spells (modified : Bool) : Text → Text → Prop
  | word {base spelling name : Text} (listed : (spelling, name) ∈ knownTokens)
      (same : base.map toLower = spelling) : Spells modified base name
  | letter {base : Text} {byte : UInt8} (isLetter : isAlpha byte = true)
      (same : base.map toLower = text "key" ++ [toLower byte]) :
      Spells modified base (text "Key" ++ [toUpper byte])
  | digit {base : Text} {byte : UInt8} (isNumber : isDigit byte = true)
      (same : base.map toLower = text "digit" ++ [byte]) :
      Spells modified base (text "Digit" ++ [byte])
  | functionKey {mark digit : UInt8} {digits : Text} (isF : toLower mark = 102)
      (numbers : ∀ byte ∈ digit :: digits, isDigit byte = true)
      (inside : 1 ≤ leadingNumber 0 (digit :: digits) ∧ leadingNumber 0 (digit :: digits) ≤ 24) :
      Spells modified (mark :: digit :: digits)
        (text "F" ++ decimal (leadingNumber 0 (digit :: digits)))
  | modifiedLetter {byte : UInt8} (with_ : modified = true) (isLetter : isAlpha byte = true) :
      Spells modified [byte] (text "Key" ++ [toUpper byte])
  | modifiedDigit {byte : UInt8} (with_ : modified = true) (isNumber : isDigit byte = true) :
      Spells modified [byte] (text "Digit" ++ [byte])
  | modifiedCharacter {byte : UInt8} {name : Text} (with_ : modified = true)
      (listed : (byte, name) ∈ characterKeys) : Spells modified [byte] name

/-- Two ways to write the same key. -/
def SameKey (modified : Bool) (first second : Text) : Prop :=
  first = second ∨ ∃ name, Spells modified first name ∧ Spells modified second name

theorem letter_case : ∀ byte : UInt8,
    (isDigit byte = true → toLower byte = byte ∧ isAlpha byte = false) ∧
    (isDigit (toLower byte) = isDigit byte ∧ isAlpha (toLower byte) = isAlpha byte ∧
      toLower (toLower byte) = toLower byte) ∧
    (isAlpha byte = true → isAlpha (toUpper byte) = true ∧ toUpper (toUpper byte) = toUpper byte ∧
      toLower (toUpper byte) = toLower byte ∧ toUpper (toLower byte) = toUpper byte) :=
  forall_byte (by decide +kernel)

theorem leadingNumber_lower (number : Nat) (value : Text) :
    leadingNumber number (value.map toLower) = leadingNumber number value := by
  induction value generalizing number with
  | nil => rfl
  | cons byte value ih =>
    have digit := (letter_case byte).1
    have same := (letter_case byte).2.1.1
    rw [Bool.eq_iff_iff] at same
    simp only [isDigit, Bool.and_eq_true, decide_eq_true_eq] at digit same
    rw [List.map_cons, leadingNumber, leadingNumber]
    by_cases isNumber : 48 ≤ byte ∧ byte ≤ 57
    · rw [if_pos (same.mpr isNumber), if_pos isNumber, (digit isNumber).1, ih]
    · rw [if_neg fun low => isNumber (same.mp low), if_neg isNumber]

theorem normalizeFunctionKey_lower (base : Text) :
    normalizeFunctionKey (base.map toLower) = normalizeFunctionKey base := by
  match base with
  | [] => rfl
  | [_] => rfl
  | mark :: digit :: rest =>
    have lower := (letter_case mark).2.1.2.2
    have number := leadingNumber_lower 0 (digit :: rest)
    rw [List.map_cons] at number
    simp only [List.map_cons, normalizeFunctionKey, lower, number, (letter_case digit).2.1.1]

theorem find_knownTokens {base lowered : Text} (same : base.map toLower = lowered) :
    knownTokens.find? (stringIeq base ·.1) =
      knownTokens.find? fun entry => lowered == entry.1.map toLower := by
  subst same
  rfl

theorem listed_found : ∀ entry ∈ knownTokens,
    (knownTokens.find? fun other => entry.1 == other.1.map toLower) = some entry ∧
      normalizeFunctionKey entry.1 = none := by
  decide

theorem listed_start : ∀ entry ∈ knownTokens,
    (entry.1.map toLower).take 3 ≠ text "key" ∧ (entry.1.map toLower).take 5 ≠ text "digit" := by
  decide

theorem find_key {base : Text} (start : (base.map toLower).take 3 = text "key") :
    knownTokens.find? (stringIeq base ·.1) = none := by
  rw [List.find?_eq_none]
  intro entry among same
  have same := eq_of_beq same
  rw [same] at start
  exact (listed_start entry among).1 start

theorem find_digit {base : Text} (start : (base.map toLower).take 5 = text "digit") :
    knownTokens.find? (stringIeq base ·.1) = none := by
  rw [List.find?_eq_none]
  intro entry among same
  have same := eq_of_beq same
  rw [same] at start
  exact (listed_start entry among).2 start

theorem normalizeKnown_letter {base : Text} {byte : UInt8} (isLetter : isAlpha byte = true)
    (same : base.map toLower = text "key" ++ [toLower byte]) :
    normalizeKnownBaseToken base = some (text "Key" ++ [toUpper byte]) := by
  -- The base has four bytes, the last of which is the letter.
  have length : base.length = 4 := by
    rw [← List.length_map toLower, same]
    rfl
  match base, length with
  | [k, e, y, last], _ =>
    have function : normalizeFunctionKey [k, e, y, last] = none := by
      rw [← normalizeFunctionKey_lower, same]
      rfl
    have start : stringStartsWithI [k, e, y, last] (text "Key") = true := by
      rw [stringStartsWithI, same]
      rfl
    have lower : toLower last = toLower byte := by
      have parts : [toLower k, toLower e, toLower y, toLower last] =
          [107, 101, 121, toLower byte] := same
      simp only [List.cons.injEq] at parts
      exact parts.2.2.2.1
    have letter : isAlpha last = true := by
      rw [← (letter_case last).2.1.2.1, lower, (letter_case byte).2.1.2.1, isLetter]
    have upper : toUpper last = toUpper byte := by
      rw [← ((letter_case last).2.2 letter).2.2.2, lower,
        ((letter_case byte).2.2 isLetter).2.2.2]
    rw [normalizeKnownBaseToken, function, find_key (by rw [same]; rfl)]
    dsimp only
    rw [if_pos ⟨rfl, start, letter⟩]
    exact congrArg (fun letter => some (text "Key" ++ [letter])) upper

theorem normalizeKnown_digit {base : Text} {byte : UInt8} (isNumber : isDigit byte = true)
    (same : base.map toLower = text "digit" ++ [byte]) :
    normalizeKnownBaseToken base = some (text "Digit" ++ [byte]) := by
  -- The base has six bytes, the last of which is the digit.
  have length : base.length = 6 := by
    rw [← List.length_map toLower, same]
    rfl
  match base, length with
  | [d, i, g, i', t, last], _ =>
    have function : normalizeFunctionKey [d, i, g, i', t, last] = none := by
      rw [← normalizeFunctionKey_lower, same]
      rfl
    have start : stringStartsWithI [d, i, g, i', t, last] (text "Digit") = true := by
      rw [stringStartsWithI, same]
      rfl
    have lower : toLower last = byte := by
      have parts : [toLower d, toLower i, toLower g, toLower i', toLower t, toLower last] =
          [100, 105, 103, 105, 116, byte] := same
      simp only [List.cons.injEq] at parts
      exact parts.2.2.2.2.2.1
    have number : isDigit last = true := by
      rw [← (letter_case last).2.1.1, lower, isNumber]
    have kept : last = byte := by
      rw [← lower, ((letter_case last).1 number).1]
    rw [normalizeKnownBaseToken, function, find_digit (by rw [same]; rfl)]
    dsimp only
    rw [if_neg (by rintro ⟨length, -⟩; cases length), if_pos ⟨rfl, start, number⟩]
    exact congrArg (fun digit => some (text "Digit" ++ [digit])) kept

theorem normalizeKnown_single (byte : UInt8) : normalizeKnownBaseToken [byte] = none := by
  have long : ∀ entry ∈ knownTokens, 1 < entry.1.length := by decide
  have none : knownTokens.find? (stringIeq [byte] ·.1) = none := by
    rw [List.find?_eq_none]
    intro entry among same
    have length := congrArg List.length (eq_of_beq same)
    have := long entry among
    simp only [List.length_map, List.length_singleton] at length
    omega
  rw [normalizeKnownBaseToken, show normalizeFunctionKey [byte] = Option.none from rfl, none]
  rfl

theorem character_found : ∀ entry ∈ characterKeys,
    isAlpha entry.1 = false ∧ isDigit entry.1 = false ∧
      characterKeys.lookup entry.1 = some entry.2 := by
  decide

variable {modified : Bool}

theorem normalizeBase_known {base name : Text} (known : normalizeKnownBaseToken base = some name) :
    normalizeBase modified base = name := by
  simp only [normalizeBase, known]

theorem normalizeBase_single (byte : UInt8) :
    normalizeBase modified [byte] = normalizeSingleCharToken byte modified := by
  simp only [normalizeBase, normalizeKnown_single]

theorem normalizeBase_copied {base : Text} (known : normalizeKnownBaseToken base = none)
    (long : base.length ≠ 1) : normalizeBase modified base = base.take 63 := by
  simp only [normalizeBase, known]
  split
  · exact absurd rfl long
  · rfl

theorem normalizeBase_spells {base name : Text} (spells : Spells modified base name) :
    normalizeBase modified base = name := by
  cases spells with
  | word listed same =>
    have found := listed_found _ listed
    have function : normalizeFunctionKey base = none := by
      rw [← normalizeFunctionKey_lower, same]
      exact found.2
    refine normalizeBase_known ?_
    rw [normalizeKnownBaseToken, function, find_knownTokens same, found.1]
  | letter isLetter same => exact normalizeBase_known (normalizeKnown_letter isLetter same)
  | digit isNumber same => exact normalizeBase_known (normalizeKnown_digit isNumber same)
  | functionKey isF numbers inside =>
    refine normalizeBase_known ?_
    rw [normalizeKnownBaseToken, normalizeFunctionKey,
      if_pos ⟨isF, numbers _ List.mem_cons_self⟩]
    dsimp only
    rw [if_neg (by omega)]
  | modifiedLetter with_ isLetter =>
    rw [normalizeBase_single, normalizeSingleCharToken, if_pos with_, if_pos isLetter]
  | @modifiedDigit byte with_ isNumber =>
    have noLetter := ((letter_case byte).1 isNumber).2
    rw [normalizeBase_single, normalizeSingleCharToken, if_pos with_, if_neg (by simp [noLetter]),
      if_pos isNumber]
  | modifiedCharacter with_ listed =>
    obtain ⟨noLetter, noDigit, found⟩ := character_found _ listed
    rw [normalizeBase_single, normalizeSingleCharToken, if_pos with_, if_neg (by simp [noLetter]),
      if_neg (by simp [noDigit]), found]
    rfl

theorem spells_functionKey {n : Nat} (inside : 1 ≤ n ∧ n ≤ 24) :
    Spells modified (text "F" ++ decimal n) (text "F" ++ decimal n) := by
  have some : decimal n ≠ [] := by simp [decimal, Nat.toDigits_ne_nil]
  obtain ⟨digit, digits, shape⟩ := List.exists_cons_of_ne_nil some
  have value := leadingNumber_decimal n
  have numbers : ∀ byte ∈ digit :: digits, isDigit byte = true := by
    intro byte among
    rw [← shape] at among
    obtain ⟨low, high⟩ := decimal_digit among
    rw [isDigit, Bool.and_eq_true, decide_eq_true_eq, decide_eq_true_eq]
    exact ⟨low, high⟩
  rw [shape] at value
  have spelled := @Spells.functionKey modified 70 digit digits rfl numbers (by omega)
  have written : text "F" ++ decimal n = 70 :: digit :: digits := congrArg (70 :: ·) shape
  rwa [value, ← written] at spelled

theorem Spells.name {base name : Text} (spells : Spells modified base name) :
    Spells modified name name := by
  have words : ∀ entry ∈ knownTokens, (entry.2.map toLower, entry.2) ∈ knownTokens := by decide
  have characters : ∀ entry ∈ characterKeys, (entry.2.map toLower, entry.2) ∈ knownTokens ∨
      entry.2 = text "Digit" ++ [50] ∨ entry.2 = text "Digit" ++ [56] := by decide
  have letters : ∀ byte, isAlpha byte = true →
      Spells modified (text "Key" ++ [toUpper byte]) (text "Key" ++ [toUpper byte]) := by
    intro byte isLetter
    obtain ⟨letter, upper, -, -⟩ := (letter_case byte).2.2 isLetter
    have spelled := @Spells.letter modified (text "Key" ++ [toUpper byte]) _ letter rfl
    rwa [upper] at spelled
  have digits : ∀ byte, isDigit byte = true →
      Spells modified (text "Digit" ++ [byte]) (text "Digit" ++ [byte]) := by
    intro byte isNumber
    refine Spells.digit isNumber ?_
    rw [List.map_append, List.map_singleton, ((letter_case byte).1 isNumber).1]
    rfl
  cases spells with
  | word listed same => exact Spells.word (words _ listed) rfl
  | letter isLetter same => exact letters _ isLetter
  | digit isNumber same => exact digits _ isNumber
  | @functionKey mark digit digits isF numbers inside =>
    exact spells_functionKey inside
  | modifiedLetter with_ isLetter => exact letters _ isLetter
  | modifiedDigit with_ isNumber => exact digits _ isNumber
  | modifiedCharacter with_ listed =>
    rcases characters _ listed with word | two | eight
    · exact Spells.word word rfl
    · have two : name = text "Digit" ++ [50] := two
      rw [two]
      exact digits _ (by decide)
    · have eight : name = text "Digit" ++ [56] := eight
      rw [eight]
      exact digits _ (by decide)

theorem normalizeFunctionKey_name {base name : Text}
    (function : normalizeFunctionKey base = some name) :
    ∃ n, (1 ≤ n ∧ n ≤ 24) ∧ name = text "F" ++ decimal n := by
  match base with
  | [] | [_] => cases function
  | mark :: digit :: rest =>
    rw [normalizeFunctionKey] at function
    dsimp only at function
    split_ifs at function with isF inside
    exact ⟨leadingNumber 0 (digit :: rest), by omega, (Option.some.inj function).symm⟩

/-- No text stands behind the number of a function key. -/
def PlainNumber (base : Text) : Prop :=
  (normalizeFunctionKey base).isSome → ∀ byte ∈ base.drop 1, isDigit byte = true

theorem normalizeFunctionKey_plain {base name : Text} (plain : PlainNumber base)
    (function : normalizeFunctionKey base = some name) : Spells modified base name := by
  have numbers := plain (Option.isSome_of_eq_some function)
  match base with
  | [] | [_] => cases function
  | mark :: digit :: rest =>
    rw [normalizeFunctionKey] at function
    dsimp only at function
    split_ifs at function with isF inside
    rw [← Option.some.inj function]
    exact Spells.functionKey isF.1 numbers (by omega)

theorem normalizeKnown_spelled {base name : Text} (known : normalizeKnownBaseToken base = some name) :
    normalizeFunctionKey base = some name ∨ Spells modified base name := by
  have lowered : ∀ entry ∈ knownTokens, entry.1.map toLower = entry.1 := by decide
  rw [normalizeKnownBaseToken] at known
  cases function : normalizeFunctionKey base with
  | some other =>
    rw [function] at known
    exact .inl known
  | none =>
    rw [function] at known
    refine .inr ?_
    cases word : knownTokens.find? (stringIeq base ·.1) with
    | some entry =>
      rw [word] at known
      have among := List.mem_of_find?_eq_some word
      have found := List.find?_some word
      have same : base.map toLower = entry.1.map toLower := eq_of_beq found
      rw [← Option.some.inj known]
      exact Spells.word among (same.trans (lowered entry among))
    | none =>
      rw [word] at known
      dsimp only at known
      split_ifs at known with letter digit
      · obtain ⟨length, start, isLetter⟩ := letter
        rw [← Option.some.inj known]
        match base, length with
        | [k, e, y, last], _ =>
          refine Spells.letter isLetter ?_
          obtain ⟨rest, shape⟩ := List.isPrefixOf_iff_prefix.mp start
          match rest, congrArg List.length shape with
          | [lower], _ =>
            have parts : [(107 : UInt8), 101, 121, lower] =
              [toLower k, toLower e, toLower y, toLower last] := shape
            simp only [List.cons.injEq] at parts
            rw [← shape, parts.2.2.2.1]
            rfl
      · obtain ⟨length, start, isNumber⟩ := digit
        rw [← Option.some.inj known]
        match base, length with
        | [d, i, g, i', t, last], _ =>
          refine Spells.digit isNumber ?_
          obtain ⟨rest, shape⟩ := List.isPrefixOf_iff_prefix.mp start
          match rest, congrArg List.length shape with
          | [lower], _ =>
            have parts : [(100 : UInt8), 105, 103, 105, 116, lower] =
              [toLower d, toLower i, toLower g, toLower i', toLower t, toLower last] := shape
            have kept : toLower last = last := ((letter_case last).1 isNumber).1
            simp only [List.cons.injEq] at parts
            rw [← shape, parts.2.2.2.2.2.1, kept]
            rfl

theorem normalizeSingleCharToken_spelled (byte : UInt8) :
    Spells modified [byte] (normalizeSingleCharToken byte modified) ∨
      normalizeSingleCharToken byte modified = [byte] := by
  rw [normalizeSingleCharToken]
  split_ifs with with_ isLetter isNumber
  · exact .inl (Spells.modifiedLetter with_ isLetter)
  · exact .inl (Spells.modifiedDigit with_ isNumber)
  · cases found : characterKeys.lookup byte with
    | none => exact .inr rfl
    | some name =>
      obtain ⟨before, behind, shape, -⟩ := List.lookup_eq_some_iff.mp found
      have listed : (byte, name) ∈ characterKeys := by
        rw [shape]
        simp
      exact .inl (Spells.modifiedCharacter with_ listed)
  · exact .inr rfl

theorem normalizeBase_shape (base : Text) :
    Spells modified (normalizeBase modified base) (normalizeBase modified base) ∨
      normalizeKnownBaseToken base = none ∧ normalizeBase modified base = base.take 63 := by
  cases known : normalizeKnownBaseToken base with
  | some name =>
    rw [normalizeBase_known known]
    rcases normalizeKnown_spelled known with function | spells
    · obtain ⟨n, inside, rfl⟩ := normalizeFunctionKey_name function
      exact .inl (spells_functionKey inside)
    · exact .inl spells.name
  | none =>
    by_cases single : base.length = 1
    · obtain ⟨byte, rfl⟩ := List.length_eq_one_iff.mp single
      rw [normalizeBase_single]
      rcases normalizeSingleCharToken_spelled byte with spells | self
      · exact .inl spells.name
      · exact .inr ⟨rfl, self⟩
    · exact .inr ⟨rfl, normalizeBase_copied known single⟩

theorem normalizeBase_unspelled {base : Text} (plain : PlainNumber base)
    (none : ∀ name, ¬Spells modified base name) : normalizeBase modified base = base.take 63 := by
  cases known : normalizeKnownBaseToken base with
  | some name =>
    rcases normalizeKnown_spelled known with function | spells
    · exact absurd (normalizeFunctionKey_plain plain function) (none name)
    · exact absurd spells (none name)
  | none =>
    by_cases single : base.length = 1
    · obtain ⟨byte, rfl⟩ := List.length_eq_one_iff.mp single
      rw [normalizeBase_single]
      rcases normalizeSingleCharToken_spelled byte with spells | self
      · exact absurd spells (none _)
      · exact self
    · exact normalizeBase_copied known single

theorem normalizeBase_eq_iff {first second : Text} (plainFirst : PlainNumber first)
    (plainSecond : PlainNumber second) (shortFirst : first.length ≤ 63)
    (shortSecond : second.length ≤ 63) :
    normalizeBase modified first = normalizeBase modified second ↔
      SameKey modified first second := by
  have copied : ∀ {base}, PlainNumber base → base.length ≤ 63 →
      (∀ name, ¬Spells modified base name) → normalizeBase modified base = base :=
    fun plain short none => by
      rw [normalizeBase_unspelled plain none, List.take_of_length_le short]
  constructor
  · intro same
    by_cases one : ∃ name, Spells modified first name
    · by_cases two : ∃ name, Spells modified second name
      · obtain ⟨name, spells⟩ := one
        obtain ⟨other, spells'⟩ := two
        rw [normalizeBase_spells spells, normalizeBase_spells spells'] at same
        exact .inr ⟨name, spells, same ▸ spells'⟩
      · -- The second base would be the name of a key.
        obtain ⟨name, spells⟩ := one
        rw [normalizeBase_spells spells,
          copied plainSecond shortSecond (not_exists.mp two)] at same
        exact absurd ⟨name, same ▸ spells.name⟩ two
    · by_cases two : ∃ name, Spells modified second name
      · obtain ⟨name, spells⟩ := two
        rw [normalizeBase_spells spells, copied plainFirst shortFirst (not_exists.mp one)] at same
        exact absurd ⟨name, same ▸ spells.name⟩ one
      · rw [copied plainFirst shortFirst (not_exists.mp one),
          copied plainSecond shortSecond (not_exists.mp two)] at same
        exact .inl same
  · rintro (rfl | ⟨name, spells, spells'⟩)
    · rfl
    · rw [normalizeBase_spells spells, normalizeBase_spells spells']

end Bases

section Identifiers

variable {modified : Bool}

theorem Spells.name_short {base name : Text} (spells : Spells modified base name) :
    name ≠ [] ∧ name.length ≤ 13 ∧ findModifier modifierPrefixes name = none := by
  have words : ∀ entry ∈ knownTokens, entry.2 ≠ [] ∧ entry.2.length ≤ 13 ∧
      (findModifier modifierPrefixes entry.2).isNone = true := by decide
  have characters : ∀ entry ∈ characterKeys, entry.2 ≠ [] ∧ entry.2.length ≤ 13 ∧
      (findModifier modifierPrefixes entry.2).isNone = true := by decide
  have numbers : ∀ n ≤ 24, (decimal n).length ≤ 2 := by decide
  cases spells with
  | word listed same =>
    obtain ⟨some, short, none⟩ := words _ listed
    exact ⟨some, short, Option.isNone_iff_eq_none.mp none⟩
  | letter isLetter same => exact ⟨by simp, Nat.le_of_ble_eq_true rfl, rfl⟩
  | digit isNumber same => exact ⟨by simp, Nat.le_of_ble_eq_true rfl, rfl⟩
  | functionKey isF digits inside =>
    have short := numbers _ inside.2
    refine ⟨List.append_ne_nil_of_left_ne_nil (by decide) _, ?_, rfl⟩
    rw [List.length_append, show (text "F").length = 1 from rfl]
    omega
  | modifiedLetter with_ isLetter => exact ⟨by simp, Nat.le_of_ble_eq_true rfl, rfl⟩
  | modifiedDigit with_ isNumber => exact ⟨by simp, Nat.le_of_ble_eq_true rfl, rfl⟩
  | modifiedCharacter with_ listed =>
    obtain ⟨some, short, none⟩ := characters _ listed
    exact ⟨some, short, Option.isNone_iff_eq_none.mp none⟩

theorem normalizeKnown_long {base : Text} (function : normalizeFunctionKey base = none)
    (long : 13 < base.length) : normalizeKnownBaseToken base = none := by
  have words : ∀ entry ∈ knownTokens, entry.1.length ≤ 13 := by decide
  have word : knownTokens.find? (stringIeq base ·.1) = none := by
    rw [List.find?_eq_none]
    intro entry among same
    have length := congrArg List.length (eq_of_beq same)
    have := words entry among
    rw [List.length_map, List.length_map] at length
    omega
  rw [normalizeKnownBaseToken, function, word]
  dsimp only
  rw [if_neg (by omega), if_neg (by omega)]

/-- A base of digits behind an F that is no function key, until the buffer cuts it. -/
def CutToFunctionKey (input : Text) : Prop :=
  let (modifiers, base) := stripModifiers modifierPrefixes 0 input
  normalizeFunctionKey base = none ∧
    normalizeFunctionKey (base.take (63 - (appendModifierPrefixes modifiers).length)) ≠ none

theorem normalizeBase_take {base : Text} (some : base ≠ [])
    (none : findModifier modifierPrefixes base = none) {room : Nat} (wide : 43 ≤ room)
    (fits : room ≤ 63)
    (uncut : normalizeFunctionKey base = Option.none →
      normalizeFunctionKey (base.take room) = Option.none) :
    let name := (normalizeBase modified base).take room
    name ≠ [] ∧ findModifier modifierPrefixes name = Option.none ∧
      normalizeBase modified name = name := by
  rcases @normalizeBase_shape modified base with spells | ⟨unknown, copied⟩
  · obtain ⟨some', short, none'⟩ := spells.name_short
    rw [List.take_of_length_le (by omega)]
    exact ⟨some', none', normalizeBase_spells spells⟩
  · rw [copied, List.take_take, Nat.min_eq_left fits]
    by_cases whole : base.length ≤ room
    · rw [List.take_of_length_le whole]
      rw [List.take_of_length_le (by omega)] at copied
      exact ⟨some, none, copied⟩
    · -- A base that is cut is long, so only a function key could be known in what is left.
      have length : (base.take room).length = room := by rw [List.length_take]; omega
      have notFunction : normalizeFunctionKey base = Option.none := by
        cases function : normalizeFunctionKey base with
        | none => rfl
        | some name =>
          rw [normalizeKnownBaseToken, function] at unknown
          cases unknown
      have unknown' := normalizeKnown_long (uncut notFunction) (by omega)
      refine ⟨?_, findModifier_take none room, ?_⟩
      · rw [← List.length_pos_iff]
        omega
      · rw [normalizeBase_copied unknown' (by omega), List.take_take, min_eq_right fits]

theorem normalizeIdentifier_eq {input normalized : Text}
    (made : c64KeymapNormalizeIdentifier input = some normalized) :
    (stripModifiers modifierPrefixes 0 input).2 ≠ [] ∧
      normalized = strncat (appendModifierPrefixes (stripModifiers modifierPrefixes 0 input).1)
        (normalizeBase ((stripModifiers modifierPrefixes 0 input).1 ≠ 0)
          (stripModifiers modifierPrefixes 0 input).2) := by
  rw [c64KeymapNormalizeIdentifier] at made
  dsimp only at made
  split_ifs at made with empty
  exact ⟨empty, (Option.some.inj made).symm⟩

theorem normalizeIdentifier_again {input normalized : Text} (uncut : ¬CutToFunctionKey input)
    (made : c64KeymapNormalizeIdentifier input = some normalized) :
    c64KeymapNormalizeIdentifier normalized = some normalized := by
  obtain ⟨some, rfl⟩ := normalizeIdentifier_eq made
  have small := stripModifiers_lt 0 input (by omega)
  have none := @findModifier_stripModifiers modifierPrefixes 0 input
  rw [CutToFunctionKey] at uncut
  generalize stripModifiers modifierPrefixes 0 input = stripped at some small none uncut ⊢
  obtain ⟨modifiers, base⟩ := stripped
  dsimp only at some small none uncut ⊢
  have short := appendModifierPrefixes_length small
  obtain ⟨some', none', same⟩ := @normalizeBase_take (modifiers ≠ 0) base some none
    (63 - (appendModifierPrefixes modifiers).length) (by omega) (by omega)
    (fun notFunction => not_not.mp fun cut => uncut ⟨notFunction, cut⟩)
  rw [strncat, c64KeymapNormalizeIdentifier, stripModifiers_append small none']
  dsimp only
  rw [if_neg some', same, strncat, List.take_take, min_self]

/-- The modifiers in their form and the base fit the buffer together. -/
def Whole (input : Text) : Prop :=
  let (modifiers, base) := stripModifiers modifierPrefixes 0 input
  (appendModifierPrefixes modifiers).length + base.length ≤ 63

theorem normalizeBase_fits {base : Text} {modifiers : Nat} (small : modifiers < 16)
    (fits : (appendModifierPrefixes modifiers).length + base.length ≤ 63) :
    (normalizeBase modified base).length ≤ 63 - (appendModifierPrefixes modifiers).length := by
  have short := appendModifierPrefixes_length small
  rcases @normalizeBase_shape modified base with spells | ⟨-, copied⟩
  · have := spells.name_short.2.1
    omega
  · rw [copied, List.length_take]
    omega

theorem normalizeIdentifier_eq_iff {first second one two : Text} (wholeFirst : Whole first)
    (wholeSecond : Whole second)
    (sameModifiers : (stripModifiers modifierPrefixes 0 first).1 =
      (stripModifiers modifierPrefixes 0 second).1)
    (plainFirst : PlainNumber (stripModifiers modifierPrefixes 0 first).2)
    (plainSecond : PlainNumber (stripModifiers modifierPrefixes 0 second).2)
    (madeOne : c64KeymapNormalizeIdentifier first = some one)
    (madeTwo : c64KeymapNormalizeIdentifier second = some two) :
    one = two ↔ SameKey ((stripModifiers modifierPrefixes 0 first).1 ≠ 0)
      (stripModifiers modifierPrefixes 0 first).2 (stripModifiers modifierPrefixes 0 second).2 := by
  obtain ⟨-, rfl⟩ := normalizeIdentifier_eq madeOne
  obtain ⟨-, rfl⟩ := normalizeIdentifier_eq madeTwo
  have small := stripModifiers_lt 0 first (by omega)
  rw [Whole] at wholeFirst wholeSecond
  rw [← sameModifiers]
  generalize stripModifiers modifierPrefixes 0 first = stripped at *
  generalize stripModifiers modifierPrefixes 0 second = stripped' at *
  obtain ⟨modifiers, base⟩ := stripped
  obtain ⟨modifiers', base'⟩ := stripped'
  obtain rfl : modifiers = modifiers' := sameModifiers
  dsimp only at *
  rw [strncat, strncat, List.take_of_length_le (normalizeBase_fits small wholeFirst),
    List.take_of_length_le (normalizeBase_fits small wholeSecond), List.append_cancel_left_eq]
  exact normalizeBase_eq_iff plainFirst plainSecond (by omega) (by omega)

/-- The form of an identifier stands for the modifiers and the key, and for nothing else. -/
structure CanonicalIdentifiers : Prop where
  again : ∀ input normalized, ¬CutToFunctionKey input →
    c64KeymapNormalizeIdentifier input = some normalized →
      c64KeymapNormalizeIdentifier normalized = some normalized
  found : ∀ keys input normalized, ¬CutToFunctionKey input →
    c64KeymapNormalizeIdentifier input = some normalized → normalized ∈ keys →
      ∃ i, keymapLookupIdentifier keys normalized = some i ∧ keys[i]? = some normalized
  modifiers : ∀ first second : List ModifierSpelling,
    (∀ bit, bit ∈ first.map (·.bit) ↔ bit ∈ second.map (·.bit)) → ∀ base,
      c64KeymapNormalizeIdentifier (first.flatMap (·.written) ++ base) =
        c64KeymapNormalizeIdentifier (second.flatMap (·.written) ++ base)
  apart : ∀ first second one two,
    let (modifiers, base) := stripModifiers modifierPrefixes 0 first
    let (modifiers', base') := stripModifiers modifierPrefixes 0 second
    Whole first → Whole second → PlainNumber base → PlainNumber base' → modifiers = modifiers' →
      c64KeymapNormalizeIdentifier first = some one →
      c64KeymapNormalizeIdentifier second = some two →
        (one = two ↔ SameKey (modifiers ≠ 0) base base')

/-- Identifiers are brought into one form for each way to press a key. -/
theorem keyIdentifiers_canonical : CanonicalIdentifiers where
  again _ _ uncut made := normalizeIdentifier_again uncut made
  found keys input normalized uncut made among := by
    have same := normalizeIdentifier_again uncut made
    rw [keymapLookupIdentifier, same]
    have some : (keys.findIdx? (· = normalized)).isSome = true := by
      rw [List.findIdx?_isSome, List.any_eq_true]
      exact ⟨normalized, among, decide_eq_true rfl⟩
    obtain ⟨i, found⟩ := Option.isSome_iff_exists.mp some
    obtain ⟨inside, holds, -⟩ := List.findIdx?_eq_some_iff_getElem.mp found
    refine ⟨i, found, ?_⟩
    rw [List.getElem?_eq_getElem inside, of_decide_eq_true holds]
  modifiers _ _ same base := normalizeIdentifier_modifiers same base
  apart _ _ _ _ wholeFirst wholeSecond plainFirst plainSecond same madeOne madeTwo :=
    normalizeIdentifier_eq_iff wholeFirst wholeSecond same plainFirst plainSecond madeOne madeTwo

/-- With shift the at sign and the two mean the same key. -/
theorem shiftAt_collapses :
    c64KeymapIdentifierIsRuntimeSupported (text "Shift+@") = true ∧
      c64KeymapIdentifierIsRuntimeSupported (text "Shift+2") = true ∧
      c64KeymapNormalizeIdentifier (text "Shift+@") = some (text "Shift+Digit2") ∧
      c64KeymapNormalizeIdentifier (text "Shift+2") = some (text "Shift+Digit2") := by
  have strip : ∀ byte, stripModifiers modifierPrefixes 0 (text "Shift+" ++ [byte]) =
      (1, [byte]) := by
    intro byte
    rw [stripModifiers_spelled ⟨text "Shift+", 1, by decide⟩,
      stripModifiers_base (findModifier_short (by simp))]
    rfl
  have form : ∀ byte, normalizeBase true [byte] = text "Digit2" →
      c64KeymapNormalizeIdentifier (text "Shift+" ++ [byte]) = some (text "Shift+Digit2") := by
    intro byte two
    rw [c64KeymapNormalizeIdentifier, strip]
    dsimp only
    rw [if_neg (by simp), show decide ((1 : Nat) ≠ 0) = true from rfl, two]
    rfl
  have at_ : c64KeymapNormalizeIdentifier (text "Shift+@") = some (text "Shift+Digit2") :=
    form 64 (by decide)
  have two : c64KeymapNormalizeIdentifier (text "Shift+2") = some (text "Shift+Digit2") :=
    form 50 (by decide)
  have back : stripModifiers normalizedPrefixes 0 (text "Shift+Digit2") = (1, text "Digit2") := by
    rw [stripModifiers_found (show findModifier normalizedPrefixes (text "Shift+Digit2") =
      some ⟨text "Shift+", 1, by decide⟩ from rfl), stripModifiers_base rfl]
    rfl
  refine ⟨?_, ?_, at_, two⟩
  · rw [c64KeymapIdentifierIsRuntimeSupported, at_]
    dsimp only
    rw [back]
    decide
  · rw [c64KeymapIdentifierIsRuntimeSupported, two]
    dsimp only
    rw [back]
    decide

end Identifiers

end C64Stream.Keymap
