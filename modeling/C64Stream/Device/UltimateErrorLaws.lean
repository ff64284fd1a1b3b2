import C64Stream.Device.UltimateErrors

/-! Which JSON texts the check of an error body accepts, and that it reads within its string. -/

namespace C64Stream

section Bounds

theorem readByte_eq {p : Text} {byte : UInt8} (read : readByte p = byte) (real : byte ≠ 0) :
    ∃ rest, p = byte :: rest := by
  cases p with
  | nil => exact absurd read.symm real
  | cons first rest =>
    obtain rfl : first = byte := read
    exact ⟨rest, rfl⟩

theorem scanOutside_length (step : Int → UInt8 → Option Int) (depth : Int) (inString : Bool)
    (p : Text) : (scanOutside step depth inString p).length ≤ p.length := by
  fun_induction scanOutside step depth inString p <;> grind

theorem keyEnd_length (escaped : Bool) (p : Text) : (keyEnd escaped p).length ≤ p.length := by
  fun_induction keyEnd escaped p <;> grind

theorem errorsMember_ends (p : Text) : ∃ result, errorsMember p = some (.ended result) := by
  unfold errorsMember
  cases scanJsonArrayEnd p with
  | none => exact ⟨false, rfl⟩
  | some close =>
    by_cases closed : readByte (close.dropWhile isSpace) ≠ 125
    · exact ⟨false, if_pos closed⟩
    · -- The bracket is a byte of the string, so the next place is not past its end.
      obtain ⟨rest, shape⟩ := readByte_eq (not_not.mp closed) (by decide)
      simp only [shape]
      exact ⟨_, rfl⟩

theorem otherMember_moves (p : Text) :
    (∃ result, otherMember p = some (.ended result)) ∨
      ∃ q, q.length < p.length ∧ otherMember p = some (.next (some q)) := by
  have shorter : (skipValue p).length ≤ p.length := scanOutside_length ..
  unfold otherMember
  cases shape : skipValue p with
  | nil => exact .inl ⟨false, rfl⟩
  | cons byte rest =>
    rw [shape, List.length_cons] at shorter
    by_cases closed : byte = 125
    · exact .inl ⟨false, by simp [readByte, closed]⟩
    · exact .inr ⟨rest, by omega, by simp [readByte, closed, advance]⟩

theorem memberPass_moves (p : Text) :
    (∃ result, memberPass (some p) = some (.ended result)) ∨
      ∃ q, q.length < p.length ∧ memberPass (some p) = some (.next (some q)) := by
  have spaces : ∀ p : Text, (p.dropWhile isSpace).length ≤ p.length :=
    fun p => (List.dropWhile_sublist isSpace).length_le
  have begins := spaces p
  simp only [memberPass, skipSpaces, Option.map_some, Option.bind_eq_bind, Option.bind_some]
  by_cases closed : readByte (p.dropWhile isSpace) = 125
  · exact .inl ⟨false, if_pos closed⟩
  rw [if_neg closed]
  by_cases quoted : readByte (p.dropWhile isSpace) = jsonQuote
  swap
  · exact .inl ⟨false, if_pos quoted⟩
  rw [if_neg (not_not.mpr quoted)]
  obtain ⟨key, shape⟩ := readByte_eq quoted (by decide)
  rw [shape, List.length_cons] at begins
  have named := keyEnd_length false key
  simp only [shape, advance, Option.bind_some]
  by_cases ended : readByte (keyEnd false key) = jsonQuote
  swap
  · exact .inl ⟨false, if_pos ended⟩
  rw [if_neg (not_not.mpr ended)]
  obtain ⟨afterName, nameShape⟩ := readByte_eq ended (by decide)
  rw [nameShape, List.length_cons] at named
  have between := spaces afterName
  simp only [nameShape, Option.map_some, Option.bind_some]
  by_cases colon : readByte (afterName.dropWhile isSpace) = 58
  swap
  · exact .inl ⟨false, if_pos colon⟩
  rw [if_neg (not_not.mpr colon)]
  obtain ⟨value, valueShape⟩ := readByte_eq colon (by decide)
  rw [valueShape, List.length_cons] at between
  have trimmed := spaces value
  simp only [valueShape, Option.map_some, Option.bind_some]
  split
  · exact .inl (errorsMember_ends _)
  · obtain ended | ⟨q, shorter, moves⟩ := otherMember_moves (value.dropWhile isSpace)
    · exact .inl ended
    · exact .inr ⟨q, by omega, moves⟩

theorem memberLoop_returns (passes : Nat) :
    ∀ p : Text, p.length < passes → ∃ result, memberLoop passes (some p) = some result := by
  induction passes with
  | zero => exact fun p enough => absurd enough (Nat.not_lt_zero _)
  | succ passes ih =>
    intro p enough
    obtain ⟨result, ends⟩ | ⟨q, shorter, moves⟩ := memberPass_moves p
    · exact ⟨result, by rw [memberLoop, ends]; rfl⟩
    · obtain ⟨result, returned⟩ := ih q (by omega)
      exact ⟨result, by rw [memberLoop, moves]; exact returned⟩

theorem ultimateError_returns (body : Text) :
    ∃ result, c64DeviceScanIsUltimateError body = some result := by
  unfold c64DeviceScanIsUltimateError
  by_cases opened : readByte (body.dropWhile isSpace) = 123
  swap
  · exact ⟨false, if_pos opened⟩
  rw [if_neg (not_not.mpr opened)]
  obtain ⟨rest, shape⟩ := readByte_eq opened (by decide)
  have begins := (List.dropWhile_sublist isSpace (l := body)).length_le
  rw [shape, List.length_cons] at begins
  rw [shape]
  exact memberLoop_returns _ rest (by omega)

end Bounds

section Members

variable {blank value after : Text}

theorem IsBlank.isSpace (isBlank : IsBlank blank) : ∀ byte ∈ blank, isSpace byte = true := by
  have each : ∀ byte ∈ ([9, 10, 13, 32] : List UInt8), C64Stream.isSpace byte = true :=
    forall_mem_of_all rfl
  exact fun byte there => each byte (isBlank byte there)

theorem dropWhile_blank (isBlank : IsBlank blank) {first : UInt8} (other : isSpace first = false)
    (rest : Text) :
    (blank ++ first :: rest).dropWhile isSpace = first :: rest := by
  rw [List.dropWhile_append_of_pos isBlank.isSpace, List.dropWhile_cons_of_neg (by simp [other])]

theorem dropWhile_value (isBlank : IsBlank blank) (isValue : IsJsonValue value) (rest : Text) :
    (blank ++ (value ++ rest)).dropWhile isSpace = value ++ rest := by
  have apart : ∀ byte ∈ jsonFirstBytes, isSpace byte = false := forall_mem_of_all rfl
  obtain ⟨first, others, rfl, known⟩ := isValue.first
  exact dropWhile_blank isBlank (apart first known) (others ++ rest)

theorem arrayStep_passes : PassesValues arrayStep 1 where
  plain := by
    intro depth deep byte plain
    simp only [List.mem_cons, List.not_mem_nil, or_false, not_or] at plain
    rw [arrayStep, if_neg plain.2.2.1, if_neg plain.2.2.2.1]
  nested := by
    intro depth deep pair known
    simp only [List.mem_cons, List.not_mem_nil, or_false] at known
    obtain rfl | rfl := known
    · have inner : depth ≠ 0 := by omega
      exact ⟨depth + 1, by omega, by simp [arrayStep], by simp [arrayStep],
        by simp [arrayStep, inner]⟩
    · exact ⟨depth, deep, by simp [arrayStep], by simp [arrayStep], by simp [arrayStep]⟩

theorem valueStep_passes : PassesValues valueStep 0 where
  plain := by
    intro depth deep byte plain
    simp only [List.mem_cons, List.not_mem_nil, or_false, not_or] at plain
    rw [valueStep, if_neg (by tauto), if_neg (by tauto), if_neg (by tauto)]
  nested := by
    intro depth deep pair known
    have inner : depth + 1 ≠ 0 := by omega
    simp only [List.mem_cons, List.not_mem_nil, or_false] at known
    obtain rfl | rfl := known
    · exact ⟨depth + 1, by omega, by simp [valueStep], by simp [valueStep, inner],
        by simp [valueStep, inner]⟩
    · exact ⟨depth + 1, by omega, by simp [valueStep], by simp [valueStep, inner],
        by simp [valueStep, inner]⟩

theorem keyEnd_plain {byte : UInt8} (quote : byte ≠ jsonQuote) (plain : byte ≠ jsonBackslash)
    (escaped : Bool) (rest : Text) : keyEnd escaped (byte :: rest) = keyEnd false rest := by
  simp [keyEnd, quote, plain]

theorem keyEnd_inner (bytes : Text)
    (plain : ∀ byte ∈ bytes, byte ≠ jsonQuote ∧ byte ≠ jsonBackslash) (rest : Text) :
    keyEnd false (bytes ++ rest) = keyEnd false rest := by
  induction bytes with
  | nil => rfl
  | cons byte others ih =>
    have first := plain byte (List.mem_cons_self ..)
    rw [List.cons_append, keyEnd_plain first.1 first.2]
    exact ih fun other there => plain other (List.mem_cons_of_mem _ there)

theorem keyEnd_escaped (letter : UInt8) (rest : Text) :
    keyEnd false (jsonBackslash :: letter :: rest) = keyEnd false rest := by
  have opens : keyEnd false (jsonBackslash :: letter :: rest) = keyEnd true (letter :: rest) := by
    simp [keyEnd, show jsonBackslash ≠ jsonQuote by decide]
  rw [opens]
  simp [keyEnd]

theorem keyEnd_pieces (pieces : List JsonPiece) (rest : Text) :
    keyEnd false (writtenPieces pieces ++ jsonQuote :: rest) = jsonQuote :: rest := by
  induction pieces with
  | nil => rw [writtenPieces, List.flatMap_nil, List.nil_append, keyEnd, if_neg (by simp)]
  | cons piece others ih =>
    rw [writtenPieces, List.flatMap_cons, List.append_assoc]
    change keyEnd false (piece.written ++ (writtenPieces others ++ jsonQuote :: rest)) = _
    cases piece with
    | plain byte allowed =>
      rw [JsonPiece.written, keyEnd_inner [byte]
        (fun other there => List.mem_singleton.mp there ▸ allowed.2), ih]
    | escape letter meaning known =>
      rw [JsonPiece.written, List.cons_append, List.cons_append, List.nil_append, keyEnd_escaped,
        ih]
    | unit digits four hexadecimal =>
      rw [JsonPiece.written, List.cons_append, List.cons_append, keyEnd_escaped,
        keyEnd_inner digits
          (fun digit there => hexadecimal_plain digit (hexadecimal digit there)), ih]

/-- The grammar's demands on the members of an object. -/
def ValidMembers (members : List JsonMember) : Prop :=
  (∀ member ∈ members, IsBlank member.before ∧ IsBlank member.afterName ∧
    IsBlank member.element.before ∧ IsBlank member.element.after) ∧
  ∀ member ∈ members, IsJsonValue member.element.value

/-- A member is named if its name is written without escape sequences. -/
def JsonMember.spelledErrors (member : JsonMember) : Prop :=
  writtenPieces member.name = text "errors"

instance (member : JsonMember) : Decidable member.spelledErrors :=
  inferInstanceAs (Decidable (_ = _))

theorem memberPass_member {member : JsonMember} (before : IsBlank member.before)
    (afterName : IsBlank member.afterName) (beforeValue : IsBlank member.element.before)
    (value : IsJsonValue member.element.value) (rest : Text) :
    memberPass (some (member.written ++ rest)) =
      if member.spelledErrors then
        errorsMember (member.element.value ++ (member.element.after ++ rest))
      else otherMember (member.element.value ++ (member.element.after ++ rest)) := by
  have shape : member.written ++ rest =
      member.before ++ jsonQuote :: (writtenPieces member.name ++ jsonQuote ::
        (member.afterName ++ 58 :: (member.element.before ++
          (member.element.value ++ (member.element.after ++ rest))))) := by
    simp [JsonMember.written, quotedPieces, JsonElement.written]
  have named : ∀ rest : Text,
      (((writtenPieces member.name ++ jsonQuote :: rest).length - (jsonQuote :: rest).length == 6 &&
        (writtenPieces member.name ++ jsonQuote :: rest).take
          ((writtenPieces member.name ++ jsonQuote :: rest).length - (jsonQuote :: rest).length) ==
            text "errors") = true) ↔ member.spelledErrors := by
    intro rest
    rw [List.length_append, Nat.add_sub_cancel, List.take_left' rfl, Bool.and_eq_true, beq_iff_eq,
      beq_iff_eq]
    exact ⟨fun both => both.2, fun same => ⟨by rw [same]; rfl, same⟩⟩
  rw [shape]
  simp only [memberPass, skipSpaces, Option.map_some, Option.bind_eq_bind, Option.bind_some]
  rw [dropWhile_blank before (by decide)]
  simp only [readByte, List.headD_cons, advance, Option.bind_some]
  refine (if_neg (show ¬ jsonQuote = 125 by decide)).trans ?_
  refine (if_neg (not_not.mpr rfl)).trans ?_
  rw [keyEnd_pieces]
  simp only [List.headD_cons, Option.map_some, Option.bind_some]
  refine (if_neg (not_not.mpr rfl)).trans ?_
  rw [dropWhile_blank afterName (by decide)]
  simp only [List.headD_cons, Option.map_some, Option.bind_some]
  refine (if_neg (not_not.mpr rfl)).trans ?_
  rw [dropWhile_value beforeValue value]
  exact if_congr (named _) rfl rfl

theorem otherMember_comma (isValue : IsJsonValue value) (isBlank : IsBlank after) (rest : Text) :
    otherMember (value ++ (after ++ 44 :: rest)) = some (.next (some rest)) := by
  have skipped : skipValue (value ++ (after ++ 44 :: rest)) = 44 :: rest := by
    rw [skipValue, valueStep_passes.value isValue 0 le_rfl, valueStep_passes.blank le_rfl isBlank,
      scanOutside_stop (by decide) (by decide)]
  rw [otherMember, skipped]
  rfl

theorem otherMember_bracket (isValue : IsJsonValue value) (isBlank : IsBlank after) (rest : Text) :
    otherMember (value ++ (after ++ 125 :: rest)) = some (.ended false) := by
  have skipped : skipValue (value ++ (after ++ 125 :: rest)) = 125 :: rest := by
    rw [skipValue, valueStep_passes.value isValue 0 le_rfl, valueStep_passes.blank le_rfl isBlank,
      scanOutside_stop (by decide) (by decide)]
  rw [otherMember, skipped]
  rfl

theorem scanJsonArrayEnd_array (isArray : IsJsonArray value) (rest : Text) :
    scanJsonArrayEnd (value ++ rest) = some rest := by
  obtain ⟨inner, rfl, passed⟩ := isArray.split
  have shape : 91 :: (inner ++ [93]) ++ rest = 91 :: (inner ++ 93 :: rest) := by simp
  rw [shape, scanJsonArrayEnd, if_neg (by simp [readByte]),
    scanOutside_cons (by decide) (show arrayStep 0 91 = some 1 by decide),
    passed arrayStep 1 1 arrayStep_passes le_rfl (by decide),
    scanOutside_stop (by decide) (by decide)]

theorem scanJsonArrayEnd_other (isValue : IsJsonValue value) (other : ¬ IsJsonArray value)
    (rest : Text) : scanJsonArrayEnd (value ++ rest) = none := by
  obtain ⟨first, others, rfl, -⟩ := isValue.first
  have apart : first ≠ 91 := fun same => other (isValue.array_iff.mp (by rw [same]; rfl))
  exact if_pos apart

theorem errorsMember_comma (isValue : IsJsonValue value) (isBlank : IsBlank after) (rest : Text) :
    errorsMember (value ++ (after ++ 44 :: rest)) = some (.ended false) := by
  by_cases isArray : IsJsonArray value
  · rw [errorsMember, scanJsonArrayEnd_array isArray]
    simp only [dropWhile_blank isBlank (show isSpace 44 = false by decide)]
    rfl
  · rw [errorsMember, scanJsonArrayEnd_other isValue isArray]

theorem errorsMember_bracket {trailing : Text} (isValue : IsJsonValue value)
    (isBlank : IsBlank after) (blankEnd : IsBlank trailing) :
    errorsMember (value ++ (after ++ 125 :: trailing)) = some (.ended true) ↔
      IsJsonArray value := by
  by_cases isArray : IsJsonArray value
  · rw [errorsMember, scanJsonArrayEnd_array isArray]
    simp only [dropWhile_blank isBlank (show isSpace 125 = false by decide)]
    have all : trailing.dropWhile isSpace = [] :=
      List.dropWhile_eq_nil_iff.mpr blankEnd.isSpace
    simp [readByte, advance, skipSpaces, all, isArray]
  · rw [errorsMember, scanJsonArrayEnd_other isValue isArray]
    simp [isArray]

end Members

section Recognition

variable {body : Text}

/-- The first member that is spelled so is an array, and nothing stands behind it. -/
def ArraySpelledLast (members : List JsonMember) : Prop :=
  ∃ before last, members = before ++ [last] ∧ (∀ member ∈ before, ¬ member.spelledErrors) ∧
    last.spelledErrors ∧ IsJsonArray last.element.value

theorem arraySpelledLast_cons {first second : JsonMember} {rest : List JsonMember} :
    ArraySpelledLast (first :: second :: rest) ↔
      ¬ first.spelledErrors ∧ ArraySpelledLast (second :: rest) := by
  constructor
  · rintro ⟨before, last, shape, others, spelled, isArray⟩
    cases before with
    | nil => simp at shape
    | cons member before =>
      obtain ⟨rfl, tail⟩ := List.cons.inj shape
      exact ⟨others _ (List.mem_cons_self ..), before, last, tail,
        fun member there => others member (List.mem_cons_of_mem _ there), spelled, isArray⟩
  · rintro ⟨other, before, last, shape, others, spelled, isArray⟩
    refine ⟨first :: before, last, by rw [shape]; rfl, ?_, spelled, isArray⟩
    intro member there
    obtain rfl | there := List.mem_cons.mp there
    · exact other
    · exact others member there

theorem arraySpelledLast_single {only : JsonMember} :
    ArraySpelledLast [only] ↔ only.spelledErrors ∧ IsJsonArray only.element.value := by
  constructor
  · rintro ⟨before, last, shape, -, spelled, isArray⟩
    cases before with
    | nil =>
      obtain rfl : only = last := by simpa using shape
      exact ⟨spelled, isArray⟩
    | cons member before => simp at shape
  · rintro ⟨spelled, isArray⟩
    exact ⟨[], only, rfl, fun member there => (List.not_mem_nil there).elim, spelled, isArray⟩

theorem memberLoop_ended {cursor : Cursor} {result : Bool}
    (ends : memberPass cursor = some (.ended result)) (passes : Nat) :
    memberLoop (passes + 1) cursor = some result := by
  rw [memberLoop, ends]
  rfl

theorem memberLoop_next {cursor next : Cursor} (moves : memberPass cursor = some (.next next))
    (passes : Nat) : memberLoop (passes + 1) cursor = memberLoop passes next := by
  rw [memberLoop, moves]
  rfl

theorem memberLoop_members {trailing : Text} (blankEnd : IsBlank trailing)
    (rest : List JsonMember) :
    ∀ (first : JsonMember) (passes : Nat), ValidMembers (first :: rest) →
      (separated ((first :: rest).map JsonMember.written) ++ 125 :: trailing).length < passes →
      (memberLoop passes
          (some (separated ((first :: rest).map JsonMember.written) ++ 125 :: trailing)) =
            some true ↔ ArraySpelledLast (first :: rest)) := by
  induction rest with
  | nil =>
    intro only passes valid enough
    obtain ⟨⟨before, afterName, beforeValue, after⟩, value⟩ :=
      (⟨valid.1 only (List.mem_cons_self ..), valid.2 only (List.mem_cons_self ..)⟩ : _ ∧ _)
    obtain ⟨passes, rfl⟩ : ∃ n, passes = n + 1 := ⟨passes - 1, by omega⟩
    have pass := memberPass_member before afterName beforeValue value (125 :: trailing)
    rw [arraySpelledLast_single]
    change memberLoop (passes + 1) (some (only.written ++ 125 :: trailing)) = some true ↔ _
    by_cases spelled : only.spelledErrors
    · rw [if_pos spelled] at pass
      obtain ⟨result, ends⟩ := errorsMember_ends
        (only.element.value ++ (only.element.after ++ 125 :: trailing))
      have exact_end := errorsMember_bracket value after blankEnd
      rw [ends] at exact_end
      rw [memberLoop_ended (pass.trans ends)]
      simpa [spelled] using exact_end
    · rw [if_neg spelled, otherMember_bracket value after] at pass
      rw [memberLoop_ended pass]
      simp [spelled]
  | cons second rest ih =>
    intro first passes valid enough
    obtain ⟨⟨before, afterName, beforeValue, after⟩, value⟩ :=
      (⟨valid.1 first (List.mem_cons_self ..), valid.2 first (List.mem_cons_self ..)⟩ : _ ∧ _)
    obtain ⟨passes, rfl⟩ : ∃ n, passes = n + 1 := ⟨passes - 1, by omega⟩
    have shape : separated ((first :: second :: rest).map JsonMember.written) ++ 125 :: trailing =
        first.written ++ 44 ::
          (separated ((second :: rest).map JsonMember.written) ++ 125 :: trailing) := by
      simp [separated]
    rw [shape] at enough ⊢
    have pass := memberPass_member before afterName beforeValue value
      (44 :: (separated ((second :: rest).map JsonMember.written) ++ 125 :: trailing))
    rw [arraySpelledLast_cons]
    by_cases spelled : first.spelledErrors
    · rw [if_pos spelled, errorsMember_comma value after] at pass
      rw [memberLoop_ended pass]
      simp [spelled]
    · rw [if_neg spelled, otherMember_comma value after] at pass
      rw [memberLoop_next pass]
      -- The rest of the members is shorter, so the remaining passes are enough for it.
      have others := ih second passes
        ⟨fun member there => valid.1 member (List.mem_cons_of_mem _ there),
          fun member there => valid.2 member (List.mem_cons_of_mem _ there)⟩
        (by rw [List.length_append, List.length_cons] at enough; omega)
      simpa [spelled] using others

/-- A JSON object with such members, and white space around it. -/
def IsObjectText (members : List JsonMember) (body : Text) : Prop :=
  ∃ before after, IsBlank before ∧ IsBlank after ∧ ValidMembers members ∧
    body = before ++ (writtenObject members ++ after)

/-- Bodies that are errors of the device: objects with an array named `errors`. -/
def IsErrorsBody (body : Text) : Prop :=
  ∃ members, IsObjectText members body ∧
    ∃ member ∈ members, member.meaning = text "errors" ∧ IsJsonArray member.element.value

/-- Bodies in which that array is the first member spelled so, and the last one at all. -/
def IsErrorsLast (body : Text) : Prop :=
  ∃ members, IsObjectText members body ∧ ArraySpelledLast members

theorem ultimateError_object {members : List JsonMember} (isObject : IsObjectText members body) :
    c64DeviceScanIsUltimateError body = some true ↔ ArraySpelledLast members := by
  obtain ⟨before, after, blankBefore, blankAfter, valid, rfl⟩ := isObject
  have begins : (before ++ (writtenObject members ++ after)).dropWhile isSpace =
      123 :: (separated (members.map JsonMember.written) ++ 125 :: after) := by
    have shape : writtenObject members ++ after =
        123 :: (separated (members.map JsonMember.written) ++ 125 :: after) := by
      simp [writtenObject]
    rw [shape, dropWhile_blank blankBefore (by decide)]
  have long := (List.dropWhile_sublist isSpace
    (l := before ++ (writtenObject members ++ after))).length_le
  unfold c64DeviceScanIsUltimateError
  rw [begins] at long ⊢
  rw [List.length_cons] at long
  rw [if_neg (by simp [readByte])]
  change memberLoop _ (some (separated (members.map JsonMember.written) ++ 125 :: after)) = _ ↔ _
  cases members with
  | nil =>
    have closed : memberPass (some (125 :: after)) = some (.ended false) := rfl
    rw [show separated (([] : List JsonMember).map JsonMember.written) ++ 125 :: after =
      125 :: after from rfl, memberLoop_ended closed]
    simp [ArraySpelledLast]
  | cons first rest => exact memberLoop_members blankAfter rest first _ valid (by omega)

theorem ultimateError_unopened (other : readByte (body.dropWhile isSpace) ≠ 123) :
    c64DeviceScanIsUltimateError body = some false :=
  if_pos other

theorem ultimateError_empty {before blank after : Text} (blankBefore : IsBlank before)
    (isBlank : IsBlank blank) :
    c64DeviceScanIsUltimateError (before ++ (123 :: (blank ++ [125]) ++ after)) = some false := by
  have begins : (before ++ (123 :: (blank ++ [125]) ++ after)).dropWhile isSpace =
      123 :: (blank ++ 125 :: after) := by
    have shape : 123 :: (blank ++ [125]) ++ after = 123 :: (blank ++ 125 :: after) := by simp
    rw [shape, dropWhile_blank blankBefore (by decide)]
  have closed : memberPass (some (blank ++ 125 :: after)) = some (.ended false) := by
    simp only [memberPass, skipSpaces, Option.map_some, Option.bind_eq_bind, Option.bind_some]
    rw [dropWhile_blank isBlank (by decide)]
    rfl
  unfold c64DeviceScanIsUltimateError
  rw [begins, if_neg (by simp [readByte])]
  exact memberLoop_ended closed _

theorem ultimateError_text (isText : IsJsonText body) :
    c64DeviceScanIsUltimateError body = some true ↔ IsErrorsLast body := by
  constructor
  · intro found
    obtain ⟨before, value, after, blankBefore, isValue, blankAfter, rfl⟩ := isText
    rw [List.append_assoc] at found ⊢
    have begins := dropWhile_value blankBefore isValue after
    -- Only an object begins with a brace.
    have unopened : value.head? ≠ some 123 → False := by
      intro other
      obtain ⟨first, rest, rfl, -⟩ := isValue.first
      have apart : readByte ((before ++ (first :: rest ++ after)).dropWhile isSpace) ≠ 123 := by
        rw [begins]
        exact fun same => other (congrArg some same)
      rw [ultimateError_unopened apart] at found
      cases found
    cases isValue with
    | word known =>
      have heads : ∀ word ∈ jsonWords, word.head? ≠ some 123 := by decide
      exact (unopened (heads value known)).elim
    | number number =>
      obtain ⟨first, rest, rfl, -, other⟩ := number.first
      exact (unopened fun same => other (by simp [Option.some.inj same])).elim
    | string pieces => exact (unopened (by simp [quotedPieces, jsonQuote])).elim
    | emptyArray blank isBlank => exact (unopened (by simp)).elim
    | array elements blanks values => exact (unopened (by simp [writtenArray])).elim
    | emptyObject blank isBlank =>
      rw [ultimateError_empty blankBefore isBlank] at found
      cases found
    | object members blanks values =>
      have isObject : IsObjectText members (before ++ (writtenObject members ++ after)) :=
        ⟨before, after, blankBefore, blankAfter, ⟨blanks, values⟩, rfl⟩
      exact ⟨members, isObject, (ultimateError_object isObject).mp found⟩
  · rintro ⟨members, isObject, last⟩
    exact (ultimateError_object isObject).mpr last

theorem meaning_plain (pieces : List JsonPiece) (plain : jsonBackslash ∉ writtenPieces pieces) :
    pieces.flatMap JsonPiece.meaning = writtenPieces pieces := by
  induction pieces with
  | nil => rfl
  | cons piece others ih =>
    rw [writtenPieces, List.flatMap_cons, List.mem_append, not_or] at plain
    rw [writtenPieces, List.flatMap_cons, List.flatMap_cons, ih plain.2]
    cases piece with
    | plain byte allowed => rfl
    | escape letter meaning known => exact absurd (List.mem_cons_self ..) plain.1
    | unit digits four hexadecimal => exact absurd (List.mem_cons_self ..) plain.1

theorem IsErrorsLast.isErrorsBody (last : IsErrorsLast body) : IsErrorsBody body := by
  obtain ⟨members, isObject, before, member, rfl, -, spelled, isArray⟩ := last
  have plain : jsonBackslash ∉ writtenPieces member.name := by
    rw [spelled]
    decide
  exact ⟨_, isObject, member, List.mem_append_right _ (List.mem_singleton.mpr rfl),
    (meaning_plain _ plain).trans spelled, isArray⟩

/-- Errors are recognised exactly as long as their array is spelled without escape sequences,
behind no other member of that spelling and before no other member at all. -/
theorem ultimateError_exact_iff (body : Text) :
    (IsJsonText body →
      ((c64DeviceScanIsUltimateError body = some true ↔ IsErrorsBody body) ↔
        (IsErrorsBody body → IsErrorsLast body))) ∧
      ∃ result, c64DeviceScanIsUltimateError body = some result := by
  refine ⟨fun isText => ?_, ultimateError_returns body⟩
  rw [ultimateError_text isText]
  exact ⟨fun same => same.mpr, fun enough => ⟨IsErrorsLast.isErrorsBody, enough⟩⟩

/-- The name of the member that is looked for, letter by letter. -/
def errorsName : List JsonPiece :=
  [.plain 101 (by decide), .plain 114 (by decide), .plain 114 (by decide), .plain 111 (by decide),
    .plain 114 (by decide), .plain 115 (by decide)]

/-- That member with an empty array. -/
def emptyErrors : JsonMember :=
  ⟨[], errorsName, [], ⟨[], [91, 93], []⟩⟩

/-- A member with a number behind it. -/
def codeMember : JsonMember :=
  ⟨[], [.plain 99 (by decide), .plain 111 (by decide), .plain 100 (by decide),
    .plain 101 (by decide)], [], ⟨[], text "403", []⟩⟩

theorem isBlank_nil : IsBlank [] :=
  fun _ there => (List.not_mem_nil there).elim

theorem emptyErrors_array : IsJsonArray emptyErrors.element.value :=
  .inl ⟨[], isBlank_nil, rfl⟩

theorem errorMembers_valid : ValidMembers [emptyErrors, codeMember] := by
  have number : IsJsonNumber (text "403") :=
    .mk [] (text "403") [] [] (.inl rfl) ⟨by decide, forall_mem_of_all rfl⟩ (by decide) (.inl rfl)
      (.inl rfl)
  constructor
  · intro member among
    simp only [List.mem_cons, List.not_mem_nil, or_false] at among
    obtain rfl | rfl := among <;> exact ⟨isBlank_nil, isBlank_nil, isBlank_nil, isBlank_nil⟩
  · intro member among
    simp only [List.mem_cons, List.not_mem_nil, or_false] at among
    obtain rfl | rfl := among
    · exact .emptyArray [] isBlank_nil
    · exact .number number

/-- Behind the array, one more member hides it. -/
theorem errorsWithCode_missed :
    IsJsonText (text "\x7b\"errors\":[],\"code\":403\x7d") ∧
      IsErrorsBody (text "\x7b\"errors\":[],\"code\":403\x7d") ∧
      c64DeviceScanIsUltimateError (text "\x7b\"errors\":[],\"code\":403\x7d") = some false := by
  have shape : text "\x7b\"errors\":[],\"code\":403\x7d" =
      [] ++ (writtenObject [emptyErrors, codeMember] ++ []) := by
    decide
  refine ⟨⟨[], _, [], isBlank_nil, .object _ errorMembers_valid.1 errorMembers_valid.2,
    isBlank_nil, shape⟩, ⟨[emptyErrors, codeMember], ⟨[], [], isBlank_nil, isBlank_nil,
    errorMembers_valid, shape⟩, emptyErrors, List.mem_cons_self .., by decide,
    emptyErrors_array⟩, by decide +kernel⟩

/-- An object with nothing but the array is recognised. -/
theorem emptyErrors_exact :
    (c64DeviceScanIsUltimateError (text "\x7b\"errors\":[]\x7d") = some true ↔
      IsErrorsBody (text "\x7b\"errors\":[]\x7d")) ∧
      ∃ result, c64DeviceScanIsUltimateError (text "\x7b\"errors\":[]\x7d") = some result := by
  have shape : text "\x7b\"errors\":[]\x7d" = [] ++ (writtenObject [emptyErrors] ++ []) := by
    decide
  have valid : ValidMembers [emptyErrors] :=
    ⟨fun member among => errorMembers_valid.1 member (List.mem_cons.mpr
      (.inl (List.mem_singleton.mp among))),
      fun member among => errorMembers_valid.2 member (List.mem_cons.mpr
      (.inl (List.mem_singleton.mp among)))⟩
  have last : IsErrorsLast (text "\x7b\"errors\":[]\x7d") :=
    ⟨[emptyErrors], ⟨[], [], isBlank_nil, isBlank_nil, valid, shape⟩,
      arraySpelledLast_single.mpr ⟨by decide, emptyErrors_array⟩⟩
  have isText : IsJsonText (text "\x7b\"errors\":[]\x7d") :=
    ⟨[], _, [], isBlank_nil, .object _ valid.1 valid.2, isBlank_nil, shape⟩
  have law := ultimateError_exact_iff (text "\x7b\"errors\":[]\x7d")
  exact ⟨(law.1 isText).mpr fun _ => last, law.2⟩

end Recognition

end C64Stream
