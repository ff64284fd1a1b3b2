import C64Stream.Lib.Hex

/-! The grammar of JSON texts byte by byte, and scanners that pass over whole values. -/

namespace C64Stream

section Strings

/-- The byte that begins and ends a string. -/
def jsonQuote : UInt8 := 34

/-- The byte that begins an escape sequence. -/
def jsonBackslash : UInt8 := 92

/-- A code unit in bytes, as UTF-8 encodes it. -/
def unitBytes (unit : Nat) : List UInt8 :=
  if unit < 128 then [UInt8.ofNat unit]
  else if unit < 2048 then [UInt8.ofNat (192 + unit / 64), UInt8.ofNat (128 + unit % 64)]
  else
    [UInt8.ofNat (224 + unit / 4096), UInt8.ofNat (128 + unit / 64 % 64),
      UInt8.ofNat (128 + unit % 64)]

/-- The letters that stand behind a backslash, and the bytes that they stand for. -/
def jsonEscapes : List (UInt8 × UInt8) :=
  [(34, 34), (92, 92), (47, 47), (98, 8), (102, 12), (110, 10), (114, 13), (116, 9)]

/-- A piece of a string between its quotes. -/
inductive JsonPiece where
  | plain (byte : UInt8) (allowed : 32 ≤ byte ∧ byte ≠ jsonQuote ∧ byte ≠ jsonBackslash)
  | escape (letter meaning : UInt8) (known : (letter, meaning) ∈ jsonEscapes)
  | unit (digits : List UInt8) (four : digits.length = 4)
      (hexadecimal : ∀ digit ∈ digits, (hexValue digit).isSome)

/-- A piece as it is written. -/
def JsonPiece.written (piece : JsonPiece) : List UInt8 :=
  match piece with
  | .plain byte _ => [byte]
  | .escape letter _ _ => [jsonBackslash, letter]
  | .unit digits _ _ => jsonBackslash :: 117 :: digits

/-- The bytes that a piece stands for. -/
def JsonPiece.meaning (piece : JsonPiece) : List UInt8 :=
  match piece with
  | .plain byte _ => [byte]
  | .escape _ meaning _ => [meaning]
  | .unit digits _ _ =>
    unitBytes (digits.foldl (fun unit digit => 16 * unit + (hexValue digit).getD 0) 0)

/-- The pieces of a string as they are written. -/
def writtenPieces (pieces : List JsonPiece) : List UInt8 :=
  pieces.flatMap JsonPiece.written

/-- A string with its quotes. -/
def quotedPieces (pieces : List JsonPiece) : List UInt8 :=
  jsonQuote :: (writtenPieces pieces ++ [jsonQuote])

end Strings

section Values

/-- White space between tokens. -/
def IsBlank (bytes : List UInt8) : Prop :=
  ∀ byte ∈ bytes, byte ∈ ([9, 10, 13, 32] : List UInt8)

/-- A run of decimal digits. -/
def IsDigits (bytes : List UInt8) : Prop :=
  bytes ≠ [] ∧ ∀ byte ∈ bytes, 48 ≤ byte ∧ byte ≤ 57

/-- A number: a sign, a whole part without leading zeros, a fraction and an exponent. -/
inductive IsJsonNumber : List UInt8 → Prop where
  | mk (sign whole fraction exponent : List UInt8)
      (signed : sign = [] ∨ sign = [45])
      (whole_digits : IsDigits whole) (no_zeros : whole.head? = some 48 → whole = [48])
      (fractional : fraction = [] ∨ ∃ digits, IsDigits digits ∧ fraction = 46 :: digits)
      (exponential : exponent = [] ∨ ∃ marker sign digits, marker ∈ ([69, 101] : List UInt8) ∧
        sign ∈ ([[], [43], [45]] : List (List UInt8)) ∧ IsDigits digits ∧
        exponent = marker :: (sign ++ digits)) :
      IsJsonNumber (sign ++ whole ++ fraction ++ exponent)

/-- The three literal names. -/
def jsonWords : List (List UInt8) :=
  ["null".toUTF8.data.toList, "true".toUTF8.data.toList, "false".toUTF8.data.toList]

/-- An element of an array with the white space around it. -/
structure JsonElement where
  before : List UInt8
  value : List UInt8
  after : List UInt8

/-- An element as it is written. -/
def JsonElement.written (element : JsonElement) : List UInt8 :=
  element.before ++ element.value ++ element.after

/-- A member of an object with the white space between its tokens. -/
structure JsonMember where
  before : List UInt8
  name : List JsonPiece
  afterName : List UInt8
  element : JsonElement

/-- A member as it is written. -/
def JsonMember.written (member : JsonMember) : List UInt8 :=
  member.before ++ quotedPieces member.name ++ member.afterName ++ 58 :: member.element.written

/-- The bytes that the name of a member stands for. -/
def JsonMember.meaning (member : JsonMember) : List UInt8 :=
  member.name.flatMap JsonPiece.meaning

/-- Texts with commas between them. -/
def separated : List (List UInt8) → List UInt8
  | [] => []
  | [last] => last
  | first :: second :: rest => first ++ 44 :: separated (second :: rest)

/-- An array as it is written. -/
def writtenArray (elements : List JsonElement) : List UInt8 :=
  91 :: (separated (elements.map JsonElement.written) ++ [93])

/-- An object as it is written. -/
def writtenObject (members : List JsonMember) : List UInt8 :=
  123 :: (separated (members.map JsonMember.written) ++ [125])

/-- The values of the grammar; an array or an object without entries may hold white space. -/
inductive IsJsonValue : List UInt8 → Prop where
  | word {bytes : List UInt8} (known : bytes ∈ jsonWords) : IsJsonValue bytes
  | number {bytes : List UInt8} (number : IsJsonNumber bytes) : IsJsonValue bytes
  | string (pieces : List JsonPiece) : IsJsonValue (quotedPieces pieces)
  | emptyArray (blank : List UInt8) (isBlank : IsBlank blank) : IsJsonValue (91 :: (blank ++ [93]))
  | array (elements : List JsonElement)
      (blanks : ∀ element ∈ elements, IsBlank element.before ∧ IsBlank element.after)
      (values : ∀ element ∈ elements, IsJsonValue element.value) :
      IsJsonValue (writtenArray elements)
  | emptyObject (blank : List UInt8) (isBlank : IsBlank blank) :
      IsJsonValue (123 :: (blank ++ [125]))
  | object (members : List JsonMember)
      (blanks : ∀ member ∈ members, IsBlank member.before ∧ IsBlank member.afterName ∧
        IsBlank member.element.before ∧ IsBlank member.element.after)
      (values : ∀ member ∈ members, IsJsonValue member.element.value) :
      IsJsonValue (writtenObject members)

/-- The arrays among the values. -/
def IsJsonArray (value : List UInt8) : Prop :=
  (∃ blank, IsBlank blank ∧ value = 91 :: (blank ++ [93])) ∨
    ∃ elements : List JsonElement,
      (∀ element ∈ elements, IsBlank element.before ∧ IsBlank element.after) ∧
      (∀ element ∈ elements, IsJsonValue element.value) ∧ value = writtenArray elements

/-- A text: a value with white space around it. -/
def IsJsonText (bytes : List UInt8) : Prop :=
  ∃ before value after, IsBlank before ∧ IsJsonValue value ∧ IsBlank after ∧
    bytes = before ++ value ++ after

end Values

section Scanners

/-- Read on to a byte outside of strings at which the step gives no depth to go on with. -/
def scanOutside (step : Int → UInt8 → Option Int) (depth : Int) (inString : Bool) :
    List UInt8 → List UInt8
  | [] => []
  | byte :: rest =>
    if inString then
      if byte = jsonBackslash then
        match rest with
        | [] => []
        | _ :: rest => scanOutside step depth true rest
      else if byte = jsonQuote then scanOutside step depth false rest
      else scanOutside step depth true rest
    else if byte = jsonQuote then scanOutside step depth true rest
    else
      match step depth byte with
      | none => byte :: rest
      | some inner => scanOutside step inner false rest

variable {step : Int → UInt8 → Option Int} {low depth : Int}

/-- A step that reads on over whole values, from some depth upwards. -/
structure PassesValues (step : Int → UInt8 → Option Int) (low : Int) : Prop where
  plain : ∀ depth, low ≤ depth → ∀ byte ∉ ([34, 44, 91, 93, 123, 125] : List UInt8),
    step depth byte = some depth
  nested : ∀ depth, low ≤ depth → ∀ pair ∈ ([(91, 93), (123, 125)] : List (UInt8 × UInt8)),
    ∃ inner, low ≤ inner ∧ step depth pair.1 = some inner ∧ step inner 44 = some inner ∧
      step inner pair.2 = some depth

/-- Outside of strings, a quote begins one, and the step decides at other bytes. -/
theorem scanOutside_outer (byte : UInt8) (rest : List UInt8) :
    scanOutside step depth false (byte :: rest) =
      if byte = jsonQuote then scanOutside step depth true rest
      else match step depth byte with
        | none => byte :: rest
        | some inner => scanOutside step inner false rest := by
  rw [scanOutside.eq_def]
  rfl

theorem scanOutside_escape (byte : UInt8) (rest : List UInt8) :
    scanOutside step depth true (jsonBackslash :: byte :: rest) =
      scanOutside step depth true rest := by
  rw [scanOutside, if_pos rfl, if_pos rfl]

/-- Within a string, a byte that is no backslash goes on, or ends it. -/
theorem scanOutside_within {byte : UInt8} (plain : byte ≠ jsonBackslash) (rest : List UInt8) :
    scanOutside step depth true (byte :: rest) =
      scanOutside step depth (byte != jsonQuote) rest := by
  rw [scanOutside.eq_def]
  by_cases ends : byte = jsonQuote
  · simp [ends, show jsonQuote ≠ jsonBackslash by decide]
  · simp [ends, plain, bne_iff_ne.mpr ends]

theorem scanOutside_cons {inner : Int} {byte : UInt8} (plain : byte ≠ jsonQuote)
    (steps : step depth byte = some inner) (rest : List UInt8) :
    scanOutside step depth false (byte :: rest) = scanOutside step inner false rest := by
  rw [scanOutside_outer, if_neg plain, steps]

theorem scanOutside_stop {byte : UInt8} (plain : byte ≠ jsonQuote)
    (stops : step depth byte = none) (rest : List UInt8) :
    scanOutside step depth false (byte :: rest) = byte :: rest := by
  rw [scanOutside_outer, if_neg plain, stops]

/-- Bytes that change nothing are passed. -/
theorem scanOutside_plain {bytes : List UInt8}
    (plain : ∀ byte ∈ bytes, byte ≠ jsonQuote ∧ step depth byte = some depth)
    (rest : List UInt8) :
    scanOutside step depth false (bytes ++ rest) = scanOutside step depth false rest := by
  induction bytes with
  | nil => rfl
  | cons byte others ih =>
    have first := plain byte (List.mem_cons_self ..)
    rw [List.cons_append, scanOutside_cons first.1 first.2]
    exact ih fun other there => plain other (List.mem_cons_of_mem _ there)

theorem hexadecimal_plain :
    ∀ digit : UInt8, (hexValue digit).isSome → digit ≠ jsonQuote ∧ digit ≠ jsonBackslash :=
  forall_byte (by decide +kernel)

/-- Within a string, bytes that neither end it nor escape are passed. -/
theorem scanOutside_inner (bytes : List UInt8)
    (plain : ∀ byte ∈ bytes, byte ≠ jsonQuote ∧ byte ≠ jsonBackslash) (rest : List UInt8) :
    scanOutside step depth true (bytes ++ rest) = scanOutside step depth true rest := by
  induction bytes with
  | nil => rfl
  | cons byte others ih =>
    have first := plain byte (List.mem_cons_self ..)
    rw [List.cons_append, scanOutside_within first.2, bne_iff_ne.mpr first.1]
    exact ih fun other there => plain other (List.mem_cons_of_mem _ there)

/-- A piece of a string is passed, and the string does not end with it. -/
theorem scanOutside_piece (piece : JsonPiece) (rest : List UInt8) :
    scanOutside step depth true (piece.written ++ rest) = scanOutside step depth true rest := by
  cases piece with
  | plain byte allowed =>
    refine scanOutside_inner [byte] (fun other there => ?_) rest
    rw [List.mem_singleton.mp there]
    exact allowed.2
  | escape letter meaning known =>
    -- The letter is skipped with the backslash, be it a quote or not.
    rw [JsonPiece.written, List.cons_append, List.cons_append, List.nil_append,
      scanOutside_escape]
  | unit digits four hexadecimal =>
    rw [JsonPiece.written, List.cons_append, List.cons_append, scanOutside_escape]
    exact scanOutside_inner digits
      (fun digit there => hexadecimal_plain digit (hexadecimal digit there)) rest

/-- A string is passed. -/
theorem scanOutside_quoted (pieces : List JsonPiece) (rest : List UInt8) :
    scanOutside step depth false (quotedPieces pieces ++ rest) =
      scanOutside step depth false rest := by
  -- Behind the first quote, the pieces are passed one by one.
  have inner : ∀ pieces : List JsonPiece, ∀ rest,
      scanOutside step depth true (writtenPieces pieces ++ rest) =
        scanOutside step depth true rest := by
    intro pieces
    induction pieces with
    | nil => exact fun rest => rfl
    | cons piece others ih =>
      intro rest
      rw [writtenPieces, List.flatMap_cons, List.append_assoc, scanOutside_piece]
      exact ih rest
  rw [quotedPieces, List.cons_append, List.append_assoc, scanOutside_outer, if_pos rfl, inner,
    List.cons_append, List.nil_append, scanOutside_within (by decide), bne_self_eq_false]

/-- Texts that are passed are passed with the commas between them. -/
theorem scanOutside_separated {texts : List (List UInt8)} (comma : step depth 44 = some depth)
    (passed : ∀ text ∈ texts, ∀ rest,
      scanOutside step depth false (text ++ rest) = scanOutside step depth false rest)
    (rest : List UInt8) :
    scanOutside step depth false (separated texts ++ rest) =
      scanOutside step depth false rest := by
  fun_induction separated texts with
  | case1 => rfl
  | case2 last => exact passed last (List.mem_singleton.mpr rfl) rest
  | case3 first second others ih =>
    rw [List.append_assoc, passed first (List.mem_cons_self ..), List.cons_append,
      scanOutside_cons (by decide) comma]
    exact ih fun text there => passed text (List.mem_cons_of_mem _ there)

/-- White space is passed. -/
theorem PassesValues.blank (passes : PassesValues step low) (deep : low ≤ depth)
    {blank : List UInt8} (isBlank : IsBlank blank) (rest : List UInt8) :
    scanOutside step depth false (blank ++ rest) = scanOutside step depth false rest := by
  have apart : ∀ byte ∈ ([9, 10, 13, 32] : List UInt8),
      byte ≠ jsonQuote ∧ byte ∉ ([34, 44, 91, 93, 123, 125] : List UInt8) :=
    forall_mem_of_all rfl
  refine scanOutside_plain (fun byte there => ?_) rest
  have here := apart byte (isBlank byte there)
  exact ⟨here.1, passes.plain depth deep byte here.2⟩

/-- What is passed at every depth is passed with brackets around it. -/
theorem PassesValues.bracketed (passes : PassesValues step low) (deep : low ≤ depth)
    (pair : UInt8 × UInt8) (known : pair ∈ ([(91, 93), (123, 125)] : List (UInt8 × UInt8)))
    {inner : List UInt8}
    (passed : ∀ depth, low ≤ depth → step depth 44 = some depth → ∀ rest,
      scanOutside step depth false (inner ++ rest) = scanOutside step depth false rest)
    (rest : List UInt8) :
    scanOutside step depth false (pair.1 :: (inner ++ [pair.2]) ++ rest) =
      scanOutside step depth false rest := by
  have apart : ∀ pair ∈ ([(91, 93), (123, 125)] : List (UInt8 × UInt8)),
      pair.1 ≠ jsonQuote ∧ pair.2 ≠ jsonQuote := by
    intro pair known
    simp only [List.mem_cons, List.not_mem_nil, or_false] at known
    -- Neither the square nor the curly brackets are quotes.
    obtain rfl | rfl := known <;> exact ⟨by decide, by decide⟩
  obtain ⟨level, deeper, opened, comma, closed⟩ := passes.nested depth deep pair known
  rw [List.cons_append, List.append_assoc, scanOutside_cons (apart pair known).1 opened,
    passed level deeper comma, List.cons_append, List.nil_append,
    scanOutside_cons (apart pair known).2 closed]

/-- An element is passed if its value is. -/
theorem PassesValues.element (passes : PassesValues step low) (deep : low ≤ depth)
    {element : JsonElement} (before : IsBlank element.before) (after : IsBlank element.after)
    (passed : ∀ rest, scanOutside step depth false (element.value ++ rest) =
      scanOutside step depth false rest) (rest : List UInt8) :
    scanOutside step depth false (element.written ++ rest) =
      scanOutside step depth false rest := by
  rw [JsonElement.written, List.append_assoc, List.append_assoc, passes.blank deep before, passed,
    passes.blank deep after]

/-- A member is passed if its value is. -/
theorem PassesValues.member (passes : PassesValues step low) (deep : low ≤ depth)
    {member : JsonMember} (before : IsBlank member.before) (afterName : IsBlank member.afterName)
    (passed : ∀ rest, scanOutside step depth false (member.element.written ++ rest) =
      scanOutside step depth false rest) (rest : List UInt8) :
    scanOutside step depth false (member.written ++ rest) = scanOutside step depth false rest := by
  rw [JsonMember.written, List.append_assoc, List.append_assoc, List.append_assoc,
    passes.blank deep before, scanOutside_quoted, passes.blank deep afterName, List.cons_append,
    scanOutside_cons (by decide) (passes.plain depth deep 58 (by decide)), passed]

/-- No digit is a quote, a bracket or a comma. -/
theorem digit_plain :
    ∀ byte : UInt8, 48 ≤ byte ∧ byte ≤ 57 →
      byte ∉ ([34, 44, 91, 93, 123, 125] : List UInt8) := by
  have plain : ∀ byte ∈ ([48, 49, 50, 51, 52, 53, 54, 55, 56, 57] : List UInt8),
      byte ∉ ([34, 44, 91, 93, 123, 125] : List UInt8) :=
    forall_mem_of_all rfl
  exact fun byte digit => plain byte (digit_listed byte digit)

/-- No byte of a number is a quote, a bracket or a comma. -/
theorem IsJsonNumber.plain {bytes : List UInt8} (number : IsJsonNumber bytes) :
    ∀ byte ∈ bytes, byte ∉ ([34, 44, 91, 93, 123, 125] : List UInt8) := by
  obtain ⟨sign, whole, fraction, exponent, signed, whole_digits, -, fractional, exponential⟩ :=
    number
  have marks : ∀ byte ∈ ([43, 45, 46, 69, 101] : List UInt8),
      byte ∉ ([34, 44, 91, 93, 123, 125] : List UInt8) :=
    forall_mem_of_all rfl
  intro byte there
  rcases List.mem_append.mp there with there | there
  · rcases List.mem_append.mp there with there | there
    · rcases List.mem_append.mp there with there | there
      · obtain rfl | rfl := signed
        · cases there
        · exact marks byte (by simp_all)
      · exact digit_plain byte (whole_digits.2 byte there)
    · obtain rfl | ⟨digits, isDigits, rfl⟩ := fractional
      · cases there
      · obtain rfl | there := List.mem_cons.mp there
        · exact marks _ (by decide)
        · exact digit_plain byte (isDigits.2 byte there)
  · obtain rfl | ⟨marker, sign, digits, isMarker, isSign, isDigits, rfl⟩ := exponential
    · cases there
    · obtain rfl | there := List.mem_cons.mp there
      · simp only [List.mem_cons, List.not_mem_nil, or_false] at isMarker
        obtain rfl | rfl := isMarker
        · exact marks _ (by decide)
        · exact marks _ (by decide)
      · rcases List.mem_append.mp there with there | there
        · simp only [List.mem_cons, List.not_mem_nil, or_false] at isSign
          obtain rfl | rfl | rfl := isSign
          · cases there
          · exact marks byte (by simp_all)
          · exact marks byte (by simp_all)
        · exact digit_plain byte (isDigits.2 byte there)

/-- What stands between the brackets of an array is passed if its values are. -/
theorem PassesValues.elements (passes : PassesValues step low) (deep : low ≤ depth)
    (comma : step depth 44 = some depth) {elements : List JsonElement}
    (blanks : ∀ element ∈ elements, IsBlank element.before ∧ IsBlank element.after)
    (passed : ∀ element ∈ elements, ∀ rest,
      scanOutside step depth false (element.value ++ rest) = scanOutside step depth false rest)
    (rest : List UInt8) :
    scanOutside step depth false (separated (elements.map JsonElement.written) ++ rest) =
      scanOutside step depth false rest := by
  refine scanOutside_separated comma (fun bytes there => ?_) rest
  obtain ⟨element, among, rfl⟩ := List.mem_map.mp there
  exact passes.element deep (blanks element among).1 (blanks element among).2
    (passed element among)

/-- What stands between the brackets of an object is passed if its values are. -/
theorem PassesValues.members (passes : PassesValues step low) (deep : low ≤ depth)
    (comma : step depth 44 = some depth) {members : List JsonMember}
    (blanks : ∀ member ∈ members, IsBlank member.before ∧ IsBlank member.afterName ∧
      IsBlank member.element.before ∧ IsBlank member.element.after)
    (passed : ∀ member ∈ members, ∀ rest,
      scanOutside step depth false (member.element.value ++ rest) =
        scanOutside step depth false rest)
    (rest : List UInt8) :
    scanOutside step depth false (separated (members.map JsonMember.written) ++ rest) =
      scanOutside step depth false rest := by
  refine scanOutside_separated comma (fun bytes there => ?_) rest
  obtain ⟨member, among, rfl⟩ := List.mem_map.mp there
  obtain ⟨before, afterName, beforeValue, after⟩ := blanks member among
  exact passes.member deep before afterName
    (passes.element deep beforeValue after (passed member among))

/-- A value is passed as a whole, whatever it holds. -/
theorem PassesValues.value (passes : PassesValues step low) {value : List UInt8}
    (isValue : IsJsonValue value) :
    ∀ depth, low ≤ depth → ∀ rest,
      scanOutside step depth false (value ++ rest) = scanOutside step depth false rest := by
  induction isValue with
  | word known =>
    intro depth deep rest
    have listed : ∀ word ∈ jsonWords, (word.all fun byte =>
        byte ∉ ([34, 44, 91, 93, 123, 125] : List UInt8)) = true := by
      decide
    have plain : ∀ word ∈ jsonWords, ∀ byte ∈ word,
        byte ∉ ([34, 44, 91, 93, 123, 125] : List UInt8) :=
      fun word known => forall_mem_of_all (listed word known)
    refine scanOutside_plain (fun byte there => ?_) rest
    have here := plain _ known byte there
    exact ⟨fun quote => here (by simp [quote, jsonQuote]), passes.plain depth deep byte here⟩
  | number number =>
    intro depth deep rest
    refine scanOutside_plain (fun byte there => ?_) rest
    have here := number.plain byte there
    exact ⟨fun quote => here (by simp [quote, jsonQuote]), passes.plain depth deep byte here⟩
  | string pieces => exact fun depth deep rest => scanOutside_quoted pieces rest
  | emptyArray blank isBlank =>
    intro depth deep rest
    exact passes.bracketed deep (91, 93) (by decide)
      (fun depth deep _ rest => passes.blank deep isBlank rest) rest
  | array elements blanks values ih =>
    intro depth deep rest
    exact passes.bracketed deep (91, 93) (by decide)
      (fun depth deep comma rest => passes.elements deep comma blanks
        (fun element among => ih element among depth deep) rest) rest
  | emptyObject blank isBlank =>
    intro depth deep rest
    exact passes.bracketed deep (123, 125) (by decide)
      (fun depth deep _ rest => passes.blank deep isBlank rest) rest
  | object members blanks values ih =>
    intro depth deep rest
    exact passes.bracketed deep (123, 125) (by decide)
      (fun depth deep comma rest => passes.members deep comma blanks
        (fun member among => ih member among depth deep) rest) rest

/-- An array is a pair of brackets around what is passed. -/
theorem IsJsonArray.split {value : List UInt8} (isArray : IsJsonArray value) :
    ∃ inner, value = 91 :: (inner ++ [93]) ∧
      ∀ (step : Int → UInt8 → Option Int) (low depth : Int), PassesValues step low →
        low ≤ depth → step depth 44 = some depth → ∀ rest,
          scanOutside step depth false (inner ++ rest) = scanOutside step depth false rest := by
  obtain ⟨blank, isBlank, rfl⟩ | ⟨elements, blanks, values, rfl⟩ := isArray
  · exact ⟨blank, rfl, fun step low depth passes deep _ => passes.blank deep isBlank⟩
  · exact ⟨separated (elements.map JsonElement.written), rfl,
      fun step low depth passes deep comma => passes.elements deep comma blanks
        fun element among => passes.value (values element among) depth deep⟩

end Scanners

section FirstBytes

/-- The bytes that a value may begin with. -/
def jsonFirstBytes : List UInt8 :=
  [34, 45, 48, 49, 50, 51, 52, 53, 54, 55, 56, 57, 91, 102, 110, 116, 123]

/-- A digit may begin a value. -/
theorem digit_first :
    ∀ byte : UInt8, 48 ≤ byte ∧ byte ≤ 57 →
      byte ∈ jsonFirstBytes ∧ byte ∉ ([91, 123] : List UInt8) := by
  have first : ∀ byte ∈ ([48, 49, 50, 51, 52, 53, 54, 55, 56, 57] : List UInt8),
      byte ∈ jsonFirstBytes ∧ byte ∉ ([91, 123] : List UInt8) :=
    forall_mem_of_all rfl
  exact fun byte digit => first byte (digit_listed byte digit)

/-- A number begins with its sign or with a digit. -/
theorem IsJsonNumber.first {bytes : List UInt8} (number : IsJsonNumber bytes) :
    ∃ first rest, bytes = first :: rest ∧ first ∈ jsonFirstBytes ∧
      first ∉ ([91, 123] : List UInt8) := by
  obtain ⟨sign, whole, fraction, exponent, signed, whole_digits, -, -, -⟩ := number
  obtain rfl | rfl := signed
  · obtain ⟨some_digit, digits⟩ := whole_digits
    cases whole with
    | nil => exact absurd rfl some_digit
    | cons digit others =>
      exact ⟨digit, _, rfl, digit_first digit (digits digit (List.mem_cons_self ..))⟩
  · exact ⟨45, _, rfl, by decide, by decide⟩

/-- A value has a first byte. -/
theorem IsJsonValue.first {value : List UInt8} (isValue : IsJsonValue value) :
    ∃ first rest, value = first :: rest ∧ first ∈ jsonFirstBytes := by
  cases isValue with
  | word known =>
    have begun : ∀ word ∈ jsonWords, ∃ first ∈ jsonFirstBytes, word.head? = some first := by
      decide
    obtain ⟨first, isFirst, head⟩ := begun value known
    obtain ⟨rest, rfl⟩ := List.head?_eq_some_iff.mp head
    exact ⟨first, rest, rfl, isFirst⟩
  | number number =>
    obtain ⟨first, rest, rfl, isFirst, -⟩ := number.first
    exact ⟨first, rest, rfl, isFirst⟩
  | string pieces => exact ⟨34, _, rfl, by decide⟩
  | emptyArray blank isBlank => exact ⟨91, _, rfl, by decide⟩
  | array elements blanks values => exact ⟨91, _, rfl, by decide⟩
  | emptyObject blank isBlank => exact ⟨123, _, rfl, by decide⟩
  | object members blanks values => exact ⟨123, _, rfl, by decide⟩

/-- A value that begins with a bracket is an array. -/
theorem IsJsonValue.array_iff {value : List UInt8} (isValue : IsJsonValue value) :
    value.head? = some 91 ↔ IsJsonArray value := by
  constructor
  · intro begins
    cases isValue with
    | word known =>
      have begun : ∀ word ∈ jsonWords, word.head? ≠ some 91 := by decide
      exact absurd begins (begun value known)
    | number number =>
      obtain ⟨first, rest, rfl, -, other⟩ := number.first
      exact absurd (by simp [Option.some.inj begins]) other
    | string pieces => exact absurd begins (by simp [quotedPieces, jsonQuote])
    | emptyArray blank isBlank => exact .inl ⟨blank, isBlank, rfl⟩
    | array elements blanks values => exact .inr ⟨elements, blanks, values, rfl⟩
    | emptyObject blank isBlank => exact absurd begins (by simp)
    | object members blanks values => exact absurd begins (by simp [writtenObject])
  · intro isArray
    obtain ⟨inner, rfl, -⟩ := isArray.split
    rfl

end FirstBytes

end C64Stream
