import C64Stream.Automation.Songlengths

/-! What the lines of a song length file say, and that looking a song up tells it. -/

namespace C64Stream

section Said

/-- A line with a key, and with something that stands for its duration. -/
def LineHas (line name token : Text) : Prop :=
  ∃ indent gap before rest : Text,
    cString line = indent ++ name ++ gap ++ 61 :: (before ++ token ++ rest) ∧
    (∀ byte ∈ indent ++ gap ++ before, isSpace byte) ∧
    name.length = 32 ∧ (∀ byte ∈ name, isXdigit byte) ∧
    token ≠ [] ∧ (∀ byte ∈ token, ¬isSpace byte) ∧ ∀ byte ∈ rest.head?, isSpace byte

/-- A text that starts with a duration: digits for the minutes, a colon, one or two digits for the
seconds, and up to three digits behind a point. -/
def HasDuration (value minutes seconds fraction : Text) : Prop :=
  ∃ rest, value = minutes ++ 58 :: (seconds ++ rest) ∧ minutes ≠ [] ∧
    (∀ byte ∈ minutes ++ seconds, isDigit byte) ∧
    (seconds.length = 2 ∨ seconds.length = 1 ∧ ∀ byte ∈ rest.head?, ¬isDigit byte) ∧
    fraction = fractionDigits rest

/-- The seconds of a duration: the fraction is a decimal one, and the result is at least one. -/
def durationSeconds (double : DoubleRounding) (minutes seconds fraction : Text) : ℚ :=
  max 1 (double.round ((60 * decimalNumber minutes + decimalNumber seconds : Nat) +
    double.round (decimalNumber fraction / 10 ^ fraction.length)))

/-- A line that gives the song of a key a duration, in the first 63 bytes behind the key. -/
def LineGives (double : DoubleRounding) (line key : Text) (length : ℚ) : Prop :=
  ∃ name token minutes seconds fraction, LineHas line name token ∧ name.map toLower = key ∧
    HasDuration (token.take 63) minutes seconds fraction ∧
    length = durationSeconds double minutes seconds fraction

/-- A line whose minutes fit their 32 bits. -/
def MinutesFit (line : Text) : Prop :=
  ∀ name token minutes seconds fraction, LineHas line name token →
    HasDuration (token.take 63) minutes seconds fraction → decimalNumber minutes < 2 ^ 31

end Said

section Bytes

variable {p : UInt8 → Bool} {line : Text}

theorem isXdigit_plain : ∀ byte, isXdigit byte →
    ¬isSpace byte ∧ byte ≠ 61 ∧ byte ≠ 59 ∧ byte ≠ 91 :=
  forall_byte (by decide +kernel)

theorem dropWhile_front {front rest : Text} (all : ∀ byte ∈ front, p byte)
    (stays : ∀ byte ∈ rest.head?, ¬p byte) : (front ++ rest).dropWhile p = rest := by
  rw [List.dropWhile_append_of_pos all]
  cases rest with
  | nil => rfl
  | cons byte rest => exact List.dropWhile_cons_of_neg (stays byte rfl)

theorem takeWhile_front {front rest : Text} (all : ∀ byte ∈ front, p byte)
    (stays : ∀ byte ∈ rest.head?, ¬p byte) : (front ++ rest).takeWhile p = front := by
  rw [List.takeWhile_append_of_pos all]
  cases rest with
  | nil => simp
  | cons byte rest => rw [List.takeWhile_cons_of_neg (stays byte rfl), List.append_nil]

theorem head_dropWhile : ∀ byte ∈ (line.dropWhile p).head?, ¬p byte := by
  intro byte first
  have := List.head?_dropWhile_not p line
  rw [Option.mem_def.mp first] at this
  simpa using this

theorem mem_takeWhile : ∀ byte ∈ line.takeWhile p, p byte :=
  fun _ among => List.mem_takeWhile_imp among

theorem trimEnd_split (line : Text) :
    ∃ gap, line = trimEnd line ++ gap ∧ ∀ byte ∈ gap, isSpace byte := by
  refine ⟨line.rtakeWhile isSpace, List.rdropWhile_append_rtakeWhile.symm, ?_⟩
  exact fun byte among => List.mem_rtakeWhile_imp among

theorem trimEnd_gap {gap : Text} (solid : ∀ byte ∈ line, ¬isSpace byte)
    (blank : ∀ byte ∈ gap, isSpace byte) : trimEnd (line ++ gap) = line := by
  -- The induction takes the white space away from its end.
  induction gap using List.reverseRecOn with
  | nil =>
    rw [List.append_nil]
    exact trimEnd_of_solid fun byte among => by simpa using solid byte among
  | append_singleton gap byte ih =>
    rw [← List.append_assoc, trimEnd_append_of_space _ (blank byte (by simp))]
    exact ih fun other among => blank other (by simp [among])

end Bytes

section Parts

variable {line name token : Text}

theorem lineHas_of_parts (parts : songlengthParts line = some (name, token)) :
    LineHas line name token := by
  unfold songlengthParts at parts
  simp only at parts
  split at parts
  · cases parts
  · rename_i mark others begins
    split at parts
    · cases parts
    · split at parts
      · cases parts
      · rename_i equals value behind
        -- The cursor is cut at the equals sign, and both sides of it are trimmed.
        set cursor := (cString line).dropWhile isSpace
        set left := cursor.takeWhile (· != 61)
        have isEquals : equals = 61 := by
          have := @head_dropWhile (· != 61) cursor equals (by rw [behind]; rfl)
          simpa using this
        have cut : cursor = left ++ 61 :: value := by
          rw [← isEquals, ← behind]
          exact List.takeWhile_append_dropWhile.symm
        split_ifs at parts with wrong other empty
        obtain ⟨rfl, rfl⟩ := Prod.mk.inj (Option.some.inj parts)
        obtain ⟨gap, trimmed, gapBlank⟩ := trimEnd_split (left.dropWhile isSpace)
        refine ⟨(cString line).takeWhile isSpace ++ left.takeWhile isSpace, gap,
          value.takeWhile isSpace, (value.dropWhile isSpace).dropWhile fun byte => !isSpace byte,
          ?_, ?_, by simpa using wrong, by simpa using other, ?_, ?_, ?_⟩
        · calc cString line = (cString line).takeWhile isSpace ++ cursor :=
                List.takeWhile_append_dropWhile.symm
            _ = (cString line).takeWhile isSpace ++ (left ++ 61 :: value) := by
                rw [← cut]
            _ = (cString line).takeWhile isSpace ++
                  (left.takeWhile isSpace ++ left.dropWhile isSpace ++ 61 :: value) := by
                rw [List.takeWhile_append_dropWhile]
            _ = _ := by
                conv_lhs => rw [trimmed]
                rw [List.append_assoc (value.takeWhile isSpace),
                  List.takeWhile_append_dropWhile, List.takeWhile_append_dropWhile]
                simp only [List.append_assoc]
        · intro byte among
          simp only [List.mem_append] at among
          obtain ((first | second) | third) | fourth := among
          · exact mem_takeWhile byte first
          · exact mem_takeWhile byte second
          · exact gapBlank byte third
          · exact mem_takeWhile byte fourth
        · cases rest : value.dropWhile isSpace with
          | nil => exact absurd rest empty
          | cons byte rest' =>
            have := @head_dropWhile isSpace value byte (by rw [rest]; rfl)
            rw [List.takeWhile_cons_of_pos (by simpa using this)]
            exact List.cons_ne_nil _ _
        · exact fun byte among => by simpa using mem_takeWhile byte among
        · intro byte among
          simpa using head_dropWhile byte among

theorem parts_of_lineHas (has : LineHas line name token) :
    songlengthParts line = some (name, token) := by
  obtain ⟨indent, gap, before, rest, whole, blank, long, digits, some, solid, ended⟩ := has
  have blankIndent : ∀ byte ∈ indent, isSpace byte := fun byte among => blank byte (by simp [among])
  have blankGap : ∀ byte ∈ gap, isSpace byte := fun byte among => blank byte (by simp [among])
  have blankBefore : ∀ byte ∈ before, isSpace byte :=
    fun byte among => blank byte (by simp [among])
  obtain ⟨first, name, rfl⟩ : ∃ first rest, name = first :: rest := by
    cases name with
    | nil => cases long
    | cons first rest => exact ⟨first, rest, rfl⟩
  have firstPlain := isXdigit_plain first (digits first List.mem_cons_self)
  -- The blanks in front are dropped, and the name goes up to the equals sign.
  have cursor : (cString line).dropWhile isSpace =
      first :: (name ++ gap ++ 61 :: (before ++ token ++ rest)) := by
    rw [whole, show indent ++ first :: name ++ gap ++ 61 :: (before ++ token ++ rest) =
      indent ++ (first :: (name ++ gap ++ 61 :: (before ++ token ++ rest))) by simp]
    refine dropWhile_front blankIndent fun byte among => ?_
    obtain rfl := Option.some.inj among
    exact firstPlain.1
  have untilEquals : ∀ byte ∈ first :: (name ++ gap), (byte != 61) = true := by
    intro byte among
    rw [← List.cons_append, List.mem_append] at among
    rw [bne_iff_ne]
    obtain digit | blank := among
    · exact (isXdigit_plain byte (digits byte digit)).2.1
    · rintro rfl
      exact absurd (blankGap 61 blank) (by decide)
  have atEquals : ∀ byte ∈ (61 :: (before ++ token ++ rest)).head?, ¬(byte != 61) = true := by
    intro byte among
    obtain rfl := Option.some.inj among
    decide
  have left : (first :: (name ++ gap ++ 61 :: (before ++ token ++ rest))).takeWhile (· != 61) =
      first :: name ++ gap := takeWhile_front untilEquals atEquals
  have right : (first :: (name ++ gap ++ 61 :: (before ++ token ++ rest))).dropWhile (· != 61) =
      61 :: (before ++ token ++ rest) := dropWhile_front untilEquals atEquals
  have key : trimEnd ((first :: name ++ gap).dropWhile isSpace) = first :: name := by
    rw [List.cons_append, List.dropWhile_cons_of_neg firstPlain.1, ← List.cons_append]
    exact trimEnd_gap (fun byte among => (isXdigit_plain byte (digits byte among)).1) blankGap
  have value : (before ++ token ++ rest).dropWhile isSpace = token ++ rest := by
    rw [List.append_assoc]
    refine dropWhile_front blankBefore fun byte among => ?_
    cases token with
    | nil => exact absurd rfl some
    | cons byte' token =>
      obtain rfl := Option.some.inj among
      exact solid byte' List.mem_cons_self
  have word : (token ++ rest).takeWhile (fun byte => !isSpace byte) = token :=
    takeWhile_front (fun byte among => by simpa using solid byte among)
      fun byte among => by simpa using ended byte among
  rw [songlengthParts, cursor]
  simp only [left, right, key, value, word]
  rw [if_neg (not_or.mpr firstPlain.2.2), if_neg (not_not.mpr long),
    if_neg (not_not.mpr (List.all_eq_true.mpr digits)),
    if_neg (fun empty => some (List.append_eq_nil_iff.mp empty).1)]

theorem songlengthParts_eq_some_iff :
    songlengthParts line = some (name, token) ↔ LineHas line name token :=
  ⟨lineHas_of_parts, parts_of_lineHas⟩

end Parts

section Durations

theorem splitSeconds_spec {first : UInt8} (digit : isDigit first) (behind : Text) :
    first :: behind = (splitSeconds first behind).1 ++ (splitSeconds first behind).2 ∧
      (∀ byte ∈ (splitSeconds first behind).1, isDigit byte) ∧
      ((splitSeconds first behind).1.length = 2 ∨ (splitSeconds first behind).1.length = 1 ∧
        ∀ byte ∈ (splitSeconds first behind).2.head?, ¬isDigit byte) := by
  cases behind with
  | nil => simp [splitSeconds, digit]
  | cons second rest =>
    by_cases two : isDigit second
    · simp [splitSeconds, digit, two]
    · simp [splitSeconds, digit, two]

theorem splitSeconds_eq {first : UInt8} {seconds rest : Text}
    (digits : ∀ byte ∈ first :: seconds, isDigit byte)
    (ended : (first :: seconds).length = 2 ∨
      (first :: seconds).length = 1 ∧ ∀ byte ∈ rest.head?, ¬isDigit byte) :
    splitSeconds first (seconds ++ rest) = (first :: seconds, rest) := by
  obtain two | ⟨one, other⟩ := ended
  · obtain ⟨second, rfl⟩ := List.length_eq_one_iff.mp (Nat.succ.inj two)
    rw [List.singleton_append, splitSeconds, if_pos (digits second (by simp))]
  · obtain rfl := List.length_eq_zero_iff.mp (Nat.succ.inj one)
    cases rest with
    | nil => rfl
    | cons byte rest => rw [List.nil_append, splitSeconds, if_neg (other byte rfl)]

theorem durationParts_eq_some_iff {value minutes seconds fraction : Text}
    (solid : ∀ byte ∈ value.head?, ¬isSpace byte) :
    durationParts value = some (minutes, seconds, fraction) ↔
      HasDuration value minutes seconds fraction := by
  have front : value.dropWhile isSpace = value := by
    simpa using @dropWhile_front isSpace [] value (by simp) solid
  simp only [durationParts, front]
  constructor
  · intro parts
    split_ifs at parts with none
    split at parts
    · rename_i first rest behind
      split_ifs at parts with digit
      obtain ⟨rfl, same⟩ := Prod.mk.inj (Option.some.inj parts)
      obtain ⟨rfl, rfl⟩ := Prod.mk.inj same
      obtain ⟨whole, digits, ended⟩ := splitSeconds_spec digit rest
      refine ⟨(splitSeconds first rest).2, ?_, none, ?_, ended, rfl⟩
      · rw [← whole, ← behind, List.takeWhile_append_dropWhile]
      · intro byte among
        obtain left | right := List.mem_append.mp among
        · exact mem_takeWhile byte left
        · exact digits byte right
    · cases parts
  · rintro ⟨rest, rfl, some, digits, ended, rfl⟩
    have first : ∀ byte ∈ minutes, isDigit byte := fun byte among => digits byte (by simp [among])
    have colon : ∀ byte ∈ (58 :: (seconds ++ rest)).head?, ¬isDigit byte := by
      intro byte among
      obtain rfl := Option.some.inj among
      decide
    obtain ⟨digit, seconds, rfl⟩ : ∃ digit others, seconds = digit :: others := by
      cases seconds with
      | nil => simp at ended
      | cons digit others => exact ⟨digit, others, rfl⟩
    rw [takeWhile_front first colon, if_neg some, dropWhile_front first colon, List.cons_append]
    simp only [if_pos (digits digit (by simp)),
      splitSeconds_eq (fun byte among => digits byte (by simp [among])) ended]

theorem readMinutes_eq (digits : Text) :
    readMinutes digits = Int32.ofNat (decimalNumber digits) := by
  have general : ∀ (digits : Text) (number : Nat),
      digits.foldl (fun minutes digit => minutes * 10 + Int32.ofNat (digit.toNat - 48))
          (Int32.ofNat number) =
        Int32.ofNat
          (digits.foldl (fun number digit => 10 * number + (digit.toNat - 48)) number) := by
    intro digits
    induction digits with
    | nil => exact fun _ => rfl
    | cons digit digits ih =>
      intro number
      rw [List.foldl_cons, List.foldl_cons, ← ih, Int32.ofNat_add, Int32.ofNat_mul, Int32.mul_comm]
      rfl
  exact general digits 0

theorem fractionDigits_length (rest : Text) : (fractionDigits rest).length ≤ 3 := by
  unfold fractionDigits
  split
  · exact List.length_take_le 3 _
  · exact Nat.zero_le 3

theorem decimalNumber_small {digits : Text} (short : digits.length ≤ 2)
    (all : ∀ byte ∈ digits, isDigit byte) : decimalNumber digits < 100 := by
  have digit : ∀ byte ∈ digits, byte.toNat - 48 ≤ 9 := by
    intro byte among
    have := all byte among
    simp only [isDigit, Bool.and_eq_true, decide_eq_true_eq, UInt8.le_iff_toNat_le] at this
    have nine : byte.toNat ≤ 57 := this.2
    omega
  match digits with
  | [] => decide
  | [first] =>
    have := digit first (by simp)
    simp only [decimalNumber, List.foldl_cons, List.foldl_nil]
    omega
  | [first, second] =>
    have := digit first (by simp)
    have := digit second (by simp)
    simp only [decimalNumber, List.foldl_cons, List.foldl_nil]
    omega
  | _ :: _ :: _ :: _ => simp at short

theorem totalSeconds_eq (double : DoubleRounding) {minutes seconds fraction : Text}
    (fits : decimalNumber minutes < 2 ^ 31) (small : decimalNumber seconds < 100)
    (short : fraction.length ≤ 3) :
    totalSeconds double (decimalNumber minutes : Int) (decimalNumber seconds)
      (readMillis fraction) = durationSeconds double minutes seconds fraction := by
  -- The whole seconds are doubles, so nothing of them is rounded.
  have minutesStay : double.round (((decimalNumber minutes : Int) : ℚ) * 60) =
      ((60 * decimalNumber minutes : Nat) : ℚ) := by
    have := double.whole (60 * decimalNumber minutes : Nat) (by rw [Nat.abs_cast]; omega)
    rw [Int.cast_natCast] at this
    rw [← this, Int.cast_natCast]
    push_cast
    ring_nf
  have wholeStays :
      double.round (((60 * decimalNumber minutes : Nat) : ℚ) + decimalNumber seconds) =
        ((60 * decimalNumber minutes + decimalNumber seconds : Nat) : ℚ) := by
    have := double.whole (60 * decimalNumber minutes + decimalNumber seconds : Nat)
      (by rw [Nat.abs_cast]; omega)
    rw [Int.cast_natCast] at this
    rw [← Nat.cast_add, this]
  have millis : ((readMillis fraction : Nat) : ℚ) / 1000 =
      decimalNumber fraction / 10 ^ fraction.length := by
    have thousand : (1000 : ℚ) = 10 ^ fraction.length * 10 ^ (3 - fraction.length) := by
      rw [← pow_add, Nat.add_sub_cancel' short]
      norm_num
    rw [readMillis, Nat.cast_mul, thousand, Nat.cast_pow, Nat.cast_ofNat]
    exact mul_div_mul_right _ _ (pow_ne_zero _ (by norm_num))
  rw [totalSeconds, minutesStay, wholeStays, millis, durationSeconds]
  split_ifs with below
  · exact (max_eq_left below.le).symm
  · exact (max_eq_right (not_lt.mp below)).symm

theorem parseSonglengthValue_eq_some_iff {double : DoubleRounding} {value : Text}
    (solid : ∀ byte ∈ value.head?, ¬isSpace byte)
    (fit : ∀ minutes seconds fraction, HasDuration value minutes seconds fraction →
      decimalNumber minutes < 2 ^ 31) {length : ℚ} :
    parseSonglengthValue double value = some length ↔
      ∃ minutes seconds fraction, HasDuration value minutes seconds fraction ∧
        length = durationSeconds double minutes seconds fraction := by
  -- Where the parts are those of a duration, the minutes are not negative.
  have result : ∀ {minutes seconds fraction}, HasDuration value minutes seconds fraction →
      parseSonglengthValue double value =
        some (durationSeconds double minutes seconds fraction) := by
    intro minutes seconds fraction duration
    have fits := fit _ _ _ duration
    have toInt : (readMinutes minutes).toInt = decimalNumber minutes := by
      rw [readMinutes_eq, Int32.toInt_ofNat_of_lt fits]
    have notNegative : ¬readMinutes minutes < 0 := by
      rw [Int32.lt_iff_toInt_lt, toInt]
      exact not_lt.mpr (Int.natCast_nonneg _)
    simp only [parseSonglengthValue, (durationParts_eq_some_iff solid).mpr duration,
      Option.bind_eq_bind, Option.bind_some, if_neg notNegative, toInt]
    obtain ⟨rest, _, _, digits, ended, rfl⟩ := duration
    rw [totalSeconds_eq double fits (decimalNumber_small (by omega) fun byte among =>
      digits byte (List.mem_append_right _ among)) (fractionDigits_length rest)]
  constructor
  · intro parsed
    cases parts : durationParts value with
    | none => simp [parseSonglengthValue, parts] at parsed
    | some found =>
      obtain ⟨minutes, seconds, fraction⟩ := found
      have duration := (durationParts_eq_some_iff solid).mp parts
      rw [result duration] at parsed
      exact ⟨minutes, seconds, fraction, duration, (Option.some.inj parsed).symm⟩
  · rintro ⟨minutes, seconds, fraction, duration, rfl⟩
    exact result duration

end Durations

section Files

variable {line path : Text} {enough : Nat → Bool} {lines : List Text} {db : SonglengthDb}

theorem strcmpKey_injective : Function.Injective strcmpKey :=
  List.map_injective_iff.mpr fun _ _ same => UInt8.toNat_inj.mp same

variable {double : DoubleRounding}

theorem cString_newline (line : Text) :
    cString (line ++ [10]) = cString line ∨ cString (line ++ [10]) = cString line ++ [10] := by
  rw [cString, cString, List.takeWhile_append]
  split
  · rename_i whole
    right
    rw [List.IsPrefix.eq_of_length (List.takeWhile_prefix _) whole]
    rfl
  · exact .inl rfl

theorem lineHas_newline {name token : Text} :
    LineHas (line ++ [10]) name token ↔ LineHas line name token := by
  obtain same | longer := cString_newline line
  · simp only [LineHas, same]
  · rw [LineHas, LineHas, longer]
    constructor
    · rintro ⟨indent, gap, before, rest, whole, blank, long, digits, some, solid, ended⟩
      -- What follows the token ends in the line break, since the token has no white space.
      have lastOf : rest ≠ [] := by
        rintro rfl
        have last := congrArg List.getLast? whole
        rw [List.append_nil, ← List.cons_append, ← List.append_assoc,
          List.getLast?_append_of_ne_nil _ some, List.getLast?_concat] at last
        exact solid 10 (List.mem_of_getLast? last.symm) (by decide)
      obtain ⟨front, byte, rfl⟩ := (List.eq_nil_or_concat rest).resolve_left lastOf
      rw [List.concat_eq_append, ← List.append_assoc (before ++ token), ← List.cons_append,
        ← List.append_assoc _ _ [byte]] at whole
      refine ⟨indent, gap, before, front, (List.append_inj_left' whole rfl), blank, long, digits,
        some, solid, fun first among => ended first ?_⟩
      cases front with
      | nil => cases among
      | cons => exact among
    · rintro ⟨indent, gap, before, rest, whole, blank, long, digits, some, solid, ended⟩
      refine ⟨indent, gap, before, rest ++ [10], by simp [whole], blank, long, digits, some, solid,
        fun first among => ?_⟩
      cases rest with
      | nil =>
        obtain rfl := Option.some.inj among
        decide
      | cons => exact ended first among

theorem songlengthLine_newline (line : Text) :
    songlengthLine double (line ++ [10]) = songlengthLine double line := by
  have parts : songlengthParts (line ++ [10]) = songlengthParts line := by
    ext ⟨name, token⟩
    exact songlengthParts_eq_some_iff.trans
      (lineHas_newline.trans songlengthParts_eq_some_iff.symm)
  rw [songlengthLine, songlengthLine, parts]

theorem songlengthLine_eq_some_iff {entry : SonglengthEntry} :
    songlengthLine double line = some entry ↔
      ∃ name token, LineHas line name token ∧ name.map toLower = entry.md5 ∧
        parseSonglengthValue double (token.take 63) = some entry.seconds := by
  have whole : ∀ {name token}, LineHas line name token →
      copyField 33 (name.map toLower) = name.map toLower := by
    rintro name token ⟨_, _, _, _, _, _, long, _⟩
    exact List.take_of_length_le (by rw [List.length_map, long])
  simp only [songlengthLine, Option.bind_eq_bind, Option.bind_eq_some_iff, Option.pure_def,
    Option.some.injEq, Prod.exists, songlengthParts_eq_some_iff]
  constructor
  · rintro ⟨name, token, has, length, parsed, rfl⟩
    exact ⟨name, token, has, (whole has).symm, parsed⟩
  · rintro ⟨name, token, has, key, parsed⟩
    exact ⟨name, token, has, entry.seconds, parsed, by rw [whole has, key]⟩

theorem songlengthLine_gives (fit : MinutesFit line) {entry : SonglengthEntry} :
    songlengthLine double line = some entry ↔ LineGives double line entry.md5 entry.seconds := by
  have solid : ∀ {name token}, LineHas line name token →
      ∀ byte ∈ (token.take 63).head?, ¬isSpace byte := by
    rintro name token ⟨_, _, _, _, _, _, _, _, _, solid, _⟩ byte among
    exact solid byte (List.mem_of_mem_take (List.mem_of_mem_head? among))
  rw [songlengthLine_eq_some_iff]
  constructor
  · rintro ⟨name, token, has, key, parsed⟩
    obtain ⟨minutes, seconds, fraction, duration, same⟩ :=
      (parseSonglengthValue_eq_some_iff (solid has) fun _ _ _ => fit _ _ _ _ _ has).mp parsed
    exact ⟨name, token, minutes, seconds, fraction, has, key, duration, same⟩
  · rintro ⟨name, token, minutes, seconds, fraction, has, key, duration, same⟩
    exact ⟨name, token, has, key,
      (parseSonglengthValue_eq_some_iff (solid has) fun _ _ _ => fit _ _ _ _ _ has).mpr
        ⟨minutes, seconds, fraction, duration, same⟩⟩

theorem songlengthEntries_some {capacity : Nat} {before entries : List SonglengthEntry}
    (done : songlengthEntries double enough capacity before lines = some entries) :
    entries = before ++ lines.filterMap (songlengthLine double) := by
  induction lines generalizing capacity before with
  | nil =>
    rw [List.filterMap_nil, List.append_nil]
    exact (Option.some.inj done).symm
  | cons line lines ih =>
    rw [songlengthEntries] at done
    split at done
    · rename_i blank
      rw [List.filterMap_cons_none blank]
      exact ih done
    · rename_i entry said
      rw [List.filterMap_cons_some said, List.append_cons before entry]
      by_cases full : before.length = capacity
      · simp only [if_pos full] at done
        by_cases room : enough (if capacity = 0 then 1024 else capacity * 2)
        · rw [if_pos room] at done
          exact ih done
        · rw [if_neg room] at done
          cases done
      · rw [if_neg full] at done
        exact ih done

theorem songlengthEntries_enough (all : ∀ n, enough n) (lines : List Text) (capacity : Nat)
    (before : List SonglengthEntry) :
    songlengthEntries double enough capacity before lines =
      some (before ++ lines.filterMap (songlengthLine double)) := by
  induction lines generalizing capacity before with
  | nil => rw [List.filterMap_nil, List.append_nil, songlengthEntries]
  | cons line lines ih =>
    rw [songlengthEntries]
    split
    · rename_i blank
      rw [ih, List.filterMap_cons_none blank]
    · rename_i entry said
      rw [List.filterMap_cons_some said, List.append_cons before entry (lines.filterMap _)]
      split
      · simp only [all, if_true]
        exact ih _ _
      · exact ih _ _

theorem filterMap_bufferedLines_line (single : 10 ∉ line) (fits : line.length < 1024)
    (rest : Text) :
    (bufferedLines 1024 (line ++ 10 :: rest)).filterMap (songlengthLine double) =
      [line].filterMap (songlengthLine double) ++
        (bufferedLines 1024 rest).filterMap (songlengthLine double) := by
  by_cases room : line.length + 1 < 1024
  · rw [bufferedLines_line single room, List.filterMap_cons, List.filterMap_cons,
      songlengthLine_newline]
    cases songlengthLine double line <;> rfl
  · -- The line break of a line that fills the buffer is read as a line of its own.
    have full : line.length = 1023 := by omega
    have behind : bufferedLines 1024 (line ++ 10 :: rest) =
        line :: [10] :: bufferedLines 1024 rest := by
      rw [bufferedLines_full single (by omega) (by rintro rfl; cases full)]
      exact congrArg (line :: ·) (@bufferedLines_line 1024 [] (by simp) (by simp) rest)
    rw [behind, List.filterMap_cons, List.filterMap_cons, List.filterMap_cons,
      show songlengthLine double [10] = none from rfl]
    cases songlengthLine double line <;> rfl

theorem filterMap_bufferedLines (short : ∀ line ∈ lines, 10 ∉ line ∧ line.length < 1024) :
    (bufferedLines 1024 ([10].intercalate lines)).filterMap (songlengthLine double) =
      lines.filterMap (songlengthLine double) := by
  induction lines with
  | nil => rfl
  | cons line lines ih =>
    obtain ⟨single, fits⟩ := short line List.mem_cons_self
    cases lines with
    | nil =>
      rw [List.intercalate_singleton]
      by_cases room : line.length + 1 < 1024
      · rw [bufferedLines_last single room]
        split
        · rename_i empty
          rw [empty]
          rfl
        · rfl
      · have full : line.length = 1023 := by omega
        have := @bufferedLines_full 1024 line single (by omega) (by rintro rfl; cases full) []
        rw [List.append_nil] at this
        rw [this]
        rfl
    | cons next lines =>
      rw [List.intercalate_cons_cons, List.append_assoc, List.singleton_append,
        filterMap_bufferedLines_line single fits,
        ih fun line among => short line (List.mem_cons_of_mem _ among), ← List.filterMap_append]
      rfl

theorem load_loaded {sorting : SortFunction SonglengthEntry.key} {content : Text}
    (loaded : (c64HvscSonglengthDbLoad double sorting enough db path (some content)).2 = true) :
    (c64HvscSonglengthDbLoad double sorting enough db path (some content)).1 =
      { loaded := true, sourcePath := copyField c64AutomationPathMax path,
        entries := sorting.sort
          ((bufferedLines 1024 content).filterMap (songlengthLine double)) } := by
  rw [c64HvscSonglengthDbLoad] at loaded ⊢
  split_ifs at loaded ⊢ with noPath
  cases read : songlengthEntries double enough 0 [] (bufferedLines 1024 content) with
  | none =>
    rw [read] at loaded
    cases loaded
  | some entries =>
    simp only [read] at loaded ⊢
    split_ifs at loaded ⊢ with none
    rw [songlengthEntries_some read]
    rfl

theorem load_failed {sorting : SortFunction SonglengthEntry.key} {file : Option Text}
    (failed : (c64HvscSonglengthDbLoad double sorting enough db path file).2 = false) :
    (c64HvscSonglengthDbLoad double sorting enough db path file).1 = db := by
  unfold c64HvscSonglengthDbLoad at failed ⊢
  split_ifs at failed ⊢ with noPath
  · rfl
  · cases file with
    | none => rfl
    | some content =>
      dsimp only at failed ⊢
      cases read : songlengthEntries double enough 0 [] (bufferedLines 1024 content) with
      | none => rfl
      | some entries =>
        simp only [read] at failed ⊢
        split_ifs at failed ⊢ with none
        rfl

theorem load_enough {sorting : SortFunction SonglengthEntry.key} (all : ∀ n, enough n)
    {content : Text} (named : path ≠ [])
    (some : (bufferedLines 1024 content).filterMap (songlengthLine double) ≠ []) :
    (c64HvscSonglengthDbLoad double sorting enough db path (.some content)).2 = true := by
  rw [c64HvscSonglengthDbLoad, if_neg named]
  simp only [songlengthEntries_enough all, List.nil_append, if_neg some]

theorem entryKeys_nodup
    (distinct : lines.Pairwise fun first second => ∀ name token name' token',
      LineHas first name token → LineHas second name' token' →
        name.map toLower ≠ name'.map toLower) :
    ((lines.filterMap (songlengthLine double)).map SonglengthEntry.key).Nodup := by
  rw [List.Nodup, List.pairwise_map]
  refine List.Pairwise.filterMap _ (fun first second different entry said other saidToo same => ?_)
    distinct
  obtain ⟨name, token, has, key, _⟩ := songlengthLine_eq_some_iff.mp said
  obtain ⟨name', token', has', key', _⟩ := songlengthLine_eq_some_iff.mp saidToo
  exact different _ _ _ _ has has' (by rw [key, key', strcmpKey_injective same])

end Files

section Lookup

variable (double : DoubleRounding) (sorting : SortFunction SonglengthEntry.key)
  (enough : Nat → Bool) (db : SonglengthDb) (path : Text)

/-- A load that fails changes no answer. With enough memory, a file with a line that gives a song a
duration is loaded. Behind a load, the length of a song is what the line of its key gives. -/
theorem songlengths_exact (lines : List Text)
    (short : ∀ line ∈ lines, 10 ∉ line ∧ line.length < 1024)
    (distinct : lines.Pairwise fun first second => ∀ name token name' token',
      LineHas first name token → LineHas second name' token' →
        name.map toLower ≠ name'.map toLower) :
    (∀ file, (c64HvscSonglengthDbLoad double sorting enough db path file).2 = false →
      ∀ key, c64HvscSonglengthDbLookup
        (c64HvscSonglengthDbLoad double sorting enough db path file).1 key =
          c64HvscSonglengthDbLookup db key) ∧
    let loaded := c64HvscSonglengthDbLoad double sorting enough db path
      (some ([10].intercalate lines))
    ((∀ n, enough n) → path ≠ [] →
      (∃ line ∈ lines, MinutesFit line ∧ ∃ key length, LineGives double line key length) →
        loaded.2 = true) ∧
    (loaded.2 = true → ∀ key,
      (∀ line ∈ lines, ∀ name token, LineHas line name token → name.map toLower = key.take 32 →
        MinutesFit line) →
      ∀ length, c64HvscSonglengthDbLookup loaded.1 key = some length ↔
        ∃ line ∈ lines, LineGives double line (key.take 32) length) := by
  refine ⟨fun file failed key => by rw [load_failed failed], ?_, ?_⟩
  · rintro all named ⟨line, among, fit, key, length, gives⟩
    refine load_enough all named ?_
    rw [filterMap_bufferedLines short]
    exact List.ne_nil_of_mem (List.mem_filterMap.mpr
      ⟨line, among, (@songlengthLine_gives _ _ fit ⟨key, length⟩).mpr gives⟩)
  · intro loaded key fit length
    rw [load_loaded loaded, c64HvscSonglengthDbLookup, if_pos rfl, filterMap_bufferedLines short]
    simp only [Option.map_eq_some_iff, bsearch_sort sorting (entryKeys_nodup distinct),
      List.mem_filterMap]
    constructor
    · rintro ⟨entry, ⟨⟨line, among, said⟩, sameKey⟩, rfl⟩
      have md5 : entry.md5 = key.take 32 := strcmpKey_injective sameKey
      obtain ⟨name, token, has, named, _⟩ := songlengthLine_eq_some_iff.mp said
      have fits := fit line among name token has (named.trans md5)
      exact ⟨line, among, md5 ▸ (songlengthLine_gives fits).mp said⟩
    · rintro ⟨line, among, gives⟩
      obtain ⟨name, token, _, _, _, has, named, _⟩ := id gives
      have fits := fit line among name token has named
      exact ⟨⟨key.take 32, length⟩,
        ⟨⟨line, among, (songlengthLine_gives fits).mpr gives⟩, rfl⟩, rfl⟩

end Lookup

section Examples

theorem minutesFit_of_parts {line name token minutes seconds fraction : Text}
    (parts : songlengthParts line = some (name, token))
    (duration : durationParts (token.take 63) = some (minutes, seconds, fraction))
    (small : decimalNumber minutes < 2 ^ 31) : MinutesFit line := by
  intro name' token' minutes' seconds' fraction' has duration'
  have same := songlengthParts_eq_some_iff.mpr has
  rw [parts] at same
  obtain ⟨rfl, rfl⟩ := Prod.mk.inj (Option.some.inj same)
  have solid : ∀ byte ∈ (token.take 63).head?, ¬isSpace byte := by
    obtain ⟨_, _, _, _, _, _, _, _, _, solid, _⟩ := has
    exact fun byte among => solid byte (List.mem_of_mem_take (List.mem_of_mem_head? among))
  have sameDuration := (durationParts_eq_some_iff solid).mpr duration'
  rw [duration] at sameDuration
  obtain ⟨rfl, _⟩ := Prod.mk.inj (Option.some.inj sameDuration)
  exact small

/-- Doubles that hold every number. -/
def unrounded : DoubleRounding where
  round := id
  whole _ _ := rfl

/-- A key in small letters. -/
def songKey : Text :=
  text "0123456789abcdef0123456789abcdef"

/-- A line with the key in capital letters that gives two songs a duration. -/
def songLine : Text :=
  text "0123456789ABCDEF0123456789ABCDEF=3:05.5 0:02"

/-- A line with another key. -/
def otherLine : Text :=
  text "fedcba9876543210fedcba9876543210=0:00"

theorem songLine_parts : songlengthParts songLine =
    some (text "0123456789ABCDEF0123456789ABCDEF", text "3:05.5") := by
  decide

theorem otherLine_parts : songlengthParts otherLine =
    some (text "fedcba9876543210fedcba9876543210", text "0:00") := by
  decide

/-- The first duration of a line is found by its key. -/
theorem songLine_lookedUp :
    c64HvscSonglengthDbLookup
      (c64HvscSonglengthDbLoad unrounded (.insertion _) (fun _ => true) {} (text "Songlengths.md5")
        (some ([10].intercalate [songLine, otherLine]))).1 songKey = some (371 / 2) := by
  have short : ∀ line ∈ [songLine, otherLine], 10 ∉ line ∧ line.length < 1024 := by
    decide
  have distinct : [songLine, otherLine].Pairwise fun first second => ∀ name token name' token',
      LineHas first name token → LineHas second name' token' →
        name.map toLower ≠ name'.map toLower := by
    refine List.pairwise_pair.mpr fun name token name' token' has has' => ?_
    have parts := songlengthParts_eq_some_iff.mpr has
    have parts' := songlengthParts_eq_some_iff.mpr has'
    rw [songLine_parts] at parts
    rw [otherLine_parts] at parts'
    obtain ⟨rfl, _⟩ := Prod.mk.inj (Option.some.inj parts)
    obtain ⟨rfl, _⟩ := Prod.mk.inj (Option.some.inj parts')
    decide
  have duration :
      durationParts ((text "3:05.5").take 63) = some (text "3", text "05", text "5") := by
    decide
  have fit : MinutesFit songLine := minutesFit_of_parts songLine_parts duration (by decide)
  have fitOther : MinutesFit otherLine :=
    @minutesFit_of_parts _ _ _ (text "0") (text "00") [] otherLine_parts (by decide)
      (by decide)
  have front : ∀ byte ∈ ((text "3:05.5").take 63).head?, ¬isSpace byte := by
    intro byte first
    obtain rfl := Option.some.inj (first : some 51 = some byte)
    decide
  have gives : LineGives unrounded songLine (songKey.take 32) (371 / 2) := by
    refine ⟨_, _, _, _, _, songlengthParts_eq_some_iff.mp songLine_parts, by decide,
      (durationParts_eq_some_iff front).mp duration, ?_⟩
    decide +kernel
  obtain ⟨_, loads, looksUp⟩ := songlengths_exact unrounded (.insertion _) (fun _ => true) {}
    (text "Songlengths.md5") [songLine, otherLine] short distinct
  have loaded := loads (fun _ => rfl) (by decide) ⟨songLine, by simp, fit, _, _, gives⟩
  refine (looksUp loaded songKey (fun line among _ _ _ _ => ?_) _).mpr ⟨songLine, by simp, gives⟩
  obtain rfl | rfl := List.mem_pair.mp among
  · exact fit
  · exact fitOther

/-- A duration with one digit for its seconds is found, too. -/
theorem singleDigit_lookedUp :
    LineHas (songKey ++ text "=3:5") songKey (text "3:5") ∧
    (∀ minutes seconds rest : Text, minutes ≠ [] → seconds.length = 2 →
      text "3:5" ≠ minutes ++ 58 :: (seconds ++ rest)) ∧
    c64HvscSonglengthDbLookup
      (c64HvscSonglengthDbLoad unrounded (.insertion _) (fun _ => true) {} (text "Songlengths.md5")
        (some ([10].intercalate [songKey ++ text "=3:5"]))).1 songKey = some 185 := by
  refine ⟨songlengthParts_eq_some_iff.mp (by decide), ?_, by decide +kernel⟩
  intro minutes seconds rest some two same
  -- A minute, a colon and two seconds are four bytes.
  have length := congrArg List.length same
  have three : (text "3:5").length = 3 := by decide
  have := List.length_pos_iff.mpr some
  rw [three, List.length_append, List.length_cons, List.length_append, two] at length
  omega

end Examples

end C64Stream
