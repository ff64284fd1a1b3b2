import C64Stream.Script.Value

/-! String literals: how the tokenizer finds their end, and what the parser makes of them. -/

namespace C64Stream

section Tokenizer

def quote : UInt8 := 34

def escapeByte : UInt8 := 92

def newlineByte : UInt8 := 10

/-- The types of the tokens that scanning a string gives. -/
inductive TokenType where
  | string
  | error
  deriving DecidableEq

/-- A token, with the bytes that it covers; those of an error are its message. -/
structure ScriptToken where
  type : TokenType
  line : Nat
  column : Int
  lexeme : Text
  deriving DecidableEq

/-- The state of the tokenizer. -/
structure Tokenizer where
  source : Text
  pos : Nat
  line : Nat
  column : Int
  lineStartPos : Nat
  errorMsg : Text
  deriving DecidableEq

/-- The next byte, zero at the end of the source. -/
def Tokenizer.peek (t : Tokenizer) : UInt8 :=
  t.source.getD t.pos 0

/-- Go past the next byte, if there is one. -/
def Tokenizer.advance (t : Tokenizer) : Tokenizer :=
  if t.source.length ≤ t.pos then t
  else if t.peek = newlineByte then
    { t with pos := t.pos + 1, line := t.line + 1, column := 1, lineStartPos := t.pos + 1 }
  else { t with pos := t.pos + 1, column := t.column + 1 }

/-- A token over some bytes of the source. -/
def makeToken (t : Tokenizer) (type : TokenType) (start length : Nat) : ScriptToken :=
  { type
    line := t.line
    column := t.column - length
    lexeme := (t.source.drop start).take length }

/-- An error at the place that the tokenizer has reached. -/
def errorToken (t : Tokenizer) (message : Text) : ScriptToken × Tokenizer :=
  ({ type := .error, line := t.line, column := t.column, lexeme := message },
    { t with
      errorMsg := (text "Line " ++ decimal t.line ++ text ": " ++ message).take 1023 })

/-- The loop that looks for the end of a string; each turn goes past a byte. -/
def scanString (start : Nat) : Nat → Tokenizer → Nat → ScriptToken × Tokenizer
  | 0, t, _ => errorToken t (text "Unterminated string literal")
  | turns + 1, t, length =>
    let c := t.peek
    if c = 0 ∨ c = newlineByte then errorToken t (text "Unterminated string literal")
    else
      let t := t.advance
      let length := length + 1
      if c = quote then
        -- A doubled quote belongs to the string, a single one ends it.
        if t.peek = quote then scanString start turns t.advance (length + 1)
        else (makeToken t .string start length, t)
      else if c = escapeByte then
        let next := t.peek
        if next = 0 ∨ next = newlineByte then
          errorToken t (text "Unterminated escape sequence")
        else scanString start turns t.advance (length + 1)
      else scanString start turns t length

/-- Scan a string whose opening quote is the next byte. -/
def tokenizeString (t : Tokenizer) : ScriptToken × Tokenizer :=
  scanString t.pos (t.source.length + 1) t.advance 1

end Tokenizer

section Decoding

/-- The value of a hexadecimal digit. -/
def hexDigit (c : UInt8) : Option UInt8 :=
  if 48 ≤ c ∧ c ≤ 57 then some (c - 48)
  else if 65 ≤ toUpper c ∧ toUpper c ≤ 70 then some (toUpper c - 55)
  else none

/-- The bytes that the inside of a string literal stands for. -/
def decodeBytes : Text → Except Text Text
  | [] => .ok []
  | c :: rest =>
    if c = quote then
      match rest with
      | [] => .ok [c]
      | second :: rest' =>
        if second = quote then (decodeBytes rest').map (quote :: ·)
        else (decodeBytes (second :: rest')).map (c :: ·)
    else if c ≠ escapeByte then (decodeBytes rest).map (c :: ·)
    else
      match rest with
      | [] => .error (text "Unterminated escape sequence")
      | escape :: rest =>
        -- The letters are those of backslash, quote, r, n, t and x.
        if escape = 92 then (decodeBytes rest).map (92 :: ·)
        else if escape = 34 then (decodeBytes rest).map (34 :: ·)
        else if escape = 114 then (decodeBytes rest).map (13 :: ·)
        else if escape = 110 then (decodeBytes rest).map (10 :: ·)
        else if escape = 116 then (decodeBytes rest).map (9 :: ·)
        else if escape = 120 then
          match rest with
          | high :: low :: rest =>
            match hexDigit high, hexDigit low with
            | some h, some l => (decodeBytes rest).map (((h <<< 4) ||| l) :: ·)
            | _, _ => .error (text "Invalid hex escape (expected \\xNN)")
          | _ => .error (text "Invalid hex escape (expected \\xNN)")
        else .error (text "Unknown escape sequence")

/-- The string that a token stands for. -/
def decodeStringLiteral (token : ScriptToken) : Except Text Text :=
  if token.type ≠ .string ∨ token.lexeme.length < 2 then .error (text "Invalid string literal")
  else decodeBytes ((token.lexeme.drop 1).take (token.lexeme.length - 2))

end Decoding

section Pieces

/-- A byte that does not end the line. -/
def InLine (c : UInt8) : Prop :=
  c ≠ 0 ∧ c ≠ newlineByte

instance (c : UInt8) : Decidable (InLine c) := inferInstanceAs (Decidable (_ ∧ _))

/-- What the inside of a string is made of, as far as its end is concerned. -/
inductive Piece where
  | byte (c : UInt8) (inLine : InLine c) (plain : c ≠ quote ∧ c ≠ escapeByte)
  | quotes
  | escape (c : UInt8) (inLine : InLine c)

/-- The bytes of a piece. -/
def Piece.text (piece : Piece) : Text :=
  match piece with
  | .byte c _ _ => [c]
  | .quotes => [quote, quote]
  | .escape c _ => [escapeByte, c]

/-- The bytes of some pieces, one behind the other. -/
def piecesText (pieces : List Piece) : Text :=
  pieces.flatMap Piece.text

variable {t : Tokenizer} {c : UInt8} {rest : Text}

/-- Go on within a line. -/
def Tokenizer.skip (t : Tokenizer) (count : Nat) : Tokenizer :=
  { t with pos := t.pos + count, column := t.column + count }

/-- The bytes ahead. -/
def Tokenizer.ahead (t : Tokenizer) : Text :=
  t.source.drop t.pos

theorem Tokenizer.peek_of_ahead (ahead : t.ahead = c :: rest) : t.peek = c := by
  have found : t.source[t.pos]? = some c := by
    rw [← List.head?_drop, show t.source.drop t.pos = c :: rest from ahead]
    rfl
  rw [Tokenizer.peek, List.getD_eq_getElem?_getD, found, Option.getD_some]

theorem Tokenizer.peek_of_end (ahead : t.ahead = []) : t.peek = 0 := by
  have past : t.source.length ≤ t.pos := List.drop_eq_nil_iff.mp ahead
  rw [Tokenizer.peek, List.getD_eq_getElem?_getD, List.getElem?_eq_none past, Option.getD_none]

theorem Tokenizer.ahead_skip (t : Tokenizer) (count : Nat) :
    (t.skip count).ahead = t.ahead.drop count := by
  rw [Tokenizer.ahead, Tokenizer.ahead, List.drop_drop]
  rfl

theorem Tokenizer.skip_skip (t : Tokenizer) (first second : Nat) :
    (t.skip first).skip second = t.skip (first + second) := by
  simp only [Tokenizer.skip, Nat.add_assoc, Nat.cast_add, Int.add_assoc]

theorem Tokenizer.skip_zero (t : Tokenizer) : t.skip 0 = t := by
  simp [Tokenizer.skip]

theorem Tokenizer.advance_of_ahead (ahead : t.ahead = c :: rest) (inLine : c ≠ newlineByte) :
    t.advance = t.skip 1 ∧ (t.skip 1).ahead = rest := by
  have inside : ¬ t.source.length ≤ t.pos := by
    intro past
    rw [Tokenizer.ahead, List.drop_eq_nil_iff.mpr past] at ahead
    cases ahead
  refine ⟨?_, by rw [t.ahead_skip, ahead]; rfl⟩
  rw [Tokenizer.advance, if_neg inside, if_neg (by rwa [peek_of_ahead ahead])]
  rfl

theorem scanString_piece (start turns length : Nat) (piece : Piece)
    (ahead : t.ahead = piece.text ++ rest) :
    scanString start (turns + 1) t length =
      scanString start turns (t.skip piece.text.length) (length + piece.text.length) := by
  -- Each kind of piece takes its own branch of the loop.
  cases piece with
  | byte c inLine plain =>
    obtain ⟨advance, _⟩ := Tokenizer.advance_of_ahead ahead inLine.2
    rw [scanString, Tokenizer.peek_of_ahead ahead, if_neg (not_or.mpr inLine), advance,
      if_neg plain.1, if_neg plain.2]
    rfl
  | quotes =>
    obtain ⟨advance, next⟩ := Tokenizer.advance_of_ahead ahead (by decide)
    obtain ⟨second, _⟩ := Tokenizer.advance_of_ahead next (by decide)
    rw [scanString, Tokenizer.peek_of_ahead ahead, if_neg (by decide), advance, if_pos rfl,
      Tokenizer.peek_of_ahead next, if_pos rfl, second, Tokenizer.skip_skip]
    rfl
  | escape c inLine =>
    obtain ⟨advance, next⟩ := Tokenizer.advance_of_ahead ahead (by decide)
    obtain ⟨second, _⟩ := Tokenizer.advance_of_ahead next inLine.2
    rw [scanString, Tokenizer.peek_of_ahead ahead, if_neg (by decide), advance,
      if_neg (by decide), if_pos rfl, Tokenizer.peek_of_ahead next, if_neg (not_or.mpr inLine),
      second, Tokenizer.skip_skip]
    rfl

theorem scanString_pieces (start turns length : Nat) (pieces : List Piece)
    (ahead : t.ahead = piecesText pieces ++ rest) :
    scanString start (turns + pieces.length) t length =
      scanString start turns (t.skip (piecesText pieces).length)
        (length + (piecesText pieces).length) := by
  induction pieces generalizing t length with
  | nil =>
    show scanString start turns t length = scanString start turns (t.skip 0) length
    rw [t.skip_zero]
  | cons piece pieces ih =>
    have split : piecesText (piece :: pieces) = piece.text ++ piecesText pieces := rfl
    rw [split, List.append_assoc] at ahead
    have left : (t.skip piece.text.length).ahead = piecesText pieces ++ rest := by
      rw [t.ahead_skip, ahead, List.drop_left]
    rw [List.length_cons, ← Nat.add_assoc, scanString_piece start _ length piece ahead,
      ih _ left, Tokenizer.skip_skip, split, List.length_append, Nat.add_assoc]

theorem pieces_length_le (pieces : List Piece) : pieces.length ≤ (piecesText pieces).length := by
  induction pieces with
  | nil => exact Nat.le_refl 0
  | cons piece pieces ih =>
    have some : 1 ≤ piece.text.length := by
      cases piece <;> exact Nat.succ_le_succ (Nat.zero_le _)
    have split : piecesText (piece :: pieces) = piece.text ++ piecesText pieces := rfl
    rw [split, List.length_cons, List.length_append]
    omega

theorem scanString_close (start turns length : Nat) (ahead : t.ahead = quote :: rest)
    (single : rest.head? ≠ some quote) :
    scanString start (turns + 1) t length =
      (makeToken (t.skip 1) .string start (length + 1), t.skip 1) := by
  obtain ⟨advance, next⟩ := Tokenizer.advance_of_ahead ahead (by decide)
  have behind : (t.skip 1).peek ≠ quote := by
    cases rest with
    | nil =>
      rw [Tokenizer.peek_of_end next]
      decide
    | cons c rest =>
      rw [Tokenizer.peek_of_ahead next]
      rintro rfl
      exact single rfl
  rw [scanString, Tokenizer.peek_of_ahead ahead, if_neg (by decide), advance, if_pos rfl,
    if_neg behind]

/-- What is ahead does not belong to the line any more. -/
def LineEnds (ahead : Text) : Prop :=
  ∀ c ∈ ahead.head?, ¬ InLine c

theorem LineEnds.peek (ends : LineEnds t.ahead) : t.peek = 0 ∨ t.peek = newlineByte := by
  cases ahead : t.ahead with
  | nil => exact .inl (Tokenizer.peek_of_end ahead)
  | cons c rest =>
    rw [ahead] at ends
    rw [Tokenizer.peek_of_ahead ahead]
    by_contra inLine
    exact ends c rfl (not_or.mp inLine)

theorem scanString_end (start turns length : Nat) (ends : LineEnds t.ahead) :
    scanString start (turns + 1) t length =
      errorToken t (text "Unterminated string literal") := by
  rw [scanString, if_pos ends.peek]

theorem scanString_escapeEnd (start turns length : Nat) (ahead : t.ahead = escapeByte :: rest)
    (ends : LineEnds rest) :
    scanString start (turns + 1) t length =
      errorToken (t.skip 1) (text "Unterminated escape sequence") := by
  obtain ⟨advance, next⟩ := Tokenizer.advance_of_ahead ahead (by decide)
  rw [← next] at ends
  rw [scanString, Tokenizer.peek_of_ahead ahead, if_neg (by decide), advance, if_neg (by decide),
    if_pos rfl, if_pos ends.peek]

theorem line_pieces (line : Text) (inLine : ∀ c ∈ line, InLine c) :
    ∃ pieces tail, line = piecesText pieces ++ tail ∧
      (tail = [] ∨ tail = [escapeByte] ∨
        ∃ after, tail = quote :: after ∧ after.head? ≠ some quote) := by
  -- The induction is on the length, since a piece may take two bytes.
  induction size : line.length using Nat.strong_induction_on generalizing line with
  | _ size ih =>
    -- Once the first piece is known, the rest of the line is cut up the same way.
    have grow : ∀ (piece : Piece) (rest : Text), line = piece.text ++ rest →
        rest.length < line.length → ∃ pieces tail, line = piecesText pieces ++ tail ∧
          (tail = [] ∨ tail = [escapeByte] ∨
            ∃ after, tail = quote :: after ∧ after.head? ≠ some quote) := by
      intro piece rest split shorter
      have members : ∀ c ∈ rest, InLine c := by
        intro c member
        exact inLine c (by rw [split]; exact List.mem_append_right _ member)
      obtain ⟨pieces, tail, same, kind⟩ := ih rest.length (size ▸ shorter) rest members rfl
      refine ⟨piece :: pieces, tail, ?_, kind⟩
      rw [split, same, ← List.append_assoc]
      rfl
    cases line with
    | nil => exact ⟨[], [], rfl, .inl rfl⟩
    | cons c rest =>
      have here := inLine c List.mem_cons_self
      by_cases quoted : c = quote
      · subst quoted
        cases rest with
        | nil => exact ⟨[], [quote], rfl, .inr (.inr ⟨[], rfl, by simp⟩)⟩
        | cons second rest =>
          by_cases doubled : second = quote
          · subst doubled
            exact grow .quotes rest rfl (by simp)
          · exact ⟨[], quote :: second :: rest, rfl,
              .inr (.inr ⟨second :: rest, rfl, by simpa using doubled⟩)⟩
      by_cases escaped : c = escapeByte
      · subst escaped
        cases rest with
        | nil => exact ⟨[], [escapeByte], rfl, .inr (.inl rfl)⟩
        | cons second rest =>
          have inside := inLine second (List.mem_cons_of_mem _ List.mem_cons_self)
          exact grow (.escape second inside) rest rfl (by simp)
      · exact grow (.byte c here ⟨quoted, escaped⟩) rest rfl (by simp)

end Pieces

section Spellings

/-- The ways to spell a byte inside a string. -/
inductive Spelling where
  | plain (c : UInt8) (inLine : InLine c) (plain : c ≠ quote ∧ c ≠ escapeByte)
  | doubledQuote
  | escapedQuote
  | escapedBackslash
  | carriageReturn
  | newline
  | tab
  | hex (high low : UInt8) (h l : UInt8) (digits : hexDigit high = some h ∧ hexDigit low = some l)
      (nonzero : (h <<< 4) ||| l ≠ 0)

/-- The byte that is spelled. -/
def Spelling.byte (spelling : Spelling) : UInt8 :=
  match spelling with
  | .plain c _ _ => c
  | .doubledQuote | .escapedQuote => 34
  | .escapedBackslash => 92
  | .carriageReturn => 13
  | .newline => 10
  | .tab => 9
  | .hex _ _ h l _ _ => (h <<< 4) ||| l

/-- How it is spelled. -/
def Spelling.text (spelling : Spelling) : Text :=
  match spelling with
  | .plain c _ _ => [c]
  | .doubledQuote => [34, 34]
  | .escapedQuote => [92, 34]
  | .escapedBackslash => [92, 92]
  | .carriageReturn => [92, 114]
  | .newline => [92, 110]
  | .tab => [92, 116]
  | .hex high low _ _ _ _ => [92, 120, high, low]

/-- Some spellings, one behind the other. -/
def spelled (spellings : List Spelling) : Text :=
  spellings.flatMap Spelling.text

theorem hexDigit_plain {c value : UInt8} (digit : hexDigit c = some value) :
    InLine c ∧ c ≠ quote ∧ c ≠ escapeByte := by
  unfold InLine
  refine ⟨⟨?_, ?_⟩, ?_, ?_⟩ <;>
  · rintro rfl
    exact absurd digit nofun

theorem Spelling.pieces (spelling : Spelling) : ∃ pieces, piecesText pieces = spelling.text := by
  cases spelling with
  | plain c inLine plain => exact ⟨[.byte c inLine plain], rfl⟩
  | doubledQuote => exact ⟨[.quotes], rfl⟩
  | escapedQuote => exact ⟨[.escape 34 (by decide)], rfl⟩
  | escapedBackslash => exact ⟨[.escape 92 (by decide)], rfl⟩
  | carriageReturn => exact ⟨[.escape 114 (by decide)], rfl⟩
  | newline => exact ⟨[.escape 110 (by decide)], rfl⟩
  | tab => exact ⟨[.escape 116 (by decide)], rfl⟩
  | hex high low h l digits _ =>
    have first := hexDigit_plain digits.1
    have second := hexDigit_plain digits.2
    exact ⟨[.escape 120 (by decide), .byte high first.1 first.2, .byte low second.1 second.2], rfl⟩

theorem spelled_pieces (spellings : List Spelling) :
    ∃ pieces, piecesText pieces = spelled spellings := by
  induction spellings with
  | nil => exact ⟨[], rfl⟩
  | cons spelling spellings ih =>
    obtain ⟨first, same⟩ := spelling.pieces
    obtain ⟨rest, others⟩ := ih
    refine ⟨first ++ rest, ?_⟩
    rw [piecesText, List.flatMap_append]
    exact congrArg₂ (· ++ ·) same others

theorem decodeBytes_spelling (spelling : Spelling) (rest : Text) :
    decodeBytes (spelling.text ++ rest) = (decodeBytes rest).map (spelling.byte :: ·) := by
  cases spelling with
  | plain c inLine plain =>
    show decodeBytes (c :: rest) = _
    rw [decodeBytes.eq_def]
    show (if c = quote then _ else _) = _
    rw [if_neg plain.1, if_pos plain.2]
    rfl
  | hex high low h l digits _ =>
    show decodeBytes (92 :: 120 :: high :: low :: rest) = _
    rw [decodeBytes.eq_def]
    show (match hexDigit high, hexDigit low with | some h, some l => _ | _, _ => _) = _
    rw [digits.1, digits.2]
    rfl
  | _ =>
    rw [decodeBytes.eq_def]
    rfl

theorem decodeBytes_spelled (spellings : List Spelling) :
    decodeBytes (spelled spellings) = .ok (spellings.map Spelling.byte) := by
  induction spellings with
  | nil => exact decodeBytes.eq_def []
  | cons spelling spellings ih =>
    show decodeBytes (spelling.text ++ spelled spellings) = _
    rw [decodeBytes_spelling, ih]
    rfl

end Spellings

section Literals

variable {t : Tokenizer} {rest : Text}

theorem tokenizeString_pieces (pieces : List Piece)
    (ahead : t.ahead = quote :: (piecesText pieces ++ rest)) :
    ∃ turns, tokenizeString t =
        scanString t.pos (turns + 1) (t.skip (1 + (piecesText pieces).length))
          (1 + (piecesText pieces).length) ∧
      (t.skip (1 + (piecesText pieces).length)).ahead = rest := by
  obtain ⟨advance, inside⟩ := Tokenizer.advance_of_ahead ahead (by decide)
  -- The source has a byte for every piece, and so a turn for every piece.
  have bytes : t.ahead.length ≤ t.source.length := by
    rw [Tokenizer.ahead, List.length_drop]
    exact Nat.sub_le _ _
  have enough : pieces.length ≤ t.source.length := by
    have few := pieces_length_le pieces
    rw [ahead, List.length_cons, List.length_append] at bytes
    omega
  refine ⟨t.source.length - pieces.length, ?_, ?_⟩
  · have turns : t.source.length + 1 = t.source.length - pieces.length + 1 + pieces.length := by
      omega
    rw [tokenizeString, advance, turns, scanString_pieces _ _ _ pieces inside, t.skip_skip]
  · rw [← t.skip_skip, Tokenizer.ahead_skip, inside, List.drop_left]

theorem tokenizeString_literal (pieces : List Piece)
    (ahead : t.ahead = quote :: (piecesText pieces ++ quote :: rest))
    (single : rest.head? ≠ some quote) :
    ∃ token, tokenizeString t = (token, t.skip token.lexeme.length) ∧ token.type = .string ∧
      token.lexeme = quote :: (piecesText pieces ++ [quote]) := by
  obtain ⟨turns, scanned, behind⟩ := tokenizeString_pieces pieces ahead
  rw [scanString_close _ _ _ behind single, Tokenizer.skip_skip] at scanned
  have lexeme : (t.source.drop t.pos).take (1 + (piecesText pieces).length + 1) =
      quote :: (piecesText pieces ++ [quote]) := by
    rw [show t.source.drop t.pos = _ from ahead, Nat.add_right_comm, Nat.add_comm,
      List.take_succ_cons, List.take_append]
    simp
  have long : 1 + (piecesText pieces).length + 1 =
      (quote :: (piecesText pieces ++ [quote])).length := by
    rw [List.length_cons, List.length_append, List.length_singleton, Nat.add_comm 1]
  refine ⟨makeToken (t.skip (1 + (piecesText pieces).length + 1)) .string t.pos
    (1 + (piecesText pieces).length + 1), ?_, rfl, lexeme⟩
  rw [scanned]
  exact congrArg₂ Prod.mk rfl (congrArg t.skip (long.trans (congrArg List.length lexeme).symm))

/-- The line has no quote that closes a string opened in front of it. -/
def Unclosed (line : Text) : Prop :=
  ∀ pieces after, line = piecesText pieces ++ quote :: after → after.head? = some quote

theorem tokenizeString_unclosed (line : Text)
    (ahead : t.ahead = quote :: (line ++ rest)) (inLine : ∀ c ∈ line, InLine c)
    (ends : LineEnds rest) (unclosed : Unclosed line) :
    (tokenizeString t).1.type = .error ∧ (tokenizeString t).2.ahead = rest := by
  obtain ⟨pieces, tail, rfl, kind⟩ := line_pieces line inLine
  rw [List.append_assoc] at ahead
  obtain ⟨turns, scanned, behind⟩ := tokenizeString_pieces pieces ahead
  rcases kind with rfl | rfl | ⟨after, rfl, single⟩
  · -- The pieces fill the line.
    rw [List.nil_append] at behind
    rw [← behind] at ends
    rw [scanned, scanString_end _ _ _ ends]
    exact ⟨rfl, behind⟩
  · -- A backslash is left over.
    rw [scanned, scanString_escapeEnd _ _ _ behind ends]
    refine ⟨rfl, ?_⟩
    rw [errorToken]
    show (Tokenizer.skip _ 1).ahead = rest
    rw [Tokenizer.ahead_skip, behind]
    rfl
  · -- A quote that is left over would close the string.
    exact absurd (unclosed pieces after rfl) single

/-- Scanning and decoding a literal inverts its spelling, and an unclosed one is an error. -/
theorem stringLiterals_invert :
    (∀ (t : Tokenizer) (spellings : List Spelling) (after : Text),
      t.ahead = quote :: (spelled spellings ++ quote :: after) → after.head? ≠ some quote →
        ∃ token, tokenizeString t = (token, t.skip token.lexeme.length) ∧ token.type = .string ∧
          token.lexeme = quote :: (spelled spellings ++ [quote]) ∧
          decodeStringLiteral token = .ok (spellings.map Spelling.byte)) ∧
    ∀ (t : Tokenizer) (line stop : Text), t.ahead = quote :: (line ++ stop) →
      (∀ c ∈ line, InLine c) → LineEnds stop → Unclosed line →
        (tokenizeString t).1.type = .error ∧ (tokenizeString t).2.ahead = stop := by
  constructor
  · intro t spellings after ahead single
    obtain ⟨pieces, same⟩ := spelled_pieces spellings
    rw [← same] at ahead ⊢
    obtain ⟨token, scanned, kind, lexeme⟩ := tokenizeString_literal pieces ahead single
    refine ⟨token, scanned, kind, lexeme, ?_⟩
    -- What is between the quotes is what was spelled.
    have inside : (token.lexeme.drop 1).take (token.lexeme.length - 2) = spelled spellings := by
      rw [lexeme, ← same]
      simp
    have long : ¬ (token.type ≠ .string ∨ token.lexeme.length < 2) := by
      rw [kind, lexeme]
      simp
    rw [decodeStringLiteral, if_neg long, inside, decodeBytes_spelled]
  · intro t line stop ahead inLine ends unclosed
    exact tokenizeString_unclosed line ahead inLine ends unclosed

/-- The source of a literal that mixes spellings. -/
def mixedLiteral : Tokenizer where
  source := text "\"a\"\"\\\"\\x41\", 1"
  pos := 0
  line := 1
  column := 1
  lineStartPos := 0
  errorMsg := []

/-- The source of a literal whose line ends behind a backslash. -/
def openLiteral : Tokenizer :=
  { mixedLiteral with source := text "\"a\\\nb\"" }

/-- The spellings of the literal that has an end. -/
def mixedSpellings : List Spelling :=
  [.plain 97 (by decide) (by decide), .doubledQuote, .escapedQuote,
    .hex 52 49 4 1 (by decide) (by decide)]

/-- A doubled quote in front of an escaped one and a byte in hexadecimal. -/
theorem mixedLiteral_inverts :
    (∃ token, tokenizeString mixedLiteral = (token, mixedLiteral.skip token.lexeme.length) ∧
      token.type = .string ∧ token.lexeme = quote :: (spelled mixedSpellings ++ [quote]) ∧
      decodeStringLiteral token = .ok (mixedSpellings.map Spelling.byte)) ∧
    (tokenizeString openLiteral).1.type = .error ∧
    (tokenizeString openLiteral).2.ahead = text "\nb\"" := by
  refine ⟨stringLiterals_invert.1 _ _ (text ", 1") (by decide +kernel) (by decide +kernel), ?_⟩
  refine stringLiterals_invert.2 _ (text "a\\") _ (by decide +kernel) (by decide +kernel) ?_ ?_
  · intro c first
    cases first
    decide
  · intro pieces after cut
    have closed : quote ∈ text "a\\" := by
      rw [cut]
      exact List.mem_append_right _ List.mem_cons_self
    exact absurd closed (by decide)

end Literals

end C64Stream
