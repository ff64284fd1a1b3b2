import C64Stream.Palette.Catalogue
import C64Stream.Palette.Vpl

/-! A palette file that was written reads back as its colours and its name, in both parsers. -/

namespace C64Stream

section Names

/-- A name that can stand in a line of its own: not empty, not too long, without line breaks, and
without white space at either end. -/
structure DisplayName where
  text : Text
  nonempty : text ≠ []
  short : text.length ≤ 63
  single : ∀ byte ∈ text, byte ≠ 0 ∧ byte ≠ 10 ∧ byte ≠ 13
  front : ∀ byte ∈ text.head?, isSpace byte = false
  back : ∀ byte ∈ text.getLast?, isSpace byte = false

theorem DisplayName.dropWhile (name : DisplayName) : name.text.dropWhile isSpace = name.text := by
  cases shape : name.text with
  | nil => rfl
  | cons byte rest =>
    have solid := name.front byte (by rw [shape]; rfl)
    rw [List.dropWhile_cons_of_neg (by simp [solid])]

theorem DisplayName.trimEnd (name : DisplayName) : trimEnd name.text = name.text := by
  rw [C64Stream.trimEnd, List.rdropWhile_eq_self_iff]
  intro some
  have solid := name.back (name.text.getLast some) (List.getLast?_eq_getLast_of_ne_nil some)
  simp [solid]

theorem DisplayName.value (name : DisplayName) {size : Nat} (room : 64 ≤ size) :
    vplValue size name.text = name.text := by
  have short := name.short
  rw [vplValue, List.take_of_length_le (by omega), name.trimEnd]

end Names

section Numbers

/-- A line without characters that end a string or a line. -/
def PlainLine (line : Text) : Prop :=
  ∀ byte ∈ line, byte ≠ 0 ∧ byte ≠ 10 ∧ byte ≠ 13

instance (line : Text) : Decidable (PlainLine line) :=
  List.decidableBAll _ line

theorem PlainLine.append {first second : Text} (left : PlainLine first)
    (right : PlainLine second) : PlainLine (first ++ second) := by
  intro byte among
  rcases List.mem_append.mp among with before | behind
  · exact left byte before
  · exact right byte behind

theorem scanHex_space (line : Text) : scanHex (32 :: line) = scanHex line := by
  unfold scanHex
  rw [List.dropWhile_cons_of_pos (by decide)]

theorem hexByte_digits (byte : UInt8) :
    isSpace (digitByte true (byte.toNat / 16)) = false ∧
      digitByte true (byte.toNat / 16) ≠ 43 ∧ digitByte true (byte.toNat / 16) ≠ 45 ∧
      digitByte true (byte.toNat % 16) ≠ 120 ∧ digitByte true (byte.toNat % 16) ≠ 88 := by
  have all : ∀ byte : UInt8, isSpace (digitByte true (byte.toNat / 16)) = false ∧
      digitByte true (byte.toNat / 16) ≠ 43 ∧ digitByte true (byte.toNat / 16) ≠ 45 ∧
      digitByte true (byte.toNat % 16) ≠ 120 ∧ digitByte true (byte.toNat % 16) ≠ 88 :=
    forall_byte (by decide +kernel)
  exact all byte

theorem scanHex_hexByte (byte : UInt8) {rest : Text}
    (ends : ∀ next ∈ rest.head?, hexValue next = none) :
    scanHex (hexByte true byte ++ rest) = some (byte.toUInt32, rest) := by
  obtain ⟨solid, plus, minus, lower, upper⟩ := hexByte_digits byte
  have high := hexValue_digitByte true (show byte.toNat / 16 < 16 by have := byte.toNat_lt; omega)
  have low := hexValue_digitByte true (show byte.toNat % 16 < 16 by omega)
  have behind : (rest.takeWhile fun byte => (hexValue byte).isSome) = [] ∧
      (rest.dropWhile fun byte => (hexValue byte).isSome) = rest := by
    cases rest with
    | nil => exact ⟨rfl, rfl⟩
    | cons next rest =>
      have stop := ends next rfl
      exact ⟨List.takeWhile_cons_of_neg (by simp [stop]),
        List.dropWhile_cons_of_neg (by simp [stop])⟩
  have unsigned : ∀ line : Text, scanSign (digitByte true (byte.toNat / 16) :: line) =
      (false, digitByte true (byte.toNat / 16) :: line) := by
    intro line
    unfold scanSign
    split
    · rename_i same
      exact absurd (List.cons.inj same).1 plus
    · rename_i same
      exact absurd (List.cons.inj same).1 minus
    · rfl
  have bare : ∀ line : Text,
      scanBase (digitByte true (byte.toNat / 16) :: digitByte true (byte.toNat % 16) :: line) =
        digitByte true (byte.toNat / 16) :: digitByte true (byte.toNat % 16) :: line := by
    intro line
    unfold scanBase
    split
    · rename_i same
      exact absurd (List.cons.inj (List.cons.inj same).2).1 lower
    · rename_i same
      exact absurd (List.cons.inj (List.cons.inj same).2).1 upper
    · rfl
  unfold scanHex
  rw [hexByte, List.cons_append, List.cons_append, List.nil_append,
    List.dropWhile_cons_of_neg (by simp [solid]), unsigned]
  dsimp only
  rw [bare, List.takeWhile_cons_of_pos (by simp [high]), List.takeWhile_cons_of_pos (by simp [low]),
    behind.1, List.dropWhile_cons_of_pos (by simp [high]),
    List.dropWhile_cons_of_pos (by simp [low]), behind.2, if_neg (by simp)]
  -- The two digits make the byte.
  have bound := byte.toNat_lt
  simp only [List.foldl_cons, List.foldl_nil, high, low, Option.getD_some, Nat.mul_zero,
    Nat.zero_add, hexByte_value]
  rw [storedHex, if_neg (by omega), if_neg (by decide)]
  congr 2
  apply UInt32.toNat.inj
  rw [UInt32.toNat_ofNat', UInt8.toNat_toUInt32]
  omega

theorem scanRgb_hexBytes (r g b : UInt8) :
    scanRgb (hexByte true r ++ 32 :: (hexByte true g ++ 32 :: hexByte true b)) =
      some (r.toUInt32, g.toUInt32, b.toUInt32) := by
  have blank : ∀ rest : Text, ∀ next ∈ (32 :: rest).head?, hexValue next = none := by
    rintro rest next among
    obtain rfl := Option.some.inj among
    decide
  have last : scanHex (hexByte true b) = some (b.toUInt32, []) := by
    have alone := @scanHex_hexByte b [] nofun
    rwa [List.append_nil] at alone
  unfold scanRgb
  rw [scanHex_hexByte r (blank _)]
  simp only [Option.bind_eq_bind, Option.bind_some, scanHex_space]
  rw [scanHex_hexByte g (blank _)]
  simp only [Option.bind_some, scanHex_space, last, Option.pure_def]

theorem toUInt8_clamped (value : UInt8) : ¬ value.toUInt32 > 255 := by
  have bound := value.toNat_lt
  rw [gt_iff_lt, UInt32.lt_iff_toNat_lt, UInt8.toNat_toUInt32]
  exact Nat.not_lt.mpr (Nat.le_of_lt_succ bound)

theorem color_of_bytes {color : UInt32} (solid : color >>> 24 = 0xFF) :
    (0xFF000000 : UInt32) ||| (((color >>> 16) &&& 0xFF).toUInt8.toUInt32 <<< 16) |||
      (((color >>> 8) &&& 0xFF).toUInt8.toUInt32 <<< 8) ||| (color &&& 0xFF).toUInt8.toUInt32 =
      color := by
  have top : color.toNat / 2 ^ 24 = 255 := by
    have shifted := congrArg UInt32.toNat solid
    rwa [UInt32.toNat_shiftRight, Nat.shiftRight_eq_div_pow] at shifted
  have bound := color.toNat_lt
  -- Written from the lowest byte on, these are the bytes of one word.
  have word := word_of_bytes (color &&& 0xFF).toUInt8 ((color >>> 8) &&& 0xFF).toUInt8
    ((color >>> 16) &&& 0xFF).toUInt8 255
  have order : ∀ a b c d : UInt32, a ||| b ||| c ||| d = d ||| c ||| b ||| a := by
    intro a b c d
    rw [UInt32.or_comm (a ||| b ||| c), UInt32.or_comm (a ||| b), UInt32.or_comm a,
      UInt32.or_assoc (d ||| c), UInt32.or_assoc d]
  rw [order, show (0xFF000000 : UInt32) = (255 : UInt8).toUInt32 <<< 24 from rfl, word]
  apply UInt32.toNat.inj
  have low : ∀ n : Nat, n &&& 255 = n % 256 := fun n => Nat.and_two_pow_sub_one_eq_mod n 8
  simp only [UInt32.toNat_ofNat', UInt32.toNat_toUInt8, UInt32.toNat_and, UInt32.toNat_shiftRight,
    Nat.shiftRight_eq_div_pow, UInt32.reduceToNat, Nat.reduceMod, UInt8.reduceToNat, low]
  omega

end Numbers

section Lines

variable {nameSize descSize : Nat} {state : VplState} {color : UInt32}

theorem PlainLine.content {line : Text} (plain : PlainLine line) :
    ((cString (line ++ [10])).rdropWhile fun byte => byte == 10 || byte == 13) = line := by
  have whole : cString (line ++ [10]) = line ++ [10] := by
    refine List.takeWhile_eq_self_iff.mpr fun byte among => ?_
    rcases List.mem_append.mp among with before | behind
    · exact decide_eq_true (plain byte before).1
    · obtain rfl := List.mem_singleton.mp behind
      decide
  rw [whole, List.rdropWhile_concat_pos _ _ _ (by decide), List.rdropWhile_eq_self_iff]
  intro some
  obtain ⟨_, noLf, noCr⟩ := plain _ (List.getLast_mem some)
  simp [noLf, noCr]

theorem vplReadLine_comment {comment : Text} (plain : PlainLine (35 :: comment)) :
    vplReadLine nameSize descSize state (35 :: comment ++ [10]) =
      vplComment nameSize descSize state (comment.dropWhile isSpace) := by
  have content := plain.content
  unfold vplReadLine
  rw [content]
  dsimp only
  rw [List.dropWhile_cons_of_neg (by decide), List.takeWhile_cons_of_neg (by decide),
    if_pos (show trimWhitespace [] = [] from rfl)]

theorem vplComment_fixed {content : Text} (noDesc : content.take 5 ≠ text "DESC:")
    (noName : content.take 5 ≠ text "NAME:")
    (fixed : content = [] ∨ content.take 5 = text "TYPE:" ∨ content.take 7 = text "Syntax:" ∨
      content.take 14 = text "Red Green Blue" ∨ content.take 12 = text "VICE Palette") :
    vplComment nameSize descSize state content = state := by
  unfold vplComment
  rw [if_neg (fun met => noDesc met.2.2), if_neg (fun met => noName met.2.2)]
  split
  · rename_i other
    rw [if_neg]
    rintro ⟨noType, noSyntax, noColumns, noVice⟩
    rcases fixed with none | isType | isSyntax | isColumns | isVice
    · exact other.2.2 none
    · exact noType isType
    · exact noSyntax isSyntax
    · exact noColumns isColumns
    · exact noVice isVice
  · rfl

theorem vplComment_done {content : Text} (gotName : state.gotName = true)
    (gotDesc : state.gotDesc = true) : vplComment nameSize descSize state content = state := by
  unfold vplComment
  rw [if_neg (by simp [gotDesc]), if_neg (by simp [gotName]), if_neg (by simp [gotName])]

theorem vplReadLine_name (name : DisplayName) (room : 64 ≤ nameSize)
    (open_ : state.gotName = false) :
    vplReadLine nameSize descSize state (text "# NAME:" ++ name.text ++ [10]) =
      { state with name := name.text, gotName := true } := by
  have start : text "# NAME:" ++ name.text = 35 :: (32 :: (text "NAME:" ++ name.text)) := rfl
  have plain : PlainLine (35 :: (32 :: (text "NAME:" ++ name.text))) := by
    rw [← start]
    exact PlainLine.append (by decide) name.single
  rw [start, vplReadLine_comment plain, List.dropWhile_cons_of_pos (by decide),
    show text "NAME:" ++ name.text = 78 :: (text "AME:" ++ name.text) from rfl,
    List.dropWhile_cons_of_neg (by decide)]
  unfold vplComment
  rw [if_neg (by rintro ⟨_, _, other⟩; exact absurd (List.cons.inj other).1 (by decide)),
    if_pos ⟨by rw [open_]; rfl, by omega, rfl⟩]
  rw [show (78 :: (text "AME:" ++ name.text)).drop 5 = name.text from rfl, name.dropWhile]
  dsimp only
  rw [if_pos name.nonempty, name.value room]

theorem vplReadLine_desc (name : DisplayName) (room : 64 ≤ descSize)
    (open_ : state.gotDesc = false) :
    vplReadLine nameSize descSize state (text "# DESC:" ++ name.text ++ [10]) =
      { state with desc := name.text, gotDesc := true } := by
  have start : text "# DESC:" ++ name.text = 35 :: (32 :: (text "DESC:" ++ name.text)) := rfl
  have plain : PlainLine (35 :: (32 :: (text "DESC:" ++ name.text))) := by
    rw [← start]
    exact PlainLine.append (by decide) name.single
  rw [start, vplReadLine_comment plain, List.dropWhile_cons_of_pos (by decide),
    show text "DESC:" ++ name.text = 68 :: (text "ESC:" ++ name.text) from rfl,
    List.dropWhile_cons_of_neg (by decide)]
  unfold vplComment
  rw [if_pos ⟨by rw [open_]; rfl, by omega, rfl⟩,
    show (68 :: (text "ESC:" ++ name.text)).drop 5 = name.text from rfl, name.dropWhile]
  dsimp only
  rw [if_pos name.nonempty, name.value room]

/-- The bytes of a colour, the red one first. -/
def colorBytes (color : UInt32) : UInt8 × UInt8 × UInt8 :=
  ((color &&& 0xFF).toUInt8, ((color >>> 8) &&& 0xFF).toUInt8, ((color >>> 16) &&& 0xFF).toUInt8)

/-- The digits of a colour. -/
def colorDigits (color : UInt32) : Text :=
  hexByte true (colorBytes color).1 ++
    32 :: (hexByte true (colorBytes color).2.1 ++ 32 :: hexByte true (colorBytes color).2.2)

theorem vplColorLine_eq (color : UInt32) (colorName : Text) :
    vplColorLine color colorName = colorDigits color ++ [32, 32] ++ 35 :: 32 :: colorName := rfl

theorem digitByte_plain {n : Nat} (small : n < 16) :
    isSpace (digitByte true n) = false ∧ digitByte true n ≠ 0 ∧ digitByte true n ≠ 10 ∧
      digitByte true n ≠ 13 ∧ digitByte true n ≠ 35 := by
  have all : ∀ n < 16, isSpace (digitByte true n) = false ∧ digitByte true n ≠ 0 ∧
      digitByte true n ≠ 10 ∧ digitByte true n ≠ 13 ∧ digitByte true n ≠ 35 := by decide
  exact all n small

theorem hexByte_plain (byte : UInt8) : ∀ digit ∈ hexByte true byte,
    isSpace digit = false ∧ digit ≠ 0 ∧ digit ≠ 10 ∧ digit ≠ 13 ∧ digit ≠ 35 := by
  intro digit among
  have bound := byte.toNat_lt
  rcases List.mem_cons.mp among with rfl | among
  · exact digitByte_plain (by omega)
  · obtain rfl := List.mem_singleton.mp among
    exact digitByte_plain (by omega)

theorem colorDigits_plain (color : UInt32) : ∀ byte ∈ colorDigits color,
    byte ≠ 0 ∧ byte ≠ 10 ∧ byte ≠ 13 ∧ byte ≠ 35 := by
  intro byte among
  simp only [colorDigits, List.mem_append, List.mem_cons] at among
  rcases among with red | rfl | green | rfl | blue
  · exact (hexByte_plain _ _ red).2
  · decide
  · exact (hexByte_plain _ _ green).2
  · decide
  · exact (hexByte_plain _ _ blue).2

theorem colorDigits_unmarked (color : UInt32) :
    ∀ byte ∈ colorDigits color ++ [32, 32], decide (byte ≠ 35) = true := by
  intro byte among
  rcases List.mem_append.mp among with digit | blank
  · exact decide_eq_true (colorDigits_plain color byte digit).2.2.2
  · have all : ∀ byte ∈ ([32, 32] : Text), decide (byte ≠ 35) = true := by simp
    exact all byte blank

theorem trim_colorDigits (color : UInt32) :
    trimWhitespace (colorDigits color ++ [32, 32]) = colorDigits color := by
  have first := (hexByte_plain (colorBytes color).1 _ List.mem_cons_self).1
  have last := (hexByte_plain (colorBytes color).2.2 _ (List.mem_cons_of_mem _
    List.mem_cons_self)).1
  have ends : ∃ front, colorDigits color = front ++
      [digitByte true ((colorBytes color).2.2.toNat % 16)] :=
    ⟨hexByte true (colorBytes color).1 ++ 32 :: (hexByte true (colorBytes color).2.1 ++
      [32, digitByte true ((colorBytes color).2.2.toNat / 16)]), rfl⟩
  have open_ : (colorDigits color ++ [32, 32]).dropWhile isSpace = colorDigits color ++ [32, 32] :=
    List.dropWhile_cons_of_neg (by rw [first]; decide)
  have blanks : colorDigits color ++ [32, 32] = colorDigits color ++ [32] ++ [32] := by
    rw [List.append_assoc]
    rfl
  rw [trimWhitespace, open_, blanks, trimEnd_append_of_space _ (by decide),
    trimEnd_append_of_space _ (by decide)]
  obtain ⟨front, shape⟩ := ends
  rw [shape, trimEnd_append_of_not_space _ last]

theorem scanRgb_colorDigits (color : UInt32) :
    scanRgb (colorDigits color) = some ((colorBytes color).1.toUInt32,
      (colorBytes color).2.1.toUInt32, (colorBytes color).2.2.toUInt32) :=
  scanRgb_hexBytes _ _ _

theorem vplColor_colorBytes (solid : color >>> 24 = 0xFF) :
    vplColor ((colorBytes color).1.toUInt32, (colorBytes color).2.1.toUInt32,
      (colorBytes color).2.2.toUInt32) = color := by
  unfold vplColor
  dsimp only
  rw [if_neg (toUInt8_clamped _), if_neg (toUInt8_clamped _), if_neg (toUInt8_clamped _)]
  exact color_of_bytes solid

theorem and_toUInt8 (value : UInt8) : value.toUInt32 &&& 0xFF = value.toUInt32 := by
  apply UInt32.toNat.inj
  rw [UInt32.toNat_and, show (0xFF : UInt32).toNat = 2 ^ 8 - 1 from rfl,
    Nat.and_two_pow_sub_one_eq_mod, UInt8.toNat_toUInt32]
  exact Nat.mod_eq_of_lt value.toNat_lt

theorem deviceColor_colorBytes (solid : color >>> 24 = 0xFF) :
    deviceColor ((colorBytes color).1.toUInt32, (colorBytes color).2.1.toUInt32,
      (colorBytes color).2.2.toUInt32) = color := by
  unfold deviceColor
  dsimp only
  rw [and_toUInt8, and_toUInt8, and_toUInt8]
  exact color_of_bytes solid

theorem vplReadLine_color (solid : color >>> 24 = 0xFF) {colorName : Text}
    (plain : PlainLine colorName) (gotName : state.gotName = true)
    (gotDesc : state.gotDesc = true) :
    vplReadLine nameSize descSize state (vplColorLine color colorName ++ [10]) =
      { state with colors := state.colors ++ [color] } := by
  have digits := colorDigits_plain color
  have whole : PlainLine (vplColorLine color colorName) := by
    rw [vplColorLine_eq]
    refine PlainLine.append (PlainLine.append (fun byte among => ?_) (by decide))
      (@PlainLine.append [35, 32] _ (by decide) plain)
    obtain ⟨noEnd, noLf, noCr, _⟩ := digits byte among
    exact ⟨noEnd, noLf, noCr⟩
  have before := colorDigits_unmarked color
  unfold vplReadLine
  rw [whole.content, vplColorLine_eq]
  dsimp only
  -- The comment is cut off, and it is no name any more.
  rw [List.dropWhile_append_of_pos before, List.dropWhile_cons_of_neg (by decide),
    List.takeWhile_append_of_pos before, List.takeWhile_cons_of_neg (by decide), List.append_nil,
    trim_colorDigits]
  dsimp only
  rw [vplComment_done gotName gotDesc, if_neg (by
      intro none
      exact absurd (congrArg List.length none) (by simp [colorDigits])),
    scanRgb_colorDigits]
  dsimp only
  rw [vplColor_colorBytes solid]

end Lines

section Files

variable {named : UInt32 × Text} {nameSize descSize : Nat} {state : VplState} {line : Text}

theorem bufferedLines_flatMap {size : Nat} {lines : List Text}
    (fit : ∀ line ∈ lines, 10 ∉ line ∧ line.length + 1 < size) :
    bufferedLines size (lines.flatMap (· ++ [10])) = lines.map (· ++ [10]) := by
  induction lines with
  | nil => rfl
  | cons line lines ih =>
    obtain ⟨single, fits⟩ := fit line List.mem_cons_self
    rw [List.flatMap_cons, List.append_assoc, List.singleton_append, bufferedLines_line single fits,
      ih fun line among => fit line (List.mem_cons_of_mem _ among)]
    rfl

/-- The colours of a file: each with its name. -/
def namedColors (colors : Colors) : List (UInt32 × Text) :=
  List.zip colors.toList colorNames.toList

theorem namedColors_colors (colors : Colors) : (namedColors colors).map Prod.fst = colors.toList :=
  List.map_fst_zip (by rw [Vector.length_toList, Vector.length_toList])

theorem namedColors_length (colors : Colors) : (namedColors colors).length = 16 := by
  rw [namedColors, List.length_zip, Vector.length_toList, Vector.length_toList]
  rfl

theorem namedColors_solid {colors : Colors} (solid : ∀ i : Fin 16, colors[i] >>> 24 = 0xFF)
    (among : named ∈ namedColors colors) : named.1 >>> 24 = 0xFF := by
  obtain ⟨i, below, same⟩ := List.mem_iff_getElem.mp (List.of_mem_zip among).1
  rw [Vector.length_toList] at below
  rw [← same, Vector.getElem_toList]
  exact solid ⟨i, below⟩

theorem namedColors_names (colors : Colors) (among : named ∈ namedColors colors) :
    PlainLine named.2 ∧ named.2.length ≤ 10 := by
  have all : ∀ name ∈ colorNames.toList, PlainLine name ∧ name.length ≤ 10 := by decide
  exact all named.2 (List.of_mem_zip among).2

theorem vplLines_colors (colors : Colors) :
    List.zipWith vplColorLine colors.toList colorNames.toList =
      (namedColors colors).map fun named => vplColorLine named.1 named.2 :=
  (@List.map_uncurry_zip_eq_zipWith _ _ _ vplColorLine _ _).symm

theorem vplReadLines_colors {named : List (UInt32 × Text)}
    (solid : ∀ color ∈ named, color.1 >>> 24 = 0xFF ∧ PlainLine color.2)
    (gotName : state.gotName = true) (gotDesc : state.gotDesc = true)
    (room : state.colors.length + named.length ≤ 16) :
    vplReadLines nameSize descSize state
      ((named.map fun color => vplColorLine color.1 color.2).map (· ++ [10])) =
      { state with colors := state.colors ++ named.map Prod.fst } := by
  -- The induction is on the colours that are left.
  induction named generalizing state with
  | nil => simp [vplReadLines]
  | cons color named ih =>
    obtain ⟨here, plain⟩ := solid color List.mem_cons_self
    rw [List.length_cons] at room
    rw [List.map_cons, List.map_cons, vplReadLines, if_pos (by omega),
      vplReadLine_color here plain gotName gotDesc]
    have rest := @ih { state with colors := state.colors ++ [color.1] }
      (fun color among => solid color (List.mem_cons_of_mem _ among)) gotName gotDesc (by
        rw [List.length_append, List.length_singleton]
        omega)
    rw [rest]
    simp only [List.append_assoc, List.singleton_append, List.map_cons]

theorem vplReadLines_idle {rest : List Text} (open_ : state.colors.length < 16)
    (idle : vplReadLine nameSize descSize state line = state) :
    vplReadLines nameSize descSize state (line :: rest) =
      vplReadLines nameSize descSize state rest := by
  rw [vplReadLines, if_pos open_, idle]

/-- The fixed lines of a file, before its name. -/
def fixedLines : List Text :=
  [text "# VICE Palette file", text "#", text "# Syntax:", text "# Red Green Blue", text "#",
    text "# TYPE:VICII"]

theorem vplReadLine_fixed (among : line ∈ fixedLines) :
    vplReadLine nameSize descSize state (line ++ [10]) = state := by
  have shape : ∀ line ∈ fixedLines, PlainLine line ∧ ∃ comment, line = 35 :: comment ∧
      (comment.dropWhile isSpace).take 5 ≠ text "DESC:" ∧
      (comment.dropWhile isSpace).take 5 ≠ text "NAME:" ∧
      (comment.dropWhile isSpace = [] ∨ (comment.dropWhile isSpace).take 5 = text "TYPE:" ∨
        (comment.dropWhile isSpace).take 7 = text "Syntax:" ∨
        (comment.dropWhile isSpace).take 14 = text "Red Green Blue" ∨
        (comment.dropWhile isSpace).take 12 = text "VICE Palette") := by
    intro line among
    refine ⟨?_, line.tail, ?_⟩
    · have all : ∀ line ∈ fixedLines, PlainLine line := by decide
      exact all line among
    · have all : ∀ line ∈ fixedLines, line = 35 :: line.tail ∧
          (line.tail.dropWhile isSpace).take 5 ≠ text "DESC:" ∧
          (line.tail.dropWhile isSpace).take 5 ≠ text "NAME:" ∧
          (line.tail.dropWhile isSpace = [] ∨ (line.tail.dropWhile isSpace).take 5 = text "TYPE:" ∨
            (line.tail.dropWhile isSpace).take 7 = text "Syntax:" ∨
            (line.tail.dropWhile isSpace).take 14 = text "Red Green Blue" ∨
            (line.tail.dropWhile isSpace).take 12 = text "VICE Palette") := by decide
      exact all line among
  obtain ⟨plain, comment, rfl, noDesc, noName, fixed⟩ := shape line among
  rw [vplReadLine_comment plain, vplComment_fixed noDesc noName fixed]

theorem vplReadLines_fixed {lines rest : List Text} (open_ : state.colors.length < 16)
    (fixed : ∀ line ∈ lines, line ∈ fixedLines) :
    vplReadLines nameSize descSize state (lines.map (· ++ [10]) ++ rest) =
      vplReadLines nameSize descSize state rest := by
  induction lines with
  | nil => rfl
  | cons line lines ih =>
    rw [List.map_cons, List.cons_append,
      vplReadLines_idle open_ (vplReadLine_fixed (fixed line List.mem_cons_self)),
      ih fun line among => fixed line (List.mem_cons_of_mem _ among)]

theorem vplLines_eq (path : Text) (colors : Colors) (name : DisplayName) :
    vplLines path colors name.text =
      fixedLines ++ (text "# NAME:" ++ name.text) :: (text "# DESC:" ++ name.text) :: [] ::
        (namedColors colors).map fun named => vplColorLine named.1 named.2 := by
  rw [← vplLines_colors, vplLines, vplDisplayName, if_pos name.nonempty]
  rfl

theorem vplColorLine_plain {colors : Colors} (among : named ∈ namedColors colors) :
    PlainLine (vplColorLine named.1 named.2) ∧ (vplColorLine named.1 named.2).length ≤ 22 := by
  obtain ⟨plain, short⟩ := namedColors_names colors among
  rw [vplColorLine_eq]
  constructor
  · refine PlainLine.append (PlainLine.append (fun byte among => ?_) (by decide))
      (@PlainLine.append [35, 32] _ (by decide) plain)
    obtain ⟨noEnd, noLf, noCr, _⟩ := colorDigits_plain named.1 byte among
    exact ⟨noEnd, noLf, noCr⟩
  · have digits : (colorDigits named.1).length = 8 := rfl
    simp only [List.length_append, List.length_cons, List.length_nil, digits]
    omega

theorem vplLines_plain (path : Text) (colors : Colors) (name : DisplayName)
    (among : line ∈ vplLines path colors name.text) : PlainLine line ∧ line.length ≤ 70 := by
  have short := name.short
  have head : ∀ line ∈ fixedLines, PlainLine line ∧ line.length ≤ 70 := by decide
  rw [vplLines_eq] at among
  rcases List.mem_append.mp among with fixed | among
  · exact head line fixed
  rcases List.mem_cons.mp among with rfl | among
  · refine ⟨PlainLine.append (by decide) name.single, ?_⟩
    rw [List.length_append, show (text "# NAME:").length = 7 from rfl]
    omega
  rcases List.mem_cons.mp among with rfl | among
  · refine ⟨PlainLine.append (by decide) name.single, ?_⟩
    rw [List.length_append, show (text "# DESC:").length = 7 from rfl]
    omega
  rcases List.mem_cons.mp among with rfl | among
  · exact ⟨by decide, by decide⟩
  · obtain ⟨named, member, rfl⟩ := List.mem_map.mp among
    obtain ⟨plain, shorter⟩ := vplColorLine_plain member
    exact ⟨plain, by omega⟩

end Files

section Device

variable {colors : List UInt32}

theorem behindLine_line {line : Text} (plain : PlainLine line) (rest : Text) :
    ((line ++ 10 :: rest).takeWhile fun byte => !isLineEnd byte) = line ∧
      behindLine (line ++ 10 :: rest) = rest.dropWhile isLineEnd := by
  have inside : ∀ byte ∈ line, (!isLineEnd byte) = true := by
    intro byte among
    obtain ⟨_, noLf, noCr⟩ := plain byte among
    simp [isLineEnd, noLf, noCr]
  constructor
  · rw [List.takeWhile_append_of_pos inside, List.takeWhile_cons_of_neg (by decide),
      List.append_nil]
  · rw [behindLine, List.dropWhile_append_of_pos inside, List.dropWhile_cons_of_neg (by decide),
      List.dropWhile_cons_of_pos (by decide)]

theorem deviceColors_skip (colors : List UInt32) (rest : Text) :
    deviceColors colors (rest.dropWhile isLineEnd) = deviceColors colors rest := by
  cases rest with
  | nil => rfl
  | cons byte rest =>
    cases ends : isLineEnd byte with
    | false => rw [List.dropWhile_cons_of_neg (by simp [ends])]
    | true =>
      by_cases room : colors.length < 16
      · -- The line is empty, and all line ends are skipped behind it.
        conv_rhs => rw [deviceColors]
        rw [if_pos ⟨by simp, room⟩, List.takeWhile_cons_of_neg (by simp [ends])]
        have stays : ((byte :: rest).dropWhile fun byte => !isLineEnd byte) = byte :: rest :=
          List.dropWhile_cons_of_neg (by simp [ends])
        rw [if_pos (show deviceLine [] = [] from rfl), behindLine, stays]
      · rw [deviceColors, if_neg fun met => room met.2, deviceColors, if_neg fun met => room met.2]

theorem deviceColors_comment {line : Text} (plain : PlainLine line) (none : deviceLine line = [])
    (rest : Text) :
    deviceColors colors (line ++ 10 :: rest) = deviceColors colors rest := by
  by_cases room : colors.length < 16
  · obtain ⟨taken, behind⟩ := behindLine_line plain rest
    rw [deviceColors, if_pos ⟨by simp, room⟩]
    dsimp only
    rw [taken, if_pos none, behind, deviceColors_skip]
  · rw [deviceColors, if_neg fun met => room met.2, deviceColors, if_neg fun met => room met.2]

theorem deviceLine_comment (comment : Text) : deviceLine (35 :: comment) = [] := by
  have cut : (cString ((35 :: comment).take 79)).takeWhile (· ≠ 35) = [] := by
    rw [List.take_succ_cons, cString, List.takeWhile_cons_of_pos (by decide),
      List.takeWhile_cons_of_neg (by decide)]
  rw [deviceLine, cut]
  rfl

theorem deviceLine_color {color : UInt32} {colorName : Text}
    (plain : PlainLine (vplColorLine color colorName))
    (short : (vplColorLine color colorName).length ≤ 22) :
    deviceLine (vplColorLine color colorName) = colorDigits color := by
  have whole : cString (vplColorLine color colorName) = vplColorLine color colorName :=
    List.takeWhile_eq_self_iff.mpr fun byte among => decide_eq_true (plain byte among).1
  have before := colorDigits_unmarked color
  have last := (hexByte_plain (colorBytes color).2.2 _ (List.mem_cons_of_mem _
    List.mem_cons_self)).1
  rw [deviceLine, List.take_of_length_le (by omega), whole, vplColorLine_eq,
    List.takeWhile_append_of_pos before, List.takeWhile_cons_of_neg (by decide), List.append_nil]
  -- The blanks at the end are trimmed, and the last digit is none.
  rw [show colorDigits color ++ [32, 32] = colorDigits color ++ [32] ++ [32] by
      rw [List.append_assoc]; rfl,
    List.rdropWhile_concat_pos _ _ _ (by decide), List.rdropWhile_concat_pos _ _ _ (by decide),
    List.rdropWhile_eq_self_iff]
  intro some
  have digit : (colorDigits color).getLast some =
      digitByte true ((colorBytes color).2.2.toNat % 16) := rfl
  rw [digit]
  intro blank
  rw [Bool.or_eq_true, beq_iff_eq, beq_iff_eq] at blank
  rcases blank with same | same
  · rw [same] at last
    exact absurd last (by decide)
  · rw [same] at last
    exact absurd last (by decide)

theorem deviceColors_colors {named : List (UInt32 × Text)}
    (solid : ∀ color ∈ named, color.1 >>> 24 = 0xFF ∧
      PlainLine (vplColorLine color.1 color.2) ∧ (vplColorLine color.1 color.2).length ≤ 22)
    (room : colors.length + named.length ≤ 16) :
    deviceColors colors ((named.map fun color => vplColorLine color.1 color.2).flatMap
      (· ++ [10])) = colors ++ named.map Prod.fst := by
  induction named generalizing colors with
  | nil =>
    rw [List.map_nil, List.flatMap_nil, deviceColors, if_neg (by simp), List.map_nil,
      List.append_nil]
  | cons color named ih =>
    obtain ⟨here, plain, short⟩ := solid color List.mem_cons_self
    rw [List.length_cons] at room
    rw [List.map_cons, List.flatMap_cons, List.append_assoc, List.singleton_append]
    obtain ⟨taken, behind⟩ := behindLine_line plain ((named.map fun color =>
      vplColorLine color.1 color.2).flatMap (· ++ [10]))
    rw [deviceColors, if_pos ⟨by simp, by omega⟩]
    dsimp only
    rw [taken, deviceLine_color plain short, if_neg (by
        intro none
        exact absurd (congrArg List.length none) (by simp [colorDigits])),
      scanRgb_colorDigits]
    dsimp only
    rw [deviceColor_colorBytes here, behind, deviceColors_skip,
      ih (fun color among => solid color (List.mem_cons_of_mem _ among)) (by
        rw [List.length_append, List.length_singleton]
        omega), List.append_assoc]
    rfl

theorem deviceColors_comments {lines : List Text}
    (comments : ∀ line ∈ lines, PlainLine line ∧ deviceLine line = []) (rest : Text) :
    deviceColors colors (lines.flatMap (· ++ [10]) ++ rest) = deviceColors colors rest := by
  induction lines with
  | nil => rfl
  | cons line lines ih =>
    obtain ⟨plain, none⟩ := comments line List.mem_cons_self
    rw [List.flatMap_cons, List.append_assoc, List.append_assoc, List.singleton_append,
      deviceColors_comment plain none,
      ih fun line among => comments line (List.mem_cons_of_mem _ among)]

end Device

section Results

theorem flatMap_length_le {lines : List Text} {bound : Nat}
    (short : ∀ line ∈ lines, line.length ≤ bound) :
    (lines.flatMap (· ++ [10])).length ≤ lines.length * (bound + 1) := by
  induction lines with
  | nil => simp
  | cons line lines ih =>
    have here := short line List.mem_cons_self
    have rest := ih fun line among => short line (List.mem_cons_of_mem _ among)
    rw [List.flatMap_cons, List.length_append, List.length_append, List.length_singleton,
      List.length_cons, Nat.succ_mul]
    omega

variable {path readPath : Text} {colors : Colors}

theorem c64PaletteParseVpl_write (solid : ∀ i : Fin 16, colors[i] >>> 24 = 0xFF)
    (name : DisplayName) {nameSize descSize : Nat} (roomName : 64 ≤ nameSize)
    (roomDesc : 64 ≤ descSize) :
    c64PaletteParseVpl readPath (c64PaletteWriteVpl path colors name.text) nameSize descSize =
      some ⟨colors.toList, name.text, name.text⟩ := by
  have fit : ∀ line ∈ vplLines path colors name.text, 10 ∉ line ∧ line.length + 1 < 256 := by
    intro line among
    obtain ⟨plain, short⟩ := vplLines_plain path colors name among
    exact ⟨fun inside => (plain 10 inside).2.1 rfl, by omega⟩
  -- The lines are read one by one.
  have read : vplReadLines nameSize descSize ⟨[], [], [], false, false⟩
      (bufferedLines 256 (c64PaletteWriteVpl path colors name.text)) =
      ⟨colors.toList, name.text, name.text, true, true⟩ := by
    rw [c64PaletteWriteVpl, show text "\n" = [10] from rfl, bufferedLines_flatMap fit, vplLines_eq,
      List.map_append, vplReadLines_fixed (by decide) fun line among => among, List.map_cons,
      vplReadLines, if_pos (by exact Nat.succ_pos 15), vplReadLine_name name roomName rfl,
      List.map_cons, vplReadLines, if_pos (by exact Nat.succ_pos 15),
      vplReadLine_desc name roomDesc rfl, List.map_cons,
      vplReadLines_idle (by exact Nat.succ_pos 15) rfl,
      vplReadLines_colors (fun color among => ⟨namedColors_solid solid among,
        (namedColors_names colors among).1⟩) rfl rfl (by
          rw [namedColors_length]
          exact Nat.le_refl 16), namedColors_colors]
    rfl
  have found := name.nonempty
  have size : colors.toList.length = 16 := Vector.length_toList
  unfold c64PaletteParseVpl
  rw [read]
  dsimp only
  rw [if_neg fun other => other size, if_neg fun met => found met.2]

theorem c64DevicePaletteParseVpl_write (solid : ∀ i : Fin 16, colors[i] >>> 24 = 0xFF)
    (name : DisplayName) :
    c64DevicePaletteParseVpl (c64PaletteWriteVpl path colors name.text) = some colors.toList := by
  have lines : vplLines path colors name.text =
      (fixedLines ++ [text "# NAME:" ++ name.text, text "# DESC:" ++ name.text, []]) ++
        (namedColors colors).map fun named => vplColorLine named.1 named.2 := by
    rw [vplLines_eq, List.append_assoc]
    rfl
  -- All lines before the colours are comments.
  have comments : ∀ line ∈ fixedLines ++ [text "# NAME:" ++ name.text, text "# DESC:" ++ name.text,
      []], PlainLine line ∧ deviceLine line = [] := by
    intro line among
    refine ⟨(vplLines_plain path colors name (by
      rw [lines]
      exact List.mem_append_left _ among)).1, ?_⟩
    rcases List.mem_append.mp among with fixed | among
    · have all : ∀ line ∈ fixedLines, deviceLine line = [] := by decide
      exact all line fixed
    · simp only [List.mem_cons, List.not_mem_nil, or_false] at among
      rcases among with rfl | rfl | rfl
      · exact deviceLine_comment (text " NAME:" ++ name.text)
      · exact deviceLine_comment (text " DESC:" ++ name.text)
      · rfl
  have found : deviceColors [] (c64PaletteWriteVpl path colors name.text) = colors.toList := by
    rw [c64PaletteWriteVpl, show text "\n" = [10] from rfl, lines, List.flatMap_append,
      deviceColors_comments comments, deviceColors_colors (fun color among =>
        ⟨namedColors_solid solid among, vplColorLine_plain among⟩) (by
          rw [namedColors_length]
          exact Nat.le_refl 16), namedColors_colors, List.nil_append]
  -- The text is neither too short nor too long.
  have long : 8 ≤ (c64PaletteWriteVpl path colors name.text).length := by
    have start : c64PaletteWriteVpl path colors name.text =
        text "# VICE Palette file\n" ++ (vplLines path colors name.text).tail.flatMap
          (· ++ text "\n") := rfl
    rw [start, List.length_append, show (text "# VICE Palette file\n").length = 20 from rfl]
    omega
  have short : (c64PaletteWriteVpl path colors name.text).length ≤ 8192 := by
    have bound := flatMap_length_le fun line among => (vplLines_plain path colors name among).2
    have count : (vplLines path colors name.text).length = 25 := by
      rw [lines, List.length_append, List.length_map, namedColors_length]
      rfl
    rw [count] at bound
    exact bound.trans (by decide)
  have size : colors.toList.length = 16 := Vector.length_toList
  unfold c64DevicePaletteParseVpl
  rw [if_neg (by rw [c64DevicePaletteVplMax]; omega), found]
  dsimp only
  rw [if_pos size]

/-- A palette file reads back as its colours and its name in both parsers. -/
theorem vplFile_readsBack (path readPath : Text) (colors : Colors)
    (solid : ∀ i : Fin 16, colors[i] >>> 24 = 0xFF) (name : DisplayName) (nameSize descSize : Nat)
    (roomName : c64PaletteNameMax ≤ nameSize) (roomDesc : c64PaletteNameMax ≤ descSize) :
    c64PaletteParseVpl readPath (c64PaletteWriteVpl path colors name.text) nameSize descSize =
        some ⟨colors.toList, name.text, name.text⟩ ∧
      c64DevicePaletteParseVpl (c64PaletteWriteVpl path colors name.text) = some colors.toList :=
  ⟨c64PaletteParseVpl_write solid name roomName roomDesc,
    c64DevicePaletteParseVpl_write solid name⟩

/-- A name that looks like a comment and like a colour. -/
def trickyName : DisplayName where
  text := text "# NAME:FF 00 # (Custom)"
  nonempty := by decide
  short := by decide
  single := (by decide : PlainLine (text "# NAME:FF 00 # (Custom)"))
  front := fun _ first => Option.some.inj first ▸ by decide
  back := fun _ last => Option.some.inj last ▸ by decide

/-- The built-in palette, filed under such a name. -/
theorem trickyName_readsBack :
    (∀ i : Fin 16, c64DefaultPalette[i] >>> 24 = 0xFF) ∧
      c64PaletteParseVpl (text "/p/x.vpl") (c64PaletteWriteVpl (text "/p/x.vpl") c64DefaultPalette
        trickyName.text) 64 256 =
          some ⟨c64DefaultPalette.toList, trickyName.text, trickyName.text⟩ ∧
      c64DevicePaletteParseVpl (c64PaletteWriteVpl (text "/p/x.vpl") c64DefaultPalette
        trickyName.text) = some c64DefaultPalette.toList :=
  have solid : ∀ i : Fin 16, c64DefaultPalette[i] >>> 24 = 0xFF := by decide
  ⟨solid, vplFile_readsBack (text "/p/x.vpl") (text "/p/x.vpl") c64DefaultPalette solid trickyName
    64 256 (by decide) (by decide)⟩

end Results

end C64Stream
