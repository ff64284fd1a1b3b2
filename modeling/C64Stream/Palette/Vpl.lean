import C64Stream.Lib.Hex
import C64Stream.Lib.Ini
import C64Stream.Palette.Follow

/-! The text of a palette file: how it is written, and the two ways in which it is read. -/

namespace C64Stream

section Numbers

/-- A line up to the end mark of a string. -/
def cString (line : Text) : Text :=
  line.takeWhile (· ≠ 0)

/-- The sign before a number, and what follows it. -/
def scanSign : Text → Bool × Text
  | 43 :: rest => (false, rest)
  | 45 :: rest => (true, rest)
  | line => (false, line)

/-- What follows the mark of the base before a number. -/
def scanBase : Text → Text
  | 48 :: 120 :: rest | 48 :: 88 :: rest => rest
  | line => line

/-- What `%x` stores for a number. -/
def storedHex (negative : Bool) (value : Nat) : UInt32 :=
  if value ≥ 2 ^ 64 then 0xFFFFFFFF
  else if negative then 0 - UInt32.ofNat value
  else UInt32.ofNat value

/-- A hexadecimal number as `%x` scans it, with what follows it. -/
def scanHex (line : Text) : Option (UInt32 × Text) :=
  let (negative, line) := scanSign (line.dropWhile isSpace)
  let line := scanBase line
  let digits := line.takeWhile fun byte => (hexValue byte).isSome
  if digits = [] then none
  else
    let value := digits.foldl (fun value byte => 16 * value + (hexValue byte).getD 0) 0
    some (storedHex negative value, line.dropWhile fun byte => (hexValue byte).isSome)

/-- The three numbers that `%x %x %x` scans. -/
def scanRgb (line : Text) : Option (UInt32 × UInt32 × UInt32) := do
  let (r, line) ← scanHex line
  let (g, line) ← scanHex line
  let (b, _) ← scanHex line
  return (r, g, b)

end Numbers

section Writing

/-- The names of the colours. -/
def colorNames : Vector Text 16 :=
  #v[text "Black", text "White", text "Red", text "Cyan", text "Purple", text "Green", text "Blue",
    text "Yellow", text "Orange", text "Brown", text "Pink", text "DarkGrey", text "MedGrey",
    text "LightGreen", text "LightBlue", text "LightGrey"]

/-- The file name of a path. -/
def pathFileName (path : Text) : Text :=
  (path.reverse.takeWhile (· ≠ 47)).reverse

/-- A file name without the ending of a palette file. -/
def withoutVpl (fileName : Text) : Text :=
  let ending := (fileName.reverse.takeWhile (· ≠ 46)).reverse
  if fileName.contains 46 ∧ equalsIgnoreCase ending (text "vpl") then
    fileName.take (fileName.length - 4)
  else fileName

/-- The loop that makes words of a file name. -/
def camelCase (capitalizeNext : Bool) : Text → Text
  | [] => []
  | byte :: rest =>
    if byte = 95 ∨ byte = 45 then 32 :: camelCase true rest
    else if capitalizeNext ∧ 97 ≤ byte ∧ byte ≤ 122 then (byte - 97 + 65) :: camelCase false rest
    else if 65 ≤ byte ∧ byte ≤ 90 then byte :: camelCase false rest
    else if 97 ≤ byte ∧ byte ≤ 122 then byte :: camelCase false rest
    else byte :: camelCase capitalizeNext rest

/-- The name in a file: the given one, or one made from the path. -/
def vplDisplayName (path name : Text) : Text :=
  if name ≠ [] then name
  else camelCase true (withoutVpl ((pathFileName path).take 63))

/-- The line of a colour. -/
def vplColorLine (color : UInt32) (colorName : Text) : Text :=
  let b := ((color >>> 16) &&& 0xFF).toUInt8
  let g := ((color >>> 8) &&& 0xFF).toUInt8
  let r := (color &&& 0xFF).toUInt8
  hexByte true r ++ text " " ++ hexByte true g ++ text " " ++ hexByte true b ++ text "  # " ++
    colorName

/-- The lines of a palette file. -/
def vplLines (path : Text) (colors : Colors) (name : Text) : List Text :=
  let displayName := vplDisplayName path name
  [text "# VICE Palette file", text "#", text "# Syntax:", text "# Red Green Blue", text "#",
    text "# TYPE:VICII", text "# NAME:" ++ displayName, text "# DESC:" ++ displayName, text ""] ++
    List.zipWith vplColorLine colors.toList colorNames.toList

/-- What is written to a palette file. -/
def c64PaletteWriteVpl (path : Text) (colors : Colors) (name : Text) : Text :=
  (vplLines path colors name).flatMap (· ++ text "\n")

end Writing

section Reading

/-- What was found in a palette file so far. -/
structure VplState where
  colors : List UInt32
  name : Text
  desc : Text
  gotName : Bool
  gotDesc : Bool
  deriving DecidableEq

/-- A value as it is copied into a buffer of a size. -/
def vplValue (size : Nat) (value : Text) : Text :=
  trimEnd (value.take (size - 1))

/-- What a comment says: a description, a name, or anything that may do as a name. -/
def vplComment (nameSize descSize : Nat) (state : VplState) (content : Text) : VplState :=
  if !state.gotDesc ∧ 0 < descSize ∧ content.take 5 = text "DESC:" then
    let start := (content.drop 5).dropWhile isSpace
    if start ≠ [] then { state with desc := vplValue descSize start, gotDesc := true } else state
  else if !state.gotName ∧ 0 < nameSize ∧ content.take 5 = text "NAME:" then
    let start := (content.drop 5).dropWhile isSpace
    if start ≠ [] then { state with name := vplValue nameSize start, gotName := true } else state
  else if !state.gotName ∧ 0 < nameSize ∧ content ≠ [] then
    if content.take 5 ≠ text "TYPE:" ∧ content.take 7 ≠ text "Syntax:" ∧
        content.take 14 ≠ text "Red Green Blue" ∧ content.take 12 ≠ text "VICE Palette" then
      { state with name := vplValue nameSize content, gotName := true }
    else state
  else state

/-- A text without white space at either end. -/
def trimWhitespace (line : Text) : Text :=
  trimEnd (line.dropWhile isSpace)

/-- A colour from its parts, each of which is at most 255. -/
def vplColor (rgb : UInt32 × UInt32 × UInt32) : UInt32 :=
  let clamp := fun value : UInt32 => if value > 255 then 255 else value
  (0xFF000000 : UInt32) ||| (clamp rgb.2.2 <<< 16) ||| (clamp rgb.2.1 <<< 8) ||| clamp rgb.1

/-- One line of a palette file. -/
def vplReadLine (nameSize descSize : Nat) (state : VplState) (line : Text) : VplState :=
  let line := (cString line).rdropWhile fun byte => byte == 10 || byte == 13
  let state :=
    match line.dropWhile (· ≠ 35) with
    | [] => state
    | _ :: comment => vplComment nameSize descSize state (comment.dropWhile isSpace)
  let trimmed := trimWhitespace (line.takeWhile (· ≠ 35))
  if trimmed = [] then state
  else
    match scanRgb trimmed with
    | some rgb => { state with colors := state.colors ++ [vplColor rgb] }
    | none => state

/-- The loop over the lines, which ends with the last colour. -/
def vplReadLines (nameSize descSize : Nat) (state : VplState) : List Text → VplState
  | [] => state
  | line :: rest =>
    if state.colors.length < 16 then
      vplReadLines nameSize descSize (vplReadLine nameSize descSize state line) rest
    else state

/-- The loop that makes a name of a file name; none where it meets a character that it never gets
behind. -/
def nameFromFile (room : Nat) (capitalizeNext : Bool) : Text → Option Text
  | [] => some []
  | byte :: rest =>
    if byte = 46 ∨ room = 0 then some []
    else if byte = 95 ∨ byte = 45 then none
    else (nameFromFile (room - 1) false rest).map
      ((if capitalizeNext then toUpper byte else byte) :: ·)

/-- What is read from a palette file. -/
structure VplContent where
  colors : List UInt32
  name : Text
  desc : Text
  deriving DecidableEq

/-- A palette file that can be opened, with buffers for the name and the description; a buffer of
size zero is not there. -/
def c64PaletteParseVpl (path content : Text) (nameSize descSize : Nat) : Option VplContent :=
  let state := vplReadLines nameSize descSize ⟨[], [], [], false, false⟩ (bufferedLines 256 content)
  if state.colors.length ≠ 16 then none
  else if 0 < nameSize ∧ state.name = [] then
    (nameFromFile (nameSize - 1) true (pathFileName path)).map fun name =>
      ⟨state.colors, name, state.desc⟩
  else some ⟨state.colors, state.name, state.desc⟩

end Reading

section Device

/-- A character that ends a line. -/
def isLineEnd (byte : UInt8) : Bool :=
  byte == 10 || byte == 13

/-- A line as the firmware's buffer holds it, without comment and blanks at its end. -/
def deviceLine (line : Text) : Text :=
  ((cString (line.take 79)).takeWhile (· ≠ 35)).rdropWhile fun byte => byte == 32 || byte == 9

/-- A colour from the low bytes of its parts. -/
def deviceColor (rgb : UInt32 × UInt32 × UInt32) : UInt32 :=
  (0xFF000000 : UInt32) ||| ((rgb.2.2 &&& 0xFF) <<< 16) ||| ((rgb.2.1 &&& 0xFF) <<< 8) |||
    (rgb.1 &&& 0xFF)

/-- The text behind a line and the characters that end it. -/
def behindLine (rest : Text) : Text :=
  (rest.dropWhile fun byte => !isLineEnd byte).dropWhile isLineEnd

theorem behindLine_length {rest : Text} (more : rest ≠ []) :
    (behindLine rest).length < rest.length := by
  cases rest with
  | nil => exact absurd rfl more
  | cons byte rest =>
    have sub : ∀ p q : UInt8 → Bool, ((rest.dropWhile p).dropWhile q).length ≤ rest.length :=
      fun p q => ((List.dropWhile_sublist q).trans (List.dropWhile_sublist p)).length_le
    unfold behindLine
    cases ends : isLineEnd byte with
    | true =>
      rw [List.dropWhile_cons_of_neg (by simp [ends]), List.dropWhile_cons_of_pos ends]
      exact Nat.lt_succ_of_le (List.dropWhile_sublist isLineEnd).length_le
    | false =>
      rw [List.dropWhile_cons_of_pos (by simp [ends])]
      exact Nat.lt_succ_of_le (sub _ _)

/-- The loop over the lines, which ends with the last colour or a line that is none. -/
def deviceColors (colors : List UInt32) (rest : Text) : List UInt32 :=
  if rest ≠ [] ∧ colors.length < 16 then
    let line := deviceLine (rest.takeWhile fun byte => !isLineEnd byte)
    if line = [] then deviceColors colors (behindLine rest)
    else
      match scanRgb line with
      | some rgb => deviceColors (colors ++ [deviceColor rgb]) (behindLine rest)
      | none => colors
  else colors
termination_by rest.length
decreasing_by
  all_goals
    have more : rest ≠ [] ∧ colors.length < 16 := ‹_›
    exact behindLine_length more.1

def c64DevicePaletteVplMax : Nat := 8192

/-- The colours of a palette file of a device. -/
def c64DevicePaletteParseVpl (content : Text) : Option (List UInt32) :=
  if content.length < 8 ∨ content.length > c64DevicePaletteVplMax then none
  else
    let colors := deviceColors [] content
    if colors.length = 16 then some colors else none

end Device

end C64Stream
