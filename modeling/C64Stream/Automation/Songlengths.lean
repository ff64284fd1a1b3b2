import C64Stream.Device.Registry
import C64Stream.Lib.BinarySearch
import C64Stream.Palette.Vpl

/-! The database of song lengths: how its text is read, and how a song is looked up in it. -/

namespace C64Stream

section Durations

/-- How the machine rounds a result to a double. Whole numbers up to the 53rd power of two stay. -/
structure DoubleRounding where
  round : ℚ → ℚ
  whole : ∀ n : Int, |n| ≤ 2 ^ 53 → round n = n

/-- A decimal digit. -/
def isDigit (byte : UInt8) : Bool :=
  48 ≤ byte && byte ≤ 57

/-- The number that digits write. -/
def decimalNumber (digits : Text) : Nat :=
  digits.foldl (fun number digit => 10 * number + (digit.toNat - 48)) 0

/-- The minutes, added up in 32 bits. -/
def readMinutes (digits : Text) : Int32 :=
  digits.foldl (fun minutes digit => minutes * 10 + Int32.ofNat (digit.toNat - 48)) 0

/-- The one or two digits of the seconds, and what follows them. -/
def splitSeconds (first : UInt8) : Text → Text × Text
  | [] => ([first], [])
  | second :: rest => if isDigit second then ([first, second], rest) else ([first], second :: rest)

/-- The digits of the fraction: up to three of them behind a point. -/
def fractionDigits : Text → Text
  | 46 :: rest => (rest.takeWhile isDigit).take 3
  | _ => []

/-- The thousandths that the digits of the fraction make. -/
def readMillis (digits : Text) : Nat :=
  decimalNumber digits * 10 ^ (3 - digits.length)

/-- The seconds of a duration, at least one. -/
def totalSeconds (double : DoubleRounding) (minutes : Int) (seconds millis : Nat) : ℚ :=
  let whole := double.round (double.round (minutes * 60) + seconds)
  let total := double.round (whole + double.round (millis / 1000))
  if total < 1 then 1 else total

/-- The digits of the minutes, the seconds and the fraction of a duration. -/
def durationParts (value : Text) : Option (Text × Text × Text) :=
  let value := value.dropWhile isSpace
  let minutes := value.takeWhile isDigit
  if minutes = [] then none
  else match value.dropWhile isDigit with
    | 58 :: first :: rest =>
      if isDigit first then
        let (seconds, rest) := splitSeconds first rest
        some (minutes, seconds, fractionDigits rest)
      else none
    | _ => none

/-- The seconds of a duration, unless it is malformed. -/
def parseSonglengthValue (double : DoubleRounding) (value : Text) : Option ℚ := do
  let (minutes, seconds, fraction) ← durationParts value
  let minutes := readMinutes minutes
  if minutes < 0 then none
  else some (totalSeconds double minutes.toInt (decimalNumber seconds) (readMillis fraction))

end Durations

section Lines

/-- An entry of the database. -/
structure SonglengthEntry where
  md5 : Text
  seconds : ℚ
  deriving DecidableEq

/-- What `strcmp` compares of a text. -/
def strcmpKey (md5 : Text) : List Nat :=
  md5.map UInt8.toNat

/-- What two entries are compared by. -/
def SonglengthEntry.key (entry : SonglengthEntry) : List Nat :=
  strcmpKey entry.md5

/-- A hexadecimal digit in either case. -/
def isXdigit (byte : UInt8) : Bool :=
  (hexValue byte).isSome

/-- The key of a line as it is written, and what stands for its duration. Blank lines, comments and
sections have none. -/
def songlengthParts (line : Text) : Option (Text × Text) :=
  let cursor := (cString line).dropWhile isSpace
  match cursor with
  | [] => none
  | mark :: _ =>
    if mark = 59 ∨ mark = 91 then none
    else match cursor.dropWhile (· != 61) with
      | [] => none
      | _ :: value =>
        let key := trimEnd ((cursor.takeWhile (· != 61)).dropWhile isSpace)
        if key.length ≠ 32 then none
        else if ¬key.all isXdigit then none
        else
          let value := value.dropWhile isSpace
          if value = [] then none else some (key, value.takeWhile fun byte => !isSpace byte)

/-- The entry of a line, from the first 63 bytes of its duration. -/
def songlengthLine (double : DoubleRounding) (line : Text) : Option SonglengthEntry := do
  let (key, value) ← songlengthParts line
  let seconds ← parseSonglengthValue double (copyField 64 value)
  return { md5 := copyField 33 (key.map toLower), seconds }

end Lines

section Database

/-- The database of song lengths. -/
structure SonglengthDb where
  loaded : Bool := false
  sourcePath : Text := []
  entries : List SonglengthEntry := []

def c64AutomationPathMax : Nat := 4096

/-- The loop over the lines, which doubles the room for the entries as long as the memory is
enough. -/
def songlengthEntries (double : DoubleRounding) (enough : Nat → Bool) :
    Nat → List SonglengthEntry → List Text → Option (List SonglengthEntry)
  | _, entries, [] => some entries
  | capacity, entries, line :: lines =>
    match songlengthLine double line with
    | none => songlengthEntries double enough capacity entries lines
    | some entry =>
      if entries.length = capacity then
        let newCapacity := if capacity = 0 then 1024 else capacity * 2
        if enough newCapacity then
          songlengthEntries double enough newCapacity (entries ++ [entry]) lines
        else none
      else songlengthEntries double enough capacity (entries ++ [entry]) lines

/-- The database after it was loaded from a file, and whether it was. -/
def c64HvscSonglengthDbLoad (double : DoubleRounding) (sorting : SortFunction SonglengthEntry.key)
    (enough : Nat → Bool) (db : SonglengthDb) (path : Text) (file : Option Text) :
    SonglengthDb × Bool :=
  if path = [] then (db, false)
  else match file with
    | none => (db, false)
    | some content =>
      match songlengthEntries double enough 0 [] (bufferedLines 1024 content) with
      | none => (db, false)
      | some entries =>
        if entries = [] then (db, false)
        else
          ({ loaded := true, sourcePath := copyField c64AutomationPathMax path,
             entries := sorting.sort entries }, true)

/-- The length of a song, found by the digits of its checksum. -/
def c64HvscSonglengthDbLookup (db : SonglengthDb) (md5Hex : Text) : Option ℚ :=
  if db.loaded then
    (bsearch SonglengthEntry.key db.entries (strcmpKey (copyField 33 md5Hex))).map (·.seconds)
  else none

end Database

end C64Stream
