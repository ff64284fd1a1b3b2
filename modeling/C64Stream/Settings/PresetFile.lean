import C64Stream.Device.Registry
import C64Stream.Lib.Layered
import C64Stream.Palette.Vpl

/-! The file of effect presets: how it is loaded, and how a preset is applied and recognised. -/

namespace C64Stream.EffectPresets

section Loading

def maxPresets : Nat := 50

def maxNameLen : Nat := 64

def maxSettingsPerPreset : Nat := 20

def lineSize : Nat := 256

def preserveSizeKey : Text := text "preserve_size"

/-- A preset: its name, and keys with their values as they are written. -/
structure Preset where
  name : Text
  settings : List (Text × Text)
  deriving DecidableEq

/-- The presets that are loaded, and the one that settings are added to. -/
structure PresetTable where
  presets : List Preset
  currentPreset : Option Nat
  deriving DecidableEq

/-- Whether a byte is trimmed. -/
def isBlank (byte : UInt8) : Bool :=
  byte == 32 || byte == 9 || byte == 13 || byte == 10

/-- A text without the white space around it. -/
def trimString (str : Text) : Text :=
  (str.dropWhile isBlank).rdropWhile isBlank

/-- Begin a preset, if there is room for one. -/
def PresetTable.addPreset (table : PresetTable) (name : Text) : PresetTable :=
  if table.presets.length < maxPresets then
    ⟨table.presets ++ [⟨copyField maxNameLen name, []⟩], some table.presets.length⟩
  else table

/-- Add a setting to a preset, if there is room for one. -/
def Preset.addSetting (preset : Preset) (key value : Text) : Preset :=
  if preset.settings.length < maxSettingsPerPreset then
    { preset with
      settings := preset.settings ++ [(copyField maxNameLen key, copyField maxNameLen value)] }
  else preset

/-- Take one line: the header of a section, or a setting of the current preset. -/
def parsePresetLine (table : PresetTable) (line : Text) : PresetTable :=
  let line := trimString (cString line)
  match line with
  | [] => table
  | first :: rest =>
    if first = 59 ∨ first = 35 then table
    else if first = 91 then
      if 93 ∈ line then table.addPreset (rest.takeWhile (· ≠ 93)) else table
    else
      match table.currentPreset with
      | none => table
      | some i =>
        if 61 ∈ line then
          let key := trimString (line.takeWhile (· ≠ 61))
          let value := trimString ((line.dropWhile (· ≠ 61)).drop 1)
          { table with presets := table.presets.modify i (·.addSetting key value) }
        else table

/-- Load the text of a file into an empty table. -/
def parsePresetsFile (content : Text) : PresetTable :=
  (bufferedLines lineSize content).foldl parsePresetLine ⟨[], none⟩

/-- The first preset of a name. -/
def findPreset (table : PresetTable) (presetName : Text) : Option Preset :=
  table.presets.find? (·.name = presetName)

end Loading

section Settings

/-- A value of the settings of a source. -/
inductive SettingValue (D : Type*) where
  | string (value : Text)
  | int (value : Int)
  | double (value : D)
  deriving DecidableEq

/-- What is used of double precision. -/
class DoublePrecision (D : Type*) where
  atof : Text → D
  ofInt : Int → D
  toInt : D → Int
  /-- Whether two numbers differ by less than a ten-thousandth. -/
  near : D → D → Bool
  isFinite : D → Bool
  /-- The difference of a number with itself is zero, unless the number is not finite. -/
  near_self : ∀ x, near x x = isFinite x

abbrev SourceSettings (D : Type*) := Layered Text (SettingValue D)

variable {D : Type*} [DoublePrecision D] (settings : SourceSettings D) (key : Text)

/-- A text; a value of another type reads as an empty one. -/
def obsDataGetString : Text :=
  match settings.get key with
  | some (.string value) => value
  | _ => []

/-- A whole number; a text reads as zero. -/
def obsDataGetInt : Int :=
  match settings.get key with
  | some (.int value) => value
  | some (.double value) => DoublePrecision.toInt value
  | _ => 0

/-- A number; a text reads as zero. -/
def obsDataGetDouble : D :=
  match settings.get key with
  | some (.int value) => DoublePrecision.ofInt value
  | some (.double value) => value
  | _ => DoublePrecision.ofInt 0

end Settings

section Applying

/-- The number that a text starts with, as a `long` and as a `long long` of 64 bits. -/
def atoll (value : Text) : Int :=
  match value.dropWhile isSpace with
  | 45 :: digits => max (-2 ^ 63) (-(leadingNumber 0 digits : Int))
  | 43 :: digits => min (2 ^ 63 - 1) (leadingNumber 0 digits : Int)
  | digits => min (2 ^ 63 - 1) (leadingNumber 0 digits : Int)

/-- That number cut to an `int` of 32 bits. -/
def atoi (value : Text) : Int :=
  (atoll value).bmod (2 ^ 32)

/-- Whether a value without a dot is a whole number. -/
def startsLikeInt (value : Text) : Bool :=
  match value with
  | first :: _ => first == 45 || (48 ≤ first && first ≤ 57)
  | [] => false

variable {D : Type*} [DoublePrecision D]

/-- Write one setting of a preset; the size that is kept is never written. -/
def applySetting (settings : SourceSettings D) (setting : Text × Text) : SourceSettings D :=
  let (key, value) := setting
  if key = preserveSizeKey then settings
  else if 46 ∈ value then settings.set key (.double (DoublePrecision.atof value))
  else if startsLikeInt value then settings.set key (.int (atoi value))
  else settings.set key (.string value)

/-- Write all settings of a preset, if there is one of the name. -/
def c64EffectApply (table : PresetTable) (settings : SourceSettings D) (presetName : Text) :
    SourceSettings D × Bool :=
  match findPreset table presetName with
  | none => (settings, false)
  | some preset => (preset.settings.foldl applySetting settings, true)

/-- Whether a setting has the value that a preset gives it. -/
def presetSettingMatches (settings : SourceSettings D) (setting : Text × Text) : Bool :=
  let (key, value) := setting
  if key = preserveSizeKey then true
  else if 46 ∈ value then
    DoublePrecision.near (obsDataGetDouble settings key) (DoublePrecision.atof value : D)
  else if startsLikeInt value then obsDataGetInt settings key = atoll value
  else obsDataGetString settings key = value

/-- Whether all settings have the values of a preset. -/
def c64EffectMatchesPreset (table : PresetTable) (settings : SourceSettings D)
    (presetName : Text) : Bool :=
  match findPreset table presetName with
  | none => false
  | some preset => preset.settings.all (presetSettingMatches settings)

end Applying

end C64Stream.EffectPresets
