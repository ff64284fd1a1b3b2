import C64Stream.Settings.ObsData

/-! Effects: the presets, when one is applied to the settings, and what a script sets. -/

namespace C64Stream

section Keys

/-- The settings of the effects. -/
inductive EffectKey where
  | scanLineDistance
  | scanLineStrength
  | pixelWidth
  | pixelHeight
  | blurStrength
  | bloomStrength
  | afterglowDurationMs
  | afterglowCurve
  | tintMode
  | tintStrength
  | preserveSize
  deriving DecidableEq

/-- The name of a setting. -/
def EffectKey.name : EffectKey → Chars
  | .scanLineDistance => "scan_line_distance".toList
  | .scanLineStrength => "scan_line_strength".toList
  | .pixelWidth => "pixel_width".toList
  | .pixelHeight => "pixel_height".toList
  | .blurStrength => "blur_strength".toList
  | .bloomStrength => "bloom_strength".toList
  | .afterglowDurationMs => "afterglow_duration_ms".toList
  | .afterglowCurve => "afterglow_curve".toList
  | .tintMode => "tint_mode".toList
  | .tintStrength => "tint_strength".toList
  | .preserveSize => "preserve_size".toList

def crtPresetKey : Chars := "crt_preset".toList

def c64PresetLastAppliedKey : Chars := "crt_preset_last_applied".toList

end Keys

section Presets

variable {D : Type*} [ObsNumber D]

def maxPresetNameLen : Nat := 63

def maxScriptText : Nat := 255

/-- A preset: its name, and settings as they are written. No preset sets which one is selected. -/
structure Preset where
  name : Chars
  settings : List (Chars × Chars)
  fits : name.length ≤ maxPresetNameLen
  plain : ∀ setting ∈ settings, setting.1 ≠ crtPresetKey ∧ setting.1 ≠ c64PresetLastAppliedKey

/-- The first preset of a name. -/
def findPreset (presets : List Preset) (name : Chars) : Option Preset :=
  presets.find? (·.name = name)

/-- The whole number at the start of a text. -/
def atoi (value : Chars) : Int :=
  let digits := fun text : Chars =>
    (text.takeWhile Char.isDigit).foldl (fun n digit => 10 * n + (digit.toNat - '0'.toNat)) 0
  match value with
  | '-' :: rest => -(digits rest : Nat)
  | _ => (digits value : Nat)

/-- What the written value of a setting is. -/
inductive WrittenValue where
  | double
  | int
  | string
  deriving DecidableEq

/-- A value with a dot is a number, one that starts like a whole number is one, others are texts. -/
def writtenAs (value : Chars) : WrittenValue :=
  if '.' ∈ value then .double
  else if value.head?.any (fun first => first = '-' || first.isDigit) then .int
  else .string

/-- The value of a setting of a preset. -/
def presetValue (value : Chars) : ObsValue D :=
  match writtenAs value with
  | .double => .double (ObsNumber.atof value)
  | .int => .int (atoi value)
  | .string => .string value

/-- The values that a preset gives; it says nothing about the size that is kept. -/
def Preset.assigned (preset : Preset) : List (Chars × ObsValue D) :=
  (preset.settings.filter (·.1 ≠ EffectKey.preserveSize.name)).map fun setting =>
    (setting.1, presetValue setting.2)

/-- Set everything that a preset gives. -/
def c64EffectApply (settings : ObsData D) (preset : Preset) : ObsData D :=
  settings.setAll preset.assigned

/-- Whether a setting has the value that a preset gives it. -/
def presetSettingMatches (settings : ObsData D) (setting : Chars × Chars) : Bool :=
  if setting.1 = EffectKey.preserveSize.name then true
  else
    match writtenAs setting.2 with
    | .double =>
      ObsNumber.near (obsDataGetDouble settings setting.1) (ObsNumber.atof setting.2 : D)
    | .int => obsDataGetInt settings setting.1 = atoi setting.2
    | .string => obsDataGetString settings setting.1 = setting.2

/-- Whether the settings have the values of a preset. -/
def c64EffectMatchesPreset (settings : ObsData D) (preset : Preset) : Bool :=
  preset.settings.all (presetSettingMatches settings)

/-- Whether any of the effects was set. -/
def c64SourceSettingsHaveEffectOverrides (settings : ObsData D) : Bool :=
  [EffectKey.scanLineDistance, .scanLineStrength, .pixelWidth, .pixelHeight, .blurStrength,
    .bloomStrength, .tintMode, .tintStrength, .afterglowDurationMs, .afterglowCurve].any
    fun key => obsDataHasUserValue settings key.name

/-- Note that a preset was applied. -/
def notePreset (settings : ObsData D) (name : Chars) : ObsData D :=
  settings.set c64PresetLastAppliedKey (.string name)

/-- Apply the selected preset, unless it is the last one that was, the settings have its values, or
a source is created whose effects were set. -/
def c64SourceApplyCrtPresetIfNeeded (presets : List Preset) (settings : ObsData D)
    (isUpdate : Bool) : ObsData D :=
  let presetName := obsDataGetString settings crtPresetKey
  let lastApplied := obsDataGetString settings c64PresetLastAppliedKey
  let found := findPreset presets presetName
  if presetName = [] then settings
  else if lastApplied ≠ [] ∧ lastApplied = presetName then settings
  else if lastApplied = [] ∧ found.any (c64EffectMatchesPreset settings) then
    notePreset settings presetName
  else if isUpdate = false ∧ lastApplied = [] ∧ c64SourceSettingsHaveEffectOverrides settings then
    settings
  else
    match found with
    | none => settings
    | some preset => notePreset (c64EffectApply settings preset) presetName

/-- What an update of a source, and its creation, do to the settings of the effects. -/
def c64UpdateEffects (presets : List Preset) (settings : ObsData D) : ObsData D :=
  c64SourceApplyCrtPresetIfNeeded presets settings true

def c64CreateEffects (presets : List Preset) (settings : ObsData D) : ObsData D :=
  c64SourceApplyCrtPresetIfNeeded presets settings false

end Presets

section Statements

variable {D : Type*} [ObsNumber D]

/-- A statement of a script about effects. -/
inductive EffectStatement (D : Type*) where
  | effect (preset : Chars)
  | effectParam (key : EffectKey) (value : D)

/-- The value that a statement sets a parameter to. -/
def effectParamValue (key : EffectKey) (value : D) : ObsValue D :=
  if key = .preserveSize then .bool (!ObsNumber.isZero value) else .double value

/-- What a statement queues: the name of a setting, and its value. -/
def EffectStatement.queued : EffectStatement D → Chars × ObsValue D
  | .effect preset => (crtPresetKey, .string (preset.take maxScriptText))
  | .effectParam key value => (key.name, effectParamValue key value)

/-- Apply what a statement queued, and update the source. -/
def c64ScriptApplySourceUpdate (presets : List Preset) (settings : ObsData D)
    (statement : EffectStatement D) : ObsData D :=
  c64UpdateEffects presets (settings.set statement.queued.1 statement.queued.2)

end Statements

section Exact

/-- Exact fractions in place of floating-point numbers. -/
instance : ObsNumber ℚ where
  ofInt n := n
  toInt q := if q < 0 then -⌊-q⌋ else ⌊q⌋
  near a b := decide (|a - b| < 1 / 10000)
  isZero q := decide (q = 0)
  atof value :=
    let whole := atoi value
    let digits := ((value.dropWhile (· != '.')).drop 1).takeWhile Char.isDigit
    let fraction : ℚ := (atoi digits : ℚ) / 10 ^ digits.length
    if value.head? = some '-' then whole - fraction else whole + fraction

def blankSettings : ObsData ℚ := ⟨fun _ => none, fun _ => none⟩

end Exact

end C64Stream
