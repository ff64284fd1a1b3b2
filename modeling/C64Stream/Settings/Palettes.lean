import C64Stream.Palette.Follow
import C64Stream.Settings.Effects

/-! Palettes: which colours a source shows for its settings, and what a script sets. -/

namespace C64Stream

section Names

def paletteKey : Chars := "palette".toList

def c64DevicePaletteId : Chars := "__device__".toList

def scriptDevicePalette : Chars := "device".toList

/-- The name of a colour that a source has in place of its palette's. -/
def paletteColorKey (index : Nat) : Chars :=
  "palette_color_".toList ++ Nat.toDigits 10 index

/-- The name that a script sets a colour under. -/
def customColorKey (index : Nat) : Chars :=
  "custom_color_".toList ++ Nat.toDigits 10 index

end Names

section Sources

variable {D : Type*} [ObsNumber D]

/-- A source, as far as its colours go. -/
structure SourceWithPalette (D : Type*) where
  settings : ObsData D
  /-- The palettes, which all sources share. -/
  system : PaletteSystem
  paletteInitialized : Bool
  followDevicePalette : Bool
  /-- The colours of the table, once there is one. -/
  colors : List UInt32
  paletteId : Chars

/-- The colours of a palette, of the default one if it is unknown, or else those built in. -/
def colorsOrDefault (system : PaletteSystem) (id : Chars) (disk : Disk) :
    PaletteSystem × List UInt32 × Chars :=
  match c64PaletteResolveColors system id disk with
  | (system, some colors) => (system, colors, id)
  | (system, none) =>
    match c64PaletteResolveColors system defaultId disk with
    | (system, some colors) => (system, colors, defaultId)
    | (system, none) => (system, c64DefaultPalette.toList, defaultId)

/-- The colour that a source has in place of its palette's. -/
def overrideColor (settings : ObsData D) (index : Nat) : UInt32 :=
  (UInt32.ofInt (obsDataGetInt settings (paletteColorKey index)) &&& 0x00FFFFFF) ||| 0xFF000000

/-- The colours of a palette with those that the source has in their place. -/
def overriddenColors (settings : ObsData D) (colors : List UInt32) : List UInt32 :=
  (List.range c64PaletteColors).map fun index =>
    if obsDataHasUserValue settings (paletteColorKey index) then overrideColor settings index
    else colors.getD index 0

/-- The palette that the settings select. -/
def selectedPalette (settings : ObsData D) : Chars :=
  let id := obsDataGetString settings paletteKey
  if id = [] then defaultId else id

/-- Show the colours that the settings select; those of a device are given, if there are any. -/
def c64SourceApplyPalette (source : SourceWithPalette D) (disk : Disk)
    (device : Option (List UInt32)) : SourceWithPalette D :=
  let id := selectedPalette source.settings
  let followDevice := decide (id = c64DevicePaletteId)
  let followChanged := source.followDevicePalette != followDevice
  let (system, colors, id) :=
    if followDevice then (source.system, device.getD c64DefaultPalette.toList, id)
    else
      let (system, colors, id) := colorsOrDefault source.system id disk
      (system, overriddenColors source.settings colors, id)
  { source with
    system := system
    paletteInitialized := true
    followDevicePalette := followDevice
    -- While the device is followed, what was received from it is not replaced.
    colors :=
      if source.paletteInitialized = false ∨ followDevice = false ∨ followChanged then colors
      else source.colors
    paletteId := copyText c64PaletteNameMax id }

/-- Update a source, whose palette also becomes the one that is edited. -/
def c64UpdatePalette (source : SourceWithPalette D) (disk : Disk) (device : Option (List UInt32)) :
    SourceWithPalette D :=
  let id := obsDataGetString source.settings paletteKey
  let active := (activePalette source.system).map (·.id)
  let system :=
    if id ≠ [] ∧ id ≠ c64DevicePaletteId ∧ active ≠ some id then
      (c64PaletteSelect source.system id disk).1
    else source.system
  c64SourceApplyPalette { source with system := system } disk device

/-- Create a source with settings. -/
def c64CreatePalette (settings : ObsData D) (system : PaletteSystem) (disk : Disk)
    (device : Option (List UInt32)) : SourceWithPalette D :=
  c64SourceApplyPalette ⟨settings, system, false, false, [], []⟩ disk device

end Sources

section Statements

variable {D : Type*} [ObsNumber D]

/-- A statement of a script about colours. -/
inductive PaletteStatement where
  | palette (id : Chars)
  | paletteColor (index red green blue : Int)
  deriving DecidableEq

/-- Whether a number is that of a colour, and whether three are its parts. -/
def IsPaletteIndex (index : Int) : Prop := 0 ≤ index ∧ index ≤ 15

def AreRgb (red green blue : Int) : Prop :=
  (0 ≤ red ∧ red ≤ 255) ∧ (0 ≤ green ∧ green ≤ 255) ∧ 0 ≤ blue ∧ blue ≤ 255

instance (index : Int) : Decidable (IsPaletteIndex index) :=
  inferInstanceAs (Decidable (_ ∧ _))

instance (red green blue : Int) : Decidable (AreRgb red green blue) :=
  inferInstanceAs (Decidable (_ ∧ _))

/-- What a statement queues, the name of a setting and its value, or why it is refused. -/
def PaletteStatement.queued : PaletteStatement → Except Chars (Chars × ObsValue D)
  | .palette id =>
    let id := if id = scriptDevicePalette then c64DevicePaletteId else id
    .ok (paletteKey, .string (id.take maxScriptText))
  | .paletteColor index red green blue =>
    if ¬ IsPaletteIndex index then .error "ILLEGAL QUANTITY (palette index)".toList
    else if ¬ AreRgb red green blue then .error "ILLEGAL QUANTITY (RGB values)".toList
    else .ok (customColorKey index.toNat, .int (red * 65536 + green * 256 + blue))

/-- Execute a statement: what it queues is applied, and the source is updated. -/
def executePaletteStatement (source : SourceWithPalette D) (disk : Disk)
    (device : Option (List UInt32)) (statement : PaletteStatement) : SourceWithPalette D :=
  match (statement.queued : Except Chars (Chars × ObsValue D)) with
  | .error _ => source
  | .ok (key, value) =>
    c64UpdatePalette { source with settings := source.settings.set key value } disk device

end Statements

end C64Stream
