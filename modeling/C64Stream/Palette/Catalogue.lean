import Mathlib.Data.Char
import Mathlib.Data.List.Basic
import Mathlib.Order.Defs.LinearOrder
import Mathlib.Tactic

/-! The palettes that can be chosen: a list of files, and the one that is edited. -/

namespace C64Stream

section Text

abbrev Chars := List Char

/-- What is left of a string in a buffer with room for its end mark. -/
def copyText (size : Nat) (source : Chars) : Chars :=
  source.take (size - 1)

/-- A string without the difference between capital and small letters. -/
def lowercase (source : Chars) : Chars :=
  source.map Char.toLower

/-- What follows the last separator of a path, or all of it. -/
def fileName (path : Chars) : Chars :=
  (path.reverse.takeWhile (· != '/')).reverse

/-- The parts of a name before its last dot and from there on. -/
def splitExtension (name : Chars) : Option (Chars × Chars) :=
  if '.' ∈ name then
    let extension := '.' :: (name.reverse.takeWhile (· != '.')).reverse
    some (name.take (name.length - extension.length), extension)
  else none

/-- Whether a name ends like a palette file. -/
def hasVplExtension (name : Chars) : Bool :=
  match splitExtension name with
  | none => false
  | some (_, extension) => lowercase extension = ".vpl".toList

end Text

section System

def c64MaxPalettes : Nat := 64

def c64PaletteColors : Nat := 16

def c64PaletteNameMax : Nat := 64

def c64PalettePathMax : Nat := 512

def defaultId : Chars := "Default".toList

/-- A palette; its colours are loaded when they are needed. -/
structure PaletteEntry where
  id : Chars
  name : Chars
  path : Chars
  isShipped : Bool
  colors : List UInt32
  colorsLoaded : Bool
  deriving DecidableEq

/-- The palettes, and the one that is edited. -/
structure PaletteSystem where
  palettes : List PaletteEntry
  /-- What is in memory behind the palettes. -/
  spare : List PaletteEntry
  /-- Nothing is active before the first selection. -/
  activePaletteIndex : Option Nat
  workingColors : List UInt32
  workingModified : Bool
  userPaletteDir : Chars
  deriving DecidableEq

/-- What is read from a palette file: the colours in it, and its name. -/
structure VplFile where
  colors : List UInt32
  name : Chars
  deriving DecidableEq

/-- An entry of a directory. -/
structure DirEntry where
  name : Chars
  directory : Bool
  deriving DecidableEq

/-- What an operation finds on the disk. -/
structure Disk where
  opens : Chars → Bool
  vpl : Chars → Option VplFile
  /-- The entries of the user directory, if it can be opened. -/
  userDir : Option (List DirEntry)
  hasUserDir : Bool
  writes : Bool
  unlinks : Bool

end System

section Entries

/-- Where the first palette with an id is. -/
def findPalette (palettes : List PaletteEntry) (id : Chars) : Option Nat :=
  palettes.findIdx? fun entry => entry.id = id

/-- Add a palette, unless there is no room or one has its id but for capitals. -/
def addPaletteEntry (system : PaletteSystem) (id name path : Chars) (isShipped : Bool) :
    PaletteSystem × Bool :=
  if system.palettes.length ≥ c64MaxPalettes then (system, false)
  else if system.palettes.any fun entry => lowercase entry.id = lowercase id then (system, false)
  else
    let entry : PaletteEntry :=
      { id := copyText c64PaletteNameMax id
        name := copyText c64PaletteNameMax name
        path := copyText c64PalettePathMax path
        isShipped := isShipped
        -- The colours are whatever the memory holds there.
        colors := (system.spare.head?.map (·.colors)).getD (List.replicate c64PaletteColors 0)
        colorsLoaded := false }
    ({ system with palettes := system.palettes ++ [entry], spare := system.spare.tail }, true)

/-- Remove a palette by moving down the ones behind it; the last one stays in memory. -/
def removePaletteEntry (system : PaletteSystem) (index : Nat) : PaletteSystem :=
  { system with
    palettes := system.palettes.eraseIdx index
    spare := system.palettes.getLast?.toList ++ system.spare
    activePaletteIndex := system.activePaletteIndex.map fun active =>
      if active > index then active - 1 else active }

/-- The order of palettes: the default first, then by name without regard to capitals. -/
def paletteCompare (a b : PaletteEntry) : Ordering :=
  if a.id = defaultId then .lt
  else if b.id = defaultId then .gt
  else if lowercase a.name < lowercase b.name then .lt
  else if lowercase b.name < lowercase a.name then .gt
  else .eq

/-- Load the colours of a palette from its file, unless they are loaded; a file with too few colours
leaves those that it has. -/
def loadColors (entry : PaletteEntry) (disk : Disk) : PaletteEntry × Bool :=
  if entry.colorsLoaded || entry.path = [] then (entry, true)
  else
    match disk.vpl entry.path with
    | none => (entry, false)
    | some file =>
      let count := min c64PaletteColors file.colors.length
      let loaded := { entry with colors := file.colors.take count ++ entry.colors.drop count }
      if count < c64PaletteColors then (loaded, false)
      else
        ({ loaded with
            colorsLoaded := true
            name := if file.name = [] then entry.name else copyText c64PaletteNameMax file.name },
          true)

/-- Replace a palette. -/
def setPalette (system : PaletteSystem) (index : Nat) (entry : PaletteEntry) : PaletteSystem :=
  { system with palettes := system.palettes.set index entry }

end Entries

section Discovery

/-- The id of a file in a directory: its name without the extension. -/
def directoryId (name : Chars) : Chars :=
  let id := copyText c64PaletteNameMax name
  match splitExtension id with
  | none => id
  | some (stem, _) => stem

/-- The name that a palette gets from its file, or else from its id. -/
def nameOr (name id : Chars) : Chars :=
  if name = [] then id else name

/-- A palette file of the module is added, unless it is that of the default palette. -/
def discoverShippedPalette (path : Chars) (disk : Disk) (system : PaletteSystem)
    (entry : DirEntry) : PaletteSystem :=
  if entry.directory || !hasVplExtension entry.name || entry.name.length < 5 then system
  else
    let fullPath := copyText c64PalettePathMax (path ++ '/' :: entry.name)
    let id := directoryId entry.name
    if lowercase id = lowercase defaultId then system
    else
      match disk.vpl fullPath with
      | none => system
      | some file =>
        if file.colors.length < c64PaletteColors then system
        else (addPaletteEntry system id (nameOr file.name id) fullPath true).1

/-- Add the palettes of the module. -/
def discoverShippedPalettes (system : PaletteSystem) (path : Chars)
    (entries : Option (List DirEntry)) (disk : Disk) : PaletteSystem :=
  (entries.getD []).foldl (discoverShippedPalette path disk) system

/-- A palette file of the user is added, unless its id is in use. -/
def discoverCustomPalette (disk : Disk) (system : PaletteSystem) (entry : DirEntry) :
    PaletteSystem :=
  if entry.directory || !hasVplExtension entry.name then system
  else
    let fullPath := copyText 1024 (system.userPaletteDir ++ '/' :: entry.name)
    let id := directoryId entry.name
    if (findPalette system.palettes id).isSome then system
    else
      match disk.vpl fullPath with
      | none => system
      | some file =>
        if file.colors.length < c64PaletteColors then system
        else (addPaletteEntry system id (nameOr file.name id) fullPath false).1

/-- Add the palettes of the user. -/
def discoverCustomPalettes (system : PaletteSystem) (disk : Disk) : PaletteSystem :=
  if system.userPaletteDir = [] then system
  else (disk.userDir.getD []).foldl (discoverCustomPalette disk) system

end Discovery

section Operations

variable (qsort : List PaletteEntry → List PaletteEntry)

/-- Sort the palettes. -/
def sortPalettes (system : PaletteSystem) : PaletteSystem :=
  if system.palettes.length > 1 then { system with palettes := qsort system.palettes } else system

/-- Select a palette, whose colours are then edited. -/
def c64PaletteSelect (system : PaletteSystem) (id : Chars) (disk : Disk) : PaletteSystem × Bool :=
  let id := if id = [] then defaultId else id
  match findPalette system.palettes id with
  | none => (system, false)
  | some index =>
    match system.palettes[index]? with
    | none => (system, false)
    | some entry =>
      let (entry, loaded) := loadColors entry disk
      let system := setPalette system index entry
      if loaded = false then (system, false)
      else
        ({ system with
            activePaletteIndex := some index
            workingColors := entry.colors
            workingModified := false }, true)

/-- The palettes before any operation. -/
def c64PaletteInit (defaultPalette : List UInt32) (userPaletteDir shippedPath : Chars)
    (shipped : Option (List DirEntry)) (disk : Disk) : PaletteSystem :=
  let blank : PaletteEntry := ⟨[], [], [], false, List.replicate c64PaletteColors 0, false⟩
  let system : PaletteSystem :=
    { palettes := [⟨defaultId, defaultId, [], true, defaultPalette, true⟩]
      spare := List.replicate (c64MaxPalettes - 1) blank
      activePaletteIndex := none
      workingColors := List.replicate c64PaletteColors 0
      workingModified := false
      userPaletteDir := userPaletteDir }
  let system := discoverShippedPalettes system shippedPath shipped disk
  let system := discoverCustomPalettes system disk
  (c64PaletteSelect (sortPalettes qsort system) defaultId disk).1

/-- The active palette, if there is one. -/
def activePalette (system : PaletteSystem) : Option PaletteEntry :=
  system.activePaletteIndex.bind fun index => system.palettes[index]?

/-- Edit a colour. -/
def c64PaletteSetWorkingColor (system : PaletteSystem) (index : Int) (color : UInt32) :
    PaletteSystem × Bool :=
  if index < 0 ∨ index ≥ c64PaletteColors then (system, false)
  else
    ({ system with
        workingColors := system.workingColors.set index.toNat color
        workingModified := true }, true)

/-- Go back to the colours of the active palette. -/
def c64PaletteRevert (system : PaletteSystem) : PaletteSystem :=
  match activePalette system with
  | none => system
  | some entry => { system with workingColors := entry.colors, workingModified := false }

/-- Keep the edited colours as those of the active palette. -/
def keepWorkingColors (system : PaletteSystem) (index : Nat) (entry : PaletteEntry) :
    PaletteSystem :=
  { setPalette system index { entry with colors := system.workingColors } with
    workingModified := false }

/-- Save the edited colours to the file of the active palette, unless it is shipped. -/
def c64PaletteSave (system : PaletteSystem) (disk : Disk) : PaletteSystem × Bool :=
  match system.activePaletteIndex, activePalette system with
  | some index, some entry =>
    if entry.isShipped || !disk.writes then (system, false)
    else (keepWorkingColors system index entry, true)
  | _, _ => (system, false)

/-- The id of a palette file: its name, without the extension of palette files. -/
def paletteId (path : Chars) : Chars :=
  let id := copyText c64PaletteNameMax (fileName path)
  match splitExtension id with
  | none => id
  | some (stem, extension) => if lowercase extension = ".vpl".toList then stem else id

/-- Give the colours to the palette that was added last. -/
def colorLast (system : PaletteSystem) (colors : List UInt32) : PaletteSystem :=
  let index := system.palettes.length - 1
  match system.palettes[index]? with
  | none => system
  | some entry => setPalette system index { entry with colors := colors, colorsLoaded := true }

/-- Save the edited colours to a file, whose palette is then selected. -/
def c64PaletteSaveAs (system : PaletteSystem) (name path : Chars) (disk : Disk) :
    PaletteSystem × Bool :=
  if name = [] ∨ path = [] then (system, false)
  else if disk.hasUserDir = false ∨ disk.writes = false then (system, false)
  else
    let id := paletteId path
    let (listed, ok) :=
      match findPalette system.palettes id with
      | some index =>
        match system.palettes[index]? with
        | some entry =>
          (setPalette system index
            { entry with colors := system.workingColors, colorsLoaded := true }, true)
        | none => (system, true)
      | none =>
        let (added, ok) := addPaletteEntry system id name path false
        if ok then (colorLast added system.workingColors, true) else (added, false)
    if ok = false then (listed, false)
    else ((c64PaletteSelect (sortPalettes qsort listed) id disk).1, true)

/-- Copy a palette file to the user directory and select its palette. -/
def c64PaletteLoadFromFile (system : PaletteSystem) (path userDir : Chars) (disk : Disk) :
    PaletteSystem × Bool :=
  if path = [] then (system, false)
  else
    match disk.vpl path with
    | none => (system, false)
    | some file =>
      let colors := file.colors.take c64PaletteColors
      let destPath := userDir ++ '/' :: fileName path
      let id := paletteId path
      if file.colors.length < c64PaletteColors ∨ disk.hasUserDir = false ∨
          destPath.length ≥ c64PalettePathMax then (system, false)
      else if system.palettes.any fun entry => entry.isShipped && entry.id = id then
        (system, false)
      else if disk.writes = false then (system, false)
      else
        let name := copyText c64PaletteNameMax (nameOr file.name id)
        let (listed, ok) :=
          match findPalette system.palettes id with
          | some index =>
            match system.palettes[index]? with
            | some entry =>
              (setPalette system index
                { entry with
                  colors := colors
                  colorsLoaded := true
                  name := name
                  path := copyText c64PalettePathMax destPath }, true)
            | none => (system, true)
          | none =>
            let (added, ok) := addPaletteEntry system id name destPath false
            if ok then (colorLast added colors, true) else (added, false)
        if ok = false then (listed, false)
        else ((c64PaletteSelect (sortPalettes qsort listed) id disk).1, true)

/-- The name that a copy of a shipped palette gets. -/
def customName (entry : PaletteEntry) : Chars :=
  entry.name ++ " (Custom)".toList

/-- The file that a copy of a shipped palette gets. -/
def customPath (system : PaletteSystem) (entry : PaletteEntry) : Chars :=
  system.userPaletteDir ++ '/' :: lowercase entry.id ++ "-custom.vpl".toList

/-- Save edited colours: to the file of the active palette, or to a copy if it is shipped; tell
whether a copy was made. -/
def c64PaletteAutoSave (system : PaletteSystem) (disk : Disk) : PaletteSystem × Bool :=
  if system.workingModified = false then (system, false)
  else
    match system.activePaletteIndex, activePalette system with
    | some index, some entry =>
      if entry.isShipped then
        if (customName entry).length ≥ c64PaletteNameMax ∨
            (customPath system entry).length ≥ 1024 then (system, false)
        else c64PaletteSaveAs qsort system (customName entry) (customPath system entry) disk
      else if disk.writes = false then (system, false)
      else (keepWorkingColors system index entry, false)
    | _, _ => (system, false)

/-- Delete the file of a palette and the palette, unless it is shipped. -/
def c64PaletteDelete (system : PaletteSystem) (id : Chars) (disk : Disk) : PaletteSystem × Bool :=
  if id = [] then (system, false)
  else
    match findPalette system.palettes id with
    | none => (system, false)
    | some index =>
      match system.palettes[index]? with
      | none => (system, false)
      | some entry =>
        if entry.isShipped || (disk.opens entry.path && !disk.unlinks) then (system, false)
        else
          let system :=
            if system.activePaletteIndex = some index then
              (c64PaletteSelect system defaultId disk).1
            else system
          (removePaletteEntry system index, true)

/-- The colours of a palette, which are loaded if need be. -/
def c64PaletteResolveColors (system : PaletteSystem) (id : Chars) (disk : Disk) :
    PaletteSystem × Option (List UInt32) :=
  let id := if id = [] then defaultId else id
  match findPalette system.palettes id with
  | none => (system, none)
  | some index =>
    match system.palettes[index]? with
    | none => (system, none)
    | some entry =>
      let (entry, loaded) := loadColors entry disk
      (setPalette system index entry, if loaded then some entry.colors else none)

end Operations

section Validation

/-- Whether a palette of the user has lost its file. -/
def isMissing (disk : Disk) (entry : PaletteEntry) : Bool :=
  !entry.isShipped && !(entry.path != [] && disk.opens entry.path)

/-- The state of the loop that looks for lost files. -/
structure ValidationLoop where
  system : PaletteSystem
  index : Nat
  removedCount : Nat
  activePaletteMissing : Bool

/-- The id that a pointer into the palettes shows, whatever was moved there since. -/
def pointedId (system : PaletteSystem) (pointer : Option Nat) : Chars :=
  match pointer.bind fun index => (system.palettes ++ system.spare)[index]? with
  | none => defaultId
  | some entry => entry.id

/-- One turn of the loop: a palette without a file is removed, and compared with the active one
through the pointer. -/
def validatePalette (disk : Disk) (pointer : Option Nat) (loop : ValidationLoop)
    (entry : PaletteEntry) : ValidationLoop :=
  if isMissing disk entry then
    { system := removePaletteEntry loop.system loop.index
      index := loop.index
      removedCount := loop.removedCount + 1
      activePaletteMissing :=
        loop.activePaletteMissing || entry.id = pointedId loop.system pointer }
  else { loop with index := loop.index + 1 }

/-- The loop over the palettes; each turn leaves one less to look at. -/
def validatePalettes (disk : Disk) (pointer : Option Nat) : Nat → ValidationLoop → ValidationLoop
  | 0, loop => loop
  | turns + 1, loop =>
    match loop.system.palettes[loop.index]? with
    | none => loop
    | some entry => validatePalettes disk pointer turns (validatePalette disk pointer loop entry)

/-- Remove the palettes whose files are lost, and fall back from the active one to the default. -/
def c64PaletteValidateFilesystem (qsort : List PaletteEntry → List PaletteEntry)
    (system : PaletteSystem) (disk : Disk) : PaletteSystem :=
  let pointer := if (activePalette system).isSome then system.activePaletteIndex else none
  let loop := validatePalettes disk pointer system.palettes.length ⟨system, 0, 0, false⟩
  let system :=
    if loop.removedCount > 0 then sortPalettes qsort (discoverCustomPalettes loop.system disk)
    else loop.system
  if loop.activePaletteMissing then (c64PaletteSelect system defaultId disk).1 else system

end Validation

end C64Stream
