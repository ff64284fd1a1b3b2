import C64Stream.Palette.LostFiles
import Mathlib.Data.List.Sort

/-! Runs of the palette operations: the palette that was selected last stays the active one. -/

namespace C64Stream

section Runs

/-- The palettes, and the id that was selected last. -/
structure Catalogue where
  system : PaletteSystem
  /-- The default id again once the selected palette is deleted or its file is missed. -/
  selected : Chars

/-- An operation, with what it finds on the disk. -/
inductive CatalogueOp where
  | select (id : Chars) (disk : Disk)
  | setWorkingColor (index : Int) (color : UInt32)
  | revert
  | save (disk : Disk)
  | saveAs (name path : Chars) (disk : Disk)
  | loadFromFile (path userDir : Chars) (disk : Disk)
  | delete (id : Chars) (disk : Disk)
  | autoSave (disk : Disk)
  | resolveColors (id : Chars) (disk : Disk)
  | validateFilesystem (disk : Disk)

/-- One operation; the selected id follows from the operations that succeed. -/
def catalogueStep (qsort : List PaletteEntry → List PaletteEntry) (catalogue : Catalogue) :
    CatalogueOp → Catalogue
  | .select id disk =>
    let (system, ok) := c64PaletteSelect catalogue.system id disk
    ⟨system, if ok then selectedId id else catalogue.selected⟩
  | .setWorkingColor index color =>
    ⟨(c64PaletteSetWorkingColor catalogue.system index color).1, catalogue.selected⟩
  | .revert => ⟨c64PaletteRevert catalogue.system, catalogue.selected⟩
  | .save disk => ⟨(c64PaletteSave catalogue.system disk).1, catalogue.selected⟩
  | .saveAs name path disk =>
    let (system, ok) := c64PaletteSaveAs qsort catalogue.system name path disk
    ⟨system, if ok then selectedId (paletteId path) else catalogue.selected⟩
  | .loadFromFile path userDir disk =>
    let (system, ok) := c64PaletteLoadFromFile qsort catalogue.system path userDir disk
    ⟨system, if ok then selectedId (paletteId path) else catalogue.selected⟩
  | .delete id disk =>
    let (system, ok) := c64PaletteDelete catalogue.system id disk
    ⟨system, if ok && id = catalogue.selected then defaultId else catalogue.selected⟩
  | .autoSave disk =>
    ⟨(c64PaletteAutoSave qsort catalogue.system disk).1,
      autoSavedId qsort catalogue.system disk catalogue.selected⟩
  | .resolveColors id disk =>
    ⟨(c64PaletteResolveColors catalogue.system id disk).1, catalogue.selected⟩
  | .validateFilesystem disk =>
    ⟨c64PaletteValidateFilesystem qsort catalogue.system disk,
      if catalogue.system.palettes.any fun entry =>
        entry.id = catalogue.selected && isMissing disk entry
      then defaultId else catalogue.selected⟩

/-- The palettes as they are after the start. -/
def initialCatalogue (qsort : List PaletteEntry → List PaletteEntry)
    (defaultPalette : List UInt32) (userPaletteDir shippedPath : Chars)
    (shipped : Option (List DirEntry)) (disk : Disk) : Catalogue :=
  ⟨c64PaletteInit qsort defaultPalette userPaletteDir shippedPath shipped disk, defaultId⟩

/-- The ids are distinct and the default is first; the active palette is the selected one, and
unless the edited colours were changed they are its colours. -/
structure CatalogueSound (catalogue : Catalogue) : Prop where
  distinct : (catalogue.system.palettes.map (·.id)).Nodup
  default : catalogue.system.palettes.head?.map (·.id) = some defaultId
  active : (activePalette catalogue.system).map (·.id) = some catalogue.selected
  colors : catalogue.system.workingModified = false →
    (activePalette catalogue.system).map (·.colors) = some catalogue.system.workingColors

/-- What keeps an operation from losing the selected palette: the check for lost files must find it
where it looks. -/
def KeepsSelection (catalogue : Catalogue) : CatalogueOp → Prop
  | .validateFilesystem disk => SelectionSurvives catalogue.system disk
  | _ => True

instance (catalogue : Catalogue) (op : CatalogueOp) : Decidable (KeepsSelection catalogue op) := by
  cases op <;> unfold KeepsSelection <;> infer_instance

variable {qsort : List PaletteEntry → List PaletteEntry}

theorem SystemSound.catalogueSound {catalogue : Catalogue}
    (sound : SystemSound catalogue.system catalogue.selected) : CatalogueSound catalogue := by
  obtain ⟨index, entry, found⟩ := sound.selected
  obtain ⟨first, rest, palettes, id, _⟩ := sound.listing.default
  refine ⟨sound.listing.distinct, ?_, ?_, fun unmodified => ?_⟩
  · rw [palettes, List.head?_cons, Option.map_some, id]
  · rw [found.activePalette, Option.map_some, found.id]
  · rw [found.activePalette, Option.map_some, found.colors unmodified]

theorem c64PaletteInit_sound (sorts : Sorts qsort) (defaultPalette : List UInt32)
    (userPaletteDir shippedPath : Chars) (shipped : Option (List DirEntry)) (disk : Disk) :
    SystemSound (c64PaletteInit qsort defaultPalette userPaletteDir shippedPath shipped disk)
      defaultId := by
  unfold c64PaletteInit
  dsimp only
  -- The files that are found only add to the default palette.
  have grown := (discoverShippedPalettes_grown
    { palettes := [⟨defaultId, defaultId, [], true, defaultPalette, true⟩]
      spare := List.replicate (c64MaxPalettes - 1)
        ⟨[], [], [], false, List.replicate c64PaletteColors 0, false⟩
      activePaletteIndex := none
      workingColors := List.replicate c64PaletteColors 0
      workingModified := false
      userPaletteDir := userPaletteDir } shippedPath shipped disk).trans
    (discoverCustomPalettes_grown _ disk)
  have listed := grown.listing ⟨List.nodup_singleton _, _, [], rfl, rfl, rfl, rfl⟩
  have sorted := listed.sortPalettes sorts
  exact c64PaletteSelect_selected sorted (c64PaletteSelect_default sorted disk)

theorem catalogueStep_sound (sorts : Sorts qsort) {catalogue : Catalogue}
    (sound : SystemSound catalogue.system catalogue.selected) {op : CatalogueOp}
    (keeps : KeepsSelection catalogue op) :
    SystemSound (catalogueStep qsort catalogue op).system
      (catalogueStep qsort catalogue op).selected := by
  cases op with
  | select id disk => exact c64PaletteSelect_sound sound id disk
  | setWorkingColor index color => exact c64PaletteSetWorkingColor_sound sound index color
  | revert => exact c64PaletteRevert_sound sound
  | save disk => exact c64PaletteSave_sound sound disk
  | saveAs name path disk => exact c64PaletteSaveAs_sound sorts sound name path disk
  | loadFromFile path userDir disk =>
    exact c64PaletteLoadFromFile_sound sorts sound path userDir disk
  | delete id disk => exact c64PaletteDelete_sound sound id disk
  | autoSave disk => exact c64PaletteAutoSave_sound sorts sound disk
  | resolveColors id disk => exact c64PaletteResolveColors_sound sound id disk
  | validateFilesystem disk => exact c64PaletteValidateFilesystem_sound sorts sound keeps

/-- In every run whose checks for lost files find the selected palette, the palettes are sound. -/
theorem palettes_catalogueSound (sorts : Sorts qsort) (defaultPalette : List UInt32)
    (userPaletteDir shippedPath : Chars) (shipped : Option (List DirEntry)) (disk : Disk)
    (ops : List CatalogueOp)
    (keeps : EachStep (catalogueStep qsort) KeepsSelection
      (initialCatalogue qsort defaultPalette userPaletteDir shippedPath shipped disk) ops) :
    Always (catalogueStep qsort) CatalogueSound
      (initialCatalogue qsort defaultPalette userPaletteDir shippedPath shipped disk) ops := by
  have sound := @always_of_eachStep _ _ (catalogueStep qsort)
    (fun catalogue => SystemSound catalogue.system catalogue.selected) KeepsSelection
    (fun _ _ sound keeps => catalogueStep_sound sorts sound keeps) _ ops keeps
    (c64PaletteInit_sound sorts defaultPalette userPaletteDir shippedPath shipped disk)
  exact sound.imp fun _ sound => sound.catalogueSound

end Runs

section Examples

/-- A sort by insertion. -/
def insertionSortPalettes (palettes : List PaletteEntry) : List PaletteEntry :=
  palettes.insertionSort fun a b => paletteCompare a b ≠ .gt

theorem paletteCompare_total (a b : PaletteEntry) :
    paletteCompare a b ≠ .gt ∨ paletteCompare b a ≠ .gt := by
  unfold paletteCompare
  by_cases left : a.id = defaultId
  · exact .inl (by rw [if_pos left]; nofun)
  · by_cases right : b.id = defaultId
    · exact .inr (by rw [if_pos right]; nofun)
    · rw [if_neg left, if_neg right, if_neg right, if_neg left]
      rcases lt_trichotomy (lowercase a.name) (lowercase b.name) with less | same | greater
      · exact .inl (by rw [if_pos less]; nofun)
      · rw [same, if_neg (lt_irrefl _), if_neg (lt_irrefl _)]
        exact .inl nofun
      · exact .inr (by rw [if_pos greater]; nofun)

theorem paletteCompare_trans {a b c : PaletteEntry} (first : paletteCompare a b ≠ .gt)
    (second : paletteCompare b c ≠ .gt) : paletteCompare a c ≠ .gt := by
  unfold paletteCompare at *
  by_cases left : a.id = defaultId
  · rw [if_pos left]
    nofun
  · rw [if_neg left] at first ⊢
    by_cases middle : b.id = defaultId
    · rw [if_pos middle] at first
      exact absurd rfl first
    · rw [if_neg middle] at first second
      by_cases right : c.id = defaultId
      · rw [if_pos right] at second
        exact absurd rfl second
      · rw [if_neg right] at second ⊢
        have ordered {x y : Chars}
            (compared : (if x < y then Ordering.lt else if y < x then .gt else .eq) ≠ .gt) :
            x ≤ y := by
          by_contra above
          rw [if_neg (not_lt.mpr (not_le.mp above).le), if_pos (not_le.mp above)] at compared
          exact compared rfl
        have order := (ordered first).trans (ordered second)
        split
        · nofun
        · rw [if_neg order.not_gt]
          nofun

theorem insertionSortPalettes_sorts : Sorts insertionSortPalettes := by
  intro palettes
  have : IsTrans PaletteEntry fun a b => paletteCompare a b ≠ .gt :=
    ⟨fun _ _ _ => paletteCompare_trans⟩
  have : Std.Total fun a b : PaletteEntry => paletteCompare a b ≠ .gt :=
    ⟨paletteCompare_total⟩
  exact ⟨List.perm_insertionSort _ _, List.pairwise_insertionSort _ _⟩

/-- A disk with palette files of these names in the user directory. -/
def diskWith (names : List Chars) : Disk where
  opens path := names.any fun name => path = "u/".toList ++ name
  vpl path :=
    if names.any fun name => path = "u/".toList ++ name then
      some ⟨List.replicate 16 (UInt32.ofNat path.length), []⟩
    else none
  userDir := some (names.map fun name => ⟨name, false⟩)
  hasUserDir := true
  writes := true
  unlinks := true

def threeFiles : List Chars := ["a.vpl".toList, "bb.vpl".toList, "ccc.vpl".toList]

/-- The palettes at the start, when the user has three files. -/
def threePalettes : Catalogue :=
  initialCatalogue insertionSortPalettes (List.replicate 16 7) "u".toList "s".toList none
    (diskWith threeFiles)

/-- The first palette of the user is selected and edited, and then the file of another one is
lost. -/
def quietLoss : List CatalogueOp :=
  [.select "a".toList (diskWith threeFiles), .setWorkingColor 3 9, .autoSave (diskWith threeFiles),
    .validateFilesystem (diskWith ["a.vpl".toList, "bb.vpl".toList]),
    .delete "a".toList (diskWith ["a.vpl".toList, "bb.vpl".toList])]

/-- That loss leaves the palettes sound. -/
theorem quietLoss_catalogueSound :
    Always (catalogueStep insertionSortPalettes) CatalogueSound threePalettes quietLoss :=
  palettes_catalogueSound insertionSortPalettes_sorts (List.replicate 16 7) "u".toList "s".toList
    none (diskWith threeFiles) quietLoss
    ⟨trivial, trivial, trivial, by decide +kernel, trivial, trivial⟩

/-- The second palette of the user is selected, and then its file and that of the first are
lost. -/
def unnoticedLoss : List CatalogueOp :=
  [.select "bb".toList (diskWith threeFiles), .validateFilesystem (diskWith ["ccc.vpl".toList])]

/-- The loss of the selected palette is not noticed, and another one is active. -/
theorem unnoticedLoss_not_catalogueSound :
    ¬ Always (catalogueStep insertionSortPalettes) CatalogueSound threePalettes unnoticedLoss := by
  intro always
  have active := always.last.active
  have other : (activePalette
      (unnoticedLoss.foldl (catalogueStep insertionSortPalettes) threePalettes).system).map (·.id) ≠
      some (unnoticedLoss.foldl (catalogueStep insertionSortPalettes) threePalettes).selected := by
    decide +kernel
  exact other active

end Examples

end C64Stream
