import C64Stream.Palette.Selections

/-! The palettes that come with the plugin: what may become of them and of their colours. -/

namespace C64Stream

section Files

/-- A palette that comes with the plugin, with the colours of its file. -/
structure ShippedPalette where
  id : Chars
  /-- Empty for the default palette, which has no file. -/
  path : Chars
  colors : List UInt32
  deriving DecidableEq

/-- The shipped palettes of a list; an empty id cannot be asked for, as it means the default. -/
def shippedPalettes (defaultPalette : List UInt32) (disk : Disk) (palettes : List PaletteEntry) :
    List ShippedPalette :=
  (palettes.filter fun entry => entry.isShipped && entry.id != []).map fun entry =>
    { id := entry.id
      path := entry.path
      colors :=
        if entry.path = [] then defaultPalette
        else ((disk.vpl entry.path).map fun file => file.colors.take c64PaletteColors).getD [] }

/-- A disk has the files of the shipped palettes as they came, but for files that were touched. -/
def Disk.HasShipped (disk : Disk) (shipped : List ShippedPalette) (touched : List Chars) : Prop :=
  ∀ palette ∈ shipped, palette.path ≠ [] → palette.path ∉ touched →
    ∃ file, disk.vpl palette.path = some file ∧ c64PaletteColors ≤ file.colors.length ∧
      file.colors.take c64PaletteColors = palette.colors

/-- The file that saving the edited colours under another name writes. -/
def savedAsFile (name path : Chars) (disk : Disk) : Option Chars :=
  if name = [] ∨ path = [] ∨ disk.hasUserDir = false ∨ disk.writes = false then none
  else some path

/-- The file that an operation saves the edited colours to under another name. -/
def savedAs (system : PaletteSystem) : CatalogueOp → Option Chars
  | .saveAs name path disk => savedAsFile name path disk
  | .autoSave disk =>
    match activePalette system with
    | some entry =>
      if system.workingModified && entry.isShipped &&
          decide ((customName entry).length < c64PaletteNameMax) &&
          decide ((customPath system entry).length < 1024) then
        savedAsFile (customName entry) (customPath system entry) disk
      else none
    | none => none
  | _ => none

/-- The other files that an operation may write or delete. -/
def touchedBeside (system : PaletteSystem) : CatalogueOp → List Chars
  | .save _ | .autoSave _ =>
    match activePalette system with
    | some entry => if entry.isShipped then [] else [entry.path]
    | none => []
  | .loadFromFile path userDir _ => [userDir ++ '/' :: fileName path]
  | .delete id _ =>
    match (findPalette system.palettes id).bind fun index => system.palettes[index]? with
    | some entry => if entry.isShipped then [] else [entry.path]
    | none => []
  | _ => []

/-- What an operation finds on the disk. -/
def CatalogueOp.disk : CatalogueOp → Option Disk
  | .select _ disk | .save disk | .saveAs _ _ disk | .loadFromFile _ _ disk | .delete _ disk
  | .autoSave disk | .resolveColors _ disk | .validateFilesystem disk => some disk
  | .setWorkingColor _ _ | .revert => none

end Files

section Runs

/-- The palettes, beside the files that operations may have written or deleted. -/
structure ShippedRun where
  catalogue : Catalogue
  touched : List Chars

/-- One operation, with the files that it touches. -/
def shippedStep (qsort : List PaletteEntry → List PaletteEntry) (run : ShippedRun)
    (op : CatalogueOp) : ShippedRun where
  catalogue := catalogueStep qsort run.catalogue op
  touched :=
    (savedAs run.catalogue.system op).toList ++ touchedBeside run.catalogue.system op ++
      run.touched

/-- Nobody but the palette operations touches the files of the shipped palettes. -/
def FilesStay (shipped : List ShippedPalette) (run : ShippedRun) (op : CatalogueOp) : Prop :=
  ∀ disk ∈ op.disk, disk.HasShipped shipped run.touched

/-- An operation saves no other colours under the id of a shipped palette, and touches none of
their files. -/
def SparesShipped (shipped : List ShippedPalette) (run : ShippedRun) (op : CatalogueOp) : Prop :=
  (∀ path ∈ savedAs run.catalogue.system op, ∀ palette ∈ shipped,
    palette.id = paletteId path → run.catalogue.system.workingColors = palette.colors) ∧
  ∀ path ∈ (savedAs run.catalogue.system op).toList ++ touchedBeside run.catalogue.system op,
    ∀ palette ∈ shipped, palette.path ≠ [] → palette.path ≠ path

/-- Every shipped palette is there, and its id gives the colours of its file. -/
def ShippedIntact (shipped : List ShippedPalette) (run : ShippedRun) : Prop :=
  ∀ palette ∈ shipped,
    (∃ entry ∈ run.catalogue.system.palettes, entry.id = palette.id ∧ entry.isShipped = true) ∧
    ∀ disk : Disk, disk.HasShipped shipped run.touched →
      (c64PaletteResolveColors run.catalogue.system palette.id disk).2 = some palette.colors

instance (shipped : List ShippedPalette) (run : ShippedRun) (op : CatalogueOp) :
    Decidable (SparesShipped shipped run op) :=
  inferInstanceAs (Decidable (_ ∧ _))

end Runs

section Entries

variable {index : Nat} {old new entry : PaletteEntry} {system : PaletteSystem}
  {palette : ShippedPalette} {disk : Disk}

/-- An entry is that of a shipped palette, with its colours if they need not be loaded. -/
structure ShippedPalette.ShownBy (palette : ShippedPalette) (entry : PaletteEntry) : Prop where
  id : entry.id = palette.id
  isShipped : entry.isShipped = true
  path : entry.path = palette.path
  colors : entry.Ready → entry.colors = palette.colors
  size : ¬ entry.Ready → entry.colors.length ≤ c64PaletteColors

/-- The palettes are listed soundly, and all shipped ones are among them. -/
structure ShippedListed (shipped : List ShippedPalette) (palettes : List PaletteEntry) : Prop where
  listing : ListingSound palettes
  shown : ∀ palette ∈ shipped, ∃ entry ∈ palettes, palette.ShownBy entry

variable {shipped : List ShippedPalette} {palettes : List PaletteEntry}

theorem ShippedListed.set (listed : ShippedListed shipped palettes)
    (found : palettes[index]? = some old) (becomes : old.Becomes new)
    (keeps : ∀ palette ∈ shipped, palette.ShownBy old → palette.ShownBy new) :
    ShippedListed shipped (palettes.set index new) where
  listing := listed.listing.set found becomes
  shown := by
    intro palette member
    obtain ⟨entry, inside, shown⟩ := listed.shown palette member
    obtain ⟨place, atPlace⟩ := List.mem_iff_getElem?.mp inside
    -- The entry is the changed one, or it stays where it is.
    by_cases same : index = place
    · subst same
      obtain rfl := Option.some.inj (found.symm.trans atPlace)
      have bound := (List.getElem?_eq_some_iff.mp found).1
      exact ⟨new, List.mem_of_getElem? (List.getElem?_set_self bound),
        keeps palette member shown⟩
    · exact ⟨entry, List.mem_of_getElem? ((List.getElem?_set_ne same).trans atPlace), shown⟩

theorem ShippedListed.setOther (listed : ShippedListed shipped palettes)
    (found : palettes[index]? = some old) (becomes : old.Becomes new)
    (other : old.isShipped = false) : ShippedListed shipped (palettes.set index new) :=
  listed.set found becomes fun _ _ shown => absurd (shown.isShipped.symm.trans other) nofun

theorem ShippedListed.grow (listed : ShippedListed shipped palettes)
    {grown : List PaletteEntry} (sound : ListingSound grown) (subset : palettes ⊆ grown) :
    ShippedListed shipped grown :=
  ⟨sound, fun palette member =>
    let ⟨entry, inside, shown⟩ := listed.shown palette member
    ⟨entry, subset inside, shown⟩⟩

theorem ShippedListed.sortPalettes {qsort : List PaletteEntry → List PaletteEntry}
    (sorts : Sorts qsort) (listed : ShippedListed shipped system.palettes) :
    ShippedListed shipped (sortPalettes qsort system).palettes :=
  listed.grow (listed.listing.sortPalettes sorts) (sortPalettes_perm sorts system).symm.subset

theorem ShippedListed.remove (listed : ShippedListed shipped system.palettes)
    (found : system.palettes[index]? = some entry) (other : entry.isShipped = false) :
    ShippedListed shipped (removePaletteEntry system index).palettes where
  listing := by
    refine listed.listing.eraseIdx fun first => ?_
    obtain ⟨default, atStart, _, ships, _⟩ := listed.listing.first
    rw [first, atStart] at found
    obtain rfl := Option.some.inj found
    exact absurd (ships.symm.trans other) nofun
  shown := by
    intro palette member
    obtain ⟨shownEntry, inside, shown⟩ := listed.shown palette member
    refine ⟨shownEntry, ?_, shown⟩
    obtain ⟨place, atPlace⟩ := List.mem_iff_getElem?.mp inside
    refine List.mem_eraseIdx_iff_getElem?.mpr ⟨place, ?_, atPlace⟩
    rintro rfl
    obtain rfl := Option.some.inj (found.symm.trans atPlace)
    exact absurd (shown.isShipped.symm.trans other) nofun

theorem ShippedPalette.ShownBy.recolor (shown : palette.ShownBy old) (id : new.id = old.id)
    (isShipped : new.isShipped = old.isShipped) (path : new.path = old.path)
    (colors : new.colors = palette.colors) (loaded : new.colorsLoaded = true) :
    palette.ShownBy new where
  id := id.trans shown.id
  isShipped := isShipped.trans shown.isShipped
  path := path.trans shown.path
  colors _ := colors
  size unready := absurd (.inl loaded) unready

theorem ShippedPalette.ShownBy.load (shown : palette.ShownBy entry) (member : palette ∈ shipped)
    (files : disk.HasShipped shipped []) :
    (loadColors entry disk).2 = true ∧ palette.ShownBy (loadColors entry disk).1 ∧
      (loadColors entry disk).1.colors = palette.colors := by
  by_cases ready : entry.Ready
  · rw [loadColors_ready ready]
    exact ⟨rfl, shown, shown.colors ready⟩
  -- Otherwise the file is there, with enough colours.
  obtain ⟨unloaded, stored⟩ := not_or.mp ready
  obtain ⟨file, readable, enough, colors⟩ :=
    files palette member (shown.path ▸ stored) List.not_mem_nil
  rw [← shown.path] at readable
  have unready : ¬ (entry.colorsLoaded || decide (entry.path = [])) = true := by
    simp [unloaded, stored]
  have loaded : file.colors.take c64PaletteColors ++ entry.colors.drop c64PaletteColors =
      palette.colors := by
    rw [List.drop_of_length_le (shown.size ready), List.append_nil, colors]
  have result : loadColors entry disk =
      ({ entry with
          colors := file.colors.take c64PaletteColors ++ entry.colors.drop c64PaletteColors
          colorsLoaded := true
          name :=
            if file.name = [] then entry.name else copyText c64PaletteNameMax file.name }, true) := by
    rw [loadColors, if_neg unready, readable]
    simp only [Nat.min_eq_left enough, lt_irrefl, if_false]
  rw [result]
  exact ⟨rfl, shown.recolor rfl rfl rfl loaded rfl, loaded⟩

theorem ShippedListed.load (listed : ShippedListed shipped palettes)
    (found : palettes[index]? = some entry) (files : disk.HasShipped shipped []) :
    ShippedListed shipped (palettes.set index (loadColors entry disk).1) :=
  listed.set found (loadColors_becomes entry disk) fun _ member shown =>
    (shown.load member files).2.1

theorem ShippedListed.resolves (listed : ShippedListed shipped system.palettes)
    (member : palette ∈ shipped) (named : palette.id ≠ []) (files : disk.HasShipped shipped []) :
    (c64PaletteResolveColors system palette.id disk).2 = some palette.colors := by
  obtain ⟨entry, inside, shown⟩ := listed.shown palette member
  obtain ⟨index, found⟩ := List.mem_iff_getElem?.mp inside
  obtain ⟨loads, _, colors⟩ := shown.load member files
  have place : findPalette system.palettes palette.id = some index := by
    rw [← shown.id]
    exact listed.listing.find found
  unfold c64PaletteResolveColors
  rw [if_neg named]
  simp only [place, found, loads, if_true, colors]

end Entries

section Operations

variable {shipped : List ShippedPalette} {qsort : List PaletteEntry → List PaletteEntry}
  {system : PaletteSystem} {disk : Disk} {entry : PaletteEntry}

theorem c64PaletteSelect_listed (listed : ShippedListed shipped system.palettes) (id : Chars)
    (files : disk.HasShipped shipped []) :
    ShippedListed shipped (c64PaletteSelect system id disk).1.palettes := by
  rcases c64PaletteSelect_cases system id disk with
    ⟨_, result⟩ | ⟨index, entry, found, _, ⟨_, result⟩ | ⟨_, result⟩⟩
  · rw [result]
    exact listed
  · rw [result]
    exact listed.load found files
  · rw [result]
    exact listed.load found files

theorem c64PaletteSelect_isShipped (id : Chars) (disk : Disk) (index : Nat) :
    (c64PaletteSelect system id disk).1.palettes[index]?.map (·.isShipped) =
      system.palettes[index]?.map (·.isShipped) := by
  have set : ∀ place entry, system.palettes[place]? = some entry →
      (system.palettes.set place (loadColors entry disk).1)[index]?.map (·.isShipped) =
        system.palettes[index]?.map (·.isShipped) := by
    intro place entry found
    by_cases same : place = index
    · subst same
      rw [List.getElem?_set_self (List.getElem?_eq_some_iff.mp found).1, found]
      exact congrArg some (loadColors_becomes entry disk).isShipped
    · rw [List.getElem?_set_ne same]
  rcases c64PaletteSelect_cases system id disk with
    ⟨_, result⟩ | ⟨place, entry, found, _, ⟨_, result⟩ | ⟨_, result⟩⟩
  · rw [result]
  · rw [result]
    exact set place entry found
  · rw [result]
    exact set place entry found

theorem keepWorkingColors_listed (listed : ShippedListed shipped system.palettes) {index : Nat}
    (found : system.palettes[index]? = some entry) (other : entry.isShipped = false) :
    ShippedListed shipped (keepWorkingColors system index entry).palettes :=
  listed.setOther found ⟨rfl, rfl, id⟩ other

theorem activePalette_found {index : Nat} (active : system.activePaletteIndex = some index)
    (found : activePalette system = some entry) :
    system.palettes[index]? = some entry := by
  rw [activePalette, active] at found
  exact found

theorem c64PaletteSave_listed (listed : ShippedListed shipped system.palettes) (disk : Disk) :
    ShippedListed shipped (c64PaletteSave system disk).1.palettes := by
  unfold c64PaletteSave
  split
  · rename_i index entry active found
    split
    · exact listed
    · rename_i writable
      simp only [Bool.or_eq_true, Bool.not_eq_true', not_or, Bool.not_eq_true] at writable
      exact keepWorkingColors_listed listed (activePalette_found active found) writable.1
  · exact listed

theorem sortSelect_listed (sorts : Sorts qsort) (listed : ShippedListed shipped system.palettes)
    (id : Chars) (files : disk.HasShipped shipped []) :
    ShippedListed shipped (c64PaletteSelect (sortPalettes qsort system) id disk).1.palettes :=
  c64PaletteSelect_listed (listed.sortPalettes sorts) id files

theorem colorLast_listed (listed : ShippedListed shipped system.palettes)
    (fresh : ∀ other ∈ system.palettes, other.id ≠ entry.id) (spare : List PaletteEntry)
    (colors : List UInt32) :
    ShippedListed shipped (colorLast
      { system with palettes := system.palettes ++ [entry], spare := spare } colors).palettes := by
  rw [colorLast_append rfl]
  exact listed.grow (listed.listing.append fresh) (List.subset_append_left _ _)

theorem c64PaletteSaveAs_listed (sorts : Sorts qsort)
    (listed : ShippedListed shipped system.palettes) (name path : Chars)
    (files : disk.HasShipped shipped [])
    (spares : ∀ saved ∈ savedAsFile name path disk, ∀ palette ∈ shipped,
      palette.id = paletteId saved → system.workingColors = palette.colors) :
    ShippedListed shipped (c64PaletteSaveAs qsort system name path disk).1.palettes := by
  unfold c64PaletteSaveAs
  split
  · exact listed
  · rename_i named
    split
    · exact listed
    · rename_i writable
      have saved : savedAsFile name path disk = some path := by
        rw [savedAsFile, if_neg]
        rintro (none | none | none | none)
        · exact named (.inl none)
        · exact named (.inr none)
        · exact writable (.inl none)
        · exact writable (.inr none)
      dsimp only
      obtain absent | ⟨index, result⟩ :=
        Option.eq_none_or_eq_some (findPalette system.palettes (paletteId path))
      · -- A palette that is not in the list is added, if there is room.
        rcases addPaletteEntry_cases system name path false (paletteId_length path) with
          failed | ⟨entry, named, fresh, added⟩
        · simp only [absent, failed, Bool.false_eq_true, if_false, if_true]
          exact listed
        · simp only [absent, added, if_true, Bool.true_eq_false, if_false]
          refine sortSelect_listed sorts (colorLast_listed listed ?_ _ _) _ files
          exact fun other member same => fresh other member (same.trans named)
      · -- An entry of the file's id gets the edited colours, whether it is shipped or not.
        obtain ⟨entry, found, named⟩ := findPalette_some result
        simp only [result, found, Bool.true_eq_false, if_false]
        refine sortSelect_listed sorts ?_ _ files
        refine listed.set found ⟨rfl, rfl, fun _ => rfl⟩ fun palette member shown => ?_
        have same := spares path saved palette member (shown.id.symm.trans named)
        exact shown.recolor rfl rfl rfl same rfl

theorem c64PaletteLoadFromFile_listed (sorts : Sorts qsort)
    (listed : ShippedListed shipped system.palettes) (path userDir : Chars)
    (files : disk.HasShipped shipped []) :
    ShippedListed shipped (c64PaletteLoadFromFile qsort system path userDir disk).1.palettes := by
  unfold c64PaletteLoadFromFile
  split
  · exact listed
  · split
    · exact listed
    · dsimp only
      split
      · exact listed
      · split
        · exact listed
        · split
          · exact listed
          · next file _ _ refused _ =>
            obtain absent | ⟨index, result⟩ :=
              Option.eq_none_or_eq_some (findPalette system.palettes (paletteId path))
            · rcases addPaletteEntry_cases system
                  (copyText c64PaletteNameMax (nameOr file.name (paletteId path)))
                  (userDir ++ '/' :: fileName path) false (paletteId_length path) with
                failed | ⟨entry, named, fresh, added⟩
              · simp only [absent, failed, Bool.false_eq_true, if_false, if_true]
                exact listed
              · simp only [absent, added, if_true, Bool.true_eq_false, if_false]
                refine sortSelect_listed sorts (colorLast_listed listed ?_ _ _) _ files
                exact fun other member same => fresh other member (same.trans named)
            · obtain ⟨entry, found, named⟩ := findPalette_some result
              simp only [result, found, Bool.true_eq_false, if_false]
              -- The entry of the id is not shipped, or the copy would have been refused.
              have other : entry.isShipped = false := by
                by_contra ships
                refine refused (List.any_eq_true.mpr ⟨entry, List.mem_of_getElem? found, ?_⟩)
                simp [Bool.eq_true_of_not_eq_false ships, named]
              refine sortSelect_listed sorts (listed.setOther found ?_ other) _ files
              exact ⟨rfl, rfl, fun _ => rfl⟩

theorem c64PaletteAutoSave_listed (sorts : Sorts qsort)
    (listed : ShippedListed shipped system.palettes) (files : disk.HasShipped shipped [])
    (spares : ∀ saved ∈ savedAs system (.autoSave disk), ∀ palette ∈ shipped,
      palette.id = paletteId saved → system.workingColors = palette.colors) :
    ShippedListed shipped (c64PaletteAutoSave qsort system disk).1.palettes := by
  unfold c64PaletteAutoSave
  split
  · exact listed
  · rename_i edited
    split
    · rename_i index entry active found
      split
      · rename_i ships
        split
        · exact listed
        · rename_i fits
          obtain ⟨name, path⟩ := not_or.mp fits
          have saved : savedAs system (.autoSave disk) =
              savedAsFile (customName entry) (customPath system entry) disk := by
            simp only [savedAs, found]
            rw [if_pos]
            simp [Bool.eq_true_of_not_eq_false edited, ships, not_le.mp name, not_le.mp path]
          rw [saved] at spares
          exact c64PaletteSaveAs_listed sorts listed _ _ files spares
      · rename_i kept
        split
        · exact listed
        · exact keepWorkingColors_listed listed (activePalette_found active found)
            (Bool.eq_false_of_not_eq_true kept)
    · exact listed

theorem c64PaletteDelete_listed (listed : ShippedListed shipped system.palettes) (id : Chars)
    (files : disk.HasShipped shipped []) :
    ShippedListed shipped (c64PaletteDelete system id disk).1.palettes := by
  unfold c64PaletteDelete
  split
  · exact listed
  · cases result : findPalette system.palettes id with
    | none => exact listed
    | some index =>
      obtain ⟨entry, found, _⟩ := findPalette_some result
      simp only [found]
      split
      · exact listed
      · rename_i kept
        have other : entry.isShipped = false := by
          simp only [Bool.or_eq_true, not_or, Bool.not_eq_true] at kept
          exact kept.1
        split
        · -- The default palette is selected before the entry is removed.
          have selected := c64PaletteSelect_listed listed defaultId files
          have same : (c64PaletteSelect system defaultId disk).1.palettes[index]?.map (·.isShipped) =
              system.palettes[index]?.map (·.isShipped) :=
            c64PaletteSelect_isShipped defaultId disk index
          rw [found] at same
          obtain ⟨moved, atIndex, unshipped⟩ := Option.map_eq_some_iff.mp same
          exact selected.remove atIndex (unshipped.trans other)
        · exact listed.remove found other

theorem c64PaletteResolveColors_listed (listed : ShippedListed shipped system.palettes) (id : Chars)
    (files : disk.HasShipped shipped []) :
    ShippedListed shipped (c64PaletteResolveColors system id disk).1.palettes := by
  unfold c64PaletteResolveColors
  dsimp only
  split
  · exact listed
  · split
    · exact listed
    · next found => exact listed.load found files

theorem validatePalettes_listed (disk : Disk) (pointer : Option Nat) (turns : Nat)
    (loop : ValidationLoop) (listed : ShippedListed shipped loop.system.palettes) :
    ShippedListed shipped (validatePalettes disk pointer turns loop).system.palettes := by
  induction turns generalizing loop with
  | zero => exact listed
  | succ turns ih =>
    rw [validatePalettes]
    split
    · exact listed
    · rename_i entry found
      refine ih _ ?_
      unfold validatePalette
      split
      · rename_i missing
        simp only [isMissing, Bool.and_eq_true, Bool.not_eq_true'] at missing
        exact listed.remove found missing.1
      · exact listed

theorem c64PaletteValidateFilesystem_listed (sorts : Sorts qsort)
    (listed : ShippedListed shipped system.palettes) (files : disk.HasShipped shipped []) :
    ShippedListed shipped (c64PaletteValidateFilesystem qsort system disk).palettes := by
  unfold c64PaletteValidateFilesystem
  dsimp only
  generalize (if (activePalette system).isSome then system.activePaletteIndex else none) = pointer
  have left := validatePalettes_listed disk pointer system.palettes.length
    ⟨system, 0, 0, false⟩ listed
  generalize validatePalettes disk pointer system.palettes.length ⟨system, 0, 0, false⟩ = loop at *
  have relisted : ShippedListed shipped
      (if loop.removedCount > 0 then
        sortPalettes qsort (discoverCustomPalettes loop.system disk)
      else loop.system).palettes := by
    split
    · have grown := discoverCustomPalettes_grown loop.system disk
      obtain ⟨more, palettes⟩ := grown.palettes
      refine ShippedListed.sortPalettes sorts (left.grow (grown.listing left.listing) ?_)
      rw [palettes]
      exact List.subset_append_left _ _
    · exact left
  split
  · exact c64PaletteSelect_listed relisted defaultId files
  · exact relisted

end Operations

section Preserving

variable {shipped : List ShippedPalette} {qsort : List PaletteEntry → List PaletteEntry}
  {run : ShippedRun}

/-- The shipped palettes are listed, and none of their files was touched. -/
structure ShippedSafe (shipped : List ShippedPalette) (run : ShippedRun) : Prop where
  listed : ShippedListed shipped run.catalogue.system.palettes
  untouched : ∀ palette ∈ shipped, palette.path ≠ [] → palette.path ∉ run.touched

theorem ShippedSafe.files (safe : ShippedSafe shipped run) {disk : Disk}
    (files : disk.HasShipped shipped run.touched) : disk.HasShipped shipped [] :=
  fun palette member stored _ =>
    files palette member stored (safe.untouched palette member stored)

theorem shippedStep_safe (sorts : Sorts qsort) (safe : ShippedSafe shipped run) {op : CatalogueOp}
    (files : FilesStay shipped run op) (spares : SparesShipped shipped run op) :
    ShippedSafe shipped (shippedStep qsort run op) where
  listed := by
    have found : ∀ disk ∈ op.disk, disk.HasShipped shipped [] :=
      fun disk member => safe.files (files disk member)
    cases op with
    | select id disk => exact c64PaletteSelect_listed safe.listed id (found disk rfl)
    | setWorkingColor index color =>
      have same : (c64PaletteSetWorkingColor run.catalogue.system index color).1.palettes =
          run.catalogue.system.palettes := by
        unfold c64PaletteSetWorkingColor
        split <;> rfl
      exact same ▸ safe.listed
    | revert =>
      have same : (c64PaletteRevert run.catalogue.system).palettes =
          run.catalogue.system.palettes := by
        unfold c64PaletteRevert
        split <;> rfl
      exact same ▸ safe.listed
    | save disk => exact c64PaletteSave_listed safe.listed disk
    | saveAs name path disk =>
      exact c64PaletteSaveAs_listed sorts safe.listed name path (found disk rfl) spares.1
    | loadFromFile path userDir disk =>
      exact c64PaletteLoadFromFile_listed sorts safe.listed path userDir (found disk rfl)
    | delete id disk => exact c64PaletteDelete_listed safe.listed id (found disk rfl)
    | autoSave disk => exact c64PaletteAutoSave_listed sorts safe.listed (found disk rfl) spares.1
    | resolveColors id disk =>
      exact c64PaletteResolveColors_listed safe.listed id (found disk rfl)
    | validateFilesystem disk =>
      exact c64PaletteValidateFilesystem_listed sorts safe.listed (found disk rfl)
  untouched := by
    intro palette member stored touched
    rcases List.mem_append.mp touched with now | before
    · exact spares.2 _ now palette member stored rfl
    · exact safe.untouched palette member stored before

theorem ShippedSafe.intact (safe : ShippedSafe shipped run)
    (named : ∀ palette ∈ shipped, palette.id ≠ []) : ShippedIntact shipped run := by
  intro palette member
  obtain ⟨entry, inside, shown⟩ := safe.listed.shown palette member
  refine ⟨⟨entry, inside, shown.id, shown.isShipped⟩, fun disk files => ?_⟩
  exact safe.listed.resolves member (named palette member) (safe.files files)

end Preserving

section Start

/-- A shipped entry has the colours of the default palette, or a file with its colours. -/
def PaletteEntry.Backed (defaultPalette : List UInt32) (disk : Disk) (entry : PaletteEntry) :
    Prop :=
  entry.isShipped = true →
    (entry.path = [] → entry.colors = defaultPalette) ∧
    (entry.path ≠ [] → entry.colors.length ≤ c64PaletteColors ∧
      ∃ file, disk.vpl entry.path = some file ∧ c64PaletteColors ≤ file.colors.length ∧
        (entry.colorsLoaded = true → entry.colors = file.colors.take c64PaletteColors))

/-- All entries are backed, and the memory behind them holds no more colours than fit. -/
structure AllBacked (defaultPalette : List UInt32) (disk : Disk) (system : PaletteSystem) :
    Prop where
  entries : ∀ entry ∈ system.palettes, entry.Backed defaultPalette disk
  spare : ∀ entry ∈ system.spare, entry.colors.length ≤ c64PaletteColors

variable {defaultPalette : List UInt32} {disk : Disk} {system : PaletteSystem}

theorem addPaletteEntry_backed (backed : AllBacked defaultPalette disk system)
    (id name path : Chars) (isShipped : Bool)
    (readable : isShipped = true → copyText c64PalettePathMax path ≠ [] ∧
      ∃ file, disk.vpl (copyText c64PalettePathMax path) = some file ∧
        c64PaletteColors ≤ file.colors.length) :
    AllBacked defaultPalette disk (addPaletteEntry system id name path isShipped).1 := by
  unfold addPaletteEntry
  split
  · exact backed
  · split
    · exact backed
    · refine ⟨fun entry member => ?_, fun entry member =>
        backed.spare entry (List.mem_of_mem_tail member)⟩
      rcases List.mem_append.mp member with old | new
      · exact backed.entries entry old
      obtain rfl := List.mem_singleton.mp new
      intro ships
      obtain ⟨stored, file, found, enough⟩ := readable ships
      refine ⟨fun none => absurd none stored, fun _ => ⟨?_, file, found, enough, nofun⟩⟩
      -- The colours of the new entry are those that the memory held.
      show ((system.spare.head?.map PaletteEntry.colors).getD _).length ≤ c64PaletteColors
      cases first : system.spare.head? with
      | none => simp
      | some held => exact backed.spare held (List.mem_of_head? first)

theorem discoverShippedPalette_backed (path : Chars) (entry : DirEntry)
    (backed : AllBacked defaultPalette disk system) :
    AllBacked defaultPalette disk (discoverShippedPalette path disk system entry) := by
  unfold discoverShippedPalette
  split
  · exact backed
  · dsimp only
    split
    · exact backed
    · split
      · exact backed
      · rename_i file found
        split
        · exact backed
        · rename_i enough
          refine addPaletteEntry_backed backed _ _ _ _ fun _ => ?_
          -- The path is cut once, so cutting it again changes nothing.
          have same : copyText c64PalettePathMax
              (copyText c64PalettePathMax (path ++ '/' :: entry.name)) =
                copyText c64PalettePathMax (path ++ '/' :: entry.name) := by
            rw [copyText, copyText, List.take_take, Nat.min_self]
          rw [same]
          refine ⟨?_, file, found, not_lt.mp enough⟩
          simp [copyText, c64PalettePathMax, List.take_eq_nil_iff]

theorem discoverCustomPalette_backed (userDisk : Disk) (entry : DirEntry)
    (backed : AllBacked defaultPalette disk system) :
    AllBacked defaultPalette disk (discoverCustomPalette userDisk system entry) := by
  unfold discoverCustomPalette
  split
  · exact backed
  · dsimp only
    split
    · exact backed
    · split
      · exact backed
      · split
        · exact backed
        · exact addPaletteEntry_backed backed _ _ _ _ nofun

theorem loadColors_backed {entry : PaletteEntry} (backed : entry.Backed defaultPalette disk) :
    (loadColors entry disk).1.Backed defaultPalette disk := by
  by_cases ready : entry.Ready
  · rw [loadColors_ready ready]
    exact backed
  obtain ⟨unloaded, stored⟩ := not_or.mp ready
  have unready : ¬ (entry.colorsLoaded || decide (entry.path = [])) = true := by
    simp [unloaded, stored]
  have becomes := loadColors_becomes entry disk
  intro ships
  obtain ⟨size, file, found, enough, _⟩ := (backed (becomes.isShipped ▸ ships)).2 stored
  rw [loadColors, if_neg unready, found]
  simp only [Nat.min_eq_left enough, lt_irrefl, if_false]
  refine ⟨fun none => absurd none stored, fun _ => ⟨?_, file, found, enough, fun _ => ?_⟩⟩
  · rw [List.drop_of_length_le size, List.append_nil]
    exact List.length_take_le _ _
  · rw [List.drop_of_length_le size, List.append_nil]

theorem discoverShippedPalettes_backed (path : Chars) (entries : Option (List DirEntry))
    (backed : AllBacked defaultPalette disk system) :
    AllBacked defaultPalette disk (discoverShippedPalettes system path entries disk) :=
  List.foldlRecOn (motive := AllBacked defaultPalette disk) (entries.getD [])
    (discoverShippedPalette path disk) backed
    fun _ backed entry _ => discoverShippedPalette_backed path entry backed

theorem discoverCustomPalettes_backed (userDisk : Disk)
    (backed : AllBacked defaultPalette disk system) :
    AllBacked defaultPalette disk (discoverCustomPalettes system userDisk) := by
  unfold discoverCustomPalettes
  split
  · exact backed
  · exact List.foldlRecOn (motive := AllBacked defaultPalette disk) (userDisk.userDir.getD [])
      (discoverCustomPalette userDisk) backed
      fun _ backed entry _ => discoverCustomPalette_backed userDisk entry backed

theorem c64PaletteSelect_backed
    (backed : ∀ entry ∈ system.palettes, entry.Backed defaultPalette disk) (id : Chars) :
    ∀ entry ∈ (c64PaletteSelect system id disk).1.palettes,
      entry.Backed defaultPalette disk := by
  have set : ∀ index entry, system.palettes[index]? = some entry →
      ∀ other ∈ system.palettes.set index (loadColors entry disk).1,
        other.Backed defaultPalette disk := by
    intro index entry found other member
    rcases List.mem_or_eq_of_mem_set member with old | rfl
    · exact backed other old
    · exact loadColors_backed (backed entry (List.mem_of_getElem? found))
  rcases c64PaletteSelect_cases system id disk with
    ⟨_, result⟩ | ⟨index, entry, found, _, ⟨_, result⟩ | ⟨_, result⟩⟩
  · rw [result]
    exact backed
  · rw [result]
    exact set index entry found
  · rw [result]
    exact set index entry found

theorem c64PaletteInit_backed {qsort : List PaletteEntry → List PaletteEntry} (sorts : Sorts qsort)
    (defaultPalette : List UInt32) (userPaletteDir shippedPath : Chars)
    (shipped : Option (List DirEntry)) (disk : Disk) :
    ∀ entry ∈ (c64PaletteInit qsort defaultPalette userPaletteDir shippedPath shipped
      disk).palettes, entry.Backed defaultPalette disk := by
  unfold c64PaletteInit
  dsimp only
  refine c64PaletteSelect_backed (fun entry member => ?_) defaultId
  have listed := (sortPalettes_perm sorts _).mem_iff.mp member
  refine AllBacked.entries (discoverCustomPalettes_backed disk
    (discoverShippedPalettes_backed shippedPath shipped ⟨fun first only => ?_, ?_⟩)) entry listed
  · obtain rfl := List.mem_singleton.mp only
    exact fun _ => ⟨fun _ => rfl, fun stored => absurd rfl stored⟩
  · intro blank member
    rw [(List.mem_replicate.mp member).2, List.length_replicate]

/-- The start of a run: the palettes as they are listed first, and nothing was touched. -/
def ShippedRun.start (qsort : List PaletteEntry → List PaletteEntry)
    (defaultPalette : List UInt32) (userPaletteDir shippedPath : Chars)
    (shipped : Option (List DirEntry)) (disk : Disk) : ShippedRun :=
  ⟨initialCatalogue qsort defaultPalette userPaletteDir shippedPath shipped disk, []⟩

/-- The shipped palettes that are listed at the start. -/
def ShippedRun.shipped (run : ShippedRun) (defaultPalette : List UInt32) (disk : Disk) :
    List ShippedPalette :=
  shippedPalettes defaultPalette disk run.catalogue.system.palettes

theorem ShippedRun.start_safe {qsort : List PaletteEntry → List PaletteEntry}
    (sorts : Sorts qsort) (defaultPalette : List UInt32) (userPaletteDir shippedPath : Chars)
    (shipped : Option (List DirEntry)) (disk : Disk) :
    ShippedSafe ((start qsort defaultPalette userPaletteDir shippedPath shipped disk).shipped
      defaultPalette disk) (start qsort defaultPalette userPaletteDir shippedPath shipped disk) := by
  have backed := c64PaletteInit_backed sorts defaultPalette userPaletteDir shippedPath shipped disk
  refine ⟨⟨(c64PaletteInit_sound sorts _ _ _ _ _).listing, fun palette member => ?_⟩,
    fun _ _ _ => List.not_mem_nil⟩
  obtain ⟨entry, kept, rfl⟩ := List.mem_map.mp member
  obtain ⟨inside, ships⟩ := List.mem_filter.mp kept
  have isShipped : entry.isShipped = true := (Bool.and_eq_true_iff.mp ships).1
  obtain ⟨pathless, stored⟩ := backed entry inside isShipped
  refine ⟨entry, inside, rfl, isShipped, rfl, fun ready => ?_, fun unready => ?_⟩
  · -- The colours are built in, or they were loaded from the file.
    by_cases none : entry.path = []
    · rw [if_pos none]
      exact pathless none
    · obtain ⟨_, file, found, _, loaded⟩ := stored none
      rw [if_neg none, found]
      exact loaded (ready.resolve_right none)
  · exact (stored (not_or.mp unready).2).1

theorem ShippedRun.shipped_named (run : ShippedRun) (defaultPalette : List UInt32) (disk : Disk) :
    ∀ palette ∈ run.shipped defaultPalette disk, palette.id ≠ [] := by
  intro palette member
  obtain ⟨entry, kept, rfl⟩ := List.mem_map.mp member
  simpa using (Bool.and_eq_true_iff.mp (List.mem_filter.mp kept).2).2

/-- In every run whose operations spare the shipped palettes, these stay intact. -/
theorem shippedPalettes_intact {qsort : List PaletteEntry → List PaletteEntry}
    (sorts : Sorts qsort) (defaultPalette : List UInt32) (userPaletteDir shippedPath : Chars)
    (moduleFiles : Option (List DirEntry)) (disk : Disk) (ops : List CatalogueOp) :
    let start := ShippedRun.start qsort defaultPalette userPaletteDir shippedPath moduleFiles disk
    let shipped := start.shipped defaultPalette disk
    EachStep (shippedStep qsort) (FilesStay shipped) start ops →
      EachStep (shippedStep qsort) (SparesShipped shipped) start ops →
        Always (shippedStep qsort) (ShippedIntact shipped) start ops := by
  intro start shipped files spares
  have safe := @always_of_eachStep _ _ (shippedStep qsort) (ShippedSafe shipped) _
    (fun _ _ safe meets => shippedStep_safe sorts safe meets.1 meets.2) start ops
    (files.and spares)
    (ShippedRun.start_safe sorts defaultPalette userPaletteDir shippedPath moduleFiles disk)
  exact safe.imp fun _ safe => safe.intact (start.shipped_named defaultPalette disk)

/-- A disk whose module directory has one palette file, which has these colours. -/
def moduleDisk (colors : List UInt32) : Disk where
  opens path := decide (path = "m/Grey.vpl".toList)
  vpl path := if path = "m/Grey.vpl".toList then some ⟨colors, []⟩ else none
  userDir := some []
  hasUserDir := true
  writes := true
  unlinks := true

/-- The palettes at the start, with that file among them. -/
def greyStart : ShippedRun :=
  .start insertionSortPalettes (List.replicate 16 7) "u".toList "m".toList
    (some [⟨"Grey.vpl".toList, false⟩]) (moduleDisk (List.replicate 16 5))

/-- A colour of the shipped palette is edited and saved under a name of its own. -/
def savedCopy : List CatalogueOp :=
  [.select "Grey".toList (moduleDisk (List.replicate 16 5)), .setWorkingColor 3 9,
    .saveAs "Mine".toList "t/Mine.vpl".toList (moduleDisk (List.replicate 16 5)),
    .delete "Grey".toList (moduleDisk (List.replicate 16 5))]

/-- The same colours are saved to another file of the shipped palette's name. -/
def savedOver : List CatalogueOp :=
  [.select "Grey".toList (moduleDisk (List.replicate 16 5)), .setWorkingColor 3 9,
    .saveAs "Mine".toList "t/Grey.vpl".toList (moduleDisk (List.replicate 16 5))]

theorem greyStart_shipped :
    greyStart.shipped (List.replicate 16 7) (moduleDisk (List.replicate 16 5)) =
      [⟨defaultId, [], List.replicate 16 7⟩,
        ⟨"Grey".toList, "m/Grey.vpl".toList, List.replicate 16 5⟩] := by
  decide +kernel

theorem moduleDisk_hasShipped (touched : List Chars) :
    (moduleDisk (List.replicate 16 5)).HasShipped
      (greyStart.shipped (List.replicate 16 7) (moduleDisk (List.replicate 16 5))) touched := by
  rw [greyStart_shipped]
  intro palette member stored _
  rcases List.mem_cons.mp member with rfl | later
  · exact absurd rfl stored
  · obtain rfl := List.mem_singleton.mp later
    exact ⟨⟨List.replicate 16 5, []⟩, rfl, by decide, rfl⟩

theorem moduleDisk_filesStay (run : ShippedRun) (op : CatalogueOp)
    (found : ∀ disk ∈ op.disk, disk = moduleDisk (List.replicate 16 5)) :
    FilesStay (greyStart.shipped (List.replicate 16 7) (moduleDisk (List.replicate 16 5))) run
      op := by
  intro disk member
  rw [found disk member]
  exact moduleDisk_hasShipped run.touched

/-- Colours that are saved under a name of their own leave the shipped palettes intact. -/
theorem savedCopy_intact :
    Always (shippedStep insertionSortPalettes)
      (ShippedIntact
        (greyStart.shipped (List.replicate 16 7) (moduleDisk (List.replicate 16 5))))
      greyStart savedCopy := by
  refine shippedPalettes_intact insertionSortPalettes_sorts _ _ _ _ _ savedCopy ?_
    (by decide +kernel)
  refine ⟨?_, ?_, ?_, ?_, trivial⟩
  all_goals
    refine moduleDisk_filesStay _ _ fun disk member => ?_
    cases member <;> rfl

/-- Colours that are saved to a file of a shipped palette's name replace those of that palette. -/
theorem savedOver_not_intact :
    EachStep (shippedStep insertionSortPalettes)
        (FilesStay
          (greyStart.shipped (List.replicate 16 7) (moduleDisk (List.replicate 16 5))))
        greyStart savedOver ∧
      ¬ Always (shippedStep insertionSortPalettes)
        (ShippedIntact
          (greyStart.shipped (List.replicate 16 7) (moduleDisk (List.replicate 16 5))))
        greyStart savedOver := by
  constructor
  · refine ⟨?_, ?_, ?_, trivial⟩
    all_goals
      refine moduleDisk_filesStay _ _ fun disk member => ?_
      cases member <;> rfl
  · intro always
    have member : (⟨"Grey".toList, "m/Grey.vpl".toList, List.replicate 16 5⟩ : ShippedPalette) ∈
        greyStart.shipped (List.replicate 16 7) (moduleDisk (List.replicate 16 5)) := by
      rw [greyStart_shipped]
      exact List.mem_cons_of_mem _ List.mem_cons_self
    have same := (always.last _ member).2 _ (moduleDisk_hasShipped _)
    have other : (c64PaletteResolveColors
        (savedOver.foldl (shippedStep insertionSortPalettes) greyStart).catalogue.system
        "Grey".toList (moduleDisk (List.replicate 16 5))).2 ≠ some (List.replicate 16 5) := by
      decide +kernel
    exact other same

end Start

end C64Stream
