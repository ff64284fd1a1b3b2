import C64Stream.Palette.CatalogueLaws

/-! Every operation but the check for lost files keeps the selected palette the active one. -/

namespace C64Stream

section Listed

variable {qsort : List PaletteEntry → List PaletteEntry} {system : PaletteSystem}

theorem sortPalettes_perm (sorts : Sorts qsort) (system : PaletteSystem) :
    (sortPalettes qsort system).palettes.Perm system.palettes := by
  unfold sortPalettes
  split
  · exact (sorts system.palettes).1
  · exact .refl _

theorem sortPalettes_rest (qsort : List PaletteEntry → List PaletteEntry)
    (system : PaletteSystem) :
    (sortPalettes qsort system).activePaletteIndex = system.activePaletteIndex ∧
      (sortPalettes qsort system).workingColors = system.workingColors ∧
      (sortPalettes qsort system).workingModified = system.workingModified := by
  unfold sortPalettes
  split <;> exact ⟨rfl, rfl, rfl⟩

theorem ListingSound.sortPalettes (sorts : Sorts qsort) (sound : ListingSound system.palettes) :
    ListingSound (sortPalettes qsort system).palettes := by
  unfold C64Stream.sortPalettes
  split
  · exact sound.sort sorts
  · exact sound

theorem select_listed (sorts : Sorts qsort) (sound : ListingSound system.palettes) {id : Chars}
    {entry : PaletteEntry} (member : entry ∈ system.palettes) (named : entry.id = id)
    (loaded : entry.colorsLoaded = true) (disk : Disk) :
    SystemSound (c64PaletteSelect (sortPalettes qsort system) id disk).1 (selectedId id) := by
  have sorted := sound.sortPalettes sorts
  have perm := sortPalettes_perm sorts system
  apply c64PaletteSelect_selected sorted
  by_cases empty : id = []
  · -- An empty id stands for the default palette.
    subst empty
    exact c64PaletteSelect_default sorted disk
  · have selected : entry.id = selectedId id := by rw [selectedId, if_neg empty, named]
    exact c64PaletteSelect_ready sorted (perm.mem_iff.mpr member) selected (.inl loaded)

theorem select_relisted (sorts : Sorts qsort) (sound : ListingSound system.palettes) {id : Chars}
    {index : Nat} {old new : PaletteEntry} (found : system.palettes[index]? = some old)
    (named : old.id = id) (becomes : old.Becomes new) (loaded : new.colorsLoaded = true)
    (disk : Disk) :
    SystemSound (c64PaletteSelect (sortPalettes qsort (setPalette system index new)) id disk).1
      (selectedId id) := by
  have inside := (List.getElem?_eq_some_iff.mp found).1
  have member : new ∈ (setPalette system index new).palettes :=
    List.mem_of_getElem? (List.getElem?_set_self inside)
  exact select_listed sorts (sound.set found becomes) member (becomes.id.trans named) loaded disk

theorem select_added (sorts : Sorts qsort) (sound : ListingSound system.palettes) {id : Chars}
    {entry : PaletteEntry} (named : entry.id = id)
    (fresh : ∀ other ∈ system.palettes, other.id ≠ id) (spare : List PaletteEntry)
    (colors : List UInt32) (disk : Disk) :
    SystemSound (c64PaletteSelect (sortPalettes qsort (colorLast
      { system with palettes := system.palettes ++ [entry], spare := spare } colors)) id disk).1
      (selectedId id) := by
  rw [colorLast_append rfl]
  have named' : ({ entry with colors := colors, colorsLoaded := true } : PaletteEntry).id = id :=
    named
  refine select_listed sorts ?_ (List.mem_append_right _ (List.mem_singleton_self _)) named' rfl
    disk
  exact sound.append fun other member same => fresh other member (same.trans named')

end Listed

section Selecting

theorem c64PaletteSelect_sound {system : PaletteSystem} {selected : Chars}
    (sound : SystemSound system selected) (id : Chars) (disk : Disk) :
    SystemSound (c64PaletteSelect system id disk).1
      (if (c64PaletteSelect system id disk).2 then selectedId id else selected) := by
  cases done : (c64PaletteSelect system id disk).2 with
  | true =>
    rw [if_pos rfl]
    exact c64PaletteSelect_selected sound.listing done
  | false =>
    rw [if_neg Bool.false_ne_true]
    rcases c64PaletteSelect_cases system id disk with
      ⟨_, result⟩ | ⟨index, entry, found, _, ⟨_, result⟩ | ⟨_, result⟩⟩
    · rw [result]
      exact sound
    · rw [result]
      exact sound.load found disk
    · rw [result] at done
      cases done

theorem c64PaletteResolveColors_sound {system : PaletteSystem} {selected : Chars}
    (sound : SystemSound system selected) (id : Chars) (disk : Disk) :
    SystemSound (c64PaletteResolveColors system id disk).1 selected := by
  unfold c64PaletteResolveColors
  dsimp only
  split
  · exact sound
  · split
    · exact sound
    · next found => exact sound.load found disk

end Selecting

section Editing

variable {system : PaletteSystem} {selected : Chars}

theorem SelectedAt.activePalette {index : Nat} {entry : PaletteEntry}
    (at_index : SelectedAt system selected index entry) :
    activePalette system = some entry := by
  rw [C64Stream.activePalette, at_index.active]
  exact at_index.found

theorem c64PaletteSetWorkingColor_sound (sound : SystemSound system selected) (index : Int)
    (color : UInt32) :
    SystemSound (c64PaletteSetWorkingColor system index color).1 selected := by
  obtain ⟨place, entry, found⟩ := sound.selected
  unfold c64PaletteSetWorkingColor
  split
  · exact sound
  -- The edited colours are marked as changed.
  · exact ⟨sound.listing, place, entry, found.active, found.found, found.id, found.ready, nofun⟩

theorem c64PaletteRevert_sound (sound : SystemSound system selected) :
    SystemSound (c64PaletteRevert system) selected := by
  obtain ⟨place, entry, found⟩ := sound.selected
  rw [c64PaletteRevert, found.activePalette]
  exact ⟨sound.listing, place, entry, found.active, found.found, found.id, found.ready,
    fun _ => rfl⟩

theorem keepWorkingColors_sound (sound : SystemSound system selected) {place : Nat}
    {entry : PaletteEntry} (found : SelectedAt system selected place entry) :
    SystemSound (keepWorkingColors system place entry) selected := by
  have inside := (List.getElem?_eq_some_iff.mp found.found).1
  exact ⟨sound.listing.set found.found ⟨rfl, rfl, fun loaded => loaded⟩, place, _, found.active,
    List.getElem?_set_self inside, found.id, found.ready, fun _ => rfl⟩

theorem c64PaletteSave_sound (sound : SystemSound system selected) (disk : Disk) :
    SystemSound (c64PaletteSave system disk).1 selected := by
  obtain ⟨place, entry, found⟩ := sound.selected
  simp only [c64PaletteSave, found.active, found.activePalette]
  split
  · exact sound
  · exact keepWorkingColors_sound sound found

end Editing

section Files

variable {qsort : List PaletteEntry → List PaletteEntry} {system : PaletteSystem}
  {selected : Chars}

theorem c64PaletteSaveAs_sound (sorts : Sorts qsort) (sound : SystemSound system selected)
    (name path : Chars) (disk : Disk) :
    SystemSound (c64PaletteSaveAs qsort system name path disk).1
      (if (c64PaletteSaveAs qsort system name path disk).2 then selectedId (paletteId path)
        else selected) := by
  unfold c64PaletteSaveAs
  split
  · exact sound
  · split
    · exact sound
    · dsimp only
      obtain absent | ⟨index, result⟩ :=
        Option.eq_none_or_eq_some (findPalette system.palettes (paletteId path))
      · -- A palette that is not in the list is added, if there is room.
        rcases addPaletteEntry_cases system name path false (paletteId_length path) with
          failed | ⟨entry, named, fresh, added⟩
        · simp only [absent, failed, Bool.false_eq_true, if_false, if_true]
          exact sound
        · simp only [absent, added, if_true, Bool.true_eq_false, if_false]
          exact select_added sorts sound.listing named fresh _ _ disk
      · obtain ⟨entry, found, named⟩ := findPalette_some result
        simp only [result, found, Bool.true_eq_false, if_false, if_true]
        refine select_relisted sorts sound.listing found named ?_ ?_ disk
        · exact ⟨rfl, rfl, fun _ => rfl⟩
        · rfl

theorem c64PaletteLoadFromFile_sound (sorts : Sorts qsort) (sound : SystemSound system selected)
    (path userDir : Chars) (disk : Disk) :
    SystemSound (c64PaletteLoadFromFile qsort system path userDir disk).1
      (if (c64PaletteLoadFromFile qsort system path userDir disk).2 then
        selectedId (paletteId path) else selected) := by
  unfold c64PaletteLoadFromFile
  split
  · exact sound
  · split
    · exact sound
    · dsimp only
      split
      · exact sound
      · split
        · exact sound
        · split
          · exact sound
          · next file _ _ _ _ =>
            obtain absent | ⟨index, result⟩ :=
              Option.eq_none_or_eq_some (findPalette system.palettes (paletteId path))
            · rcases addPaletteEntry_cases system
                  (copyText c64PaletteNameMax (nameOr file.name (paletteId path)))
                  (userDir ++ '/' :: fileName path) false (paletteId_length path) with
                failed | ⟨entry, named, fresh, added⟩
              · simp only [absent, failed, Bool.false_eq_true, if_false, if_true]
                exact sound
              · simp only [absent, added, if_true, Bool.true_eq_false, if_false]
                exact select_added sorts sound.listing named fresh _ _ disk
            · obtain ⟨entry, found, named⟩ := findPalette_some result
              simp only [result, found, Bool.true_eq_false, if_false, if_true]
              refine select_relisted sorts sound.listing found named ?_ ?_ disk
              · exact ⟨rfl, rfl, fun _ => rfl⟩
              · rfl

/-- The palette that saving edited colours selects: a copy of the active one if it is shipped. -/
def autoSavedId (qsort : List PaletteEntry → List PaletteEntry) (system : PaletteSystem)
    (disk : Disk) (selected : Chars) : Chars :=
  match activePalette system with
  | none => selected
  | some entry =>
    if (c64PaletteAutoSave qsort system disk).2 then
      selectedId (paletteId (customPath system entry))
    else selected

theorem c64PaletteAutoSave_sound (sorts : Sorts qsort) (sound : SystemSound system selected)
    (disk : Disk) :
    SystemSound (c64PaletteAutoSave qsort system disk).1
      (autoSavedId qsort system disk selected) := by
  obtain ⟨place, entry, found⟩ := sound.selected
  simp only [autoSavedId, c64PaletteAutoSave, found.active, found.activePalette]
  split
  · exact sound
  · split
    · split
      · exact sound
      · exact c64PaletteSaveAs_sound sorts sound _ _ disk
    · split
      · exact sound
      · exact keepWorkingColors_sound sound found

theorem removePaletteEntry_sound (listing : ListingSound system.palettes) {place : Nat}
    {entry : PaletteEntry} (found : SelectedAt system selected place entry) {index : Nat}
    (later : index ≠ 0) (other : place ≠ index) :
    SystemSound (removePaletteEntry system index) selected := by
  refine ⟨listing.eraseIdx later, if place > index then place - 1 else place, entry, ?_, ?_,
    found.id, found.ready, found.colors⟩
  · rw [removePaletteEntry, found.active]
    rfl
  · -- The palettes behind the removed one move down, and the active index with them.
    show (system.palettes.eraseIdx index)[if place > index then place - 1 else place]? = some entry
    rw [List.getElem?_eraseIdx]
    by_cases behind : place > index
    · have moved : place - 1 + 1 = place := by omega
      rw [if_pos behind, if_neg (by omega), moved]
      exact found.found
    · rw [if_neg behind, if_pos (by omega)]
      exact found.found

theorem c64PaletteDelete_sound (sound : SystemSound system selected) (id : Chars) (disk : Disk) :
    SystemSound (c64PaletteDelete system id disk).1
      (if (c64PaletteDelete system id disk).2 && id = selected then defaultId else selected) := by
  obtain ⟨place, active, at_place⟩ := sound.selected
  unfold c64PaletteDelete
  split
  · exact sound
  · cases result : findPalette system.palettes id with
    | none => exact sound
    | some index =>
      obtain ⟨entry, found, named⟩ := findPalette_some result
      simp only [found]
      split
      · exact sound
      · next kept =>
        -- The default palette is shipped, so the one that is deleted is a later one.
        have later : index ≠ 0 := by
          intro first
          obtain ⟨default, atStart, _, shipped, _⟩ := sound.listing.first
          rw [first, atStart] at found
          rw [← Option.some.inj found, shipped] at kept
          exact kept rfl
        simp only [at_place.active, Option.some.injEq, Bool.true_and, decide_eq_true_eq]
        by_cases wasActive : place = index
        · subst wasActive
          obtain rfl := Option.some.inj (at_place.found.symm.trans found)
          rw [if_pos rfl, if_pos (named.symm.trans at_place.id)]
          -- The default palette is selected before the active one is removed.
          have done := c64PaletteSelect_default sound.listing disk
          have selected := c64PaletteSelect_selected sound.listing done
          obtain ⟨next, default, at_next⟩ := selected.selected
          have first : next = 0 := by
            obtain ⟨start, atStart, startId, _⟩ := selected.listing.first
            exact selected.listing.place at_next.found atStart (at_next.id.trans startId.symm)
          exact removePaletteEntry_sound selected.listing at_next later (by omega)
        · have unselected : ¬ id = selected := fun same =>
            wasActive (sound.listing.place at_place.found found
              (at_place.id.trans (same.symm.trans named.symm)))
          rw [if_neg wasActive, if_neg unselected]
          exact removePaletteEntry_sound sound.listing at_place later wasActive

end Files

end C64Stream
