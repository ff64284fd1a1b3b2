import C64Stream.Palette.Catalogue

/-! The palettes keep distinct ids, with the default first, and the selected one stays active. -/

namespace C64Stream

section Listing

variable {palettes : List PaletteEntry} {index : Nat}

/-- The palettes have distinct ids, and the first is the default one, which is loaded. -/
structure ListingSound (palettes : List PaletteEntry) : Prop where
  distinct : (palettes.map (·.id)).Nodup
  default : ∃ entry rest, palettes = entry :: rest ∧ entry.id = defaultId ∧
    entry.isShipped = true ∧ entry.colorsLoaded = true

/-- A palette is changed, but it is still the same one. -/
structure PaletteEntry.Becomes (old new : PaletteEntry) : Prop where
  id : new.id = old.id
  isShipped : new.isShipped = old.isShipped
  loaded : old.colorsLoaded = true → new.colorsLoaded = true

theorem findPalette_some {id : Chars} (found : findPalette palettes id = some index) :
    ∃ entry, palettes[index]? = some entry ∧ entry.id = id := by
  obtain ⟨inside, same, _⟩ := List.findIdx?_eq_some_iff_getElem.mp found
  exact ⟨palettes[index], List.getElem?_eq_getElem inside, by simpa using same⟩

theorem findPalette_none {id : Chars} (missing : findPalette palettes id = none) :
    ∀ entry ∈ palettes, entry.id ≠ id := by
  intro entry member
  simpa using List.findIdx?_eq_none_iff.mp missing entry member

theorem ListingSound.place (sound : ListingSound palettes) {i j : Nat} {a b : PaletteEntry}
    (left : palettes[i]? = some a) (right : palettes[j]? = some b) (same : a.id = b.id) :
    i = j := by
  have inside := (List.getElem?_eq_some_iff.mp left).1
  refine (List.getElem?_inj (by simpa using inside) sound.distinct).mp ?_
  rw [List.getElem?_map, List.getElem?_map, left, right]
  exact congrArg some same

theorem ListingSound.find (sound : ListingSound palettes) {entry : PaletteEntry}
    (found : palettes[index]? = some entry) :
    findPalette palettes entry.id = some index := by
  cases result : findPalette palettes entry.id with
  | none => exact absurd rfl (findPalette_none result entry (List.mem_of_getElem? found))
  | some other =>
    obtain ⟨entry', found', same⟩ := findPalette_some result
    rw [sound.place found' found same]

theorem ListingSound.first (sound : ListingSound palettes) :
    ∃ entry, palettes[0]? = some entry ∧ entry.id = defaultId ∧ entry.isShipped = true ∧
      entry.colorsLoaded = true := by
  obtain ⟨entry, rest, rfl, id, shipped, loaded⟩ := sound.default
  exact ⟨entry, rfl, id, shipped, loaded⟩

theorem ListingSound.set (sound : ListingSound palettes) {old new : PaletteEntry}
    (found : palettes[index]? = some old) (becomes : old.Becomes new) :
    ListingSound (palettes.set index new) where
  distinct := by
    -- The ids are the same as before.
    have ids : (palettes.set index new).map (·.id) = palettes.map (·.id) := by
      obtain ⟨inside, rfl⟩ := List.getElem?_eq_some_iff.mp found
      have mapped : index < (palettes.map (·.id)).length := by simpa using inside
      have same : (palettes.map (·.id))[index] = new.id := by
        rw [List.getElem_map, becomes.id]
      rw [List.map_set, ← same]
      exact List.set_getElem_self mapped
    rw [ids]
    exact sound.distinct
  default := by
    obtain ⟨entry, rest, rfl, id, shipped, loaded⟩ := sound.default
    cases index with
    | zero =>
      obtain rfl := Option.some.inj found
      exact ⟨new, rest, rfl, becomes.id.trans id, becomes.isShipped.trans shipped,
        becomes.loaded loaded⟩
    | succ index => exact ⟨entry, rest.set index new, rfl, id, shipped, loaded⟩

theorem ListingSound.append (sound : ListingSound palettes) {new : PaletteEntry}
    (fresh : ∀ entry ∈ palettes, entry.id ≠ new.id) :
    ListingSound (palettes ++ [new]) where
  distinct := by
    rw [List.map_append, List.nodup_append]
    refine ⟨sound.distinct, List.nodup_singleton _, ?_⟩
    intro id member other single
    obtain ⟨entry, inside, rfl⟩ := List.mem_map.mp member
    obtain rfl := List.mem_singleton.mp single
    exact fresh entry inside
  default := by
    obtain ⟨entry, rest, rfl, fields⟩ := sound.default
    exact ⟨entry, rest ++ [new], rfl, fields⟩

theorem ListingSound.eraseIdx (sound : ListingSound palettes) (later : index ≠ 0) :
    ListingSound (palettes.eraseIdx index) where
  distinct := by
    rw [← List.eraseIdx_map]
    exact sound.distinct.eraseIdx index
  default := by
    obtain ⟨entry, rest, rfl, fields⟩ := sound.default
    obtain ⟨index, rfl⟩ := Nat.exists_eq_succ_of_ne_zero later
    exact ⟨entry, rest.eraseIdx index, rfl, fields⟩

end Listing

section Sorting

/-- What the library's sort does: it reorders the list so that no entry is greater than a later
one. -/
def Sorts (qsort : List PaletteEntry → List PaletteEntry) : Prop :=
  ∀ palettes, (qsort palettes).Perm palettes ∧
    (qsort palettes).Pairwise fun a b => paletteCompare a b ≠ .gt

theorem paletteCompare_default {a b : PaletteEntry} (other : a.id ≠ defaultId)
    (default : b.id = defaultId) : paletteCompare a b = .gt := by
  rw [paletteCompare, if_neg other, if_pos default]

theorem paletteCompare_swap {a b : PaletteEntry} (distinct : a.id ≠ b.id) :
    paletteCompare b a = (paletteCompare a b).swap := by
  unfold paletteCompare
  -- At most one of them is the default palette, and the names decide for the others.
  by_cases left : a.id = defaultId
  · rw [if_pos left, if_neg fun right => distinct (left.trans right.symm), if_pos left]
    rfl
  · by_cases right : b.id = defaultId
    · rw [if_pos right, if_neg left, if_pos right]
      rfl
    · rw [if_neg left, if_neg right, if_neg left, if_neg right]
      rcases lt_trichotomy (lowercase a.name) (lowercase b.name) with less | same | greater
      · rw [if_neg less.not_gt, if_pos less, if_pos less]
        rfl
      · rw [same, if_neg (lt_irrefl _), if_neg (lt_irrefl _)]
        rfl
      · rw [if_pos greater, if_neg greater.not_gt, if_pos greater]
        rfl

theorem ListingSound.sort {palettes : List PaletteEntry} (sound : ListingSound palettes)
    {qsort : List PaletteEntry → List PaletteEntry} (sorts : Sorts qsort) :
    ListingSound (qsort palettes) where
  distinct := ((sorts palettes).1.map _).nodup_iff.mpr sound.distinct
  default := by
    obtain ⟨perm, sorted⟩ := sorts palettes
    obtain ⟨entry, rest, rfl, id, fields⟩ := sound.default
    have member := perm.mem_iff.mpr List.mem_cons_self
    cases result : qsort (entry :: rest) with
    | nil =>
      rw [result] at member
      cases member
    | cons first others =>
      rw [result] at member sorted perm
      rcases List.mem_cons.mp member with rfl | later
      · exact ⟨entry, others, rfl, id, fields⟩
      -- Another entry in front of the default one would be greater than it.
      · have order := List.rel_of_pairwise_cons sorted later
        by_cases default : first.id = defaultId
        · have nodup : ((first :: others).map (·.id)).Nodup :=
            (perm.map _).nodup_iff.mpr sound.distinct
          have absent := (List.nodup_cons.mp nodup).1
          exact absurd (List.mem_map.mpr ⟨entry, later, id.trans default.symm⟩) absent
        · exact absurd (paletteCompare_default default id) order

end Sorting

section Changes

variable {entry : PaletteEntry}

/-- The colours of a palette are there, or there is no file to load them from. -/
def PaletteEntry.Ready (entry : PaletteEntry) : Prop :=
  entry.colorsLoaded = true ∨ entry.path = []

theorem loadColors_becomes (entry : PaletteEntry) (disk : Disk) :
    entry.Becomes (loadColors entry disk).1 := by
  unfold loadColors
  -- Only the colours, the name and the mark that they are loaded change.
  split
  · exact ⟨rfl, rfl, fun loaded => loaded⟩
  · next unready =>
    have unloaded : entry.colorsLoaded ≠ true := fun loaded => unready (by simp [loaded])
    split
    · exact ⟨rfl, rfl, fun loaded => loaded⟩
    · dsimp only
      split
      · exact ⟨rfl, rfl, fun loaded => absurd loaded unloaded⟩
      · exact ⟨rfl, rfl, fun _ => rfl⟩

theorem loadColors_ready (ready : entry.Ready) (disk : Disk) :
    loadColors entry disk = (entry, true) := by
  rw [loadColors, if_pos]
  rcases ready with loaded | pathless
  · simp [loaded]
  · simp [pathless]

theorem loadColors_loaded {disk : Disk} (loaded : (loadColors entry disk).2 = true) :
    (loadColors entry disk).1.Ready := by
  unfold loadColors at loaded ⊢
  split
  · next ready =>
    simp only [Bool.or_eq_true, decide_eq_true_eq] at ready
    exact ready
  · next unready =>
    rw [if_neg unready] at loaded
    split at loaded
    · cases loaded
    · dsimp only at loaded ⊢
      split
      · next few =>
        rw [if_pos few] at loaded
        cases loaded
      · exact .inl rfl

theorem copyText_of_fits {size : Nat} {source : Chars} (fits : source.length ≤ size - 1) :
    copyText size source = source :=
  List.take_of_length_le fits

theorem splitExtension_length {name stem extension : Chars}
    (split : splitExtension name = some (stem, extension)) : stem.length ≤ name.length := by
  unfold splitExtension at split
  split at split
  · obtain ⟨rfl, _⟩ := Prod.mk.inj (Option.some.inj split)
    exact List.length_take_le' _ _
  · cases split

theorem directoryId_length (name : Chars) : (directoryId name).length ≤ c64PaletteNameMax - 1 := by
  have cut : (copyText c64PaletteNameMax name).length ≤ c64PaletteNameMax - 1 :=
    List.length_take_le _ _
  unfold directoryId
  dsimp only
  split
  · exact cut
  · next split => exact (splitExtension_length split).trans cut

theorem paletteId_length (path : Chars) : (paletteId path).length ≤ c64PaletteNameMax - 1 := by
  have cut : (copyText c64PaletteNameMax (fileName path)).length ≤ c64PaletteNameMax - 1 :=
    List.length_take_le _ _
  unfold paletteId
  dsimp only
  split
  · exact cut
  · next split =>
    split
    · exact (splitExtension_length split).trans cut
    · exact cut

theorem addPaletteEntry_cases (system : PaletteSystem) {id : Chars} (name path : Chars)
    (isShipped : Bool) (fits : id.length ≤ c64PaletteNameMax - 1) :
    addPaletteEntry system id name path isShipped = (system, false) ∨
      ∃ entry : PaletteEntry, entry.id = id ∧ (∀ other ∈ system.palettes, other.id ≠ id) ∧
        addPaletteEntry system id name path isShipped =
          ({ system with palettes := system.palettes ++ [entry], spare := system.spare.tail },
            true) := by
  unfold addPaletteEntry
  split
  · exact .inl rfl
  · split
    · exact .inl rfl
    · next fresh =>
      -- Ids that differ but for capitals differ.
      refine .inr ⟨_, copyText_of_fits fits, fun other member same => fresh ?_, rfl⟩
      exact List.any_eq_true.mpr ⟨other, member, by simp [same]⟩

theorem colorLast_append {system : PaletteSystem} {palettes : List PaletteEntry}
    (last : system.palettes = palettes ++ [entry]) (colors : List UInt32) :
    colorLast system colors =
      { system with
        palettes := palettes ++ [{ entry with colors := colors, colorsLoaded := true }] } := by
  have place : system.palettes.length - 1 = palettes.length := by simp [last]
  have found : system.palettes[palettes.length]? = some entry := by simp [last]
  unfold colorLast
  dsimp only
  rw [place, found]
  simp only [setPalette, last]
  rw [List.set_append_right _ _ (le_refl _), Nat.sub_self, List.set_cons_zero]

end Changes

section Discovery

/-- Palettes are added behind the others, and nothing else changes. -/
structure Grown (system grown : PaletteSystem) : Prop where
  palettes : ∃ more, grown.palettes = system.palettes ++ more
  active : grown.activePaletteIndex = system.activePaletteIndex
  colors : grown.workingColors = system.workingColors
  modified : grown.workingModified = system.workingModified
  listing : ListingSound system.palettes → ListingSound grown.palettes

theorem Grown.refl (system : PaletteSystem) : Grown system system :=
  ⟨⟨[], (List.append_nil _).symm⟩, rfl, rfl, rfl, fun sound => sound⟩

theorem Grown.trans {system middle grown : PaletteSystem} (first : Grown system middle)
    (second : Grown middle grown) : Grown system grown := by
  obtain ⟨more, palettes⟩ := first.palettes
  obtain ⟨others, palettes'⟩ := second.palettes
  exact ⟨⟨more ++ others, by rw [palettes', palettes, List.append_assoc]⟩,
    second.active.trans first.active, second.colors.trans first.colors,
    second.modified.trans first.modified, fun sound => second.listing (first.listing sound)⟩

theorem addPaletteEntry_grown (system : PaletteSystem) {id : Chars} (name path : Chars)
    (isShipped : Bool) (fits : id.length ≤ c64PaletteNameMax - 1) :
    Grown system (addPaletteEntry system id name path isShipped).1 := by
  rcases addPaletteEntry_cases system name path isShipped fits with
    failed | ⟨entry, named, fresh, added⟩
  · rw [failed]
    exact .refl system
  · rw [added]
    exact ⟨⟨[entry], rfl⟩, rfl, rfl, rfl, fun sound => sound.append (by rwa [named])⟩

theorem grown_foldl {add : PaletteSystem → DirEntry → PaletteSystem}
    (grows : ∀ system entry, Grown system (add system entry)) (system : PaletteSystem)
    (entries : List DirEntry) : Grown system (entries.foldl add system) := by
  induction entries generalizing system with
  | nil => exact .refl system
  | cons entry rest ih => exact (grows system entry).trans (ih _)

theorem discoverShippedPalette_grown (path : Chars) (disk : Disk) (system : PaletteSystem)
    (entry : DirEntry) : Grown system (discoverShippedPalette path disk system entry) := by
  unfold discoverShippedPalette
  split
  · exact .refl system
  · dsimp only
    split
    · exact .refl system
    · split
      · exact .refl system
      · split
        · exact .refl system
        · exact addPaletteEntry_grown system _ _ _ (directoryId_length _)

theorem discoverCustomPalette_grown (disk : Disk) (system : PaletteSystem) (entry : DirEntry) :
    Grown system (discoverCustomPalette disk system entry) := by
  unfold discoverCustomPalette
  split
  · exact .refl system
  · dsimp only
    split
    · exact .refl system
    · split
      · exact .refl system
      · split
        · exact .refl system
        · exact addPaletteEntry_grown system _ _ _ (directoryId_length _)

theorem discoverShippedPalettes_grown (system : PaletteSystem) (path : Chars)
    (entries : Option (List DirEntry)) (disk : Disk) :
    Grown system (discoverShippedPalettes system path entries disk) :=
  grown_foldl (discoverShippedPalette_grown path disk) system _

theorem discoverCustomPalettes_grown (system : PaletteSystem) (disk : Disk) :
    Grown system (discoverCustomPalettes system disk) := by
  unfold discoverCustomPalettes
  split
  · exact .refl system
  · exact grown_foldl (discoverCustomPalette_grown disk) system _

end Discovery

section Selection

variable {system : PaletteSystem}

/-- The palette that an id selects: the default one if it is empty. -/
def selectedId (id : Chars) : Chars :=
  if id = [] then defaultId else id

/-- The active palette is the selected one, its colours are there, and they are the ones that are
edited unless those were changed. -/
structure SelectedAt (system : PaletteSystem) (selected : Chars) (index : Nat)
    (entry : PaletteEntry) : Prop where
  active : system.activePaletteIndex = some index
  found : system.palettes[index]? = some entry
  id : entry.id = selected
  ready : entry.Ready
  colors : system.workingModified = false → system.workingColors = entry.colors

/-- The palettes are sound, and the selected one is active. -/
structure SystemSound (system : PaletteSystem) (selected : Chars) : Prop where
  listing : ListingSound system.palettes
  selected : ∃ index entry, SelectedAt system selected index entry

theorem c64PaletteSelect_cases (system : PaletteSystem) (id : Chars) (disk : Disk) :
    ((∀ entry ∈ system.palettes, entry.id ≠ selectedId id) ∧
        c64PaletteSelect system id disk = (system, false)) ∨
      ∃ index entry, system.palettes[index]? = some entry ∧ entry.id = selectedId id ∧
        (((loadColors entry disk).2 = false ∧ c64PaletteSelect system id disk =
            (setPalette system index (loadColors entry disk).1, false)) ∨
          ((loadColors entry disk).2 = true ∧ c64PaletteSelect system id disk =
            ({ setPalette system index (loadColors entry disk).1 with
                activePaletteIndex := some index
                workingColors := (loadColors entry disk).1.colors
                workingModified := false }, true))) := by
  unfold c64PaletteSelect
  dsimp only
  rw [← selectedId]
  cases result : findPalette system.palettes (selectedId id) with
  | none => exact .inl ⟨findPalette_none result, rfl⟩
  | some index =>
    obtain ⟨entry, found, named⟩ := findPalette_some result
    refine .inr ⟨index, entry, found, named, ?_⟩
    simp only [found]
    -- Whether the colours could be loaded decides.
    split
    · next failed => exact .inl ⟨failed, rfl⟩
    · next loaded => exact .inr ⟨by simpa using loaded, rfl⟩

theorem c64PaletteSelect_selected (sound : ListingSound system.palettes) {id : Chars} {disk : Disk}
    (done : (c64PaletteSelect system id disk).2 = true) :
    SystemSound (c64PaletteSelect system id disk).1 (selectedId id) := by
  rcases c64PaletteSelect_cases system id disk with
    ⟨_, result⟩ | ⟨index, entry, found, named, ⟨_, result⟩ | ⟨loaded, result⟩⟩
  · rw [result] at done
    cases done
  · rw [result] at done
    cases done
  · have becomes := loadColors_becomes entry disk
    have inside := (List.getElem?_eq_some_iff.mp found).1
    rw [result]
    exact ⟨sound.set found becomes, index, _, rfl, List.getElem?_set_self inside,
      becomes.id.trans named, loadColors_loaded loaded, fun _ => rfl⟩

theorem c64PaletteSelect_ready (sound : ListingSound system.palettes) {id : Chars} {disk : Disk}
    {entry : PaletteEntry} (member : entry ∈ system.palettes) (named : entry.id = selectedId id)
    (ready : entry.Ready) :
    (c64PaletteSelect system id disk).2 = true := by
  rcases c64PaletteSelect_cases system id disk with
    ⟨absent, _⟩ | ⟨index, other, found, named', ⟨failed, _⟩ | ⟨_, result⟩⟩
  · exact absurd named (absent entry member)
  · -- The palette that was found is this one, since ids are distinct.
    obtain ⟨place, inside⟩ := List.mem_iff_getElem?.mp member
    have same := sound.place found inside (named'.trans named.symm)
    rw [same, inside] at found
    rw [← Option.some.inj found, loadColors_ready ready] at failed
    cases failed
  · rw [result]

theorem c64PaletteSelect_default (sound : ListingSound system.palettes) (disk : Disk) :
    (c64PaletteSelect system defaultId disk).2 = true := by
  obtain ⟨entry, found, named, _, loaded⟩ := sound.first
  exact c64PaletteSelect_ready sound (List.mem_of_getElem? found) named (.inl loaded)

theorem SystemSound.load {selected : Chars} (sound : SystemSound system selected) {index : Nat}
    {entry : PaletteEntry} (found : system.palettes[index]? = some entry) (disk : Disk) :
    SystemSound (setPalette system index (loadColors entry disk).1) selected := by
  obtain ⟨active, current, selectedAt⟩ := sound.selected
  refine ⟨sound.listing.set found (loadColors_becomes entry disk), active, current,
    selectedAt.active, ?_, selectedAt.id, selectedAt.ready, selectedAt.colors⟩
  by_cases same : index = active
  · -- The active palette is ready, so nothing is loaded.
    subst same
    obtain rfl := Option.some.inj (selectedAt.found.symm.trans found)
    have inside := (List.getElem?_eq_some_iff.mp found).1
    rw [loadColors_ready selectedAt.ready]
    exact List.getElem?_set_self inside
  · exact (List.getElem?_set_ne same).trans selectedAt.found

end Selection

end C64Stream
