import C64Stream.Palette.SelectionLaws
import C64Stream.Lib.Run

/-! The check for lost files: what it removes, what its pointer shows, and when that is right. -/

namespace C64Stream

section Loop

variable (system : PaletteSystem) (disk : Disk)

/-- How many of the palettes before a place have lost their files. -/
def lostBefore (place : Nat) : Nat :=
  (system.palettes.take place).countP (isMissing disk)

/-- The palettes before a place that still have their files. -/
def keptBefore (place : Nat) : List PaletteEntry :=
  (system.palettes.take place).filter fun entry => !isMissing disk entry

/-- Whether the palette at a place has lost its file and is the one that the pointer shows when its
turn comes: the pointer stays where it is while the palettes move down, and once they have moved
past the end it shows the last one. -/
def PointedAndLost (active place : Nat) : Prop :=
  place = min (active + lostBefore system disk place) (system.palettes.length - 1) ∧
    ∃ entry, system.palettes[place]? = some entry ∧ isMissing disk entry = true

instance (active place : Nat) : Decidable (PointedAndLost system disk active place) :=
  inferInstanceAs (Decidable (_ ∧ ∃ entry, _ = some entry ∧ isMissing disk entry = true))

/-- Whether the pointer shows some palette that has lost its file when its turn comes. -/
def pointerNotices (active : Nat) : Bool :=
  (List.range system.palettes.length).any fun place => PointedAndLost system disk active place

/-- The system after the palettes before a place have been looked at; each that was removed has left
the last palette behind the others. -/
def lookedAt (place : Nat) : PaletteSystem :=
  { system with
    palettes := keptBefore system disk place ++ system.palettes.drop place
    spare :=
      (List.replicate (lostBefore system disk place) system.palettes.getLast?.toList).flatten ++
        system.spare
    activePaletteIndex := system.activePaletteIndex.map fun active =>
      active - lostBefore system disk (min active place) }

/-- The loop after the palettes before a place have been looked at. -/
def loopAfter (active place : Nat) : ValidationLoop :=
  { system := lookedAt system disk place
    index := place - lostBefore system disk place
    removedCount := lostBefore system disk place
    activePaletteMissing :=
      (List.range place).any fun place => PointedAndLost system disk active place }

variable {system disk}

theorem lostBefore_succ {place : Nat} {entry : PaletteEntry}
    (found : system.palettes[place]? = some entry) :
    lostBefore system disk (place + 1) =
      lostBefore system disk place + if isMissing disk entry then 1 else 0 := by
  rw [lostBefore, List.take_add_one, found, List.countP_append]
  congr 1
  exact List.countP_singleton

theorem keptBefore_succ {place : Nat} {entry : PaletteEntry}
    (found : system.palettes[place]? = some entry) :
    keptBefore system disk (place + 1) =
      keptBefore system disk place ++ if isMissing disk entry then [] else [entry] := by
  rw [keptBefore, List.take_add_one, found, List.filter_append, Option.toList_some,
    List.filter_singleton]
  cases isMissing disk entry <;> rfl

theorem keptBefore_length {place : Nat} (inside : place ≤ system.palettes.length) :
    (keptBefore system disk place).length + lostBefore system disk place = place := by
  have split : (system.palettes.take place).length = _ :=
    List.length_eq_countP_add_countP (isMissing disk)
  rw [List.length_take, Nat.min_eq_left inside] at split
  rw [keptBefore, ← List.countP_eq_length_filter, lostBefore, Nat.add_comm]
  refine Eq.trans ?_ split.symm
  congr 1
  exact List.countP_congr fun entry _ => by simp

theorem drop_eq_cons {place : Nat} {entry : PaletteEntry}
    (found : system.palettes[place]? = some entry) :
    system.palettes.drop place = entry :: system.palettes.drop (place + 1) := by
  obtain ⟨inside, rfl⟩ := List.getElem?_eq_some_iff.mp found
  exact List.drop_eq_getElem_cons inside

theorem lostBefore_mono {first second : Nat} (order : first ≤ second) :
    lostBefore system disk first ≤ lostBefore system disk second ∧
      lostBefore system disk second ≤ lostBefore system disk first + (second - first) := by
  obtain ⟨more, rfl⟩ := Nat.exists_eq_add_of_le order
  have split : lostBefore system disk (first + more) = lostBefore system disk first +
      ((system.palettes.drop first).take more).countP (isMissing disk) := by
    rw [lostBefore, List.take_add, List.countP_append, lostBefore]
  have bound : ((system.palettes.drop first).take more).countP (isMissing disk) ≤ more :=
    List.countP_le_length.trans (List.length_take_le _ _)
  omega

end Loop

section Pointer

variable {system : PaletteSystem} {disk : Disk}

theorem lookedAt_memory {last : PaletteEntry} (atEnd : system.palettes.getLast? = some last)
    (place : Nat) :
    (lookedAt system disk place).palettes ++ (lookedAt system disk place).spare =
      keptBefore system disk place ++ (system.palettes.drop place ++
        (List.replicate (lostBefore system disk place) last ++ system.spare)) := by
  simp only [lookedAt, atEnd, Option.toList_some, List.flatten_replicate_singleton,
    List.append_assoc]

theorem pointedId_lookedAt (sound : ListingSound system.palettes) {entry : PaletteEntry}
    {active place : Nat} (inside : active < system.palettes.length)
    (found : system.palettes[place]? = some entry)
    (missing : isMissing disk entry = true) :
    entry.id = pointedId (lookedAt system disk place) (some active) ↔
      PointedAndLost system disk active place := by
  have placed := (List.getElem?_eq_some_iff.mp found).1
  have kept := @keptBefore_length system disk place placed.le
  obtain ⟨last, lastPlace⟩ : ∃ last, system.palettes[system.palettes.length - 1]? = some last :=
    ⟨_, List.getElem?_eq_getElem (by omega)⟩
  have atEnd := List.getLast?_eq_getElem?.trans lastPlace
  -- The pointer shows the palette at a place, which decides by the distinct ids.
  have settle {shown : PaletteEntry} {there : Nat}
      (memory : ((lookedAt system disk place).palettes ++
        (lookedAt system disk place).spare)[active]? = some shown)
      (from_place : system.palettes[there]? = some shown)
      (same : place = there ↔
        place = min (active + lostBefore system disk place) (system.palettes.length - 1)) :
      entry.id = pointedId (lookedAt system disk place) (some active) ↔
        PointedAndLost system disk active place := by
    simp only [pointedId, Option.bind_some, memory]
    constructor
    · intro ids
      exact ⟨same.mp (sound.place found from_place ids), entry, found, missing⟩
    · rintro ⟨pointed, _⟩
      have there_eq := same.mpr pointed
      subst there_eq
      rw [Option.some.inj (found.symm.trans from_place)]
  rw [lookedAt_memory atEnd] at settle
  by_cases before : active < (keptBefore system disk place).length
  · -- A kept palette has its file, so it is another one.
    obtain ⟨shown, memory⟩ : ∃ shown, (keptBefore system disk place)[active]? = some shown :=
      ⟨_, List.getElem?_eq_getElem before⟩
    have member := List.mem_of_getElem? memory
    have keptFile := (List.mem_filter.mp member).2
    obtain ⟨there, from_place⟩ :=
      List.mem_iff_getElem?.mp (List.mem_of_mem_take (List.mem_filter.mp member).1)
    refine settle ((List.getElem?_append_left before).trans memory) from_place ?_
    constructor
    · rintro rfl
      rw [← Option.some.inj (found.symm.trans from_place), missing] at keptFile
      cases keptFile
    · omega
  · have behind : (keptBefore system disk place).length ≤ active := by omega
    by_cases ahead : active + lostBefore system disk place < system.palettes.length
    · -- The pointer shows a palette that is still to be looked at.
      have shown := List.getElem?_eq_getElem ahead
      refine settle ?_ shown (by omega)
      rw [List.getElem?_append_right behind, List.getElem?_append_left (by
        rw [List.length_drop]
        omega), List.getElem?_drop, ← shown]
      congr 1
      omega
    · -- The pointer shows what was left behind the end, which is the last palette.
      refine settle ?_ lastPlace (by omega)
      have past : (system.palettes.drop place).length ≤
          active - (keptBefore system disk place).length := by
        rw [List.length_drop]
        omega
      have left : active - (keptBefore system disk place).length -
          (system.palettes.drop place).length <
            (List.replicate (lostBefore system disk place) last).length := by
        rw [List.length_drop, List.length_replicate]
        omega
      rw [List.getElem?_append_right behind, List.getElem?_append_right past,
        List.getElem?_append_left left, List.getElem?_replicate, if_pos (by simpa using left)]

end Pointer

section Loop

variable {system : PaletteSystem} {disk : Disk}

theorem removePaletteEntry_lookedAt {entry : PaletteEntry} {active place : Nat}
    (activeAt : system.activePaletteIndex = some active)
    (found : system.palettes[place]? = some entry) (missing : isMissing disk entry = true) :
    removePaletteEntry (lookedAt system disk place) (place - lostBefore system disk place) =
      lookedAt system disk (place + 1) := by
  have placed := (List.getElem?_eq_some_iff.mp found).1
  have kept := @keptBefore_length system disk place placed.le
  have lost := @lostBefore_succ system disk place entry found
  have keeps := @keptBefore_succ system disk place entry found
  rw [if_pos missing] at lost keeps
  have here : place - lostBefore system disk place = (keptBefore system disk place).length := by
    omega
  -- The palette that is removed is the first one that is still to be looked at.
  have palettes : (keptBefore system disk place ++ system.palettes.drop place).eraseIdx
      (keptBefore system disk place).length =
        keptBefore system disk (place + 1) ++ system.palettes.drop (place + 1) := by
    rw [List.eraseIdx_append_of_length_le (le_refl _), Nat.sub_self, drop_eq_cons found,
      List.eraseIdx_cons_zero, keeps, List.append_nil]
  -- The last palette stays in memory.
  have spare : (keptBefore system disk place ++ system.palettes.drop place).getLast? =
      system.palettes.getLast? := by
    have nonempty := List.ne_nil_of_length_pos (Nat.zero_lt_of_lt placed)
    have atEnd := List.getLast?_eq_some_getLast nonempty
    rw [List.getLast?_append, List.getLast?_drop, if_neg (by omega), atEnd]
    rfl
  have moves : (if active - lostBefore system disk (min active place) >
      (keptBefore system disk place).length
      then active - lostBefore system disk (min active place) - 1
      else active - lostBefore system disk (min active place)) =
        active - lostBefore system disk (min active (place + 1)) := by
    by_cases ahead : place < active
    · -- The removed palette is before the active one.
      rw [Nat.min_eq_right ahead.le, Nat.min_eq_right (by omega), lost, if_pos (by omega)]
      omega
    · have bound := (@lostBefore_mono system disk active place (by omega)).2
      rw [Nat.min_eq_left (by omega), Nat.min_eq_left (by omega), if_neg (by omega)]
  simp only [here, lookedAt, removePaletteEntry, activeAt, Option.map_some, palettes, spare, lost,
    moves]
  rw [List.replicate_succ, List.flatten_cons, List.append_assoc]

theorem lookedAt_kept {entry : PaletteEntry} {active place : Nat}
    (activeAt : system.activePaletteIndex = some active)
    (found : system.palettes[place]? = some entry) (kept : isMissing disk entry = false) :
    lookedAt system disk (place + 1) = lookedAt system disk place := by
  have lost := @lostBefore_succ system disk place entry found
  have keeps := @keptBefore_succ system disk place entry found
  rw [if_neg (by simp [kept])] at lost keeps
  have stays : lostBefore system disk (min active (place + 1)) =
      lostBefore system disk (min active place) := by
    by_cases ahead : place < active
    · rw [Nat.min_eq_right ahead.le, Nat.min_eq_right (by omega), lost, Nat.add_zero]
    · rw [Nat.min_eq_left (by omega), Nat.min_eq_left (by omega)]
  simp only [lookedAt, activeAt, Option.map_some, stays, lost, Nat.add_zero, keeps,
    drop_eq_cons found, List.append_assoc, List.singleton_append]

theorem validatePalette_loopAfter (sound : ListingSound system.palettes)
    {entry : PaletteEntry} {active place : Nat} (activeAt : system.activePaletteIndex = some active)
    (inside : active < system.palettes.length) (found : system.palettes[place]? = some entry) :
    validatePalette disk (some active) (loopAfter system disk active place) entry =
      loopAfter system disk active (place + 1) := by
  have placed := (List.getElem?_eq_some_iff.mp found).1
  have kept := @keptBefore_length system disk place placed.le
  have lost := @lostBefore_succ system disk place entry found
  have turns : (List.range (place + 1)).any (fun place => PointedAndLost system disk active place) =
      ((List.range place).any (fun place => PointedAndLost system disk active place) ||
        decide (PointedAndLost system disk active place)) := by
    rw [List.range_succ, List.any_append, List.any_cons, List.any_nil, Bool.or_false]
  unfold validatePalette
  cases missing : isMissing disk entry with
  | true =>
    -- The pointer shows this palette or another one, which the flag records.
    have shows := @pointedId_lookedAt system disk sound entry active place inside found missing
    have removed := removePaletteEntry_lookedAt activeAt found missing
    rw [if_pos missing] at lost
    rw [if_pos rfl]
    simp only [loopAfter, removed, lost, turns]
    congr 1
    · omega
    · congr 1
      exact decide_eq_decide.mpr shows
  | false =>
    have unpointed : ¬ PointedAndLost system disk active place := by
      rintro ⟨_, other, found', missing'⟩
      rw [← Option.some.inj (found.symm.trans found'), missing] at missing'
      cases missing'
    have same := lookedAt_kept activeAt found missing
    rw [if_neg (by simp [missing])] at lost
    rw [if_neg Bool.false_ne_true]
    simp only [loopAfter, same, lost, turns, unpointed, decide_false, Bool.or_false, Nat.add_zero]
    congr 1
    omega

theorem validatePalettes_loopAfter (sound : ListingSound system.palettes) {active : Nat}
    (activeAt : system.activePaletteIndex = some active)
    (inside : active < system.palettes.length) (turns place : Nat)
    (all : place + turns = system.palettes.length) :
    validatePalettes disk (some active) turns (loopAfter system disk active place) =
      loopAfter system disk active system.palettes.length := by
  induction turns generalizing place with
  | zero =>
    obtain rfl : place = system.palettes.length := by omega
    rfl
  | succ turns ih =>
    have placed : place < system.palettes.length := by omega
    have found := List.getElem?_eq_getElem placed
    have kept := @keptBefore_length system disk place placed.le
    -- The palette at the place is behind the ones that were kept.
    have next : (loopAfter system disk active place).system.palettes[
        (loopAfter system disk active place).index]? = some system.palettes[place] := by
      show (keptBefore system disk place ++ system.palettes.drop place)[
        place - lostBefore system disk place]? = _
      rw [List.getElem?_append_right (by omega), List.getElem?_drop, ← found]
      congr 1
      omega
    rw [validatePalettes, next]
    show validatePalettes disk (some active) turns (validatePalette disk (some active) _ _) = _
    rw [validatePalette_loopAfter sound activeAt inside found]
    exact ih (place + 1) (by omega)

end Loop

section Place

/-- An entry is sorted to a place: as many palettes come before it, and no other has its name. -/
structure SortsTo (palettes : List PaletteEntry) (entry : PaletteEntry) (place : Nat) : Prop where
  before : palettes.countP (fun other => paletteCompare entry other = .gt) = place
  unique : ∀ other ∈ palettes, paletteCompare entry other = .eq → other = entry

instance (palettes : List PaletteEntry) (entry : PaletteEntry) (place : Nat) :
    Decidable (SortsTo palettes entry place) :=
  decidable_of_iff
    (palettes.countP (fun other => paletteCompare entry other = .gt) = place ∧
      ∀ other ∈ palettes, paletteCompare entry other = .eq → other = entry)
    ⟨fun ⟨before, unique⟩ => ⟨before, unique⟩, fun sortsTo => ⟨sortsTo.before, sortsTo.unique⟩⟩

theorem SortsTo.found {palettes sorted : List PaletteEntry} {entry : PaletteEntry} {place : Nat}
    (sortsTo : SortsTo palettes entry place) (sound : ListingSound palettes)
    (member : entry ∈ palettes) (perm : sorted.Perm palettes)
    (ordered : sorted.Pairwise fun a b => paletteCompare a b ≠ .gt) :
    sorted[place]? = some entry := by
  obtain ⟨front, back, rfl⟩ := List.append_of_mem (perm.mem_iff.mpr member)
  have nodup := (perm.map (·.id)).nodup_iff.mpr sound.distinct
  rw [List.map_append, List.map_cons, List.nodup_append] at nodup
  obtain ⟨_, _, others⟩ := List.pairwise_append.mp ordered
  -- Every palette in front is less than this one, so it is counted.
  have counted : front.countP (fun other => paletteCompare entry other = .gt) = front.length := by
    rw [List.countP_eq_length]
    intro other inFront
    have distinct : other.id ≠ entry.id :=
      nodup.2.2 other.id (List.mem_map_of_mem inFront) entry.id List.mem_cons_self
    have swap := paletteCompare_swap distinct
    have order := others other inFront entry List.mem_cons_self
    cases compared : paletteCompare other entry with
    | lt =>
      rw [compared] at swap
      simp [swap]
    | gt => exact absurd compared order
    | eq =>
      rw [compared] at swap
      have same := sortsTo.unique other (perm.mem_iff.mp (List.mem_append_left _ inFront)) swap
      exact absurd (congrArg (·.id) same) distinct
  -- None behind it is counted, and it is not itself.
  have uncounted : (entry :: back).countP (fun other => paletteCompare entry other = .gt) = 0 := by
    rw [List.countP_eq_zero]
    intro other behind
    rcases List.mem_cons.mp behind with rfl | inBack
    · have itself : paletteCompare other other ≠ .gt := by
        unfold paletteCompare
        split
        · nofun
        · rw [if_neg (lt_irrefl _), if_neg (lt_irrefl _)]
          nofun
      simpa using itself
    · have order := List.rel_of_pairwise_cons (List.pairwise_append.mp ordered).2.1 inBack
      simpa using order
  have place_eq : front.length = place := by
    rw [← sortsTo.before, ← perm.countP_eq, List.countP_append, counted, uncounted, Nat.add_zero]
  rw [← place_eq, List.getElem?_append_right (le_refl _), Nat.sub_self]
  rfl

theorem sortPalettes_ordered {qsort : List PaletteEntry → List PaletteEntry} (sorts : Sorts qsort)
    (system : PaletteSystem) :
    (sortPalettes qsort system).palettes.Pairwise fun a b => paletteCompare a b ≠ .gt := by
  unfold sortPalettes
  split
  · exact (sorts system.palettes).2
  · next short =>
    -- Fewer than two palettes are in order as they are.
    match system.palettes, short with
    | [], _ => exact .nil
    | [entry], _ => exact List.pairwise_singleton _ _
    | _ :: _ :: _, short => simp at short

end Place

section Validation

variable {system : PaletteSystem} {disk : Disk}

/-- The check leaves the selected palette active: the pointer notices a lost file exactly when it is
that of the active palette, and if only other files are lost, the palettes that are then listed sort
the active one to the place that the removals have left to it. -/
def SelectionSurvives (system : PaletteSystem) (disk : Disk) : Prop :=
  ∀ active ∈ system.activePaletteIndex, ∀ entry ∈ system.palettes[active]?,
    pointerNotices system disk active = isMissing disk entry ∧
      (isMissing disk entry = false → 0 < lostBefore system disk system.palettes.length →
        SortsTo
          (discoverCustomPalettes (lookedAt system disk system.palettes.length) disk).palettes
          entry (active - lostBefore system disk active))

instance (system : PaletteSystem) (disk : Disk) : Decidable (SelectionSurvives system disk) := by
  unfold SelectionSurvives
  infer_instance

theorem keptBefore_sound (sound : ListingSound system.palettes) (place : Nat) :
    ListingSound (keptBefore system disk (place + 1)) where
  distinct := by
    have sub : (keptBefore system disk (place + 1)).Sublist system.palettes :=
      List.filter_sublist.trans (List.take_sublist _ _)
    exact sound.distinct.sublist (sub.map _)
  default := by
    obtain ⟨entry, rest, palettes, id, shipped, loaded⟩ := sound.default
    have kept : isMissing disk entry = false := by simp [isMissing, shipped]
    refine ⟨entry, (rest.take place).filter fun entry => !isMissing disk entry, ?_, id, shipped,
      loaded⟩
    rw [keptBefore, palettes, List.take_succ_cons, List.filter_cons_of_pos (by simp [kept])]

theorem loopAfter_zero (system : PaletteSystem) (disk : Disk) (active : Nat) :
    loopAfter system disk active 0 = ⟨system, 0, 0, false⟩ := by
  obtain ⟨palettes, spare, index, colors, modified, dir⟩ := system
  cases index <;> simp [loopAfter, lookedAt, keptBefore, lostBefore]

theorem lookedAt_noLoss {active : Nat} (activeAt : system.activePaletteIndex = some active)
    (none : lostBefore system disk system.palettes.length = 0) :
    lookedAt system disk system.palettes.length = system := by
  have files : ∀ entry ∈ system.palettes, ¬ isMissing disk entry = true := by
    rw [lostBefore, List.take_length, List.countP_eq_zero] at none
    exact none
  have kept : keptBefore system disk system.palettes.length = system.palettes := by
    rw [keptBefore, List.take_length, List.filter_eq_self]
    intro entry member
    simpa using files entry member
  have before := (@lostBefore_mono system disk (min active system.palettes.length)
    system.palettes.length (Nat.min_le_right _ _)).1
  have noMove : lostBefore system disk (min active system.palettes.length) = 0 := by omega
  simp only [lookedAt, kept, activeAt, Option.map_some, noMove, none, List.drop_length,
    List.append_nil, List.replicate_zero, List.flatten_nil, List.nil_append, Nat.sub_zero]
  rw [← activeAt]

/-- The check for lost files keeps the selected palette active, or falls back to the default one if
its own file is lost. -/
theorem c64PaletteValidateFilesystem_sound {qsort : List PaletteEntry → List PaletteEntry}
    (sorts : Sorts qsort) {selected : Chars} (sound : SystemSound system selected)
    (survives : SelectionSurvives system disk) :
    SystemSound (c64PaletteValidateFilesystem qsort system disk)
      (if system.palettes.any fun entry => entry.id = selected && isMissing disk entry then
        defaultId else selected) := by
  obtain ⟨active, entry, found⟩ := sound.selected
  have inside := (List.getElem?_eq_some_iff.mp found.found).1
  obtain ⟨notices, sortsTo⟩ := survives active found.active entry found.found
  -- The palette of the selected id is the active one.
  have lost : (system.palettes.any fun entry => entry.id = selected && isMissing disk entry) =
      isMissing disk entry := by
    apply Bool.eq_iff_iff.mpr
    rw [List.any_eq_true]
    constructor
    · rintro ⟨other, member, both⟩
      simp only [Bool.and_eq_true, decide_eq_true_eq] at both
      obtain ⟨place, atPlace⟩ := List.mem_iff_getElem?.mp member
      have same := sound.listing.place atPlace found.found (both.1.trans found.id.symm)
      rw [same] at atPlace
      rw [← Option.some.inj (atPlace.symm.trans found.found)]
      exact both.2
    · intro missing
      exact ⟨entry, List.mem_of_getElem? found.found, by simp [found.id, missing]⟩
  rw [lost]
  have loop := @validatePalettes_loopAfter system disk sound.listing active found.active
    inside system.palettes.length 0 (Nat.zero_add _)
  rw [loopAfter_zero] at loop
  have flag : (loopAfter system disk active system.palettes.length).activePaletteMissing =
      isMissing disk entry := notices
  have kept : ListingSound (lookedAt system disk system.palettes.length).palettes := by
    obtain ⟨count, length⟩ :=
      Nat.exists_eq_succ_of_ne_zero (Nat.ne_of_gt (Nat.zero_lt_of_lt inside))
    show ListingSound (keptBefore system disk system.palettes.length ++ _)
    rw [List.drop_length, List.append_nil, length]
    exact keptBefore_sound sound.listing count
  have grown := discoverCustomPalettes_grown (lookedAt system disk system.palettes.length) disk
  unfold c64PaletteValidateFilesystem
  rw [found.activePalette, Option.isSome_some, if_pos rfl, found.active]
  dsimp only
  have removed : (loopAfter system disk active system.palettes.length).removedCount =
      lostBefore system disk system.palettes.length := rfl
  have left : (loopAfter system disk active system.palettes.length).system =
      lookedAt system disk system.palettes.length := rfl
  rw [loop, flag, removed, left]
  by_cases some_lost : 0 < lostBefore system disk system.palettes.length
  · -- Something was removed, so the palettes are listed again and sorted.
    rw [if_pos some_lost]
    have listed := (grown.listing kept).sortPalettes sorts
    cases missing : isMissing disk entry with
    | true =>
      rw [if_pos rfl, if_pos rfl]
      exact c64PaletteSelect_selected listed (c64PaletteSelect_default listed disk)
    | false =>
      rw [if_neg Bool.false_ne_true, if_neg Bool.false_ne_true]
      obtain ⟨active_same, colors_same, modified_same⟩ := sortPalettes_rest qsort
        (discoverCustomPalettes (lookedAt system disk system.palettes.length) disk)
      -- The active palette is among those that were kept, and so among those that are sorted.
      have member : entry ∈
          (discoverCustomPalettes (lookedAt system disk system.palettes.length) disk).palettes := by
        obtain ⟨more, palettes⟩ := grown.palettes
        rw [palettes]
        refine List.mem_append_left _ (List.mem_append_left _ ?_)
        rw [keptBefore, List.take_length, List.mem_filter]
        exact ⟨List.mem_of_getElem? found.found, by simp [missing]⟩
      have placed := (sortsTo missing some_lost).found (grown.listing kept) member
        (sortPalettes_perm sorts _) (sortPalettes_ordered sorts _)
      refine ⟨listed, active - lostBefore system disk active, entry, ?_, placed, found.id,
        found.ready, ?_⟩
      · rw [active_same, grown.active]
        show (lookedAt system disk _).activePaletteIndex = _
        simp only [lookedAt, found.active, Option.map_some, Nat.min_eq_left inside.le]
      · rw [modified_same, colors_same, grown.modified, grown.colors]
        exact found.colors
  · -- Nothing was removed, and the active palette has its file.
    rw [if_neg some_lost]
    have noLoss : lostBefore system disk system.palettes.length = 0 := by omega
    have missing : isMissing disk entry = false := by
      rw [lostBefore, List.take_length, List.countP_eq_zero] at noLoss
      simpa using noLoss entry (List.mem_of_getElem? found.found)
    rw [missing, if_neg Bool.false_ne_true, if_neg Bool.false_ne_true]
    show SystemSound (lookedAt system disk system.palettes.length) selected
    rw [lookedAt_noLoss found.active noLoss]
    exact sound

end Validation

end C64Stream
