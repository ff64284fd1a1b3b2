import C64Stream.Lib.Run
import C64Stream.Palette.CatalogueLaws
import C64Stream.Settings.Palettes

/-! Which colours a source shows after the statements of a script, and which never reach it. -/

namespace C64Stream

section Loading

/-- The colours of a palette, if there is one of that id and they can be loaded. -/
def paletteColors (palettes : List PaletteEntry) (disk : Disk) (id : Chars) :
    Option (List UInt32) :=
  let id := if id = [] then defaultId else id
  (findPalette palettes id).bind fun index =>
    palettes[index]?.bind fun entry =>
      if (loadColors entry disk).2 then some (loadColors entry disk).1.colors else none

theorem resolve_colors (system : PaletteSystem) (id : Chars) (disk : Disk) :
    (c64PaletteResolveColors system id disk).2 = paletteColors system.palettes disk id := by
  unfold c64PaletteResolveColors paletteColors
  dsimp only
  cases findPalette system.palettes (if id = [] then defaultId else id) with
  | none => rfl
  | some index =>
    cases found : system.palettes[index]? with
    | none => simp [found]
    | some entry => simp [found]

theorem loadColors_again (entry : PaletteEntry) (disk : Disk) :
    (loadColors (loadColors entry disk).1 disk).2 = (loadColors entry disk).2 ∧
      ((loadColors entry disk).2 = true →
        (loadColors (loadColors entry disk).1 disk).1.colors = (loadColors entry disk).1.colors) := by
  by_cases ready : (entry.colorsLoaded || entry.path = []) = true
  · simp [loadColors, ready]
  · cases file : disk.vpl entry.path with
    | none => simp [loadColors, ready, file]
    | some vpl =>
      by_cases short : min c64PaletteColors vpl.colors.length < c64PaletteColors
      · -- A file with too few colours still has too few.
        rw [Bool.or_eq_true, not_or] at ready
        simp [loadColors, ready, file, short]
      · simp [loadColors, ready, file, short]

theorem findPalette_of_ids {before after : List PaletteEntry}
    (ids : after.map (·.id) = before.map (·.id)) (id : Chars) :
    findPalette after id = findPalette before id := by
  have byIds : ∀ palettes : List PaletteEntry,
      findPalette palettes id = (palettes.map (·.id)).findIdx? (· = id) := by
    intro palettes
    rw [List.findIdx?_map]
    rfl
  rw [byIds, byIds, ids]

theorem paletteColors_load {palettes : List PaletteEntry} {index : Nat} {entry : PaletteEntry}
    (found : palettes[index]? = some entry) (disk : Disk) :
    paletteColors (palettes.set index (loadColors entry disk).1) disk =
      paletteColors palettes disk := by
  funext id
  have ids : (palettes.set index (loadColors entry disk).1).map (·.id) = palettes.map (·.id) := by
    obtain ⟨inside, rfl⟩ := List.getElem?_eq_some_iff.mp found
    have bound : index < (palettes.map (·.id)).length := by simpa using inside
    rw [List.map_set, (loadColors_becomes _ disk).id]
    simpa using List.set_getElem_self bound
  unfold paletteColors
  dsimp only
  rw [findPalette_of_ids ids]
  refine congrArg _ (funext fun place => ?_)
  by_cases here : index = place
  · subst here
    have inside := (List.getElem?_eq_some_iff.mp found).1
    obtain ⟨again, colors⟩ := loadColors_again entry disk
    rw [List.getElem?_set_self inside, found]
    simp only [Option.bind_some, again]
    split_ifs with loaded
    · rw [colors loaded]
    · rfl
  · rw [List.getElem?_set_ne here]

theorem paletteColors_resolve (system : PaletteSystem) (id : Chars) (disk : Disk) :
    paletteColors (c64PaletteResolveColors system id disk).1.palettes disk =
      paletteColors system.palettes disk := by
  unfold c64PaletteResolveColors
  dsimp only
  split
  · rfl
  · split
    · rfl
    · rename_i found
      exact paletteColors_load found disk

theorem paletteColors_select (system : PaletteSystem) (id : Chars) (disk : Disk) :
    paletteColors (c64PaletteSelect system id disk).1.palettes disk =
      paletteColors system.palettes disk := by
  unfold c64PaletteSelect
  dsimp only
  split
  · rfl
  · split
    · rfl
    · rename_i found
      split_ifs <;> exact paletteColors_load found disk

/-- The colours of a palette, or else those of the default one, or else those built in. -/
def shownColors (palettes : List PaletteEntry) (disk : Disk) (id : Chars) : List UInt32 :=
  ((paletteColors palettes disk id).or (paletteColors palettes disk defaultId)).getD
    c64DefaultPalette.toList

theorem colorsOrDefault_spec (system : PaletteSystem) (id : Chars) (disk : Disk) :
    (colorsOrDefault system id disk).2.1 = shownColors system.palettes disk id ∧
      paletteColors (colorsOrDefault system id disk).1.palettes disk =
        paletteColors system.palettes disk := by
  have first := resolve_colors system id disk
  have kept := paletteColors_resolve system id disk
  unfold colorsOrDefault shownColors
  generalize c64PaletteResolveColors system id disk = answer at first kept ⊢
  obtain ⟨next, found⟩ := answer
  cases found with
  | some colors =>
    rw [← first]
    exact ⟨rfl, kept⟩
  | none =>
    have second := resolve_colors next defaultId disk
    have keptToo := paletteColors_resolve next defaultId disk
    rw [kept] at second keptToo
    rw [← first, Option.none_or]
    dsimp only
    generalize c64PaletteResolveColors next defaultId disk = answer at second keptToo ⊢
    obtain ⟨last, found⟩ := answer
    cases found with
    | some colors =>
      rw [← second]
      exact ⟨rfl, keptToo⟩
    | none =>
      rw [← second]
      exact ⟨rfl, keptToo⟩

end Loading

section Keys

theorem paletteKey_ne (index : Nat) : paletteKey ≠ paletteColorKey index := by
  intro same
  have lengths := congrArg List.length same
  have short : paletteKey.length = 7 := by decide
  have long : "palette_color_".toList.length = 14 := by decide
  unfold paletteColorKey at lengths
  rw [List.length_append] at lengths
  omega

theorem colorKey_heads (index : Nat) :
    (customColorKey index).head? = some 'c' ∧ (paletteColorKey index).head? = some 'p' := by
  have custom : "custom_color_".toList = 'c' :: "ustom_color_".toList := by decide
  have palette : "palette_color_".toList = 'p' :: "alette_color_".toList := by decide
  unfold customColorKey paletteColorKey
  rw [custom, palette]
  exact ⟨rfl, rfl⟩

theorem customColorKey_ne (index : Nat) :
    paletteKey ≠ customColorKey index ∧ ∀ other, paletteColorKey other ≠ customColorKey index := by
  have head := (colorKey_heads index).1
  have apart : some 'p' ≠ some 'c' := by decide
  refine ⟨fun same => apart ?_, fun other same => apart ?_⟩
  · have first : paletteKey.head? = some 'p' := by decide
    rw [← first, same, head]
  · rw [← (colorKey_heads other).2, same, head]

end Keys

section Promise

variable {D : Type*} [ObsNumber D]

/-- The colour with three parts. -/
def rgbColor (red green blue : Int) : UInt32 :=
  UInt32.ofInt (0xFF000000 + blue * 65536 + green * 256 + red)

/-- What the statements of a script ask for: a palette, and colours in place of its own. -/
structure WantedColors where
  palette : Option Chars
  colors : Nat → Option UInt32

/-- What is asked for after a statement; one that is refused asks for nothing. -/
def WantedColors.after (wanted : WantedColors) : PaletteStatement → WantedColors
  | .palette id => ⟨some id, fun _ => none⟩
  | .paletteColor index red green blue =>
    if IsPaletteIndex index ∧ AreRgb red green blue then
      { wanted with
        colors := Function.update wanted.colors index.toNat (some (rgbColor red green blue)) }
    else wanted

/-- A source beside what the statements of a script ask for. -/
structure PaletteRun (D : Type*) where
  source : SourceWithPalette D
  wanted : WantedColors

/-- A statement, and the colours of the device when it is executed. -/
structure PaletteOp where
  statement : PaletteStatement
  device : Option (List UInt32)

variable (palettes : List PaletteEntry) (disk : Disk)

/-- A statement is executed. -/
def PaletteRun.step (run : PaletteRun D) (op : PaletteOp) : PaletteRun D :=
  ⟨executePaletteStatement run.source disk op.device op.statement, run.wanted.after op.statement⟩

/-- A script starts at a source that was created with some settings. -/
def PaletteRun.start (settings : ObsData D) (system : PaletteSystem) (device : Option (List UInt32)) :
    PaletteRun D :=
  ⟨c64CreatePalette settings system disk device, ⟨none, fun _ => none⟩⟩

/-- The colours of a palette of the catalogue; following the device is none, and no id is longer than
what a script can set. -/
def cataloguePalette (id : Chars) : Option (List UInt32) :=
  if id = scriptDevicePalette ∨ id = c64DevicePaletteId ∨ maxScriptText < id.length then none
  else paletteColors palettes disk id

/-- Every colour is the one that was asked for last, or else that of the palette asked for last. -/
def PaletteRun.Shown (run : PaletteRun D) : Prop :=
  ∀ index < c64PaletteColors,
    match run.wanted.colors index with
    | some color => run.source.colors.getD index 0 = color
    | none => ∀ id ∈ run.wanted.palette, ∀ colors ∈ cataloguePalette palettes disk id,
      run.source.colors.getD index 0 = colors.getD index 0

/-- A palette is not hidden by the colours that the source has in place of one, and a colour that is
asked for is shown already. -/
def PaletteRun.Unhindered (run : PaletteRun D) (op : PaletteOp) : Prop :=
  match op.statement with
  | .palette id =>
    ∀ colors ∈ cataloguePalette palettes disk id, ∀ index < c64PaletteColors,
      obsDataHasUserValue run.source.settings (paletteColorKey index) = true →
        overrideColor run.source.settings index = colors.getD index 0
  | .paletteColor index red green blue =>
    IsPaletteIndex index → AreRgb red green blue →
      run.source.colors.getD index.toNat 0 = rgbColor red green blue

end Promise

section Updates

variable {D : Type*} [ObsNumber D] {disk : Disk}

/-- What showing the selected colours leaves behind. -/
structure AppliedPalette (disk : Disk) (source next : SourceWithPalette D) : Prop where
  settings : next.settings = source.settings
  initialized : next.paletteInitialized = true
  follow : next.followDevicePalette = decide (selectedPalette next.settings = c64DevicePaletteId)
  lookup : paletteColors next.system.palettes disk = paletteColors source.system.palettes disk
  colors : selectedPalette next.settings ≠ c64DevicePaletteId →
    next.colors = overriddenColors next.settings
      (shownColors source.system.palettes disk (selectedPalette next.settings))
  followed : selectedPalette next.settings = c64DevicePaletteId →
    source.paletteInitialized = true → source.followDevicePalette = true →
      next.colors = source.colors

theorem c64SourceApplyPalette_applied (source : SourceWithPalette D) (device : Option (List UInt32)) :
    AppliedPalette disk source (c64SourceApplyPalette source disk device) := by
  have spec := colorsOrDefault_spec source.system (selectedPalette source.settings) disk
  unfold c64SourceApplyPalette
  by_cases device_ : selectedPalette source.settings = c64DevicePaletteId
  · constructor <;> simp_all
  · constructor <;> simp_all

theorem c64UpdatePalette_applied (source : SourceWithPalette D) (device : Option (List UInt32)) :
    AppliedPalette disk source (c64UpdatePalette source disk device) := by
  unfold c64UpdatePalette
  dsimp only
  split_ifs with selects
  · -- Selecting a palette to be edited changes the colours of none.
    have kept := paletteColors_select source.system (obsDataGetString source.settings paletteKey) disk
    have applied := @c64SourceApplyPalette_applied D _ disk
      { source with
        system :=
          (c64PaletteSelect source.system (obsDataGetString source.settings paletteKey) disk).1 }
      device
    refine { applied with lookup := applied.lookup.trans kept, colors := fun other => ?_ }
    rw [applied.colors other]
    unfold shownColors
    rw [kept]
  · exact c64SourceApplyPalette_applied source device

theorem overriddenColors_set (settings : ObsData D) {key : Chars} (value : ObsValue D)
    (apart : ∀ index, paletteColorKey index ≠ key) (colors : List UInt32) :
    overriddenColors (settings.set key value) colors = overriddenColors settings colors := by
  refine List.map_congr_left fun index _ => ?_
  have get : (settings.set key value).get (paletteColorKey index) =
      settings.get (paletteColorKey index) := settings.get_set_of_ne (apart index) value
  have user : (settings.set key value).user (paletteColorKey index) =
      settings.user (paletteColorKey index) := settings.user_set_of_ne (apart index) value
  have has : obsDataHasUserValue (settings.set key value) (paletteColorKey index) =
      obsDataHasUserValue settings (paletteColorKey index) := congrArg Option.isSome user
  have color : overrideColor (settings.set key value) index = overrideColor settings index := by
    unfold overrideColor obsDataGetInt
    rw [get]
  rw [has, color]

theorem overriddenColors_getD (settings : ObsData D) (colors : List UInt32) {index : Nat}
    (inside : index < c64PaletteColors) :
    (overriddenColors settings colors).getD index 0 =
      if obsDataHasUserValue settings (paletteColorKey index) then overrideColor settings index
      else colors.getD index 0 := by
  simp [overriddenColors, inside]

end Updates

section Runs

variable {D : Type*} [ObsNumber D] {palettes : List PaletteEntry} {disk : Disk} {index : Int}

/-- The source shows what its settings select, which is what was asked for. -/
structure PaletteRun.Sound (palettes : List PaletteEntry) (disk : Disk) (run : PaletteRun D) :
    Prop where
  initialized : run.source.paletteInitialized = true
  follow : run.source.followDevicePalette =
    decide (selectedPalette run.source.settings = c64DevicePaletteId)
  lookup : paletteColors run.source.system.palettes disk = paletteColors palettes disk
  colors : selectedPalette run.source.settings ≠ c64DevicePaletteId →
    run.source.colors = overriddenColors run.source.settings
      (shownColors palettes disk (selectedPalette run.source.settings))
  shown : run.Shown palettes disk

variable {run : PaletteRun D}

theorem PaletteRun.start_sound (settings : ObsData D) (system : PaletteSystem)
    (device : Option (List UInt32)) :
    (PaletteRun.start disk settings system device).Sound system.palettes disk :=
  have applied := @c64SourceApplyPalette_applied D _ disk
    ⟨settings, system, false, false, [], []⟩ device
  ⟨applied.initialized, applied.follow, applied.lookup, applied.colors,
    fun _ _ _ none_ => absurd none_ (by simp [PaletteRun.start])⟩

theorem PaletteRun.Sound.updated (sound : run.Sound palettes disk) (settings : ObsData D)
    (device : Option (List UInt32)) (wanted : WantedColors)
    (shown : PaletteRun.Shown palettes disk
      ⟨c64UpdatePalette { run.source with settings := settings } disk device, wanted⟩) :
    PaletteRun.Sound palettes disk
      ⟨c64UpdatePalette { run.source with settings := settings } disk device, wanted⟩ := by
  have applied := @c64UpdatePalette_applied D _ disk { run.source with settings := settings } device
  refine ⟨applied.initialized, applied.follow, applied.lookup.trans sound.lookup, ?_, shown⟩
  have colors := applied.colors
  unfold shownColors at colors ⊢
  rw [sound.lookup] at colors
  exact colors

theorem PaletteRun.Sound.colors_kept (sound : run.Sound palettes disk) {settings : ObsData D}
    (selected : selectedPalette settings = selectedPalette run.source.settings)
    (overridden : ∀ colors,
      overriddenColors settings colors = overriddenColors run.source.settings colors)
    (device : Option (List UInt32)) :
    (c64UpdatePalette { run.source with settings := settings } disk device).colors =
      run.source.colors := by
  have applied := @c64UpdatePalette_applied D _ disk { run.source with settings := settings } device
  have same := congrArg selectedPalette applied.settings
  dsimp only at same
  by_cases follows : selectedPalette run.source.settings = c64DevicePaletteId
  · -- While the device is followed, its colours stay.
    have follow := sound.follow
    rw [follows, decide_eq_true rfl] at follow
    exact applied.followed (by rw [same, selected, follows]) sound.initialized follow
  · have colors := applied.colors (by rw [same, selected]; exact follows)
    have before := sound.colors follows
    unfold shownColors at colors before
    rw [applied.settings, selected, overridden, sound.lookup, ← before] at colors
    exact colors

theorem PaletteRun.Sound.palette_colors (sound : run.Sound palettes disk) {id : Chars}
    {colors : List UInt32} (known : cataloguePalette palettes disk id = some colors)
    (device : Option (List UInt32)) :
    (run.step disk ⟨.palette id, device⟩).source.colors =
      overriddenColors run.source.settings colors := by
  unfold cataloguePalette at known
  split_ifs at known with special
  rw [not_or, not_or, Nat.not_lt] at special
  obtain ⟨notScript, notDevice, fits⟩ := special
  -- The id is set as it is, and the empty one stands for the default palette.
  have queued : ((PaletteStatement.palette id).queued : Except Chars (Chars × ObsValue D)) =
      .ok (paletteKey, .string id) := by
    simp [PaletteStatement.queued, notScript, List.take_of_length_le fits]
  generalize after : run.source.settings.set paletteKey (ObsValue.string id) = settings
  have stepped : (run.step disk ⟨.palette id, device⟩).source =
      c64UpdatePalette { run.source with settings := settings } disk device := by
    simp only [PaletteRun.step, executePaletteStatement, queued, after]
  have applied := @c64UpdatePalette_applied D _ disk { run.source with settings := settings } device
  have selected : selectedPalette settings = if id = [] then defaultId else id := by
    rw [← after]
    simp [selectedPalette]
  have other : selectedPalette settings ≠ c64DevicePaletteId := by
    rw [selected]
    split_ifs
    · decide
    · exact notDevice
  have shows := applied.colors (by rw [applied.settings]; exact other)
  have found : paletteColors palettes disk (selectedPalette settings) = some colors := by
    rw [← known, selected]
    unfold paletteColors
    by_cases empty : id = []
    · have named : defaultId ≠ [] := by decide
      simp [empty, named]
    · simp [empty]
  unfold shownColors at shows
  rw [applied.settings, sound.lookup, found, Option.some_or, Option.getD_some] at shows
  rw [stepped, shows]
  dsimp only
  rw [← after]
  exact overriddenColors_set _ _ (fun index => (paletteKey_ne index).symm) colors

theorem PaletteRun.Sound.color_kept (sound : run.Sound palettes disk) (value : ObsValue D)
    (device : Option (List UInt32)) :
    (c64UpdatePalette { run.source with
        settings := run.source.settings.set (customColorKey index.toNat) value } disk device).colors =
      run.source.colors := by
  obtain ⟨notPalette, notColor⟩ := customColorKey_ne index.toNat
  refine sound.colors_kept ?_ (overriddenColors_set _ _ notColor) device
  unfold selectedPalette
  rw [obsDataGetString_set_of_ne _ notPalette]

theorem PaletteRun.step_refused {red green blue : Int}
    (refused : ¬ (IsPaletteIndex index ∧ AreRgb red green blue)) (device : Option (List UInt32)) :
    run.step disk ⟨.paletteColor index red green blue, device⟩ = run := by
  have queued : ∃ error, ((PaletteStatement.paletteColor index red green blue).queued :
      Except Chars (Chars × ObsValue D)) = .error error := by
    unfold PaletteStatement.queued
    dsimp only
    split_ifs with valid rgb
    · exact absurd ⟨valid, rgb⟩ refused
    · exact ⟨_, rfl⟩
    · exact ⟨_, rfl⟩
  obtain ⟨error, queued⟩ := queued
  simp [PaletteRun.step, executePaletteStatement, queued, WantedColors.after, refused]

theorem PaletteRun.step_color {red green blue : Int}
    (color : IsPaletteIndex index ∧ AreRgb red green blue) (device : Option (List UInt32)) :
    run.step disk ⟨.paletteColor index red green blue, device⟩ =
      ⟨c64UpdatePalette { run.source with
          settings := run.source.settings.set (customColorKey index.toNat)
            (.int (red * 65536 + green * 256 + blue)) } disk device,
        { run.wanted with
          colors := Function.update run.wanted.colors index.toNat
            (some (rgbColor red green blue)) }⟩ := by
  simp [PaletteRun.step, executePaletteStatement, PaletteStatement.queued, WantedColors.after, color]

theorem PaletteRun.Sound.palette_shown_iff (sound : run.Sound palettes disk) (id : Chars)
    (device : Option (List UInt32)) :
    (run.step disk ⟨.palette id, device⟩).Shown palettes disk ↔
      run.Unhindered palettes disk ⟨.palette id, device⟩ := by
  constructor
  · intro shown colors known index inside user
    have here : (run.step disk ⟨.palette id, device⟩).source.colors.getD index 0 =
        colors.getD index 0 := shown index inside id rfl colors known
    rw [sound.palette_colors known, overriddenColors_getD _ _ inside, if_pos user] at here
    exact here
  · intro unhindered index inside id' asked colors known
    obtain rfl : id = id' := Option.some.inj asked
    rw [sound.palette_colors known, overriddenColors_getD _ _ inside]
    split_ifs with user
    · exact unhindered colors known index inside user
    · rfl

theorem PaletteRun.Sound.color_shown_iff (sound : run.Sound palettes disk)
    (index red green blue : Int) (device : Option (List UInt32)) :
    (run.step disk ⟨.paletteColor index red green blue, device⟩).Shown palettes disk ↔
      run.Unhindered palettes disk ⟨.paletteColor index red green blue, device⟩ := by
  by_cases color : IsPaletteIndex index ∧ AreRgb red green blue
  · rw [PaletteRun.step_color color]
    constructor
    · intro shown _ _
      have inside : index.toNat < c64PaletteColors := by
        have upper := color.1.2
        have colors : c64PaletteColors = 16 := rfl
        omega
      have here := shown index.toNat inside
      simpa [sound.color_kept] using here
    · intro unhindered other inside
      have before := sound.shown other inside
      dsimp only
      rw [sound.color_kept]
      by_cases here : other = index.toNat
      · rw [here, Function.update_self]
        exact unhindered color.1 color.2
      · rw [Function.update_of_ne here]
        exact before
  · rw [PaletteRun.step_refused color]
    exact ⟨fun _ valid rgb => absurd ⟨valid, rgb⟩ color, fun _ => sound.shown⟩

theorem PaletteRun.Sound.shown_iff (sound : run.Sound palettes disk) (op : PaletteOp) :
    (run.step disk op).Shown palettes disk ↔ run.Unhindered palettes disk op := by
  obtain ⟨statement, device⟩ := op
  cases statement with
  | palette id => exact sound.palette_shown_iff id device
  | paletteColor index red green blue => exact sound.color_shown_iff index red green blue device

theorem PaletteRun.Sound.step (sound : run.Sound palettes disk) {op : PaletteOp}
    (unhindered : run.Unhindered palettes disk op) : (run.step disk op).Sound palettes disk := by
  have shown := (sound.shown_iff op).mpr unhindered
  obtain ⟨statement, device⟩ := op
  cases statement with
  | palette id => exact sound.updated _ device _ shown
  | paletteColor index red green blue =>
    by_cases color : IsPaletteIndex index ∧ AreRgb red green blue
    · rw [PaletteRun.step_color color] at shown ⊢
      exact sound.updated _ device _ shown
    · rw [PaletteRun.step_refused color]
      exact sound

/-- After every statement of a script the colours that are shown are those that its statements ask
for, exactly if no statement is hindered. -/
theorem palette_statements_shown_iff (settings : ObsData D) (system : PaletteSystem)
    (device : Option (List UInt32)) (ops : List PaletteOp) :
    Always (PaletteRun.step disk) (PaletteRun.Shown system.palettes disk)
        (PaletteRun.start disk settings system device) ops ↔
      EachStep (PaletteRun.step disk) (PaletteRun.Unhindered system.palettes disk)
        (PaletteRun.start disk settings system device) ops :=
  always_iff_of_invariant (fun _ _ sound unhindered => sound.step unhindered)
    (fun _ sound => sound.shown) (fun _ op sound shown => (sound.shown_iff op).mp shown)
    (PaletteRun.start_sound settings system device) ops

end Runs

section Examples

/-- The default palette, and nothing else. -/
def defaultPalettes : PaletteSystem where
  palettes := [⟨defaultId, defaultId, [], true, c64DefaultPalette.toList, true⟩]
  spare := []
  activePaletteIndex := none
  workingColors := []
  workingModified := false
  userPaletteDir := []

def blankDisk : Disk := ⟨fun _ => false, fun _ => none, none, false, false, false⟩

def redBackgroundOps : List PaletteOp := [⟨.paletteColor 0 255 0 0, none⟩]

/-- It stays that of the palette. -/
theorem redBackground_not_shown :
    ¬ Always (PaletteRun.step blankDisk) (PaletteRun.Shown defaultPalettes.palettes blankDisk)
      (PaletteRun.start blankDisk blankSettings defaultPalettes none) redBackgroundOps := by
  intro always
  have first := always.last 0 (by decide)
  have red : (redBackgroundOps.foldl (PaletteRun.step blankDisk)
      (PaletteRun.start blankDisk blankSettings defaultPalettes none)).wanted.colors 0 =
        some (rgbColor 255 0 0) := by decide +kernel
  rw [red] at first
  dsimp only at first
  revert first
  decide +kernel

end Examples

end C64Stream
