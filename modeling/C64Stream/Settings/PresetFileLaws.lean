import C64Stream.Settings.PresetFile

/-! Which files of presets load section by section, and which presets match once they are applied. -/

namespace C64Stream.EffectPresets

section Sections

/-- What a line says. -/
inductive PresetLine where
  | skipped
  | header (name : Text)
  | setting (key value : Text)
  deriving DecidableEq

/-- Read a line on its own. -/
def presetLine (line : Text) : PresetLine :=
  let line := trimString (cString line)
  match line with
  | [] => .skipped
  | first :: rest =>
    if first = 59 ∨ first = 35 then .skipped
    else if first = 91 then
      if 93 ∈ line then .header (rest.takeWhile (· ≠ 93)) else .skipped
    else if 61 ∈ line then
      .setting (trimString (line.takeWhile (· ≠ 61)))
        (trimString ((line.dropWhile (· ≠ 61)).drop 1))
    else .skipped

/-- The settings before the first header, and the sections with their own settings. -/
def sectionsOf : List PresetLine → List (Text × Text) × List Preset
  | [] => ([], [])
  | .skipped :: lines => sectionsOf lines
  | .header name :: lines =>
    let (own, sections) := sectionsOf lines
    ([], ⟨name, own⟩ :: sections)
  | .setting key value :: lines =>
    let (own, sections) := sectionsOf lines
    ((key, value) :: own, sections)

/-- The sections of a file. -/
def fileSections (lines : List Text) : List Preset :=
  (sectionsOf (lines.map presetLine)).2

/-- A section whose texts fit their buffers, with as many settings as a preset has room for. -/
def Preset.Fits (preset : Preset) : Prop :=
  preset.name.length < maxNameLen ∧ preset.settings.length ≤ maxSettingsPerPreset ∧
    ∀ setting ∈ preset.settings,
      setting.1.length < maxNameLen ∧ setting.2.length < maxNameLen

/-- A file of short lines whose sections fit. -/
structure FileFits (lines : List Text) : Prop where
  short : ∀ line ∈ lines, 10 ∉ line ∧ line.length < 255
  sections : ∀ preset ∈ fileSections lines, preset.Fits

end Sections

section Tables

/-- Add several settings to the last preset, as far as there is room. -/
def extendLast (presets : List Preset) (settings : List (Text × Text)) : List Preset :=
  presets.modify (presets.length - 1) fun preset =>
    { preset with settings := (preset.settings ++ settings).take maxSettingsPerPreset }

/-- Add a section as a preset, or its settings to the last preset if there is no room for one. -/
def addSection (presets : List Preset) (preset : Preset) : List Preset :=
  if presets.length < maxPresets then
    presets ++ [{ preset with settings := preset.settings.take maxSettingsPerPreset }]
  else extendLast presets preset.settings

/-- No preset has more settings than there is room for. -/
def AllRoom (presets : List Preset) : Prop :=
  ∀ preset ∈ presets, preset.settings.length ≤ maxSettingsPerPreset

variable {presets : List Preset}

theorem take_take_append {α : Type*} (first second : List α) (n : Nat) :
    (first.take n ++ second).take n = (first ++ second).take n := by
  have room : n - min n first.length = n - first.length := by omega
  rw [List.take_append, List.take_append, List.take_take, min_self, List.length_take, room]

theorem extendLast_length (settings : List (Text × Text)) :
    (extendLast presets settings).length = presets.length :=
  List.length_modify ..

theorem extendLast_extendLast (first second : List (Text × Text)) :
    extendLast (extendLast presets first) second = extendLast presets (first ++ second) := by
  rw [extendLast, extendLast_length, extendLast, extendLast, List.modify_modify_eq]
  congr 1
  funext preset
  simp only [Function.comp, take_take_append, List.append_assoc]

theorem extendLast_nil (room : AllRoom presets) : extendLast presets [] = presets := by
  refine List.ext_getElem (extendLast_length []) fun i inside _ => ?_
  rw [extendLast_length] at inside
  have fits := room _ (List.getElem_mem inside)
  simp only [extendLast, List.getElem_modify, List.append_nil, List.take_of_length_le fits,
    ite_self]

theorem extendLast_concat (preset : Preset) (settings : List (Text × Text)) :
    extendLast (presets ++ [preset]) settings = presets ++
      [{ preset with settings := (preset.settings ++ settings).take maxSettingsPerPreset }] := by
  rw [extendLast, List.length_append, List.length_singleton, Nat.add_sub_cancel,
    List.modify_eq_take_cons_drop (by simp)]
  simp

theorem AllRoom.extendLast (room : AllRoom presets) (settings : List (Text × Text)) :
    AllRoom (extendLast presets settings) := by
  intro preset among
  obtain ⟨i, inside, rfl⟩ := List.mem_iff_getElem.mp among
  rw [extendLast_length] at inside
  simp only [EffectPresets.extendLast, List.getElem_modify]
  split_ifs
  · exact List.length_take_le _ _
  · exact room _ (List.getElem_mem inside)

theorem AllRoom.addSection (room : AllRoom presets) (preset : Preset) :
    AllRoom (addSection presets preset) := by
  rw [EffectPresets.addSection]
  split_ifs
  · intro other among
    rcases List.mem_append.mp among with before | new
    · exact room other before
    · rw [List.mem_singleton.mp new]
      exact List.length_take_le _ _
  · exact room.extendLast _

theorem addSection_extendLast (name : Text) (settings : List (Text × Text)) :
    extendLast (addSection presets ⟨name, []⟩) settings = addSection presets ⟨name, settings⟩ := by
  rw [addSection, addSection]
  split_ifs
  · rw [extendLast_concat]
    simp
  · rw [extendLast_extendLast, List.nil_append]

theorem foldl_addSection_append (sections : List Preset) (room : AllRoom sections) :
    ∀ presets : List Preset, presets.length + sections.length ≤ maxPresets →
      sections.foldl addSection presets = presets ++ sections := by
  induction sections with
  | nil => simp
  | cons first sections ih =>
    intro presets fits
    rw [List.length_cons] at fits
    have whole : { first with settings := first.settings.take maxSettingsPerPreset } = first := by
      rw [List.take_of_length_le (room first List.mem_cons_self)]
    rw [List.foldl_cons, addSection, if_pos (by omega), whole,
      ih (fun other among => room other (List.mem_cons_of_mem _ among)) _ (by simp; omega)]
    simp

theorem foldl_addSection_extend (sections : List Preset) :
    ∀ presets : List Preset, AllRoom presets → maxPresets ≤ presets.length →
      sections.foldl addSection presets = extendLast presets (sections.flatMap Preset.settings) := by
  induction sections with
  | nil => exact fun presets room _ => (extendLast_nil room).symm
  | cons first sections ih =>
    intro presets room full
    have length := @extendLast_length presets first.settings
    rw [List.foldl_cons, addSection, if_neg (by omega), ih _ (room.extendLast _) (by omega),
      extendLast_extendLast, List.flatMap_cons]

theorem foldl_addSection (sections : List Preset) (room : AllRoom sections) :
    sections.foldl addSection [] = extendLast (sections.take maxPresets)
      ((sections.drop maxPresets).flatMap Preset.settings) := by
  have first := foldl_addSection_append (sections.take maxPresets)
    (fun preset among => room preset (List.mem_of_mem_take among)) [] (by simp)
  have roomFirst : AllRoom (sections.take maxPresets) :=
    fun preset among => room preset (List.mem_of_mem_take among)
  rw [List.nil_append] at first
  conv_lhs => rw [← List.take_append_drop maxPresets sections]
  rw [List.foldl_append, first]
  by_cases more : sections.length ≤ maxPresets
  · rw [List.drop_of_length_le more]
    exact (extendLast_nil roomFirst).symm
  · exact foldl_addSection_extend _ _ roomFirst (by rw [List.length_take]; omega)

end Tables

section Loading

/-- A table whose last preset is the current one. -/
def tableOf (presets : List Preset) : PresetTable :=
  ⟨presets, if presets = [] then none else some (presets.length - 1)⟩

/-- What a table becomes by what a line says. -/
def PresetTable.take (table : PresetTable) (line : PresetLine) : PresetTable :=
  match line with
  | .skipped => table
  | .header name => table.addPreset name
  | .setting key value =>
    match table.currentPreset with
    | none => table
    | some i => { table with presets := table.presets.modify i (·.addSetting key value) }

theorem parsePresetLine_eq (table : PresetTable) (line : Text) :
    parsePresetLine table line = table.take (presetLine line) := by
  -- The cases are those of both functions.
  cases shape : trimString (cString line) with
  | nil => simp only [parsePresetLine, presetLine, shape, PresetTable.take]
  | cons first rest =>
    simp only [parsePresetLine, presetLine, shape]
    split_ifs
    · rfl
    · rfl
    · rfl
    · cases current : table.currentPreset <;> simp only [PresetTable.take, current]
    · cases current : table.currentPreset <;> simp only [PresetTable.take]

theorem copyField_whole {value : Text} (fits : value.length < maxNameLen) :
    copyField maxNameLen value = value :=
  List.take_of_length_le (by omega)

variable {presets : List Preset}

theorem take_header (room : AllRoom presets) {name : Text} (fits : name.length < maxNameLen) :
    (tableOf presets).take (.header name) = tableOf (addSection presets ⟨name, []⟩) := by
  by_cases more : presets.length < maxPresets
  · have more' : (tableOf presets).presets.length < maxPresets := more
    rw [PresetTable.take, PresetTable.addPreset, if_pos more', addSection, if_pos more,
      copyField_whole fits]
    simp [tableOf]
  · have more' : ¬(tableOf presets).presets.length < maxPresets := more
    rw [PresetTable.take, PresetTable.addPreset, if_neg more', addSection, if_neg more,
      extendLast_nil room]

theorem take_setting (room : AllRoom presets) {key value : Text}
    (fits : presets ≠ [] → key.length < maxNameLen ∧ value.length < maxNameLen) :
    (tableOf presets).take (.setting key value) = tableOf (extendLast presets [(key, value)]) := by
  by_cases none : presets = []
  · subst none
    rfl
  · obtain ⟨shortKey, shortValue⟩ := fits none
    have some' : extendLast presets [(key, value)] ≠ [] := by
      rw [← List.length_pos_iff, extendLast_length]
      exact List.length_pos_iff.mpr none
    simp only [PresetTable.take, tableOf, if_neg none, if_neg some', extendLast_length,
      PresetTable.mk.injEq, and_true]
    refine List.ext_getElem (by rw [List.length_modify, extendLast_length]) fun i inside _ => ?_
    rw [List.length_modify] at inside
    have here := room _ (List.getElem_mem inside)
    simp only [extendLast, List.getElem_modify]
    split_ifs
    · rw [Preset.addSetting, copyField_whole shortKey, copyField_whole shortValue]
      split_ifs with more
      · rw [List.take_of_length_le (by simp; omega)]
      · rw [List.take_append_of_le_length (by omega), List.take_of_length_le here]
    · rfl

theorem foldl_take (lines : List PresetLine) : ∀ presets : List Preset, AllRoom presets →
    (presets ≠ [] → ∀ setting ∈ (sectionsOf lines).1,
      setting.1.length < maxNameLen ∧ setting.2.length < maxNameLen) →
    (∀ preset ∈ (sectionsOf lines).2, preset.Fits) →
      lines.foldl PresetTable.take (tableOf presets) =
        tableOf ((sectionsOf lines).2.foldl addSection
          (extendLast presets (sectionsOf lines).1)) := by
  -- The induction is on the lines; the presets are those of the lines before.
  induction lines with
  | nil =>
    intro presets room _ _
    exact congrArg tableOf (extendLast_nil room).symm
  | cons line lines ih =>
    intro presets room own sections
    cases line with
    | skipped => exact ih presets room own sections
    | header name =>
      have fits : Preset.Fits ⟨name, (sectionsOf lines).1⟩ := sections _ List.mem_cons_self
      rw [List.foldl_cons, take_header room fits.1, ih _ (room.addSection _) (fun _ => fits.2.2)
        fun preset among => sections preset (List.mem_cons_of_mem _ among)]
      simp only [sectionsOf, List.foldl_cons, addSection_extendLast, extendLast_nil room]
    | setting key value =>
      have kept : extendLast presets [(key, value)] ≠ [] → presets ≠ [] := by
        rintro some' rfl
        exact some' rfl
      rw [List.foldl_cons, take_setting room fun some' => own some' _ List.mem_cons_self,
        ih _ (room.extendLast _)
          (fun some' setting among => own (kept some') setting (List.mem_cons_of_mem _ among))
          sections]
      simp only [sectionsOf, extendLast_extendLast, List.singleton_append]

theorem trimString_newline (str : Text) : trimString (str ++ [10]) = trimString str := by
  rw [trimString, trimString, List.dropWhile_append]
  split_ifs with blank
  · -- A line of white space is empty with the line break as well as without it.
    rw [List.isEmpty_iff.mp blank]
    rfl
  · rw [List.rdropWhile_concat_pos _ _ _ (by rfl)]

theorem trimString_cString_newline (line : Text) :
    trimString (cString (line ++ [10])) = trimString (cString line) := by
  rw [cString, cString, List.takeWhile_append]
  split_ifs with whole
  · rw [List.takeWhile_eq_self_iff.mpr (by simp : ∀ byte ∈ [(10 : UInt8)], _),
      trimString_newline, (List.takeWhile_prefix _).eq_of_length whole]
  · rfl

theorem presetLine_newline (line : Text) : presetLine (line ++ [10]) = presetLine line := by
  rw [presetLine, presetLine, trimString_cString_newline]

theorem parsePresetsFile_presets {lines : List Text} (fits : FileFits lines) :
    (parsePresetsFile ([10].intercalate lines)).presets =
      extendLast ((fileSections lines).take maxPresets)
        (((fileSections lines).drop maxPresets).flatMap Preset.settings) := by
  have loaded : parsePresetsFile ([10].intercalate lines) =
      lines.foldl parsePresetLine (tableOf []) := by
    refine foldl_bufferedLines (fun table line => ?_) (fun table => ?_) (fun line among => ?_) _
    · rw [parsePresetLine_eq, parsePresetLine_eq, presetLine_newline]
    · rfl
    · have := fits.short line among
      exact ⟨this.1, by rw [lineSize]; omega⟩
  have line : parsePresetLine = fun table line => table.take (presetLine line) := by
    funext table line
    exact parsePresetLine_eq table line
  have taken := foldl_take (lines.map presetLine) [] (by simp [AllRoom]) (by simp) fits.sections
  rw [List.foldl_map] at taken
  rw [loaded, line, taken]
  exact foldl_addSection _ fun preset among => (fits.sections preset among).2.1

/-- Nothing is left of the sections behind those that there is room for. -/
def NoneBehind (sections : List Preset) : Prop :=
  (∀ preset ∈ sections.drop maxPresets, preset.settings = []) ∨
    ∃ last ∈ (sections.take maxPresets).getLast?, last.settings.length = maxSettingsPerPreset

theorem extendLast_eq_iff (room : AllRoom presets) (settings : List (Text × Text))
    (some : settings ≠ [] → presets ≠ []) :
    extendLast presets settings = presets ↔
      settings = [] ∨ ∃ last ∈ presets.getLast?, last.settings.length = maxSettingsPerPreset := by
  cases presets using List.reverseRecOn with
  | nil => exact ⟨fun _ => .inl (not_not.mp fun more => some more rfl), fun _ => rfl⟩
  | append_singleton before last =>
    have fits : last.settings.length ≤ maxSettingsPerPreset := room last (by simp)
    rw [extendLast_concat, List.append_cancel_left_eq, List.singleton_inj]
    simp only [List.getLast?_concat, Option.mem_def, Option.some.injEq, exists_eq_left']
    constructor
    · intro same
      have length := congrArg (·.settings.length) same
      simp only [List.length_take, List.length_append] at length
      by_cases none : settings = []
      · exact .inl none
      · have := List.length_pos_iff.mpr none
        exact .inr (by omega)
    · rintro (rfl | full)
      · rw [List.append_nil, List.take_of_length_le fits]
      · rw [List.take_append_of_le_length (by omega), List.take_of_length_le fits]

theorem extendLast_prefix_iff {sections : List Preset} (room : AllRoom sections) :
    extendLast (sections.take maxPresets) ((sections.drop maxPresets).flatMap Preset.settings) <+:
      sections ↔ NoneBehind sections := by
  have own : extendLast (sections.take maxPresets)
      ((sections.drop maxPresets).flatMap Preset.settings) <+: sections ↔
        extendLast (sections.take maxPresets)
          ((sections.drop maxPresets).flatMap Preset.settings) = sections.take maxPresets := by
    rw [List.prefix_iff_eq_take, extendLast_length, List.length_take,
      ← List.take_eq_take_min]
  rw [own, extendLast_eq_iff (fun preset among => room preset (List.mem_of_mem_take among)),
    List.flatMap_eq_nil_iff]
  · rfl
  · intro some none
    have empty : sections = [] := by
      cases sections with
      | nil => rfl
      | cons first rest => cases none
    rw [empty] at some
    exact some rfl

end Loading

section Applying

variable {D : Type*} [DoublePrecision D] {own : List (Text × Text)}

/-- What is written for a value. -/
def writtenValue (value : Text) : SettingValue D :=
  if 46 ∈ value then .double (DoublePrecision.atof value)
  else if startsLikeInt value then .int (atoi value)
  else .string value

/-- What a preset writes. -/
def writtenSettings (settings : List (Text × Text)) : List (Text × SettingValue D) :=
  (settings.filter (·.1 ≠ preserveSizeKey)).map fun setting => (setting.1, writtenValue setting.2)

/-- A value that reads back as it is written: a finite number, or a whole number of 32 bits. -/
def Sticks (D : Type*) [DoublePrecision D] (value : Text) : Prop :=
  if 46 ∈ value then DoublePrecision.isFinite (DoublePrecision.atof value : D) = true
  else if startsLikeInt value then -2 ^ 31 ≤ atoll value ∧ atoll value < 2 ^ 31
  else True

/-- Whether a value reads back as it is written can be decided. -/
instance (value : Text) : Decidable (Sticks D value) := by
  unfold Sticks
  infer_instance

theorem applySetting_eq (settings : SourceSettings D) (setting : Text × Text) :
    applySetting settings setting =
      if setting.1 ≠ preserveSizeKey then settings.set setting.1 (writtenValue setting.2)
      else settings := by
  rw [applySetting, writtenValue]
  split_ifs <;> first | rfl | contradiction

theorem foldl_applySetting (own : List (Text × Text)) (settings : SourceSettings D) :
    own.foldl applySetting settings = settings.setAll (writtenSettings own) := by
  induction own generalizing settings with
  | nil => rfl
  | cons setting own ih =>
    rw [List.foldl_cons, ih, applySetting_eq, writtenSettings, writtenSettings, List.filter_cons]
    by_cases keeps : setting.1 ≠ preserveSizeKey
    · rw [if_pos keeps, if_pos (decide_eq_true keeps)]
      rfl
    · rw [if_neg keeps, if_neg (by simpa using keeps)]

theorem writtenSettings_ne :
    ∀ entry ∈ (writtenSettings own : List (Text × SettingValue D)), entry.1 ≠ preserveSizeKey := by
  intro entry among
  obtain ⟨setting, chosen, rfl⟩ := List.mem_map.mp among
  exact of_decide_eq_true (List.mem_filter.mp chosen).2

theorem atoi_eq_atoll_iff (value : Text) :
    atoi value = atoll value ↔ -2 ^ 31 ≤ atoll value ∧ atoll value < 2 ^ 31 := by
  rw [atoi]
  generalize atoll value = number
  rw [Int.bmod_def]
  split_ifs <;> omega

theorem presetSettingMatches_written {settings : SourceSettings D} {key value : Text}
    (other : key ≠ preserveSizeKey) (written : settings.get key = some (writtenValue value)) :
    presetSettingMatches settings (key, value) = true ↔ Sticks D value := by
  rw [presetSettingMatches, Sticks]
  simp only [if_neg other]
  by_cases dot : 46 ∈ value
  · have read : obsDataGetDouble settings key = (DoublePrecision.atof value : D) := by
      rw [obsDataGetDouble, written, writtenValue, if_pos dot]
    rw [if_pos dot, if_pos dot, read, DoublePrecision.near_self]
  · rw [if_neg dot, if_neg dot]
    by_cases whole : startsLikeInt value = true
    · have read : obsDataGetInt settings key = atoi value := by
        rw [obsDataGetInt, written, writtenValue, if_neg dot, if_pos whole]
      rw [if_pos whole, if_pos whole, read, decide_eq_true_iff, atoi_eq_atoll_iff]
    · have read : obsDataGetString settings key = value := by
        rw [obsDataGetString, written, writtenValue, if_neg dot, if_neg whole]
      rw [if_neg whole, if_neg whole, read, decide_eq_true_iff]
      exact ⟨fun _ => trivial, fun _ => rfl⟩

theorem get_written (distinct : (own.map Prod.fst).Nodup) (settings : SourceSettings D)
    {key value : Text} (among : (key, value) ∈ own) (other : key ≠ preserveSizeKey) :
    (settings.setAll (writtenSettings own)).get key = some (writtenValue value) := by
  have keys : ((writtenSettings own : List (Text × SettingValue D)).map Prod.fst).Nodup := by
    rw [writtenSettings, List.map_map]
    exact (List.filter_sublist.map Prod.fst).nodup distinct
  have chosen : (key, writtenValue value) ∈
      (writtenSettings own : List (Text × SettingValue D)) :=
    List.mem_map.mpr ⟨(key, value), List.mem_filter.mpr ⟨among, decide_eq_true other⟩, rfl⟩
  rw [Layered.get_setAll, lastAssigned_of_nodup keys chosen]
  rfl

theorem all_matches_iff (distinct : (own.map Prod.fst).Nodup) (settings : SourceSettings D) :
    own.all (presetSettingMatches (own.foldl applySetting settings)) = true ↔
      ∀ setting ∈ own, setting.1 ≠ preserveSizeKey → Sticks D setting.2 := by
  rw [foldl_applySetting, List.all_eq_true]
  refine forall₂_congr fun setting among => ?_
  by_cases other : setting.1 = preserveSizeKey
  · -- The size that is kept always matches.
    simp [presetSettingMatches, other]
  · rw [presetSettingMatches_written other (get_written distinct settings among other)]
    exact ⟨fun sticks _ => sticks, fun sticks => sticks other⟩

end Applying

section Consistency

variable {D : Type*} [DoublePrecision D]

/-- The presets of a file are its sections, and they load, apply and match consistently. -/
structure Consistent (D : Type*) [DoublePrecision D] (lines : List Text) : Prop where
  own : (parsePresetsFile ([10].intercalate lines)).presets <+: fileSections lines
  matched : ∀ (settings : SourceSettings D) (name : Text) (preset : Preset),
    let table := parsePresetsFile ([10].intercalate lines)
    findPreset table name = some preset → (preset.settings.map Prod.fst).Nodup →
      c64EffectMatchesPreset table (c64EffectApply table settings name).1 name = true
  again : ∀ (settings : SourceSettings D) (name : Text),
    let table := parsePresetsFile ([10].intercalate lines)
    let applied := (c64EffectApply table settings name).1
    (c64EffectApply table applied name).1 = applied
  kept : ∀ (settings : SourceSettings D) (name : Text),
    let applied := (c64EffectApply (parsePresetsFile ([10].intercalate lines)) settings name).1
    applied.user preserveSizeKey = settings.user preserveSizeKey ∧
      applied.fallback = settings.fallback

theorem c64EffectApply_again (table : PresetTable) (settings : SourceSettings D) (name : Text) :
    (c64EffectApply table (c64EffectApply table settings name).1 name).1 =
      (c64EffectApply table settings name).1 := by
  cases found : findPreset table name with
  | none => simp only [c64EffectApply, found]
  | some preset =>
    simp only [c64EffectApply, found, foldl_applySetting]
    exact Layered.setAll_setAll settings _

theorem c64EffectApply_kept (table : PresetTable) (settings : SourceSettings D) (name : Text) :
    (c64EffectApply table settings name).1.user preserveSizeKey = settings.user preserveSizeKey ∧
      (c64EffectApply table settings name).1.fallback = settings.fallback := by
  cases found : findPreset table name with
  | none => simp only [c64EffectApply, found, and_self]
  | some preset =>
    simp only [c64EffectApply, found, foldl_applySetting]
    refine ⟨?_, Layered.fallback_setAll settings _⟩
    rw [Layered.user_setAll, lastAssigned_none writtenSettings_ne]
    rfl

theorem matches_applied_iff {table : PresetTable} {name : Text} {preset : Preset}
    (found : findPreset table name = some preset) (distinct : (preset.settings.map Prod.fst).Nodup)
    (settings : SourceSettings D) :
    c64EffectMatchesPreset table (c64EffectApply table settings name).1 name = true ↔
      ∀ setting ∈ preset.settings, setting.1 ≠ preserveSizeKey → Sticks D setting.2 := by
  simp only [c64EffectMatchesPreset, c64EffectApply, found]
  exact all_matches_iff distinct settings

/-- A file is consistent if nothing is left behind its presets and all of their values stick. -/
theorem presetFile_consistent_iff {lines : List Text} (fits : FileFits lines) :
    Consistent D lines ↔ NoneBehind (fileSections lines) ∧
      ∀ name preset,
        ((fileSections lines).take maxPresets).find? (·.name = name) = some preset →
        (preset.settings.map Prod.fst).Nodup →
          ∀ setting ∈ preset.settings, setting.1 ≠ preserveSizeKey → Sticks D setting.2 := by
  have room : AllRoom (fileSections lines) :=
    fun preset among => (fits.sections preset among).2.1
  have loaded := parsePresetsFile_presets fits
  -- The presets are the first sections as soon as they are a prefix of them.
  have first : NoneBehind (fileSections lines) →
      (parsePresetsFile ([10].intercalate lines)).presets =
        (fileSections lines).take maxPresets := by
    intro none
    have own := (extendLast_prefix_iff room).mpr none
    rw [loaded, List.prefix_iff_eq_take.mp own, extendLast_length, List.length_take,
      ← List.take_eq_take_min]
  constructor
  · intro consistent
    have none : NoneBehind (fileSections lines) := by
      rw [← extendLast_prefix_iff room, ← loaded]
      exact consistent.own
    refine ⟨none, fun name preset found distinct => ?_⟩
    rw [← first none] at found
    exact (matches_applied_iff found distinct ⟨fun _ => Option.none, fun _ => Option.none⟩).mp
      (consistent.matched _ name preset found distinct)
  · rintro ⟨none, sticks⟩
    refine ⟨?_, fun settings name preset found distinct => ?_,
      fun settings name => c64EffectApply_again _ settings name,
      fun settings name => c64EffectApply_kept _ settings name⟩
    · rw [loaded]
      exact (extendLast_prefix_iff room).mpr none
    · refine (matches_applied_iff found distinct settings).mpr (sticks name preset ?_ distinct)
      rw [← first none]
      exact found

/-- Tenths as a stand-in for double precision. -/
instance : DoublePrecision ℚ where
  atof value := if value = text "0.5" then 1 / 2 else 0
  ofInt value := value
  toInt value := value.num.tdiv value.den
  near actual expected := |actual - expected| < 1 / 10000
  isFinite _ := true
  near_self value := by simp

/-- A file of one preset. -/
def greenPreset : List Text :=
  [text "; a monitor", text "[ Green ]", text "scanlines = 3", text "blur=0.5", text "tint=green"]

/-- The preset of the file loads, applies and matches consistently. -/
theorem greenPreset_consistent : Consistent ℚ greenPreset := by
  have sections : fileSections greenPreset = [⟨text " Green ", [(text "scanlines", text "3"),
      (text "blur", text "0.5"), (text "tint", text "green")]⟩] := by decide
  have fits : FileFits greenPreset := by
    refine ⟨by decide, ?_⟩
    rw [sections]
    intro preset among
    rw [List.mem_singleton.mp among]
    exact ⟨by decide, by decide, by decide⟩
  refine (presetFile_consistent_iff fits).mpr ⟨?_, fun name preset found _ => ?_⟩
  · rw [sections]
    exact .inl (by intro preset among; cases among)
  · have among := List.mem_of_mem_take (List.mem_of_find?_eq_some found)
    rw [sections] at among
    rw [List.mem_singleton.mp among]
    decide

/-- A file of one preset, whose number has more than 32 bits. -/
def wideNumber : List Text :=
  [text "[Wide]", text "scanlines=3000000000"]

/-- The number is cut when the preset is applied, and does not match afterwards. -/
theorem wideNumber_not_consistent : FileFits wideNumber ∧ ¬Consistent ℚ wideNumber := by
  have sections : fileSections wideNumber =
      [⟨text "Wide", [(text "scanlines", text "3000000000")]⟩] := by decide
  refine ⟨⟨by decide, ?_⟩, fun consistent => ?_⟩
  · rw [sections]
    intro preset among
    rw [List.mem_singleton.mp among]
    exact ⟨by decide, by decide, by decide⟩
  · have loaded : (parsePresetsFile ([10].intercalate wideNumber)).presets =
        [⟨text "Wide", [(text "scanlines", text "3000000000")]⟩] := by decide
    have found : findPreset (parsePresetsFile ([10].intercalate wideNumber)) (text "Wide") =
        some ⟨text "Wide", [(text "scanlines", text "3000000000")]⟩ := by
      rw [findPreset, loaded]
      rfl
    have applied := (matches_applied_iff found (by simp) ⟨fun _ => none, fun _ => none⟩).mp
      (consistent.matched _ _ _ found (by simp)) _ List.mem_cons_self (by decide)
    exact absurd applied (by decide)

end Consistency

end C64Stream.EffectPresets
