import C64Stream.Lib.Run
import C64Stream.Settings.Effects

/-! Which values the effects have after the statements of a script, and when those are not it. -/

namespace C64Stream

section Promise

variable {D : Type*} [ObsNumber D]

/-- The value that a preset gives a setting. -/
def Preset.gives (preset : Preset) (key : EffectKey) : Option (ObsValue D) :=
  lastAssigned preset.assigned key.name

/-- What the statements of a script ask for, beside the settings that they lead to. -/
structure EffectRun (D : Type*) where
  settings : ObsData D
  wanted : EffectKey → Option (ObsValue D)
  /-- Whether the source was updated. -/
  updated : Bool

variable (presets : List Preset)

/-- What is asked for after a statement: a preset asks for all that it gives. -/
def wantedAfter (wanted : EffectKey → Option (ObsValue D)) :
    EffectStatement D → EffectKey → Option (ObsValue D)
  | .effect name => fun key => ((findPreset presets name).bind (·.gives key)).or (wanted key)
  | .effectParam key value => Function.update wanted key (some (effectParamValue key value))

/-- A statement is executed, and what it queued is applied. -/
def EffectRun.step (run : EffectRun D) (statement : EffectStatement D) : EffectRun D :=
  ⟨c64ScriptApplySourceUpdate presets run.settings statement,
    wantedAfter presets run.wanted statement, true⟩

/-- A script that starts with some settings, whose values stay unless they are set. -/
def EffectRun.start (settings : ObsData D) : EffectRun D :=
  ⟨settings, fun key => settings.get key.name, false⟩

/-- The names that have to do with effects. -/
def IsEffectName (name : Chars) : Prop :=
  name = crtPresetKey ∨ name = c64PresetLastAppliedKey ∨ ∃ key : EffectKey, name = key.name

/-- The effects stay as they are over an update that changes nothing about them, and over a creation
of the source from such settings. -/
def Rests (settings : ObsData D) : Prop :=
  ∀ other : ObsData D, (∀ name, IsEffectName name → other.get name = settings.get name) →
    ∀ (isUpdate : Bool) (key : EffectKey),
      (c64SourceApplyCrtPresetIfNeeded presets other isUpdate).get key.name =
        settings.get key.name

/-- The settings have what was asked for, and keep it. -/
structure EffectRun.Determined (run : EffectRun D) : Prop where
  values : ∀ key : EffectKey, run.settings.get key.name = run.wanted key
  rests : run.updated = true → Rests presets run.settings

/-- The settings have what a preset gives. -/
def HasPreset (settings : ObsData D) (preset : Preset) : Prop :=
  ∀ (key : EffectKey) (value : ObsValue D), preset.gives key = some value →
    settings.get key.name = some value

/-- Whether the selected preset counts as applied already: it has no name, it is the last one that
was applied, or none was and the settings come close to its values. -/
def CountsAsApplied (settings : ObsData D) (preset : Preset) : Prop :=
  let name := obsDataGetString settings crtPresetKey
  let last := obsDataGetString settings c64PresetLastAppliedKey
  name = [] ∨ last = name ∨ last = [] ∧ c64EffectMatchesPreset settings preset = true

/-- The settings with what a statement queues, before the source is updated. -/
def EffectRun.queued (run : EffectRun D) (statement : EffectStatement D) : ObsData D :=
  run.settings.set statement.queued.1 statement.queued.2

/-- A preset that a statement selects and that counts as applied has its values already; and one
that was selected before a parameter is set and counts as not applied does not change any. -/
def EffectRun.Heeded (run : EffectRun D) (statement : EffectStatement D) : Prop :=
  ∀ preset,
    findPreset presets (obsDataGetString (run.queued statement) crtPresetKey) = some preset →
      match statement with
      | .effect _ =>
        CountsAsApplied (run.queued statement) preset → HasPreset (run.queued statement) preset
      | .effectParam _ _ =>
        CountsAsApplied (run.queued statement) preset ∨ HasPreset (run.queued statement) preset

end Promise

section Names

theorem EffectKey.name_injective : Function.Injective EffectKey.name := by
  intro first second same
  revert same
  cases first <;> cases second <;> decide

theorem EffectKey.name_ne (key : EffectKey) :
    key.name ≠ crtPresetKey ∧ key.name ≠ c64PresetLastAppliedKey := by
  cases key <;> decide

theorem crtPresetKey_ne : crtPresetKey ≠ c64PresetLastAppliedKey := by decide

variable {D : Type*} [ObsNumber D]

theorem findPreset_take (presets : List Preset) (name : Chars) :
    findPreset presets (name.take maxScriptText) = findPreset presets name := by
  by_cases fits : name.length ≤ maxScriptText
  · rw [List.take_of_length_le fits]
  · have long : maxScriptText < name.length := Nat.lt_of_not_le fits
    have none_ : ∀ text : Chars, maxScriptText ≤ text.length → findPreset presets text = none := by
      intro text enough
      refine List.find?_eq_none.mpr fun preset _ same => ?_
      have short := preset.fits
      rw [of_decide_eq_true same] at short
      exact absurd (enough.trans short) (by decide)
    rw [none_ name long.le, none_ _ (by rw [List.length_take]; omega)]

end Names

section Updates

theorem get_notePreset {D : Type*} (settings : ObsData D) (name : Chars) (key : EffectKey) :
    (notePreset settings name).get key.name = settings.get key.name :=
  settings.get_set_of_ne key.name_ne.2 _

variable {D : Type*} [ObsNumber D] {presets : List Preset} {settings : ObsData D}

theorem get_c64EffectApply (settings : ObsData D) (preset : Preset) (key : EffectKey) :
    (c64EffectApply settings preset).get key.name =
      (preset.gives key).or (settings.get key.name) :=
  settings.get_setAll _ _

theorem crtPreset_c64EffectApply (settings : ObsData D) (preset : Preset) :
    obsDataGetString (c64EffectApply settings preset) crtPresetKey =
      obsDataGetString settings crtPresetKey := by
  have unnamed : ∀ entry ∈ (preset.assigned : List (Chars × ObsValue D)), entry.1 ≠ crtPresetKey := by
    intro entry among
    obtain ⟨setting, kept, rfl⟩ := List.mem_map.mp among
    exact (preset.plain setting (List.mem_of_mem_filter kept)).1
  unfold obsDataGetString c64EffectApply
  rw [Layered.get_setAll, lastAssigned_none unnamed, Option.none_or]

theorem get_update_of_applied
    (applied : ∀ preset, findPreset presets (obsDataGetString settings crtPresetKey) = some preset →
      CountsAsApplied settings preset) (key : EffectKey) :
    (c64UpdateEffects presets settings).get key.name = settings.get key.name := by
  unfold c64UpdateEffects c64SourceApplyCrtPresetIfNeeded
  dsimp only
  split_ifs with unnamed same near created
  · rfl
  · rfl
  · exact get_notePreset settings _ key
  · rfl
  · cases found : findPreset presets (obsDataGetString settings crtPresetKey) with
    | none => rfl
    | some preset =>
      -- A preset that counts as applied was taken care of above.
      rw [found] at near
      rcases applied preset found with empty | last | close
      · exact absurd empty unnamed
      · refine absurd ⟨?_, last⟩ same
        rw [last]
        exact unnamed
      · exact absurd ⟨close.1, by simpa using close.2⟩ near

theorem get_update_of_not_applied {preset : Preset}
    (found : findPreset presets (obsDataGetString settings crtPresetKey) = some preset)
    (notApplied : ¬ CountsAsApplied settings preset) (key : EffectKey) :
    (c64UpdateEffects presets settings).get key.name =
      (preset.gives key).or (settings.get key.name) := by
  unfold CountsAsApplied at notApplied
  dsimp only at notApplied
  rw [not_or, not_or, not_and] at notApplied
  obtain ⟨named, other, far⟩ := notApplied
  unfold c64UpdateEffects c64SourceApplyCrtPresetIfNeeded
  dsimp only
  rw [if_neg named, if_neg fun both => other both.2, if_neg, if_neg (by simp), found]
  · exact (get_notePreset _ _ key).trans (get_c64EffectApply settings preset key)
  · rintro ⟨none_, near⟩
    rw [found] at near
    exact far none_ (by simpa using near)

/-- No preset is selected, or an unknown one, or the one that was applied last. -/
def Settled (presets : List Preset) (settings : ObsData D) : Prop :=
  obsDataGetString settings crtPresetKey = [] ∨
    obsDataGetString settings c64PresetLastAppliedKey = obsDataGetString settings crtPresetKey ∨
    findPreset presets (obsDataGetString settings crtPresetKey) = none

theorem update_settled (presets : List Preset) (settings : ObsData D) :
    Settled presets (c64UpdateEffects presets settings) := by
  unfold c64UpdateEffects c64SourceApplyCrtPresetIfNeeded
  dsimp only
  split_ifs with unnamed same near created
  · exact .inl unnamed
  · exact .inr (.inl same.2)
  · refine .inr (.inl ?_)
    simp [notePreset, obsDataGetString_set_of_ne _ crtPresetKey_ne]
  · exact absurd created.1 (by simp)
  · cases found : findPreset presets (obsDataGetString settings crtPresetKey) with
    | none => exact .inr (.inr found)
    | some preset =>
      refine .inr (.inl ?_)
      simp [notePreset, obsDataGetString_set_of_ne _ crtPresetKey_ne, crtPreset_c64EffectApply]

theorem Settled.rests (settled : Settled presets settings) : Rests presets settings := by
  intro other same isUpdate key
  have crt : obsDataGetString other crtPresetKey = obsDataGetString settings crtPresetKey := by
    unfold obsDataGetString
    rw [same _ (.inl rfl)]
  have last : obsDataGetString other c64PresetLastAppliedKey =
      obsDataGetString settings c64PresetLastAppliedKey := by
    unfold obsDataGetString
    rw [same _ (.inr (.inl rfl))]
  have still := same key.name (.inr (.inr ⟨key, rfl⟩))
  rw [← still]
  unfold c64SourceApplyCrtPresetIfNeeded
  dsimp only
  rw [crt, last]
  split_ifs with unnamed applied near created
  · rfl
  · rfl
  · exact get_notePreset other _ key
  · rfl
  · rcases settled with none_ | known | unknown
    · exact absurd none_ unnamed
    · refine absurd ⟨?_, known⟩ applied
      rw [known]
      exact unnamed
    · rw [unknown]

end Updates

section Runs

variable {D : Type*} [ObsNumber D] {presets : List Preset}

/-- The settings have what was asked for, and rest if the source was updated. -/
structure EffectRun.Sound (presets : List Preset) (run : EffectRun D) : Prop where
  values : ∀ key : EffectKey, run.settings.get key.name = run.wanted key
  settled : run.updated = true → Settled presets run.settings

variable {run : EffectRun D}

theorem EffectRun.Sound.determined (sound : run.Sound presets) : run.Determined presets :=
  ⟨sound.values, fun updated => (sound.settled updated).rests⟩

theorem EffectRun.get_queued_effect (run : EffectRun D) (name : Chars) (key : EffectKey) :
    (run.queued (.effect name)).get key.name = run.settings.get key.name :=
  run.settings.get_set_of_ne key.name_ne.1 _

theorem EffectRun.get_queued_param (run : EffectRun D) (key : EffectKey) (value : D)
    (other : EffectKey) :
    (run.queued (.effectParam key value)).get other.name =
      Function.update (fun key : EffectKey => run.settings.get key.name) key
        (some (effectParamValue key value)) other := by
  by_cases same : other = key
  · rw [same, Function.update_self]
    exact run.settings.get_set_same _ _
  · rw [Function.update_of_ne same]
    exact run.settings.get_set_of_ne (fun names => same (EffectKey.name_injective names)) _

theorem EffectRun.found_queued_effect (run : EffectRun D) (name : Chars) :
    findPreset presets (obsDataGetString (run.queued (.effect name)) crtPresetKey) =
      findPreset presets name := by
  change findPreset presets (obsDataGetString (run.settings.set crtPresetKey
    (.string (name.take maxScriptText))) crtPresetKey) = _
  rw [obsDataGetString_set, findPreset_take]

theorem EffectRun.Sound.step (sound : run.Sound presets) {statement : EffectStatement D}
    (heeded : run.Heeded presets statement) : (run.step presets statement).Sound presets := by
  refine ⟨fun key => ?_, fun _ => update_settled presets _⟩
  change (c64UpdateEffects presets (run.queued statement)).get key.name =
    wantedAfter presets run.wanted statement key
  cases statement with
  | effect name =>
    simp only [wantedAfter]
    cases found : findPreset presets name with
    | none =>
      -- An unknown preset asks for nothing, and nothing is applied.
      rw [get_update_of_applied, run.get_queued_effect, sound.values]
      · rfl
      · intro preset other
        rw [run.found_queued_effect, found] at other
        cases other
    | some preset =>
      have selected := (@EffectRun.found_queued_effect D _ presets run name).trans found
      by_cases applied : CountsAsApplied (run.queued (.effect name)) preset
      · -- The preset is not applied, and its values are there already.
        have has := heeded preset selected applied key
        rw [get_update_of_applied, run.get_queued_effect, ← sound.values]
        · cases given : (preset.gives key : Option (ObsValue D)) with
          | none => simp [given]
          | some value =>
            have there := has value given
            rw [run.get_queued_effect] at there
            simp [given, there]
        · intro other isOther
          rw [selected] at isOther
          cases isOther
          exact applied
      · rw [get_update_of_not_applied selected applied, run.get_queued_effect, sound.values]
        rfl
  | effectParam param value =>
    have asked : (run.queued (.effectParam param value)).get key.name =
        wantedAfter presets run.wanted (.effectParam param value) key := by
      rw [run.get_queued_param, funext sound.values]
      rfl
    rw [← asked]
    cases found : findPreset presets
        (obsDataGetString (run.queued (.effectParam param value)) crtPresetKey) with
    | none => exact get_update_of_applied (by simp [found]) key
    | some preset =>
      by_cases applied : CountsAsApplied (run.queued (.effectParam param value)) preset
      · refine get_update_of_applied (fun other isOther => ?_) key
        rw [found] at isOther
        cases isOther
        exact applied
      · -- The preset is applied, and changes nothing.
        have has := (heeded preset found).resolve_left applied key
        rw [get_update_of_not_applied found applied]
        cases given : (preset.gives key : Option (ObsValue D)) with
        | none => rfl
        | some given_ => rw [has given_ given]; rfl

theorem EffectRun.Sound.heeded (sound : run.Sound presets) {statement : EffectStatement D}
    (determined : (run.step presets statement).Determined presets) :
    run.Heeded presets statement := by
  have values : ∀ key : EffectKey, (c64UpdateEffects presets (run.queued statement)).get key.name =
      wantedAfter presets run.wanted statement key := determined.values
  intro preset selected
  cases statement with
  | effect name =>
    -- The update changes nothing, so what the preset gives is there before.
    intro applied key value gives
    have found := (@EffectRun.found_queued_effect D _ presets run name).symm.trans selected
    have there := values key
    rw [get_update_of_applied] at there
    · rw [there]
      simp [wantedAfter, found, gives]
    · intro other isOther
      rw [selected] at isOther
      cases isOther
      exact applied
  | effectParam param value =>
    by_cases applied : CountsAsApplied (run.queued (.effectParam param value)) preset
    · exact .inl applied
    · -- The update applies the preset, and leaves what was asked for.
      refine .inr fun key given gives => ?_
      have there := values key
      rw [get_update_of_not_applied selected applied, gives, Option.some_or] at there
      rw [run.get_queued_param, funext sound.values]
      exact there.symm

end Runs

section Examples

/-- A preset. -/
def greenMonitor : Preset where
  name := "Green Monitor".toList
  settings := [("blur_strength".toList, "0.3".toList), ("tint_mode".toList, "2".toList)]
  fits := by decide
  plain := by decide

/-- A preset, a parameter that it also gives, and the preset again. -/
def repeatedPresetStatements : List (EffectStatement ℚ) :=
  [.effect greenMonitor.name, .effectParam .blurStrength (1 / 2), .effect greenMonitor.name]

end Examples

end C64Stream
