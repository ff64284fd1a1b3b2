import C64Stream.Device.RegistryLaws
import C64Stream.Lib.Keyed

/-! What an upsert does to the profiles of each id, also where several files share an id. -/

namespace C64Stream

section Files

variable {files : List ProfileFile} {name other : Text}

/-- Whether the directory has a file of a name. -/
def hasFile (files : List ProfileFile) (name : Text) : Bool :=
  files.any (·.name = name)

theorem hasFile_writeFile (differ : name ≠ other) (content : Text) :
    hasFile (writeFile name content files) other = hasFile files other := by
  rw [Bool.eq_iff_iff]
  simp only [hasFile, writeFile, List.any_append, List.any_filter, List.any_cons, List.any_nil]
  -- The file of the other name is neither the one that goes nor the one that comes.
  simp only [List.any_eq_true, Bool.and_eq_true, Bool.or_eq_true, decide_eq_true_eq]
  aesop

theorem hasFile_removeFile (differ : name ≠ other) :
    hasFile (removeFile name files) other = hasFile files other := by
  rw [Bool.eq_iff_iff]
  simp only [hasFile, removeFile, List.any_filter]
  simp only [List.any_eq_true, Bool.and_eq_true, decide_eq_true_eq]
  aesop

end Files

section Views

variable {registry other : Registry} {device : Device} {id : Text}

/-- The profiles of an id: one, unless several files share it. -/
def Registry.under (registry : Registry) (id : Text) : List Device :=
  underKey Device.id id registry.devices

/-- Whether a registry is loaded, or cannot be. -/
def Registry.Ready (registry : Registry) (load : LoadFindings) : Prop :=
  registry.initialized = true ∨ load.directory = false

theorem Registry.initLocked_ready {load : LoadFindings} (ready : registry.Ready load) :
    (registry.initLocked load).2 = registry := by
  unfold Registry.initLocked
  rcases ready with loaded | missing
  · simp [loaded]
  · simp only [missing]
    split_ifs <;> simp_all

theorem Registry.ready_initLocked (registry : Registry) (load : LoadFindings) :
    (registry.initLocked load).2.Ready load := by
  unfold Registry.initLocked Registry.Ready
  split_ifs with loaded missing listed
  · exact .inl loaded
  · exact .inr (by simpa using missing)
  · exact .inl rfl
  · left
    -- Reading a file adds a device at most.
    have kept : ∀ (files : List ProfileFile) (start : Registry), start.initialized = true →
        (files.foldl (Registry.loadDeviceFile load) start).initialized = true := by
      intro files
      induction files with
      | nil => exact fun _ done => done
      | cons file rest ih =>
        intro start done
        refine ih _ ?_
        unfold Registry.loadDeviceFile
        dsimp only
        split_ifs <;> exact done
    exact kept _ _ rfl

theorem Registry.initLocked_length (registry : Registry) (load : LoadFindings)
    (room : registry.devices.length ≤ c64DeviceMax) :
    (registry.initLocked load).2.devices.length ≤ c64DeviceMax := by
  unfold Registry.initLocked
  split_ifs
  · exact room
  · exact room
  · exact room
  · have kept : ∀ (files : List ProfileFile) (start : Registry),
        start.devices.length ≤ c64DeviceMax →
        (files.foldl (Registry.loadDeviceFile load) start).devices.length ≤ c64DeviceMax := by
      intro files
      induction files with
      | nil => exact fun _ within => within
      | cons file rest ih =>
        intro start within
        refine ih _ ?_
        unfold Registry.loadDeviceFile
        dsimp only
        split_ifs with skipped
        · exact within
        · -- The device is only added below the limit.
          simp only [Bool.or_eq_true, decide_eq_true_eq, not_or] at skipped
          simp only [List.length_append, List.length_singleton]
          omega
    exact kept _ _ room

theorem Registry.profileFor_known {profile : Device} {rest : List Device}
    (known : registry.under device.id = profile :: rest) :
    registry.profileFor device = (some profile, []) := by
  have first : registry.devices.find? (·.id == device.id) = some profile := by
    rw [find?_key, ← Registry.under, known]
    rfl
  simp [Registry.profileFor, first]

theorem Registry.profileFor_new (new : registry.under device.id = []) :
    registry.profileFor device =
      match c64DeviceIdFromHost c64DeviceIdMax [] device.host with
      | none => (none, [])
      | some legacyId =>
        match (registry.under legacyId).find? (·.host == device.host) with
        | some profile => (some profile, legacyId)
        | none => (none, []) := by
  have absent : registry.devices.find? (·.id == device.id) = none := by
    rw [find?_key, ← Registry.under, new]
    rfl
  unfold Registry.profileFor
  rw [absent]
  dsimp only
  cases c64DeviceIdFromHost c64DeviceIdMax [] device.host with
  | none => rfl
  | some legacyId =>
    have same : registry.devices.find? (fun item => item.id == legacyId && item.host == device.host)
        = (registry.under legacyId).find? (·.host == device.host) := find?_key_and _ _ _
    cases found : (registry.under legacyId).find? (·.host == device.host) with
    | none | some =>
      rw [found] at same
      simp [same, found]

theorem c64DeviceIdFromHost_solid {size : Nat} {uniqueId host made : Text}
    (isMade : c64DeviceIdFromHost size uniqueId host = some made) : made ≠ [] := by
  simp only [c64DeviceIdFromHost] at isMade
  split_ifs at isMade
  all_goals
    rename_i solid
    exact Option.some.inj isMade ▸ solid

theorem Registry.profileFor_agrees (new : registry.under device.id = [])
    (otherNew : other.under device.id = [])
    (same : ∀ legacyId, c64DeviceIdFromHost c64DeviceIdMax [] device.host = some legacyId →
      (registry.under legacyId).find? (·.host == device.host)
        = (other.under legacyId).find? (·.host == device.host)) :
    registry.profileFor device = other.profileFor device := by
  rw [Registry.profileFor_new new, Registry.profileFor_new otherNew]
  cases made : c64DeviceIdFromHost c64DeviceIdMax [] device.host with
  | none => rfl
  | some legacyId =>
    dsimp only
    rw [same legacyId made]

theorem Registry.profileFor_found {legacyId : Text} {profile : Device}
    (new : registry.under device.id = [])
    (made : c64DeviceIdFromHost c64DeviceIdMax [] device.host = some legacyId)
    (found : (registry.under legacyId).find? (·.host == device.host) = some profile) :
    registry.profileFor device = (some profile, legacyId) := by
  rw [Registry.profileFor_new new, made]
  dsimp only
  rw [found]

theorem Registry.profileFor_eq {second : Device} (sameId : device.id = second.id)
    (sameHost : device.host = second.host) :
    registry.profileFor device = registry.profileFor second := by
  unfold Registry.profileFor
  rw [sameId, sameHost]

theorem Registry.profileFor_legacy (older : (registry.profileFor device).2 ≠ []) :
    registry.under device.id = [] ∧
      c64DeviceIdFromHost c64DeviceIdMax [] device.host = some (registry.profileFor device).2 ∧
      ∃ profile, (registry.under (registry.profileFor device).2).find? (·.host == device.host)
        = some profile := by
  have new : registry.under device.id = [] := by
    by_contra known
    obtain ⟨profile, rest, under⟩ := List.exists_cons_of_ne_nil known
    rw [Registry.profileFor_known under] at older
    exact older rfl
  rw [Registry.profileFor_new new] at older ⊢
  cases made : c64DeviceIdFromHost c64DeviceIdMax [] device.host with
  | none =>
    rw [made] at older
    exact absurd rfl older
  | some legacyId =>
    rw [made] at older
    dsimp only at older ⊢
    cases found : (registry.under legacyId).find? (·.host == device.host) with
    | none =>
      rw [found] at older
      exact absurd rfl older
    | some profile => exact ⟨new, rfl, profile, found⟩

theorem Device.mergedWith_id (fits : device.id.length < c64DeviceIdMax)
    (profile : Option Device) : (device.mergedWith profile).id = device.id := by
  cases profile with
  | none => rfl
  | some profile => exact List.take_of_length_le (by omega)

theorem Device.mergedWith_host (fits : device.host.length < c64DeviceHostMax)
    (profile : Option Device) : (device.mergedWith profile).host = device.host := by
  cases profile with
  | none => rfl
  | some profile => exact List.take_of_length_le (by omega)

theorem Device.mergedWith_peerHost (fits : device.peerHost.length < c64DeviceHostMax)
    (profile : Option Device) : (device.mergedWith profile).peerHost = device.peerHost := by
  cases profile with
  | none => rfl
  | some profile => exact List.take_of_length_le (by omega)

@[simp] theorem Device.named_peerHost (device : Device) :
    device.named.peerHost = device.peerHost := by
  unfold Device.named
  split_ifs <;> rfl

end Views

section Upserts

variable {registry : Registry} {device : Device} {load : LoadFindings} {save : SaveFindings}
  {removal : RemovalFindings}

/-- Whether saving a device gets to its file. -/
def Device.opens (device : Device) (save : SaveFindings) : Bool :=
  validId device.id && decide (device.host ≠ []) && save.directory && save.opened

/-- Whether saving a device succeeds. -/
def Device.saves (device : Device) (save : SaveFindings) : Bool :=
  device.opens save && save.printed

/-- The files of the directory, except for the one that a device has opened. -/
def FilesKept (files others : List ProfileFile) (device : Device) (save : SaveFindings) : Prop :=
  ∀ name, (device.opens save = true → name ≠ profileName device.id) →
    hasFile files name = hasFile others name

theorem Registry.upsertLocked_refused (device : Device) (save : SaveFindings)
    (ready : registry.Ready load) (refused : device.saves save = false ∨
      (registry.under device.id = [] ∧ registry.devices.length = c64DeviceMax)) :
    ∃ files, registry.upsertLocked device load save = (false, { registry with files := files }) ∧
      FilesKept files registry.files device save := by
  have same : FilesKept registry.files registry.files device save := fun _ _ => rfl
  unfold Registry.upsertLocked
  rw [Registry.initLocked_ready ready]
  dsimp only
  by_cases unfit : (!validId device.id || decide (device.host = [])) = true
  · exact ⟨registry.files, by rw [if_pos unfit], same⟩
  rw [if_neg unfit]
  by_cases full : registry.indexOf device.id = registry.devices.length ∧
      registry.devices.length = c64DeviceMax
  · exact ⟨registry.files, by rw [if_pos full], same⟩
  rw [if_neg full]
  -- There is room, so the device is one that is not saved.
  have unsaved : device.saves save = false := by
    refine refused.resolve_right fun absent => full ⟨?_, absent.2⟩
    exact (findIdx_key_eq_length device.id registry.devices).mpr absent.1
  simp only [Bool.or_eq_true, Bool.not_eq_true', decide_eq_true_eq, not_or,
    Bool.not_eq_false] at unfit
  unfold Registry.saveDevice
  simp only [Device.named_id, unfit.1, Bool.not_true, Bool.false_or]
  by_cases missing : (!save.directory) = true
  · exact ⟨registry.files, by rw [if_pos missing], same⟩
  rw [if_neg missing]
  by_cases closed : (!save.opened) = true
  · exact ⟨registry.files, by rw [if_pos closed], same⟩
  rw [if_neg closed]
  -- The file was opened, so it is the one that may have changed.
  have opens : device.opens save = true := by
    simp_all [Device.opens]
  have unprinted : save.printed = false := by
    simpa [Device.saves, opens] using unsaved
  refine ⟨_, by rw [unprinted], fun name kept => ?_⟩
  exact hasFile_writeFile (Ne.symm (kept opens)) _

theorem Registry.upsertLocked_taken (device : Device) (save : SaveFindings)
    (ready : registry.Ready load) (saved : device.saves save = true)
    (room : registry.under device.id ≠ [] ∨ registry.devices.length ≠ c64DeviceMax) :
    ∃ files, registry.upsertLocked device load save =
        (true, { registry with
          devices := putKey Device.id device.named registry.devices, files := files }) ∧
      FilesKept files registry.files device save := by
  have opens : device.opens save = true := (Bool.and_eq_true_iff.mp saved).1
  have printed : save.printed = true := (Bool.and_eq_true_iff.mp saved).2
  have ready' := opens
  simp only [Device.opens, Bool.and_eq_true, decide_eq_true_eq] at ready'
  obtain ⟨⟨⟨valid, host⟩, directory⟩, opened⟩ := ready'
  have place : ¬(registry.indexOf device.id = registry.devices.length ∧
      registry.devices.length = c64DeviceMax) := by
    rintro ⟨absent, full⟩
    rcases room with known | free
    · exact known ((findIdx_key_eq_length device.id registry.devices).mp absent)
    · exact free full
  unfold Registry.upsertLocked Registry.saveDevice
  rw [Registry.initLocked_ready ready]
  dsimp only
  rw [if_neg (by simp [valid, host]), if_neg place]
  simp only [Device.named_id, valid, directory, opened, printed]
  refine ⟨_, by simp [putKey, Registry.indexOf]; rfl, fun name kept => ?_⟩
  exact hasFile_writeFile (Ne.symm (kept opens)) _

/-- Whether removing the profile of an id succeeds. -/
def Registry.removes (registry : Registry) (id : Text) (removal : RemovalFindings) : Bool :=
  validId id && removal.directory && removal.removed && hasFile registry.files (profileName id)

theorem Registry.deleteLocked_known {id : Text} (known : registry.under id ≠ []) :
    (registry.deleteLocked id removal).2 =
      if registry.removes id removal then
        { registry with
          devices := dropKey Device.id id registry.devices,
          files := removeFile (profileName id) registry.files }
      else registry := by
  have present : registry.indexOf id ≠ registry.devices.length :=
    (findIdx_key_eq_length id registry.devices).not.mpr known
  have place : dropKey Device.id id registry.devices
      = registry.devices.eraseIdx (registry.indexOf id) := rfl
  unfold Registry.deleteLocked Registry.removes hasFile
  rw [place]
  dsimp only
  -- The tests of the code are those of the condition, one behind the other.
  cases validId id <;> cases removal.directory <;> cases removal.removed <;>
    cases registry.files.any (·.name = profileName id) <;> simp [present]

end Upserts

section Discoveries

variable {registry : Registry} {device : Device} {load : LoadFindings} {save : SaveFindings}
  {removal : RemovalFindings}

/-- The profile that a discovered device gets. -/
def Registry.entryFor (registry : Registry) (device : Device) : Device :=
  (device.mergedWith (registry.profileFor device).1).named

/-- Whether a discovered device takes the place of an older profile. -/
def Registry.replaces (registry : Registry) (device : Device) (removal : RemovalFindings) : Bool :=
  decide ((registry.profileFor device).2 ≠ []) &&
    registry.removes (registry.profileFor device).2 removal

/-- The texts of a device that tell it from others fit their fields. -/
def Device.Addressed (device : Device) : Prop :=
  device.id.length < c64DeviceIdMax ∧ device.host.length < c64DeviceHostMax

instance (device : Device) : Decidable device.Addressed :=
  inferInstanceAs (Decidable (_ ∧ _))

theorem Registry.entryFor_id (addressed : device.Addressed) :
    (registry.entryFor device).id = device.id := by
  rw [Registry.entryFor, Device.named_id, Device.mergedWith_id addressed.1]

theorem Registry.entryFor_host (addressed : device.Addressed) :
    (registry.entryFor device).host = device.host := by
  rw [Registry.entryFor, Device.named_host, Device.mergedWith_host addressed.2]

theorem Device.mergedWith_opens (addressed : device.Addressed) (profile : Option Device)
    (save : SaveFindings) :
    (device.mergedWith profile).opens save = device.opens save := by
  unfold Device.opens
  rw [Device.mergedWith_id addressed.1, Device.mergedWith_host addressed.2]

theorem Registry.upsertDiscovered_refused (removal : RemovalFindings)
    (ready : registry.Ready load) (addressed : device.Addressed)
    (refused : device.saves save = false ∨
      (registry.under device.id = [] ∧ registry.devices.length = c64DeviceMax)) :
    ∃ files, registry.upsertDiscovered device load load save removal
        = (false, { registry with files := files }) ∧
      FilesKept files registry.files device save := by
  have merged := Device.mergedWith_id addressed.1 (registry.profileFor device).1
  have opens := Device.mergedWith_opens addressed (registry.profileFor device).1 save
  obtain ⟨files, outcome, kept⟩ := Registry.upsertLocked_refused
    (device.mergedWith (registry.profileFor device).1) save ready
    (by rwa [Device.saves, opens, ← Device.saves, merged])
  refine ⟨files, ?_, fun name other => kept name (by rwa [opens, merged])⟩
  unfold Registry.upsertDiscovered
  rw [Registry.initLocked_ready ready]
  dsimp only
  rw [outcome]
  simp

theorem Registry.upsertDiscovered_taken (removal : RemovalFindings)
    (ready : registry.Ready load) (addressed : device.Addressed) (saved : device.saves save = true)
    (room : registry.under device.id ≠ [] ∨ registry.devices.length ≠ c64DeviceMax) :
    ∃ files, registry.upsertDiscovered device load load save removal = (true,
        { registry with
          devices :=
            if registry.replaces device removal then
              dropKey Device.id (registry.profileFor device).2
                (putKey Device.id (registry.entryFor device) registry.devices)
            else putKey Device.id (registry.entryFor device) registry.devices,
          files := files }) ∧
      ∀ name, (device.opens save = true → name ≠ profileName device.id) →
        (registry.replaces device removal = true →
          name ≠ profileName (registry.profileFor device).2) →
        hasFile files name = hasFile registry.files name := by
  have merged := Device.mergedWith_id addressed.1 (registry.profileFor device).1
  have opens := Device.mergedWith_opens addressed (registry.profileFor device).1 save
  obtain ⟨files, outcome, kept⟩ := Registry.upsertLocked_taken
    (device.mergedWith (registry.profileFor device).1) save ready
    (by rwa [Device.saves, opens, ← Device.saves]) (by rwa [merged])
  rw [← Registry.entryFor] at outcome
  unfold Registry.upsertDiscovered
  rw [Registry.initLocked_ready ready]
  dsimp only
  rw [outcome, merged]
  by_cases older : (registry.profileFor device).2 = []
  · -- No older profile is looked for again.
    have stays : registry.replaces device removal = false := by simp [Registry.replaces, older]
    refine ⟨files, by simp [older, stays], fun name other _ => kept name (by rwa [opens, merged])⟩
  · obtain ⟨new, -, profile, found⟩ := Registry.profileFor_legacy older
    have apart : (registry.profileFor device).2 ≠ device.id := by
      intro same
      rw [same, new] at found
      exact absurd found (by simp)
    rw [if_pos ⟨rfl, older, apart⟩]
    -- The older profile is still there, and so is its file.
    have known : Registry.under { registry with
        devices := putKey Device.id (registry.entryFor device) registry.devices,
        files := files } (registry.profileFor device).2 ≠ [] := by
      have differ : (registry.entryFor device).id ≠ (registry.profileFor device).2 := by
        rw [Registry.entryFor_id addressed]
        exact apart.symm
      rw [Registry.under, underKey_put_other differ]
      intro empty
      rw [Registry.under, empty] at found
      exact absurd found (by simp)
    have file : hasFile files (profileName (registry.profileFor device).2)
        = hasFile registry.files (profileName (registry.profileFor device).2) :=
      kept _ fun _ same => apart ((profileName_injective same).trans merged)
    have removes : Registry.removes { registry with
        devices := putKey Device.id (registry.entryFor device) registry.devices,
        files := files } (registry.profileFor device).2 removal
          = registry.replaces device removal := by
      simp [Registry.removes, Registry.replaces, older, file]
    rw [Registry.deleteLocked_known known, removes]
    by_cases gone : registry.replaces device removal = true
    · refine ⟨_, by rw [if_pos gone, if_pos gone], fun name other away => ?_⟩
      rw [hasFile_removeFile (Ne.symm (away gone))]
      exact kept name (by rwa [opens, merged])
    · refine ⟨files, by rw [if_neg gone, if_neg gone], fun name other _ => ?_⟩
      exact kept name (by rwa [opens, merged])

end Discoveries

end C64Stream
