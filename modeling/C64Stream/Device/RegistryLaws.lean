import C64Stream.Device.ProfileFiles
import C64Stream.Lib.Run

/-! The device registry and its files: when memory and directory stay in step over a whole run. -/

namespace C64Stream

section Keyed

variable {α κ : Type*} [BEq κ] [LawfulBEq κ] [DecidableEq κ] {key : α → κ}

theorem eraseIdx_findIdx_key {items : List α} (distinct : (items.map key).Nodup) (wanted : κ) :
    items.eraseIdx (items.findIdx (key · == wanted)) = items.filter (key · ≠ wanted) := by
  induction items with
  | nil => rfl
  | cons item rest ih =>
    rw [List.map_cons, List.nodup_cons] at distinct
    rw [List.findIdx_cons]
    by_cases same : key item = wanted
    · -- No later item has the key, so the filter keeps them all.
      have others : ∀ other ∈ rest, key other ≠ wanted := by
        rintro other within rfl
        exact distinct.1 (same ▸ List.mem_map_of_mem within)
      simpa [same] using (List.filter_eq_self.mpr fun other within => by
        simpa using others other within).symm
    · have differ : (key item == wanted) = false := beq_eq_false_iff_ne.mpr same
      simpa [differ, same] using ih distinct.2

theorem perm_put_key {items : List α} (distinct : (items.map key).Nodup) (item : α) :
    let index := items.findIdx (key · == key item)
    (if index = items.length then items ++ [item] else items.set index item).Perm
      (items.filter (key · ≠ key item) ++ [item]) := by
  intro index
  rw [← eraseIdx_findIdx_key distinct]
  split_ifs with absent
  · rw [List.eraseIdx_of_length_le (Nat.le_of_eq absent.symm)]
  · have inside : index < items.length :=
      lt_of_le_of_ne (List.findIdx_le_length) absent
    exact (List.set_perm_cons_eraseIdx inside item).trans (List.perm_append_singleton _ _).symm

end Keyed

section Directory

/-- The devices that the files of a directory hold. -/
def profilesOf (files : List ProfileFile) : List Device :=
  files.filterMap ProfileFile.device?

/-- No two files share a name, each profile is in the file named after its id, its texts fit and
end in no white space, and the profiles find room in memory. -/
structure Orderly (files : List ProfileFile) : Prop where
  names : (files.map ProfileFile.name).Nodup
  named : ∀ file ∈ files, ∀ device, file.device? = some device →
    file.name = profileName device.id
  kept : ∀ device ∈ profilesOf files, device.Fits ∧ device.Trimmed
  room : (profilesOf files).length ≤ c64DeviceMax

variable {files : List ProfileFile}

theorem profilesOf_names (named : ∀ file ∈ files, ∀ device, file.device? = some device →
      file.name = profileName device.id) :
    ((profilesOf files).map fun device => profileName device.id).Sublist
      (files.map ProfileFile.name) := by
  induction files with
  | nil => exact List.Sublist.slnil
  | cons file rest ih =>
    have behind := ih fun file within => named file (by simp [within])
    rw [profilesOf, List.filterMap_cons]
    cases holds : file.device? with
    | none => exact behind.cons _
    | some device =>
      rw [List.map_cons, List.map_cons, named file (by simp) device holds]
      exact behind.cons_cons _

theorem Orderly.ids (orderly : Orderly files) : ((profilesOf files).map Device.id).Nodup := by
  have distinct := (profilesOf_names orderly.named).nodup orderly.names
  rw [show (fun device : Device => profileName device.id) = profileName ∘ Device.id from rfl,
    ← List.map_map] at distinct
  exact distinct.of_map

theorem profilesOf_removeFile (named : ∀ file ∈ files, ∀ device, file.device? = some device →
      file.name = profileName device.id) (id : Text) :
    profilesOf (removeFile (profileName id) files)
      = (profilesOf files).filter (·.id ≠ id) := by
  induction files with
  | nil => rfl
  | cons file rest ih =>
    have behind := ih fun file within => named file (by simp [within])
    unfold profilesOf removeFile at behind ⊢
    cases holds : file.device? with
    | none =>
      rw [List.filterMap_cons, holds, ← behind, List.filter_cons]
      split_ifs
      · rw [List.filterMap_cons, holds]
      · rfl
    | some device =>
      have name := named file (by simp) device holds
      rw [List.filterMap_cons, holds, List.filter_cons, List.filter_cons, ← behind]
      by_cases same : device.id = id
      · simp [name, same]
      · have other : file.name ≠ profileName id := fun equal =>
          same (profileName_injective (name ▸ equal))
        simp [other, same, holds]

theorem Orderly.remove (orderly : Orderly files) (id : Text) :
    Orderly (removeFile (profileName id) files) := by
  have profiles := profilesOf_removeFile orderly.named id
  refine ⟨?_, ?_, ?_, ?_⟩
  · exact ((List.filter_sublist).map _).nodup orderly.names
  · exact fun file within => orderly.named file (List.mem_of_mem_filter within)
  · rw [profiles]
    exact fun device within => orderly.kept device (List.mem_of_mem_filter within)
  · rw [profiles]
    exact (List.length_filter_le _ _).trans orderly.room

theorem profilesOf_writeFile (named : ∀ file ∈ files, ∀ device, file.device? = some device →
      file.name = profileName device.id) {device : Device}
    (holds : device.file.device? = some device) :
    profilesOf (writeFile (profileName device.id) device.render files)
      = (profilesOf files).filter (·.id ≠ device.id) ++ [device] := by
  have others := profilesOf_removeFile named device.id
  unfold profilesOf removeFile at others
  rw [profilesOf, writeFile, List.filterMap_append, others]
  congr 1
  exact List.filterMap_cons_some holds

theorem Orderly.write (orderly : Orderly files) {device : Device}
    (holds : device.file.device? = some device) (fits : device.Fits) (trimmed : device.Trimmed)
    (room : ((profilesOf files).filter (·.id ≠ device.id)).length < c64DeviceMax) :
    Orderly (writeFile (profileName device.id) device.render files) := by
  have profiles := profilesOf_writeFile orderly.named holds
  have removed := orderly.remove device.id
  refine ⟨?_, ?_, ?_, ?_⟩
  · rw [writeFile, List.map_append]
    refine removed.names.append (by simp) ?_
    rw [List.map_cons, List.map_nil, List.disjoint_singleton, List.mem_map]
    rintro ⟨file, within, same⟩
    simpa [same] using List.of_mem_filter within
  · intro file within other found
    rcases List.mem_append.mp within with before | written
    · exact removed.named file before other found
    · rw [List.mem_singleton.mp written] at found ⊢
      rw [Option.some.inj (found.symm.trans holds)]
  · rw [profiles]
    intro other within
    rcases List.mem_append.mp within with before | written
    · exact orderly.kept other (List.mem_of_mem_filter before)
    · rw [List.mem_singleton.mp written]
      exact ⟨fits, trimmed⟩
  · rw [profiles, List.length_append]
    exact room

end Directory

section Loading

variable {registry : Registry} {load : LoadFindings}

/-- Nothing goes wrong where a registry that is not loaded is loaded. -/
def Registry.LoadsFully (registry : Registry) (load : LoadFindings) : Prop :=
  registry.initialized = false →
    load.directory = true ∧ load.listed = true ∧
      ∀ file ∈ registry.files, load.opens file.name = true

/-- Memory and directory are in step: the directory is orderly, and a loaded registry holds its
profiles. -/
structure Registry.InStep (registry : Registry) : Prop where
  orderly : Orderly registry.files
  loaded : registry.initialized = true → registry.devices.Perm (profilesOf registry.files)
  unloaded : registry.initialized = false → registry.devices = []

theorem Registry.InStep.ids (inStep : registry.InStep) :
    (registry.devices.map Device.id).Nodup := by
  cases initialized : registry.initialized with
  | false => simp [inStep.unloaded initialized]
  | true =>
    exact ((inStep.loaded initialized).map Device.id).nodup_iff.mpr inStep.orderly.ids

theorem Registry.InStep.room (inStep : registry.InStep) :
    registry.devices.length ≤ c64DeviceMax := by
  cases initialized : registry.initialized with
  | false => simp [inStep.unloaded initialized]
  | true =>
    rw [(inStep.loaded initialized).length_eq]
    exact inStep.orderly.room

theorem foldl_loadDeviceFile {files : List ProfileFile}
    (opens : ∀ file ∈ files, load.opens file.name = true) (registry : Registry)
    (room : registry.devices.length + (profilesOf files).length ≤ c64DeviceMax) :
    files.foldl (Registry.loadDeviceFile load) registry
      = { registry with devices := registry.devices ++ profilesOf files } := by
  induction files generalizing registry with
  | nil => simp [profilesOf]
  | cons file rest ih =>
    have opened := opens file (by simp)
    have behind := ih fun file within => opens file (by simp [within])
    unfold profilesOf at room behind ⊢
    rw [List.foldl_cons]
    rw [List.filterMap_cons] at room ⊢
    cases holds : file.device? with
    | none =>
      -- A file that holds no profile changes nothing.
      have kept : registry.loadDeviceFile load file = registry := by
        simp only [ProfileFile.device?, ite_eq_right_iff, reduceCtorEq, imp_false, not_and] at holds
        unfold Registry.loadDeviceFile
        by_cases valid : validId (readDevice file.content).id = true
        · simp [not_not.mp (holds valid)]
        · simp [valid]
      rw [holds] at room
      rw [kept, behind registry room]
    | some device =>
      rw [holds, List.length_cons] at room
      have added : registry.loadDeviceFile load file
          = { registry with devices := registry.devices ++ [device] } := by
        have valid := ProfileFile.device?_valid holds
        simp only [ProfileFile.device?] at holds
        split_ifs at holds
        have same := Option.some.inj holds
        unfold Registry.loadDeviceFile
        rw [same]
        simp only [opened, valid.1, valid.2, show ¬registry.devices.length = c64DeviceMax by omega,
          Bool.not_true, decide_false, Bool.or_self, Bool.false_eq_true, if_false]
      rw [added, behind]
      · simp
      · rw [List.length_append, List.length_singleton]
        omega

theorem profilesOf_filter {files : List ProfileFile}
    (named : ∀ file ∈ files, ∀ device, file.device? = some device →
      file.name = profileName device.id) :
    profilesOf (files.filter (isProfileName ·.name)) = profilesOf files := by
  unfold profilesOf
  rw [List.filterMap_filter]
  refine List.filterMap_congr fun file within => ?_
  cases holds : file.device? with
  | none => simp
  | some device =>
    rw [named file within device holds, isProfileName_profileName]
    rfl

theorem listing_perm (load : LoadFindings) (files : List ProfileFile) :
    (load.listing files).Perm files :=
  List.perm_insertionSort _ _

theorem Registry.InStep.init (inStep : registry.InStep) (full : registry.LoadsFully load) :
    ∃ devices, registry.initLocked load
        = (true, { registry with devices := devices, initialized := true }) ∧
      devices.Perm (profilesOf registry.files) ∧
      (registry.initialized = true → devices = registry.devices) := by
  cases initialized : registry.initialized with
  | true =>
    refine ⟨registry.devices, ?_, inStep.loaded initialized, fun _ => rfl⟩
    rw [Registry.initLocked, if_pos initialized, ← initialized]
  | false =>
    obtain ⟨directory, listed, opens⟩ := full initialized
    have order := listing_perm load registry.files
    have named : ∀ file ∈ load.listing registry.files, ∀ device, file.device? = some device →
        file.name = profileName device.id :=
      fun file within => inStep.orderly.named file (order.subset within)
    have profiles : (profilesOf (load.listing registry.files)).Perm (profilesOf registry.files) :=
      order.filterMap _
    refine ⟨profilesOf (load.listing registry.files), ?_, profiles, by simp⟩
    rw [Registry.initLocked, if_neg (by simp [initialized]), directory, listed]
    simp only [Bool.not_true, Bool.false_eq_true, if_false]
    rw [foldl_loadDeviceFile, profilesOf_filter named]
    · simp [inStep.unloaded initialized]
    · exact fun file within => opens file (order.subset (List.mem_of_mem_filter within))
    · rw [profilesOf_filter named, profiles.length_eq]
      simpa [inStep.unloaded initialized] using inStep.orderly.room

theorem Registry.InStep.after_init (inStep : registry.InStep) (full : registry.LoadsFully load) :
    (registry.initLocked load).2.InStep ∧ (registry.initLocked load).2.initialized = true ∧
      (registry.initLocked load).2.files = registry.files := by
  obtain ⟨devices, loaded, profiles, -⟩ := inStep.init full
  rw [loaded]
  exact ⟨⟨inStep.orderly, fun _ => profiles, by simp⟩, rfl, rfl⟩

theorem Registry.InStep.cleanup (inStep : registry.InStep) : registry.cleanup.InStep :=
  ⟨inStep.orderly, by simp [Registry.cleanup], fun _ => rfl⟩

end Loading

section Saving

/-- What is written of a file reaches it, once it was opened. -/
def SaveFindings.Stores (save : SaveFindings) : Prop :=
  save.directory = true → save.opened = true → save.printed = true ∧ save.closed = true

/-- A device that the files of a registry leave room for, with a directory that takes its file. -/
def Registry.Accepts (registry : Registry) (device : Device) (save : SaveFindings) : Prop :=
  (validId device.id = true ∧ device.host ≠ []) ∧
    (save.directory = true ∧ save.opened = true) ∧
    (device.id ∈ (profilesOf registry.files).map Device.id ∨
      (profilesOf registry.files).length < c64DeviceMax)

variable {registry : Registry} {device : Device} {save : SaveFindings}

@[simp] theorem Device.named_id (device : Device) : device.named.id = device.id := by
  unfold Device.named
  split_ifs <;> rfl

@[simp] theorem Device.named_host (device : Device) : device.named.host = device.host := by
  unfold Device.named
  split_ifs <;> rfl

theorem Device.named_kept (fits : device.Fits) (trimmed : device.Trimmed) :
    device.named.Fits ∧ device.named.Trimmed := by
  unfold Device.named
  split_ifs
  · obtain ⟨id, name, host, peerHost, dnsServerIp⟩ := fits
    have whole : copyField c64DeviceNameMax device.host = device.host := copyField_of_fits host
    rw [whole]
    refine ⟨⟨id, host, host, peerHost, dnsServerIp⟩, ?_⟩
    simp only [Device.Trimmed, Device.texts, List.mem_cons, List.not_mem_nil, or_false,
      forall_eq_or_imp, forall_eq] at trimmed ⊢
    obtain ⟨trimmedId, -, trimmedHost, trimmedPeer, trimmedDns⟩ := trimmed
    exact ⟨trimmedId, trimmedHost, trimmedHost, trimmedPeer, trimmedDns⟩
  · exact ⟨fits, trimmed⟩

theorem Registry.saveDevice_stores (registry : Registry) (device : Device) (stores : save.Stores) :
    (registry.saveDevice device save = (false, registry) ∧
        ¬(validId device.id = true ∧ save.directory = true ∧ save.opened = true)) ∨
      registry.saveDevice device save = (true,
        { registry with
          files := writeFile (profileName device.id) device.render registry.files }) := by
  unfold Registry.saveDevice
  by_cases refused : (!validId device.id || !save.directory) = true
  · refine .inl ⟨if_pos refused, fun ready => ?_⟩
    simp [ready.1, ready.2.1] at refused
  · rw [if_neg refused]
    simp only [Bool.or_eq_true, Bool.not_eq_true', not_or, Bool.not_eq_false] at refused
    by_cases opened : save.opened = true
    · obtain ⟨printed, closed⟩ := stores refused.2 opened
      exact .inr (by simp [opened, printed, closed])
    · exact .inl ⟨by simp [opened], fun ready => opened ready.2.2⟩

theorem Registry.initLocked_loaded (loaded : registry.initialized = true) (load : LoadFindings) :
    registry.initLocked load = (true, registry) :=
  if_pos loaded

theorem Registry.InStep.others_room (inStep : registry.InStep)
    (loaded : registry.initialized = true) (id : Text)
    (room : ¬(registry.indexOf id = registry.devices.length ∧
      registry.devices.length = c64DeviceMax)) :
    ((profilesOf registry.files).filter (·.id ≠ id)).length < c64DeviceMax := by
  have within := inStep.room
  have same := ((inStep.loaded loaded).filter fun device => decide (device.id ≠ id)).length_eq
  have erased := congrArg List.length (eraseIdx_findIdx_key inStep.ids id)
  rw [← same, ← erased, List.length_eraseIdx]
  have bound : registry.indexOf id ≤ registry.devices.length := List.findIdx_le_length
  rw [Registry.indexOf] at room bound
  split_ifs <;> omega

theorem Registry.InStep.upsert (inStep : registry.InStep) (loaded : registry.initialized = true)
    (fits : device.Fits) (trimmed : device.Trimmed) (stores : save.Stores) (load : LoadFindings) :
    (registry.upsertLocked device load save = (false, registry) ∧
        ¬registry.Accepts device save) ∨
      ∃ next, registry.upsertLocked device load save = (true, next) ∧ next.InStep ∧
        next.initialized = true := by
  unfold Registry.upsertLocked
  rw [Registry.initLocked_loaded loaded]
  dsimp only
  by_cases refused : (!validId device.id || decide (device.host = [])) = true
  · refine .inl ⟨if_pos refused, fun accepts => ?_⟩
    simp [accepts.1.1, accepts.1.2] at refused
  rw [if_neg refused]
  simp only [Bool.or_eq_true, Bool.not_eq_true', decide_eq_true_eq, not_or,
    Bool.not_eq_false] at refused
  by_cases full : registry.indexOf device.id = registry.devices.length ∧
      registry.devices.length = c64DeviceMax
  · refine .inl ⟨if_pos full, fun accepts => ?_⟩
    -- Neither is the id known, nor is there room for another.
    have same := inStep.loaded loaded
    rcases accepts.2.2 with known | room
    · obtain ⟨profile, among, sameId⟩ := List.mem_map.mp known
      have := List.findIdx_lt_length_of_exists (p := fun other : Device => other.id == device.id)
        ⟨profile, same.symm.subset among, by simpa using sameId⟩
      exact absurd full.1 (Nat.ne_of_lt this)
    · rw [← same.length_eq] at room
      omega
  rw [if_neg full]
  obtain ⟨fitsNamed, trimmedNamed⟩ := Device.named_kept fits trimmed
  have room := inStep.others_room loaded device.id full
  have holds : device.named.file.device? = some device.named :=
    Device.file_device? (by simpa using refused.1) (by simpa using refused.2) fitsNamed trimmedNamed
  rcases registry.saveDevice_stores device.named stores with ⟨failed, unready⟩ | saved
  · refine .inl ⟨by rw [failed], fun accepts => unready ?_⟩
    exact ⟨by simpa using refused.1, accepts.2.1⟩
  · rw [saved]
    refine .inr ⟨_, rfl, ?_, loaded⟩
    refine ⟨inStep.orderly.write holds fitsNamed trimmedNamed (by simpa using room),
      fun _ => ?_, ?_⟩
    · -- The memory takes the device in its place, the directory in its file.
      have put := perm_put_key inStep.ids device.named
      have others := (inStep.loaded loaded).filter fun other => decide (other.id ≠ device.named.id)
      rw [profilesOf_writeFile inStep.orderly.named holds]
      simp only [Device.named_id] at put others ⊢
      exact put.trans (others.append_right _)
    · intro unloaded
      exact absurd (loaded.symm.trans unloaded) (by simp)

theorem Registry.InStep.delete (inStep : registry.InStep) (id : Text) (removal : RemovalFindings) :
    registry.deleteLocked id removal = (false, registry) ∨
      ∃ next, registry.deleteLocked id removal = (true, next) ∧ next.InStep ∧
        next.initialized = true := by
  unfold Registry.deleteLocked
  by_cases invalid : (!validId id) = true
  · exact .inl (if_pos invalid)
  rw [if_neg invalid]
  dsimp only
  by_cases unknown :
      (decide (registry.indexOf id = registry.devices.length) || !removal.directory) = true
  · exact .inl (if_pos unknown)
  rw [if_neg unknown]
  by_cases stays : (!(removal.removed && registry.files.any (·.name = profileName id))) = true
  · exact .inl (if_pos stays)
  rw [if_neg stays]
  -- A device was found, so the registry is loaded.
  have loaded : registry.initialized = true := by
    by_contra unloaded
    have empty := inStep.unloaded (by simpa using unloaded)
    simp [Registry.indexOf, empty] at unknown
  refine .inr ⟨_, rfl, ⟨inStep.orderly.remove id, fun _ => ?_, ?_⟩, loaded⟩
  · have others := (inStep.loaded loaded).filter fun other => decide (other.id ≠ id)
    rw [profilesOf_removeFile inStep.orderly.named, Registry.indexOf,
      eraseIdx_findIdx_key inStep.ids]
    exact others
  · intro unloaded
    exact absurd (loaded.symm.trans unloaded) (by simp)

end Saving

section Merging

variable {registry : Registry} {device : Device} {load : LoadFindings} {save : SaveFindings}

theorem Registry.upsertLocked_init (loaded : (registry.initLocked load).2.initialized = true)
    (device : Device) (save : SaveFindings) :
    registry.upsertLocked device load save
      = (registry.initLocked load).2.upsertLocked device load save := by
  rw [Registry.upsertLocked, Registry.upsertLocked, Registry.initLocked_loaded loaded]

theorem Registry.profileFor_mem {profile : Device}
    (found : (registry.profileFor device).1 = some profile) : profile ∈ registry.devices := by
  unfold Registry.profileFor at found
  split at found
  · rename_i known byId
    exact Option.some.inj found ▸ List.mem_of_find?_eq_some byId
  · split at found
    · simp at found
    · split at found
      · rename_i known byHost
        exact Option.some.inj found ▸ List.mem_of_find?_eq_some byHost
      · simp at found

theorem Device.mergedWith_addresses (fits : device.Fits) (profile : Option Device) :
    (device.mergedWith profile).id = device.id ∧
      (device.mergedWith profile).host = device.host := by
  cases profile with
  | none => exact ⟨rfl, rfl⟩
  | some profile => exact ⟨copyField_of_fits fits.1, copyField_of_fits fits.2.2.1⟩

theorem Device.mergedWith_kept (fits : device.Fits) (trimmed : device.Trimmed)
    {profile : Option Device} (kept : ∀ known, profile = some known → known.Fits ∧ known.Trimmed) :
    (device.mergedWith profile).Fits ∧ (device.mergedWith profile).Trimmed := by
  cases profile with
  | none => exact ⟨fits, trimmed⟩
  | some known =>
    obtain ⟨⟨-, name, -, -, dns⟩, knownTrimmed⟩ := kept known rfl
    obtain ⟨id, -, host, peerHost, -⟩ := fits
    simp only [Device.Trimmed, Device.texts, List.mem_cons, List.not_mem_nil, or_false,
      forall_eq_or_imp, forall_eq] at trimmed knownTrimmed ⊢
    simp only [Device.mergedWith, copyField_of_fits id, copyField_of_fits host,
      copyField_of_fits peerHost]
    exact ⟨⟨id, name, host, peerHost, dns⟩, trimmed.1, knownTrimmed.2.1, trimmed.2.2.1,
      trimmed.2.2.2.1, knownTrimmed.2.2.2.2⟩

theorem Registry.InStep.kept (inStep : registry.InStep) {profile : Device}
    (among : profile ∈ registry.devices) : profile.Fits ∧ profile.Trimmed := by
  cases initialized : registry.initialized with
  | false => simp [inStep.unloaded initialized] at among
  | true => exact inStep.orderly.kept profile ((inStep.loaded initialized).subset among)

theorem Registry.InStep.upsertDiscovered (inStep : registry.InStep)
    (full : registry.LoadsFully load) (fits : device.Fits) (trimmed : device.Trimmed)
    (stores : save.Stores) (reload : LoadFindings) (removal : RemovalFindings) :
    (registry.upsertDiscovered device load reload save removal
        = (false, (registry.initLocked load).2) ∧ ¬registry.Accepts device save) ∨
      ∃ next, registry.upsertDiscovered device load reload save removal = (true, next) ∧
        next.InStep ∧ next.initialized = true := by
  obtain ⟨inStepLoaded, loaded, files⟩ := inStep.after_init full
  unfold Registry.upsertDiscovered
  generalize found : (registry.initLocked load).2.profileFor device = answer
  obtain ⟨profile, legacyProfileId⟩ := answer
  have kept : ∀ known, profile = some known → known.Fits ∧ known.Trimmed := by
    intro known same
    have matched : ((registry.initLocked load).2.profileFor device).1 = some known := by
      rw [found, same]
    exact inStepLoaded.kept (Registry.profileFor_mem matched)
  obtain ⟨mergedFits, mergedTrimmed⟩ := Device.mergedWith_kept fits trimmed kept
  obtain ⟨sameId, sameHost⟩ := Device.mergedWith_addresses fits profile
  simp only [found]
  rcases inStepLoaded.upsert loaded mergedFits mergedTrimmed stores reload with
    ⟨failed, refused⟩ | ⟨next, saved, nextInStep, nextLoaded⟩
  · refine .inl ⟨by simp [failed], fun accepts => refused ?_⟩
    unfold Registry.Accepts at accepts ⊢
    rwa [sameId, sameHost, files]
  · rw [saved]
    dsimp only
    split_ifs
    · -- The profile under the old id goes, or stays in memory and directory.
      rcases nextInStep.delete legacyProfileId removal with
        stays | ⟨last, removed, lastInStep, lastLoaded⟩
      · exact .inr ⟨next, by rw [stays], nextInStep, nextLoaded⟩
      · exact .inr ⟨last, by rw [removed], lastInStep, lastLoaded⟩
    · exact .inr ⟨next, rfl, nextInStep, nextLoaded⟩

end Merging

section Migrating

theorem toLower_not_space {byte : UInt8} (alnum : isAlnum byte = true) :
    isSpace (toLower byte) = false := by
  apply digit_not_space
  simp only [isAlnum, Bool.or_eq_true, Bool.and_eq_true, decide_eq_true_eq,
    UInt8.le_iff_toNat_le] at alnum
  rw [UInt8.le_iff_toNat_le]
  unfold toLower
  split_ifs with capital
  · simp only [UInt8.le_iff_toNat_le] at capital
    rw [UInt8.toNat_add]
    change 65 ≤ byte.toNat ∧ byte.toNat ≤ 90 at capital
    change 48 ≤ (byte.toNat + 32) % 256
    omega
  · change ((48 ≤ byte.toNat ∧ byte.toNat ≤ 57) ∨ (65 ≤ byte.toNat ∧ byte.toNat ≤ 90)) ∨
      (97 ≤ byte.toNat ∧ byte.toNat ≤ 122) at alnum
    change 48 ≤ byte.toNat
    omega

theorem idBytes_kept {size : Nat} {out : Text} (source : Text)
    (solid : ∀ byte ∈ out, isSpace byte = false) (short : out.length < size) :
    (∀ byte ∈ idBytes size out source, isSpace byte = false) ∧
      (idBytes size out source).length < size := by
  -- The induction is on the host, and every turn adds at most one byte that is not white space.
  induction source generalizing out with
  | nil => exact ⟨solid, short⟩
  | cons byte source ih =>
    have grown : ∀ added, isSpace added = false →
        ∀ byte ∈ out ++ [added], isSpace byte = false := by
      intro added notSpace byte within
      rcases List.mem_append.mp within with before | last
      · exact solid byte before
      · rwa [List.mem_singleton.mp last]
    rw [idBytes]
    split_ifs with room alnum dash
    · exact ih (grown _ (toLower_not_space alnum)) (by simpa using room)
    · exact ih (grown 45 (by decide)) (by simpa using room)
    · exact ih solid short
    · exact ⟨solid, short⟩

theorem c64DeviceIdFromHost_kept {size : Nat} (positive : 0 < size) {host id : Text}
    (made : c64DeviceIdFromHost size [] host = some id) :
    FitsField size id ∧ trimEnd id = id := by
  obtain ⟨solid, short⟩ := @idBytes_kept size [] host (by simp) positive
  have isFront : (idBytes size [] host).rdropWhile (· == 45) <+: idBytes size [] host :=
    List.rdropWhile_prefix _ _
  simp only [c64DeviceIdFromHost, ne_eq, not_true_eq_false, if_false] at made
  split_ifs at made
  rw [← Option.some.inj made]
  have bytes := fun byte within => solid byte (isFront.subset within)
  refine ⟨⟨Nat.lt_of_le_of_lt isFront.length_le short, fun within => ?_⟩, trimEnd_of_solid bytes⟩
  exact absurd (bytes 10 within) (by decide)

/-- The texts that the migration copies from the settings hold no line break. -/
def LegacySettings.Single (settings : LegacySettings) : Prop :=
  10 ∉ settings.c64Host ∧ 10 ∉ settings.dnsServerIp

/-- The texts that the migration copies from the settings end in no white space. -/
def LegacySettings.Trimmed (settings : LegacySettings) : Prop :=
  (settings.profile []).Trimmed

theorem LegacySettings.profile_kept {settings : LegacySettings} (single : settings.Single)
    (trimmed : settings.Trimmed) {id : Text} (fits : FitsField c64DeviceIdMax id)
    (trimmedId : trimEnd id = id) :
    (settings.profile id).Fits ∧ (settings.profile id).Trimmed := by
  refine ⟨⟨fits, ?_, ?_, ?_, ?_⟩, ?_⟩
  · exact (by decide +kernel : FitsField c64DeviceNameMax (text "Default"))
  · exact fits_copyField (by decide) single.1
  · exact (by decide : FitsField c64DeviceHostMax [])
  · exact fits_copyField (by decide) single.2
  · simp only [LegacySettings.Trimmed, LegacySettings.profile, Device.Trimmed, Device.texts,
      List.mem_cons, List.not_mem_nil, or_false, forall_eq_or_imp, forall_eq] at trimmed ⊢
    exact ⟨trimmedId, trimmed.2⟩

variable {registry : Registry} {load : LoadFindings} {save : SaveFindings}

theorem Registry.InStep.migrateLegacy (inStep : registry.InStep) (full : registry.LoadsFully load)
    {settings : LegacySettings} (pending : settings.migrated = false) (single : settings.Single)
    (trimmed : settings.Trimmed) (stores : save.Stores) (reload : LoadFindings) :
    registry.step (.migrateLegacy settings load reload save) = (registry.initLocked load).2 ∨
      (registry.perform (.migrateLegacy settings load reload save)).1 = true ∧
        (registry.step (.migrateLegacy settings load reload save)).InStep ∧
        (registry.step (.migrateLegacy settings load reload save)).initialized = true := by
  obtain ⟨inStepLoaded, loaded, -⟩ := inStep.after_init full
  simp only [Registry.step, Registry.perform, Registry.migrateLegacy, pending, Bool.false_eq_true,
    if_false]
  split_ifs
  · exact .inl rfl
  · exact .inl rfl
  · cases made : c64DeviceIdFromHost c64DeviceIdMax [] settings.c64Host with
    | none => exact .inl rfl
    | some id =>
      obtain ⟨fitsId, trimmedId⟩ := c64DeviceIdFromHost_kept (by decide) made
      obtain ⟨profileFits, profileTrimmed⟩ :=
        LegacySettings.profile_kept single trimmed fitsId trimmedId
      rcases inStepLoaded.upsert loaded profileFits profileTrimmed stores reload with
        ⟨failed, -⟩ | ⟨next, saved, nextInStep, nextLoaded⟩
      · exact .inl (by simp [failed])
      · exact .inr (by simp [saved, nextInStep, nextLoaded])

end Migrating

section Runs

/-- The texts that an operation brings fit their fields and hold no line break. -/
def RegistryOp.Fits : RegistryOp → Prop
  | .upsert device _ _ => device.Fits
  | .upsertDiscovered device _ _ _ _ => device.Fits
  | .migrateLegacy settings _ _ _ => settings.Single
  | .init _ | .delete _ _ | .cleanup => True

/-- A device that a registry is given ends none of its texts in white space, is stored when it is
written, and is not refused by a registry whose profiles were still to be loaded. -/
def Registry.Takes (registry : Registry) (device : Device) (load : LoadFindings)
    (save : SaveFindings) : Prop :=
  registry.LoadsFully load ∧ device.Trimmed ∧ save.Stores ∧
    (registry.initialized = true ∨ profilesOf registry.files = [] ∨ registry.Accepts device save)

/-- The condition on an operation: loading reads every profile, writing stores what is written, no
text ends in white space, and nothing fails behind the loading of profiles. -/
def Registry.Sound (registry : Registry) : RegistryOp → Prop
  | .init load => load.directory = true → registry.LoadsFully load
  | .upsert device load save => registry.Takes device load save
  | .upsertDiscovered device load _ save _ => registry.Takes device load save
  | .migrateLegacy settings load _ save =>
    settings.migrated = false →
      registry.LoadsFully load ∧ settings.Trimmed ∧ save.Stores ∧
        (registry.initialized = true ∨ profilesOf registry.files = [])
  | .delete _ _ | .cleanup => True

/-- An operation that reports failure leaves memory and directory as they were. -/
def Registry.FailureLeaves (registry : Registry) (op : RegistryOp) : Prop :=
  (registry.perform op).1 = false →
    (registry.step op).devices = registry.devices ∧ (registry.step op).files = registry.files

instance (settings : LegacySettings) : Decidable settings.Single :=
  inferInstanceAs (Decidable (_ ∧ _))

instance (settings : LegacySettings) : Decidable settings.Trimmed :=
  inferInstanceAs (Decidable (settings.profile []).Trimmed)

instance (save : SaveFindings) : Decidable save.Stores :=
  inferInstanceAs (Decidable (_ → _ → _ ∧ _))

instance (registry : Registry) (load : LoadFindings) : Decidable (registry.LoadsFully load) :=
  inferInstanceAs (Decidable (_ → _ ∧ _ ∧ ∀ file ∈ registry.files, load.opens file.name = true))

instance (registry : Registry) (device : Device) (save : SaveFindings) :
    Decidable (registry.Accepts device save) :=
  inferInstanceAs (Decidable ((_ ∧ _) ∧ (_ ∧ _) ∧ (_ ∨ _)))

instance (registry : Registry) (device : Device) (load : LoadFindings) (save : SaveFindings) :
    Decidable (registry.Takes device load save) :=
  inferInstanceAs (Decidable (_ ∧ _ ∧ _ ∧ (_ ∨ _ ∨ _)))

instance : (op : RegistryOp) → Decidable op.Fits
  | .upsert device _ _ => inferInstanceAs (Decidable device.Fits)
  | .upsertDiscovered device _ _ _ _ => inferInstanceAs (Decidable device.Fits)
  | .migrateLegacy settings _ _ _ => inferInstanceAs (Decidable settings.Single)
  | .init _ | .delete _ _ | .cleanup => inferInstanceAs (Decidable True)

instance (registry : Registry) : (op : RegistryOp) → Decidable (registry.Sound op)
  | .init load => inferInstanceAs (Decidable (_ → registry.LoadsFully load))
  | .upsert device load save => inferInstanceAs (Decidable (registry.Takes device load save))
  | .upsertDiscovered device load _ save _ =>
    inferInstanceAs (Decidable (registry.Takes device load save))
  | .migrateLegacy settings load _ save =>
    inferInstanceAs (Decidable (settings.migrated = false →
      registry.LoadsFully load ∧ settings.Trimmed ∧ save.Stores ∧
        (registry.initialized = true ∨ profilesOf registry.files = [])))
  | .delete _ _ | .cleanup => inferInstanceAs (Decidable True)

instance (registry : Registry) (op : RegistryOp) : Decidable (registry.FailureLeaves op) :=
  inferInstanceAs (Decidable (_ → _ ∧ _))

variable {registry : Registry}

theorem Registry.InStep.loads_nothing (inStep : registry.InStep) {load : LoadFindings}
    (full : registry.LoadsFully load)
    (nothing : registry.initialized = true ∨ profilesOf registry.files = []) :
    (registry.initLocked load).2.devices = registry.devices ∧
      (registry.initLocked load).2.files = registry.files := by
  obtain ⟨devices, loaded, profiles, same⟩ := inStep.init full
  rw [loaded]
  refine ⟨?_, rfl⟩
  cases initialized : registry.initialized with
  | true => exact same initialized
  | false =>
    rcases nothing with already | none
    · exact absurd (initialized.symm.trans already) (by simp)
    · rw [none] at profiles
      exact profiles.eq_nil.trans (inStep.unloaded initialized).symm

theorem Registry.InStep.step (inStep : registry.InStep) {op : RegistryOp} (fits : op.Fits)
    (sound : registry.Sound op) :
    (registry.step op).InStep ∧ registry.FailureLeaves op ∧
      ((registry.step op).initialized = false → (registry.step op).files = registry.files) := by
  cases op with
  | init load =>
    by_cases directory : load.directory = true
    · obtain ⟨next, loaded, files⟩ := inStep.after_init (sound directory)
      refine ⟨next, fun failed => ?_, fun _ => files⟩
      obtain ⟨devices, succeeded, -⟩ := inStep.init (sound directory)
      rw [Registry.perform, succeeded] at failed
      exact absurd failed (by simp)
    · -- Without the directory the registry is what it was.
      have same : registry.step (.init load) = registry := by
        simp only [Registry.step, Registry.perform, Registry.initLocked,
          Bool.eq_false_iff.mpr directory, Bool.not_false, if_true]
        split_ifs <;> rfl
      rw [Registry.FailureLeaves, same]
      exact ⟨inStep, fun _ => ⟨rfl, rfl⟩, fun _ => rfl⟩
  | upsert device load save =>
    obtain ⟨full, trimmed, stores, ready⟩ := sound
    obtain ⟨inStepLoaded, loaded, files⟩ := inStep.after_init full
    simp only [Registry.FailureLeaves, Registry.step, Registry.perform,
      Registry.upsertLocked_init loaded]
    rcases inStepLoaded.upsert loaded fits trimmed stores load with
      ⟨failed, refused⟩ | ⟨next, saved, nextInStep, nextLoaded⟩
    · rw [failed]
      refine ⟨inStepLoaded, fun _ => ?_, fun _ => files⟩
      refine inStep.loads_nothing full (ready.imp_right fun either => either.resolve_right ?_)
      unfold Registry.Accepts at refused ⊢
      rwa [files] at refused
    · rw [saved]
      exact ⟨nextInStep, by simp, by simp [nextLoaded]⟩
  | upsertDiscovered device load reload save removal =>
    obtain ⟨full, trimmed, stores, ready⟩ := sound
    obtain ⟨inStepLoaded, loaded, files⟩ := inStep.after_init full
    simp only [Registry.FailureLeaves, Registry.step, Registry.perform]
    rcases inStep.upsertDiscovered full fits trimmed stores reload removal with
      ⟨failed, refused⟩ | ⟨next, saved, nextInStep, nextLoaded⟩
    · rw [failed]
      refine ⟨inStepLoaded, fun _ => ?_, fun _ => files⟩
      exact inStep.loads_nothing full (ready.imp_right fun either => either.resolve_right refused)
    · rw [saved]
      exact ⟨nextInStep, by simp, by simp [nextLoaded]⟩
  | delete id removal =>
    simp only [Registry.FailureLeaves, Registry.step, Registry.perform]
    rcases inStep.delete id removal with stays | ⟨next, removed, nextInStep, nextLoaded⟩
    · rw [stays]
      exact ⟨inStep, fun _ => ⟨rfl, rfl⟩, fun _ => rfl⟩
    · rw [removed]
      exact ⟨nextInStep, by simp, by simp [nextLoaded]⟩
  | migrateLegacy settings load reload save =>
    cases migrated : settings.migrated with
    | true =>
      have same : registry.step (.migrateLegacy settings load reload save) = registry := by
        simp only [Registry.step, Registry.perform, Registry.migrateLegacy, migrated, if_true]
      rw [Registry.FailureLeaves, same]
      exact ⟨inStep, fun _ => ⟨rfl, rfl⟩, fun _ => rfl⟩
    | false =>
      obtain ⟨full, trimmed, stores, ready⟩ := sound migrated
      obtain ⟨inStepLoaded, loaded, files⟩ := inStep.after_init full
      rcases inStep.migrateLegacy full migrated fits trimmed stores reload with
        same | ⟨succeeded, nextInStep, nextLoaded⟩
      · rw [Registry.FailureLeaves, same]
        exact ⟨inStepLoaded, fun _ => inStep.loads_nothing full ready, fun _ => files⟩
      · refine ⟨nextInStep, fun failed => ?_, by simp [nextLoaded]⟩
        exact absurd (succeeded.symm.trans failed) (by simp)
  | cleanup => exact ⟨inStep.cleanup, by simp [Registry.FailureLeaves, Registry.perform],
      fun _ => rfl⟩

/-- A registry along a run, and the devices that its memory held when it was last loaded. -/
structure RegistryRun where
  registry : Registry
  held : List Device

/-- A run after an operation. -/
def RegistryRun.step (run : RegistryRun) (op : RegistryOp) : RegistryRun :=
  let registry := run.registry.step op
  { registry := registry, held := if registry.initialized then registry.devices else run.held }

/-- A directory with files that saving devices left, whole or cut short. -/
def WrittenFiles (files : List ProfileFile) : Prop :=
  (files.map ProfileFile.name).Nodup ∧
    ∀ file ∈ files, ∃ (device : Device) (stored : Nat), device.Fits ∧
      file = ⟨profileName device.id, device.render.take stored⟩

/-- The files of a directory are named after the ids that they hold, and memory has room for all. -/
def Recognised (files : List ProfileFile) : Prop :=
  (∀ file ∈ files, ∀ device ∈ file.device?, file.name = profileName device.id) ∧
    (profilesOf files).length ≤ c64DeviceMax

/-- A run that starts with a directory and nothing loaded. -/
def RegistryRun.start (files : List ProfileFile) : RegistryRun :=
  { registry := { files := files }, held := profilesOf files }

/-- The ids in memory are distinct and not too many, and forgetting the registry and loading it
again, in whatever order the directory is listed, gives the devices that memory held. -/
def RegistryRun.Agrees (run : RegistryRun) : Prop :=
  (run.registry.devices.map Device.id).Nodup ∧
    run.registry.devices.length ≤ c64DeviceMax ∧
    (run.registry.initialized = true → run.held = run.registry.devices) ∧
    ∀ place, (run.registry.cleanup.initLocked { place := place }).2.devices.Perm run.held

theorem WrittenFiles.orderly {files : List ProfileFile} (written : WrittenFiles files)
    (recognised : Recognised files) : Orderly files := by
  refine ⟨written.1, recognised.1, fun device within => ?_, recognised.2⟩
  obtain ⟨file, among, holds⟩ := List.mem_filterMap.mp within
  obtain ⟨source, stored, fits, rfl⟩ := written.2 file among
  have kept := readDevice_take fits stored
  simp only [ProfileFile.device?] at holds
  split_ifs at holds
  rwa [← Option.some.inj holds]

/-- The registry of a run is in step with its files, which hold what memory held. -/
structure RegistryRun.InStep (run : RegistryRun) : Prop where
  registry : run.registry.InStep
  held : run.held.Perm (profilesOf run.registry.files)
  current : run.registry.initialized = true → run.held = run.registry.devices

theorem RegistryRun.InStep.agrees {run : RegistryRun} (inStep : run.InStep) : run.Agrees := by
  refine ⟨inStep.registry.ids, inStep.registry.room, inStep.current, fun place => ?_⟩
  have full : run.registry.cleanup.LoadsFully { place := place } :=
    fun _ => ⟨rfl, rfl, fun _ _ => rfl⟩
  obtain ⟨devices, loaded, profiles, -⟩ := inStep.registry.cleanup.init full
  rw [loaded]
  exact profiles.trans inStep.held.symm

theorem RegistryRun.InStep.step {run : RegistryRun} (inStep : run.InStep) {op : RegistryOp}
    (fits : op.Fits) (sound : run.registry.Sound op) : (run.step op).InStep := by
  obtain ⟨next, -, kept⟩ := inStep.registry.step fits sound
  refine ⟨next, ?_, fun loaded => if_pos loaded⟩
  cases initialized : (run.registry.step op).initialized with
  | true =>
    simp only [RegistryRun.step, initialized, if_true]
    exact next.loaded initialized
  | false =>
    simp only [RegistryRun.step, initialized, Bool.false_eq_true, if_false]
    rw [kept initialized]
    exact inStep.held

/-- Over every run from a directory of written files, memory and files agree, and an operation that
reports failure leaves both as they were, as long as every operation meets the condition. -/
theorem registry_agreesWithFiles (files : List ProfileFile) (ops : List RegistryOp)
    (written : WrittenFiles files) (recognised : Recognised files)
    (each : EachStep RegistryRun.step (fun run op => op.Fits ∧ run.registry.Sound op)
      (RegistryRun.start files) ops) :
    Always RegistryRun.step RegistryRun.Agrees (RegistryRun.start files) ops ∧
      EachStep RegistryRun.step (fun run op => run.registry.FailureLeaves op)
        (RegistryRun.start files) ops := by
  have start : (RegistryRun.start files).InStep :=
    ⟨⟨written.orderly recognised, fun loaded => absurd loaded (by simp [RegistryRun.start]),
      fun _ => rfl⟩, List.Perm.refl _, fun loaded => absurd loaded (by simp [RegistryRun.start])⟩
  have inStep : Always RegistryRun.step RegistryRun.InStep (RegistryRun.start files) ops :=
    always_of_eachStep (fun run op inStep meets => inStep.step meets.1 meets.2) each start
  refine ⟨inStep.imp fun run inStep => inStep.agrees, ?_⟩
  -- A failure is looked at in the state before the step, which is in step.
  exact each.imp_of_always
    (fun run op inStep meets => (inStep.registry.step meets.1 meets.2).2.1) inStep

/-- A device that was migrated from its host. -/
def migratedDevice : Device :=
  { id := text "192-168-1-64", name := text "Default", host := text "192.168.1.64",
    videoPort := 11000, audioPort := 11001, controlPort := 64 }

/-- The device that a scan finds at the same host, under its own id. -/
def discoveredDevice : Device :=
  { id := text "5d4e12", host := text "192.168.1.64", peerHost := text "192.168.1.65" }

/-- A profile is migrated, discovered again, kept where a file does not open, and reloaded. -/
def registryOps : List RegistryOp :=
  [.init {}, .upsertDiscovered discoveredDevice {} {} {} {},
    .upsert { migratedDevice with name := text "Attic" } {} { opened := false },
    .upsert { migratedDevice with host := [] } {} {}, .cleanup, .delete (text "5d4e12") {},
    .init {}, .delete (text "5d4e12") { removed := false }, .delete (text "5d4e12") {},
    .migrateLegacy { c64Host := text "ultimate.local" } {} {} {}]

/-- Memory and files agree along such a run. -/
theorem registryOps_agreesWithFiles :
    Always RegistryRun.step RegistryRun.Agrees (RegistryRun.start [migratedDevice.file])
        registryOps ∧
      EachStep RegistryRun.step (fun run op => run.registry.FailureLeaves op)
        (RegistryRun.start [migratedDevice.file]) registryOps := by
  refine registry_agreesWithFiles [migratedDevice.file] registryOps ⟨by simp, ?_⟩ ?_
    (by decide +kernel)
  · intro file within
    refine ⟨migratedDevice, migratedDevice.render.length, by decide +kernel, ?_⟩
    rw [List.mem_singleton.mp within, List.take_length]
    rfl
  · refine ⟨fun file within device holds => ?_, by decide +kernel⟩
    rw [List.mem_singleton.mp within] at holds ⊢
    have found : migratedDevice.file.device? = some migratedDevice := by decide +kernel
    rw [Option.some.inj (holds.symm.trans found)]
    rfl

/-- A profile is saved, but closing its file fails, as on a full disk. -/
def closeFailedOps : List RegistryOp :=
  [.init {}, .upsert migratedDevice {} { closed := false }]

/-- A known profile is saved again, but writing into its emptied file fails. -/
def printFailedOps : List RegistryOp :=
  [.init {}, .upsert migratedDevice {} {}, .upsert migratedDevice {} { printed := false }]

/-- Where closing a file fails, the device in memory is not loaded again, and where writing fails,
the failure that is reported has emptied the file. -/
theorem lostWrites_not_agree :
    (WrittenFiles [] ∧ Recognised []) ∧
      (∀ op ∈ closeFailedOps ++ printFailedOps, op.Fits) ∧
      ¬Always RegistryRun.step RegistryRun.Agrees (RegistryRun.start []) closeFailedOps ∧
      ¬EachStep RegistryRun.step (fun run op => run.registry.FailureLeaves op)
        (RegistryRun.start []) printFailedOps := by
  refine ⟨⟨⟨by simp, by simp⟩, by simp, by decide⟩, by decide +kernel, fun always => ?_,
    by decide +kernel⟩
  have reloaded := (always.last.2.2.2 fun _ => 0).length_eq
  exact absurd reloaded (by decide +kernel)

end Runs

end C64Stream
