import C64Stream.Device.ScanResults
import C64Stream.Device.UpsertLaws

/-! When the profiles do not depend on the order in which the threads of a scan came to an end. -/

namespace C64Stream

section Conditions

variable (job : ScanJob) (registry : Registry) (findings : ScanFindings)

/-- The results at the host of each device that was asked first. -/
def ScanJob.winners : List ScanResult :=
  job.results.filter fun result => !job.superseded result

/-- The results come from different hosts, and their texts fit the fields of a device. -/
structure ScanJob.Collected : Prop where
  indexes : (job.results.map ScanResult.hostIndex).Nodup
  hosts : (job.results.map fun result => result.device.host).Nodup
  addressed : ∀ result ∈ job.results, result.device.Addressed

/-- Whether saving a device gets to its file. -/
def ScanFindings.opens (device : Device) : Bool :=
  device.opens (findings.save device.id)

/-- Whether saving a device succeeds. -/
def ScanFindings.saves (device : Device) : Bool :=
  device.saves (findings.save device.id)

/-- Whether a device can be saved and is known already, or finds a free place. -/
def Registry.admits (device : Device) : Bool :=
  findings.saves device &&
    (decide (registry.under device.id ≠ []) || decide (registry.devices.length < c64DeviceMax))

/-- Whether a device takes the place of an older profile, made from its host. -/
def Registry.renews (device : Device) : Bool :=
  registry.replaces device (findings.removal device.id)

/-- Whether a device takes up one more place. -/
def Registry.grows (device : Device) : Bool :=
  registry.admits findings device && decide (registry.under device.id = []) &&
    !registry.renews findings device

/-- No two devices that are taken over share a profile. -/
def ScanJob.Apart : Prop :=
  ∀ first ∈ job.winners, ∀ second ∈ job.winners,
    registry.admits findings second.device = true →
    (registry.profileFor second.device).2 ≠ [] →
    (findings.opens first.device = true →
      first.device.id ≠ (registry.profileFor second.device).2) ∧
    (registry.admits findings first.device = true → first ≠ second →
      (registry.profileFor first.device).2 ≠ (registry.profileFor second.device).2)

instance : Decidable (job.Apart registry findings) :=
  inferInstanceAs (Decidable (∀ first ∈ job.winners, ∀ second ∈ job.winners, _ → _ → _ ∧ _))

/-- No device that is taken over answered at more than two hosts. -/
def ScanJob.TwoAddresses : Prop :=
  ∀ result ∈ job.winners, registry.admits findings result.device = true →
    (job.results.filter (·.device.id = result.device.id)).length ≤ 2

instance : Decidable (job.TwoAddresses registry findings) :=
  inferInstanceAs (Decidable (∀ result ∈ job.winners, _ → _))

/-- A device with a new id finds a free place also after all the others. -/
def ScanJob.HasRoom : Prop :=
  ∀ result ∈ job.winners, registry.admits findings result.device = true →
    registry.under result.device.id = [] →
    registry.devices.length +
      (job.winners.filter fun other =>
        decide (other ≠ result) && registry.grows findings other.device).length < c64DeviceMax

instance : Decidable (job.HasRoom registry findings) :=
  inferInstanceAs (Decidable (∀ result ∈ job.winners, _ → _ → _))

/-- A job with its results in another order. -/
def ScanJob.reordered (order : List ScanResult) : ScanJob :=
  { job with results := order }

/-- The order of the results makes no difference to what they lead to. -/
def ScanJob.SameOutcomes : Prop :=
  ∀ order, order.Perm job.results →
    let outcome := (job.reordered order).applyScanResults registry findings
    let given := job.applyScanResults registry findings
    outcome.registry.devices.Perm given.registry.devices ∧
      outcome.autoSelectDeviceId = given.autoSelectDeviceId ∧
      outcome.selectedDeviceConfirmed = given.selectedDeviceConfirmed

/-- In every order, a device gets the host that was asked first and keeps its settings. -/
def ScanJob.Carries : Prop :=
  ∀ order, order.Perm job.results →
    ∀ result ∈ job.winners,
      (registry.initLocked findings.load).2.admits findings result.device = true →
      ∃ peerHost,
        (registry.initLocked findings.load).2.entryFor { result.device with peerHost := peerHost }
          ∈ ((job.reordered order).applyScanResults registry findings).registry.devices

/-- What becomes of the profiles and the selection does not depend on the threads. -/
def ScanJob.OrderFree : Prop :=
  job.SameOutcomes registry findings ∧ job.Carries registry findings

end Conditions

section Progress

variable {job : ScanJob} {registry : Registry} {findings : ScanFindings}
  {done kept : List ScanResult} {outcome : ScanOutcome}

@[simp] theorem ScanJob.withPeer_id (job : ScanJob) (device : Device) :
    (job.withPeer device).id = device.id := by
  unfold ScanJob.withPeer
  split <;> rfl

@[simp] theorem ScanJob.withPeer_host (job : ScanJob) (device : Device) :
    (job.withPeer device).host = device.host := by
  unfold ScanJob.withPeer
  split <;> rfl

/-- The profile that a result leads to. -/
def ScanJob.entry (job : ScanJob) (registry : Registry) (result : ScanResult) : Device :=
  registry.entryFor (job.withPeer result.device)

/-- Where the run over the winners stands, those that were taken over being kept. -/
structure ScanProgress (job : ScanJob) (registry : Registry) (findings : ScanFindings)
    (done kept : List ScanResult) (outcome : ScanOutcome) : Prop where
  ready : outcome.registry.Ready findings.load
  within : ∀ result ∈ kept, result ∈ done ∧ registry.admits findings result.device = true
  count : outcome.appliedCount = kept.length
  sole : outcome.soleDeviceId
    = (kept.getLast?.elim [] fun result => copyField c64DeviceIdMax result.device.id)
  size : outcome.registry.devices.length = min c64DeviceMax
    (registry.devices.length + (done.filter fun result =>
      registry.grows findings result.device).length)
  put : ∀ result ∈ kept, outcome.registry.under result.device.id
    = job.entry registry result :: (registry.under result.device.id).tail
  dropped : ∀ result ∈ kept, registry.renews findings result.device = true →
    outcome.registry.under (registry.profileFor result.device).2
      = (registry.under (registry.profileFor result.device).2).tail
  rest : ∀ id, (∀ result ∈ kept, result.device.id ≠ id ∧
      (registry.renews findings result.device = true →
        (registry.profileFor result.device).2 ≠ id)) →
    outcome.registry.under id = registry.under id
  files : ∀ id, (∀ result ∈ done, findings.opens result.device = true → result.device.id ≠ id) →
    (∀ result ∈ kept, registry.renews findings result.device = true →
      (registry.profileFor result.device).2 ≠ id) →
    hasFile outcome.registry.files (profileName id) = hasFile registry.files (profileName id)

end Progress

section Steps

variable {job : ScanJob} {registry : Registry} {findings : ScanFindings}
  {done kept : List ScanResult} {outcome : ScanOutcome} {result : ScanResult} {other : ScanResult}
  {device : Device}

theorem ScanJob.mem_results (winner : result ∈ job.winners) : result ∈ job.results :=
  (List.mem_filter.mp winner).1

theorem ScanJob.winner_first (winner : result ∈ job.winners) (among : other ∈ job.results)
    (same : other.device.id = result.device.id) :
    result.hostIndex ≤ other.hostIndex := by
  have unbeaten := (List.mem_filter.mp winner).2
  simp only [ScanJob.superseded, Bool.not_eq_true', List.any_eq_false] at unbeaten
  have := unbeaten other among
  simp only [same, BEq.rfl, Bool.true_and, decide_eq_true_eq] at this
  omega

theorem ScanJob.Collected.winner_ids (collected : job.Collected) (winner : result ∈ job.winners)
    (otherWinner : other ∈ job.winners) (differ : other ≠ result) :
    other.device.id ≠ result.device.id := by
  intro same
  -- Each of the two would come first, so that they were at one place.
  have low := ScanJob.winner_first winner (ScanJob.mem_results otherWinner) same
  have high := ScanJob.winner_first otherWinner (ScanJob.mem_results winner) same.symm
  exact differ (List.inj_on_of_nodup_map collected.indexes (ScanJob.mem_results otherWinner)
    (ScanJob.mem_results winner) (Nat.le_antisymm high low))

theorem ScanJob.Collected.result_hosts (collected : job.Collected) (among : result ∈ job.results)
    (otherAmong : other ∈ job.results) (differ : other ≠ result) :
    other.device.host ≠ result.device.host :=
  fun same => differ (List.inj_on_of_nodup_map collected.hosts otherAmong among same)

theorem ScanJob.Collected.addressed_peer (collected : job.Collected)
    (among : result ∈ job.results) : (job.withPeer result.device).Addressed := by
  have fits := collected.addressed result among
  exact ⟨by simpa using fits.1, by simpa using fits.2⟩

theorem Registry.saves_of_admits (admitted : registry.admits findings device = true) :
    findings.saves device = true :=
  (Bool.and_eq_true_iff.mp admitted).1

theorem ScanFindings.opens_of_saves (saved : findings.saves device = true) :
    findings.opens device = true :=
  (Bool.and_eq_true_iff.mp saved).1

theorem Registry.legacy_of_renews (renewed : registry.renews findings device = true) :
    (registry.profileFor device).2 ≠ [] := by
  have := (Bool.and_eq_true_iff.mp renewed).1
  simpa using this

theorem Registry.under_legacy (older : (registry.profileFor device).2 ≠ []) :
    registry.under (registry.profileFor device).2 ≠ [] := by
  obtain ⟨-, -, profile, found⟩ := Registry.profileFor_legacy older
  intro empty
  rw [empty] at found
  exact absurd found (by simp)

theorem ScanProgress.under_mem (progress : ScanProgress job registry findings done kept outcome)
    {id : Text} {profile : Device} (within : profile ∈ outcome.registry.under id) :
    profile ∈ registry.under id ∨
      ∃ other ∈ kept, other.device.id = id ∧ profile = job.entry registry other := by
  by_cases touched : ∃ other ∈ kept, other.device.id = id
  · obtain ⟨other, among, rfl⟩ := touched
    rw [progress.put other among] at within
    rcases List.mem_cons.mp within with new | old
    · exact .inr ⟨other, among, rfl, new⟩
    · exact .inl (List.mem_of_mem_tail old)
  by_cases gone : ∃ other ∈ kept, registry.renews findings other.device = true ∧
      (registry.profileFor other.device).2 = id
  · obtain ⟨other, among, renewed, rfl⟩ := gone
    rw [progress.dropped other among renewed] at within
    exact .inl (List.mem_of_mem_tail within)
  · -- No winner has touched the id.
    have untouched := progress.rest id fun other among =>
      ⟨fun same => touched ⟨other, among, same⟩,
        fun renewed same => gone ⟨other, among, renewed, same⟩⟩
    exact .inl (untouched ▸ within)

variable (collected : job.Collected)
  (progress : ScanProgress job registry findings done kept outcome)
  (winners : ∀ other ∈ done, other ∈ job.winners) (winner : result ∈ job.winners)
  (fresh : result ∉ done) (apart : job.Apart registry findings)

include collected progress winners winner fresh

theorem ScanProgress.others : ∀ other ∈ kept, other ∈ job.winners ∧
    registry.admits findings other.device = true ∧ other ≠ result ∧
    other.device.id ≠ result.device.id := by
  intro other among
  obtain ⟨before, admitted⟩ := progress.within other among
  have differ : other ≠ result := fun same => fresh (same ▸ before)
  exact ⟨winners other before, admitted, differ,
    collected.winner_ids winner (winners other before) differ⟩

theorem ScanProgress.host_absent {id : Text}
    (absent : (registry.under id).find? (·.host == result.device.host) = none) :
    (outcome.registry.under id).find? (·.host == result.device.host) = none := by
  rw [List.find?_eq_none] at absent ⊢
  intro profile within
  rcases progress.under_mem within with old | ⟨other, among, -, rfl⟩
  · exact absent profile old
  · -- The profile of another winner has the host of that one.
    obtain ⟨isWinner, -, differ, -⟩ := progress.others collected winners winner fresh other among
    have inside := ScanJob.mem_results isWinner
    rw [ScanJob.entry, Registry.entryFor_host (collected.addressed_peer inside),
      ScanJob.withPeer_host]
    have := collected.result_hosts (ScanJob.mem_results winner) inside differ
    simpa using this

include apart

theorem ScanProgress.id_untouched (saved : findings.saves result.device = true) :
    ∀ other ∈ kept, other.device.id ≠ result.device.id ∧
      (registry.renews findings other.device = true →
        (registry.profileFor other.device).2 ≠ result.device.id) := by
  intro other among
  obtain ⟨isWinner, admitted, -, differ⟩ :=
    progress.others collected winners winner fresh other among
  refine ⟨differ, fun renewed same => ?_⟩
  -- An older profile of another device would be one of this device.
  have older := Registry.legacy_of_renews renewed
  exact (apart result winner other isWinner admitted older).1
    (ScanFindings.opens_of_saves saved) same.symm

theorem ScanProgress.under_id (saved : findings.saves result.device = true) :
    outcome.registry.under result.device.id = registry.under result.device.id :=
  progress.rest _ (progress.id_untouched collected winners winner fresh apart saved)

theorem ScanProgress.legacy_untouched (admitted : registry.admits findings result.device = true)
    (older : (registry.profileFor result.device).2 ≠ []) :
    ∀ other ∈ kept, other.device.id ≠ (registry.profileFor result.device).2 ∧
      (registry.renews findings other.device = true →
        (registry.profileFor other.device).2 ≠ (registry.profileFor result.device).2) := by
  intro other among
  obtain ⟨isWinner, otherAdmitted, differ, -⟩ :=
    progress.others collected winners winner fresh other among
  obtain ⟨ids, legacies⟩ := apart other isWinner result winner admitted older
  exact ⟨ids (ScanFindings.opens_of_saves (Registry.saves_of_admits otherAdmitted)),
    fun _ => legacies otherAdmitted differ⟩

theorem ScanProgress.profileFor (admitted : registry.admits findings result.device = true) :
    outcome.registry.profileFor result.device = registry.profileFor result.device := by
  have own := progress.under_id collected winners winner fresh apart
    (Registry.saves_of_admits admitted)
  by_cases new : registry.under result.device.id = []
  · refine Registry.profileFor_agrees (own.trans new) new fun legacyId made => ?_
    cases found : (registry.under legacyId).find? (·.host == result.device.host) with
    | none => exact progress.host_absent collected winners winner fresh found
    | some profile =>
      -- The profile of the host is the older one, which is where it was.
      have older := Registry.profileFor_found new made found
      have same := progress.rest _ (progress.legacy_untouched collected winners winner fresh apart
        admitted (by rw [older]; exact c64DeviceIdFromHost_solid made))
      rw [older] at same
      rw [same, found]
  · obtain ⟨profile, rest, under⟩ := List.exists_cons_of_ne_nil new
    rw [Registry.profileFor_known under, Registry.profileFor_known (own.trans under)]

theorem ScanProgress.renews (admitted : registry.admits findings result.device = true) :
    outcome.registry.renews findings result.device = registry.renews findings result.device := by
  unfold Registry.renews Registry.replaces Registry.removes
  rw [progress.profileFor collected winners winner fresh apart admitted]
  by_cases older : (registry.profileFor result.device).2 = []
  · simp [older]
  · -- The file of the older profile is neither written nor removed by another device.
    have file := progress.files (registry.profileFor result.device).2
      (fun other before opened =>
        (apart other (winners other before) result winner admitted older).1 opened)
      (fun other among =>
        (progress.legacy_untouched collected winners winner fresh apart admitted older
          other among).2)
    rw [file]

end Steps

section Rounds

variable {job : ScanJob} {registry : Registry} {findings : ScanFindings}
  {done kept : List ScanResult} {outcome : ScanOutcome} {result : ScanResult}

theorem ScanJob.withPeer_opens (job : ScanJob) (device : Device) (save : SaveFindings) :
    (job.withPeer device).opens save = device.opens save := by
  simp [Device.opens]

theorem ScanJob.withPeer_profileFor (job : ScanJob) (registry : Registry) (device : Device) :
    registry.profileFor (job.withPeer device) = registry.profileFor device :=
  Registry.profileFor_eq (job.withPeer_id device) (job.withPeer_host device)

theorem ScanJob.applyResult_winner (winner : result ∈ job.winners) {applied : Bool}
    {next : Registry}
    (upsert : outcome.registry.upsertDiscovered (job.withPeer result.device) findings.load
      findings.load (findings.save result.device.id) (findings.removal result.device.id)
        = (applied, next)) :
    (job.applyResult findings outcome result).registry = next ∧
      (job.applyResult findings outcome result).appliedCount
        = (if applied then outcome.appliedCount + 1 else outcome.appliedCount) ∧
      (job.applyResult findings outcome result).soleDeviceId
        = if applied then copyField c64DeviceIdMax result.device.id else outcome.soleDeviceId := by
  have unbeaten : job.superseded result = false := by
    simpa using (List.mem_filter.mp winner).2
  unfold ScanJob.applyResult
  simp only [unbeaten, ScanJob.withPeer_id, upsert]
  simp

/-- The number of winners that have taken up a place. -/
def Registry.grown (registry : Registry) (findings : ScanFindings) (done : List ScanResult) : Nat :=
  (done.filter fun result => registry.grows findings result.device).length

theorem Registry.grown_snoc (registry : Registry) (findings : ScanFindings)
    (done : List ScanResult) (result : ScanResult) :
    registry.grown findings (done ++ [result])
      = registry.grown findings done + (registry.grows findings result.device).toNat := by
  unfold Registry.grown
  rw [List.filter_append, List.length_append]
  cases grows : registry.grows findings result.device <;> simp [grows]

theorem ScanProgress.size_grown (progress : ScanProgress job registry findings done kept outcome) :
    outcome.registry.devices.length
      = min c64DeviceMax (registry.devices.length + registry.grown findings done) :=
  progress.size

variable (collected : job.Collected)
  (progress : ScanProgress job registry findings done kept outcome)
  (winners : ∀ other ∈ done, other ∈ job.winners) (winner : result ∈ job.winners)
  (fresh : result ∉ done) (apart : job.Apart registry findings)

include collected progress winners winner fresh apart

theorem ScanProgress.refused (refused : findings.saves result.device = false ∨
      (registry.under result.device.id = [] ∧
        c64DeviceMax ≤ registry.devices.length + registry.grown findings done)) :
    ScanProgress job registry findings (done ++ [result]) kept
      (job.applyResult findings outcome result) := by
  have addressed := collected.addressed_peer (ScanJob.mem_results winner)
  -- Whether the device is new and whether there is room are seen on the way as well.
  have refusedNow : (job.withPeer result.device).saves (findings.save result.device.id) = false ∨
      (outcome.registry.under (job.withPeer result.device).id = [] ∧
        outcome.registry.devices.length = c64DeviceMax) := by
    by_cases saved : findings.saves result.device = true
    · obtain ⟨new, full⟩ := refused.resolve_left (by simp [saved])
      refine .inr ⟨?_, ?_⟩
      · rw [ScanJob.withPeer_id, progress.under_id collected winners winner fresh apart saved, new]
      · rw [progress.size_grown]
        omega
    · left
      rw [Device.saves, ScanJob.withPeer_opens]
      simpa [ScanFindings.saves, Device.saves] using saved
  obtain ⟨files, upsert, same⟩ := Registry.upsertDiscovered_refused
    (findings.removal result.device.id) progress.ready addressed refusedNow
  obtain ⟨next, applied, sole⟩ := ScanJob.applyResult_winner winner upsert
  refine ⟨?_, ?_, ?_, ?_, ?_, ?_, ?_, ?_, ?_⟩
  · rw [next]
    exact progress.ready
  · intro other among
    obtain ⟨before, admitted⟩ := progress.within other among
    exact ⟨List.mem_append_left _ before, admitted⟩
  · rw [applied]
    exact progress.count
  · rw [sole]
    exact progress.sole
  · rw [next]
    change outcome.registry.devices.length = min c64DeviceMax
      (registry.devices.length + registry.grown findings (done ++ [result]))
    rw [progress.size_grown, Registry.grown_snoc]
    -- The winner takes up no place unless all of them are taken.
    rcases refused with unsaved | ⟨-, full⟩
    · have small : registry.grows findings result.device = false := by
        simp [Registry.grows, Registry.admits, unsaved]
      simp [small]
    · omega
  · rw [next]
    exact progress.put
  · rw [next]
    exact progress.dropped
  · rw [next]
    exact progress.rest
  · intro id opened older
    rw [next]
    refine (same (profileName id) fun opens clash => ?_).trans (progress.files id
      (fun other before => opened other (List.mem_append_left _ before)) older)
    rw [ScanJob.withPeer_opens] at opens
    rw [ScanJob.withPeer_id] at clash
    exact opened result (by simp) opens (profileName_injective clash).symm

theorem ScanProgress.taken_under (admitted : registry.admits findings result.device = true)
    {devices : List Device}
    (after : devices =
      if registry.renews findings result.device then
        dropKey Device.id (registry.profileFor result.device).2
          (putKey Device.id (job.entry registry result) outcome.registry.devices)
      else putKey Device.id (job.entry registry result) outcome.registry.devices) :
    underKey Device.id result.device.id devices
        = job.entry registry result :: (registry.under result.device.id).tail ∧
      (registry.renews findings result.device = true →
        underKey Device.id (registry.profileFor result.device).2 devices
          = (registry.under (registry.profileFor result.device).2).tail) ∧
      ∀ id, result.device.id ≠ id →
        (registry.renews findings result.device = true →
          (registry.profileFor result.device).2 ≠ id) →
        underKey Device.id id devices = outcome.registry.under id := by
  have addressed := collected.addressed_peer (ScanJob.mem_results winner)
  have entryId : (job.entry registry result).id = result.device.id := by
    rw [ScanJob.entry, Registry.entryFor_id addressed, ScanJob.withPeer_id]
  have own := progress.under_id collected winners winner fresh apart
    (Registry.saves_of_admits admitted)
  have put : underKey Device.id result.device.id
      (putKey Device.id (job.entry registry result) outcome.registry.devices)
        = job.entry registry result :: (registry.under result.device.id).tail := by
    have same := underKey_put_same Device.id (job.entry registry result)
      outcome.registry.devices
    rw [entryId] at same
    rw [same, ← own]
    rfl
  have others : ∀ id, result.device.id ≠ id → underKey Device.id id
      (putKey Device.id (job.entry registry result) outcome.registry.devices)
        = outcome.registry.under id :=
    fun id differ => underKey_put_other (by rwa [entryId]) _
  by_cases renewed : registry.renews findings result.device = true
  · rw [if_pos renewed] at after
    have older := Registry.legacy_of_renews renewed
    obtain ⟨new, -⟩ := Registry.profileFor_legacy older
    -- The older profile is under another id than the device.
    have differ : (registry.profileFor result.device).2 ≠ result.device.id := by
      intro same
      have known := Registry.under_legacy older
      rw [same] at known
      exact known new
    have still := progress.rest _
      (progress.legacy_untouched collected winners winner fresh apart admitted older)
    refine ⟨?_, fun _ => ?_, fun id apartId away => ?_⟩
    · rw [after, underKey_drop_other differ, put]
    · rw [after, underKey_drop_same, others _ differ.symm, still]
    · rw [after, underKey_drop_other (away renewed), others id apartId]
  · rw [if_neg renewed] at after
    refine ⟨after ▸ put, fun renews => absurd renews renewed, fun id apartId _ => ?_⟩
    rw [after, others id apartId]

theorem ScanProgress.taken_length (admitted : registry.admits findings result.device = true)
    (room : registry.under result.device.id ≠ [] ∨
      registry.devices.length + registry.grown findings done < c64DeviceMax)
    {devices : List Device}
    (after : devices =
      if registry.renews findings result.device then
        dropKey Device.id (registry.profileFor result.device).2
          (putKey Device.id (job.entry registry result) outcome.registry.devices)
      else putKey Device.id (job.entry registry result) outcome.registry.devices) :
    devices.length = min c64DeviceMax
      (registry.devices.length + registry.grown findings (done ++ [result])) := by
  have addressed := collected.addressed_peer (ScanJob.mem_results winner)
  have entryId : (job.entry registry result).id = result.device.id := by
    rw [ScanJob.entry, Registry.entryFor_id addressed, ScanJob.withPeer_id]
  have own := progress.under_id collected winners winner fresh apart
    (Registry.saves_of_admits admitted)
  have size := progress.size_grown
  rw [Registry.grown_snoc]
  by_cases new : registry.under result.device.id = []
  · -- A new device takes up a place, which an older profile may leave to it.
    have free := room.resolve_left (not_not.mpr new)
    have longer : (putKey Device.id (job.entry registry result) outcome.registry.devices).length
        = outcome.registry.devices.length + 1 :=
      putKey_length_new Device.id (by rw [entryId]; exact own.trans new)
    by_cases renewed : registry.renews findings result.device = true
    · have grows : registry.grows findings result.device = false := by
        simp [Registry.grows, renewed]
      have older := Registry.legacy_of_renews renewed
      have still := progress.rest _
        (progress.legacy_untouched collected winners winner fresh apart admitted older)
      have differ : result.device.id ≠ (registry.profileFor result.device).2 := by
        intro same
        exact Registry.under_legacy older (same ▸ new)
      have known : underKey Device.id (registry.profileFor result.device).2
          (putKey Device.id (job.entry registry result) outcome.registry.devices) ≠ [] := by
        rw [underKey_put_other (by rwa [entryId])]
        exact fun empty => Registry.under_legacy older (still.symm.trans empty)
      rw [after, if_pos renewed, dropKey_length known, longer, grows, Bool.toNat_false]
      omega
    · have grows : registry.grows findings result.device = true := by
        simp [Registry.grows, admitted, new, renewed]
      rw [after, if_neg renewed, longer, grows, Bool.toNat_true]
      omega
  · -- A device that is known stays in its place.
    have grows : registry.grows findings result.device = false := by
      simp [Registry.grows, new]
    have stays : ¬registry.renews findings result.device = true := by
      intro renewed
      exact new (Registry.profileFor_legacy (Registry.legacy_of_renews renewed)).1
    have known :
        underKey Device.id (job.entry registry result).id outcome.registry.devices ≠ [] := by
      rw [entryId]
      exact fun empty => new (own.symm.trans empty)
    rw [after, if_neg stays, putKey_length_known known, size,
      grows, Bool.toNat_false, Nat.add_zero]

theorem ScanProgress.taken (saved : findings.saves result.device = true)
    (room : registry.under result.device.id ≠ [] ∨
      registry.devices.length + registry.grown findings done < c64DeviceMax) :
    ScanProgress job registry findings (done ++ [result]) (kept ++ [result])
      (job.applyResult findings outcome result) := by
  have addressed := collected.addressed_peer (ScanJob.mem_results winner)
  have admitted : registry.admits findings result.device = true := by
    rw [Registry.admits, saved, Bool.true_and, Bool.or_eq_true, decide_eq_true_eq,
      decide_eq_true_eq]
    exact room.imp_right fun free => by omega
  have savedNow : (job.withPeer result.device).saves (findings.save result.device.id) = true := by
    rw [Device.saves, ScanJob.withPeer_opens]
    exact saved
  have own := progress.under_id collected winners winner fresh apart saved
  have roomNow : outcome.registry.under (job.withPeer result.device).id ≠ [] ∨
      outcome.registry.devices.length ≠ c64DeviceMax := by
    rw [ScanJob.withPeer_id, own, progress.size_grown]
    exact room.imp_right fun free => by omega
  obtain ⟨files, upsert, same⟩ := Registry.upsertDiscovered_taken
    (findings.removal result.device.id) progress.ready addressed savedNow roomNow
  obtain ⟨next, applied, sole⟩ := ScanJob.applyResult_winner winner upsert
  -- The profile, the older one and its removal are those of the start.
  have profile := progress.profileFor collected winners winner fresh apart admitted
  have entry : outcome.registry.entryFor (job.withPeer result.device)
      = job.entry registry result := by
    rw [ScanJob.entry, Registry.entryFor, Registry.entryFor, ScanJob.withPeer_profileFor,
      ScanJob.withPeer_profileFor, profile]
  have renews : outcome.registry.replaces (job.withPeer result.device)
      (findings.removal result.device.id) = registry.renews findings result.device := by
    rw [← progress.renews collected winners winner fresh apart admitted, Registry.renews,
      Registry.replaces, Registry.replaces, ScanJob.withPeer_profileFor]
  rw [entry, renews, ScanJob.withPeer_profileFor, profile] at next
  rw [renews, ScanJob.withPeer_profileFor, profile] at same
  obtain ⟨put, dropped, rest⟩ :=
    progress.taken_under collected winners winner fresh apart admitted rfl
  have size := progress.taken_length collected winners winner fresh apart admitted room rfl
  have others := progress.others collected winners winner fresh
  refine ⟨?_, ?_, ?_, ?_, ?_, ?_, ?_, ?_, ?_⟩
  · rw [next]
    exact progress.ready
  · intro other among
    rcases List.mem_append.mp among with before | now
    · exact ⟨List.mem_append_left _ (progress.within other before).1,
        (progress.within other before).2⟩
    · rw [List.mem_singleton.mp now]
      exact ⟨by simp, admitted⟩
  · rw [applied, if_pos rfl, progress.count, List.length_append, List.length_singleton]
  · rw [sole, if_pos rfl]
    simp
  · rw [next]
    exact size
  · rw [next]
    intro other among
    rcases List.mem_append.mp among with before | now
    · obtain ⟨isWinner, otherAdmitted, -, differ⟩ := others other before
      refine (rest other.device.id differ.symm fun renewed clash => ?_).trans
        (progress.put other before)
      -- The older profile of the winner is not that of a device that was taken over.
      exact (progress.legacy_untouched collected winners winner fresh apart admitted
        (Registry.legacy_of_renews renewed) other before).1 clash.symm
    · rw [List.mem_singleton.mp now]
      exact put
  · rw [next]
    intro other among renewed
    rcases List.mem_append.mp among with before | now
    · obtain ⟨isWinner, otherAdmitted, differ, -⟩ := others other before
      obtain ⟨ids, legacies⟩ := apart result winner other isWinner otherAdmitted
        (Registry.legacy_of_renews renewed)
      exact (rest _ (ids (ScanFindings.opens_of_saves saved)) fun _ =>
        legacies admitted differ.symm).trans (progress.dropped other before renewed)
    · rw [List.mem_singleton.mp now] at renewed ⊢
      exact dropped renewed
  · rw [next]
    intro id away
    obtain ⟨differ, awayOlder⟩ := away result (by simp)
    exact (rest id differ awayOlder).trans
      (progress.rest id fun other among => away other (List.mem_append_left _ among))
  · intro id opened older
    rw [next]
    refine (same (profileName id) (fun opens clash => ?_) (fun renewed clash => ?_)).trans
      (progress.files id (fun other before => opened other (List.mem_append_left _ before))
        fun other among => older other (List.mem_append_left _ among))
    · rw [ScanJob.withPeer_opens] at opens
      rw [ScanJob.withPeer_id] at clash
      exact opened result (by simp) opens (profileName_injective clash).symm
    · exact older result (by simp) renewed (profileName_injective clash).symm

end Rounds

section Runs

variable {job : ScanJob} {registry : Registry} {findings : ScanFindings}
  {done kept : List ScanResult} {outcome : ScanOutcome} {result : ScanResult}

theorem ScanJob.applyResult_superseded (beaten : job.superseded result = true) :
    job.applyResult findings outcome result =
      { outcome with
        hostMatchedDeviceId :=
          (job.applyResult findings outcome result).hostMatchedDeviceId } := by
  unfold ScanJob.applyResult
  simp [beaten]

theorem ScanProgress.skip (progress : ScanProgress job registry findings done kept outcome)
    (beaten : job.superseded result = true) :
    ScanProgress job registry findings done kept (job.applyResult findings outcome result) := by
  rw [ScanJob.applyResult_superseded beaten]
  exact ⟨progress.ready, progress.within, progress.count, progress.sole, progress.size,
    progress.put, progress.dropped, progress.rest, progress.files⟩

theorem ScanJob.HasRoom.free (room : job.HasRoom registry findings) (distinct : done.Nodup)
    (winners : ∀ other ∈ done, other ∈ job.winners) (winner : result ∈ job.winners)
    (fresh : result ∉ done) (admitted : registry.admits findings result.device = true)
    (new : registry.under result.device.id = []) :
    registry.devices.length + registry.grown findings done < c64DeviceMax := by
  refine lt_of_le_of_lt (Nat.add_le_add_left ?_ _) (room result winner admitted new)
  refine (List.subperm_of_subset (distinct.filter _) fun other among => ?_).length_le
  obtain ⟨before, grows⟩ := List.mem_filter.mp among
  rw [List.mem_filter, Bool.and_eq_true, decide_eq_true_eq]
  exact ⟨winners other before, fun same => fresh (same ▸ before), grows⟩

theorem ScanProgress.run (collected : job.Collected) (apart : job.Apart registry findings)
    (pending : List ScanResult) (among : ∀ other ∈ pending, other ∈ job.results)
    (distinct : pending.Nodup) (progress : ScanProgress job registry findings done kept outcome)
    (winners : ∀ other ∈ done, other ∈ job.winners) (doneDistinct : done.Nodup)
    (fresh : ∀ other ∈ pending, other ∉ done) :
    ∃ more, ScanProgress job registry findings
        (done ++ pending.filter fun result => !job.superseded result) (kept ++ more)
        (pending.foldl (job.applyResult findings) outcome) ∧
      (job.HasRoom registry findings → more =
        (pending.filter fun result => !job.superseded result).filter fun result =>
          registry.admits findings result.device) := by
  induction pending generalizing done kept outcome with
  | nil => exact ⟨[], by simpa using progress, fun _ => rfl⟩
  | cons result rest ih =>
    rw [List.nodup_cons] at distinct
    have restAmong : ∀ other ∈ rest, other ∈ job.results :=
      fun other inside => among other (List.mem_cons_of_mem _ inside)
    cases beaten : job.superseded result with
    | true =>
      -- A result that is superseded is passed by.
      obtain ⟨more, after, all⟩ := ih restAmong distinct.2 (progress.skip beaten) winners
        doneDistinct fun other inside => fresh other (List.mem_cons_of_mem _ inside)
      exact ⟨more, by simpa [beaten] using after, by simpa [beaten] using all⟩
    | false =>
      have winner : result ∈ job.winners :=
        List.mem_filter.mpr ⟨among result List.mem_cons_self, by simp [beaten]⟩
      have new := fresh result List.mem_cons_self
      have winnersNow : ∀ other ∈ done ++ [result], other ∈ job.winners := by
        intro other inside
        rcases List.mem_append.mp inside with before | now
        · exact winners other before
        · exact List.mem_singleton.mp now ▸ winner
      have distinctNow : (done ++ [result]).Nodup := by
        rw [List.nodup_append]
        refine ⟨doneDistinct, List.nodup_singleton _, fun first before second now same => ?_⟩
        exact new (List.mem_singleton.mp now ▸ same ▸ before)
      have freshNow : ∀ other ∈ rest, other ∉ done ++ [result] := by
        intro other inside within
        rcases List.mem_append.mp within with before | now
        · exact fresh other (List.mem_cons_of_mem _ inside) before
        · exact distinct.1 (List.mem_singleton.mp now ▸ inside)
      by_cases enters : findings.saves result.device = true ∧
          (registry.under result.device.id ≠ [] ∨
            registry.devices.length + registry.grown findings done < c64DeviceMax)
      · -- The winner is taken over.
        have step := progress.taken collected winners winner new apart enters.1 enters.2
        have admitted := (step.within result (by simp)).2
        obtain ⟨more, after, all⟩ := ih restAmong distinct.2 step winnersNow distinctNow freshNow
        refine ⟨result :: more, by simpa [beaten] using after, fun room => ?_⟩
        simpa [beaten, admitted] using all room
      · have refused : findings.saves result.device = false ∨
            (registry.under result.device.id = [] ∧
              c64DeviceMax ≤ registry.devices.length + registry.grown findings done) := by
          by_cases saved : findings.saves result.device = true
          · have stuck := not_or.mp (not_and.mp enters saved)
            exact .inr ⟨not_not.mp stuck.1, Nat.not_lt.mp stuck.2⟩
          · exact .inl (by simpa using saved)
        have step := progress.refused collected winners winner new apart refused
        obtain ⟨more, after, all⟩ := ih restAmong distinct.2 step winnersNow distinctNow freshNow
        refine ⟨more, by simpa [beaten] using after, fun room => ?_⟩
        -- With room for all, only a device that cannot be saved is refused.
        have unadmitted : registry.admits findings result.device = false := by
          by_contra admitted
          rw [Bool.not_eq_false] at admitted
          rcases refused with unsaved | ⟨unknown, full⟩
          · simp [Registry.saves_of_admits admitted] at unsaved
          · have := room.free doneDistinct winners winner new admitted unknown
            omega
        simpa [beaten, unadmitted] using all room

end Runs

section Whole

variable {job : ScanJob} {registry : Registry} {findings : ScanFindings}

theorem ScanJob.winners_ne_nil (some : job.results ≠ []) : job.winners ≠ [] := by
  obtain ⟨first, among, lowest⟩ := job.results.toFinset.exists_min_image ScanResult.hostIndex
    (List.toFinset_nonempty_iff _ |>.mpr some)
  rw [List.mem_toFinset] at among
  refine List.ne_nil_of_mem (List.mem_filter.mpr ⟨among, ?_⟩)
  simp only [ScanJob.superseded, Bool.not_eq_true', List.any_eq_false]
  intro other inside
  have := lowest other (List.mem_toFinset.mpr inside)
  simp only [Bool.and_eq_true, decide_eq_true_eq, not_and]
  omega

theorem Registry.upsertDiscovered_loaded (registry : Registry) (device : Device)
    (load : LoadFindings) (save : SaveFindings) (removal : RemovalFindings) :
    registry.upsertDiscovered device load load save removal
      = (registry.initLocked load).2.upsertDiscovered device load load save removal := by
  unfold Registry.upsertDiscovered
  rw [Registry.initLocked_ready (registry.ready_initLocked load)]

theorem ScanJob.foldl_loaded {pending : List ScanResult} (outcome : ScanOutcome)
    (winner : ∃ result ∈ pending, job.superseded result = false) :
    pending.foldl (job.applyResult findings) outcome =
      pending.foldl (job.applyResult findings)
        { outcome with registry := (outcome.registry.initLocked findings.load).2 } := by
  induction pending generalizing outcome with
  | nil => simp at winner
  | cons result rest ih =>
    rw [List.foldl_cons, List.foldl_cons]
    cases beaten : job.superseded result with
    | false =>
      -- Both rounds upsert into the loaded registry.
      congr 1
      unfold ScanJob.applyResult
      simp only [beaten, Bool.false_eq_true, if_false]
      rw [Registry.upsertDiscovered_loaded outcome.registry]
    | true =>
      have later : ∃ other ∈ rest, job.superseded other = false := by
        obtain ⟨other, among, unbeaten⟩ := winner
        rcases List.mem_cons.mp among with rfl | inside
        · rw [beaten] at unbeaten
          cases unbeaten
        · exact ⟨other, inside, unbeaten⟩
      rw [ih _ later]
      unfold ScanJob.applyResult
      simp [beaten]

theorem ScanJob.applyScanResults_loaded (registry : Registry) (findings : ScanFindings)
    {result : ScanResult} (winner : result ∈ job.winners) :
    job.applyScanResults registry findings = job.results.foldl (job.applyResult findings)
      { registry := (registry.initLocked findings.load).2 } :=
  ScanJob.foldl_loaded { registry := registry }
    ⟨result, ScanJob.mem_results winner, by simpa using (List.mem_filter.mp winner).2⟩

theorem ScanProgress.start (job : ScanJob) (registry : Registry) (findings : ScanFindings)
    (capacity : registry.devices.length ≤ c64DeviceMax) (ready : registry.Ready findings.load) :
    ScanProgress job registry findings [] [] { registry := registry } := by
  refine ⟨ready, by simp, rfl, rfl, ?_, by simp, by simp, fun _ _ => rfl, fun _ _ _ => rfl⟩
  simp [capacity]

theorem ScanJob.progress (collected : job.Collected) (some : job.results ≠ [])
    (capacity : registry.devices.length ≤ c64DeviceMax)
    (apart : job.Apart (registry.initLocked findings.load).2 findings) :
    ∃ kept, ScanProgress job (registry.initLocked findings.load).2 findings job.winners kept
        (job.applyScanResults registry findings) ∧
      (job.HasRoom (registry.initLocked findings.load).2 findings → kept =
        job.winners.filter fun result =>
          (registry.initLocked findings.load).2.admits findings result.device) := by
  obtain ⟨first, winner⟩ := List.exists_mem_of_ne_nil _ (ScanJob.winners_ne_nil some)
  have loaded := ScanJob.applyScanResults_loaded registry findings winner
  have start := ScanProgress.start job (registry.initLocked findings.load).2 findings
    (registry.initLocked_length findings.load capacity) (registry.ready_initLocked findings.load)
  rw [loaded]
  exact start.run collected apart job.results (fun _ among => among)
    (List.Nodup.of_map _ collected.hosts) (by simp) List.nodup_nil (by simp)

theorem ScanProgress.perm {second : ScanJob} {done kept otherDone otherKept : List ScanResult}
    {outcome other : ScanOutcome}
    (progress : ScanProgress job registry findings done kept outcome)
    (otherProgress : ScanProgress second registry findings otherDone otherKept other)
    (same : ∀ result, result ∈ kept ↔ result ∈ otherKept)
    (entries : ∀ result ∈ kept, job.entry registry result = second.entry registry result) :
    outcome.registry.devices.Perm other.registry.devices := by
  refine perm_of_underKey Device.id fun id => ?_
  change outcome.registry.under id = other.registry.under id
  by_cases touched : ∃ result ∈ kept, result.device.id = id
  · obtain ⟨result, among, rfl⟩ := touched
    rw [progress.put result among, otherProgress.put result ((same result).mp among),
      entries result among]
  by_cases gone : ∃ result ∈ kept, registry.renews findings result.device = true ∧
      (registry.profileFor result.device).2 = id
  · obtain ⟨result, among, renewed, rfl⟩ := gone
    rw [progress.dropped result among renewed,
      otherProgress.dropped result ((same result).mp among) renewed]
  · -- No run touches the id.
    have away : ∀ result ∈ kept, result.device.id ≠ id ∧
        (registry.renews findings result.device = true →
          (registry.profileFor result.device).2 ≠ id) := fun result among =>
      ⟨fun clash => touched ⟨result, among, clash⟩,
        fun renewed clash => gone ⟨result, among, renewed, clash⟩⟩
    rw [progress.rest id away,
      otherProgress.rest id fun result among => away result ((same result).mpr among)]

end Whole

end C64Stream
