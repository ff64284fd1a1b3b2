import C64Stream.Device.ScanResultLaws

/-! A scan and its threads: exactly when what it leads to does not depend on their order. -/

namespace C64Stream

section Selection

variable {job : ScanJob} {findings : ScanFindings}

/-- The results at the host that was in use. -/
def ScanJob.atSelectedHost (job : ScanJob) (pending : List ScanResult) : List ScanResult :=
  pending.filter fun result =>
    decide (job.selectedHost ≠ [] ∧ job.selectedHost = result.device.host)

theorem ScanJob.hostMatched (pending : List ScanResult) (outcome : ScanOutcome) :
    (pending.foldl (job.applyResult findings) outcome).hostMatchedDeviceId
      = ((job.atSelectedHost pending).getLast?.elim outcome.hostMatchedDeviceId fun result =>
          copyField c64DeviceIdMax result.device.id) := by
  induction pending using List.reverseRecOn with
  | nil => rfl
  | append_singleton rest result ih =>
    rw [List.foldl_append, List.foldl_cons, List.foldl_nil, ScanJob.atSelectedHost,
      List.filter_append]
    have matched : ∀ outcome : ScanOutcome,
        (job.applyResult findings outcome result).hostMatchedDeviceId =
          if job.selectedHost ≠ [] ∧ job.selectedHost = result.device.host then
            copyField c64DeviceIdMax result.device.id
          else outcome.hostMatchedDeviceId := by
      intro outcome
      unfold ScanJob.applyResult
      dsimp only
      split <;> rfl
    rw [matched]
    by_cases same : job.selectedHost ≠ [] ∧ job.selectedHost = result.device.host
    · rw [if_pos same, List.filter_cons_of_pos (by simpa using same)]
      simp
    · rw [if_neg same, List.filter_cons_of_neg (by simpa using same), ih, ScanJob.atSelectedHost]
      simp

theorem ScanJob.confirmed (pending : List ScanResult) (outcome : ScanOutcome) :
    (pending.foldl (job.applyResult findings) outcome).selectedDeviceConfirmed
      = (outcome.selectedDeviceConfirmed || pending.any fun result =>
          !job.superseded result && (decide (job.selectedDeviceId ≠ []) &&
            job.selectedDeviceId == result.device.id)) := by
  induction pending generalizing outcome with
  | nil => simp
  | cons result rest ih =>
    rw [List.foldl_cons, ih, List.any_cons]
    unfold ScanJob.applyResult
    cases beaten : job.superseded result
    · simp [Bool.or_assoc]
    · simp

end Selection

section Orders

variable {job : ScanJob} {registry : Registry} {findings : ScanFindings} {order : List ScanResult}
  {result : ScanResult}

theorem ScanJob.superseded_reordered (perm : order.Perm job.results) :
    (job.reordered order).superseded = job.superseded := by
  funext result
  exact perm.any_eq

theorem ScanJob.winners_reordered (perm : order.Perm job.results) :
    (job.reordered order).winners.Perm job.winners := by
  unfold ScanJob.winners
  rw [ScanJob.superseded_reordered perm]
  exact perm.filter _

theorem ScanJob.Collected.reordered (collected : job.Collected)
    (perm : order.Perm job.results) : (job.reordered order).Collected :=
  ⟨(perm.map _).nodup_iff.mpr collected.indexes, (perm.map _).nodup_iff.mpr collected.hosts,
    fun result among => collected.addressed result (perm.subset among)⟩

theorem ScanJob.Apart.reordered (apart : job.Apart registry findings)
    (perm : order.Perm job.results) : (job.reordered order).Apart registry findings := by
  intro first winner second otherWinner
  have same := ScanJob.winners_reordered perm
  exact apart first (same.subset winner) second (same.subset otherWinner)

theorem ScanJob.HasRoom.reordered (room : job.HasRoom registry findings)
    (perm : order.Perm job.results) : (job.reordered order).HasRoom registry findings := by
  intro result winner admitted new
  have same := ScanJob.winners_reordered perm
  rw [(same.filter _).length_eq]
  exact room result (same.subset winner) admitted new

/-- The other addresses of a device. -/
def ScanJob.others (job : ScanJob) (device : Device) : List ScanResult :=
  job.results.filter fun other => other.device.id == device.id && other.device.host != device.host

theorem ScanJob.withPeer_others (job : ScanJob) (device : Device) :
    job.withPeer device =
      match (job.others device).head? with
      | some other => { device with peerHost := copyField c64DeviceHostMax other.device.host }
      | none => device := by
  rw [ScanJob.others, List.head?_filter]
  rfl

theorem ScanJob.Collected.others_length (collected : job.Collected) (among : result ∈ job.results) :
    (job.results.filter (·.device.id = result.device.id)).length
      = (job.others result.device).length + 1 := by
  have distinct : job.results.Nodup := List.Nodup.of_map _ collected.hosts
  -- Of the addresses of the device, all but its own one have another host.
  have parts : (job.results.filter (·.device.id = result.device.id)).Perm
      (result :: job.others result.device) := by
    have apart : (result :: job.others result.device).Nodup := by
      refine List.nodup_cons.mpr ⟨?_, distinct.filter _⟩
      simp [ScanJob.others]
    refine (List.perm_ext_iff_of_nodup (distinct.filter _) apart).mpr fun other => ?_
    simp only [ScanJob.others, List.mem_filter, List.mem_cons, decide_eq_true_eq,
      Bool.and_eq_true, beq_iff_eq, bne_iff_ne]
    constructor
    · intro ⟨inside, same⟩
      by_cases own : other = result
      · exact .inl own
      · exact .inr ⟨inside, same, collected.result_hosts among inside own⟩
    · rintro (rfl | ⟨inside, same, -⟩)
      · exact ⟨among, rfl⟩
      · exact ⟨inside, same⟩
  rw [parts.length_eq, List.length_cons]

theorem ScanJob.Collected.withPeer_reordered (collected : job.Collected)
    (perm : order.Perm job.results) (among : result ∈ job.results)
    (two : (job.results.filter (·.device.id = result.device.id)).length ≤ 2) :
    (job.reordered order).withPeer result.device = job.withPeer result.device := by
  rw [collected.others_length among] at two
  have same : (job.reordered order).others result.device = job.others result.device :=
    filter_eq_of_perm perm (Nat.le_of_succ_le_succ two)
  rw [ScanJob.withPeer_others, ScanJob.withPeer_others, same]

theorem ScanJob.withPeer_first {other : ScanResult} (rest : List ScanResult)
    (within : other ∈ job.others result.device) :
    (job.reordered (other :: rest)).withPeer result.device =
      { result.device with peerHost := copyField c64DeviceHostMax other.device.host } := by
  have first : (job.reordered (other :: rest)).results.find? (fun candidate =>
      candidate.device.id == result.device.id && candidate.device.host != result.device.host)
        = some other :=
    List.find?_cons_of_pos (List.mem_filter.mp within).2
  unfold ScanJob.withPeer
  rw [first]

theorem Registry.entryFor_peerHost {device : Device} {host : Text}
    (given : device.peerHost = copyField c64DeviceHostMax host)
    (fits : host.length < c64DeviceHostMax) : (registry.entryFor device).peerHost = host := by
  have whole : copyField c64DeviceHostMax host = host := List.take_of_length_le (by omega)
  rw [whole] at given
  rw [Registry.entryFor, Device.named_peerHost, Device.mergedWith_peerHost (given ▸ fits), given]

end Orders

section Results

variable {job : ScanJob} {registry : Registry} {findings : ScanFindings}

theorem ScanJob.HasRoom.progress (collected : job.Collected) (some : job.results ≠ [])
    (capacity : registry.devices.length ≤ c64DeviceMax)
    (apart : job.Apart (registry.initLocked findings.load).2 findings)
    (room : job.HasRoom (registry.initLocked findings.load).2 findings)
    {order : List ScanResult} (perm : order.Perm job.results) :
    ∃ kept, ScanProgress (job.reordered order) (registry.initLocked findings.load).2 findings
        (job.reordered order).winners kept
        ((job.reordered order).applyScanResults registry findings) ∧
      kept.Perm (job.winners.filter fun result =>
        (registry.initLocked findings.load).2.admits findings result.device) := by
  have filled : (job.reordered order).results ≠ [] := by
    intro empty
    have none : order = [] := empty
    exact some (List.nil_perm.mp (none ▸ perm))
  obtain ⟨kept, progress, all⟩ := ScanJob.progress (collected.reordered perm) filled capacity
    (apart.reordered perm)
  refine ⟨kept, progress, ?_⟩
  rw [all (room.reordered perm)]
  exact (ScanJob.winners_reordered perm).filter _

theorem ScanJob.HasRoom.sameOutcomes (collected : job.Collected)
    (capacity : registry.devices.length ≤ c64DeviceMax)
    (apart : job.Apart (registry.initLocked findings.load).2 findings)
    (two : job.TwoAddresses (registry.initLocked findings.load).2 findings)
    (room : job.HasRoom (registry.initLocked findings.load).2 findings) :
    job.SameOutcomes registry findings := by
  intro order perm
  dsimp only
  by_cases some : job.results = []
  · have none : order = job.results := by rw [some] at perm ⊢; exact perm.eq_nil
    rw [none]
    exact ⟨List.Perm.refl _, rfl, rfl⟩
  obtain ⟨kept, progress, all⟩ := room.progress collected some capacity apart perm
  obtain ⟨given, givenProgress, givenAll⟩ :=
    room.progress collected some capacity apart (List.Perm.refl job.results)
  have keeps : kept.Perm given := all.trans givenAll.symm
  refine ⟨progress.perm givenProgress (fun _ => keeps.mem_iff) fun result among => ?_, ?_, ?_⟩
  · -- Each device has the same other address, and so the same profile.
    obtain ⟨winner, admitted⟩ := List.mem_filter.mp (all.subset among)
    have inside := ScanJob.mem_results winner
    have peer := collected.withPeer_reordered perm inside (two result winner admitted)
    have givenPeer := collected.withPeer_reordered (List.Perm.refl _) inside
      (two result winner admitted)
    rw [ScanJob.entry, ScanJob.entry, peer, givenPeer]
  · have matched : (job.reordered order).atSelectedHost order = job.atSelectedHost job.results := by
      refine filter_eq_of_perm perm ?_
      refine (List.Sublist.length_le ?_).trans (filter_key_length_le_one collected.hosts
        job.selectedHost)
      refine List.monotone_filter_right _ fun result same => ?_
      simp only [decide_eq_true_eq] at same ⊢
      exact same.2.symm
    have hosts : ((job.reordered order).applyScanResults registry findings).hostMatchedDeviceId
        = (job.applyScanResults registry findings).hostMatchedDeviceId := by
      unfold ScanJob.applyScanResults
      rw [ScanJob.hostMatched, ScanJob.hostMatched]
      change (((job.reordered order).atSelectedHost order).getLast?.elim _ _) = _
      rw [matched]
    have counts : ((job.reordered order).applyScanResults registry findings).appliedCount
        = (job.applyScanResults registry findings).appliedCount := by
      rw [progress.count, keeps.length_eq]
      exact givenProgress.count.symm
    unfold ScanOutcome.autoSelectDeviceId
    rw [hosts, counts]
    split_ifs with isMatch single
    · rfl
    · -- A winner that is alone is the last one.
      rw [progress.sole]
      rw [show (job.applyScanResults registry findings).soleDeviceId = _ from givenProgress.sole]
      have alone : given.length = 1 := by
        rw [← givenProgress.count]
        exact single
      obtain ⟨only, isOnly⟩ := List.length_eq_one_iff.mp alone
      rw [isOnly, List.perm_singleton] at keeps
      rw [keeps, isOnly]
    · rfl
  · unfold ScanJob.applyScanResults
    rw [ScanJob.confirmed, ScanJob.confirmed, ScanJob.superseded_reordered perm]
    exact congrArg _ perm.any_eq

theorem ScanJob.HasRoom.carries (collected : job.Collected)
    (capacity : registry.devices.length ≤ c64DeviceMax)
    (apart : job.Apart (registry.initLocked findings.load).2 findings)
    (room : job.HasRoom (registry.initLocked findings.load).2 findings) :
    job.Carries registry findings := by
  intro order perm result winner admitted
  have some : job.results ≠ [] := List.ne_nil_of_mem (ScanJob.mem_results winner)
  obtain ⟨kept, progress, all⟩ := room.progress collected some capacity apart perm
  have among : result ∈ kept := all.symm.subset (List.mem_filter.mpr ⟨winner, admitted⟩)
  have put := progress.put result among
  have within : (job.reordered order).entry (registry.initLocked findings.load).2 result
      ∈ ((job.reordered order).applyScanResults registry findings).registry.under
        result.device.id := by
    rw [put]
    exact List.mem_cons_self
  refine ⟨((job.reordered order).withPeer result.device).peerHost, ?_⟩
  have isPeer : { result.device with
      peerHost := ((job.reordered order).withPeer result.device).peerHost }
        = (job.reordered order).withPeer result.device := by
    unfold ScanJob.withPeer
    split <;> rfl
  rw [isPeer]
  exact (List.mem_filter.mp within).1

end Results

section Needs

variable {job : ScanJob} {registry : Registry} {findings : ScanFindings}

theorem ScanJob.SameOutcomes.perm (same : job.SameOutcomes registry findings)
    {first second : List ScanResult} (perm : first.Perm job.results)
    (otherPerm : second.Perm job.results) (id : Text) :
    (((job.reordered first).applyScanResults registry findings).registry.under id).Perm
      (((job.reordered second).applyScanResults registry findings).registry.under id) :=
  ((same first perm).1.trans (same second otherPerm).1.symm).filter _

theorem ScanJob.under_first (collected : job.Collected)
    (capacity : registry.devices.length ≤ c64DeviceMax)
    (apart : job.Apart (registry.initLocked findings.load).2 findings) {result : ScanResult}
    {rest : List ScanResult} (results : job.results = result :: rest)
    (winner : result ∈ job.winners)
    (admitted : (registry.initLocked findings.load).2.admits findings result.device = true) :
    (job.applyScanResults registry findings).registry.under result.device.id ≠ [] := by
  have distinct : (result :: rest).Nodup := results ▸ List.Nodup.of_map _ collected.hosts
  rw [List.nodup_cons] at distinct
  have start := ScanProgress.start job (registry.initLocked findings.load).2 findings
    (registry.initLocked_length findings.load capacity) (registry.ready_initLocked findings.load)
  -- Before all others, the free places are those of the start.
  have room := (Bool.and_eq_true_iff.mp admitted).2
  rw [Bool.or_eq_true, decide_eq_true_eq, decide_eq_true_eq] at room
  have step := start.taken collected (by simp) winner (by simp) apart
    (Registry.saves_of_admits admitted) room
  obtain ⟨more, progress, -⟩ := step.run collected apart rest
    (fun other inside => results ▸ List.mem_cons_of_mem _ inside) distinct.2
    (by simpa using winner) (by simp)
    (fun other inside same => distinct.1 (by
      have : other = result := by simpa using same
      exact this ▸ inside))
  have put := progress.put result (by simp)
  rw [ScanJob.applyScanResults_loaded registry findings winner, results, List.foldl_cons, put]
  exact List.cons_ne_nil _ _

theorem ScanJob.under_last (collected : job.Collected)
    (capacity : registry.devices.length ≤ c64DeviceMax)
    (apart : job.Apart (registry.initLocked findings.load).2 findings) {result : ScanResult}
    {rest : List ScanResult} (results : job.results = rest ++ [result])
    (winner : result ∈ job.winners)
    (admitted : (registry.initLocked findings.load).2.admits findings result.device = true)
    (new : (registry.initLocked findings.load).2.under result.device.id = [])
    (full : c64DeviceMax ≤ (registry.initLocked findings.load).2.devices.length +
      (job.winners.filter fun other => decide (other ≠ result) &&
        (registry.initLocked findings.load).2.grows findings other.device).length) :
    (job.applyScanResults registry findings).registry.under result.device.id = [] := by
  have all : (rest ++ [result]).Nodup := results ▸ List.Nodup.of_map _ collected.hosts
  obtain ⟨distinct, -, apartLast⟩ := List.nodup_append.mp all
  have fresh : result ∉ rest := fun inside => apartLast result inside result (by simp) rfl
  have start := ScanProgress.start job (registry.initLocked findings.load).2 findings
    (registry.initLocked_length findings.load capacity) (registry.ready_initLocked findings.load)
  obtain ⟨kept, progress, -⟩ := start.run collected apart rest
    (fun other inside => results ▸ List.mem_append_left _ inside) distinct
    (by simp) List.nodup_nil (by simp)
  rw [List.nil_append, List.nil_append] at progress
  have winners : ∀ other ∈ rest.filter fun result => !job.superseded result,
      other ∈ job.winners := by
    intro other inside
    obtain ⟨within, unbeaten⟩ := List.mem_filter.mp inside
    exact List.mem_filter.mpr ⟨results ▸ List.mem_append_left _ within, unbeaten⟩
  have late : result ∉ rest.filter fun result => !job.superseded result :=
    fun inside => fresh (List.mem_filter.mp inside).1
  -- The others have taken up as many places as there were.
  have grown : (job.winners.filter fun other => decide (other ≠ result) &&
      (registry.initLocked findings.load).2.grows findings other.device).length
        ≤ (registry.initLocked findings.load).2.grown findings
          (rest.filter fun result => !job.superseded result) := by
    have nodup : job.winners.Nodup := (List.Nodup.of_map _ collected.hosts).filter _
    refine (List.subperm_of_subset (nodup.filter _) fun other inside => ?_).length_le
    obtain ⟨isWinner, others⟩ := List.mem_filter.mp inside
    rw [Bool.and_eq_true, decide_eq_true_eq] at others
    obtain ⟨within, unbeaten⟩ := List.mem_filter.mp isWinner
    rw [results] at within
    have before : other ∈ rest := (List.mem_append.mp within).resolve_right
      fun now => others.1 (List.mem_singleton.mp now)
    exact List.mem_filter.mpr ⟨List.mem_filter.mpr ⟨before, unbeaten⟩, others.2⟩
  have after := progress.refused collected winners winner late apart (.inr ⟨new, by omega⟩)
  have untouched := after.rest _ (progress.id_untouched collected winners winner late apart
    (Registry.saves_of_admits admitted))
  rw [ScanJob.applyScanResults_loaded registry findings winner, results, List.foldl_append,
    List.foldl_cons, List.foldl_nil, untouched, new]

theorem ScanJob.SameOutcomes.hasRoom (same : job.SameOutcomes registry findings)
    (collected : job.Collected) (capacity : registry.devices.length ≤ c64DeviceMax)
    (apart : job.Apart (registry.initLocked findings.load).2 findings) :
    job.HasRoom (registry.initLocked findings.load).2 findings := by
  intro result winner admitted new
  by_contra full
  rw [Nat.not_lt] at full
  have inside := ScanJob.mem_results winner
  -- The device comes before all others in the one order, and after them in the other.
  have first : (result :: job.results.erase result).Perm job.results :=
    (List.perm_cons_erase inside).symm
  have last : (job.results.erase result ++ [result]).Perm job.results :=
    (List.perm_append_singleton _ _).trans first
  have found := ScanJob.under_first (collected.reordered first) capacity (apart.reordered first)
    rfl ((ScanJob.winners_reordered first).symm.subset winner) admitted
  have missed := ScanJob.under_last (collected.reordered last) capacity (apart.reordered last)
    rfl ((ScanJob.winners_reordered last).symm.subset winner) admitted new
    (by rw [((ScanJob.winners_reordered last).filter _).length_eq]; exact full)
  have agree := same.perm first last result.device.id
  rw [missed, List.perm_nil] at agree
  exact found agree

theorem ScanJob.SameOutcomes.twoAddresses (same : job.SameOutcomes registry findings)
    (collected : job.Collected) (capacity : registry.devices.length ≤ c64DeviceMax)
    (apart : job.Apart (registry.initLocked findings.load).2 findings)
    (room : job.HasRoom (registry.initLocked findings.load).2 findings) :
    job.TwoAddresses (registry.initLocked findings.load).2 findings := by
  intro result winner admitted
  by_contra many
  have inside := ScanJob.mem_results winner
  rw [collected.others_length inside] at many
  -- What the device gets if one of its other addresses comes first.
  have given : ∀ other ∈ job.others result.device,
      ∃ (order : List ScanResult) (profile : Device),
        order.Perm job.results ∧ profile.peerHost = other.device.host ∧
        ((job.reordered order).applyScanResults registry findings).registry.under result.device.id
          = profile :: ((registry.initLocked findings.load).2.under result.device.id).tail := by
    intro other among
    have within : other ∈ job.results := (List.mem_filter.mp among).1
    have perm : (other :: job.results.erase other).Perm job.results :=
      (List.perm_cons_erase within).symm
    obtain ⟨kept, progress, all⟩ := room.progress collected (List.ne_nil_of_mem inside) capacity
      apart perm
    have isKept : result ∈ kept :=
      all.symm.subset (List.mem_filter.mpr ⟨winner, admitted⟩)
    refine ⟨_, _, perm, ?_, progress.put result isKept⟩
    rw [ScanJob.entry]
    exact Registry.entryFor_peerHost (by rw [ScanJob.withPeer_first _ among])
      (collected.addressed other within).2
  obtain ⟨first, second, more, others⟩ : ∃ first second more,
      job.others result.device = first :: second :: more := by
    rcases split : job.others result.device with _ | ⟨first, _ | ⟨second, more⟩⟩
    · simp [split] at many
    · simp [split] at many
    · exact ⟨first, second, more, rfl⟩
  have firstAmong : first ∈ job.others result.device := by rw [others]; simp
  have secondAmong : second ∈ job.others result.device := by rw [others]; simp
  obtain ⟨order, profile, perm, peer, under⟩ := given first firstAmong
  obtain ⟨otherOrder, otherProfile, otherPerm, otherPeer, otherUnder⟩ := given second secondAmong
  have agree := same.perm perm otherPerm result.device.id
  rw [under, otherUnder] at agree
  -- The profiles only differ in the one that the device got.
  have profiles : profile = otherProfile := by
    have counts := agree.count_eq profile
    rw [List.count_cons, List.count_cons] at counts
    by_contra differ
    simp [Ne.symm differ] at counts
  have distinct : first ≠ second := by
    have nodup : (job.others result.device).Nodup :=
      (List.Nodup.of_map _ collected.hosts).filter _
    rw [others, List.nodup_cons] at nodup
    exact fun clash => nodup.1 (clash ▸ List.mem_cons_self)
  refine collected.result_hosts (List.mem_filter.mp secondAmong).1
    (List.mem_filter.mp firstAmong).1 distinct ?_
  rw [← peer, ← otherPeer, profiles]

/-- What a scan leads to is independent of its threads exactly when each device that is taken
over has two addresses at most, and there is room for all that are new. -/
theorem ScanJob.orderFree_iff (collected : job.Collected)
    (capacity : registry.devices.length ≤ c64DeviceMax)
    (apart : job.Apart (registry.initLocked findings.load).2 findings) :
    job.OrderFree registry findings ↔
      job.TwoAddresses (registry.initLocked findings.load).2 findings ∧
        job.HasRoom (registry.initLocked findings.load).2 findings := by
  constructor
  · rintro ⟨same, -⟩
    have room := same.hasRoom collected capacity apart
    exact ⟨same.twoAddresses collected capacity apart room, room⟩
  · intro ⟨two, room⟩
    exact ⟨room.sameOutcomes collected capacity apart two, room.carries collected capacity apart⟩

/-- A device as it answers at a host. -/
def answeringDevice (id host : String) : Device :=
  { id := text id, name := text host, host := text host,
    videoPort := 11000, audioPort := 11001, controlPort := 64 }

/-- The profile that was made from a host before scans knew the ids of devices. -/
def migratedHost : Device :=
  { answeringDevice "10-0-0-1" "10.0.0.1" with name := text "Default" }

/-- Two devices, one of which answered at two hosts, the one in use before the other. -/
def twoDevices : ScanJob :=
  { results := [⟨answeringDevice "38c1ba" "10.0.0.5", 4⟩, ⟨answeringDevice "38c1ba" "10.0.0.1", 0⟩,
      ⟨answeringDevice "5d41f0" "10.0.0.3", 2⟩],
    selectedHost := text "10.0.0.5" }

/-- Two devices, one of them with a migrated profile, come out the same in every order. -/
theorem twoDevices_orderFree :
    twoDevices.OrderFree
      { devices := [migratedHost], initialized := true, files := [migratedHost.file] } {} := by
  refine (ScanJob.orderFree_iff ⟨by decide, by decide, by decide⟩ (by decide) ?_).mpr ⟨?_, ?_⟩
  · decide +kernel
  · decide +kernel
  · decide +kernel

/-- A device that answered at three hosts. -/
def threeAddresses : ScanJob :=
  { results := [⟨answeringDevice "38c1ba" "10.0.0.1", 0⟩, ⟨answeringDevice "38c1ba" "10.0.0.2", 1⟩,
      ⟨answeringDevice "38c1ba" "10.0.0.3", 2⟩] }

/-- A device with three addresses keeps the second or the third one, as the threads have it. -/
theorem threeAddresses_not_orderFree :
    threeAddresses.Collected ∧ ¬threeAddresses.OrderFree {} {} := by
  refine ⟨⟨by decide, by decide, by decide⟩, fun free => ?_⟩
  have same := (free.1 threeAddresses.results.reverse (List.reverse_perm _)).1
  -- The profiles of the two orders differ in the other address.
  exact absurd same (by decide +kernel)

end Needs

end C64Stream
