import C64Stream.Device.Registry

/-! Taking over what a scan of the network found: one profile for each device that answered. -/

namespace C64Stream

section Results

/-- A device that answered, with the place of its host among those that were asked. -/
structure ScanResult where
  device : Device
  hostIndex : Nat
  deriving DecidableEq

/-- What the threads of a scan have collected, in the order in which they came to it. -/
structure ScanJob where
  results : List ScanResult
  /-- The device that was selected when the scan began. -/
  selectedDeviceId : Text := []
  /-- The host that was in use when the scan began. -/
  selectedHost : Text := []
  deriving DecidableEq

/-- How the file system answers while the results are taken over. -/
structure ScanFindings where
  load : LoadFindings := {}
  /-- The answer when the device of an id is saved. -/
  save : Text → SaveFindings := fun _ => {}
  /-- The answer when the device of an id takes the place of an older profile. -/
  removal : Text → RemovalFindings := fun _ => {}

/-- What taking over the results has come to. -/
structure ScanOutcome where
  registry : Registry
  appliedCount : Nat := 0
  soleDeviceId : Text := []
  hostMatchedDeviceId : Text := []
  selectedDeviceConfirmed : Bool := false

end Results

section Applying

/-- Whether a device also answered at a host that was asked earlier. -/
def ScanJob.superseded (job : ScanJob) (result : ScanResult) : Bool :=
  -- No result comes before itself, so that the one at hand needs no exception.
  job.results.any fun other =>
    other.device.id == result.device.id && decide (other.hostIndex < result.hostIndex)

/-- A device with the first other address of it among the results. -/
def ScanJob.withPeer (job : ScanJob) (device : Device) : Device :=
  match job.results.find? fun other =>
    other.device.id == device.id && other.device.host != device.host with
  | some other => { device with peerHost := copyField c64DeviceHostMax other.device.host }
  | none => device

/-- One round of the loop over the results. -/
def ScanJob.applyResult (job : ScanJob) (findings : ScanFindings) (outcome : ScanOutcome)
    (result : ScanResult) : ScanOutcome :=
  -- Any address of a device counts here, not only the one that wins.
  let hostMatchedDeviceId :=
    if job.selectedHost ≠ [] ∧ job.selectedHost = result.device.host then
      copyField c64DeviceIdMax result.device.id
    else outcome.hostMatchedDeviceId
  if job.superseded result then { outcome with hostMatchedDeviceId := hostMatchedDeviceId }
  else
    let confirmed := decide (job.selectedDeviceId ≠ []) && job.selectedDeviceId == result.device.id
    let device := job.withPeer result.device
    let (applied, registry) := outcome.registry.upsertDiscovered device findings.load findings.load
      (findings.save device.id) (findings.removal device.id)
    { registry := registry,
      appliedCount := if applied then outcome.appliedCount + 1 else outcome.appliedCount,
      soleDeviceId :=
        if applied then copyField c64DeviceIdMax result.device.id else outcome.soleDeviceId,
      hostMatchedDeviceId := hostMatchedDeviceId,
      selectedDeviceConfirmed := outcome.selectedDeviceConfirmed || confirmed }

/-- Taking over the results in their order. -/
def ScanJob.applyScanResults (job : ScanJob) (registry : Registry) (findings : ScanFindings) :
    ScanOutcome :=
  job.results.foldl (job.applyResult findings) { registry := registry }

/-- The device that a source may go over to by itself, if there is one. -/
def ScanOutcome.autoSelectDeviceId (outcome : ScanOutcome) : Text :=
  if outcome.hostMatchedDeviceId ≠ [] then copyField c64DeviceIdMax outcome.hostMatchedDeviceId
  else if outcome.appliedCount = 1 then copyField c64DeviceIdMax outcome.soleDeviceId
  else []

end Applying

end C64Stream
