import C64Stream.Stream.Scheduling

/-! The address of the source belongs to the host it is configured for, as long as names do. -/

namespace C64Stream

section Condition

variable {Device : Type*} (deviceAt : String → Option Device)

/-- The answer to a name, once it is written, is an address of the device that is configured. -/
def ResolvesToHost (context : SwitchContext) : SwitchOp → Prop
  | .worker found =>
    match context.worker with
    | .task (.resolve _) =>
      ∀ address ∈ found.resolved, deviceBehind deviceAt (clip hostCharacters address) =
        deviceBehind deviceAt context.config.hostname
    | _ => True
  | .change _ | .update => True

instance [DecidableEq Device] (context : SwitchContext) (op : SwitchOp) :
    Decidable (ResolvesToHost deviceAt context op) := by
  rcases op with _ | _ | _
  · exact inferInstanceAs (Decidable True)
  · exact inferInstanceAs (Decidable True)
  · dsimp only [ResolvesToHost]
    rcases context.worker with _ | ⟨⟨⟩⟩ | _ | _ <;> infer_instance

/-- The configured host and the address that it was resolved to are of one device. -/
structure HostSound (context : SwitchContext) : Prop where
  fits : clip hostCharacters context.config.hostname = context.config.hostname
  oldRead : ∀ old ∈ oldConfig context.update, old.hostname = context.config.hostname
  sameDevice : deviceBehind deviceAt context.config.ipAddress =
    deviceBehind deviceAt context.config.hostname

end Condition

section Invariant

variable {Device : Type*} {deviceAt : String → Option Device} {context : SwitchContext}
  {found : WorkerFindings}

theorem retryWorkerStep_update :
    (retryWorkerStep context found).update = context.update := by
  unfold retryWorkerStep
  split
  · rename_i pc here
    cases pc <;> simp only [retryLoop] <;> first | rfl | (split <;> rfl)
  · rename_i pc here
    cases pc <;> simp only [c64AsyncRetryTask] <;> first | rfl | (split <;> rfl)
  · exact (start_sameSchedule _).update
  · exact (stops_undisturbed _ _).update

theorem retryWorkerStep_config (elsewhere : ∀ name, context.worker ≠ .task (.resolve name)) :
    (retryWorkerStep context found).config = context.config := by
  unfold retryWorkerStep
  split
  · rename_i pc here
    cases pc <;> simp only [retryLoop] <;> first | rfl | (split <;> rfl)
  · rename_i pc here
    cases pc with
    | resolve name => exact absurd here (elsewhere name)
    | _ => simp only [c64AsyncRetryTask] <;> first | rfl | (split <;> rfl)
  · rename_i pc here
    cases pc with
    | reach endpoint switching =>
      simp only [c64StartStreaming]
      split
      · rfl
      · split <;> rfl
    | _ => simp only [c64StartStreaming] <;> first | rfl | (split <;> rfl)
  · exact (stops_undisturbed _ _).config

theorem writtenConfig_sameDevice {config old : SwitchConfig} {new : UpdateSettings}
    (fits : clip hostCharacters config.hostname = config.hostname)
    (read : old.hostname = config.hostname)
    (same : deviceBehind deviceAt config.ipAddress = deviceBehind deviceAt config.hostname) :
    deviceBehind deviceAt (writtenConfig config old new).ipAddress =
      deviceBehind deviceAt (writtenConfig config old new).hostname := by
  by_cases changed : hostChanged old new
  · simp [writtenConfig, changed]
  · have unchanged : old.hostname = new.host := by simpa [hostChanged] using changed
    simp [writtenConfig, changed, ← unchanged, read, fits, same]

theorem switchStep_hostSound (sound : HostSound deviceAt context) {op : SwitchOp}
    (resolves : ResolvesToHost deviceAt context op) :
    HostSound deviceAt (switchStep context op) := by
  obtain ⟨fits, oldRead, same⟩ := sound
  cases op with
  | change new =>
    simp only [switchStep]
    split
    · exact ⟨fits, by simp [oldConfig], same⟩
    · exact ⟨fits, oldRead, same⟩
  | update =>
    simp only [switchStep]
    cases here : context.update with
    | returned => exact ⟨fits, oldRead, same⟩
    | readOld new =>
      refine ⟨fits, fun old member => ?_, same⟩
      obtain rfl := Option.some.inj member
      rfl
    | record old new => exact ⟨fits, fun read member => oldRead read (by rw [here]; exact member), same⟩
    | write old new transition =>
      exact ⟨clip_clip _ _, by simp [c64Update, oldConfig],
        writtenConfig_sameDevice fits (oldRead old (by rw [here]; rfl)) same⟩
    | flag old new transition =>
      simp only [c64Update]
      split <;> exact ⟨fits, by simp [oldConfig], same⟩
    | schedule old new =>
      simp only [c64Update]
      split
      · exact ⟨fits, by simp [oldConfig], same⟩
      · split <;> exact ⟨fits, by simp [oldConfig], same⟩
    | request => exact ⟨fits, by simp [c64Update, oldConfig], same⟩
    | reserve =>
      simp only [c64Update]
      split
      · exact ⟨fits, by simp [oldConfig], same⟩
      · split <;> exact ⟨fits, by simp [oldConfig], same⟩
    | spawn =>
      simp only [c64Update]
      split
      · exact ⟨fits, by simp [oldConfig], same⟩
      · exact ⟨fits, oldRead, same⟩
  | worker found =>
    by_cases resolving : ∃ name, context.worker = .task (.resolve name)
    · obtain ⟨name, here⟩ := resolving
      simp only [ResolvesToHost, here] at resolves
      simp only [switchStep, retryWorkerStep, here, c64AsyncRetryTask]
      split
      · exact ⟨fits, oldRead, same⟩
      · rename_i address answered
        exact ⟨fits, oldRead, resolves address answered⟩
    · have config := @retryWorkerStep_config context found (fun name here => resolving ⟨name, here⟩)
      refine ⟨?_, ?_, ?_⟩ <;> simp only [switchStep, config, retryWorkerStep_update]
      · exact fits
      · exact oldRead
      · exact same

theorem createdSource_hostSound (settings : UpdateSettings) (clientCreated : Bool) :
    HostSound deviceAt (createdSource settings clientCreated) :=
  ⟨clip_clip _ _, by simp [createdSource, oldConfig], rfl⟩

end Invariant

end C64Stream
