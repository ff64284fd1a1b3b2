import C64Stream.Stream.ConfiguredDevice

/-! No device is left streaming unattended, if every start and every change of host is recorded. -/

namespace C64Stream

section Property

variable {Device : Type*} [DecidableEq Device] (deviceAt : String → Option Device)

/-- Once the worker is idle, a device left streaming is the configured one, or it was given up. -/
def NoneStranded (context : SwitchContext) : Prop :=
  Idle context → ∀ device, LeftStreaming deviceAt device context.events →
    deviceBehind deviceAt context.config.hostname = some device ∨
      Abandoned deviceAt device context.events

end Property

section Condition

variable {Device : Type*} (deviceAt : String → Option Device)

/-- A device is recorded as the one that is switched away from. -/
def RecordedDevice (context : SwitchContext) (device : Device) : Prop :=
  context.deviceTransition.map (fun transition => deviceBehind deviceAt transition.host) =
    some (some device)

/-- A device is queued to be stopped. -/
def QueuedDevice (context : SwitchContext) (device : Device) : Prop :=
  some device ∈ (queuedHosts context.pendingStops).map (deviceBehind deviceAt)

/-- A device is configured, recorded or queued. -/
def Attended (context : SwitchContext) (device : Device) : Prop :=
  deviceBehind deviceAt context.config.hostname = some device ∨
    RecordedDevice deviceAt context device ∨ QueuedDevice deviceAt context device

variable [DecidableEq Device]

instance (context : SwitchContext) (device : Device) :
    Decidable (RecordedDevice deviceAt context device) :=
  inferInstanceAs (Decidable (_ = _))

instance (context : SwitchContext) (device : Device) :
    Decidable (QueuedDevice deviceAt context device) :=
  inferInstanceAs (Decidable (_ ∈ _))

instance (context : SwitchContext) (device : Device) :
    Decidable (Attended deviceAt context device) :=
  inferInstanceAs (Decidable (_ ∨ _))

/-- The devices that a start command for an endpoint can reach are attended. -/
def StartsAttended (context : SwitchContext) (endpoint : Endpoint) : Prop :=
  (∀ device ∈ deviceBehind deviceAt endpoint.host, Attended deviceAt context device) ∧
    (context.transport ≠ .legacy → ∀ client ∈ context.restClient,
      ∀ device ∈ deviceBehind deviceAt client.host, Attended deviceAt context device)

instance (context : SwitchContext) (endpoint : Endpoint) :
    Decidable (StartsAttended deviceAt context endpoint) :=
  inferInstanceAs (Decidable (_ ∧ _))

/-- What a step starts, or stops to attend to, is recorded somewhere else. -/
def RecordedInTime (context : SwitchContext) : SwitchOp → Prop
  | .change _ => True
  | .update =>
    match context.update with
    -- The host that is left behind does not stream, or it is recorded.
    | .write _ new _ =>
      ∀ device ∈ deviceBehind deviceAt context.config.hostname,
        LeftStreaming deviceAt device context.events →
          deviceBehind deviceAt (clip hostCharacters new.host) = some device ∨
            RecordedDevice deviceAt context device ∨ QueuedDevice deviceAt context device ∨
              Abandoned deviceAt device context.events
    | _ => True
  | .worker _ =>
    match context.worker with
    | .task (.restart endpoint _) | .start (.switchVideo endpoint) | .start (.video endpoint)
    | .start (.audio endpoint) => StartsAttended deviceAt context endpoint
    -- An entry that is removed because its host was configured is still for that device.
    | .stops _ (.compare index current currentPort) =>
      (context.pendingStops[index]?.any fun entry => entry.isFor current currentPort) →
        ∀ device ∈ deviceBehind deviceAt current,
          LeftStreaming deviceAt device context.events →
            deviceBehind deviceAt context.config.hostname = some device ∨
              RecordedDevice deviceAt context device ∨
                Abandoned deviceAt device context.events
    | _ => True

instance (context : SwitchContext) (op : SwitchOp) :
    Decidable (RecordedInTime deviceAt context op) := by
  rcases op with _ | _ | _
  · exact inferInstanceAs (Decidable True)
  · dsimp only [RecordedInTime]
    rcases context.update with ⟨⟩ <;> infer_instance
  · dsimp only [RecordedInTime]
    rcases context.worker with _ | ⟨⟨⟩⟩ | ⟨⟨⟩⟩ | ⟨_, ⟨⟩⟩ <;> infer_instance

end Condition

section Invariant

variable {Device : Type*} [DecidableEq Device] {deviceAt : String → Option Device} {index : Nat}

/-- A stream of a device is not on by the last command for it. -/
def StreamOff (deviceAt : String → Option Device) (context : SwitchContext) (index : Nat)
    (stream : AvStream) : Prop :=
  ∀ entry, context.pendingStops[index]? = some entry →
    ∀ device ∈ deviceBehind deviceAt entry.host,
      lastCommand deviceAt device stream context.events ≠ some true

/-- The streams that the worker takes to be stopped are. -/
def StopsMade (deviceAt : String → Option Device) (context : SwitchContext) :
    SwitchWorkerPc → Prop
  | .stops _ (.audio index _ _ videoStopped) =>
    videoStopped → StreamOff deviceAt context index .video
  | .stops _ (.settle index videoStopped audioStopped) =>
    (videoStopped → StreamOff deviceAt context index .video) ∧
      (audioStopped → StreamOff deviceAt context index .audio)
  | _ => True

/-- Every device left streaming is attended or was given up. -/
structure AttendanceSound (deviceAt : String → Option Device) (context : SwitchContext) : Prop where
  attended : ∀ device, LeftStreaming deviceAt device context.events →
    Attended deviceAt context device ∨ Abandoned deviceAt device context.events
  made : StopsMade deviceAt context context.worker

variable {context : SwitchContext} {found : WorkerFindings}

theorem attended_append {later : List DeviceEvent}
    (attended : ∀ device, LeftStreaming deviceAt device context.events →
      Attended deviceAt context device ∨ Abandoned deviceAt device context.events)
    (starts : ∀ device, Starts deviceAt device later → Attended deviceAt context device)
    (device : Device) (left : LeftStreaming deviceAt device (later ++ context.events)) :
    Attended deviceAt context device ∨ Abandoned deviceAt device (later ++ context.events) := by
  by_cases started : Starts deviceAt device later
  · exact .inl (starts device started)
  · have before := left.of_append.resolve_left started
    exact (attended device before).imp_right (·.append started)

omit [DecidableEq Device] in
theorem not_starts {later : List DeviceEvent}
    (stops : ∀ event ∈ later, ∃ command, event = .sent command ∧ command.enable = false)
    (device : Device) : ¬ Starts deviceAt device later := by
  rintro ⟨command, member, enabled, -⟩
  obtain ⟨same, is, disabled⟩ := stops _ member
  obtain rfl := DeviceEvent.sent.inj is
  simp [disabled] at enabled

theorem sendCommand_attended {endpoint : Endpoint} {enable : Bool} {stream : AvStream}
    (attended : ∀ device, LeftStreaming deviceAt device context.events →
      Attended deviceAt context device ∨ Abandoned deviceAt device context.events)
    (starts : enable → StartsAttended deviceAt context endpoint) (device : Device)
    (left : LeftStreaming deviceAt device
      (sendCommand context endpoint enable stream found).1.events) :
    Attended deviceAt context device ∨
      Abandoned deviceAt device (sendCommand context endpoint enable stream found).1.events := by
  refine attended_append attended ?_ device left
  rintro device ⟨command, member, enabled, received, behind⟩
  obtain ⟨same, is, -, enables, target⟩ := c64StreamControlTo_events _ member
  obtain rfl := DeviceEvent.sent.inj is
  obtain ⟨host, client⟩ := starts (enables enabled)
  -- The device is behind the host of the endpoint, or behind that of the REST client.
  rcases target with direct | ⟨allowed, sender, present, direct⟩
  · exact host device (direct ▸ behind)
  · exact client allowed sender present device (direct ▸ behind)

theorem loop_attendanceSound {pc : LoopPc} (sound : AttendanceSound deviceAt context)
    (here : context.worker = .loop pc) :
    AttendanceSound deviceAt (retryLoop context found pc) := by
  have next (requested start stops resend : Bool) :
      StopsMade deviceAt context (loopNext requested start stops resend) := by
    unfold loopNext
    dsimp only
    split
    · trivial
    · split <;> trivial
  cases pc with
  | returned => exact sound
  | begin | recheck =>
    simp only [retryLoop]
    split <;> exact ⟨sound.attended, trivial⟩
  | clearRequested | finish | release => exact ⟨sound.attended, trivial⟩
  | decide =>
    simp only [retryLoop]
    split
    · exact ⟨sound.attended, trivial⟩
    · exact ⟨sound.attended, next _ _ _ _⟩
  | waiting handover =>
    simp only [retryLoop]
    split
    · exact sound
    · exact ⟨sound.attended, next _ _ _ _⟩

theorem takeTransition_attended {transition : Transition}
    (pending : context.deviceTransition = some transition)
    (attended : ∀ device, LeftStreaming deviceAt device context.events →
      Attended deviceAt context device ∨ Abandoned deviceAt device context.events)
    (device : Device)
    (left : LeftStreaming deviceAt device (takeTransition context transition).events) :
    Attended deviceAt (takeTransition context transition) device ∨
      Abandoned deviceAt device (takeTransition context transition).events := by
  have unstarted : ¬ Starts deviceAt device
      ((c64StopQueueAdd context.pendingStops transition.host transition.controlPort
        transition.password transition.restDemotedUntilNs).2.map DeviceEvent.evicted).toList := by
    rintro ⟨command, member, -⟩
    simp only [Option.mem_toList, Option.map_eq_some_iff] at member
    obtain ⟨entry, -, impossible⟩ := member
    cases impossible
  have before := left.of_append.resolve_left unstarted
  rcases attended device before with (configured | recorded | queued) | abandoned
  · exact .inl (.inl configured)
  · -- The recorded device is in the queue now.
    simp only [RecordedDevice, pending, Option.map_some, Option.some.injEq] at recorded
    have something : ¬ NothingToStop transition.host := by
      intro nothing
      simp [deviceBehind, nothing] at recorded
    exact .inl (.inr (.inr (List.mem_map.mpr ⟨_, added_mem_queuedHosts something, recorded⟩)))
  · obtain ⟨host, member, behind⟩ := List.mem_map.mp queued
    rcases mem_queuedHosts_add member with kept | ⟨entry, dropped, rfl⟩
    · exact .inl (.inr (.inr (List.mem_map.mpr ⟨host, kept, behind⟩)))
    · right
      simp only [takeTransition, dropped]
      exact .inl behind
  · exact .inr (abandoned.append unstarted)

omit [DecidableEq Device] in
theorem cancel_attended (same : HostSound deviceAt context) {device : Device}
    (attended : Attended deviceAt context device) :
    Attended deviceAt (c64AsyncRetryTask context found .cancel) device := by
  rcases attended with configured | recorded | queued
  · exact .inl configured
  · exact .inr (.inl recorded)
  · obtain ⟨host, member, behind⟩ := List.mem_map.mp queued
    rcases @mem_queuedHosts_cancel _ context.config.ipAddress context.config.controlPort _ member
      with kept | rfl
    · exact .inr (.inr (List.mem_map.mpr ⟨host, kept, behind⟩))
    · exact .inl (same.sameDevice ▸ behind)

theorem task_attendanceSound {pc : TaskPc} (sound : AttendanceSound deviceAt context)
    (same : HostSound deviceAt context) (here : context.worker = .task pc)
    (timely : RecordedInTime deviceAt context (.worker found)) :
    AttendanceSound deviceAt (c64AsyncRetryTask context found pc) := by
  simp only [RecordedInTime, here] at timely
  cases pc with
  | readName | resolve | checkRebuild | readHost =>
    simp only [c64AsyncRetryTask]
    split <;> exact ⟨sound.attended, trivial⟩
  | rebuildRead | retarget => exact ⟨sound.attended, trivial⟩
  | take =>
    simp only [c64AsyncRetryTask]
    split
    · exact ⟨sound.attended, trivial⟩
    · rename_i transition pending
      exact ⟨takeTransition_attended pending sound.attended, trivial⟩
  | cancel =>
    exact ⟨fun device left => (sound.attended device left).imp_left (cancel_attended same), trivial⟩
  | connectivity endpoint =>
    refine ⟨sound.attended, ?_⟩
    simp only [c64AsyncRetryTask]
    split <;> trivial
  | restart endpoint stream =>
    refine ⟨sendCommand_attended sound.attended fun _ => timely, ?_⟩
    simp only [c64AsyncRetryTask]
    split <;> trivial

theorem start_attendanceSound {pc : StartPc} (sound : AttendanceSound deviceAt context)
    (here : context.worker = .start pc)
    (timely : RecordedInTime deviceAt context (.worker found)) :
    AttendanceSound deviceAt (c64StartStreaming context found pc) := by
  simp only [RecordedInTime, here] at timely
  have sent {endpoint : Endpoint} {enable : Bool} {stream : AvStream}
      (starts : enable → StartsAttended deviceAt context endpoint) :=
    @sendCommand_attended _ _ deviceAt context found endpoint enable stream sound.attended starts
  cases pc with
  | raise | read | destination | sockets | threads | lower => exact ⟨sound.attended, trivial⟩
  | reach endpoint switching =>
    simp only [c64StartStreaming]
    split
    · exact ⟨sound.attended, trivial⟩
    · split <;> exact ⟨sound.attended, trivial⟩
  | disconnect | abort => exact ⟨sent (by rintro ⟨⟩), trivial⟩
  | switchVideo endpoint | audio endpoint =>
    simp only [c64StartStreaming]
    split <;> exact ⟨sent fun _ => timely, trivial⟩
  | video endpoint => exact ⟨sent fun _ => timely, trivial⟩
  | create endpoint =>
    simp only [c64StartStreaming]
    split <;> exact ⟨sound.attended, trivial⟩

theorem recordStopFailure_attended (inTask : Bool) (index : Nat)
    (attended : ∀ device, LeftStreaming deviceAt device context.events →
      Attended deviceAt context device ∨ Abandoned deviceAt device context.events)
    (device : Device)
    (left : LeftStreaming deviceAt device (recordStopFailure context inTask index).events) :
    Attended deviceAt (recordStopFailure context inTask index) device ∨
      Abandoned deviceAt device (recordStopFailure context inTask index).events := by
  unfold recordStopFailure at left ⊢
  have hosts := @queuedHosts_recordFailure context.pendingStops index c64PreviousDeviceStopAttempts
  dsimp only at left ⊢
  split at left
  · rename_i exhausted
    obtain ⟨entry, found, used⟩ := exists_of_recordFailure exhausted
    simp only [exhausted, if_true, found, Option.map_some, Option.toList_some,
      List.singleton_append] at left ⊢
    have before : LeftStreaming deviceAt device context.events := left
    rcases attended device before with (configured | recorded | queued) | abandoned
    · exact .inl (.inl configured)
    · exact .inl (.inr (.inl recorded))
    · rw [QueuedDevice, ← hosts] at queued
      obtain ⟨host, member, behind⟩ := List.mem_map.mp queued
      rcases mem_queuedHosts_removeAt found member with kept | rfl
      · exact .inl (.inr (.inr (List.mem_map.mpr ⟨host, kept, behind⟩)))
      · exact .inr (.inl ⟨used, behind⟩)
    · exact .inr (.inr abandoned)
  · rename_i unexhausted
    simp only [unexhausted, Bool.false_eq_true, if_false] at left ⊢
    refine (attended device left).imp_left ?_
    rintro (configured | recorded | queued)
    · exact .inl configured
    · exact .inr (.inl recorded)
    · exact .inr (.inr (by simpa only [QueuedDevice, hosts] using queued))

theorem sendStop_attended (index : Nat) (transport : StreamTransport) (hasClient : Bool)
    (stream : AvStream) (worker : SwitchWorkerPc)
    (attended : ∀ device, LeftStreaming deviceAt device context.events →
      Attended deviceAt context device ∨ Abandoned deviceAt device context.events)
    (device : Device)
    (left : LeftStreaming deviceAt device
      (sendStop context index transport hasClient stream found).1.events) :
    Attended deviceAt
        { (sendStop context index transport hasClient stream found).1 with worker := worker }
        device ∨
      Abandoned deviceAt device
        (sendStop context index transport hasClient stream found).1.events := by
  unfold sendStop at left ⊢
  split at left
  · exact attended device left
  · refine attended_append attended (fun device started => absurd started ?_) device left
    refine not_starts (fun event member => ?_) device
    obtain ⟨command, is, -, disabled, -⟩ := c64StopPreviousStream_events event member
    exact ⟨command, is, disabled⟩

theorem sendStop_streamOff {transport : StreamTransport} {hasClient : Bool} {stream : AvStream}
    (ok : (sendStop context index transport hasClient stream found).2 = true) :
    StreamOff deviceAt (sendStop context index transport hasClient stream found).1 index stream := by
  unfold sendStop at ok ⊢
  split at ok
  · cases ok
  · rename_i entry present
    intro same is device behind
    obtain rfl : entry = same := Option.some.inj (present.symm.trans is)
    rw [lastCommand_append, c64StopPreviousStream_last ok behind]
    simp

theorem sendStop_keepsOff {other : Nat} {transport : StreamTransport} {hasClient : Bool}
    {stream kept : AvStream} (off : StreamOff deviceAt context other kept) :
    StreamOff deviceAt (sendStop context index transport hasClient stream found).1 other kept := by
  unfold sendStop
  split
  · exact off
  · rename_i entry present
    intro same is device behind last
    rw [lastCommand_append] at last
    cases recent : lastCommand deviceAt device kept
        (c64StopPreviousStream transport hasClient entry stream found.command).1 with
    | none => exact off same is device behind (by simpa [recent] using last)
    | some enable =>
      obtain ⟨command, member, enabled, -, -⟩ := exists_of_lastCommand recent
      obtain ⟨found, is, -, disabled, -⟩ := c64StopPreviousStream_events _ member
      obtain rfl := DeviceEvent.sent.inj is
      rw [recent, ← enabled, disabled] at last
      simp at last

theorem removeAt_attended
    (attended : ∀ device, LeftStreaming deviceAt device context.events →
      Attended deviceAt context device ∨ Abandoned deviceAt device context.events)
    (removed : ∀ entry, context.pendingStops[index]? = some entry →
      ∀ device ∈ deviceBehind deviceAt entry.host, LeftStreaming deviceAt device context.events →
        deviceBehind deviceAt context.config.hostname = some device ∨
          RecordedDevice deviceAt context device ∨ Abandoned deviceAt device context.events)
    (worker : SwitchWorkerPc) (device : Device)
    (left : LeftStreaming deviceAt device context.events) :
    Attended deviceAt
        { context with
          pendingStops := c64StopQueueRemoveAt context.pendingStops index, worker := worker }
        device ∨
      Abandoned deviceAt device context.events := by
  rcases attended device left with (configured | recorded | queued) | abandoned
  · exact .inl (.inl configured)
  · exact .inl (.inr (.inl recorded))
  · obtain ⟨host, member, behind⟩ := List.mem_map.mp queued
    cases present : context.pendingStops[index]? with
    | none =>
      -- There is no entry at the place.
      left
      refine .inr (.inr (List.mem_map.mpr ⟨host, ?_, behind⟩))
      rwa [c64StopQueueRemoveAt, List.eraseIdx_of_length_le (List.getElem?_eq_none_iff.mp present)]
    | some entry =>
      rcases mem_queuedHosts_removeAt present member with kept | rfl
      · exact .inl (.inr (.inr (List.mem_map.mpr ⟨host, kept, behind⟩)))
      · rcases removed entry present device behind left with configured | recorded | abandoned
        · exact .inl (.inl configured)
        · exact .inl (.inr (.inl recorded))
        · exact .inr abandoned
  · exact .inr abandoned

theorem stops_attendanceSound {inTask : Bool} {pc : StopsPc}
    (sound : AttendanceSound deviceAt context) (here : context.worker = .stops inTask pc)
    (timely : RecordedInTime deviceAt context (.worker found)) :
    AttendanceSound deviceAt (c64ProcessPreviousDeviceStops context found inTask pc) := by
  obtain ⟨attended, made⟩ := sound
  rw [here] at made
  simp only [RecordedInTime, here] at timely
  have failed (index : Nat) : AttendanceSound deviceAt (recordStopFailure context inTask index) := by
    refine ⟨recordStopFailure_attended inTask index attended, ?_⟩
    unfold recordStopFailure
    dsimp only
    split <;> trivial
  cases pc with
  | enter =>
    simp only [c64ProcessPreviousDeviceStops]
    split <;> exact ⟨attended, trivial⟩
  | next index =>
    refine ⟨attended, ?_⟩
    simp only [c64ProcessPreviousDeviceStops]
    split <;> trivial
  | compare index current currentPort =>
    simp only [c64ProcessPreviousDeviceStops]
    split
    · rename_i matching
      refine ⟨removeAt_attended attended (fun entry present device behind => ?_) _, trivial⟩
      simp only [present, Option.any_some, StopEntry.isFor, Bool.and_eq_true,
        decide_eq_true_eq] at matching
      exact timely (by simp [present, StopEntry.isFor, matching]) device (matching.1 ▸ behind)
    · exact ⟨attended, trivial⟩
  | reach index =>
    simp only [c64ProcessPreviousDeviceStops]
    split
    · exact ⟨attended, trivial⟩
    · exact failed index
  | video index transport hasClient =>
    simp only [c64ProcessPreviousDeviceStops]
    split
    · exact ⟨attended, (by rintro ⟨⟩), (by rintro ⟨⟩)⟩
    · exact ⟨sendStop_attended index transport hasClient .video _ attended, sendStop_streamOff⟩
  | audio index transport hasClient videoStopped =>
    simp only [c64ProcessPreviousDeviceStops]
    split
    · exact ⟨attended, made, (by rintro ⟨⟩)⟩
    · exact ⟨sendStop_attended index transport hasClient .audio _ attended,
        fun stopped => sendStop_keepsOff (made stopped), sendStop_streamOff⟩
  | settle index videoStopped audioStopped =>
    simp only [c64ProcessPreviousDeviceStops]
    split
    · cases inTask <;> exact ⟨attended, trivial⟩
    · split
      · rename_i both
        simp only [Bool.and_eq_true] at both
        refine ⟨removeAt_attended attended (fun entry present device behind left => ?_) _, trivial⟩
        -- Both streams are off by now.
        obtain ⟨stream, last⟩ := left
        cases stream with
        | video => exact absurd last (made.1 both.1 entry present device behind)
        | audio => exact absurd last (made.2 both.2 entry present device behind)
      · exact failed index

theorem update_attendanceSound (sound : AttendanceSound deviceAt context)
    (timely : RecordedInTime deviceAt context .update) :
    AttendanceSound deviceAt (c64Update context context.update) := by
  obtain ⟨attended, made⟩ := sound
  cases here : context.update with
  | returned => exact ⟨attended, made⟩
  | readOld | request => exact ⟨attended, made⟩
  | record old new =>
    refine ⟨fun device left => (attended device left).imp_left ?_, made⟩
    rintro (configured | recorded | queued)
    · exact .inl configured
    · -- A transition that is pending stays as it is.
      right; left
      have pending : context.deviceTransition.isNone = false := by
        cases none : context.deviceTransition with
        | none => simp [RecordedDevice, none] at recorded
        | some => rfl
      simpa [RecordedDevice, c64Update, recordTransition, pending] using recorded
    · exact .inr (.inr queued)
  | write old new transition =>
    simp only [RecordedInTime, here] at timely
    refine ⟨fun device left => ?_, made⟩
    rcases attended device left with (configured | recorded | queued) | abandoned
    · rcases timely device configured left with still | recorded | queued | abandoned
      · exact .inl (.inl still)
      · exact .inl (.inr (.inl recorded))
      · exact .inl (.inr (.inr queued))
      · exact .inr abandoned
    · exact .inl (.inr (.inl recorded))
    · exact .inl (.inr (.inr queued))
    · exact .inr abandoned
  | flag old new transition =>
    simp only [c64Update]
    split <;> exact ⟨attended, made⟩
  | schedule old new =>
    simp only [c64Update]
    split
    · exact ⟨attended, made⟩
    · split <;> exact ⟨attended, made⟩
  | reserve =>
    simp only [c64Update]
    split
    · exact ⟨attended, made⟩
    · split <;> exact ⟨attended, made⟩
  | spawn =>
    simp only [c64Update]
    split
    · exact ⟨attended, trivial⟩
    · exact ⟨attended, made⟩

theorem switchStep_attendanceSound (sound : AttendanceSound deviceAt context)
    (same : HostSound deviceAt context) {op : SwitchOp}
    (timely : RecordedInTime deviceAt context op) :
    AttendanceSound deviceAt (switchStep context op) := by
  cases op with
  | change new =>
    simp only [switchStep]
    split
    · exact ⟨sound.attended, sound.made⟩
    · exact sound
  | update => exact update_attendanceSound sound timely
  | worker found =>
    simp only [switchStep, retryWorkerStep]
    split
    · rename_i pc here
      exact loop_attendanceSound sound here
    · rename_i pc here
      exact task_attendanceSound sound same here timely
    · rename_i pc here
      exact start_attendanceSound sound here timely
    · rename_i inTask pc here
      exact stops_attendanceSound sound here timely

end Invariant

section Claim

variable {Device : Type*} [DecidableEq Device] {deviceAt : String → Option Device}

/-- In every run in which names resolve to their host and what is started or left behind is
recorded, no device is left streaming unattended. -/
theorem switching_noneStranded (settings : UpdateSettings) (clientCreated : Bool)
    (ops : List SwitchOp)
    (resolves : EachStep switchStep (ResolvesToHost deviceAt)
      (createdSource settings clientCreated) ops)
    (timely : EachStep switchStep (RecordedInTime deviceAt)
      (createdSource settings clientCreated) ops) :
    Always switchStep (NoneStranded deviceAt) (createdSource settings clientCreated) ops := by
  have kept := @always_of_eachStep _ _ switchStep
    (fun context => HostSound deviceAt context ∧ AttendanceSound deviceAt context) _
    (fun _ _ sound met => ⟨switchStep_hostSound sound.1 met.1,
      switchStep_attendanceSound sound.2 sound.1 met.2⟩) _ ops (resolves.and timely)
    ⟨createdSource_hostSound settings clientCreated, by simp [createdSource, LeftStreaming,
      lastCommand], trivial⟩
  refine (kept.and (switching_scheduleSound settings clientCreated ops)).imp ?_
  rintro context ⟨⟨-, sound⟩, scheduled⟩ idle device left
  obtain ⟨untaken, unstopped⟩ := scheduled.settled idle
  -- An idle worker has nothing recorded and nothing queued.
  rcases sound.attended device left with (configured | recorded | queued) | abandoned
  · exact .inl configured
  · simp [RecordedDevice, untaken] at recorded
  · simp [QueuedDevice, queuedHosts, unstopped] at queued
  · exact .inr abandoned

/-- A device is started, then another one is selected, and the worker comes to rest. -/
def selectedWhileStreaming : List SwitchOp :=
  favourableSteps 24 ++ updateTo "192.168.1.65" 7 ++ favourableSteps 40

/-- A device that is switched away from while it streams is stopped. -/
theorem selectedWhileStreaming_noneStranded :
    Always switchStep (NoneStranded some) (createdSource (settingsFor "192.168.1.64") true)
        selectedWhileStreaming ∧
      ¬ LeftStreaming some "192.168.1.64" (selectedWhileStreaming.foldl switchStep
        (createdSource (settingsFor "192.168.1.64") true)).events :=
  ⟨switching_noneStranded (settingsFor "192.168.1.64") true selectedWhileStreaming
    (by decide +kernel) (by decide +kernel), by decide +kernel⟩

/-- A second device is selected, and its sockets fail after its video was started; then a third
one is selected. -/
def selectedAfterFailure : List SwitchOp :=
  favourableSteps 24 ++ updateTo "192.168.1.65" 7 ++ favourableSteps 14 ++
    SwitchOp.worker { favourable with sockets := false, portInUse := true } ::
      favourableSteps 13 ++ updateTo "192.168.1.66" 7 ++ favourableSteps 26

/-- The second device is left streaming by a start that failed. -/
theorem selectedAfterFailure_not_noneStranded :
    ¬ Always switchStep (NoneStranded some) (createdSource (settingsFor "192.168.1.64") true)
      selectedAfterFailure := by
  intro always
  have unattended := always.last
  generalize last : selectedAfterFailure.foldl switchStep
    (createdSource (settingsFor "192.168.1.64") true) = context at unattended
  have stranded : Idle context ∧ LeftStreaming some "192.168.1.65" context.events ∧
      deviceBehind some context.config.hostname ≠ some "192.168.1.65" ∧
      ¬ Abandoned some "192.168.1.65" context.events := by
    rw [← last]
    decide +kernel
  exact (unattended stranded.1 _ stranded.2.1).elim stranded.2.2.1 stranded.2.2.2

end Claim

end C64Stream
