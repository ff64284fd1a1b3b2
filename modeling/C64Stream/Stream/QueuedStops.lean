import C64Stream.Stream.ConfiguredDevice

/-! A queued stop does not end the stream of the configured device, unless it is for that device. -/

namespace C64Stream

section Property

variable {Device : Type*} [DecidableEq Device] (deviceAt : String → Option Device)

/-- The last command for each stream that a device received is a start. -/
def Running (device : Device) (events : List DeviceEvent) : Prop :=
  ∀ stream, lastCommand deviceAt device stream events = some true

/-- Once the worker is idle and the source is streaming, the configured device was started last. -/
def StreamKept (context : SwitchContext) : Prop :=
  Idle context → context.streaming →
    ∀ device ∈ deviceBehind deviceAt context.config.hostname,
      Running deviceAt device context.events

end Property

section Condition

variable {Device : Type*} (deviceAt : String → Option Device)

/-- A stop that is about to be sent for an entry is not for the device that is to keep streaming. -/
def StopsAnother (context : SwitchContext) (index : Nat) : Prop :=
  context.retryRequested ∨ context.deviceTransition.isSome ∨ ¬ context.streaming ∨
    ∀ entry ∈ context.pendingStops[index]?, ∀ device ∈ deviceBehind deviceAt entry.host,
      deviceBehind deviceAt context.config.hostname ≠ some device

/-- A start over REST goes to the device that is to be started. -/
def StartsHost (context : SwitchContext) (endpoint : Endpoint) : Prop :=
  context.transport ≠ .legacy → ∀ client ∈ context.restClient,
    deviceBehind deviceAt client.host = deviceBehind deviceAt endpoint.host

/-- A step does not take the stream from the configured device. -/
def LeavesStream (context : SwitchContext) : SwitchOp → Prop
  | .change _ => True
  | .update =>
    match context.update with
    -- A switch away from a device that is streaming or being started is recorded.
    | .write _ new _ =>
      deviceBehind deviceAt (clip hostCharacters new.host) =
          deviceBehind deviceAt context.config.hostname ∨
        context.deviceTransition.isSome ∨ ¬ context.streaming ∧ ¬ context.streamStartInFlight
    | _ => True
  | .worker found =>
    match context.worker with
    -- A repeated start is not lost behind the stop that precedes it.
    | .task (.restart _ _) =>
      found.command.legacy.stopReceived →
        found.command.legacy.sent || found.command.legacy.received
    | .start (.destination _ switching) =>
      switching → context.streaming → found.destination ∨ context.deviceTransition.isSome
    | .start (.switchVideo endpoint) | .start (.video endpoint) | .start (.audio endpoint) =>
      StartsHost deviceAt context endpoint
    | .stops _ (.video index _ _) | .stops _ (.audio index _ _ _) =>
      StopsAnother deviceAt context index
    | _ => True

variable [DecidableEq Device]

instance (context : SwitchContext) (index : Nat) :
    Decidable (StopsAnother deviceAt context index) :=
  inferInstanceAs (Decidable (_ ∨ _))

instance (context : SwitchContext) (endpoint : Endpoint) :
    Decidable (StartsHost deviceAt context endpoint) :=
  inferInstanceAs (Decidable (_ → _))

instance (context : SwitchContext) (op : SwitchOp) :
    Decidable (LeavesStream deviceAt context op) := by
  rcases op with _ | _ | _
  · exact inferInstanceAs (Decidable True)
  · dsimp only [LeavesStream]
    rcases context.update with ⟨⟩ <;> infer_instance
  · dsimp only [LeavesStream]
    rcases context.worker with _ | ⟨⟨⟩⟩ | ⟨⟨⟩⟩ | ⟨_, ⟨⟩⟩ <;> infer_instance

end Condition

section Invariant

variable {Device : Type*} [DecidableEq Device] {deviceAt : String → Option Device}

/-- The worker is about to start a device that was switched to. -/
def switchingTo : SwitchWorkerPc → Bool
  | .task (.rebuildRead taken) | .task (.retarget taken _ _) => taken
  | .task .cancel => true
  | .task (.readHost switching) | .start (.raise switching) | .start (.read switching)
  | .start (.reach _ switching) | .start (.destination _ switching) => switching
  | .start (.sockets _ videoStarted) => videoStarted
  | .start (.switchVideo _) | .start (.threads _) | .start (.create _) | .start (.audio _) => true
  | _ => false

/-- The worker starts a device from nothing, or gives a start up. -/
def startingAfresh : SwitchWorkerPc → Bool
  | .start (.raise switching) | .start (.read switching) | .start (.reach _ switching)
  | .start (.destination _ switching) => !switching
  | .start (.sockets _ videoStarted) => !videoStarted
  | .start (.disconnect _ _) | .start (.video _) | .start (.abort _ _) => true
  | _ => false

/-- The worker has raised the flag of a start. -/
def startRaised : SwitchWorkerPc → Bool
  | .start (.raise _) => false
  | .start _ => true
  | _ => false

/-- The endpoint that a start is made for. -/
def startEndpoint : SwitchWorkerPc → Option Endpoint
  | .start (.reach endpoint _) | .start (.disconnect endpoint _)
  | .start (.destination endpoint _) | .start (.switchVideo endpoint)
  | .start (.sockets endpoint _) | .start (.video endpoint) | .start (.threads endpoint)
  | .start (.create endpoint) | .start (.audio endpoint) => some endpoint
  | _ => none

/-- The endpoint whose video was started. -/
def videoEndpoint : SwitchWorkerPc → Option Endpoint
  | .start (.sockets endpoint videoStarted) => if videoStarted then some endpoint else none
  | .start (.threads endpoint) | .start (.create endpoint) | .start (.audio endpoint) =>
    some endpoint
  | _ => none

/-- While the source streams, the configured device runs, or a start of it is due. -/
structure StreamSound (deviceAt : String → Option Device) (context : SwitchContext) : Prop where
  raised : startRaised context.worker → context.streamStartInFlight
  afresh : startingAfresh context.worker → context.streaming = false
  current : ∀ endpoint ∈ startEndpoint context.worker,
    deviceBehind deviceAt endpoint.host = deviceBehind deviceAt context.config.hostname ∨
      context.deviceTransition.isSome
  started : ∀ endpoint ∈ videoEndpoint context.worker,
    ∀ device ∈ deviceBehind deviceAt endpoint.host,
      lastCommand deviceAt device .video context.events = some true
  kept : context.streaming → switchingTo context.worker ∨ context.deviceTransition.isSome ∨
    ∀ device ∈ deviceBehind deviceAt context.config.hostname,
      Running deviceAt device context.events

variable {context : SwitchContext} {found : WorkerFindings}

theorem StreamSound.outside {after : SwitchContext} (raised : startRaised after.worker = false)
    (afresh : startingAfresh after.worker = false) (start : startEndpoint after.worker = none)
    (video : videoEndpoint after.worker = none)
    (kept : after.streaming → switchingTo after.worker ∨ after.deviceTransition.isSome ∨
      ∀ device ∈ deviceBehind deviceAt after.config.hostname,
        Running deviceAt device after.events) :
    StreamSound deviceAt after :=
  ⟨by simp [raised], by simp [afresh], by simp [start], by simp [video], kept⟩

theorem kept_of_not_streaming {after : SwitchContext} (still : after.streaming = false)
    (on : after.streaming) : switchingTo after.worker ∨ after.deviceTransition.isSome ∨
      ∀ device ∈ deviceBehind deviceAt after.config.hostname,
        Running deviceAt device after.events := by
  simp [still] at on

theorem sendCommand_running {endpoint : Endpoint} {stream : AvStream} {device : Device}
    (whole : found.command.legacy.stopReceived →
      found.command.legacy.sent || found.command.legacy.received)
    (running : Running deviceAt device context.events) :
    Running deviceAt device (sendCommand context endpoint true stream found).1.events := by
  intro other
  have unstopped := @c64StreamControlTo_whole _ _ deviceAt endpoint stream device
    context.restClient context.transport context.streamRestDemotedUntilNs found.command other whole
  simp only [sendCommand, lastCommand_append]
  cases recent : lastCommand deviceAt device other (c64StreamControlTo context.transport
      context.restClient context.streamRestDemotedUntilNs endpoint true stream
      found.command).events with
  | none => exact running other
  | some enable =>
    cases enable with
    | true => rfl
    | false => exact absurd recent unstopped

theorem sendCommand_started {endpoint : Endpoint} {stream : AvStream} {device : Device}
    (ok : (sendCommand context endpoint true stream found).2 = true)
    (aimed : StartsHost deviceAt context endpoint)
    (behind : deviceBehind deviceAt endpoint.host = some device) :
    lastCommand deviceAt device stream
      (sendCommand context endpoint true stream found).1.events = some true := by
  simp only [sendCommand, lastCommand_append]
  rw [c64StreamControlTo_last ok behind aimed]
  rfl

theorem sendCommand_otherStream {endpoint : Endpoint} {enable : Bool} {stream other : AvStream}
    (different : other ≠ stream) {device : Device} :
    lastCommand deviceAt device other
      (sendCommand context endpoint enable stream found).1.events =
      lastCommand deviceAt device other context.events := by
  simp only [sendCommand, lastCommand_append]
  cases recent : lastCommand deviceAt device other (c64StreamControlTo context.transport
      context.restClient context.streamRestDemotedUntilNs endpoint enable stream
      found.command).events with
  | none => rfl
  | some on =>
    obtain ⟨command, member, -, same, -⟩ := exists_of_lastCommand recent
    obtain ⟨found, is, stream_eq, -⟩ := c64StreamControlTo_events _ member
    obtain rfl := DeviceEvent.sent.inj is
    exact absurd (same.symm.trans stream_eq) different

theorem sendStop_running {index : Nat} {transport : StreamTransport} {hasClient : Bool}
    {stream : AvStream} {device : Device}
    (another : ∀ entry ∈ context.pendingStops[index]?,
      deviceBehind deviceAt entry.host ≠ some device)
    (running : Running deviceAt device context.events) :
    Running deviceAt device
      (sendStop context index transport hasClient stream found).1.events := by
  unfold sendStop
  split
  · exact running
  · rename_i entry present
    intro other
    rw [lastCommand_append]
    cases recent : lastCommand deviceAt device other
        (c64StopPreviousStream transport hasClient entry stream found.command).1 with
    | none => exact running other
    | some on =>
      obtain ⟨command, member, -, -, reached⟩ := exists_of_lastCommand recent
      obtain ⟨found, is, -, -, host⟩ := c64StopPreviousStream_events _ member
      obtain rfl := DeviceEvent.sent.inj is
      exact absurd (host ▸ reached.2) (another entry present)

theorem loop_streamSound {pc : LoopPc} (sound : StreamSound deviceAt context)
    (here : context.worker = .loop pc) :
    StreamSound deviceAt (retryLoop context found pc) := by
  have kept : context.streaming → context.deviceTransition.isSome ∨
      ∀ device ∈ deviceBehind deviceAt context.config.hostname,
        Running deviceAt device context.events := fun on =>
    (sound.kept on).resolve_left (by simp [here, switchingTo])
  have next (requested start stops resend : Bool) :
      StreamSound deviceAt
        { context with worker := loopNext requested start stops resend } := by
    unfold loopNext
    dsimp only
    split
    · exact .outside rfl rfl rfl rfl fun on => .inr (kept on)
    · split <;> exact .outside rfl rfl rfl rfl fun on => .inr (kept on)
  cases pc with
  | returned => exact sound
  | begin | recheck =>
    simp only [retryLoop]
    split <;> exact .outside rfl rfl rfl rfl fun on => .inr (kept on)
  | clearRequested | finish | release => exact .outside rfl rfl rfl rfl fun on => .inr (kept on)
  | decide =>
    simp only [retryLoop]
    split
    · exact .outside rfl rfl rfl rfl fun on => .inr (kept on)
    · exact next _ _ _ _
  | waiting handover =>
    simp only [retryLoop]
    split
    · exact sound
    · exact next _ _ _ _

theorem task_streamSound {pc : TaskPc} (sound : StreamSound deviceAt context)
    (here : context.worker = .task pc) (timely : LeavesStream deviceAt context (.worker found)) :
    StreamSound deviceAt (c64AsyncRetryTask context found pc) := by
  obtain ⟨-, -, -, -, kept⟩ := sound
  rw [here] at kept
  simp only [LeavesStream, here] at timely
  cases pc with
  | readName | resolve | checkRebuild =>
    simp only [c64AsyncRetryTask]
    split <;> exact .outside rfl rfl rfl rfl fun on => .inr ((kept on).resolve_left (by rintro ⟨⟩))
  | rebuildRead taken => exact .outside rfl rfl rfl rfl kept
  | retarget taken host password =>
    simp only [c64AsyncRetryTask]
    cases taken <;> exact .outside rfl rfl rfl rfl kept
  | take =>
    simp only [c64AsyncRetryTask]
    split
    · exact .outside rfl rfl rfl rfl kept
    · exact .outside rfl rfl rfl rfl fun _ => .inl rfl
  | cancel => exact .outside rfl rfl rfl rfl fun _ => .inl rfl
  | readHost switching =>
    simp only [c64AsyncRetryTask]
    split
    · rename_i starts
      refine ⟨(by rintro ⟨⟩), fun afresh => ?_, (by rintro _ ⟨⟩), (by rintro _ ⟨⟩), kept⟩
      -- Without a switch, the start is made because nothing streams.
      simp only [startingAfresh, Bool.not_eq_true'] at afresh
      simpa [afresh] using starts
    · rename_i streams
      have unswitched : switching = false := by
        cases switching <;> simp_all
      subst unswitched
      exact .outside rfl rfl rfl rfl fun on => .inr ((kept on).resolve_left (by rintro ⟨⟩))
  | connectivity endpoint =>
    have settled (on : context.streaming) := (kept on).resolve_left (by rintro ⟨⟩)
    simp only [c64AsyncRetryTask]
    split <;> exact .outside rfl rfl rfl rfl fun on => .inr (settled on)
  | restart endpoint stream =>
    have settled (on : context.streaming) : context.deviceTransition.isSome ∨
        ∀ device ∈ deviceBehind deviceAt context.config.hostname, Running deviceAt device
          (sendCommand context endpoint true stream found).1.events :=
      ((kept on).resolve_left (by rintro ⟨⟩)).imp_right fun running device behind =>
        sendCommand_running timely (running device behind)
    simp only [c64AsyncRetryTask]
    split <;> exact .outside rfl rfl rfl rfl fun on => .inr (settled on)

/-- A step of the start keeps the stream. -/
theorem start_streamSound {pc : StartPc} (sound : StreamSound deviceAt context)
    (same : HostSound deviceAt context) (here : context.worker = .start pc)
    (timely : LeavesStream deviceAt context (.worker found)) :
    StreamSound deviceAt (c64StartStreaming context found pc) := by
  obtain ⟨raised, afresh, current, started, kept⟩ := sound
  rw [here] at raised afresh current started kept
  simp only [LeavesStream, here] at timely
  cases pc with
  | raise switching => exact ⟨fun _ => rfl, afresh, (by rintro _ ⟨⟩), (by rintro _ ⟨⟩), kept⟩
  | read switching =>
    refine ⟨raised, afresh, ?_, (by rintro _ ⟨⟩), kept⟩
    intro endpoint member
    obtain rfl := Option.some.inj member
    exact .inl same.sameDevice
  | reach endpoint switching =>
    simp only [c64StartStreaming]
    split
    · exact ⟨raised, (by rintro ⟨⟩), (by rintro _ ⟨⟩), (by rintro _ ⟨⟩), kept_of_not_streaming rfl⟩
    · split
      · rename_i fresh
        have unswitched : switching = false := by simpa using fresh.2
        subst unswitched
        exact ⟨raised, fun _ => afresh rfl, current, (by rintro _ ⟨⟩), kept⟩
      · exact ⟨raised, afresh, current, (by rintro _ ⟨⟩), kept⟩
  | disconnect endpoint stream =>
    have still : context.streaming = false := afresh rfl
    simp only [c64StartStreaming]
    split <;>
      exact ⟨raised, fun _ => still, current, (by rintro _ ⟨⟩), kept_of_not_streaming still⟩
  | destination endpoint switching =>
    simp only [c64StartStreaming]
    split
    · rename_i impossible
      refine ⟨raised, (by rintro ⟨⟩), (by rintro _ ⟨⟩), (by rintro _ ⟨⟩), fun on => ?_⟩
      cases switching with
      | false => simp [show context.streaming = false from afresh rfl] at on
      | true => exact .inr (.inl ((timely rfl on).resolve_left (by simpa using impossible)))
    · split
      · exact ⟨raised, (by rintro ⟨⟩), current, (by rintro _ ⟨⟩), fun _ => .inl rfl⟩
      · rename_i single
        have still : context.streaming = false := by
          cases switching with
          | false => exact afresh rfl
          | true => simpa using single
        exact ⟨raised, fun _ => still, current, (by rintro _ ⟨⟩), kept_of_not_streaming still⟩
  | switchVideo endpoint =>
    simp only [c64StartStreaming]
    split
    · rename_i ok
      refine ⟨raised, (by rintro ⟨⟩), current, ?_, fun _ => .inl rfl⟩
      intro other member device behind
      obtain rfl : endpoint = other := Option.some.inj member
      exact sendCommand_started ok timely behind
    · exact ⟨raised, fun _ => rfl, (by rintro _ ⟨⟩), (by rintro _ ⟨⟩), kept_of_not_streaming rfl⟩
  | sockets endpoint videoStarted =>
    simp only [c64StartStreaming]
    split
    · exact ⟨raised, (by rintro ⟨⟩), (by rintro _ ⟨⟩), (by rintro _ ⟨⟩), kept_of_not_streaming rfl⟩
    · split
      · rename_i done
        subst done
        exact ⟨raised, (by rintro ⟨⟩), current, started, fun _ => .inl rfl⟩
      · exact ⟨raised, fun _ => rfl, current, (by rintro _ ⟨⟩), kept_of_not_streaming rfl⟩
  | video endpoint =>
    have still : context.streaming = false := afresh rfl
    simp only [c64StartStreaming]
    split
    · rename_i ok
      refine ⟨raised, (by rintro ⟨⟩), current, ?_, fun _ => .inl rfl⟩
      intro other member device behind
      obtain rfl : endpoint = other := Option.some.inj member
      exact sendCommand_started ok timely behind
    · exact ⟨raised, fun _ => still, (by rintro _ ⟨⟩), (by rintro _ ⟨⟩), kept_of_not_streaming still⟩
  | threads endpoint => exact ⟨raised, (by rintro ⟨⟩), current, started, fun _ => .inl rfl⟩
  | create endpoint =>
    simp only [c64StartStreaming]
    split
    · exact ⟨raised, (by rintro ⟨⟩), current, started, fun _ => .inl rfl⟩
    · exact ⟨raised, fun _ => rfl, (by rintro _ ⟨⟩), (by rintro _ ⟨⟩), kept_of_not_streaming rfl⟩
  | audio endpoint =>
    simp only [c64StartStreaming]
    split
    · rename_i ok
      refine ⟨raised, (by rintro ⟨⟩), (by rintro _ ⟨⟩), (by rintro _ ⟨⟩), fun _ => .inr ?_⟩
      rcases current endpoint rfl with configured | pending
      · -- Both streams of the configured device were started.
        right
        intro device behind
        have behindEndpoint : deviceBehind deviceAt endpoint.host = some device :=
          configured.trans behind
        intro stream
        cases stream with
        | video =>
          exact (sendCommand_otherStream (by simp)).trans
            (started endpoint rfl device behindEndpoint)
        | audio => exact sendCommand_started ok timely behindEndpoint
      · exact .inl pending
    · exact ⟨raised, fun _ => rfl, (by rintro _ ⟨⟩), (by rintro _ ⟨⟩), kept_of_not_streaming rfl⟩
  | abort started stream =>
    have still : context.streaming = false := afresh rfl
    simp only [c64StartStreaming]
    split <;> exact ⟨raised, fun _ => still, (by rintro _ ⟨⟩), (by rintro _ ⟨⟩), kept_of_not_streaming still⟩
  | lower => exact .outside rfl rfl rfl rfl fun on => .inr ((kept on).resolve_left (by rintro ⟨⟩))

theorem recordStopFailure_running (inTask : Bool) (index : Nat) {device : Device}
    (running : Running deviceAt device context.events) :
    Running deviceAt device (recordStopFailure context inTask index).events := by
  unfold recordStopFailure
  dsimp only
  split
  · intro stream
    cases (c64StopQueueRecordFailure context.pendingStops index
      c64PreviousDeviceStopAttempts).1[index]? <;> exact running stream
  · exact running

theorem stops_running {inTask : Bool} {pc : StopsPc} {device : Device}
    (running : Running deviceAt device context.events)
    (another : ∀ index transport hasClient videoStopped,
      pc = .video index transport hasClient ∨ pc = .audio index transport hasClient videoStopped →
        ¬ context.retryRequested → ∀ entry ∈ context.pendingStops[index]?,
          deviceBehind deviceAt entry.host ≠ some device) :
    Running deviceAt device (c64ProcessPreviousDeviceStops context found inTask pc).events := by
  cases pc with
  | next index => exact running
  | enter | compare =>
    simp only [c64ProcessPreviousDeviceStops]
    split <;> exact running
  | reach index =>
    simp only [c64ProcessPreviousDeviceStops]
    split
    · exact running
    · exact recordStopFailure_running inTask index running
  | video index transport hasClient =>
    simp only [c64ProcessPreviousDeviceStops]
    split
    · exact running
    · rename_i unrequested
      exact sendStop_running (another index transport hasClient false (.inl rfl) unrequested)
        running
  | audio index transport hasClient videoStopped =>
    simp only [c64ProcessPreviousDeviceStops]
    split
    · exact running
    · rename_i unrequested
      exact sendStop_running (another index transport hasClient videoStopped (.inr rfl) unrequested)
        running
  | settle index videoStopped audioStopped =>
    simp only [c64ProcessPreviousDeviceStops]
    split
    · exact running
    · split
      · exact running
      · exact recordStopFailure_running inTask index running

theorem stops_streamSound {inTask : Bool} {pc : StopsPc} (sound : StreamSound deviceAt context)
    (here : context.worker = .stops inTask pc)
    (timely : LeavesStream deviceAt context (.worker found)) :
    StreamSound deviceAt (c64ProcessPreviousDeviceStops context found inTask pc) := by
  have frame := @stops_undisturbed context found inTask pc
  have kept (on : context.streaming) : context.deviceTransition.isSome ∨
      ∀ device ∈ deviceBehind deviceAt context.config.hostname, Running deviceAt device
        (c64ProcessPreviousDeviceStops context found inTask pc).events := by
    by_cases pending : context.deviceTransition.isSome
    · exact .inl pending
    · right
      intro device behind
      have running := ((sound.kept on).resolve_left (by simp [here, switchingTo])).resolve_left
        pending device behind
      refine stops_running running ?_
      rintro index transport hasClient videoStopped sends unrequested entry present same
      -- No stop goes to the device that is to keep streaming.
      have aside : StopsAnother deviceAt context index := by
        rcases sends with rfl | rfl <;> simpa only [LeavesStream, here] using timely
      rcases aside with requested | transition | still | another
      · exact unrequested requested
      · exact pending transition
      · exact still on
      · exact another entry present device same behind
  have settled : (c64ProcessPreviousDeviceStops context found inTask pc).streaming →
      (c64ProcessPreviousDeviceStops context found inTask pc).deviceTransition.isSome ∨
        ∀ device ∈ deviceBehind deviceAt
          (c64ProcessPreviousDeviceStops context found inTask pc).config.hostname,
          Running deviceAt device
            (c64ProcessPreviousDeviceStops context found inTask pc).events := by
    rw [frame.streaming, frame.transition, frame.config]
    exact kept
  rcases @stops_worker context found inTask pc with done | ⟨after, on⟩
  · refine .outside ?_ ?_ ?_ ?_ fun on => .inr (settled on)
    all_goals rw [done]; rfl
  · refine .outside ?_ ?_ ?_ ?_ fun on => .inr (settled on)
    all_goals rw [on]; rfl

theorem StreamSound.ofUpdate (sound : StreamSound deviceAt context) {after : SwitchContext}
    (worker : after.worker = context.worker) (inFlight : after.streamStartInFlight =
      context.streamStartInFlight) (streaming : after.streaming = context.streaming)
    (events : after.events = context.events)
    (host : deviceBehind deviceAt after.config.hostname =
        deviceBehind deviceAt context.config.hostname ∨ after.deviceTransition.isSome ∨
      ¬ context.streaming ∧ ¬ context.streamStartInFlight)
    (transition : context.deviceTransition.isSome → after.deviceTransition.isSome) :
    StreamSound deviceAt after := by
  obtain ⟨raised, afresh, current, started, kept⟩ := sound
  refine ⟨by rwa [worker, inFlight], by rwa [worker, streaming], ?_, by rwa [worker, events], ?_⟩
  · rw [worker]
    intro endpoint member
    rcases host with same | pending | ⟨-, lowered⟩
    · rw [same]
      exact (current endpoint member).imp_right transition
    · exact .inr pending
    · -- A start that has read its endpoint has raised its flag.
      refine absurd (raised ?_) lowered
      cases at_worker : context.worker with
      | start pc => cases pc <;> first | rfl | simp [at_worker, startEndpoint] at member
      | loop | task | stops => simp [at_worker, startEndpoint] at member
  · rw [worker, streaming, events]
    intro on
    rcases host with same | pending | ⟨still, -⟩
    · rw [same]
      exact (kept on).imp_right (.imp_left transition)
    · exact .inr (.inl pending)
    · exact absurd on still

theorem update_streamSound (sound : StreamSound deviceAt context)
    (timely : LeavesStream deviceAt context .update) :
    StreamSound deviceAt (c64Update context context.update) := by
  cases here : context.update with
  | returned => exact sound
  | readOld | request => exact sound.ofUpdate rfl rfl rfl rfl (.inl rfl) id
  | record old new =>
    refine sound.ofUpdate rfl rfl rfl rfl (.inl rfl) fun pending => ?_
    have present : context.deviceTransition.isNone = false := by simpa using pending
    simpa [c64Update, recordTransition, present] using pending
  | write old new transition =>
    simp only [LeavesStream, here] at timely
    exact sound.ofUpdate rfl rfl rfl rfl timely id
  | flag old new transition =>
    simp only [c64Update]
    split <;> exact sound.ofUpdate rfl rfl rfl rfl (.inl rfl) id
  | schedule old new =>
    simp only [c64Update]
    split
    · exact sound.ofUpdate rfl rfl rfl rfl (.inl rfl) id
    · split <;> exact sound.ofUpdate rfl rfl rfl rfl (.inl rfl) id
  | reserve =>
    simp only [c64Update]
    split
    · exact sound.ofUpdate rfl rfl rfl rfl (.inl rfl) id
    · split <;> exact sound.ofUpdate rfl rfl rfl rfl (.inl rfl) id
  | spawn =>
    simp only [c64Update]
    split
    · rename_i returned
      refine .outside rfl rfl rfl rfl fun on => .inr ((sound.kept on).resolve_left ?_)
      simp [returned, switchingTo]
    · exact sound

theorem switchStep_streamSound (sound : StreamSound deviceAt context)
    (same : HostSound deviceAt context) {op : SwitchOp}
    (timely : LeavesStream deviceAt context op) :
    StreamSound deviceAt (switchStep context op) := by
  cases op with
  | change new =>
    simp only [switchStep]
    split
    · exact sound.ofUpdate rfl rfl rfl rfl (.inl rfl) id
    · exact sound
  | update => exact update_streamSound sound timely
  | worker found =>
    simp only [switchStep, retryWorkerStep]
    split
    · rename_i pc here
      exact loop_streamSound sound here
    · rename_i pc here
      exact task_streamSound sound here timely
    · rename_i pc here
      exact start_streamSound sound same here timely
    · rename_i inTask pc here
      exact stops_streamSound sound here timely

end Invariant

section Claim

variable {Device : Type*} [DecidableEq Device] {deviceAt : String → Option Device}

/-- A device is started, another one is selected, and the first one is selected again. -/
def selectedBackAgain : List SwitchOp :=
  favourableSteps 24 ++ updateTo "192.168.1.65" 7 ++ favourableSteps 40 ++
    updateTo "192.168.1.64" 7 ++ favourableSteps 40

/-- Only the control port of a device that streams is changed. -/
def controlPortChanged : List SwitchOp :=
  favourableSteps 24 ++ SwitchOp.change { settingsFor "192.168.1.64" with controlPort := 65 } ::
    List.replicate 7 SwitchOp.update ++ favourableSteps 40

end Claim

end C64Stream
