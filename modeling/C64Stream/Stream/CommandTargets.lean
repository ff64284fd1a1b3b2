import C64Stream.Stream.Scheduling

/-! Stream commands reach the host they are meant for, if the REST client is retargeted in time. -/

namespace C64Stream

section Property

/-- A name is the host itself, or it was resolved to the host. -/
def Names (resolved : List (String × String)) (name host : String) : Prop :=
  name = host ∨ (name, host) ∈ resolved

instance (resolved : List (String × String)) (name host : String) :
    Decidable (Names resolved name host) :=
  inferInstanceAs (Decidable (_ ∨ _))

/-- A REST client has the host of an endpoint in its base URL, and carries its password. -/
def Aims (resolved : List (String × String)) (endpoint : Endpoint) (client : RestClient) : Prop :=
  Names resolved client.host endpoint.host ∧ client.password = endpoint.password

instance (resolved : List (String × String)) (endpoint : Endpoint) (client : RestClient) :
    Decidable (Aims resolved endpoint client) :=
  inferInstanceAs (Decidable (_ ∧ _))

/-- A target is the host of an endpoint, with its password or its control port. -/
def Target.IsAt (resolved : List (String × String)) (endpoint : Endpoint) : Target → Prop
  | .rest client => Aims resolved endpoint client
  | .legacy host controlPort => host = endpoint.host ∧ controlPort = endpoint.controlPort

instance (resolved : List (String × String)) (endpoint : Endpoint) (target : Target) :
    Decidable (target.IsAt resolved endpoint) := by
  cases target <;> unfold Target.IsAt <;> infer_instance

/-- A command was sent to the host that it was meant for. -/
def MeantFor (resolved : List (String × String)) : DeviceEvent → Prop
  | .sent command => command.target.IsAt resolved command.meant
  | .givenUp _ | .evicted _ => True

instance (resolved : List (String × String)) (event : DeviceEvent) :
    Decidable (MeantFor resolved event) := by
  cases event <;> unfold MeantFor <;> infer_instance

/-- Every command was sent to the host that it was meant for. -/
def CommandsMeantFor (context : SwitchContext) : Prop :=
  ∀ event ∈ context.events, MeantFor context.resolved event

instance (context : SwitchContext) : Decidable (CommandsMeantFor context) :=
  inferInstanceAs (Decidable (∀ event ∈ context.events, _))

end Property

section Condition

/-- An update has written its configuration, and is about to ask for the client's new target. -/
def aboutToFlag : UpdatePc → Bool
  | .flag old new transition => (hostChanged old new || passwordChanged old new) && !transition
  | _ => false

/-- An update has recorded a transition, and is about to write its configuration. -/
def aboutToWrite : UpdatePc → Bool
  | .write _ _ transition => transition
  | _ => false

/-- A retry task will give the client a new target. -/
def RetargetDue (context : SwitchContext) : Prop :=
  context.restRebuildPending ∨ context.deviceTransition.isSome ∨ aboutToFlag context.update

instance (context : SwitchContext) : Decidable (RetargetDue context) :=
  inferInstanceAs (Decidable (_ ∨ _))

/-- The client has its target, and the host of the commands has not been read yet. -/
def betweenTargetAndHost : SwitchWorkerPc → Bool
  | .task (.retarget taken _ _) => taken
  | .task .cancel | .task (.readHost _) | .start (.raise _) | .start (.read _) => true
  | _ => false

/-- A step keeps the target of the REST client and the host of the commands together. -/
def RetargetedInTime (context : SwitchContext) : SwitchOp → Prop
  | .change _ => True
  | .update =>
    match context.update with
    -- The address and the password do not change between the target and the host.
    | .write old new _ =>
      betweenTargetAndHost context.worker →
        (writtenConfig context.config old new).ipAddress = context.config.ipAddress ∧
          (writtenConfig context.config old new).password = context.config.password
    | _ => True
  | .worker found =>
    match context.worker with
    -- A name that moves to another address is followed by a new target.
    | .task (.resolve name) =>
      ∀ address ∈ found.resolved, clip hostCharacters address = context.config.ipAddress ∨
        RetargetDue context ∨ ∀ client ∈ context.restClient,
          Names ((name, clip hostCharacters address) :: context.resolved) client.host
            (clip hostCharacters address)
    -- No update is between announcing a new target and writing it, or the other way round.
    | .task .take =>
      if context.deviceTransition.isSome then ¬ aboutToWrite context.update
      else ¬ RetargetDue context
    -- What a start was made for is still configured when it is given up.
    | .start (.abort started _) =>
      context.config.ipAddress = started.host ∧ context.config.password = started.password
    | _ => True

instance (context : SwitchContext) (op : SwitchOp) : Decidable (RetargetedInTime context op) := by
  rcases op with _ | _ | _
  · exact inferInstanceAs (Decidable True)
  · dsimp only [RetargetedInTime]
    rcases context.update with ⟨⟩ <;> infer_instance
  · dsimp only [RetargetedInTime]
    rcases context.worker with _ | ⟨⟨⟩⟩ | ⟨⟨⟩⟩ | ⟨_, ⟨⟩⟩ <;> infer_instance

end Condition

section Commands

variable {resolved : List (String × String)} {endpoint : Endpoint} {enable : Bool}
  {stream : AvStream}

theorem Names.cons {name host : String} (names : Names resolved name host)
    (entry : String × String) : Names (entry :: resolved) name host :=
  names.imp_right (List.mem_cons_of_mem entry)

theorem MeantFor.cons {event : DeviceEvent} (meant : MeantFor resolved event)
    (entry : String × String) : MeantFor (entry :: resolved) event := by
  cases event with
  | sent command =>
    rcases command with ⟨meantFor, _ | _, _, _, _⟩
    · exact ⟨meant.1.cons entry, meant.2⟩
    · exact meant
  | givenUp | evicted => trivial

theorem c64SendControlCommandTo_meantFor {reply : LegacyReply} :
    ∀ event ∈ (c64SendControlCommandTo endpoint enable stream reply).1,
      MeantFor resolved event := by
  intro event member
  unfold c64SendControlCommandTo at member
  split at member
  · simp at member
  · dsimp only at member
    split at member
    · simp only [List.mem_cons, List.not_mem_nil, or_false] at member
      rcases member with rfl | rfl <;> exact ⟨rfl, rfl⟩
    · simp only [List.mem_singleton] at member
      subst member
      exact ⟨rfl, rfl⟩

theorem c64RestStreamControl_meantFor {client : RestClient}
    (aims : Aims resolved endpoint client) {reply : CommandReply} :
    ∀ event ∈ (c64RestStreamControl endpoint client enable stream reply).1,
      MeantFor resolved event := by
  intro event member
  unfold c64RestStreamControl at member
  dsimp only at member
  split at member <;> simp only [List.mem_cons, List.not_mem_nil, or_false] at member
  · rcases member with rfl | rfl <;> exact aims
  · subst member
    exact aims

theorem c64StreamControlTo_meantFor {restClient : Option RestClient}
    (aims : ∀ client ∈ restClient, Aims resolved endpoint client) {transport : StreamTransport}
    {restDemotedUntilNs : Nat} {reply : CommandReply} :
    ∀ event ∈ (c64StreamControlTo transport restClient restDemotedUntilNs endpoint enable stream
      reply).events, MeantFor resolved event := by
  intro event member
  have overPort := @c64SendControlCommandTo_meantFor resolved endpoint enable stream reply.legacy
  unfold c64StreamControlTo at member
  dsimp only at member
  split at member
  · simp at member
  · split at member
    · split at member
      · simp at member
      · exact overPort event (by simpa using member)
    · rename_i client
      have overRest := @c64RestStreamControl_meantFor resolved endpoint enable stream client
        (aims client rfl) reply
      split at member
      · -- Each of the five ends has the requests over REST, and those over the port at most.
        have both : event ∈ (c64SendControlCommandTo endpoint enable stream reply.legacy).1 ++
            (c64RestStreamControl endpoint client enable stream reply).1 := by
          repeat' split at member
          all_goals simp only [List.mem_append] at member ⊢
          all_goals tauto
        exact (List.mem_append.mp both).elim (overPort event) (overRest event)
      · exact overPort event (by simpa using member)

theorem c64StopPreviousStream_meantFor {transport : StreamTransport} {hasClient : Bool}
    {entry : StopEntry} {reply : CommandReply} :
    ∀ event ∈ (c64StopPreviousStream transport hasClient entry stream reply).1,
      MeantFor resolved event := by
  intro event member
  have overPort := @c64SendControlCommandTo_meantFor resolved
    ⟨entry.host, entry.controlPort, entry.password⟩ false stream reply.legacy
  have own : Aims resolved ⟨entry.host, entry.controlPort, entry.password⟩
      ⟨entry.host, entry.password⟩ := ⟨.inl rfl, rfl⟩
  unfold c64StopPreviousStream at member
  dsimp only at member
  split at member
  · split at member
    · simp only [List.mem_singleton] at member
      subst member
      exact own
    · split at member
      · simp only [List.mem_singleton] at member
        subst member
        exact own
      · rcases List.mem_append.mp member with sent | request
        · exact overPort event sent
        · simp only [List.mem_singleton] at request
          subst request
          exact own
  · exact overPort event member

end Commands

section Invariant

/-- The client of the source, if it has one, has the target of an endpoint. -/
def ClientAims (context : SwitchContext) (endpoint : Endpoint) : Prop :=
  ∀ client ∈ context.restClient, Aims context.resolved endpoint client

/-- The client of the source has the configured target. -/
def ClientIsCurrent (context : SwitchContext) : Prop :=
  ClientAims context (configuredEndpoint context.config)

/-- The endpoint that the worker has read for its commands. -/
def commandEndpoint : SwitchWorkerPc → Option Endpoint
  | .task (.connectivity endpoint) | .task (.restart endpoint _)
  | .start (.reach endpoint _) | .start (.disconnect endpoint _)
  | .start (.destination endpoint _) | .start (.switchVideo endpoint)
  | .start (.sockets endpoint _) | .start (.video endpoint) | .start (.threads endpoint)
  | .start (.create endpoint) | .start (.audio endpoint) | .start (.abort endpoint _) =>
    some endpoint
  | _ => none

/-- What the worker needs of the client where it is. -/
def WorkerAims (context : SwitchContext) : SwitchWorkerPc → Prop
  | .task (.rebuildRead _) => True
  | .task (.retarget taken host password) =>
    (host = context.config.ipAddress ∧ password = context.config.password) ∨
      (taken = false ∧ RetargetDue context)
  | .task .cancel | .task (.readHost _) | .start (.raise _) | .start (.read _) =>
    ClientIsCurrent context
  | pc =>
    (∀ endpoint ∈ commandEndpoint pc, ClientAims context endpoint) ∧
      (ClientIsCurrent context ∨ RetargetDue context)

/-- The commands so far went where they were meant to, and so will the next ones. -/
structure TargetSound (context : SwitchContext) : Prop where
  meant : CommandsMeantFor context
  /-- The password fits its buffer. -/
  fits : clip passwordCharacters context.config.password = context.config.password
  oldRead : ∀ old ∈ oldConfig context.update, old.password = context.config.password
  recorded : aboutToWrite context.update → context.deviceTransition.isSome
  aims : WorkerAims context context.worker

theorem rebuiltClient_aims {client : Option RestClient} {host password : String}
    {found : WorkerFindings} {resolved : List (String × String)} {endpoint : Endpoint}
    (sameHost : host = endpoint.host) (samePassword : password = endpoint.password) :
    ∀ rebuilt ∈ rebuiltClient client host password found, Aims resolved endpoint rebuilt := by
  intro rebuilt member
  unfold rebuiltClient at member
  split at member
  · simp at member
  · split at member
    · obtain rfl := Option.some.inj member
      exact ⟨.inl sameHost, samePassword⟩
    · split at member
      · obtain rfl := Option.some.inj member
        exact ⟨.inl sameHost, samePassword⟩
      · simp at member

variable {context : SwitchContext} {found : WorkerFindings}

theorem sendCommand_meant (meant : CommandsMeantFor context) {endpoint : Endpoint}
    (aims : ClientAims context endpoint) (enable : Bool) (stream : AvStream) :
    CommandsMeantFor (sendCommand context endpoint enable stream found).1 := by
  intro event member
  rcases List.mem_append.mp member with new | earlier
  · exact c64StreamControlTo_meantFor aims event new
  · exact meant event earlier

theorem task_targetSound {pc : TaskPc} (sound : TargetSound context)
    (here : context.worker = .task pc) (timely : RetargetedInTime context (.worker found)) :
    TargetSound (c64AsyncRetryTask context found pc) := by
  obtain ⟨meant, fits, oldRead, recorded, aims⟩ := sound
  rw [here] at aims
  simp only [RetargetedInTime, here] at timely
  cases pc with
  | readName =>
    refine ⟨meant, fits, oldRead, recorded, ?_⟩
    simp only [c64AsyncRetryTask]
    split <;> exact ⟨by simp [commandEndpoint], aims.2⟩
  | resolve name =>
    simp only [c64AsyncRetryTask]
    split
    · exact ⟨meant, fits, oldRead, recorded, aims⟩
    · rename_i address answered
      refine ⟨fun event member => (meant event member).cons _, fits, oldRead, recorded,
        by simp [commandEndpoint], ?_⟩
      rcases aims.2 with current | due
      · rcases timely address answered with same | due | named
        · -- The name is where it was.
          left
          intro client client_mem
          have aimed := current client client_mem
          exact ⟨same ▸ aimed.1.cons _, aimed.2⟩
        · exact .inr due
        · exact .inl fun client client_mem => ⟨named client client_mem, (current client client_mem).2⟩
      · exact .inr due
  | checkRebuild =>
    simp only [c64AsyncRetryTask]
    split
    · exact ⟨meant, fits, oldRead, recorded, trivial⟩
    · exact ⟨meant, fits, oldRead, recorded, by simp [commandEndpoint], aims.2⟩
  | rebuildRead taken => exact ⟨meant, fits, oldRead, recorded, .inl ⟨rfl, rfl⟩⟩
  | retarget taken host password =>
    refine ⟨meant, fits, oldRead, recorded, ?_⟩
    have current (same : host = context.config.ipAddress ∧ password = context.config.password) :
        ClientIsCurrent (c64AsyncRetryTask context found (.retarget taken host password)) :=
      rebuiltClient_aims same.1 same.2
    cases taken with
    | true => exact current (aims.resolve_right (by simp))
    | false => exact ⟨by simp [commandEndpoint], aims.imp current (·.2)⟩
  | take =>
    simp only [c64AsyncRetryTask]
    split
    · rename_i absent
      rw [absent] at timely
      exact ⟨meant, fits, oldRead, recorded, aims.2.resolve_right timely⟩
    · rename_i transition present
      rw [present] at timely
      refine ⟨?_, fits, oldRead, fun writes => absurd writes timely, trivial⟩
      intro event member
      rcases List.mem_append.mp member with dropped | earlier
      · simp only [Option.mem_toList, Option.map_eq_some_iff] at dropped
        obtain ⟨entry, -, rfl⟩ := dropped
        trivial
      · exact meant event earlier
  | cancel => exact ⟨meant, fits, oldRead, recorded, aims⟩
  | readHost switching =>
    simp only [c64AsyncRetryTask]
    split
    · exact ⟨meant, fits, oldRead, recorded, aims⟩
    · refine ⟨meant, fits, oldRead, recorded, ?_, .inl aims⟩
      intro endpoint member
      obtain rfl := Option.some.inj member
      exact aims
  | connectivity endpoint =>
    refine ⟨meant, fits, oldRead, recorded, ?_⟩
    simp only [c64AsyncRetryTask]
    split
    · exact aims
    · exact ⟨by simp [commandEndpoint], aims.2⟩
  | restart endpoint stream =>
    refine ⟨sendCommand_meant meant (aims.1 endpoint rfl) true stream, fits, oldRead, recorded, ?_⟩
    simp only [c64AsyncRetryTask]
    split
    · exact aims
    · exact ⟨by simp [commandEndpoint], aims.2⟩

theorem start_targetSound {pc : StartPc} (sound : TargetSound context)
    (here : context.worker = .start pc) (timely : RetargetedInTime context (.worker found)) :
    TargetSound (c64StartStreaming context found pc) := by
  obtain ⟨meant, fits, oldRead, recorded, aims⟩ := sound
  rw [here] at aims
  simp only [RetargetedInTime, here] at timely
  cases pc with
  | raise switching => exact ⟨meant, fits, oldRead, recorded, aims⟩
  | read switching =>
    refine ⟨meant, fits, oldRead, recorded, ?_, .inl aims⟩
    intro endpoint member
    obtain rfl := Option.some.inj member
    exact aims
  | reach endpoint switching =>
    simp only [c64StartStreaming]
    split
    · exact ⟨meant, fits, oldRead, recorded, by simp [commandEndpoint], aims.2⟩
    · split <;> exact ⟨meant, fits, oldRead, recorded, aims⟩
  | disconnect endpoint stream =>
    refine ⟨sendCommand_meant meant (aims.1 endpoint rfl) false stream, fits, oldRead, recorded, ?_⟩
    simp only [c64StartStreaming]
    split <;> exact aims
  | destination endpoint switching =>
    refine ⟨meant, fits, oldRead, recorded, ?_⟩
    simp only [c64StartStreaming]
    split
    · exact ⟨by simp [commandEndpoint], aims.2⟩
    · split <;> exact aims
  | switchVideo endpoint =>
    have sent := @sendCommand_meant context found meant endpoint (aims.1 endpoint rfl) true .video
    simp only [c64StartStreaming]
    split <;> exact ⟨sent, fits, oldRead, recorded, aims⟩
  | sockets endpoint videoStarted =>
    refine ⟨meant, fits, oldRead, recorded, ?_⟩
    simp only [c64StartStreaming]
    split
    · exact ⟨by simp [commandEndpoint], aims.2⟩
    · split <;> exact aims
  | video endpoint =>
    refine ⟨sendCommand_meant meant (aims.1 endpoint rfl) true .video, fits, oldRead, recorded, ?_⟩
    simp only [c64StartStreaming]
    split <;> exact aims
  | threads endpoint => exact ⟨meant, fits, oldRead, recorded, aims⟩
  | create endpoint =>
    simp only [c64StartStreaming]
    split <;> exact ⟨meant, fits, oldRead, recorded, aims⟩
  | audio endpoint =>
    have sent := @sendCommand_meant context found meant endpoint (aims.1 endpoint rfl) true .audio
    simp only [c64StartStreaming]
    split
    · exact ⟨sent, fits, oldRead, recorded, by simp [commandEndpoint], aims.2⟩
    · exact ⟨sent, fits, oldRead, recorded, aims⟩
  | abort started stream =>
    -- The stops of a start that is given up still go where the start went.
    have current : ClientIsCurrent context := by
      intro client member
      obtain ⟨names, carries⟩ := aims.1 started rfl client member
      rw [← timely.1] at names
      exact ⟨names, carries.trans timely.2.symm⟩
    refine ⟨sendCommand_meant meant current false stream, fits, oldRead, recorded, ?_⟩
    simp only [c64StartStreaming]
    split
    · exact aims
    · exact ⟨by simp [commandEndpoint], aims.2⟩
  | lower =>
    exact ⟨meant, fits, oldRead, recorded, by simp [c64StartStreaming, commandEndpoint], aims.2⟩

theorem recordStopFailure_meant (meant : CommandsMeantFor context) (inTask : Bool) (index : Nat) :
    CommandsMeantFor (recordStopFailure context inTask index) := by
  unfold recordStopFailure
  dsimp only
  split
  · intro event member
    rcases List.mem_append.mp member with gone | earlier
    · simp only [Option.mem_toList, Option.map_eq_some_iff] at gone
      obtain ⟨entry, -, rfl⟩ := gone
      trivial
    · exact meant event earlier
  · exact meant

theorem sendStop_meant (meant : CommandsMeantFor context) (index : Nat)
    (transport : StreamTransport) (hasClient : Bool) (stream : AvStream) :
    CommandsMeantFor (sendStop context index transport hasClient stream found).1 := by
  unfold sendStop
  split
  · exact meant
  · intro event member
    rcases List.mem_append.mp member with new | earlier
    · exact c64StopPreviousStream_meantFor event new
    · exact meant event earlier

theorem stops_meant (meant : CommandsMeantFor context) (inTask : Bool) (pc : StopsPc) :
    CommandsMeantFor (c64ProcessPreviousDeviceStops context found inTask pc) := by
  cases pc with
  | enter | next | compare =>
    simp only [c64ProcessPreviousDeviceStops]
    split <;> exact meant
  | reach index =>
    simp only [c64ProcessPreviousDeviceStops]
    split
    · exact meant
    · exact recordStopFailure_meant meant inTask index
  | video index transport hasClient =>
    simp only [c64ProcessPreviousDeviceStops]
    split
    · exact meant
    · exact @sendStop_meant context found meant index transport hasClient .video
  | audio index transport hasClient videoStopped =>
    simp only [c64ProcessPreviousDeviceStops]
    split
    · exact meant
    · exact @sendStop_meant context found meant index transport hasClient .audio
  | settle index videoStopped audioStopped =>
    simp only [c64ProcessPreviousDeviceStops]
    split
    · exact meant
    · split
      · exact meant
      · exact recordStopFailure_meant meant inTask index

theorem stops_targetSound {inTask : Bool} {pc : StopsPc} (sound : TargetSound context)
    (here : context.worker = .stops inTask pc) :
    TargetSound (c64ProcessPreviousDeviceStops context found inTask pc) := by
  obtain ⟨meant, fits, oldRead, recorded, aims⟩ := sound
  rw [here] at aims
  obtain ⟨⟨-, -, -, update, transition⟩, config, client, resolved, rebuild, -, -⟩ :=
    @stops_undisturbed context found inTask pc
  have settled : ClientIsCurrent (c64ProcessPreviousDeviceStops context found inTask pc) ∨
      RetargetDue (c64ProcessPreviousDeviceStops context found inTask pc) := by
    simpa only [ClientIsCurrent, ClientAims, RetargetDue, config, client, resolved, update, rebuild,
      transition] using aims.2
  refine ⟨stops_meant meant inTask pc, ?_, ?_, ?_, ?_⟩
  · rw [config]
    exact fits
  · rw [config, update]
    exact oldRead
  · rw [update, transition]
    exact recorded
  · rcases @stops_worker context found inTask pc with done | ⟨after, on⟩
    · rw [done]
      exact ⟨by simp [afterStops, commandEndpoint], settled⟩
    · rw [on]
      exact ⟨by simp [commandEndpoint], settled⟩

theorem loop_targetSound {pc : LoopPc} (sound : TargetSound context)
    (here : context.worker = .loop pc) : TargetSound (retryLoop context found pc) := by
  obtain ⟨meant, fits, oldRead, recorded, aims⟩ := sound
  rw [here] at aims
  have next (requested start stops resend : Bool) :
      WorkerAims context (loopNext requested start stops resend) := by
    unfold loopNext
    dsimp only
    split
    · exact ⟨by simp [commandEndpoint], aims.2⟩
    · split <;> exact ⟨by simp [commandEndpoint], aims.2⟩
  cases pc with
  | returned => exact ⟨meant, fits, oldRead, recorded, here ▸ aims⟩
  | begin | clearRequested | finish | release | recheck =>
    simp only [retryLoop]
    first
    | exact ⟨meant, fits, oldRead, recorded, by simp [commandEndpoint], aims.2⟩
    | split <;> exact ⟨meant, fits, oldRead, recorded, by simp [commandEndpoint], aims.2⟩
  | decide =>
    simp only [retryLoop]
    split
    · exact ⟨meant, fits, oldRead, recorded, by simp [commandEndpoint], aims.2⟩
    · exact ⟨meant, fits, oldRead, recorded, next _ _ _ _⟩
  | waiting handover =>
    simp only [retryLoop]
    split
    · exact ⟨meant, fits, oldRead, recorded, here ▸ aims⟩
    · exact ⟨meant, fits, oldRead, recorded, next _ _ _ _⟩

theorem writtenConfig_sameTarget {config old : SwitchConfig} {new : UpdateSettings}
    (fits : clip passwordCharacters config.password = config.password)
    (read : old.password = config.password)
    (same : (hostChanged old new || passwordChanged old new) = false) :
    (writtenConfig config old new).ipAddress = config.ipAddress ∧
      (writtenConfig config old new).password = config.password := by
  simp only [Bool.or_eq_false_iff] at same
  refine ⟨by simp [writtenConfig, same.1], ?_⟩
  have unchanged : old.password = new.password := by simpa [passwordChanged] using same.2
  simp [writtenConfig, ← unchanged, read, fits]

theorem WorkerAims.ofTarget {after : SwitchContext} {pc : SwitchWorkerPc}
    (aims : WorkerAims context pc) (client : after.restClient = context.restClient)
    (resolved : after.resolved = context.resolved)
    (address : after.config.ipAddress = context.config.ipAddress)
    (password : after.config.password = context.config.password)
    (due : RetargetDue context → RetargetDue after) : WorkerAims after pc := by
  have aimed (endpoint : Endpoint) : ClientAims context endpoint → ClientAims after endpoint := by
    simp only [ClientAims, client, resolved]
    exact id
  have current : ClientIsCurrent context → ClientIsCurrent after := by
    simp only [ClientIsCurrent, ClientAims, Aims, configuredEndpoint, client, resolved, address,
      password]
    exact id
  unfold WorkerAims at aims ⊢
  split at aims
  · trivial
  · rw [address, password]
    exact aims.imp_right fun ⟨early, ahead⟩ => ⟨early, due ahead⟩
  all_goals
    first
    | exact current aims
    | exact ⟨fun endpoint member => aimed endpoint (aims.1 endpoint member), aims.2.imp current due⟩

theorem WorkerAims.ofDue {after : SwitchContext} {pc : SwitchWorkerPc}
    (aims : WorkerAims context pc) (client : after.restClient = context.restClient)
    (resolved : after.resolved = context.resolved) (due : RetargetDue after)
    (outside : ¬ betweenTargetAndHost pc) : WorkerAims after pc := by
  have aimed (endpoint : Endpoint) : ClientAims context endpoint → ClientAims after endpoint := by
    simp only [ClientAims, client, resolved]
    exact id
  unfold WorkerAims at aims ⊢
  split at aims
  · trivial
  · rename_i taken host password
    cases taken with
    | true => exact absurd rfl outside
    | false => exact .inr ⟨rfl, due⟩
  all_goals
    first
    | exact absurd rfl outside
    | exact ⟨fun endpoint member => aimed endpoint (aims.1 endpoint member), .inr due⟩

/-- A step of an update keeps the client aimed. -/
theorem update_targetSound (sound : TargetSound context)
    (timely : RetargetedInTime context .update) :
    TargetSound (c64Update context context.update) := by
  obtain ⟨meant, fits, oldRead, recorded, aims⟩ := sound
  -- Most steps leave the targets alone and owe nothing.
  have kept {after : SwitchContext} (events : after.events = context.events)
      (config : after.config = context.config) (client : after.restClient = context.restClient)
      (resolved : after.resolved = context.resolved) (worker : after.worker = context.worker)
      (due : RetargetDue context → RetargetDue after)
      (oldRead : ∀ old ∈ oldConfig after.update, old.password = after.config.password)
      (recorded : aboutToWrite after.update → after.deviceTransition.isSome) :
      TargetSound after := by
    refine ⟨?_, config ▸ fits, oldRead, recorded, ?_⟩
    · simpa only [CommandsMeantFor, events, resolved] using meant
    · rw [worker]
      exact aims.ofTarget client resolved (by rw [config]) (by rw [config]) due
  cases here : context.update with
  | returned => exact ⟨meant, fits, oldRead, recorded, aims⟩
  | readOld new =>
    refine kept rfl rfl rfl rfl rfl ?_ ?_ (by simp [c64Update, aboutToWrite])
    · simp [RetargetDue, here, c64Update, aboutToFlag]
    · intro old member
      obtain rfl := Option.some.inj member
      rfl
  | record old new =>
    refine kept rfl rfl rfl rfl rfl ?_ ?_ ?_
    · simp only [RetargetDue, here, aboutToFlag, c64Update, recordTransition]
      rintro (rebuild | pending | flag)
      · exact .inl rebuild
      · rw [Option.isSome_iff_ne_none] at pending
        exact .inr (.inl (by simpa [pending] using Option.isSome_iff_ne_none.mpr pending))
      · cases flag
    · intro read member
      exact oldRead read (by rw [here]; exact member)
    · simp only [c64Update, recordTransition, aboutToWrite]
      intro needed
      cases present : context.deviceTransition <;> simp [needed]
  | write old new transition =>
    have read : old.password = context.config.password := oldRead old (by rw [here]; rfl)
    by_cases same : (hostChanged old new || passwordChanged old new) = false
    · obtain ⟨address, password⟩ := writtenConfig_sameTarget fits read same
      refine ⟨meant, clip_clip _ _, by simp [c64Update, oldConfig],
        by simp [c64Update, aboutToWrite], ?_⟩
      refine aims.ofTarget rfl rfl address password ?_
      simp only [RetargetDue, here, c64Update, aboutToFlag]
      tauto
    · refine ⟨meant, clip_clip _ _, by simp [c64Update, oldConfig],
        by simp [c64Update, aboutToWrite], ?_⟩
      have due : RetargetDue (c64Update context (.write old new transition)) := by
        cases transition with
        | true => exact .inr (.inl (recorded (by rw [here]; rfl)))
        | false =>
          refine .inr (.inr ?_)
          simp only [Bool.not_eq_false] at same
          simp [c64Update, aboutToFlag, same]
      by_cases inside : betweenTargetAndHost context.worker
      · -- The condition leaves the target as it is here.
        simp only [RetargetedInTime, here] at timely
        obtain ⟨address, password⟩ := timely inside
        exact aims.ofTarget rfl rfl address password fun _ => due
      · exact aims.ofDue rfl rfl due inside
  | flag old new transition =>
    refine kept ?_ ?_ ?_ ?_ ?_ ?_ (by simp [c64Update, oldConfig]) (by simp [c64Update, aboutToWrite])
    all_goals simp only [c64Update]
    · split <;> rfl
    · split <;> rfl
    · split <;> rfl
    · split <;> rfl
    · split <;> rfl
    · simp only [RetargetDue, here, aboutToFlag]
      rintro (rebuild | pending | announced)
      · split <;> simp [rebuild]
      · split <;> simp [pending]
      · rw [if_pos announced]
        simp
  | schedule old new =>
    refine kept rfl rfl rfl rfl rfl ?_ ?_ ?_ <;> simp only [c64Update]
    · simp only [RetargetDue, here, aboutToFlag]
      tauto
    · split
      · simp [oldConfig]
      · split <;> simp [oldConfig]
    · split
      · simp [aboutToWrite]
      · split <;> simp [aboutToWrite]
  | request =>
    refine kept rfl rfl rfl rfl rfl ?_ (by simp [c64Update, oldConfig])
      (by simp [c64Update, aboutToWrite])
    simp [RetargetDue, here, c64Update, aboutToFlag]
  | reserve =>
    simp only [c64Update]
    split
    · refine kept rfl rfl rfl rfl rfl ?_ (by simp [oldConfig]) (by simp [aboutToWrite])
      simp [RetargetDue, here, aboutToFlag]
    · split
      all_goals
        refine kept rfl rfl rfl rfl rfl ?_ (by simp [oldConfig]) (by simp [aboutToWrite])
        simp [RetargetDue, here, aboutToFlag]
  | spawn =>
    simp only [c64Update]
    split
    · rename_i returned
      rw [returned] at aims
      refine ⟨meant, fits, by simp [oldConfig], by simp [aboutToWrite], by simp [commandEndpoint],
        aims.2.imp id ?_⟩
      simp [RetargetDue, here, aboutToFlag]
    · exact ⟨meant, fits, oldRead, recorded, aims⟩

theorem switchStep_targetSound (sound : TargetSound context) {op : SwitchOp}
    (timely : RetargetedInTime context op) : TargetSound (switchStep context op) := by
  cases op with
  | change new =>
    simp only [switchStep]
    split
    · rename_i returned
      obtain ⟨meant, fits, -, -, aims⟩ := sound
      refine ⟨meant, fits, by simp [oldConfig], by simp [aboutToWrite],
        aims.ofTarget rfl rfl rfl rfl ?_⟩
      simp [RetargetDue, returned, aboutToFlag]
    · exact sound
  | update => exact update_targetSound sound timely
  | worker found =>
    simp only [switchStep, retryWorkerStep]
    split
    · rename_i pc here
      exact loop_targetSound sound here
    · rename_i pc here
      exact task_targetSound sound here timely
    · rename_i pc here
      exact start_targetSound sound here timely
    · rename_i inTask pc here
      exact stops_targetSound sound here

theorem createdSource_targetSound {settings : UpdateSettings}
    (fits : clip hostCharacters settings.host = settings.host) (clientCreated : Bool) :
    TargetSound (createdSource settings clientCreated) := by
  refine ⟨by simp [CommandsMeantFor, createdSource], clip_clip _ _, by simp [createdSource, oldConfig],
    by simp [createdSource, aboutToWrite], by simp [createdSource, commandEndpoint], .inl ?_⟩
  intro client member
  simp only [createdSource] at member
  split at member
  · simp at member
  · obtain rfl := Option.some.inj member
    exact ⟨.inl fits.symm, rfl⟩

end Invariant

section Claim

/-- In every run that retargets the REST client in time, every stream command is sent to the host
it is meant for. -/
theorem switching_commandsMeantFor (settings : UpdateSettings)
    (fits : clip hostCharacters settings.host = settings.host) (clientCreated : Bool)
    (ops : List SwitchOp)
    (timely : EachStep switchStep RetargetedInTime (createdSource settings clientCreated) ops) :
    Always switchStep CommandsMeantFor (createdSource settings clientCreated) ops :=
  (@always_of_eachStep _ _ _ TargetSound _
    (fun _ _ sound met => switchStep_targetSound sound met) _ ops timely
    (createdSource_targetSound fits clientCreated)).imp fun _ sound => sound.meant

/-- A device is started, then another one is selected, and its start follows. -/
def selectedInTime : List SwitchOp :=
  favourableSteps 24 ++ updateTo "192.168.1.65" 7 ++ favourableSteps 40

/-- A switch between two attempts is followed by a retarget, and no command is misdirected. -/
theorem selectedInTime_commandsMeantFor :
    Always switchStep CommandsMeantFor (createdSource (settingsFor "192.168.1.64") true)
        selectedInTime ∧
      (selectedInTime.foldl switchStep
        (createdSource (settingsFor "192.168.1.64") true)).restClient =
        some ⟨"192.168.1.65", ""⟩ :=
  ⟨switching_commandsMeantFor (settingsFor "192.168.1.64") (by decide +kernel) true selectedInTime
    (by decide +kernel), by decide +kernel⟩

/-- A device is selected after an attempt has looked for a new target and before it reads the
host. -/
def selectedBeforeRead : List SwitchOp :=
  favourableSteps 5 ++ updateTo "192.168.1.65" 7 ++ favourableSteps 10

/-- The commands for the device that was just selected are sent to the one selected before. -/
theorem selectedBeforeRead_not_commandsMeantFor :
    ¬ Always switchStep CommandsMeantFor (createdSource (settingsFor "192.168.1.64") true)
        selectedBeforeRead ∧
      DeviceEvent.sent
          ⟨⟨"192.168.1.65", 64, ""⟩, .rest ⟨"192.168.1.64", ""⟩, true, .video, true⟩ ∈
        (selectedBeforeRead.foldl switchStep
          (createdSource (settingsFor "192.168.1.64") true)).events := by
  decide +kernel

end Claim

end C64Stream
