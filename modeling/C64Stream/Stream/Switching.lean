import C64Stream.Stream.DeviceHistory

/-! A switch of devices: the settings change on one thread, and the retry worker follows. -/

namespace C64Stream

section Context

/-- The network settings that `c64_update` is called with. -/
structure UpdateSettings where
  host : String
  password : String
  controlPort : Nat
  videoPort : Nat
  audioPort : Nat
  transport : StreamTransport
  obsIpChanged : Bool
  /-- The DNS server or the automatic detection of the address changed. -/
  detectionChanged : Bool
  deriving DecidableEq

/-- The configuration that is read and written under `config_mutex`. -/
structure SwitchConfig where
  hostname : String
  ipAddress : String
  password : String
  controlPort : Nat
  videoPort : Nat
  audioPort : Nat
  deriving DecidableEq

/-- The endpoint that the source is to be switched away from. -/
structure Transition where
  host : String
  controlPort : Nat
  password : String
  restDemotedUntilNs : Nat
  deriving DecidableEq

/-- Where a call of `c64_update` is: the step it makes next. -/
inductive UpdatePc where
  | returned
  /-- Takes a snapshot of the configuration. -/
  | readOld (new : UpdateSettings)
  /-- Looks whether the old endpoint may be streaming, and records it. -/
  | record (old : SwitchConfig) (new : UpdateSettings)
  | write (old : SwitchConfig) (new : UpdateSettings) (transition : Bool)
  /-- Asks for the REST client to be retargeted. -/
  | flag (old : SwitchConfig) (new : UpdateSettings) (transition : Bool)
  /-- Looks whether the retry worker is wanted and whether it is running. -/
  | schedule (old : SwitchConfig) (new : UpdateSettings)
  | request
  | reserve
  /-- Joins the last worker thread and creates a new one. -/
  | spawn
  deriving DecidableEq

/-- Where the loop of the retry worker is. -/
inductive LoopPc where
  | returned
  | begin
  | clearRequested
  /-- Ends the task. -/
  | finish
  | decide
  | waiting (handover : Bool)
  | release
  /-- Looks at the requests once more after the slot was handed back. -/
  | recheck
  deriving DecidableEq

/-- Where a retry task is, in front of the start of the streams. -/
inductive TaskPc where
  | readName
  | resolve (name : String)
  | checkRebuild
  /-- Reads the target for the REST client; after a transition was taken, or before. -/
  | rebuildRead (taken : Bool)
  | retarget (taken : Bool) (host password : String)
  | take
  | cancel
  | readHost (switching : Bool)
  | connectivity (endpoint : Endpoint)
  /-- Repeats the start command for a stream. -/
  | restart (endpoint : Endpoint) (stream : AvStream)
  deriving DecidableEq

/-- Where the start of the streams is. -/
inductive StartPc where
  | raise (switching : Bool)
  | read (switching : Bool)
  | reach (endpoint : Endpoint) (switching : Bool)
  /-- Stops a stream of an earlier session. -/
  | disconnect (endpoint : Endpoint) (stream : AvStream)
  | destination (endpoint : Endpoint) (switching : Bool)
  /-- Starts the video of the new device while the old one is still received. -/
  | switchVideo (endpoint : Endpoint)
  | sockets (endpoint : Endpoint) (videoStarted : Bool)
  | video (endpoint : Endpoint)
  | threads (endpoint : Endpoint)
  | create (endpoint : Endpoint)
  | audio (endpoint : Endpoint)
  /-- Stops a stream after a failure; the endpoint is the one the start was made for. -/
  | abort (started : Endpoint) (stream : AvStream)
  | lower
  deriving DecidableEq

/-- Where the stopping of the previous devices is. -/
inductive StopsPc where
  | enter
  | next (index : Nat)
  | compare (index : Nat) (current : String) (currentPort : Nat)
  | reach (index : Nat)
  | video (index : Nat) (transport : StreamTransport) (hasClient : Bool)
  | audio (index : Nat) (transport : StreamTransport) (hasClient videoStopped : Bool)
  | settle (index : Nat) (videoStopped audioStopped : Bool)
  deriving DecidableEq

/-- Where the retry worker is: the step it makes next. -/
inductive SwitchWorkerPc where
  | loop (pc : LoopPc)
  | task (pc : TaskPc)
  | start (pc : StartPc)
  /-- Stops the previous devices, at the end of a task or without one. -/
  | stops (inTask : Bool) (pc : StopsPc)
  deriving DecidableEq

/-- The source as far as a switch of devices goes, with the two threads and what happened. -/
structure SwitchContext where
  config : SwitchConfig
  transport : StreamTransport
  restClient : Option RestClient
  restRebuildPending : Bool
  streamRestDemotedUntilNs : Nat
  /-- The fields of a transition, while one is pending. -/
  deviceTransition : Option Transition
  pendingStops : List StopEntry
  streaming : Bool
  streamStartInFlight : Bool
  udpPortConflict : Bool
  retryRequested : Bool
  retryThreadActive : Bool
  retryInProgress : Bool
  update : UpdatePc
  worker : SwitchWorkerPc
  /-- What happened to the devices, latest first. -/
  events : List DeviceEvent
  /-- The addresses that names have been resolved to. -/
  resolved : List (String × String)
  deriving DecidableEq

/-- What the worker finds outside the context when it makes a step. -/
structure WorkerFindings where
  resolved : Option String
  retargeted : Bool
  created : Bool
  reachable : Bool
  /-- The destination of the streams can be built. -/
  destination : Bool
  sockets : Bool
  portInUse : Bool
  threads : Bool
  /-- A handover peer is set. -/
  handoverPeer : Bool
  /-- The time for which a handover is held is not over. -/
  held : Bool
  restartDue : Bool
  keepWaiting : Bool
  command : CommandReply
  deriving DecidableEq

end Context

section Update

/-- Text copied into a buffer that holds so many characters; a character stands for a byte. -/
def clip (size : Nat) (text : String) : String :=
  String.ofList (text.toList.take size)

theorem clip_clip (size : Nat) (text : String) : clip size (clip size text) = clip size text := by
  simp [clip, List.take_take]

def hostCharacters : Nat := 63

def passwordCharacters : Nat := 255

def c64ControlPort : Nat := 64

def c64DefaultVideoPort : Nat := 21000

def c64DefaultAudioPort : Nat := 21001

/-- The settings with their defaults. -/
def UpdateSettings.withDefaults (new : UpdateSettings) : UpdateSettings :=
  { new with
    controlPort := if new.controlPort = 0 then c64ControlPort else new.controlPort
    videoPort := if new.videoPort = 0 then c64DefaultVideoPort else new.videoPort
    audioPort := if new.audioPort = 0 then c64DefaultAudioPort else new.audioPort }

def hostChanged (old : SwitchConfig) (new : UpdateSettings) : Bool :=
  old.hostname != new.host

def passwordChanged (old : SwitchConfig) (new : UpdateSettings) : Bool :=
  old.password != new.password

def portsChanged (old : SwitchConfig) (new : UpdateSettings) : Bool :=
  new.videoPort != old.videoPort || new.audioPort != old.audioPort ||
    new.controlPort != old.controlPort

/-- The configuration as an update leaves it; a new host is not resolved yet. -/
def writtenConfig (config old : SwitchConfig) (new : UpdateSettings) : SwitchConfig where
  hostname := clip hostCharacters new.host
  ipAddress := if hostChanged old new then clip hostCharacters new.host else config.ipAddress
  password := clip passwordCharacters new.password
  controlPort := new.controlPort
  videoPort := new.videoPort
  audioPort := new.audioPort

/-- The configuration that an update has taken a snapshot of, until it writes the new one. -/
def oldConfig : UpdatePc → Option SwitchConfig
  | .record old _ | .write old _ _ => some old
  | _ => none

/-- Record the endpoint that is left behind, unless nothing is streaming or one is recorded. -/
def recordTransition (context : SwitchContext) (old : SwitchConfig) (new : UpdateSettings) :
    SwitchContext :=
  let peerMayBeStreaming := context.streaming || context.streamStartInFlight
  let needsDeviceTransition := (portsChanged old new || hostChanged old new) && peerMayBeStreaming
  let deviceTransition :=
    if needsDeviceTransition && context.deviceTransition.isNone then
      some ⟨old.ipAddress, old.controlPort, old.password, context.streamRestDemotedUntilNs⟩
    else context.deviceTransition
  { context with
    deviceTransition := deviceTransition
    update := .write old new needsDeviceTransition }

/-- The next step of a call of `c64_update`, and of the `c64_schedule_retry` at its end. -/
def c64Update (context : SwitchContext) : UpdatePc → SwitchContext
  | .returned => context
  | .readOld new => { context with update := .record context.config new }
  | .record old new => recordTransition context old new
  | .write old new transition =>
    { context with
      config := writtenConfig context.config old new
      update := .flag old new transition }
  | .flag old new transition =>
    let context :=
      if (hostChanged old new || passwordChanged old new) && !transition then
        { context with streamRestDemotedUntilNs := 0, restRebuildPending := true }
      else context
    { context with
      udpPortConflict :=
        if portsChanged old new || new.obsIpChanged then false else context.udpPortConflict
      update := .schedule old new }
  | .schedule old new =>
    let shouldScheduleRetry :=
      !context.streaming || portsChanged old new || hostChanged old new || new.obsIpChanged ||
        new.detectionChanged || passwordChanged old new
    let update : UpdatePc :=
      if !shouldScheduleRetry then .returned
      else if context.retryInProgress || context.retryThreadActive then .request
      else .reserve
    { context with update := update }
  | .request => { context with retryRequested := true, update := .returned }
  | .reserve =>
    if context.retryThreadActive then { context with update := .returned }
    else if context.retryInProgress then
      { context with retryThreadActive := false, update := .returned }
    else
      { context with retryThreadActive := true, retryInProgress := true, update := .spawn }
  | .spawn =>
    -- The call waits here until the last thread has returned.
    if context.worker = .loop .returned then
      { context with worker := .loop .clearRequested, update := .returned }
    else context

end Update

section Worker

/-- The endpoint that is configured. -/
def configuredEndpoint (config : SwitchConfig) : Endpoint :=
  ⟨config.ipAddress, config.controlPort, config.password⟩

/-- Send a command to an endpoint, and whether it succeeded. -/
def sendCommand (context : SwitchContext) (endpoint : Endpoint) (enable : Bool)
    (stream : AvStream) (found : WorkerFindings) : SwitchContext × Bool :=
  let result := c64StreamControlTo context.transport context.restClient
    context.streamRestDemotedUntilNs endpoint enable stream found.command
  ({ context with
      events := result.events ++ context.events
      streamRestDemotedUntilNs := result.restDemotedUntilNs }, result.ok)

/-- Where the worker goes once the previous devices are dealt with. -/
def afterStops (inTask : Bool) : SwitchWorkerPc :=
  .loop (if inTask then .finish else .decide)

/-- The target of the REST client, as `c64_rebuild_rest_client` leaves it. -/
def rebuiltClient (client : Option RestClient) (host password : String)
    (found : WorkerFindings) : Option RestClient :=
  if NothingToStop host then none
  else if client.isSome && found.retargeted then some ⟨host, password⟩
  else if found.created then some ⟨host, password⟩
  else none

/-- Move a recorded transition into the queue of the devices to be stopped. -/
def takeTransition (context : SwitchContext) (transition : Transition) : SwitchContext :=
  let (queue, dropped) := c64StopQueueAdd context.pendingStops transition.host
    transition.controlPort transition.password transition.restDemotedUntilNs
  { context with
    pendingStops := queue
    events := (dropped.map DeviceEvent.evicted).toList ++ context.events
    deviceTransition := none
    streamRestDemotedUntilNs := 0
    worker := .task (.rebuildRead true) }

/-- The next step of a retry task. -/
def c64AsyncRetryTask (context : SwitchContext) (found : WorkerFindings) : TaskPc → SwitchContext
  | .readName =>
    let name := context.config.hostname
    { context with worker := .task (if name = "" then .checkRebuild else .resolve name) }
  | .resolve name =>
    match found.resolved with
    | none => { context with worker := .task .checkRebuild }
    | some address =>
      let address := clip hostCharacters address
      { context with
        config := { context.config with ipAddress := address }
        resolved := (name, address) :: context.resolved
        worker := .task .checkRebuild }
  | .checkRebuild =>
    if context.restRebuildPending then
      { context with restRebuildPending := false, worker := .task (.rebuildRead false) }
    else { context with worker := .task .take }
  | .rebuildRead taken =>
    { context with
      worker := .task (.retarget taken context.config.ipAddress context.config.password) }
  | .retarget taken host password =>
    { context with
      restClient := rebuiltClient context.restClient host password found
      worker := .task (if taken then .cancel else .take) }
  | .take =>
    match context.deviceTransition with
    | none => { context with worker := .task (.readHost false) }
    | some transition => takeTransition context transition
  | .cancel =>
    -- A device that is switched back to must not be stopped after its start.
    { context with
      pendingStops := c64StopQueueCancel context.pendingStops context.config.ipAddress
        context.config.controlPort
      worker := .task (.readHost true) }
  | .readHost switching =>
    if !context.streaming || switching then
      { context with worker := .start (.raise switching) }
    else { context with worker := .task (.connectivity (configuredEndpoint context.config)) }
  | .connectivity endpoint =>
    { context with
      worker :=
        if found.reachable && found.destination then .task (.restart endpoint .video)
        else .stops true .enter }
  | .restart endpoint stream =>
    let (context, ok) := sendCommand context endpoint true stream found
    { context with
      worker :=
        if ok && stream = .video then .task (.restart endpoint .audio) else .stops true .enter }

/-- The next step of `c64_start_streaming` and of `c64_abort_stream_start`. -/
def c64StartStreaming (context : SwitchContext) (found : WorkerFindings) : StartPc → SwitchContext
  | .raise switching =>
    { context with streamStartInFlight := true, worker := .start (.read switching) }
  | .read switching =>
    { context with worker := .start (.reach (configuredEndpoint context.config) switching) }
  | .reach endpoint switching =>
    if endpoint.host ≠ receiveOnlyHost ∧ !found.reachable then
      -- A switch to an unreachable device ends the display of the previous one.
      { context with streaming := false, worker := .start .lower }
    else if endpoint.host ≠ receiveOnlyHost ∧ !switching then
      { context with worker := .start (.disconnect endpoint .video) }
    else { context with worker := .start (.destination endpoint switching) }
  | .disconnect endpoint stream =>
    let (context, _) := sendCommand context endpoint false stream found
    { context with
      worker := .start
        (if stream = .video then .disconnect endpoint .audio else .destination endpoint false) }
  | .destination endpoint switching =>
    let pc : StartPc :=
      if !found.destination then .lower
      else if switching && context.streaming then .switchVideo endpoint
      else .sockets endpoint false
    { context with worker := .start pc }
  | .switchVideo endpoint =>
    let (context, ok) := sendCommand context endpoint true .video found
    if ok then { context with worker := .start (.sockets endpoint true) }
    else { context with streaming := false, worker := .start (.abort endpoint .video) }
  | .sockets endpoint videoStarted =>
    let pc : StartPc :=
      if !found.sockets then .lower
      else if videoStarted then .threads endpoint
      else .video endpoint
    { context with
      streaming := false
      udpPortConflict := found.portInUse
      worker := .start pc }
  | .video endpoint =>
    let (context, ok) := sendCommand context endpoint true .video found
    { context with worker := .start (if ok then .threads endpoint else .abort endpoint .video) }
  | .threads endpoint => { context with streaming := true, worker := .start (.create endpoint) }
  | .create endpoint =>
    if found.threads then { context with worker := .start (.audio endpoint) }
    else { context with streaming := false, worker := .start (.abort endpoint .video) }
  | .audio endpoint =>
    let (context, ok) := sendCommand context endpoint true .audio found
    if ok then { context with worker := .start .lower }
    else { context with streaming := false, worker := .start (.abort endpoint .video) }
  | .abort started stream =>
    -- The stops go to the endpoint that is configured by now.
    let (context, _) := sendCommand context (configuredEndpoint context.config) false stream found
    { context with
      worker := .start (if stream = .video then .abort started .audio else .lower) }
  | .lower => { context with streamStartInFlight := false, worker := .stops true .enter }

/-- Record that an entry could not be stopped; one that has used up its attempts is given up. -/
def recordStopFailure (context : SwitchContext) (inTask : Bool) (index : Nat) : SwitchContext :=
  let (queue, exhausted) :=
    c64StopQueueRecordFailure context.pendingStops index c64PreviousDeviceStopAttempts
  if exhausted then
    { context with
      pendingStops := c64StopQueueRemoveAt queue index
      events := ((queue[index]?).map DeviceEvent.givenUp).toList ++ context.events
      worker := .stops inTask (.next index) }
  else { context with pendingStops := queue, worker := .stops inTask (.next (index + 1)) }

/-- Send a stop to the device of an entry, and whether it succeeded. -/
def sendStop (context : SwitchContext) (index : Nat) (transport : StreamTransport)
    (hasClient : Bool) (stream : AvStream) (found : WorkerFindings) : SwitchContext × Bool :=
  match context.pendingStops[index]? with
  | none => (context, false)
  | some entry =>
    let (events, ok) := c64StopPreviousStream transport hasClient entry stream found.command
    ({ context with events := events ++ context.events }, ok)

/-- The next step of `c64_process_previous_device_stops`. -/
def c64ProcessPreviousDeviceStops (context : SwitchContext) (found : WorkerFindings)
    (inTask : Bool) : StopsPc → SwitchContext
  | .enter =>
    -- The previous device keeps streaming until the new one delivers.
    if context.pendingStops ≠ [] ∧ found.handoverPeer ∧ context.streaming ∧ found.held then
      { context with worker := afterStops inTask }
    else { context with worker := .stops inTask (.next 0) }
  | .next index =>
    let worker : SwitchWorkerPc :=
      if index < context.pendingStops.length && !context.retryRequested then
        .stops inTask (.compare index context.config.ipAddress context.config.controlPort)
      else afterStops inTask
    { context with worker := worker }
  | .compare index current currentPort =>
    if context.pendingStops[index]?.any fun entry => entry.isFor current currentPort then
      { context with
        pendingStops := c64StopQueueRemoveAt context.pendingStops index
        worker := .stops inTask (.next index) }
    else { context with worker := .stops inTask (.reach index) }
  | .reach index =>
    if found.reachable then
      let hasClient := decide (context.transport ≠ .legacy) && found.created
      { context with worker := .stops inTask (.video index context.transport hasClient) }
    else recordStopFailure context inTask index
  | .video index transport hasClient =>
    if context.retryRequested then
      { context with worker := .stops inTask (.settle index false false) }
    else
      let (context, ok) := sendStop context index transport hasClient .video found
      { context with worker := .stops inTask (.audio index transport hasClient ok) }
  | .audio index transport hasClient videoStopped =>
    if context.retryRequested then
      { context with worker := .stops inTask (.settle index videoStopped false) }
    else
      let (context, ok) := sendStop context index transport hasClient .audio found
      { context with worker := .stops inTask (.settle index videoStopped ok) }
  | .settle index videoStopped audioStopped =>
    if context.retryRequested && !(videoStopped && audioStopped) then
      { context with worker := afterStops inTask }
    else if videoStopped && audioStopped then
      { context with
        pendingStops := c64StopQueueRemoveAt context.pendingStops index
        worker := .stops inTask (.next index) }
    else recordStopFailure context inTask index

/-- How the loop goes on once it knows what there is to do. -/
def loopNext (requested needStart needStops resend : Bool) : SwitchWorkerPc :=
  let runTask := requested || needStart || resend
  if !runTask && !needStops then .loop .release
  else if runTask then .loop .begin
  else .stops false .enter

/-- Whether a start is still wanted. -/
def needStart (context : SwitchContext) : Bool :=
  !context.streaming && !context.udpPortConflict

/-- Whether devices still have to be stopped. -/
def needStops (context : SwitchContext) : Bool :=
  !context.pendingStops.isEmpty

/-- The next step of the loop of the retry worker. -/
def retryLoop (context : SwitchContext) (found : WorkerFindings) : LoopPc → SwitchContext
  | .returned => context
  | .begin =>
    if context.retryInProgress then
      { context with retryThreadActive := false, worker := .loop .returned }
    else { context with retryInProgress := true, worker := .loop .clearRequested }
  | .clearRequested => { context with retryRequested := false, worker := .task .readName }
  | .finish => { context with retryInProgress := false, worker := .loop .decide }
  | .decide =>
    let requested := context.retryRequested
    if !requested && (needStart context || needStops context) then
      let handover := needStops context && found.handoverPeer && context.streaming
      { context with worker := .loop (.waiting handover) }
    else
      { context with
        worker := loopNext requested (needStart context) (needStops context) false }
  | .waiting handover =>
    let requested := context.retryRequested
    if found.keepWaiting && !requested then context
    else
      let resend := handover && found.handoverPeer && context.streaming && found.restartDue
      { context with
        worker := loopNext requested (needStart context) (needStops context) resend }
  | .release => { context with retryThreadActive := false, worker := .loop .recheck }
  | .recheck =>
    if !context.retryRequested || context.retryThreadActive then
      { context with worker := .loop .returned }
    else { context with retryThreadActive := true, worker := .loop .begin }

/-- The next step of the retry worker. -/
def retryWorkerStep (context : SwitchContext) (found : WorkerFindings) : SwitchContext :=
  match context.worker with
  | .loop pc => retryLoop context found pc
  | .task pc => c64AsyncRetryTask context found pc
  | .start pc => c64StartStreaming context found pc
  | .stops inTask pc => c64ProcessPreviousDeviceStops context found inTask pc

end Worker

section System

/-- A step of one of the two threads. -/
inductive SwitchOp where
  /-- The settings are changed: a call of `c64_update` begins. -/
  | change (new : UpdateSettings)
  | update
  | worker (found : WorkerFindings)
  deriving DecidableEq

/-- One step of the settings thread or of the retry worker. -/
def switchStep (context : SwitchContext) : SwitchOp → SwitchContext
  | .change new =>
    -- One call follows another.
    if context.update = .returned then
      { context with transport := new.transport, update := .readOld new.withDefaults }
    else context
  | .update => c64Update context context.update
  | .worker found => retryWorkerStep context found

/-- The source as it is created, with the first attempt scheduled. -/
def createdSource (settings : UpdateSettings) (clientCreated : Bool) : SwitchContext where
  config :=
    { hostname := clip hostCharacters settings.host
      ipAddress := clip hostCharacters settings.host
      password := clip passwordCharacters settings.password
      controlPort := settings.withDefaults.controlPort
      videoPort := settings.withDefaults.videoPort
      audioPort := settings.withDefaults.audioPort }
  transport := settings.transport
  restClient :=
    if NothingToStop settings.host || !clientCreated then none
    else some ⟨settings.host, clip passwordCharacters settings.password⟩
  restRebuildPending := false
  streamRestDemotedUntilNs := 0
  deviceTransition := none
  pendingStops := []
  streaming := false
  streamStartInFlight := false
  udpPortConflict := false
  retryRequested := false
  retryThreadActive := true
  retryInProgress := true
  update := .returned
  worker := .loop .clearRequested
  events := []
  resolved := []

/-- Settings for a host, with the defaults for everything else. -/
def settingsFor (host : String) : UpdateSettings :=
  ⟨host, "", 0, 0, 0, .auto, false, false⟩

/-- Every request is answered with success, nothing is resolved and nobody waits. -/
def favourable : WorkerFindings where
  resolved := none
  retargeted := true
  created := true
  reachable := true
  destination := true
  sockets := true
  portInUse := false
  threads := true
  handoverPeer := false
  held := false
  restartDue := false
  keepWaiting := false
  command := ⟨0, false, ⟨200, true⟩, ⟨200, true⟩, ⟨true, true, true⟩⟩

/-- Some steps of the worker in which everything succeeds. -/
def favourableSteps (count : Nat) : List SwitchOp :=
  List.replicate count (SwitchOp.worker favourable)

/-- A call of `c64_update`, and so many steps of it. -/
def updateTo (host : String) (count : Nat) : List SwitchOp :=
  SwitchOp.change (settingsFor host) :: List.replicate count SwitchOp.update

end System

end C64Stream
