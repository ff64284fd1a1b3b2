import C64Stream.Device.StopQueue

/-! Stream commands: over the REST client of the source, and over the control port of a host. -/

namespace C64Stream

section Requests

/-- What a REST request came to, by its HTTP status. -/
inductive RestOutcome where
  | ok
  | notSupported
  | forbidden
  | badRequest
  | unreachable
  | serverError
  deriving DecidableEq

/-- Classify an HTTP status; no answer has the status 0. -/
def c64RestClassifyStatus (status : Nat) : RestOutcome :=
  if 200 ≤ status ∧ status < 300 then .ok
  else if status = 0 then .unreachable
  else if status = 400 then .badRequest
  else if status = 401 ∨ status = 403 then .forbidden
  else if status = 404 ∨ status = 501 then .notSupported
  else .serverError

/-- Whether the control port may be tried after a REST request. -/
def c64StreamControlShouldFallback (outcome : RestOutcome) : Bool :=
  outcome = .notSupported

inductive StreamTransport where
  | auto
  | rest
  | legacy
  deriving DecidableEq

/-- The two streams of a device. -/
inductive AvStream where
  | video
  | audio
  deriving DecidableEq

/-- Where a REST client sends its requests: the base URL is `http://` and the host. -/
structure RestClient where
  host : String
  password : String
  deriving DecidableEq

/-- A host to be controlled, with the password that was configured with it. -/
structure Endpoint where
  host : String
  controlPort : Nat
  password : String
  deriving DecidableEq

/-- Where a command was sent. -/
inductive Target where
  | rest (client : RestClient)
  | legacy (host : String) (controlPort : Nat)
  deriving DecidableEq

/-- The host that a command was sent to. -/
def Target.host : Target → String
  | .rest client => client.host
  | .legacy host _ => host

/-- A command as it was sent, and whether the device behind its target received it. -/
structure Sent where
  meant : Endpoint
  target : Target
  enable : Bool
  stream : AvStream
  received : Bool
  deriving DecidableEq

/-- What happened to the devices. -/
inductive DeviceEvent where
  | sent (command : Sent)
  /-- A device could not be told to stop, and its entry was removed. -/
  | givenUp (entry : StopEntry)
  /-- The entry of a device was dropped from the full queue. -/
  | evicted (entry : StopEntry)
  deriving DecidableEq

/-- The answer to a REST request; the device may receive one that is not answered. -/
structure RestReply where
  status : Nat
  received : Bool
  deriving DecidableEq

/-- Whether the request succeeded. -/
def RestReply.ok (reply : RestReply) : Bool :=
  c64RestClassifyStatus reply.status = .ok

/-- What becomes of a command over the control port. -/
structure LegacyReply where
  /-- The device received the stop that precedes a start. -/
  stopReceived : Bool
  received : Bool
  /-- Connecting and sending succeeded. -/
  sent : Bool
  deriving DecidableEq

/-- What becomes of the requests of one command. -/
structure CommandReply where
  nowNs : Nat
  /-- Runtime palettes are followed and the device is taken to support them. -/
  palette : Bool
  rest : RestReply
  /-- The answer to the video start that is repeated without a palette. -/
  withoutPalette : RestReply
  legacy : LegacyReply
  deriving DecidableEq

end Requests

section Senders

/-- One REST request of a command; what is answered with success was received. -/
def restRequest (meant : Endpoint) (client : RestClient) (enable : Bool) (stream : AvStream)
    (reply : RestReply) : DeviceEvent :=
  .sent ⟨meant, .rest client, enable, stream, reply.ok || reply.received⟩

/-- Send a command over the control port; a start is preceded by a stop of its own connection. -/
def c64SendControlCommandTo (meant : Endpoint) (enable : Bool) (stream : AvStream)
    (reply : LegacyReply) : List DeviceEvent × Bool :=
  if NothingToStop meant.host then ([], false)
  else
    let target := Target.legacy meant.host meant.controlPort
    let command := DeviceEvent.sent ⟨meant, target, enable, stream, reply.sent || reply.received⟩
    if enable then
      ([command, .sent ⟨meant, target, false, stream, reply.stopReceived⟩], reply.sent)
    else ([command], reply.sent)

def c64StreamRetryNs : Nat := 60 * 1000000000

def uint64Max : Nat := 2 ^ 64 - 1

/-- How a command went: the events, latest first, the time until which REST is demoted, and
whether the command succeeded. -/
structure CommandResult where
  events : List DeviceEvent
  restDemotedUntilNs : Nat
  ok : Bool
  deriving DecidableEq

/-- The requests over REST: the events, the last answer, and whether it is a success. -/
def c64RestStreamControl (meant : Endpoint) (client : RestClient) (enable : Bool)
    (stream : AvStream) (reply : CommandReply) : List DeviceEvent × RestReply :=
  let palette := enable && stream = .video && reply.palette
  let first := restRequest meant client enable stream reply.rest
  if palette && c64RestClassifyStatus reply.rest.status = .badRequest then
    -- A device without runtime palettes refuses the request for one.
    ([restRequest meant client true .video reply.withoutPalette, first], reply.withoutPalette)
  else ([first], reply.rest)

/-- Start or stop a stream of a host, over REST where the client and the setting allow it. -/
def c64StreamControlTo (transport : StreamTransport) (restClient : Option RestClient)
    (restDemotedUntilNs : Nat) (meant : Endpoint) (enable : Bool) (stream : AvStream)
    (reply : CommandReply) : CommandResult :=
  let legacy (events : List DeviceEvent) (demotedUntilNs : Nat) : CommandResult :=
    let (sent, ok) := c64SendControlCommandTo meant enable stream reply.legacy
    ⟨sent ++ events, demotedUntilNs, ok⟩
  if meant.host = receiveOnlyHost then ⟨[], restDemotedUntilNs, true⟩
  else
    match restClient with
    | none =>
      if transport = .rest then ⟨[], restDemotedUntilNs, false⟩ else legacy [] restDemotedUntilNs
    | some client =>
      if transport ≠ .legacy ∧ (transport = .rest ∨ restDemotedUntilNs ≤ reply.nowNs) then
        let (events, last) := c64RestStreamControl meant client enable stream reply
        let outcome := c64RestClassifyStatus last.status
        if outcome = .ok then ⟨events, restDemotedUntilNs, true⟩
        else if transport = .rest then ⟨events, restDemotedUntilNs, false⟩
        else if c64StreamControlShouldFallback outcome then
          legacy events
            (if last.status = 404 then uint64Max else reply.nowNs + c64StreamRetryNs)
        else if outcome ≠ .unreachable then ⟨events, restDemotedUntilNs, false⟩
        else legacy events restDemotedUntilNs
      else legacy [] restDemotedUntilNs

/-- Stop one stream of a device that was switched away from, through a client of its own. -/
def c64StopPreviousStream (transport : StreamTransport) (hasClient : Bool) (entry : StopEntry)
    (stream : AvStream) (reply : CommandReply) : List DeviceEvent × Bool :=
  let meant : Endpoint := ⟨entry.host, entry.controlPort, entry.password⟩
  if hasClient ∧ (transport = .rest ∨ entry.restDemotedUntilNs ≤ reply.nowNs) then
    let request := restRequest meant ⟨entry.host, entry.password⟩ false stream reply.rest
    let outcome := c64RestClassifyStatus reply.rest.status
    if outcome = .ok then ([request], true)
    else if transport = .rest ∨
        (!c64StreamControlShouldFallback outcome ∧ outcome ≠ .unreachable) then
      ([request], false)
    else
      let (sent, ok) := c64SendControlCommandTo meant false stream reply.legacy
      (sent ++ [request], ok)
  else c64SendControlCommandTo meant false stream reply.legacy

end Senders

end C64Stream
