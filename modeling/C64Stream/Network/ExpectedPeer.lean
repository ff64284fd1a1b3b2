import C64Stream.Lib.Run
import C64Stream.Palette.Follow

/-! Whose packets are expected: the host that is configured, its address, and two more addresses. -/

namespace C64Stream

section Context

def c64HostSize : Nat := 63

/-- What a check of a rejected sender was begun with. -/
structure SenderCheck where
  configuredIp : Text
  rejected : UInt32
  deriving DecidableEq

/-- The parts of a source that decide whose packets are expected. -/
structure PeerContext where
  filter : IngestFilter
  hostname : Text
  /-- The host until it is resolved, and its address from then on. -/
  ipAddress : Text
  /-- The host that is being resolved. -/
  resolving : Option Text
  /-- The address that the running attempt took for its check of rejected senders. -/
  attempted : Option Text
  /-- The check that is running. -/
  checking : Option SenderCheck
  /-- The address that a start copied and has not made the expected one. -/
  starting : Option Text
  deriving DecidableEq

abbrev AddressText := { host : Text // (inetPton host).isSome }

/-- Resolve a host; one that is an address already is its own answer. -/
def c64ResolveHostname (host : Text) (found : Option AddressText) : Option Text :=
  if (inetPton host).isSome then some host else found.map (·.val)

/-- A source is created for a host, of whose device a second address may be known. -/
def c64CreatePeers (host peerHost : Text) : PeerContext :=
  let ipAddress := host.take c64HostSize
  { filter :=
      c64SetExpectedPeerAlias (c64SetExpectedPeerIp ⟨none, none, none, none, false, 0⟩ ipAddress)
        peerHost
    hostname := host.take c64HostSize
    ipAddress := ipAddress
    resolving := none
    attempted := none
    checking := none
    starting := none }

/-- The settings are updated; the host may be another one, and so may the second address. -/
def c64UpdatePeers (context : PeerContext) (host peerHost : Text) (needsDeviceTransition : Bool) :
    PeerContext :=
  let hostChanged := context.hostname ≠ host
  let ipAddress := if hostChanged then host.take c64HostSize else context.ipAddress
  let previousPeer := context.filter.expectedPeerIp
  let filter := c64SetExpectedPeerAlias (c64SetExpectedPeerIp context.filter ipAddress) peerHost
  let handover :=
    if needsDeviceTransition ∧ hostChanged ∧ previousPeer.isSome ∧
        filter.expectedPeerIp ≠ previousPeer then
      previousPeer
    else filter.handoverPeerIp
  { context with
    filter := { filter with handoverPeerIp := handover }
    hostname := host.take c64HostSize
    ipAddress := ipAddress }

/-- The worker begins to resolve the host. -/
def readHostname (context : PeerContext) : PeerContext :=
  if context.hostname = [] then context else { context with resolving := some context.hostname }

/-- The worker has resolved the host that it read, or has failed to. -/
def c64RefreshResolvedIp (context : PeerContext) (found : Option AddressText) : PeerContext :=
  match context.resolving with
  | none => context
  | some host =>
    match c64ResolveHostname host found with
    | none => { context with resolving := none }
    | some resolved =>
      { context with
        ipAddress := resolved
        filter := c64SetExpectedPeerIp context.filter resolved
        resolving := none }

/-- The attempt copies the address. -/
def readAttempted (context : PeerContext) : PeerContext :=
  { context with attempted := some context.ipAddress }

/-- Whether the sender that was rejected last is to be checked, as far as the addresses go. -/
def c64DeviceSenderCheckDue (filter : IngestFilter) : Bool :=
  filter.rejectedPeerIp ≠ 0 && filter.expectedPeerIp ≠ some filter.rejectedPeerIp &&
    filter.expectedPeerAltIp ≠ some filter.rejectedPeerIp &&
    filter.learnedPeerIp ≠ some filter.rejectedPeerIp

/-- The check of a rejected sender begins, if the times allow one and no switch is pending. -/
def beginSenderCheck (context : PeerContext) (timely : Bool) : PeerContext :=
  match context.attempted with
  | none => context
  | some configuredIp =>
    if timely && c64DeviceSenderCheckDue context.filter then
      { context with
        attempted := none, checking := some ⟨configuredIp, context.filter.rejectedPeerIp⟩ }
    else { context with attempted := none }

/-- The check ends: a sender that is the same device is accepted while the address is unchanged. -/
def c64TryAdoptRejectedSender (context : PeerContext) (sameDevice : Bool) : PeerContext :=
  match context.checking with
  | none => context
  | some check =>
    if sameDevice = true ∧ context.filter.expectedPeerIp.isSome ∧
        context.ipAddress = check.configuredIp then
      { context with
        checking := none, filter := { context.filter with learnedPeerIp := some check.rejected } }
    else { context with checking := none }

/-- A start copies the address. -/
def readStarting (context : PeerContext) : PeerContext :=
  { context with starting := some context.ipAddress }

/-- The start makes the address that it copied the expected one. -/
def PeerContext.c64StartStreaming (context : PeerContext) : PeerContext :=
  match context.starting with
  | none => context
  | some ipAddress =>
    { context with filter := c64SetExpectedPeerIp context.filter ipAddress, starting := none }

/-- A packet arrives. -/
def admitPeerPacket (context : PeerContext) (sender : UInt32) : PeerContext :=
  { context with filter := (c64PacketAdmit context.filter sender).1 }

end Context

section Runs

/-- What happens to a source. -/
inductive PeerOp where
  | update (host peerHost : Text) (needsDeviceTransition : Bool)
  | readHostname
  | resolve (found : Option AddressText)
  | readAttempted
  | beginSenderCheck (timely : Bool)
  | adopt (sameDevice : Bool)
  | readStarting
  | start
  | packet (sender : UInt32)

/-- One step of a thread. -/
def peerStep (context : PeerContext) : PeerOp → PeerContext
  | .update host peerHost needsDeviceTransition =>
    c64UpdatePeers context host peerHost needsDeviceTransition
  | .readHostname => readHostname context
  | .resolve found => c64RefreshResolvedIp context found
  | .readAttempted => readAttempted context
  | .beginSenderCheck timely => beginSenderCheck context timely
  | .adopt sameDevice => c64TryAdoptRejectedSender context sameDevice
  | .readStarting => readStarting context
  | .start => PeerContext.c64StartStreaming context
  | .packet sender => admitPeerPacket context sender

end Runs

end C64Stream
