import C64Stream.Network.ExpectedPeerLaws

/-! The picture of the last device over repeated switches: whose packets are let in until the next one
has arrived. -/

namespace C64Stream

section Addresses

theorem inetPton_length {host : Text} (written : (inetPton host).isSome) : host.length ≤ 15 := by
  have parts : ∀ part : Text, (addressPart part).isSome → part.length ≤ 3 := by
    intro part valid
    unfold addressPart at valid
    dsimp only at valid
    split_ifs at valid with shape
    · exact shape.2.1
    · cases valid
  unfold inetPton at written
  split at written
  · rename_i a b c d same
    -- The host is its four parts with a dot between each two.
    obtain ⟨p, rest, hostParts, first, others⟩ := List.map_eq_cons_iff.mp same
    obtain ⟨q, rest, rfl, second, others⟩ := List.map_eq_cons_iff.mp others
    obtain ⟨r, rest, rfl, third, others⟩ := List.map_eq_cons_iff.mp others
    obtain ⟨s, rest, rfl, fourth, others⟩ := List.map_eq_cons_iff.mp others
    rw [List.map_eq_nil_iff] at others
    subst others
    have whole : List.intercalate [46] (host.splitOn 46) = host := List.intercalate_splitOn _
    rw [hostParts] at whole
    have one := parts p (by simp [first])
    have two := parts q (by simp [second])
    have three := parts r (by simp [third])
    have four := parts s (by simp [fourth])
    rw [← whole]
    simp [List.intercalate]
    omega
  · cases written

theorem AddressText.take_hostSize (host : AddressText) : host.val.take c64HostSize = host.val :=
  List.take_of_length_le (Nat.le_trans (inetPton_length host.property) (by decide))

end Addresses

section Stops

/-- A device that has still to be told to stop, by its host and control port. -/
structure PendingStop where
  host : Text
  controlPort : Nat
  deriving DecidableEq

/-- What comes of one turn of the worker over the devices that it tells to stop. -/
inductive StopTurn where
  /-- A newer request is found before the device is looked at. -/
  | requested
  /-- The device was stopped, or it is given up. -/
  | settled
  /-- The device did not answer, and stays queued. -/
  | failed
  /-- A newer request is found behind the attempt. -/
  | interrupted
  deriving DecidableEq

/-- Tell the devices from a place in the queue on to stop, and say whether the end was reached. -/
def stopTurns (hostNow : PendingStop) :
    List PendingStop → Nat → List StopTurn → List PendingStop × Bool
  | queue, index, [] => (queue, decide (queue.length ≤ index))
  | queue, index, turn :: turns =>
    match queue[index]? with
    | none => (queue, true)
    | some entry =>
      match turn with
      | .requested => (queue, false)
      | .settled | .failed | .interrupted =>
        -- The device that is selected now is not stopped any more.
        if entry = hostNow then stopTurns hostNow (queue.eraseIdx index) index turns
        else
          match turn with
          | .settled => stopTurns hostNow (queue.eraseIdx index) index turns
          | .failed => stopTurns hostNow queue (index + 1) turns
          | .requested | .interrupted => (queue, false)

/-- A streaming source whose device is switched. -/
structure HoldContext where
  peers : PeerContext
  controlPort : Nat
  pendingStops : List PendingStop
  deriving DecidableEq

/-- Tell the devices that were switched away from to stop; while a new one is waited for, not yet. -/
def c64ProcessPreviousDeviceStopsHold (context : HoldContext) (withinHold : Bool)
    (turns : List StopTurn) : HoldContext :=
  if context.pendingStops ≠ [] ∧ context.peers.filter.handoverPeerIp.isSome ∧ withinHold then context
  else
    let (queue, finished) :=
      stopTurns ⟨context.peers.ipAddress, context.controlPort⟩ context.pendingStops 0 turns
    let context := { context with pendingStops := queue }
    if finished ∧ queue = [] then
      { context with
        peers :=
          { context.peers with filter := { context.peers.filter with handoverPeerIp := none } } }
    else context

end Stops

section Runs

/-- What happens to a streaming source. -/
inductive HoldOp where
  | update (host : AddressText) (peerHost : Text)
  | packet (sender : UInt32)
  /-- The worker takes a switch that was recorded, and the queue is this one. -/
  | queueStops (queue : List PendingStop)
  | processStops (withinHold : Bool) (turns : List StopTurn)

/-- One step of a thread. -/
def holdStep (context : HoldContext) : HoldOp → HoldContext
  | .update host peerHost =>
    { context with peers := c64UpdatePeers context.peers host.val peerHost true }
  | .packet sender => { context with peers := admitPeerPacket context.peers sender }
  | .queueStops queue => { context with pendingStops := queue }
  | .processStops withinHold turns => c64ProcessPreviousDeviceStopsHold context withinHold turns

/-- A source beside what a viewer can tell of it. -/
structure HoldRun where
  context : HoldContext
  /-- The sender of the last packet that was admitted as one of the selected device. -/
  onScreen : Option UInt32
  /-- Whether such a packet was admitted since the last switch. -/
  arrived : Bool
  /-- Whether the queue of devices to stop was emptied since the last switch. -/
  emptied : Bool
  deriving DecidableEq

/-- Whether an operation selects a device at another address. -/
def HoldRun.switches (run : HoldRun) : HoldOp → Bool
  | .update host _ => run.context.peers.filter.expectedPeerIp ≠ inetPton host.val
  | .packet _ | .queueStops _ | .processStops _ _ => false

/-- One step of a thread, with what a viewer can tell of it. -/
def HoldRun.step (run : HoldRun) (op : HoldOp) : HoldRun :=
  let next := holdStep run.context op
  match op with
  | .update _ _ =>
    if run.switches op then { run with context := next, arrived := false, emptied := false }
    else { run with context := next }
  | .packet sender =>
    if c64PacketFromExpectedPeer run.context.peers.filter sender then
      { run with context := next, onScreen := some sender, arrived := true }
    else { run with context := next }
  | .queueStops _ => { run with context := next }
  | .processStops _ _ =>
    { run with
      context := next
      emptied := run.emptied || (run.context.pendingStops ≠ [] && next.pendingStops = []) }

/-- A source that streams from the device that it was created for. -/
def HoldRun.start (host : AddressText) (peerHost : Text) (controlPort : Nat) : HoldRun :=
  ⟨⟨c64CreatePeers host.val peerHost, controlPort, []⟩, none, false, false⟩

/-- The picture is held: until the selected device has sent a packet or every other was told to stop,
the packets of the last device are let in, and never those of a device that is neither. -/
structure HoldRun.Held (run : HoldRun) : Prop where
  keeps : run.arrived = false → run.emptied = false → ∀ sender ∈ run.onScreen,
    (c64PacketAdmit run.context.peers.filter sender).2 = true
  only : ∀ sender, (c64PacketAdmit run.context.peers.filter sender).2 = true →
    c64PacketFromExpectedPeer run.context.peers.filter sender = true ∨
      run.onScreen = some sender

/-- The device on screen is the one that is switched away from, and the devices to stop are worked
off only when that one is among them. -/
def HoldRun.Paired (run : HoldRun) : HoldOp → Prop
  | .update host _ =>
    run.context.peers.filter.expectedPeerIp ≠ inetPton host.val →
      run.onScreen = run.context.peers.filter.expectedPeerIp
  | .processStops _ _ =>
    run.context.pendingStops = [] → run.context.peers.filter.handoverPeerIp = none
  | .packet _ | .queueStops _ => True

instance HoldRun.decidablePaired (run : HoldRun) : (op : HoldOp) → Decidable (run.Paired op)
  | .update host _ =>
    inferInstanceAs
      (Decidable
        (run.context.peers.filter.expectedPeerIp ≠ inetPton host.val →
          run.onScreen = run.context.peers.filter.expectedPeerIp))
  | .processStops _ _ =>
    inferInstanceAs
      (Decidable
        (run.context.pendingStops = [] → run.context.peers.filter.handoverPeerIp = none))
  | .packet _ | .queueStops _ => inferInstanceAs (Decidable True)

end Runs

section Invariant

/-- The filter lets in the device on screen, until the selected one has arrived. -/
structure HoldRun.Sound (run : HoldRun) : Prop where
  /-- The host is an address, which is the expected one. -/
  address : inetPton run.context.peers.ipAddress = run.context.peers.filter.expectedPeerIp
  known : run.context.peers.filter.expectedPeerIp.isSome
  hostname : run.context.peers.hostname = run.context.peers.ipAddress
  /-- Only the device on screen is let in beside the selected one. -/
  onScreen : ∀ peer, run.context.peers.filter.handoverPeerIp = some peer →
    run.onScreen = some peer
  held : run.arrived = false → run.emptied = false →
    run.context.peers.filter.handoverPeerIp = run.onScreen

variable {run : HoldRun}

theorem HoldRun.Sound.isHeld (sound : run.Sound) : run.Held where
  keeps waiting queued sender shown := by
    have handover : run.context.peers.filter.handoverPeerIp = some sender :=
      (sound.held waiting queued).trans shown
    unfold c64PacketAdmit
    split_ifs <;> rfl
  only sender admitted := by
    unfold c64PacketAdmit at admitted
    split_ifs at admitted with expected closes handover
    · exact .inl expected
    · exact .inl expected
    · exact .inr (sound.onScreen sender handover)

theorem handoverPeerIp_set (filter : IngestFilter) (host peerHost : Text) :
    (c64SetExpectedPeerAlias (c64SetExpectedPeerIp filter host) peerHost).handoverPeerIp =
      filter.handoverPeerIp := by
  unfold c64SetExpectedPeerAlias c64SetExpectedPeerIp
  cases inetPton peerHost <;> cases inetPton host <;> dsimp only <;> split_ifs <;> rfl

theorem HoldRun.start_sound (host : AddressText) (peerHost : Text) (controlPort : Nat) :
    (HoldRun.start host peerHost controlPort).Sound := by
  have kept := set_expectedPeerAlias_kept
    (c64SetExpectedPeerIp ⟨none, none, none, none, false, 0⟩ host.val) peerHost
  have expected := kept.1.trans (expectedPeerIp_set _ host.val)
  have handover := handoverPeerIp_set ⟨none, none, none, none, false, 0⟩ host.val peerHost
  unfold HoldRun.start c64CreatePeers
  rw [host.take_hostSize]
  refine ⟨expected.symm, ?_, rfl, fun peer opened => ?_, fun _ _ => handover⟩
  · rw [expected]
    exact host.property
  · rw [handover] at opened
    cases opened

theorem HoldRun.Sound.updated (sound : run.Sound) (host : AddressText) (peerHost : Text) :
    let next := c64UpdatePeers run.context.peers host.val peerHost true
    next.ipAddress = host.val ∧ next.hostname = host.val ∧
      next.filter.expectedPeerIp = inetPton host.val ∧
      next.filter.handoverPeerIp =
        if run.context.peers.filter.expectedPeerIp ≠ inetPton host.val then
          run.context.peers.filter.expectedPeerIp
        else run.context.peers.filter.handoverPeerIp := by
  -- The address is that of the new host, also where the host is the same.
  have ipAddress : (if run.context.peers.hostname ≠ host.val then host.val
      else run.context.peers.ipAddress) = host.val := by
    rw [← sound.hostname]
    split_ifs with other
    · rfl
    · exact not_not.mp other
  have kept := set_expectedPeerAlias_kept
    (c64SetExpectedPeerIp run.context.peers.filter host.val) peerHost
  have expected := kept.1.trans (expectedPeerIp_set _ host.val)
  have handover := handoverPeerIp_set run.context.peers.filter host.val peerHost
  -- A host at another address is another host.
  have changed : run.context.peers.filter.expectedPeerIp ≠ inetPton host.val →
      run.context.peers.hostname ≠ host.val := by
    intro other same
    rw [← sound.address, ← sound.hostname, same] at other
    exact other rfl
  dsimp only
  unfold c64UpdatePeers
  simp only [host.take_hostSize, ipAddress, expected, handover, sound.known, true_and]
  by_cases switched : run.context.peers.filter.expectedPeerIp ≠ inetPton host.val
  · rw [if_pos switched, if_pos ⟨changed switched, Ne.symm switched⟩]
  · rw [if_neg switched, if_neg fun both => switched (Ne.symm both.2)]

theorem HoldRun.Sound.update (sound : run.Sound) {host : AddressText} {peerHost : Text}
    (paired : run.Paired (.update host peerHost)) : (run.step (.update host peerHost)).Sound := by
  obtain ⟨ipAddress, hostname, expected, handover⟩ := sound.updated host peerHost
  have known : (inetPton host.val).isSome := host.property
  unfold HoldRun.step
  dsimp only
  by_cases switched : run.context.peers.filter.expectedPeerIp ≠ inetPton host.val
  · have switches : run.switches (.update host peerHost) = true := by
      simpa [HoldRun.switches] using switched
    rw [if_pos switches]
    rw [if_pos switched] at handover
    have shown := paired switched
    refine ⟨?_, ?_, hostname.trans ipAddress.symm, fun peer opened => ?_, fun _ _ => ?_⟩
    · exact (congrArg inetPton ipAddress).trans expected.symm
    · exact expected ▸ known
    · exact (shown.trans handover.symm).trans opened
    · exact handover.trans shown.symm
  · have stays : run.switches (.update host peerHost) = false := by
      simpa [HoldRun.switches] using switched
    rw [stays, if_neg Bool.false_ne_true]
    rw [if_neg switched] at handover
    refine ⟨?_, ?_, hostname.trans ipAddress.symm, fun peer opened => ?_, fun waiting queued => ?_⟩
    · exact (congrArg inetPton ipAddress).trans expected.symm
    · exact expected ▸ known
    · exact sound.onScreen peer (handover.symm.trans opened)
    · exact handover.trans (sound.held waiting queued)

theorem HoldRun.Sound.packet (sound : run.Sound) (sender : UInt32) :
    (run.step (.packet sender)).Sound := by
  unfold HoldRun.step
  dsimp only [holdStep, admitPeerPacket]
  unfold c64PacketAdmit
  split_ifs with expected closes handover
  · -- The handover is closed.
    exact { sound with
      onScreen := fun peer opened => by cases opened
      held := fun waiting => by cases waiting }
  · -- It stays open only to the sender itself.
    refine { sound with onScreen := fun peer opened => ?_, held := fun waiting => by cases waiting }
    have opened : run.context.peers.filter.handoverPeerIp = some peer := opened
    have same : peer = sender := by simpa [closesHandover, opened, sound.known] using closes
    exact congrArg some same.symm
  · exact sound
  · exact { sound with }

theorem HoldRun.Sound.processStops (sound : run.Sound) {withinHold : Bool} {turns : List StopTurn}
    (paired : run.Paired (.processStops withinHold turns)) :
    (run.step (.processStops withinHold turns)).Sound := by
  unfold HoldRun.step
  dsimp only [holdStep, c64ProcessPreviousDeviceStopsHold]
  split_ifs with holds emptied
  · refine { sound with held := fun waiting queued => sound.held waiting ?_ }
    rw [Bool.or_eq_false_iff] at queued
    exact queued.1
  · -- The queue was empty before, or it has been emptied now.
    refine { sound with
      onScreen := fun peer opened => by cases opened
      held := fun waiting queued => ?_ }
    rw [Bool.or_eq_false_iff] at queued
    have before : run.context.pendingStops = [] := by simpa [emptied.2] using queued.2
    exact (paired before).symm.trans (sound.held waiting queued.1)
  · refine { sound with held := fun waiting queued => sound.held waiting ?_ }
    rw [Bool.or_eq_false_iff] at queued
    exact queued.1

theorem HoldRun.Sound.step (sound : run.Sound) {op : HoldOp} (paired : run.Paired op) :
    (run.step op).Sound := by
  cases op with
  | update host peerHost => exact sound.update paired
  | packet sender => exact sound.packet sender
  | queueStops queue => exact { sound with }
  | processStops withinHold turns => exact sound.processStops paired

end Invariant

section Pictures

/-- In a run that only switches away from the device on screen, and tells devices to stop only once
that one is queued, the picture is held at every moment. -/
theorem picture_held (host : AddressText) (peerHost : Text) (controlPort : Nat) (ops : List HoldOp)
    (paired : EachStep HoldRun.step HoldRun.Paired (HoldRun.start host peerHost controlPort) ops) :
    Always HoldRun.step HoldRun.Held (HoldRun.start host peerHost controlPort) ops := by
  have sound : Always HoldRun.step HoldRun.Sound (HoldRun.start host peerHost controlPort) ops :=
    always_of_eachStep (fun _ _ sound paired => sound.step paired) paired
      (HoldRun.start_sound host peerHost controlPort)
  exact sound.imp fun _ sound => sound.isHeld

def bedroomAddress : AddressText := ⟨text "192.168.1.65", by decide +kernel⟩

def kitchenAddress : AddressText := ⟨text "192.168.1.66", by decide +kernel⟩

/-- A switch to a device that sends after a while, and on to the next one. -/
def patientHoldOps : List HoldOp :=
  [.packet 0x4001A8C0, .update bedroomAddress [], .packet 0x4001A8C0,
    .queueStops [⟨livingRoomAddress.val, 64⟩], .processStops true [], .packet 0x4101A8C0,
    .processStops false [.settled], .update kitchenAddress [], .packet 0x4101A8C0,
    .packet 0x4201A8C0]

/-- The picture is held all along that run. -/
theorem patientHoldOps_held :
    EachStep HoldRun.step HoldRun.Paired (HoldRun.start livingRoomAddress [] 64) patientHoldOps ∧
      Always HoldRun.step HoldRun.Held (HoldRun.start livingRoomAddress [] 64) patientHoldOps :=
  have paired : EachStep HoldRun.step HoldRun.Paired (HoldRun.start livingRoomAddress [] 64)
      patientHoldOps := by decide +kernel
  ⟨paired, picture_held livingRoomAddress [] 64 patientHoldOps paired⟩

/-- Two switches in a row, the second before the device of the first has sent a packet. -/
def hastyHoldOps : List HoldOp :=
  [.packet 0x4001A8C0, .update bedroomAddress [], .update kitchenAddress []]

/-- The packets of the device on screen are no longer let in, though nothing has replaced it. -/
theorem hastyHoldOps_not_held :
    ¬ Always HoldRun.step HoldRun.Held (HoldRun.start livingRoomAddress [] 64) hastyHoldOps := by
  intro always
  have kept := always.last.keeps (by decide +kernel) (by decide +kernel) 0x4001A8C0
    (by decide +kernel)
  revert kept
  decide +kernel

end Pictures

end C64Stream
