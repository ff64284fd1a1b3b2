import C64Stream.Network.ExpectedPeer

/-! Which packets are accepted follows the configured host, while its address is found in time. -/

namespace C64Stream

section Promise

/-- A source beside what is configured and what was found out about its host. -/
structure PeerRun where
  context : PeerContext
  /-- The second address that is configured, if it is one. -/
  peerHost : Text
  /-- The address that the configured host was last resolved to. -/
  resolved : Option UInt32
  /-- The sender that was found to be the device at that address. -/
  learned : Option UInt32
  deriving DecidableEq

/-- The address of the configured host behind a step. -/
def PeerRun.resolvedAfter (run : PeerRun) : PeerOp → Option UInt32
  | .update host _ _ =>
    if run.context.hostname ≠ host then inetPton (host.take c64HostSize) else run.resolved
  | .resolve found =>
    match run.context.resolving with
    | none => run.resolved
    | some host =>
      -- An answer for a host that is no longer configured says nothing about the present one.
      if host ≠ run.context.hostname then run.resolved
      else ((c64ResolveHostname host found).map inetPton).getD run.resolved
  | _ => run.resolved

/-- The sender that is known to be the device at the address; another address knows none. -/
def PeerRun.learnedAfter (run : PeerRun) (op : PeerOp) : Option UInt32 :=
  if run.resolvedAfter op ≠ run.resolved then none
  else
    match op, run.context.checking with
    | .adopt true, some check =>
      if run.resolved.isSome ∧ run.context.ipAddress = check.configuredIp then some check.rejected
      else run.learned
    | _, _ => run.learned

/-- The second address that is configured behind a step. -/
def PeerRun.peerHostAfter (run : PeerRun) : PeerOp → Text
  | .update _ peerHost _ => peerHost
  | _ => run.peerHost

/-- One step of a thread, with what it finds out. -/
def PeerRun.step (run : PeerRun) (op : PeerOp) : PeerRun :=
  ⟨peerStep run.context op, run.peerHostAfter op, run.resolvedAfter op, run.learnedAfter op⟩

/-- A source that is created for a host. -/
def PeerRun.start (host peerHost : Text) : PeerRun :=
  ⟨c64CreatePeers host peerHost, peerHost, inetPton (host.take c64HostSize), none⟩

/-- While the address of the host is known, its packets are accepted, those of the second address
that is configured, those of the address that was learned for it, and no others. -/
def PeerRun.Follows (run : PeerRun) : Prop :=
  ∀ address ∈ run.resolved, ∀ sender : UInt32,
    c64PacketFromExpectedPeer run.context.filter sender = true ↔
      sender = address ∨ inetPton run.peerHost = some sender ∨ run.learned = some sender

/-- What is found out of the host is found out in time, and before a second address was set: an
answer is for the host that is still configured, and unless its address is expected already there
is no other second address to forget; and a start still has the address of the host. -/
def PeerRun.Timely (run : PeerRun) : PeerOp → Prop
  | .resolve found =>
    ∀ host ∈ run.context.resolving, ∀ resolved ∈ c64ResolveHostname host found,
      host = run.context.hostname ∧
        (run.context.filter.expectedPeerIp = inetPton resolved ∨ inetPton run.peerHost = none ∨
          inetPton run.peerHost = inetPton resolved)
  | .start =>
    ∀ copied ∈ run.context.starting, inetPton copied = inetPton run.context.ipAddress
  | _ => True

instance (run : PeerRun) : (op : PeerOp) → Decidable (run.Timely op)
  | .resolve found =>
    inferInstanceAs
      (Decidable
        (∀ host ∈ run.context.resolving, ∀ resolved ∈ c64ResolveHostname host found,
          host = run.context.hostname ∧
            (run.context.filter.expectedPeerIp = inetPton resolved ∨
              inetPton run.peerHost = none ∨ inetPton run.peerHost = inetPton resolved)))
  | .start =>
    inferInstanceAs
      (Decidable
        (∀ copied ∈ run.context.starting, inetPton copied = inetPton run.context.ipAddress))
  | .update _ _ _ | .readHostname | .readAttempted | .beginSenderCheck _ | .adopt _
  | .readStarting | .packet _ => inferInstanceAs (Decidable True)

end Promise

section Setters

variable (filter : IngestFilter) (host : Text)

theorem expectedPeerIp_set :
    (c64SetExpectedPeerIp filter host).expectedPeerIp = inetPton host := by
  unfold c64SetExpectedPeerIp
  cases inetPton host with
  | none => rfl
  | some address =>
    dsimp only
    split_ifs with same
    · exact same
    · rfl

theorem set_expectedPeerIp_same {address : UInt32} (expected : filter.expectedPeerIp = some address)
    (same : inetPton host = some address) : c64SetExpectedPeerIp filter host = filter := by
  simp [c64SetExpectedPeerIp, same, expected]

theorem set_expectedPeerIp_other
    (other : filter.expectedPeerIp ≠ inetPton host ∨ inetPton host = none) :
    (c64SetExpectedPeerIp filter host).expectedPeerAltIp = none ∧
      (c64SetExpectedPeerIp filter host).learnedPeerIp = none := by
  unfold c64SetExpectedPeerIp
  cases written : inetPton host with
  | none => exact ⟨rfl, rfl⟩
  | some address =>
    have differs : filter.expectedPeerIp ≠ some address := by simpa [written] using other
    dsimp only
    rw [if_neg differs]
    exact ⟨rfl, rfl⟩

theorem expectedPeerAltIp_set :
    (c64SetExpectedPeerAlias filter host).expectedPeerAltIp =
      if filter.expectedPeerIp = inetPton host then none else inetPton host := by
  unfold c64SetExpectedPeerAlias
  cases inetPton host with
  | none => simp
  | some address =>
    dsimp only
    split_ifs <;> rfl

theorem set_expectedPeerAlias_kept :
    (c64SetExpectedPeerAlias filter host).expectedPeerIp = filter.expectedPeerIp ∧
      (c64SetExpectedPeerAlias filter host).learnedPeerIp = filter.learnedPeerIp := by
  unfold c64SetExpectedPeerAlias
  cases inetPton host with
  | none => exact ⟨rfl, rfl⟩
  | some address =>
    dsimp only
    split_ifs <;> exact ⟨rfl, rfl⟩

end Setters

section Invariant

variable {op : PeerOp}

/-- The second address as the filter keeps it, beside a first. -/
def otherAddress (first : Option UInt32) (peerHost : Text) : Option UInt32 :=
  if first = inetPton peerHost then none else inetPton peerHost

/-- The filter agrees with what is configured and known. -/
structure PeerRun.InStep (run : PeerRun) : Prop where
  expected : run.context.filter.expectedPeerIp = run.resolved
  address : inetPton run.context.ipAddress = run.resolved
  learned : run.context.filter.learnedPeerIp = run.learned
  /-- Nothing is learned for a host without an address. -/
  unresolved : run.resolved = none → run.learned = none
  second : run.resolved.isSome →
    run.context.filter.expectedPeerAltIp = otherAddress run.resolved run.peerHost

variable {run : PeerRun}

theorem PeerRun.InStep.follows (inStep : run.InStep) : run.Follows := by
  intro address known sender
  have known : run.resolved = some address := known
  have second := inStep.second (by simp [known])
  rw [c64PacketFromExpectedPeer, inStep.expected, known, second, inStep.learned, otherAddress,
    known]
  simp only [Bool.or_eq_true, decide_eq_true_eq, or_assoc]
  -- A second address that is the first adds nothing.
  split_ifs with same
  · rw [← same, Option.some.injEq]
    constructor
    · rintro (first | none_ | learned)
      · exact .inl first
      · cases none_
      · exact .inr (.inr learned)
    · rintro (first | first | learned)
      · exact .inl first
      · exact .inl first.symm
      · exact .inr (.inr learned)
  · exact Iff.rfl

theorem PeerRun.InStep.learned_set (inStep : run.InStep) {host : Text} {next : Option UInt32}
    (isNext : inetPton host = next) :
    (c64SetExpectedPeerIp run.context.filter host).learnedPeerIp =
      if next ≠ run.resolved then none else run.learned := by
  subst isNext
  by_cases same : inetPton host = run.resolved
  · rw [if_neg (not_not.mpr same)]
    cases known : run.resolved with
    | none =>
      have other := set_expectedPeerIp_other run.context.filter host (.inr (same.trans known))
      rw [other.2, inStep.unresolved known]
    | some address =>
      rw [set_expectedPeerIp_same run.context.filter host (inStep.expected.trans known)
        (same.trans known), inStep.learned]
  · rw [if_pos same]
    have differs : run.context.filter.expectedPeerIp ≠ inetPton host := by
      rw [inStep.expected]
      exact Ne.symm same
    exact (set_expectedPeerIp_other run.context.filter host (.inl differs)).2

theorem PeerRun.start_inStep (host peerHost : Text) : (PeerRun.start host peerHost).InStep := by
  have kept := set_expectedPeerAlias_kept
    (c64SetExpectedPeerIp ⟨none, none, none, none, false, 0⟩ (host.take c64HostSize)) peerHost
  refine ⟨kept.1.trans (expectedPeerIp_set _ _), rfl, kept.2.trans ?_, fun _ => rfl, fun _ => ?_⟩
  · -- Nothing was learned before, and setting an address learns nothing.
    unfold c64SetExpectedPeerIp
    cases inetPton (host.take c64HostSize) <;> rfl
  · refine (expectedPeerAltIp_set _ _).trans ?_
    rw [expectedPeerIp_set]
    rfl

theorem PeerRun.InStep.learnedAfter_none (inStep : run.InStep)
    (unresolved : run.resolvedAfter op = none) : run.learnedAfter op = none := by
  unfold PeerRun.learnedAfter
  split_ifs with other
  · rfl
  · have before : run.resolved = none := (not_not.mp other).symm.trans unresolved
    split
    · rw [before]
      exact inStep.unresolved before
    · exact inStep.unresolved before

theorem PeerRun.InStep.update (inStep : run.InStep) (host peerHost : Text)
    (needsDeviceTransition : Bool) :
    (run.step (.update host peerHost needsDeviceTransition)).InStep := by
  -- The address behind the update is that of the new host, or the old one if it is the same.
  have written : inetPton (if run.context.hostname ≠ host then host.take c64HostSize
      else run.context.ipAddress) =
        run.resolvedAfter (.update host peerHost needsDeviceTransition) := by
    change _ = if run.context.hostname ≠ host then inetPton (host.take c64HostSize) else run.resolved
    rw [apply_ite inetPton, inStep.address]
  generalize next : (if run.context.hostname ≠ host then host.take c64HostSize
    else run.context.ipAddress) = ipAddress at written
  have first := expectedPeerIp_set run.context.filter ipAddress
  have kept := set_expectedPeerAlias_kept (c64SetExpectedPeerIp run.context.filter ipAddress) peerHost
  have second := expectedPeerAltIp_set (c64SetExpectedPeerIp run.context.filter ipAddress) peerHost
  have learned := inStep.learned_set written
  rw [first] at second
  have after : run.learnedAfter (.update host peerHost needsDeviceTransition) =
      if run.resolvedAfter (.update host peerHost needsDeviceTransition) ≠ run.resolved then none
      else run.learned := rfl
  constructor
  · change (c64UpdatePeers _ _ _ _).filter.expectedPeerIp = _
    simp only [c64UpdatePeers, next, kept.1, first, written, PeerRun.step]
  · change inetPton (c64UpdatePeers _ _ _ _).ipAddress = _
    simp only [c64UpdatePeers, next, written, PeerRun.step]
  · change (c64UpdatePeers _ _ _ _).filter.learnedPeerIp = _
    simp only [c64UpdatePeers, next, kept.2, learned, PeerRun.step, after]
  · exact fun unresolved => inStep.learnedAfter_none unresolved
  · intro _
    change (c64UpdatePeers _ _ _ _).filter.expectedPeerAltIp = _
    simp only [c64UpdatePeers, next, PeerRun.step, PeerRun.peerHostAfter]
    rw [second, written]
    rfl

theorem PeerRun.InStep.kept (inStep : run.InStep) {next : PeerRun}
    (filter : next.context.filter.expectedPeerIp = run.context.filter.expectedPeerIp ∧
      next.context.filter.expectedPeerAltIp = run.context.filter.expectedPeerAltIp ∧
      next.context.filter.learnedPeerIp = run.context.filter.learnedPeerIp)
    (ipAddress : next.context.ipAddress = run.context.ipAddress)
    (known : next.resolved = run.resolved ∧ next.learned = run.learned ∧
      next.peerHost = run.peerHost) : next.InStep := by
  obtain ⟨expected, alt, learned⟩ := filter
  obtain ⟨sameResolved, sameLearned, samePeerHost⟩ := known
  constructor
  · rw [expected, sameResolved, inStep.expected]
  · rw [ipAddress, sameResolved, inStep.address]
  · rw [learned, sameLearned, inStep.learned]
  · rw [sameResolved, sameLearned]
    exact inStep.unresolved
  · rw [sameResolved, alt, samePeerHost]
    exact inStep.second

/-- Whether an operation finds out nothing about the host. -/
def PeerOp.quiet : PeerOp → Bool
  | .update _ _ _ | .resolve _ | .adopt _ => false
  | .readHostname | .readAttempted | .beginSenderCheck _ | .readStarting | .start | .packet _ => true

theorem PeerRun.step_quiet (quiet : op.quiet = true) :
    run.step op = { run with context := peerStep run.context op } := by
  cases op <;> simp_all [PeerOp.quiet, PeerRun.step, PeerRun.peerHostAfter, PeerRun.resolvedAfter,
    PeerRun.learnedAfter]

theorem PeerRun.step_resolve_none {found : Option AddressText}
    (none_ : ∀ host ∈ run.context.resolving, c64ResolveHostname host found = none) :
    run.step (.resolve found) = { run with context := { run.context with resolving := none } } := by
  cases reading : run.context.resolving with
  | none =>
    have same : run.context = { run.context with resolving := none } := by rw [← reading]
    simp [PeerRun.step, peerStep, c64RefreshResolvedIp, PeerRun.resolvedAfter,
      PeerRun.learnedAfter, PeerRun.peerHostAfter, reading, ← same]
  | some host =>
    have failed := none_ host reading
    simp [PeerRun.step, peerStep, c64RefreshResolvedIp, PeerRun.resolvedAfter,
      PeerRun.learnedAfter, PeerRun.peerHostAfter, reading, failed]

theorem PeerRun.InStep.resolve (inStep : run.InStep) {found : Option AddressText}
    (timely : run.Timely (.resolve found)) : (run.step (.resolve found)).InStep := by
  by_cases answered : ∀ host ∈ run.context.resolving, c64ResolveHostname host found = none
  · rw [PeerRun.step_resolve_none answered]
    exact inStep.kept ⟨rfl, rfl, rfl⟩ rfl ⟨rfl, rfl, rfl⟩
  · push Not at answered
    obtain ⟨host, reading, answered⟩ := answered
    obtain ⟨resolved, answer⟩ := Option.ne_none_iff_exists'.mp answered
    obtain ⟨rfl, second⟩ := timely host reading resolved answer
    have reading : run.context.resolving = some run.context.hostname := reading
    have after : run.resolvedAfter (.resolve found) = inetPton resolved := by
      simp [PeerRun.resolvedAfter, reading, answer]
    have learned := inStep.learned_set after.symm
    have stepped : run.step (.resolve found) =
        { context :=
            { run.context with
              ipAddress := resolved
              filter := c64SetExpectedPeerIp run.context.filter resolved
              resolving := none }
          peerHost := run.peerHost
          resolved := inetPton resolved
          learned := run.learnedAfter (.resolve found) } := by
      simp only [PeerRun.step, peerStep, c64RefreshResolvedIp, reading, answer, after,
        PeerRun.peerHostAfter]
    rw [stepped]
    have unresolved : inetPton resolved = none → run.learnedAfter (.resolve found) = none :=
      fun none_ => inStep.learnedAfter_none (after.trans none_)
    refine ⟨expectedPeerIp_set _ _, rfl, learned, unresolved, fun known => ?_⟩
    obtain ⟨address, isAddress⟩ := Option.isSome_iff_exists.mp known
    dsimp only at isAddress ⊢
    by_cases expected : run.context.filter.expectedPeerIp = inetPton resolved
    · -- The address was expected already, so the filter stays as it is.
      rw [isAddress] at expected
      have same := inStep.expected.symm.trans expected
      rw [set_expectedPeerIp_same _ _ expected isAddress, inStep.second (by simp [same]), same,
        isAddress]
    · -- Another address forgets the second one, and there is none to keep.
      rw [(set_expectedPeerIp_other _ _ (.inl expected)).1, otherAddress]
      rcases second with absurd_ | none_ | first
      · exact absurd absurd_ expected
      · simp [none_]
      · rw [if_pos first.symm]

theorem PeerRun.InStep.startStreaming (inStep : run.InStep) (timely : run.Timely .start) :
    (run.step .start).InStep := by
  cases copying : run.context.starting with
  | none =>
    have still : peerStep run.context .start = run.context := by
      simp [peerStep, PeerContext.c64StartStreaming, copying]
    rw [PeerRun.step_quiet rfl, still]
    exact inStep
  | some copied =>
    have same : inetPton copied = run.resolved := (timely copied copying).trans inStep.address
    have learned := inStep.learned_set same
    rw [if_neg (not_not.mpr rfl)] at learned
    have stepped : run.step .start =
        { run with
          context :=
            { run.context with
              filter := c64SetExpectedPeerIp run.context.filter copied, starting := none } } := by
      rw [PeerRun.step_quiet rfl]
      simp only [peerStep, PeerContext.c64StartStreaming, copying]
    rw [stepped]
    refine ⟨(expectedPeerIp_set _ _).trans same, inStep.address, learned, inStep.unresolved,
      fun known => ?_⟩
    obtain ⟨address, isAddress⟩ := Option.isSome_iff_exists.mp known
    dsimp only at isAddress ⊢
    rw [set_expectedPeerIp_same _ _ (inStep.expected.trans isAddress) (same.trans isAddress)]
    exact inStep.second (by simp [isAddress])

theorem PeerRun.InStep.adopt (inStep : run.InStep) (sameDevice : Bool) :
    (run.step (.adopt sameDevice)).InStep := by
  have known := congrArg Option.isSome inStep.expected
  cases checking : run.context.checking with
  | none =>
    refine inStep.kept ⟨?_, ?_, ?_⟩ ?_ ⟨rfl, ?_, rfl⟩ <;>
      simp [PeerRun.step, peerStep, c64TryAdoptRejectedSender, checking, PeerRun.learnedAfter,
        PeerRun.resolvedAfter]
  | some check =>
    cases sameDevice with
    | false =>
      refine inStep.kept ⟨?_, ?_, ?_⟩ ?_ ⟨rfl, ?_, rfl⟩ <;>
        simp [PeerRun.step, peerStep, c64TryAdoptRejectedSender, checking, PeerRun.learnedAfter,
          PeerRun.resolvedAfter]
    | true =>
      have noted : run.learnedAfter (.adopt true) =
          if run.resolved.isSome ∧ run.context.ipAddress = check.configuredIp then
            some check.rejected
          else run.learned := by
        simp [PeerRun.learnedAfter, PeerRun.resolvedAfter, checking]
      have stepped : run.step (.adopt true) =
          { run with
            context := c64TryAdoptRejectedSender run.context true
            learned := run.learnedAfter (.adopt true) } := rfl
      rw [stepped, noted]
      unfold c64TryAdoptRejectedSender
      simp only [checking, known, true_and]
      split_ifs with current
      · refine { inStep with learned := rfl, unresolved := fun none_ => ?_ }
        have some_ := current.1
        rw [show run.resolved = none from none_] at some_
        exact absurd some_ (by simp)
      · exact inStep.kept ⟨rfl, rfl, rfl⟩ rfl ⟨rfl, rfl, rfl⟩

theorem PeerRun.InStep.step (inStep : run.InStep) (timely : run.Timely op) :
    (run.step op).InStep := by
  cases op with
  | update host peerHost needsDeviceTransition =>
    exact inStep.update host peerHost needsDeviceTransition
  | resolve found => exact inStep.resolve timely
  | start => exact inStep.startStreaming timely
  | adopt sameDevice => exact inStep.adopt sameDevice
  | readHostname =>
    rw [PeerRun.step_quiet rfl]
    unfold peerStep C64Stream.readHostname
    dsimp only
    split_ifs <;> exact inStep.kept ⟨rfl, rfl, rfl⟩ rfl ⟨rfl, rfl, rfl⟩
  | readAttempted | readStarting =>
    rw [PeerRun.step_quiet rfl]
    exact inStep.kept ⟨rfl, rfl, rfl⟩ rfl ⟨rfl, rfl, rfl⟩
  | beginSenderCheck inTime =>
    rw [PeerRun.step_quiet rfl]
    unfold peerStep C64Stream.beginSenderCheck
    dsimp only
    split
    · exact inStep
    · split_ifs <;> exact inStep.kept ⟨rfl, rfl, rfl⟩ rfl ⟨rfl, rfl, rfl⟩
  | packet sender =>
    rw [PeerRun.step_quiet rfl]
    unfold peerStep admitPeerPacket c64PacketAdmit
    dsimp only
    split_ifs <;> exact inStep.kept ⟨rfl, rfl, rfl⟩ rfl ⟨rfl, rfl, rfl⟩

end Invariant

section Follows

/-- In a run whose steps are in time, the packets that are accepted are always those of the host that
is configured, of the second address that is, and of the address that was learned for it. -/
theorem peers_follow (host peerHost : Text) (ops : List PeerOp)
    (timely : EachStep PeerRun.step PeerRun.Timely (PeerRun.start host peerHost) ops) :
    Always PeerRun.step PeerRun.Follows (PeerRun.start host peerHost) ops := by
  -- Every step in time keeps the run in step, which starts so.
  have inStep : Always PeerRun.step PeerRun.InStep (PeerRun.start host peerHost) ops :=
    always_of_eachStep (fun _ _ inStep timely => inStep.step timely) timely
      (PeerRun.start_inStep host peerHost)
  exact inStep.imp fun _ inStep => inStep.follows

def livingRoomAddress : AddressText := ⟨text "192.168.1.64", by decide +kernel⟩

/-- A source that is named by its host learns the address that its packets come from, keeps it over
another resolution and a start, and is then given another host with a second address. -/
def renamedPeerOps : List PeerOp :=
  [.readHostname, .resolve (some livingRoomAddress), .packet 0x4201A8C0, .readAttempted,
    .beginSenderCheck true, .adopt true, .readHostname, .resolve (some livingRoomAddress),
    .readStarting, .start, .update (text "192.168.1.80") (text "192.168.1.81") true,
    .packet 0x4001A8C0, .packet 0x5101A8C0, .readStarting, .start]

/-- Its packets are accepted as they should be at every moment. -/
theorem renamedPeerOps_follow :
    EachStep PeerRun.step PeerRun.Timely (PeerRun.start (text "c64u") []) renamedPeerOps ∧
      Always PeerRun.step PeerRun.Follows (PeerRun.start (text "c64u") []) renamedPeerOps :=
  have timely : EachStep PeerRun.step PeerRun.Timely (PeerRun.start (text "c64u") [])
      renamedPeerOps := by decide +kernel
  ⟨timely, peers_follow (text "c64u") [] renamedPeerOps timely⟩

def forgottenPeerOps : List PeerOp := [.readHostname, .resolve (some livingRoomAddress)]

/-- The resolution forgets the second address, whose packets are then rejected. -/
theorem forgottenPeerOps_not_follow :
    ¬ Always PeerRun.step PeerRun.Follows (PeerRun.start (text "c64u") (text "192.168.1.65"))
      forgottenPeerOps := by
  intro always
  have known : (0x4001A8C0 : UInt32) ∈ (forgottenPeerOps.foldl PeerRun.step
      (PeerRun.start (text "c64u") (text "192.168.1.65"))).resolved := by decide +kernel
  have accepted := (always.last 0x4001A8C0 known 0x4101A8C0).mpr (.inr (.inl (by decide +kernel)))
  revert accepted
  decide +kernel

end Follows

end C64Stream
