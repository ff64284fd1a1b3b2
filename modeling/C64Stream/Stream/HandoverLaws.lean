import C64Stream.Network.BufferLaws
import C64Stream.Stream.Handover

/-! When the picture of a device is cut over to that of the next one. -/

namespace C64Stream

section Rings

theorem mem_ringPush {α : Type*} {capacity : Nat} {ring : List α} {place : Nat} {packet other : α}
    (member : other ∈ ringPush capacity ring place packet) : other = packet ∨ other ∈ ring := by
  unfold ringPush at member
  split at member
  · exact .inr member
  · simp only [List.mem_append, List.mem_cons] at member
    rcases member with before | rfl | after
    · exact .inr (List.mem_of_mem_take before)
    · exact .inl rfl
    · exact .inr (List.mem_of_mem_drop after)

theorem mem_processVideoPacketDirect {frame : PartialFrame} {packet other : Datagram}
    (member : other ∈ (processVideoPacketDirect frame packet).packets.map (·.2)) :
    other = packet ∨ other ∈ frame.packets.map (·.2) := by
  unfold processVideoPacketDirect at member
  split at member
  · exact .inr member
  -- A frame that is begun holds no packet yet.
  simp only at member
  generalize startedEq : (if frame.frameNum ≠ readUint16 packet.data 2 then
    c64InitFrameAssembly (readUint16 packet.data 2) else frame) = started at member
  have begun : ∀ next ∈ started.packets.map (·.2), next ∈ frame.packets.map (·.2) := by
    intro next
    rw [← startedEq]
    split
    · exact nofun
    · exact id
  split at member
  · simp only [List.map_append, List.mem_append, List.map_cons, List.map_nil,
      List.mem_singleton] at member
    rcases member with old | rfl
    · exact .inr (begun other old)
    · exact .inl rfl
  · exact .inr (begun other member)

end Rings

section Property

/-- The picture is cut over: when a packet of the new device was handed on, none of the previous
one is held or handed on after it, and no flush removes a packet of the new device. -/
structure CutOver (previous : UInt32) (system : HandoverSystem) : Prop where
  separate : ∀ new ∈ system.put, new.sender ≠ previous →
    ∀ packet ∈ system.held, packet.sender ≠ previous
  ordered : system.put.Pairwise fun earlier later =>
    earlier.sender ≠ previous → later.sender ≠ previous
  kept : ∀ packet ∈ system.flushed, packet.sender = previous

/-- The packet that the processor is busy with. -/
def Processor.packet? : Processor → Option FifoPacket
  | .idle => none
  | .popped _ packet | .kept _ packet _ | .ready _ packet => some packet

/-- A switch has begun: another device is expected, and whatever was admitted is from the previous
one. -/
structure Armed (previous : UInt32) (system : HandoverSystem) : Prop where
  expected : ∃ selected, system.filter.expectedPeerIp = some selected ∧ selected ≠ previous
  alternate : system.filter.expectedPeerAltIp ≠ some previous
  learned : system.filter.learnedPeerIp ≠ some previous
  handover : system.filter.handoverPeerIp = some previous
  queued : ∀ stream, ∀ packet ∈ (system.fifo stream).packets, packet.datagram.sender = previous
  tagged : ∀ stream packet, system.receiver stream = .tagged packet true →
    packet.sender = previous
  admitted : ∀ stream packet tag, system.receiver stream = .admitted packet tag →
    packet.sender = previous
  processed : ∀ packet, system.processor.packet? = some packet → packet.datagram.sender = previous
  held : ∀ packet ∈ system.held, packet.sender = previous
  palette : system.paletteCutoverFlush = false
  put : system.put = []
  flushed : system.flushed = []

/-- Whether a packet of the previous device does not have its mark. -/
def unmarked (previous : UInt32) (packet : Datagram) (fromHandover : Bool) : Bool :=
  packet.sender == previous && !fromHandover

/-- Whether a packet of the previous device without its mark was admitted and not checked yet. -/
def hidesPrevious (system : HandoverSystem) (previous : UInt32) : Bool :=
  ([BufferType.video, .audio].any fun stream =>
    (system.fifo stream).packets.any (fun packet =>
      unmarked previous packet.datagram packet.fromHandover) ||
      match system.receiver stream with
      | .admitted packet fromHandover => unmarked previous packet fromHandover
      | _ => false) ||
    match system.processor with
    | .popped _ packet => unmarked previous packet.datagram packet.fromHandover
    | _ => false

/-- A packet of the new device is admitted for the first time only when all packets of the previous
one that wait have their mark. -/
def closesClean (system : HandoverSystem) : HandoverOp → Bool
  | .accept stream =>
    match system.receiver stream, system.filter.handoverPeerIp with
    | .tagged packet _, some previous =>
      !(c64PacketFromExpectedPeer system.filter packet.sender &&
        closesHandover system.filter packet.sender) || !hidesPrevious system previous
    | _, _ => true
  | _ => true

end Property

section Invariant

/-- The addresses of a switch. -/
structure FilterSound (previous : UInt32) (filter : IngestFilter) : Prop where
  expected : ∃ selected, filter.expectedPeerIp = some selected ∧ selected ≠ previous
  alternate : filter.expectedPeerAltIp ≠ some previous
  learned : filter.learnedPeerIp ≠ some previous
  handover : filter.handoverPeerIp = none ∨ filter.handoverPeerIp = some previous

/-- What is known of a packet that waits: all are from the previous device while the handover is
open, and those of the previous device have their mark afterwards. -/
def Waits (previous : UInt32) (filter : IngestFilter) (packet : Datagram) (fromHandover : Bool) :
    Prop :=
  if filter.handoverPeerIp.isSome then packet.sender = previous
  else fromHandover = true ↔ packet.sender = previous

/-- Whether the processor has still to be told to flush. -/
def beforeFlush (filter : IngestFilter) : Bool :=
  filter.handoverPeerIp.isSome || filter.handoverFlushPending

/-- Whether a packet is from the device whose packets are handed on. -/
def IsShown (previous : UInt32) (before : Bool) (packet : Datagram) : Prop :=
  if before then packet.sender = previous else packet.sender ≠ previous

/-- Whether the processor is about to flush. -/
def Processor.flushes : Processor → Bool
  | .kept _ _ flush => flush
  | _ => false

/-- Whether nothing of the new device has been handed on. -/
def HandoverSystem.uncut (system : HandoverSystem) : Bool :=
  beforeFlush system.filter || system.processor.flushes

/-- What holds of the threads of a source in every state of a switch. -/
structure SwitchSound (previous : UInt32) (system : HandoverSystem) : Prop where
  filter : FilterSound previous system.filter
  palette : system.paletteCutoverFlush = false
  queued : ∀ stream, ∀ packet ∈ (system.fifo stream).packets,
    Waits previous system.filter packet.datagram packet.fromHandover
  tagged : ∀ stream packet, system.receiver stream = .tagged packet true →
    packet.sender = previous
  admitted : ∀ stream packet tag, system.receiver stream = .admitted packet tag →
    Waits previous system.filter packet tag
  popped : ∀ stream packet, system.processor = .popped stream packet →
    Waits previous system.filter packet.datagram packet.fromHandover
  kept : ∀ stream packet flush, system.processor = .kept stream packet flush →
    IsShown previous (beforeFlush system.filter) packet.datagram
  ready : ∀ stream packet, system.processor = .ready stream packet →
    IsShown previous (beforeFlush system.filter) packet.datagram
  held : ∀ packet ∈ system.held, IsShown previous system.uncut packet
  put : system.uncut = true → ∀ packet ∈ system.put, packet.sender = previous
  ordered : system.put.Pairwise fun earlier later =>
    earlier.sender ≠ previous → later.sender ≠ previous
  flushed : ∀ packet ∈ system.flushed, packet.sender = previous

theorem Armed.sound {previous : UInt32} {system : HandoverSystem} (armed : Armed previous system) :
    SwitchSound previous system := by
  have opened : system.filter.handoverPeerIp.isSome = true := by rw [armed.handover]; rfl
  have before : beforeFlush system.filter = true := by rw [beforeFlush, opened]; rfl
  have uncut : system.uncut = true := by rw [HandoverSystem.uncut, before]; rfl
  have waits : ∀ packet tag, packet.sender = previous →
      Waits previous system.filter packet tag := by
    intro packet tag sender
    rw [Waits, if_pos opened]
    exact sender
  have shown : ∀ packet, packet.sender = previous →
      IsShown previous (beforeFlush system.filter) packet := by
    intro packet sender
    rw [IsShown, before]
    exact sender
  refine ⟨⟨armed.expected, armed.alternate, armed.learned, .inr armed.handover⟩, armed.palette,
    fun stream packet member => waits _ _ (armed.queued stream packet member), armed.tagged,
    fun stream packet tag busy => waits _ _ (armed.admitted stream packet tag busy), ?_, ?_, ?_,
    ?_, ?_, ?_, ?_⟩
  · intro stream packet busy
    exact waits _ _ (armed.processed packet (by rw [busy]; rfl))
  · intro stream packet flush busy
    exact shown _ (armed.processed packet (by rw [busy]; rfl))
  · intro stream packet busy
    exact shown _ (armed.processed packet (by rw [busy]; rfl))
  · intro packet member
    rw [IsShown, uncut]
    exact armed.held packet member
  · rw [armed.put]
    exact fun _ => nofun
  · rw [armed.put]
    exact .nil
  · rw [armed.flushed]
    exact nofun

theorem SwitchSound.cutOver {previous : UInt32} {system : HandoverSystem}
    (sound : SwitchSound previous system) : CutOver previous system where
  separate := by
    intro new member sender packet held
    have shown := sound.held packet held
    cases uncut : system.uncut with
    | true => exact absurd (sound.put uncut new member) sender
    | false =>
      rw [IsShown, uncut] at shown
      exact shown
  ordered := sound.ordered
  kept := sound.flushed

end Invariant

section Steps

variable {previous : UInt32} {system : HandoverSystem}

theorem update_cases {α : Type*} {store : BufferType → α} {stream other : BufferType}
    {value read : α} (found : Function.update store stream value other = read) :
    value = read ∨ store other = read := by
  by_cases same : other = stream
  · subst same
    rw [Function.update_self] at found
    exact .inl found
  · rw [Function.update_of_ne same] at found
    exact .inr found

theorem SwitchSound.receive (sound : SwitchSound previous system) (stream : BufferType)
    (next : Receiver) (tagged : ∀ packet, next = .tagged packet true → packet.sender = previous)
    (admitted : ∀ packet tag, next = .admitted packet tag →
      Waits previous system.filter packet tag) :
    SwitchSound previous { system with receiver := Function.update system.receiver stream next } :=
  { sound with
    tagged := fun other packet found =>
      (update_cases found).elim (tagged packet) (sound.tagged other packet)
    admitted := fun other packet tag found =>
      (update_cases found).elim (admitted packet tag) (sound.admitted other packet tag) }

theorem SwitchSound.process (sound : SwitchSound previous system) {next : Processor}
    (flushes : next.flushes = system.processor.flushes)
    (popped : ∀ stream packet, next = .popped stream packet →
      Waits previous system.filter packet.datagram packet.fromHandover)
    (kept : ∀ stream packet flush, next = .kept stream packet flush →
      IsShown previous (beforeFlush system.filter) packet.datagram)
    (ready : ∀ stream packet, next = .ready stream packet →
      IsShown previous (beforeFlush system.filter) packet.datagram) :
    SwitchSound previous { system with processor := next } := by
  have uncut : HandoverSystem.uncut { system with processor := next } = system.uncut := by
    rw [HandoverSystem.uncut, HandoverSystem.uncut, flushes]
  refine { sound with popped := popped, kept := kept, ready := ready, held := ?_, put := ?_ }
  · rw [uncut]
    exact sound.held
  · rw [uncut]
    exact sound.put

theorem receiveStep_sound (sound : SwitchSound previous system) (stream : BufferType)
    (packet : Datagram) : SwitchSound previous (receiveStep system stream packet) := by
  unfold receiveStep
  split
  · split
    · exact sound
    · refine sound.receive stream _ (fun other tagged => ?_) nofun
      -- The mark is only set while the handover is open.
      obtain ⟨rfl, mark⟩ := Receiver.tagged.inj tagged
      have handover : system.filter.handoverPeerIp = some packet.sender := by
        simpa [c64PacketFromHandover] using mark
      rcases sound.filter.handover with closed | opened
      · rw [closed] at handover
        cases handover
      · exact Option.some.inj (handover.symm.trans opened)
  · exact sound

theorem c64PacketAdmit_cases {filter : IngestFilter} (sound : FilterSound previous filter)
    (sender : UInt32) :
    (filter.handoverPeerIp = some previous ∧ sender ≠ previous ∧
      (c64PacketFromExpectedPeer filter sender && closesHandover filter sender) = true ∧
      c64PacketAdmit filter sender =
        ({ filter with handoverFlushPending := true, handoverPeerIp := none }, true)) ∨
    (filter.handoverPeerIp = none ∧ sender ≠ previous ∧
      c64PacketAdmit filter sender = (filter, true)) ∨
    (filter.handoverPeerIp = some previous ∧ sender = previous ∧
      c64PacketAdmit filter sender = (filter, true)) ∨
    c64PacketAdmit filter sender = ({ filter with rejectedPeerIp := sender }, false) := by
  obtain ⟨selected, expected, other⟩ := sound.expected
  have fromSelected : c64PacketFromExpectedPeer filter sender = true → sender ≠ previous := by
    rintro accepted rfl
    rw [c64PacketFromExpectedPeer, expected] at accepted
    simp only [Bool.or_eq_true, decide_eq_true_eq] at accepted
    rcases accepted with (same | alternate) | learned
    · exact other same.symm
    · exact sound.alternate alternate
    · exact sound.learned learned
  unfold c64PacketAdmit
  by_cases accepted : c64PacketFromExpectedPeer filter sender = true
  · have different := fromSelected accepted
    rw [if_pos accepted]
    rcases sound.handover with closed | opened
    · have notClosing : closesHandover filter sender = false := by
        rw [closesHandover, closed]
        rfl
      exact .inr (.inl ⟨closed, different, by rw [notClosing]; rfl⟩)
    · have closing : closesHandover filter sender = true := by
        rw [closesHandover, opened, expected]
        simpa using Ne.symm different
      exact .inl ⟨opened, different, by rw [accepted, closing]; rfl, if_pos closing⟩
  · rw [if_neg accepted]
    split
    · next handover =>
      rcases sound.handover with closed | opened
      · rw [closed] at handover
        cases handover
      · exact .inr (.inr (.inl ⟨opened, Option.some.inj (handover.symm.trans opened), rfl⟩))
    · exact .inr (.inr (.inr rfl))

theorem marked_of_hidesPrevious (clean : hidesPrevious system previous = false) :
    (∀ stream, ∀ packet ∈ (system.fifo stream).packets, packet.datagram.sender = previous →
      packet.fromHandover = true) ∧
    (∀ stream packet tag, system.receiver stream = .admitted packet tag →
      packet.sender = previous → tag = true) ∧
    (∀ stream packet, system.processor = .popped stream packet →
      packet.datagram.sender = previous → packet.fromHandover = true) := by
  have marked : ∀ packet tag, unmarked previous packet tag = false → packet.sender = previous →
      tag = true := by
    intro packet tag visible sender
    simpa [unmarked, sender] using visible
  simp only [hidesPrevious, Bool.or_eq_false_iff, List.any_eq_false, Bool.not_eq_true] at clean
  obtain ⟨threads, processor⟩ := clean
  have all : ∀ stream : BufferType, stream ∈ [BufferType.video, .audio] := by
    intro stream
    cases stream <;> simp
  refine ⟨fun stream packet member => ?_, fun stream packet tag busy => ?_,
    fun stream packet busy => ?_⟩
  · exact marked _ _ ((threads stream (all stream)).1 packet member)
  · have visible := (threads stream (all stream)).2
    rw [busy] at visible
    exact marked _ _ visible
  · rw [busy] at processor
    exact marked _ _ processor

theorem SwitchSound.close (sound : SwitchSound previous system)
    (opened : system.filter.handoverPeerIp = some previous)
    (clean : hidesPrevious system previous = false) :
    SwitchSound previous { system with
      filter := { system.filter with handoverFlushPending := true, handoverPeerIp := none } } := by
  obtain ⟨queued, admitted, popped⟩ := marked_of_hidesPrevious clean
  have open' : system.filter.handoverPeerIp.isSome = true := by rw [opened]; rfl
  have before : beforeFlush system.filter = true := by rw [beforeFlush, open']; rfl
  have uncut : system.uncut = true := by rw [HandoverSystem.uncut, before]; rfl
  -- All that waited is from the previous device, and has its mark.
  have waits : ∀ packet tag, Waits previous system.filter packet tag →
      (packet.sender = previous → tag = true) →
        Waits previous { system.filter with handoverFlushPending := true, handoverPeerIp := none }
          packet tag := by
    intro packet tag waiting mark
    rw [Waits, if_pos open'] at waiting
    exact ⟨fun _ => waiting, mark⟩
  refine { sound with
    filter := ⟨sound.filter.expected, sound.filter.alternate, sound.filter.learned, .inl rfl⟩
    queued := fun stream packet member =>
      waits _ _ (sound.queued stream packet member) (queued stream packet member)
    admitted := fun stream packet tag busy =>
      waits _ _ (sound.admitted stream packet tag busy) (admitted stream packet tag busy)
    popped := fun stream packet busy =>
      waits _ _ (sound.popped stream packet busy) (popped stream packet busy)
    kept := ?_, ready := ?_, held := ?_, put := fun _ => sound.put uncut }
  · have kept := sound.kept
    rw [before] at kept
    exact kept
  · have ready := sound.ready
    rw [before] at ready
    exact ready
  · have held := sound.held
    rw [uncut] at held
    exact held

theorem admitStep_sound (sound : SwitchSound previous system) {stream : BufferType}
    (clean : closesClean system (.accept stream) = true) :
    SwitchSound previous (admitStep system stream) := by
  unfold admitStep
  cases busy : system.receiver stream with
  | waiting => exact sound
  | admitted packet tag => exact sound
  | tagged packet tag =>
  simp only
  have marked : tag = true → packet.sender = previous := by
    rintro rfl
    exact sound.tagged stream packet busy
  -- Whatever is admitted waits with the mark that it was given before.
  have admits : ∀ {next : HandoverSystem}, SwitchSound previous next →
      (∀ tag', tag' = tag → Waits previous next.filter packet tag') →
        SwitchSound previous { next with
          receiver := Function.update next.receiver stream
            (if true = true ∧ packet.data.length = packetSize stream then .admitted packet tag
             else .waiting) } := by
    intro next after waits
    refine after.receive stream _ (fun other found => ?_) fun other tag' found => ?_
    · split at found <;> cases found
    · split at found
      · obtain ⟨rfl, rfl⟩ := Receiver.admitted.inj found
        exact waits _ rfl
      · cases found
  rcases c64PacketAdmit_cases sound.filter packet.sender with
    ⟨opened, different, closing, result⟩ | ⟨closed, different, result⟩ |
      ⟨opened, same, result⟩ | result
  · rw [result]
    have visible : hidesPrevious system previous = false := by
      simpa only [closesClean, busy, opened, closing, Bool.not_true, Bool.false_or,
        Bool.not_eq_true'] using clean
    refine admits (sound.close opened visible) ?_
    rintro _ rfl
    exact ⟨marked, fun sender => absurd sender different⟩
  · rw [result]
    refine admits sound ?_
    rintro _ rfl
    rw [Waits, closed]
    exact ⟨marked, fun sender => absurd sender different⟩
  · rw [result]
    refine admits sound ?_
    rintro _ rfl
    rw [Waits, opened]
    exact same
  · rw [result]
    have rejected : SwitchSound previous { system with
        filter := { system.filter with rejectedPeerIp := packet.sender } } :=
      { sound with
        filter := ⟨sound.filter.expected, sound.filter.alternate, sound.filter.learned,
          sound.filter.handover⟩ }
    refine rejected.receive stream _ (fun other found => ?_) fun other tag' found => ?_ <;>
    · rw [if_neg (by simp)] at found
      cases found

theorem mem_pushTagged {fifo : NetworkFifo} {packet other : FifoPacket}
    (member : other ∈ (c64NetworkFifoPushTagged fifo packet).1.packets) :
    other = packet ∨ other ∈ fifo.packets := by
  unfold c64NetworkFifoPushTagged at member
  split_ifs at member
  · exact .inr member
  · exact .inr member
  · exact .inr member
  · rcases List.mem_append.mp member with old | new
    · exact .inr old
    · exact .inl (List.mem_singleton.mp new)

theorem SwitchSound.queue (sound : SwitchSound previous system) (stream : BufferType)
    (next : NetworkFifo) (waits : ∀ packet ∈ next.packets,
      Waits previous system.filter packet.datagram packet.fromHandover) :
    SwitchSound previous { system with fifo := Function.update system.fifo stream next } := by
  refine { sound with queued := fun other packet member => ?_ }
  simp only at member
  by_cases same : other = stream
  · subst same
    rw [Function.update_self] at member
    exact waits packet member
  · rw [Function.update_of_ne same] at member
    exact sound.queued other packet member

theorem pushStep_sound (sound : SwitchSound previous system) (stream : BufferType)
    (timestampNs : UInt64) : SwitchSound previous (pushStep system stream timestampNs) := by
  unfold pushStep
  cases busy : system.receiver stream with
  | waiting => exact sound
  | tagged packet tag => exact sound
  | admitted packet tag =>
  have waits := sound.admitted stream packet tag busy
  have idle := sound.receive stream .waiting nofun nofun
  have queued := idle.queue stream (c64NetworkFifoPushTagged (system.fifo stream)
    ⟨packet, timestampNs, tag, takesPaletteCutover system stream packet tag⟩).1
    fun other member => by
      rcases mem_pushTagged member with rfl | old
      · exact waits
      · exact sound.queued stream other old
  exact { queued with palette := sound.palette }

theorem popStep_sound (sound : SwitchSound previous system) (stream : BufferType) :
    SwitchSound previous (popStep system stream) := by
  unfold popStep
  split
  · next packet idle first =>
    have member : packet ∈ (system.fifo stream).packets := List.mem_of_head? first
    have waits := sound.queued stream packet member
    have rest := sound.queue stream (c64NetworkFifoCommitPop (system.fifo stream))
      fun other left => sound.queued stream other (List.mem_of_mem_tail left)
    refine rest.process ?_ (fun other found same => ?_) nofun nofun
    · simp only [idle]
      rfl
    · obtain ⟨_, rfl⟩ := Processor.popped.inj same
      exact waits
  · exact sound

theorem Waits.shown {filter : IngestFilter} {packet : Datagram}
    (waits : Waits previous filter packet false) (settled : filter.handoverFlushPending = false) :
    IsShown previous (beforeFlush filter) packet := by
  rw [beforeFlush, settled, Bool.or_false]
  cases opened : filter.handoverPeerIp.isSome with
  | true =>
    rw [Waits, if_pos opened] at waits
    exact waits
  | false =>
    rw [Waits, opened] at waits
    exact fun sender => Bool.false_ne_true (waits.mpr sender)

theorem checkStep_sound (sound : SwitchSound previous system) :
    SwitchSound previous (checkStep system) := by
  unfold checkStep
  cases busy : system.processor with
  | idle => exact sound
  | kept stream packet flush => exact sound
  | ready stream packet => exact sound
  | popped stream packet =>
  have waits := sound.popped stream packet busy
  have flushes : system.processor.flushes = false := by rw [busy]; rfl
  simp only
  cases mark : packet.fromHandover with
  | true =>
    have result : c64HandoverShouldDrop system.filter true =
        (system.filter, system.filter.handoverPeerIp.isNone, false) := rfl
    rw [mark] at waits
    rw [result]
    refine sound.process ?_ (fun other found same => ?_) (fun other found flush same => ?_)
      (fun other found same => ?_)
    · rw [flushes]
      split <;> rfl
    · split at same <;> cases same
    · -- What is not dropped came before the handover was closed.
      split at same
      · cases same
      next opened =>
      obtain ⟨_, rfl, _⟩ := Processor.kept.inj same
      have opened : system.filter.handoverPeerIp.isSome = true := by
        simpa [Option.isSome_iff_ne_none] using opened
      rw [Waits, if_pos opened] at waits
      rw [IsShown, beforeFlush, opened]
      exact waits
    · split at same <;> cases same
  | false =>
    rw [mark] at waits
    cases pending : system.filter.handoverFlushPending with
    | true =>
      have result : c64HandoverShouldDrop system.filter false =
          ({ system.filter with handoverFlushPending := false }, false, true) := by
        rw [c64HandoverShouldDrop, if_neg Bool.false_ne_true, if_pos pending]
      -- The flush is no longer requested, but the processor is about to do it.
      have uncut : system.uncut = true := by
        rw [HandoverSystem.uncut, beforeFlush, pending, Bool.or_true, Bool.true_or]
      have held := sound.held
      rw [uncut] at held
      rw [result]
      refine { sound with
        filter := ⟨sound.filter.expected, sound.filter.alternate, sound.filter.learned,
          sound.filter.handover⟩
        popped := nofun, kept := ?_, ready := nofun, held := ?_, put := fun _ => sound.put uncut }
      · intro other found flush same
        obtain ⟨_, rfl, _⟩ := Processor.kept.inj same
        exact @Waits.shown _ { system.filter with handoverFlushPending := false } _ waits rfl
      · rw [HandoverSystem.uncut]
        simp only [Processor.flushes, Bool.false_eq_true, if_false, Bool.or_true]
        exact held
    | false =>
      have result : c64HandoverShouldDrop system.filter false = (system.filter, false, false) := by
        rw [c64HandoverShouldDrop, if_neg Bool.false_ne_true, pending, if_neg Bool.false_ne_true]
      rw [result]
      refine sound.process (by rw [flushes]; rfl) nofun (fun other found flush same => ?_) nofun
      obtain ⟨_, rfl, _⟩ := Processor.kept.inj same
      exact waits.shown pending

theorem handoverFlush_held (system : HandoverSystem) : (c64HandoverFlush system).held = [] := by
  unfold HandoverSystem.held c64HandoverFlush
  cases system.networkBuffer <;> rfl

theorem SwitchSound.flush (sound : SwitchSound previous system)
    (flushes : system.processor.flushes = true) {stream : BufferType} {packet : FifoPacket}
    (shown : IsShown previous (beforeFlush system.filter) packet.datagram) :
    SwitchSound previous { c64HandoverFlush system with processor := .ready stream packet } := by
  have uncut : system.uncut = true := by rw [HandoverSystem.uncut, flushes, Bool.or_true]
  have held : ∀ packet ∈ system.held, packet.sender = previous := by
    intro packet member
    have old := sound.held packet member
    rw [uncut] at old
    exact old
  refine { sound with
    popped := nofun, kept := nofun, ready := fun other found same => ?_, held := fun next member => ?_
    put := fun _ => sound.put uncut, flushed := fun next member => ?_ }
  · obtain ⟨_, rfl⟩ := Processor.ready.inj same
    exact shown
  · have member : next ∈ (c64HandoverFlush system).held := member
    rw [handoverFlush_held] at member
    cases member
  · rcases List.mem_append.mp member with old | new
    · exact sound.flushed next old
    · exact held next new

theorem flushStep_sound (sound : SwitchSound previous system) :
    SwitchSound previous (flushStep system) := by
  unfold flushStep
  cases busy : system.processor with
  | idle => exact sound
  | popped stream packet => exact sound
  | ready stream packet => exact sound
  | kept stream packet flush =>
  have shown := sound.kept stream packet flush busy
  have flushed : SwitchSound previous
      { if flush then c64HandoverFlush system else system with
        processor := .ready stream packet } := by
    cases flush with
    | true => exact sound.flush (by rw [busy]; rfl) shown
    | false =>
      refine sound.process (by rw [busy]; rfl) nofun nofun fun other found same => ?_
      obtain ⟨_, rfl⟩ := Processor.ready.inj same
      exact shown
  have palette : (if flush then c64HandoverFlush system else system).paletteCutoverFlush =
      false := flushed.palette
  simp only
  generalize (if flush then c64HandoverFlush system else system) = after at flushed palette ⊢
  -- The palette does not ask for a flush of its own during a handover.
  rw [palette, Bool.and_false, if_neg Bool.false_ne_true]
  split
  · exact { flushed with palette := palette }
  · exact flushed

theorem SwitchSound.hold (sound : SwitchSound previous system)
    {networkBuffer : Option (BufferType → List Datagram)} {frame : PartialFrame}
    {processor : Processor} (idle : processor = .idle)
    (flushes : system.processor.flushes = false)
    {put : List Datagram} (held : ∀ packet ∈ HandoverSystem.held { system with
      networkBuffer := networkBuffer, currentFrame := frame },
        packet ∈ system.held ∨ IsShown previous (beforeFlush system.filter) packet)
    (handed : put = system.put ∨ ∃ packet, put = system.put ++ [packet] ∧
      IsShown previous (beforeFlush system.filter) packet) :
    SwitchSound previous { system with
      networkBuffer := networkBuffer, currentFrame := frame, processor := processor
      put := put } := by
  have uncut : system.uncut = beforeFlush system.filter := by
    rw [HandoverSystem.uncut, flushes, Bool.or_false]
  have uncut' : HandoverSystem.uncut { system with
      networkBuffer := networkBuffer, currentFrame := frame, processor := processor
      put := put } = beforeFlush system.filter := by
    rw [idle]
    exact Bool.or_false _
  subst idle
  refine { sound with
    popped := nofun, kept := nofun, ready := nofun, held := fun packet member => ?_
    put := fun before packet member => ?_, ordered := ?_ }
  · rw [uncut']
    rcases held packet member with old | new
    · rw [← uncut]
      exact sound.held packet old
    · exact new
  · rw [uncut'] at before
    rcases handed with rfl | ⟨last, rfl, shown⟩
    · exact sound.put (uncut.trans before) packet member
    · rcases List.mem_append.mp member with old | new
      · exact sound.put (uncut.trans before) packet old
      · obtain rfl := List.mem_singleton.mp new
        rw [before] at shown
        exact shown
  · rcases handed with rfl | ⟨last, rfl, shown⟩
    · exact sound.ordered
    · refine List.pairwise_append.mpr ⟨sound.ordered, List.pairwise_singleton _ _, ?_⟩
      intro earlier member later here different
      obtain rfl := List.mem_singleton.mp here
      cases before : beforeFlush system.filter with
      | true => exact absurd (sound.put (uncut.trans before) earlier member) different
      | false =>
        rw [before] at shown
        exact shown

theorem mem_held {networkBuffer : Option (BufferType → List Datagram)} {packets : List Datagram}
    {packet : Datagram} : packet ∈ ringPackets networkBuffer ++ packets ↔
      (∃ ring stream, networkBuffer = some ring ∧ packet ∈ ring stream) ∨ packet ∈ packets := by
  rw [List.mem_append]
  refine or_congr_left ?_
  cases networkBuffer with
  | none => simp [ringPackets]
  | some ring =>
    simp only [ringPackets, List.mem_append, Option.some.injEq]
    constructor
    · rintro (video | audio)
      · exact ⟨ring, .video, rfl, video⟩
      · exact ⟨ring, .audio, rfl, audio⟩
    · rintro ⟨_, stream, rfl, member⟩
      cases stream with
      | video => exact .inl member
      | audio => exact .inr member

theorem putStep_sound (sound : SwitchSound previous system) (place : Nat) :
    SwitchSound previous (putStep system place) := by
  unfold putStep
  cases busy : system.processor with
  | idle => exact sound
  | popped stream packet => exact sound
  | kept stream packet flush => exact sound
  | ready stream packet =>
  have shown := sound.ready stream packet busy
  have flushes : system.processor.flushes = false := by rw [busy]; rfl
  simp only
  split
  · exact sound.hold rfl flushes (fun _ => .inl) (.inl rfl)
  split
  · next ring rings =>
    refine sound.hold rfl flushes (fun other member => ?_) (.inr ⟨packet.datagram, rfl, shown⟩)
    unfold HandoverSystem.held at member ⊢
    rw [mem_held] at member ⊢
    rcases member with ⟨_, stream', same, member⟩ | frame
    · obtain rfl := Option.some.inj same
      rcases update_cases (rfl : Function.update ring stream _ stream' = _) with pushed | kept
      · rw [← pushed] at member
        rcases mem_ringPush member with rfl | old
        · exact .inr shown
        · exact .inl (.inl ⟨ring, stream, rings, old⟩)
      · rw [← kept] at member
        exact .inl (.inl ⟨ring, stream', rings, member⟩)
    · exact .inl (.inr frame)
  split
  · refine sound.hold rfl flushes (fun other member => ?_) (.inr ⟨packet.datagram, rfl, shown⟩)
    unfold HandoverSystem.held at member ⊢
    rw [mem_held] at member ⊢
    rcases member with rings | frame
    · exact .inl (.inl rings)
    · rcases mem_processVideoPacketDirect frame with rfl | old
      · exact .inr shown
      · exact .inl (.inr old)
  · exact sound.hold rfl flushes (fun _ => .inl) (.inr ⟨packet.datagram, rfl, shown⟩)

theorem mem_processVideoPackets {packets : List Datagram} {frame : PartialFrame} {other : Datagram}
    (member : other ∈ (packets.foldl processVideoPacketDirect frame).packets.map (·.2)) :
    other ∈ packets ∨ other ∈ frame.packets.map (·.2) := by
  induction packets generalizing frame with
  | nil => exact .inr member
  | cons packet rest ih =>
    rcases ih member with later | here
    · exact .inl (List.mem_cons_of_mem _ later)
    · rcases mem_processVideoPacketDirect here with rfl | old
      · exact .inl List.mem_cons_self
      · exact .inr old

theorem popReadyStep_sound (sound : SwitchSound previous system) (video audio : Bool) :
    SwitchSound previous (popReadyStep system video audio) := by
  unfold popReadyStep
  split
  · next ring idle rings =>
    have flushes : system.processor.flushes = false := by rw [idle]; rfl
    refine sound.hold idle flushes (fun other member => ?_) (.inl rfl)
    left
    unfold HandoverSystem.held at member ⊢
    rw [mem_held] at member ⊢
    rcases member with ⟨_, stream, same, member⟩ | frame
    · obtain rfl := Option.some.inj same
      exact .inl ⟨ring, stream, rings, List.mem_of_mem_drop member⟩
    · rcases mem_processVideoPackets frame with taken | old
      · left
        refine ⟨ring, .video, rings, ?_⟩
        cases video with
        | true => exact List.mem_of_mem_take taken
        | false => cases taken
      · exact .inr old
  · exact sound

theorem handoverStep_sound (sound : SwitchSound previous system) {op : HandoverOp}
    (clean : closesClean system op = true) : SwitchSound previous (handoverStep system op) := by
  cases op with
  | receive stream packet => exact receiveStep_sound sound stream packet
  | accept stream => exact admitStep_sound sound clean
  | push stream timestampNs => exact pushStep_sound sound stream timestampNs
  | pop stream => exact popStep_sound sound stream
  | check => exact checkStep_sound sound
  | flush => exact flushStep_sound sound
  | put place => exact putStep_sound sound place
  | popReady video audio => exact popReadyStep_sound sound video audio

end Steps

section Runs

/-- However the threads interleave once a switch has begun, the picture is cut over from one device
to the other, as long as the handover is closed when all packets of the previous device that wait
have their mark. -/
theorem handover_cutOver {previous : UInt32} {system : HandoverSystem}
    (armed : Armed previous system) (ops : List HandoverOp)
    (clean : EachStep handoverStep (fun system op => closesClean system op = true) system ops) :
    Always handoverStep (CutOver previous) system ops := by
  have sound := @always_of_eachStep _ _ handoverStep (SwitchSound previous)
    (fun system op => closesClean system op = true)
    (fun _ _ sound clean => handoverStep_sound sound clean) _ ops clean armed.sound
  exact sound.imp fun _ sound => sound.cutOver

/-- A switch from one device to another, with packets in a queue. -/
def switchTo (queued : List FifoPacket) : HandoverSystem where
  filter := ⟨some 2, none, none, some 1, false, 0⟩
  fifo := Function.update (fun _ => ⟨[], 64, 0⟩) .audio ⟨queued, 64, 0⟩
  receiver := fun _ => .waiting
  processor := .idle
  networkBuffer := some fun _ => []
  currentFrame := ⟨0, []⟩
  paletteCutoverPending := false
  paletteCutoverMarked := false
  paletteCutoverFlush := false
  put := []
  flushed := []

/-- A packet of samples. -/
def samplesFrom (sender : UInt32) : Datagram :=
  ⟨sender, List.replicate 770 0⟩

/-- A packet of samples arrives and is queued. -/
def arrives (sender : UInt32) : List HandoverOp :=
  [.receive .audio (samplesFrom sender), .accept .audio, .push .audio 0]

/-- The processor takes a packet of samples and hands it on, unless it drops it. -/
def processes : List HandoverOp :=
  [.pop .audio, .check, .flush, .put 0]

/-- Packets of both devices arrive after the switch has begun, and the picture is cut over. -/
theorem switchTo_cutOver :
    Always handoverStep (CutOver 1) (switchTo [])
      (arrives 1 ++ processes ++ arrives 1 ++ arrives 2 ++ processes ++ processes) := by
  have armed : Armed 1 (switchTo []) := by
    refine ⟨⟨2, rfl, nofun⟩, nofun, nofun, rfl, fun stream packet member => ?_, nofun, nofun,
      nofun, nofun, rfl, rfl, rfl⟩
    cases stream <;> cases member
  exact handover_cutOver armed _ (by decide +kernel)

/-- A packet of the previous device that was queued before the switch is handed on after the flush,
and the next one, of the new device, is held beside it. -/
theorem switchTo_not_cutOver :
    ¬ ∀ (previous : UInt32) (system : HandoverSystem), Armed previous system →
      ∀ ops, Always handoverStep (CutOver previous) system ops := by
  intro all
  have armed : Armed 1 (switchTo [⟨samplesFrom 1, 0, false, false⟩]) := by
    refine ⟨⟨2, rfl, nofun⟩, nofun, nofun, rfl, fun stream packet member => ?_, nofun, nofun,
      nofun, nofun, rfl, rfl, rfl⟩
    cases stream with
    | video => cases member
    | audio =>
      obtain rfl := List.mem_singleton.mp member
      rfl
  have last := (all 1 _ armed (arrives 2 ++ processes ++ processes)).last
  have handed : ((arrives 2 ++ processes ++ processes).foldl handoverStep
      (switchTo [⟨samplesFrom 1, 0, false, false⟩])).put.any (·.sender == 2) = true := by
    decide +kernel
  have stays : ((arrives 2 ++ processes ++ processes).foldl handoverStep
      (switchTo [⟨samplesFrom 1, 0, false, false⟩])).held.any (·.sender == 1) = true := by
    decide +kernel
  obtain ⟨new, member, sender⟩ := List.any_eq_true.mp handed
  obtain ⟨old, held, sender'⟩ := List.any_eq_true.mp stays
  refine last.separate new member ?_ old held (beq_iff_eq.mp sender')
  rw [beq_iff_eq.mp sender]
  decide

end Runs

end C64Stream
