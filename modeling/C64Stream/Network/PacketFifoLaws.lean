import C64Stream.Network.PacketFifo
import C64Stream.Stream.Handover

/-! The queue between two threads hands over every packet that it took, once, whole and in order. -/

namespace C64Stream

section Copies

/-- So many accesses in, one slot has the fields and bytes of another. -/
structure CopiedUpTo (source target : FifoSlot) (accesses : Nat) : Prop where
  timestampNs : 0 < accesses → target.timestampNs = source.timestampNs
  size : 1 < accesses → target.size = source.size
  fromHandover : 2 < accesses → target.fromHandover = source.fromHandover
  paletteCutover : 3 < accesses → target.paletteCutover = source.paletteCutover
  data : ∀ byte, byte + 4 < accesses → target.data byte = source.data byte

variable {source target : FifoSlot}

theorem CopiedUpTo.zero (source target : FifoSlot) : CopiedUpTo source target 0 where
  timestampNs positive := absurd positive (by omega)
  size positive := absurd positive (by omega)
  fromHandover positive := absurd positive (by omega)
  paletteCutover positive := absurd positive (by omega)
  data _ positive := absurd positive (by omega)

theorem CopiedUpTo.succ {accesses : Nat} (copied : CopiedUpTo source target accesses) :
    CopiedUpTo source (copyAccess source accesses target) (accesses + 1) := by
  -- The cases are those of the access; every other field is as it was.
  match accesses, copied with
  | 0, copied | 1, copied | 2, copied | 3, copied =>
    constructor <;> intros <;> first
      | rfl
      | omega
      | exact copied.timestampNs (by omega)
      | exact copied.size (by omega)
      | exact copied.fromHandover (by omega)
  | last + 4, copied =>
    refine ⟨fun _ => copied.timestampNs (by omega), fun _ => copied.size (by omega),
      fun _ => copied.fromHandover (by omega), fun _ => copied.paletteCutover (by omega), ?_⟩
    intro byte within
    simp only [copyAccess]
    by_cases same : byte = last
    · rw [same, Function.update_self]
    · rw [Function.update_of_ne same]
      exact copied.data byte (by omega)

theorem CopiedUpTo.packet {accesses : Nat} (copied : CopiedUpTo source target accesses)
    (all : source.accesses ≤ accesses) : target.packet = source.packet := by
  unfold FifoSlot.accesses at all
  have size : target.size = source.size := copied.size (by omega)
  -- The bytes that count are those below the size.
  have data : (List.range source.size.toNat).map target.data =
      (List.range source.size.toNat).map source.data :=
    List.map_congr_left fun byte member =>
      copied.data byte (by have := List.mem_range.mp member; omega)
  rw [FifoSlot.packet, FifoSlot.packet, size, data, copied.timestampNs (by omega),
    copied.fromHandover (by omega), copied.paletteCutover (by omega)]

end Copies

section Exact

/-- The packets in the queue, oldest first. -/
def PacketFifo.queued (fifo : PacketFifo) : List TaggedPacket :=
  ringContents fifo.capacity fifo.head fifo.tail fun slot => (fifo.entries slot).packet

/-- The slot that the pushing thread writes to. -/
def FifoProducer.writes : FifoProducer → Option Nat
  | .filling _ head _ _ => some head
  | .idle | .headLoaded _ _ | .full => none

/-- The slot that the popping thread peeked at and has not given up. -/
def FifoConsumer.holds : FifoConsumer → Option Nat
  | .reading slot _ _ => some slot
  | .committing _ tail => some tail
  | .idle | .headLoaded _ => none

/-- Whether the refusal of a push has still to be counted. -/
def FifoProducer.uncounted : FifoProducer → Nat
  | .full => 1
  | .idle | .headLoaded _ _ | .filling _ _ _ _ => 0

/-- What is promised of the queue at every moment. -/
structure FifoRun.Exact (run : FifoRun) : Prop where
  /-- The packets that were handed over are the first of those that were taken, and the rest wait
  in the queue. -/
  split : run.accepted = run.delivered ++ run.fifo.queued
  /-- No slot is written while the other thread holds it. -/
  apart : ∀ slot, run.consumer.holds = some slot → run.producer.writes ≠ some slot
  /-- Every push that found no room is counted once, by the access that ends it. -/
  counted : run.fifo.droppedFull + run.producer.uncounted = run.refused
  room : run.fifo.queued.length ≤ run.fifo.capacity - 1

/-- What the queue holds behind an access: the last access of a push adds its packet, the last of a
commit takes the oldest off, and no other access, so none of a refused push, changes it. -/
def FifoRun.queuedAfter (run : FifoRun) (op : FifoOp) : List TaggedPacket :=
  match op, run.producer, run.consumer with
  | .produce, .filling packet _ _ written, _ =>
    if written < packet.accesses then run.fifo.queued else run.fifo.queued ++ [packet.packet]
  | .consume, _, .committing _ _ => run.fifo.queued.tail
  | _, _, _ => run.fifo.queued

/-- What is promised of every access. -/
structure FifoRun.StepExact (run : FifoRun) (op : FifoOp) : Prop where
  queue : (run.step op).fifo.queued = run.queuedAfter op
  /-- A push is only refused at a moment when the queue has no room. -/
  refusal : (run.step op).refused ≠ run.refused →
    run.fifo.queued.length = run.fifo.capacity - 1

end Exact

section Invariant

/-- What a pushing thread knows: its head is current, and a slot that it fills lies behind the
queue. -/
def ProducerSound (fifo : PacketFifo) : FifoProducer → Prop
  | .idle | .full => True
  | .headLoaded packet head =>
    head = fifo.head ∧ packet.size.toNat ≤ c64NetworkFifoPacketMaxSize
  | .filling packet head nextHead written =>
    head = fifo.head ∧ packet.size.toNat ≤ c64NetworkFifoPacketMaxSize ∧
      nextHead = (fifo.head + 1) % fifo.capacity ∧
      ringCount fifo.capacity fifo.head fifo.tail + 1 < fifo.capacity ∧
      CopiedUpTo packet (fifo.entries fifo.head) written

/-- What a popping thread knows: an older head that is not the tail shows that the queue is not
empty, and a slot that it holds is the tail. -/
def ConsumerSound (fifo : PacketFifo) : FifoConsumer → Prop
  | .idle => True
  | .headLoaded head => head ≠ fifo.tail → fifo.head ≠ fifo.tail
  | .reading slot copy read =>
    slot = fifo.tail ∧ fifo.head ≠ fifo.tail ∧ CopiedUpTo (fifo.entries fifo.tail) copy read
  | .committing copy tail =>
    tail = fifo.tail ∧ fifo.head ≠ fifo.tail ∧ copy.packet = (fifo.entries fifo.tail).packet

/-- What holds between any two accesses. -/
structure FifoRun.Sound (run : FifoRun) : Prop where
  large : 2 ≤ run.fifo.capacity
  headInside : run.fifo.head < run.fifo.capacity
  tailInside : run.fifo.tail < run.fifo.capacity
  producer : ProducerSound run.fifo run.producer
  consumer : ConsumerSound run.fifo run.consumer
  split : run.accepted = run.delivered ++ run.fifo.queued
  counted : run.fifo.droppedFull + run.producer.uncounted = run.refused

variable {run : FifoRun}

theorem FifoRun.start_sound (fifo : PacketFifo) (large : 2 ≤ fifo.capacity) :
    (FifoRun.start fifo).Sound where
  large := large
  headInside := Nat.lt_of_lt_of_le Nat.two_pos large
  tailInside := Nat.lt_of_lt_of_le Nat.two_pos large
  producer := trivial
  consumer := trivial
  split := by
    simp [FifoRun.start, c64NetworkFifoReset, PacketFifo.queued, ringContents, ringCount]
  counted := rfl

theorem FifoRun.Sound.exact (sound : run.Sound) : run.Exact where
  split := sound.split
  apart := by
    -- The slot that is held is the tail, the one that is written the head, and they differ.
    have consumer := sound.consumer
    have producer := sound.producer
    intro slot held written
    cases consuming : run.consumer with
    | idle | headLoaded head => simp [consuming, FifoConsumer.holds] at held
    | reading _ _ _ | committing _ _ =>
      cases producing : run.producer with
      | idle | full | headLoaded _ _ => simp [producing, FifoProducer.writes] at written
      | filling packet head nextHead count =>
        simp only [consuming, FifoConsumer.holds, Option.some.injEq] at held
        simp only [producing, FifoProducer.writes, Option.some.injEq] at written
        rw [consuming] at consumer
        rw [producing] at producer
        exact consumer.2.1 (producer.1.symm.trans (written.trans (held.symm.trans consumer.1)))
  counted := sound.counted
  room := by
    have bound := @ringCount_lt _ run.fifo.tail _ sound.headInside
    rw [PacketFifo.queued, ringContents_length]
    omega

end Invariant

section Steps

variable {run : FifoRun}

theorem queued_update (fifo : PacketFifo) (headInside : fifo.head < fifo.capacity)
    (tailInside : fifo.tail < fifo.capacity) (slot : FifoSlot) :
    PacketFifo.queued
        { fifo with entries := Function.update fifo.entries fifo.head slot } = fifo.queued :=
  ringContents_congr headInside tailInside fun _ apart =>
    congrArg FifoSlot.packet (Function.update_of_ne apart _ _)

theorem queued_publish (fifo : PacketFifo) (headInside : fifo.head < fifo.capacity)
    (tailInside : fifo.tail < fifo.capacity)
    (room : ringCount fifo.capacity fifo.head fifo.tail + 1 < fifo.capacity) :
    PacketFifo.queued { fifo with head := (fifo.head + 1) % fifo.capacity } =
      fifo.queued ++ [(fifo.entries fifo.head).packet] :=
  ringContents_head_succ headInside tailInside room _

theorem queued_commit (fifo : PacketFifo) (headInside : fifo.head < fifo.capacity)
    (tailInside : fifo.tail < fifo.capacity) (occupied : fifo.head ≠ fifo.tail) :
    fifo.queued = (fifo.entries fifo.tail).packet ::
      PacketFifo.queued { fifo with tail := (fifo.tail + 1) % fifo.capacity } :=
  ringContents_tail_succ headInside tailInside occupied _

theorem FifoRun.Sound.pushTaggedCall (sound : run.Sound) (idle : run.producer = .idle)
    (packet : FifoSlot) (hasData : Bool) : (pushTaggedCall run packet hasData).Sound := by
  unfold C64Stream.pushTaggedCall
  split_ifs with refused tooLarge
  · exact sound
  · exact sound
  · -- The head that is loaded is the current one, and no other thread moves it.
    have counted := sound.counted
    rw [idle] at counted
    exact { sound with producer := ⟨rfl, Nat.le_of_not_lt tooLarge⟩, counted := counted }

theorem FifoRun.Sound.pushTaggedAccess (sound : run.Sound) : (pushTaggedAccess run).Sound := by
  have producer := sound.producer
  have counted := sound.counted
  unfold C64Stream.pushTaggedAccess
  cases producing : run.producer with
  | idle => exact sound
  | full =>
    rw [producing] at counted
    exact { sound with producer := trivial, counted := counted }
  | headLoaded packet head =>
    rw [producing] at producer counted
    obtain ⟨rfl, small⟩ := producer
    have free := next_head_eq_tail sound.headInside sound.tailInside
    have bound := @ringCount_lt _ run.fifo.tail _ sound.headInside
    dsimp only
    split_ifs with meets
    · exact { sound with producer := trivial, counted := congrArg (· + 1) counted }
    · -- The next head is not the tail, so there is room for one more packet.
      rw [free] at meets
      have room : ringCount run.fifo.capacity run.fifo.head run.fifo.tail + 1
          < run.fifo.capacity := by omega
      exact { sound with
        producer := ⟨rfl, small, rfl, room, .zero _ _⟩, counted := counted }
  | filling packet head nextHead written =>
    rw [producing] at producer counted
    obtain ⟨rfl, small, rfl, room, copied⟩ := producer
    dsimp only
    split_ifs with more
    · -- The slot that is filled is not in the queue, and so not the one that is read.
      have same := queued_update run.fifo sound.headInside sound.tailInside
        (copyAccess packet written (run.fifo.entries run.fifo.head))
      refine { sound with
        producer := ⟨rfl, small, rfl, room, ?_⟩, consumer := ?_, split := ?_, counted := counted }
      · simpa using copied.succ
      · have consumer := sound.consumer
        cases consuming : run.consumer with
        | idle => trivial
        | headLoaded seen =>
          rw [consuming] at consumer
          exact consumer
        | reading slot copy read | committing copy slot =>
          rw [consuming] at consumer
          obtain ⟨tail, occupied, holds⟩ := consumer
          refine ⟨tail, occupied, ?_⟩
          simpa [Function.update_of_ne (Ne.symm occupied)] using holds
      · exact sound.split.trans (congrArg _ same.symm)
    · -- Every access is done, so the slot holds the packet that the push was called with.
      have whole : (run.fifo.entries run.fifo.head).packet = packet.packet :=
        copied.packet (Nat.le_of_not_lt more)
      have positive : 0 < run.fifo.capacity := by omega
      have apart : (run.fifo.head + 1) % run.fifo.capacity ≠ run.fifo.tail := by
        rw [Ne, next_head_eq_tail sound.headInside sound.tailInside]
        omega
      refine { sound with
        headInside := Nat.mod_lt _ positive, producer := trivial, consumer := ?_, split := ?_,
        counted := counted }
      · have consumer := sound.consumer
        cases consuming : run.consumer with
        | idle => trivial
        | headLoaded seen => exact fun _ => apart
        | reading slot copy read | committing copy slot =>
          rw [consuming] at consumer
          exact ⟨consumer.1, apart, consumer.2.2⟩
      · have grown := queued_publish run.fifo sound.headInside sound.tailInside room
        rw [whole] at grown
        rw [sound.split, List.append_assoc]
        exact congrArg _ grown.symm

theorem FifoRun.Sound.drainAccess (sound : run.Sound) : (drainAccess run).Sound := by
  have consumer := sound.consumer
  unfold C64Stream.drainAccess
  cases consuming : run.consumer with
  | idle => exact { sound with consumer := fun apart => apart }
  | headLoaded head =>
    rw [consuming] at consumer
    dsimp only
    unfold peekAccess
    split_ifs with empty
    · exact { sound with consumer := trivial }
    · exact { sound with consumer := ⟨rfl, consumer empty, .zero _ _⟩ }
  | reading slot copy read =>
    rw [consuming] at consumer
    obtain ⟨rfl, occupied, copied⟩ := consumer
    dsimp only
    unfold readAccess
    split_ifs with more
    · exact { sound with consumer := ⟨rfl, occupied, copied.succ⟩ }
    · -- The size was read, so the reader knows that it read every byte.
      rw [not_or, Nat.not_lt, Nat.not_lt] at more
      have size : copy.size = (run.fifo.entries run.fifo.tail).size := copied.size (by omega)
      have all : (run.fifo.entries run.fifo.tail).accesses ≤ read := by
        rw [FifoSlot.accesses, ← size]
        exact more.2
      exact { sound with consumer := ⟨rfl, occupied, copied.packet all⟩ }
  | committing copy tail =>
    rw [consuming] at consumer
    obtain ⟨rfl, occupied, read⟩ := consumer
    dsimp only
    unfold commitPopAccess
    have positive : 0 < run.fifo.capacity := Nat.lt_of_lt_of_le Nat.two_pos sound.large
    have fewer := ringCount_tail_succ sound.headInside sound.tailInside occupied
    have taken := queued_commit run.fifo sound.headInside sound.tailInside occupied
    refine { sound with
      tailInside := Nat.mod_lt _ positive, producer := ?_, consumer := trivial, split := ?_ }
    · -- A tail that moves on leaves more room to a push that found some.
      have producer := sound.producer
      cases producing : run.producer with
      | idle | full => trivial
      | headLoaded packet head =>
        rw [producing] at producer
        exact producer
      | filling packet head nextHead written =>
        rw [producing] at producer
        obtain ⟨current, small, next, room, copied⟩ := producer
        exact ⟨current, small, next, by dsimp only; omega, copied⟩
    · rw [sound.split, taken, ← read, List.append_cons]

theorem FifoRun.Sound.step (sound : run.Sound) (op : FifoOp) : (run.step op).Sound := by
  cases op with
  | push packet hasData =>
    unfold FifoRun.step
    cases producing : run.producer with
    | idle => exact sound.pushTaggedCall producing packet hasData
    | headLoaded _ _ | full | filling _ _ _ _ => exact sound
  | produce => exact sound.pushTaggedAccess
  | consume => exact sound.drainAccess

theorem FifoRun.push_kept (run : FifoRun) (packet : FifoSlot) (hasData : Bool) :
    (run.step (.push packet hasData)).fifo = run.fifo ∧
      (run.step (.push packet hasData)).refused = run.refused := by
  unfold FifoRun.step
  cases run.producer with
  | idle =>
    dsimp only [C64Stream.pushTaggedCall]
    split_ifs <;> exact ⟨rfl, rfl⟩
  | headLoaded _ _ | full | filling _ _ _ _ => exact ⟨rfl, rfl⟩

theorem FifoRun.consume_kept (notCommitting : ∀ copy tail, run.consumer ≠ .committing copy tail) :
    (run.step .consume).fifo = run.fifo ∧ (run.step .consume).refused = run.refused := by
  unfold FifoRun.step C64Stream.drainAccess
  cases consuming : run.consumer with
  | idle => exact ⟨rfl, rfl⟩
  | headLoaded head =>
    dsimp only [peekAccess]
    split_ifs <;> exact ⟨rfl, rfl⟩
  | reading slot copy read =>
    dsimp only [readAccess]
    split_ifs <;> exact ⟨rfl, rfl⟩
  | committing copy tail => exact absurd consuming (notCommitting copy tail)

theorem FifoRun.Sound.stepExact (sound : run.Sound) (op : FifoOp) : run.StepExact op := by
  have producer := sound.producer
  have consumer := sound.consumer
  cases op with
  | push packet hasData =>
    have kept := run.push_kept packet hasData
    exact ⟨congrArg PacketFifo.queued kept.1, fun moved => absurd kept.2 moved⟩
  | produce =>
    cases producing : run.producer with
    | idle | full =>
      refine ⟨?_, fun moved => absurd ?_ moved⟩ <;>
        simp [FifoRun.step, C64Stream.pushTaggedAccess, FifoRun.queuedAfter, producing,
          PacketFifo.queued]
    | headLoaded packet head =>
      rw [producing] at producer
      obtain ⟨rfl, -⟩ := producer
      -- The push is refused in the only case that counts, that the next head meets the tail.
      have free := next_head_eq_tail sound.headInside sound.tailInside
      constructor
      · simp only [FifoRun.step, C64Stream.pushTaggedAccess, FifoRun.queuedAfter, producing]
        split_ifs <;> rfl
      · simp only [FifoRun.step, C64Stream.pushTaggedAccess, producing]
        split_ifs with meets
        · intro _
          rw [PacketFifo.queued, ringContents_length]
          exact free.mp meets
        · exact fun moved => absurd rfl moved
    | filling packet head nextHead written =>
      rw [producing] at producer
      obtain ⟨rfl, -, rfl, room, copied⟩ := producer
      constructor
      · simp only [FifoRun.step, C64Stream.pushTaggedAccess, FifoRun.queuedAfter, producing]
        split_ifs with more
        · exact queued_update run.fifo sound.headInside sound.tailInside _
        · rw [← copied.packet (Nat.le_of_not_lt more)]
          exact queued_publish run.fifo sound.headInside sound.tailInside room
      · simp only [FifoRun.step, C64Stream.pushTaggedAccess, producing]
        split_ifs <;> exact fun moved => absurd rfl moved
  | consume =>
    cases consuming : run.consumer with
    | idle | headLoaded head | reading slot copy read =>
      have kept := @FifoRun.consume_kept run (by simp [consuming])
      refine ⟨?_, fun moved => absurd kept.2 moved⟩
      simp only [FifoRun.queuedAfter, consuming]
      exact congrArg PacketFifo.queued kept.1
    | committing copy tail =>
      rw [consuming] at consumer
      obtain ⟨rfl, occupied, -⟩ := consumer
      refine ⟨?_, fun moved => absurd ?_ moved⟩
      · have taken := queued_commit run.fifo sound.headInside sound.tailInside occupied
        simp only [FifoRun.step, C64Stream.drainAccess, FifoRun.queuedAfter, consuming, taken]
        rfl
      · simp only [FifoRun.step, C64Stream.drainAccess, consuming, commitPopAccess]

end Steps

section Refinement

variable {run : FifoRun}

/-- A packet as the queue of whole calls holds it, which does not say who sent it. -/
def TaggedPacket.whole (packet : TaggedPacket) : FifoPacket :=
  ⟨⟨0, packet.data⟩, packet.timestampNs, packet.fromHandover, packet.paletteCutover⟩

/-- The queue as whole calls see it, where a push that found no room is counted at once. -/
def FifoRun.whole (run : FifoRun) : NetworkFifo :=
  ⟨run.fifo.queued.map TaggedPacket.whole, run.fifo.capacity, run.refused⟩

/-- A call that goes through in one piece. -/
inductive FifoCall where
  | push (packet : FifoSlot)
  | commit

/-- The call that takes effect with an access: a push where it finds no room or moves the head, and
a commit where it moves the tail. -/
def FifoRun.effect (run : FifoRun) : FifoOp → Option FifoCall
  | .push _ _ => none
  | .produce =>
    match run.producer with
    | .idle | .full => none
    | .headLoaded packet head =>
      if (head + 1) % run.fifo.capacity = run.fifo.tail then some (.push packet) else none
    | .filling packet _ _ written =>
      if written < packet.accesses then none else some (.push packet)
  | .consume =>
    match run.consumer with
    | .idle | .headLoaded _ | .reading _ _ _ => none
    | .committing _ _ => some .commit

/-- The calls of a run, in the order in which they take effect. -/
def FifoRun.effects : FifoRun → List FifoOp → List FifoCall
  | _, [] => []
  | run, op :: rest => (run.effect op).toList ++ (run.step op).effects rest

/-- A queue of whole calls, and what its calls returned. -/
structure WholeFifo where
  queue : NetworkFifo
  accepted : List FifoPacket
  delivered : List FifoPacket
  deriving DecidableEq

/-- One call: a push returns whether it took the packet, and a commit gives up the one that a peek
shows. -/
def WholeFifo.step (whole : WholeFifo) : FifoCall → WholeFifo
  | .push packet =>
    let (queue, taken) := c64NetworkFifoPushTagged whole.queue packet.packet.whole
    { whole with
      queue := queue
      accepted := whole.accepted ++ if taken then [packet.packet.whole] else [] }
  | .commit =>
    { whole with
      queue := c64NetworkFifoCommitPop whole.queue
      delivered := whole.delivered ++ (c64NetworkFifoPeek whole.queue).toList }

/-- What a run looks like to whoever sees whole calls only. -/
def FifoRun.seen (run : FifoRun) : WholeFifo :=
  ⟨run.whole, run.accepted.map TaggedPacket.whole, run.delivered.map TaggedPacket.whole⟩

theorem FifoRun.Sound.committed (sound : run.Sound) {copy : FifoSlot} {tail : Nat}
    (consuming : run.consumer = .committing copy tail) :
    run.fifo.queued = copy.packet :: run.fifo.queued.tail := by
  have split := (sound.step .consume).split
  rw [(sound.stepExact .consume).queue] at split
  simp only [FifoRun.queuedAfter, FifoRun.step, C64Stream.drainAccess, consuming, commitPopAccess,
    sound.split, List.append_assoc, List.append_cancel_left_eq] at split
  exact split

theorem FifoRun.Sound.seen_step (sound : run.Sound) (op : FifoOp) :
    (run.step op).seen = (run.effect op).toList.foldl WholeFifo.step run.seen := by
  have producer := sound.producer
  have large := sound.large
  cases op with
  | push packet hasData =>
    simp only [FifoRun.effect, Option.toList_none, List.foldl_nil]
    unfold FifoRun.step
    cases run.producer with
    | idle =>
      dsimp only [C64Stream.pushTaggedCall]
      split_ifs <;> rfl
    | headLoaded _ _ | full | filling _ _ _ _ => rfl
  | produce =>
    cases producing : run.producer with
    | idle | full =>
      simp [FifoRun.effect, FifoRun.step, C64Stream.pushTaggedAccess, producing, seen, whole,
        PacketFifo.queued]
    | headLoaded packet head =>
      rw [producing] at producer
      obtain ⟨rfl, small⟩ := producer
      have free := next_head_eq_tail sound.headInside sound.tailInside
      simp only [FifoRun.effect, FifoRun.step, C64Stream.pushTaggedAccess, producing]
      split_ifs with meets
      · -- The push finds as many packets in the queue as it holds at most.
        have count := free.mp meets
        simp only [Option.toList_some, List.foldl_cons, List.foldl_nil, WholeFifo.step,
          c64NetworkFifoPushTagged, seen, whole, TaggedPacket.whole, FifoSlot.packet,
          PacketFifo.queued, List.length_map, List.length_range, ringContents_length, count]
        rw [if_neg (by omega), if_neg (by simpa [c64NetworkFifoPacketMaxSize] using small),
          if_pos (by omega)]
        simp
      · rfl
    | filling packet head nextHead written =>
      rw [producing] at producer
      obtain ⟨rfl, small, rfl, room, copied⟩ := producer
      simp only [FifoRun.effect, FifoRun.step, C64Stream.pushTaggedAccess, producing]
      split_ifs with more
      · have same := queued_update run.fifo sound.headInside sound.tailInside
          (copyAccess packet written (run.fifo.entries run.fifo.head))
        simp only [seen, whole, same, Option.toList_none, List.foldl_nil]
      · have grown := queued_publish run.fifo sound.headInside sound.tailInside room
        rw [copied.packet (Nat.le_of_not_lt more)] at grown
        simp only [Option.toList_some, List.foldl_cons, List.foldl_nil, WholeFifo.step,
          c64NetworkFifoPushTagged, seen, whole, grown, List.map_append, List.length_map]
        rw [if_neg (by omega), if_neg, if_neg]
        · rfl
        · rw [PacketFifo.queued, ringContents_length]
          omega
        · simpa [TaggedPacket.whole, FifoSlot.packet, c64NetworkFifoPacketMaxSize] using small
  | consume =>
    cases consuming : run.consumer with
    | idle =>
      simp [FifoRun.effect, FifoRun.step, C64Stream.drainAccess, consuming, seen, whole]
    | headLoaded head =>
      simp only [FifoRun.effect, FifoRun.step, C64Stream.drainAccess, consuming, peekAccess]
      split_ifs <;> rfl
    | reading slot copy read =>
      simp only [FifoRun.effect, FifoRun.step, C64Stream.drainAccess, consuming, readAccess]
      split_ifs <;> rfl
    | committing copy tail =>
      -- What the reader copied is the packet that a peek shows.
      have after := (sound.stepExact .consume).queue
      have oldest := sound.committed consuming
      simp only [FifoRun.queuedAfter, consuming] at after
      have shown : c64NetworkFifoPeek run.whole = some copy.packet.whole := by
        rw [c64NetworkFifoPeek, whole, oldest]
        rfl
      simp only [FifoRun.effect, consuming, Option.toList_some, List.foldl_cons, List.foldl_nil,
        WholeFifo.step, seen, shown, c64NetworkFifoCommitPop]
      rw [whole, after]
      simp only [FifoRun.step, C64Stream.drainAccess, consuming, commitPopAccess, whole,
        List.map_tail, List.map_append, List.map_cons, List.map_nil]

end Refinement

section Runs

/-- Whatever the order of the accesses, the queue hands over every packet that it took, once, whole
and in order, and counts every push that found no room. -/
theorem packetFifo_exact (fifo : PacketFifo) (large : 2 ≤ fifo.capacity) (ops : List FifoOp) :
    Always FifoRun.step FifoRun.Exact (FifoRun.start fifo) ops ∧
      EachStep FifoRun.step FifoRun.StepExact (FifoRun.start fifo) ops := by
  -- The induction is on the accesses, and the invariant of the two threads carries it.
  have always : Always FifoRun.step FifoRun.Sound (FifoRun.start fifo) ops :=
    always_of_step (fun _ op sound => sound.step op) (FifoRun.start_sound fifo large) ops
  exact ⟨always.imp fun _ sound => sound.exact, always.eachStep fun _ op sound => sound.stepExact op⟩

def smallFifo : PacketFifo := ⟨fun _ => blankSlot, 2, 0, 0, 0⟩

def bytePacket (byte : UInt8) : FifoSlot := ⟨7, 1, true, false, fun _ => byte⟩

/-- A packet is pushed while another is read, and refused because that one still holds its slot;
pushed again behind the commit it is taken. -/
def refusedOps : List FifoOp :=
  .push (bytePacket 1) true :: List.replicate 7 .produce ++ List.replicate 3 .consume ++
    .push (bytePacket 2) true :: List.replicate 2 .produce ++ List.replicate 6 .consume ++
    .push (bytePacket 2) true :: List.replicate 7 .produce

/-- The promises hold along that run, at whose end one packet was handed over, one waits in the
queue, and one refusal was counted. -/
theorem refusedOps_exact :
    2 ≤ smallFifo.capacity ∧
      (Always FifoRun.step FifoRun.Exact (FifoRun.start smallFifo) refusedOps ∧
        EachStep FifoRun.step FifoRun.StepExact (FifoRun.start smallFifo) refusedOps) ∧
      (let run := refusedOps.foldl FifoRun.step (FifoRun.start smallFifo)
      run.delivered = [(bytePacket 1).packet] ∧ run.fifo.queued = [(bytePacket 2).packet] ∧
        run.fifo.droppedFull = 1) :=
  ⟨by decide, packetFifo_exact smallFifo (by decide) refusedOps, by decide +kernel⟩

/-- Whatever the order of the accesses, the queue and all that its callers see are as if each call
went through in one piece, at an access of its own. -/
theorem packetFifo_linearises (fifo : PacketFifo) (large : 2 ≤ fifo.capacity) (ops : List FifoOp) :
    (ops.foldl FifoRun.step (FifoRun.start fifo)).seen =
      ((FifoRun.start fifo).effects ops).foldl WholeFifo.step (FifoRun.start fifo).seen := by
  have sound := FifoRun.start_sound fifo large
  generalize FifoRun.start fifo = run at sound
  induction ops generalizing run with
  | nil => rfl
  | cons op rest ih =>
    rw [List.foldl_cons, ih _ (sound.step op), sound.seen_step op, FifoRun.effects,
      List.foldl_append]

/-- The run in which a push is refused, as its four calls. -/
theorem refusedOps_linearises :
    2 ≤ smallFifo.capacity ∧
      (refusedOps.foldl FifoRun.step (FifoRun.start smallFifo)).seen =
        ((FifoRun.start smallFifo).effects refusedOps).foldl WholeFifo.step
          (FifoRun.start smallFifo).seen ∧
      ((FifoRun.start smallFifo).effects refusedOps).length = 4 :=
  ⟨by decide, packetFifo_linearises smallFifo (by decide) refusedOps, by decide +kernel⟩

end Runs

end C64Stream
