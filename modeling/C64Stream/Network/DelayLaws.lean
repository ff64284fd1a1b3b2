import C64Stream.Network.BufferLaws
import Mathlib.Algebra.Order.Floor.Div
import Mathlib.Data.List.DropRight

/-! A shorter delay keeps the newest packets, and all of them can be popped at once. -/

namespace C64Stream

section Shape

/-- What no operation but a delay change alters about a ring. -/
def PacketRingBuffer.shape (rb : PacketRingBuffer) : BufferType × Nat × UInt64 :=
  (rb.type, rb.maxCapacity, rb.delayUs)

/-- A ring of its type has the capacity of that type, and its delay is one that can be set. -/
def RingSized (type : BufferType) (rb : PacketRingBuffer) : Prop :=
  rb.type = type ∧ rb.maxCapacity = maxPackets type ∧ rb.delayUs.toNat ≤ c64MaxDelayMs * 1000

variable {rb : PacketRingBuffer}

theorem RingSized.of_shape {type : BufferType} {other : PacketRingBuffer}
    (sized : RingSized type rb) (same : other.shape = rb.shape) : RingSized type other := by
  have parts := Prod.mk.inj same
  have rest := Prod.mk.inj parts.2
  unfold RingSized
  rw [parts.1, rest.1, rest.2]
  exact sized

theorem rbPush_shape (rb : PacketRingBuffer) (data : List UInt8) (ts : UInt64) :
    (rbPush rb data ts).shape = rb.shape := by
  have tracked : ∀ packet, (startTracking rb packet).shape = rb.shape := by
    intro packet
    unfold startTracking
    split_ifs <;> rfl
  unfold rbPush
  dsimp only
  split_ifs
  · rfl
  · exact tracked _
  · exact tracked _

theorem rbPopReady_shape (rb : PacketRingBuffer) (nowUs : UInt64) :
    (rbPopReady rb nowUs).1.shape = rb.shape := by
  unfold rbPopReady rbPopOldest
  split_ifs <;> rfl

theorem discardOldest_shape (rb : PacketRingBuffer) (steps count : Nat) :
    (discardOldest rb steps count).shape = rb.shape := by
  induction steps generalizing rb count with
  | zero => rfl
  | succ steps ih =>
    cases count with
    | zero => rfl
    | succ count =>
      unfold discardOldest
      split_ifs
      · rfl
      · dsimp only
        split_ifs <;> exact ih _ _

theorem rbTrim_shape (rb : PacketRingBuffer) (newCapacity : Nat) :
    (rbTrim rb newCapacity).shape = rb.shape := by
  unfold rbTrim
  dsimp only
  split_ifs
  · exact discardOldest_shape _ _ _
  · rfl

theorem rbSetDelay_sized {type : BufferType} (sized : RingSized type rb) (delayMs : Nat)
    (nowUs : UInt64) : RingSized type (rbSetDelay rb delayMs nowUs) := by
  -- The clamped delay is stored before anything is discarded.
  unfold rbSetDelay
  dsimp only
  generalize limit : (if delayMs > c64MaxDelayMs then c64MaxDelayMs else delayMs) = clamped
  have small : clamped ≤ c64MaxDelayMs := by
    rw [← limit]
    split_ifs <;> omega
  have stored : RingSized type { rb with delayUs := UInt64.ofNat (clamped * 1000) } := by
    refine ⟨sized.1, sized.2.1, ?_⟩
    show (UInt64.ofNat (clamped * 1000)).toNat ≤ _
    unfold c64MaxDelayMs at small ⊢
    rw [UInt64.toNat_ofNat', Nat.mod_eq_of_lt (by omega)]
    omega
  split_ifs
  · exact stored.of_shape rfl
  · exact stored.of_shape (rbTrim_shape _ _)
  · exact stored

theorem rbCreate_sized (type : BufferType) (raw : RawRing) : RingSized type (rbCreate type raw) :=
  ⟨rfl, rfl, Nat.zero_le _⟩

end Shape

section Newest

variable {rb : PacketRingBuffer}

theorem queued_empty (inv : RingInv rb) (empty : rb.head = rb.tail) : rb.queued = [] := by
  have count : rbPacketCount rb = 0 := by
    rw [rbPacketCount, ringCount_eq_zero inv.tailInside]
    exact empty
  rw [PacketRingBuffer.queued, count]
  rfl

theorem discardOldest_queued (inv : RingInv rb) {steps count : Nat} (enough : count ≤ steps) :
    (discardOldest rb steps count).queued = rb.queued.drop count := by
  -- Every slot between tail and head is valid, so that each step discards one packet.
  induction steps generalizing rb count with
  | zero =>
    obtain rfl : count = 0 := by omega
    rfl
  | succ steps ih =>
    cases count with
    | zero => rfl
    | succ count =>
      by_cases empty : rb.tail = rb.head
      · unfold discardOldest
        rw [if_pos empty, queued_empty inv empty.symm, List.drop_nil]
      · obtain ⟨next, same, kept, _, queue⟩ :=
          discardOldest_succ inv (fun meet => empty meet.symm) steps count
        rw [same, ih kept (by omega), queue, List.drop_succ_cons]

theorem rbTrim_queued (inv : RingInv rb) (newCapacity : Nat) :
    (rbTrim rb newCapacity).queued = rb.queued.rtake newCapacity := by
  have length := queued_length rb
  have bound := inv.count_lt
  unfold rbTrim List.rtake
  dsimp only
  rw [length]
  split_ifs with exceeds
  · exact discardOldest_queued inv (by omega)
  · rw [Nat.sub_eq_zero_of_le (by omega), List.drop_zero]

/-- A packet with another time of arrival. -/
def QueuedPacket.retimed (ts : UInt64) (packet : QueuedPacket) : QueuedPacket :=
  { packet with timestampUs := ts }

theorem rbRetimestamp_queued (inv : RingInv rb) (ts : UInt64) :
    (rbRetimestamp rb ts).queued = rb.queued.map (QueuedPacket.retimed ts) := by
  -- The slots of the queue are valid, and nothing but the timestamp of such a slot changes.
  simp only [PacketRingBuffer.queued, List.map_map]
  apply List.map_congr_left
  intro offset member
  have within : offset < rbPacketCount rb := List.mem_range.mp member
  have inside : offset < rb.maxCapacity := by
    have := inv.count_lt
    omega
  have valid : (rb.slots (rb.place offset)).valid = true := by
    rw [inv.window offset inside]
    exact decide_eq_true within
  have slot : (rbRetimestamp rb ts).slots (rb.place offset) =
      { rb.slots (rb.place offset) with timestampUs := ts } :=
    if_pos ⟨inv.place_lt offset, valid⟩
  show (rbRetimestamp rb ts).packetAt (rb.place offset) = _
  unfold PacketRingBuffer.packetAt
  rw [slot]
  rfl

/-- The packets that a delay has room for. -/
def delayRoom (type : BufferType) (delayMs : Nat) : Nat :=
  (maxRate type * delayMs) ⌈/⌉ 1000

/-- The time that makes a packet ready for a delay, with a margin. -/
def readyTimestamp (delayMs : Nat) (nowUs : UInt64) : UInt64 :=
  nowUs - UInt64.ofNat (delayMs * 1000) - 1000

/-- A delay that is lowered, other than from far to nothing. -/
structure LowersDelay (rb : PacketRingBuffer) (delayMs : Nat) : Prop where
  lower : delayMs * 1000 < rb.delayUs.toNat
  noFlush : ¬ (delayMs = 0 ∧ 50000 < rb.delayUs.toNat)

theorem rbSetDelay_lowered {type : BufferType} (inv : RingInv rb) (sized : RingSized type rb)
    {delayMs : Nat} (lowers : LowersDelay rb delayMs) (nowUs : UInt64) :
    (rbSetDelay rb delayMs nowUs).queued =
        (rb.queued.rtake (delayRoom type delayMs)).map
          (QueuedPacket.retimed (readyTimestamp delayMs nowUs)) ∧
      (rbSetDelay rb delayMs nowUs).delayUs = UInt64.ofNat (delayMs * 1000) := by
  obtain ⟨rbType, capacity, delay⟩ := sized
  have lower := lowers.lower
  unfold c64MaxDelayMs at delay
  have small : ¬ delayMs > c64MaxDelayMs := by
    unfold c64MaxDelayMs
    omega
  have micros : (UInt64.ofNat (delayMs * 1000)).toNat = delayMs * 1000 := by
    rw [UInt64.toNat_ofNat', Nat.mod_eq_of_lt (by omega)]
  have shorter : UInt64.ofNat (delayMs * 1000) < rb.delayUs := by
    rw [UInt64.lt_iff_toNat_lt, micros]
    exact lower
  have noFlush : ¬ (UInt64.ofNat (delayMs * 1000) = 0 ∧ rb.delayUs > 50000) := by
    rintro ⟨zero, far⟩
    rw [← UInt64.toNat_inj, micros] at zero
    have far : 50000 < rb.delayUs.toNat := far
    have zero : delayMs * 1000 = 0 := zero
    exact lowers.noFlush ⟨by omega, far⟩
  -- The room of a delay is below the capacity of the ring, which is made for the largest one.
  have room : delaySlots { rb with delayUs := UInt64.ofNat (delayMs * 1000) } delayMs =
      delayRoom type delayMs := by
    show (if (maxRate rb.type * delayMs + 999) / 1000 > rb.maxCapacity then _ else _) = _
    rw [rbType, capacity, if_neg, delayRoom, Nat.ceilDiv_eq_add_pred_div]
    · rfl
    · unfold maxRate maxPackets c64MaxDelayMs c64MaxJitterMs maxRate
      cases type <;> simp only <;> omega
  have kept : RingInv { rb with delayUs := UInt64.ofNat (delayMs * 1000) } := { inv with }
  unfold rbSetDelay
  dsimp only
  rw [if_neg small, if_pos shorter, if_neg noFlush]
  have slots : delaySlots rb delayMs = delayRoom type delayMs := room
  rw [slots]
  constructor
  · rw [rbRetimestamp_queued (rbTrim_laws kept _).1, rbTrim_queued kept]
    rfl
  · have shape := rbTrim_shape { rb with delayUs := UInt64.ofNat (delayMs * 1000) }
      (delayRoom type delayMs)
    exact (Prod.mk.inj (Prod.mk.inj shape).2).2

end Newest

section Popping

variable {rb : PacketRingBuffer}

/-- What one ring hands out at each of some times. -/
def ringPops (rb : PacketRingBuffer) : List UInt64 → List (Option (List UInt8))
  | [] => []
  | nowUs :: rest =>
    let (next, handed) := rbPopReady rb nowUs
    handed.map (·.bytes) :: ringPops next rest

theorem rbPopReady_empty (empty : rb.head = rb.tail) (nowUs : UInt64) :
    rbPopReady rb nowUs = (rb, none) := by
  unfold rbPopReady
  rw [if_neg fun ready => ready.1 empty]

theorem rbPopReady_ready (inv : RingInv rb) {packet : QueuedPacket} {rest : List QueuedPacket}
    (queue : rb.queued = packet :: rest) {nowUs : UInt64}
    (ready : rb.delayUs ≤ nowUs - packet.timestampUs) :
    ∃ popped handed, rbPopReady rb nowUs = (popped, some handed) ∧ RingInv popped ∧
      popped.queued = rest ∧ popped.delayUs = rb.delayUs ∧ handed.bytes = packet.bytes := by
  have occupied : rb.head ≠ rb.tail := by
    intro empty
    rw [queued_empty inv empty] at queue
    cases queue
  have first : rb.packetAt rb.tail = packet := by
    have split := dropTail_queued inv occupied { rb.slots rb.tail with valid := false } rb.payload
      fun _ _ => rfl
    rw [queue] at split
    exact (List.cons.inj split).1.symm
  have valid : (rb.slots rb.tail).valid = true := inv.conserves.unwedged occupied
  have waited : isPacketReadyForPop (rb.slots rb.tail) rb.delayUs nowUs = true := by
    rw [← first] at ready
    unfold isPacketReadyForPop
    rw [valid]
    exact decide_eq_true ready
  rcases rbPopReady_cases inv nowUs with same | ⟨popped, handed, oldest, taken, kept, _, split,
    bytes, _⟩
  · -- A ready packet is not left in the ring.
    obtain ⟨popped, taken, _⟩ := rbPopOldest_some occupied
    unfold rbPopReady at same
    rw [if_pos ⟨occupied, valid, waited⟩, taken] at same
    cases same
  · rw [queue] at split
    obtain ⟨rfl, rfl⟩ := List.cons.inj split
    have shape := rbPopReady_shape rb nowUs
    rw [taken] at shape
    exact ⟨popped, handed, taken, kept, rfl, (Prod.mk.inj (Prod.mk.inj shape).2).2, bytes⟩

theorem ringPops_ready (inv : RingInv rb) {times : List UInt64}
    (ready : ∀ nowUs ∈ times, ∀ packet ∈ rb.queued, rb.delayUs ≤ nowUs - packet.timestampUs) :
    ringPops rb times =
      (List.range times.length).map fun i => rb.queued[i]?.map (·.bytes) := by
  -- The induction follows the pops; each takes the first packet and leaves the rest ready.
  induction times generalizing rb with
  | nil => rfl
  | cons nowUs times ih =>
    rw [List.length_cons, List.range_succ_eq_map, List.map_cons, List.map_map]
    cases queue : rb.queued with
    | nil =>
      have empty : rb.head = rb.tail := by
        by_contra occupied
        have first := dropTail_queued inv occupied { rb.slots rb.tail with valid := false }
          rb.payload fun _ _ => rfl
        rw [queue] at first
        cases first
      unfold ringPops
      rw [rbPopReady_empty empty]
      have rest := ih inv fun later member => ready later (List.mem_cons_of_mem _ member)
      rw [queue] at rest
      dsimp only
      rw [rest]
      rfl
    | cons packet later =>
      obtain ⟨popped, handed, taken, kept, left, delay, bytes⟩ :=
        rbPopReady_ready inv queue
          (ready nowUs List.mem_cons_self packet (by rw [queue]; exact List.mem_cons_self))
      have rest := ih kept fun time member other inside => by
        rw [delay]
        refine ready time (List.mem_cons_of_mem _ member) other ?_
        rw [queue, ← left]
        exact List.mem_cons_of_mem _ inside
      unfold ringPops
      rw [taken]
      dsimp only
      rw [rest, left, Option.map_some, bytes]
      rfl

theorem readyTimestamp_ready {delayMs : Nat} (small : delayMs ≤ c64MaxDelayMs)
    {setNs popNs : UInt64} (later : setNs ≤ popNs) :
    UInt64.ofNat (delayMs * 1000) ≤ popNs / 1000 - readyTimestamp delayMs (setNs / 1000) := by
  -- The age is the time since the change, the delay and the margin; it stays below the wrap.
  have age : popNs / 1000 - readyTimestamp delayMs (setNs / 1000) =
      (popNs / 1000 - setNs / 1000) + UInt64.ofNat (delayMs * 1000) + 1000 := by
    unfold readyTimestamp
    grind
  have bound := popNs.toNat_lt
  have order : setNs.toNat ≤ popNs.toNat := later
  unfold c64MaxDelayMs at small
  have elapsed : (popNs / 1000 - setNs / 1000).toNat =
      popNs.toNat / 1000 - setNs.toNat / 1000 := by
    rw [UInt64.toNat_sub_of_le]
    · rfl
    · show setNs.toNat / 1000 ≤ popNs.toNat / 1000
      omega
  have micros : (UInt64.ofNat (delayMs * 1000)).toNat = delayMs * 1000 := by
    rw [UInt64.toNat_ofNat', Nat.mod_eq_of_lt (by omega)]
  have margin : (1000 : UInt64).toNat = 1000 := rfl
  rw [age, UInt64.le_iff_toNat_le, UInt64.toNat_add, UInt64.toNat_add, elapsed, micros, margin]
  omega

end Popping

section Buffers

/-- The ring of a type. -/
def C64NetworkBuffer.ring (buf : C64NetworkBuffer) (type : BufferType) : PacketRingBuffer :=
  match type with
  | .video => buf.video
  | .audio => buf.audio

/-- The payload of a type that a pop hands out. -/
def PopResult.data (result : PopResult) (type : BufferType) : Option (List UInt8) :=
  match type with
  | .video => result.videoData
  | .audio => result.audioData

/-- Pop at some times; each ring reads the clock for itself, in nanoseconds. -/
def popEach (buf : C64NetworkBuffer) : List (BufferType → UInt64) → List PopResult
  | [] => []
  | clock :: rest =>
    let (next, result) := c64NetworkBufferPop buf (clock .video / 1000) (clock .audio / 1000)
    result :: popEach next rest

theorem popEach_data (buf : C64NetworkBuffer) (clocks : List (BufferType → UInt64))
    (type : BufferType) :
    (popEach buf clocks).map (·.data type) =
      ringPops (buf.ring type) (clocks.map fun clock => clock type / 1000) := by
  induction clocks generalizing buf with
  | nil => rfl
  | cons clock rest ih =>
    have step := ih (c64NetworkBufferPop buf (clock .video / 1000) (clock .audio / 1000)).1
    unfold popEach
    rw [List.map_cons, List.map_cons, step]
    cases type <;> rfl

/-- The delay of a type is lowered: the newest packets that there is room for are kept in order with
their payloads, and any pops from then on hand them out one after the other. -/
def KeepsNewest (buf : C64NetworkBuffer) : Prop :=
  ∀ (type : BufferType) (delayMs : BufferType → Nat) (setNs : BufferType → UInt64),
    LowersDelay (buf.ring type) (delayMs type) →
    let lowered := c64NetworkBufferSetDelay buf (delayMs .video) (delayMs .audio)
      (setNs .video / 1000) (setNs .audio / 1000)
    let kept := (buf.ring type).queued.rtake (delayRoom type (delayMs type))
    kept.length = min (rbPacketCount (buf.ring type)) (delayRoom type (delayMs type)) ∧
      (lowered.ring type).queued =
        kept.map (QueuedPacket.retimed (readyTimestamp (delayMs type) (setNs type / 1000))) ∧
      ∀ clocks : List (BufferType → UInt64), (∀ clock ∈ clocks, setNs type ≤ clock type) →
        (popEach lowered clocks).map (·.data type) =
          (List.range clocks.length).map fun i => kept[i]?.map (·.bytes)

/-- The rings of a buffer are sound, and sized for their types. -/
def BufferSized (buf : C64NetworkBuffer) : Prop :=
  ∀ type, RingInv (buf.ring type) ∧ RingSized type (buf.ring type)

theorem apply_sized (buf : C64NetworkBuffer) (call : BufferCall) (sized : BufferSized buf) :
    BufferSized (call.apply buf) := by
  have inv := apply_inv buf call ⟨(sized .video).1, (sized .audio).1⟩
  intro type
  refine ⟨by cases type <;> [exact inv.1; exact inv.2], ?_⟩
  cases call with
  | pushVideo data ts =>
    cases type with
    | video => exact (sized .video).2.of_shape (rbPush_shape _ _ _)
    | audio => exact (sized .audio).2
  | pushAudio data ts =>
    cases type with
    | video => exact (sized .video).2
    | audio => exact (sized .audio).2.of_shape (rbPush_shape _ _ _)
  | pop videoNow audioNow =>
    cases type with
    | video => exact (sized .video).2.of_shape (rbPopReady_shape _ _)
    | audio => exact (sized .audio).2.of_shape (rbPopReady_shape _ _)
  | setDelay videoMs audioMs videoNow audioNow =>
    cases type with
    | video => exact rbSetDelay_sized (sized .video).2 _ _
    | audio => exact rbSetDelay_sized (sized .audio).2 _ _
  | flush =>
    cases type with
    | video => exact (sized .video).2.of_shape rfl
    | audio => exact (sized .audio).2.of_shape rfl

theorem setDelay_ring (buf : C64NetworkBuffer) (delayMs : BufferType → Nat)
    (nowUs : BufferType → UInt64) (type : BufferType) :
    (c64NetworkBufferSetDelay buf (delayMs .video) (delayMs .audio) (nowUs .video)
      (nowUs .audio)).ring type = rbSetDelay (buf.ring type) (delayMs type) (nowUs type) := by
  cases type <;> rfl

theorem BufferSized.keepsNewest {buf : C64NetworkBuffer} (sized : BufferSized buf) :
    KeepsNewest buf := by
  intro type delayMs setNs lowers lowered kept
  obtain ⟨inv, ringSized⟩ := sized type
  have ring : lowered.ring type =
      rbSetDelay (buf.ring type) (delayMs type) (setNs type / 1000) :=
    setDelay_ring buf delayMs (fun type => setNs type / 1000) type
  obtain ⟨queue, delay⟩ := rbSetDelay_lowered inv ringSized lowers (setNs type / 1000)
  refine ⟨?_, by rw [ring, queue], ?_⟩
  · show ((buf.ring type).queued.drop _).length = _
    rw [List.length_drop, queued_length]
    omega
  intro clocks later
  have small : delayMs type ≤ c64MaxDelayMs := by
    have := lowers.lower
    have := ringSized.2.2
    omega
  -- Every packet that is kept has the ready time.
  have ready : ∀ nowUs ∈ clocks.map (fun clock => clock type / 1000),
      ∀ packet ∈ (rbSetDelay (buf.ring type) (delayMs type) (setNs type / 1000)).queued,
        (rbSetDelay (buf.ring type) (delayMs type) (setNs type / 1000)).delayUs ≤
          nowUs - packet.timestampUs := by
    intro nowUs member packet inside
    obtain ⟨clock, among, rfl⟩ := List.mem_map.mp member
    rw [queue] at inside
    obtain ⟨original, _, rfl⟩ := List.mem_map.mp inside
    rw [delay]
    exact readyTimestamp_ready small (later clock among)
  rw [popEach_data, ring, ringPops_ready (rbSetDelay_inv inv _ _) ready, queue, List.length_map]
  refine List.map_congr_left fun i _ => ?_
  rw [List.getElem?_map, Option.map_map]
  rfl

/-- In every state of every run, lowering a delay keeps the newest packets and makes them ready. -/
theorem networkBuffer_keepsNewest (rawVideo rawAudio : RawRing) (calls : List BufferCall) :
    Always BufferCall.apply KeepsNewest (c64NetworkBufferCreate rawVideo rawAudio) calls := by
  -- The invariant holds in every state, and it is all that a delay change needs.
  refine Always.imp (fun buf sized => sized.keepsNewest) (always_of_step apply_sized ?_ calls)
  intro type
  cases type with
  | video => exact ⟨rbCreate_inv _ _, rbCreate_sized _ _⟩
  | audio => exact ⟨rbCreate_inv _ _, rbCreate_sized _ _⟩

end Buffers

end C64Stream
