import C64Stream.Lib.Run
import C64Stream.Network.Buffer

/-! A jitter ring is a queue of packets: no packet is lost, doubled or given another's payload. -/

namespace C64Stream

/-- A packet as the queue sees it, with its bytes instead of a payload buffer. -/
structure QueuedPacket where
  header : PacketHeader
  timestampUs : UInt64
  size : Nat
  bytes : List UInt8
  deriving DecidableEq

/-- The header fields that a slot records. -/
def PacketSlot.header (slot : PacketSlot) : PacketHeader :=
  { sequenceNum := slot.sequenceNum, frameNum := slot.frameNum, lineNum := slot.lineNum }

/-- The packet that a slot describes. -/
def PacketRingBuffer.packetAt (rb : PacketRingBuffer) (slot : Nat) : QueuedPacket :=
  { header := (rb.slots slot).header
    timestampUs := (rb.slots slot).timestampUs
    size := (rb.slots slot).size
    bytes := rb.payload (rb.slots slot).data }

/-- The slot a number of places behind the oldest one. -/
def PacketRingBuffer.place (rb : PacketRingBuffer) (offset : Nat) : Nat :=
  ringPos rb.maxCapacity rb.tail offset

/-- The queued packets, from the oldest slot up to the head. -/
def PacketRingBuffer.queued (rb : PacketRingBuffer) : List QueuedPacket :=
  (List.range (rbPacketCount rb)).map fun offset => rb.packetAt (rb.place offset)

/-- The packet that a push with these bytes queues. -/
def PacketRingBuffer.incoming (rb : PacketRingBuffer) (data : List UInt8) (ts : UInt64) :
    QueuedPacket :=
  { header := packetHeader rb.type data
    timestampUs := ts
    size := rb.packetSize
    bytes := paddedPayload rb.packetSize data }

/-- The invariant of a ring. -/
structure RingInv (rb : PacketRingBuffer) : Prop where
  large : 1 < rb.maxCapacity
  headInside : rb.head < rb.maxCapacity
  tailInside : rb.tail < rb.maxCapacity
  window : ∀ offset < rb.maxCapacity,
    (rb.slots (rb.place offset)).valid = decide (offset < rbPacketCount rb)
  pointsInside : ∀ i < rb.maxCapacity, (rb.slots i).data < rb.maxCapacity
  distinct : ∀ i < rb.maxCapacity, ∀ j < rb.maxCapacity,
    (rb.slots i).data = (rb.slots j).data → i = j
  filled : ∀ buffer, (rb.payload buffer).length = rb.packetSize
  started : rb.head ≠ rb.tail → rb.seqInitialized = true

@[simp] theorem setAt_same {α : Type*} (store : Nat → α) (index : Nat) (value : α) :
    setAt store index value index = value := if_pos rfl

theorem setAt_other {α : Type*} (store : Nat → α) {index i : Nat} (value : α)
    (other : i ≠ index) : setAt store index value i = store i := if_neg other

@[simp] theorem paddedPayload_length (size : Nat) (data : List UInt8) :
    (paddedPayload size data).length = size := by
  simp only [paddedPayload, List.length_append, List.length_take, List.length_replicate]
  omega

section Positions

variable {rb : PacketRingBuffer}

theorem RingInv.count_lt (inv : RingInv rb) : rbPacketCount rb < rb.maxCapacity :=
  ringCount_lt inv.headInside

theorem RingInv.place_lt (inv : RingInv rb) (offset : Nat) : rb.place offset < rb.maxCapacity :=
  ringPos_lt (by have := inv.large; omega) _ _

theorem RingInv.place_inj (inv : RingInv rb) {i j : Nat} (left : i < rb.maxCapacity)
    (right : j < rb.maxCapacity) : rb.place i = rb.place j ↔ i = j :=
  ringPos_inj inv.tailInside left right

theorem RingInv.place_zero (inv : RingInv rb) : rb.place 0 = rb.tail :=
  ringPos_zero inv.tailInside

theorem RingInv.place_count (inv : RingInv rb) : rb.place (rbPacketCount rb) = rb.head :=
  ringPos_count inv.headInside inv.tailInside

theorem RingInv.data_ne (inv : RingInv rb) {i j : Nat} (left : i < rb.maxCapacity)
    (right : j < rb.maxCapacity) (differ : i ≠ j) :
    (rb.slots (rb.place i)).data ≠ (rb.slots (rb.place j)).data := by
  intro same
  have meet := inv.distinct _ (inv.place_lt i) _ (inv.place_lt j) same
  exact differ ((inv.place_inj left right).mp meet)

@[simp] theorem queued_length (rb : PacketRingBuffer) : rb.queued.length = rbPacketCount rb := by
  simp [PacketRingBuffer.queued]

@[simp] theorem queued_getElem (rb : PacketRingBuffer) (offset : Nat)
    (inside : offset < rb.queued.length) :
    rb.queued[offset] = rb.packetAt (rb.place offset) := by
  simp [PacketRingBuffer.queued]

end Positions

section Search

variable {offset : Nat}

/-- The insertion search over places: the tail place is never compared. -/
def searchPlace (belongs : Nat → Bool) : Nat → Nat → Option Nat
  | 0, _ => none
  | _ + 1, 0 => none
  | depth + 1, offset + 1 =>
    if offset = 0 then none
    else if belongs offset then some (offset + 1)
    else searchPlace belongs depth offset

theorem searchPlace_some {belongs : Nat → Bool} {depth found : Nat}
    (search : searchPlace belongs depth offset = some found) :
    1 < found ∧ found ≤ offset ∧ offset < found + depth ∧ belongs (found - 1) = true ∧
      ∀ k, found ≤ k → k < offset → belongs k = false := by
  -- Each step back adds one place that the packet does not belong behind.
  induction depth generalizing offset with
  | zero => simp [searchPlace] at search
  | succ depth ih =>
    cases offset with
    | zero => simp [searchPlace] at search
    | succ offset =>
      simp only [searchPlace] at search
      by_cases last : offset = 0
      · simp [last] at search
      · rw [if_neg last] at search
        cases here : belongs offset with
        | true =>
          simp only [here, if_true, Option.some.injEq] at search
          subst search
          refine ⟨by omega, by omega, by omega, here, fun k above below => by omega⟩
        | false =>
          simp only [here, Bool.false_eq_true, if_false] at search
          obtain ⟨behind, within, near, belongsThere, none⟩ := ih search
          refine ⟨behind, by omega, by omega, belongsThere, fun k above below => ?_⟩
          rcases Nat.lt_or_ge k offset with earlier | newest
          · exact none k above earlier
          · rw [show k = offset by omega, here]

theorem searchPlace_none {belongs : Nat → Bool} {depth : Nat}
    (search : searchPlace belongs depth offset = none) {k : Nat} (behind : 0 < k)
    (below : k < offset) (near : offset ≤ k + depth) : belongs k = false := by
  -- The search stops early only at the tail place.
  induction depth generalizing offset with
  | zero => omega
  | succ depth ih =>
    cases offset with
    | zero => omega
    | succ offset =>
      simp only [searchPlace] at search
      rw [if_neg (by omega)] at search
      cases here : belongs offset with
      | true => simp [here] at search
      | false =>
        simp only [here, Bool.false_eq_true, if_false] at search
        rcases Nat.lt_or_ge k offset with earlier | newest
        · exact ih search earlier (by omega)
        · rw [show k = offset by omega, here]

variable {rb : PacketRingBuffer}

/-- Whether a packet belongs behind the one at a place. -/
def PacketRingBuffer.belongsBehind (rb : PacketRingBuffer) (packet : PacketHeader)
    (offset : Nat) : Bool :=
  shouldInsertHere rb.type packet (rb.slots (rb.place offset))

theorem searchInsertPos_place (inv : RingInv rb) (packet : PacketHeader) (depth : Nat)
    (inside : offset ≤ rbPacketCount rb) :
    searchInsertPos rb packet depth (rb.place offset) =
      (searchPlace (rb.belongsBehind packet) depth offset).map rb.place := by
  -- Every compared slot lies in the occupied window, so the branch for invalid slots is dead.
  have bound := inv.count_lt
  induction depth generalizing offset with
  | zero => rfl
  | succ depth ih =>
    cases offset with
    | zero => simp [searchInsertPos, searchPlace, inv.place_zero]
    | succ offset =>
      have notTail : rb.place (offset + 1) ≠ rb.tail := by
        rw [← inv.place_zero, Ne, inv.place_inj (by omega) (by omega)]
        omega
      have before : ringPrev rb.maxCapacity (rb.place (offset + 1)) = rb.place offset :=
        ringPrev_ringPos inv.tailInside (by omega)
      have occupied : (rb.slots (rb.place offset)).valid = true := by
        rw [inv.window offset (by omega)]
        exact decide_eq_true (by omega)
      simp only [searchInsertPos, searchPlace, if_neg notTail, before, occupied, Bool.not_true,
        Bool.false_eq_true, if_false]
      by_cases last : offset = 0
      · rw [if_pos (by rw [last, inv.place_zero]), if_pos last]
        rfl
      · have notLast : rb.place offset ≠ rb.tail := by
          rw [← inv.place_zero, Ne, inv.place_inj (by omega) (by omega)]
          exact last
        rw [if_neg notLast, if_neg last, ih (by omega)]
        unfold PacketRingBuffer.belongsBehind
        split_ifs <;> rfl

/-- The place at which a push puts a packet. -/
def PacketRingBuffer.insertPlace (rb : PacketRingBuffer) (packet : PacketHeader) : Nat :=
  (searchPlace (rb.belongsBehind packet) (maxSearchDepth rb.type) (rbPacketCount rb)).getD
    (rbPacketCount rb)

theorem insertPlace_le (rb : PacketRingBuffer) (packet : PacketHeader) :
    rb.insertPlace packet ≤ rbPacketCount rb := by
  unfold PacketRingBuffer.insertPlace
  cases search : searchPlace (rb.belongsBehind packet) (maxSearchDepth rb.type)
    (rbPacketCount rb) with
  | none => exact le_rfl
  | some found => exact (searchPlace_some search).2.1

theorem openInsertSlot_eq (inv : RingInv rb) (packet : PacketHeader) :
    openInsertSlot rb packet =
      if rb.insertPlace packet = rbPacketCount rb then (rb.head, rb.slots)
      else (rb.place (rb.insertPlace packet),
        swapBack rb.maxCapacity (rbPacketCount rb - rb.insertPlace packet) rb.head
          (setAt rb.slots rb.head (rb.slots rb.head).clear)) := by
  -- The shift distance is the number of packets behind the hole, which the search depth bounds.
  have bound := inv.count_lt
  have search := searchInsertPos_place inv packet (maxSearchDepth rb.type) le_rfl
  rw [inv.place_count] at search
  unfold openInsertSlot
  rw [search]
  unfold PacketRingBuffer.insertPlace
  cases reached : searchPlace (rb.belongsBehind packet) (maxSearchDepth rb.type)
    (rbPacketCount rb) with
  | none => simp
  | some found =>
    obtain ⟨_, within, near, _, _⟩ := searchPlace_some reached
    simp only [Option.map_some, Option.getD_some]
    have atHead : rb.place found = rb.head ↔ found = rbPacketCount rb := by
      rw [← inv.place_count, inv.place_inj (by omega) bound]
    by_cases same : found = rbPacketCount rb
    · rw [if_pos (atHead.mpr same), if_pos same]
    · have distance : (if rb.head ≥ rb.place found then rb.head - rb.place found
          else rb.head + rb.maxCapacity - rb.place found) = rbPacketCount rb - found := by
        have headInside := inv.headInside
        have tailInside := inv.tailInside
        rw [← inv.place_count]
        unfold PacketRingBuffer.place
        rw [ringPos_cases tailInside bound, ringPos_cases tailInside (show found < _ by omega)]
        split_ifs <;> omega
      rw [if_neg (fun meet => same (atHead.mp meet)), if_neg same, distance, if_neg (by omega)]

theorem RingInv.swapBack_place (inv : RingInv rb) (slots : Nat → PacketSlot) {low : Nat}
    (within : low ≤ rbPacketCount rb) (inside : offset < rb.maxCapacity) :
    swapBack rb.maxCapacity (rbPacketCount rb - low) rb.head slots (rb.place offset) =
      if offset < low ∨ rbPacketCount rb < offset then slots (rb.place offset)
      else if offset = low then slots rb.head else slots (rb.place (offset - 1)) := by
  have bound := inv.count_lt
  have moved := swapBack_ringPos inv.tailInside slots low (rbPacketCount rb - low) (by omega) inside
  rw [Nat.add_sub_cancel' within] at moved
  change swapBack _ _ (rb.place (rbPacketCount rb)) _ (rb.place offset) =
    if _ then slots (rb.place offset)
    else if _ then slots (rb.place (rbPacketCount rb)) else slots (rb.place (offset - 1)) at moved
  rwa [inv.place_count] at moved

theorem openInsertSlot_place (inv : RingInv rb) (packet : PacketHeader) :
    (openInsertSlot rb packet).1 = rb.place (rb.insertPlace packet) ∧
      ((openInsertSlot rb packet).2 (rb.place (rb.insertPlace packet))).data =
        (rb.slots rb.head).data ∧
      ∀ offset < rb.maxCapacity, offset ≠ rb.insertPlace packet →
        (openInsertSlot rb packet).2 (rb.place offset) =
          if offset < rb.insertPlace packet ∨ rbPacketCount rb < offset
          then rb.slots (rb.place offset) else rb.slots (rb.place (offset - 1)) := by
  -- At the head nothing moves; elsewhere the shift rule says what each place receives.
  have bound := inv.count_lt
  have within := insertPlace_le rb packet
  rw [openInsertSlot_eq inv packet]
  by_cases last : rb.insertPlace packet = rbPacketCount rb
  · rw [if_pos last, last, inv.place_count]
    refine ⟨rfl, rfl, fun offset _ other => ?_⟩
    rw [if_pos (by omega)]
  · rw [if_neg last]
    refine ⟨rfl, ?_, fun offset inside other => ?_⟩ <;> dsimp only
    · rw [inv.swapBack_place _ within (by omega), if_neg (by omega), if_pos rfl, setAt_same]
      rfl
    · rw [inv.swapBack_place _ within inside, if_neg other]
      have apart : ∀ i < rb.maxCapacity, i ≠ rbPacketCount rb →
          setAt rb.slots rb.head (rb.slots rb.head).clear (rb.place i) = rb.slots (rb.place i) := by
        intro i small differ
        refine setAt_other _ _ ?_
        rw [← inv.place_count, Ne, inv.place_inj small bound]
        exact differ
      split_ifs with outside
      · exact apart offset inside (by omega)
      · exact apart (offset - 1) (by omega) (by omega)

end Search

section Push

variable {rb : PacketRingBuffer}

/-- The old place of the slot that a push leaves at a place. -/
def oldPlace (low count offset : Nat) : Nat :=
  if offset = low then count else if offset < low ∨ count < offset then offset else offset - 1

theorem insertPacket_count (inv : RingInv rb) (room : rbPacketCount rb + 1 < rb.maxCapacity)
    (packet : PacketHeader) (data : List UInt8) (ts : UInt64) :
    rbPacketCount (insertPacket rb packet data ts) = rbPacketCount rb + 1 := by
  -- The new head is the place behind the old one.
  have head : (insertPacket rb packet data ts).head = rb.place (rbPacketCount rb + 1) := by
    change (rb.head + 1) % rb.maxCapacity = _
    rw [← inv.place_count]
    exact ringPos_succ _ _ _
  unfold rbPacketCount at head ⊢
  rw [head]
  exact ringCount_ringPos inv.tailInside room

theorem insertPacket_slot (inv : RingInv rb) (packet : PacketHeader) (data : List UInt8)
    (ts : UInt64) {offset : Nat} (inside : offset < rb.maxCapacity) :
    (insertPacket rb packet data ts).slots (rb.place offset) =
      if offset = rb.insertPlace packet then
        { data := (rb.slots rb.head).data
          size := rb.packetSize
          timestampUs := ts
          sequenceNum := packet.sequenceNum
          frameNum := packet.frameNum
          lineNum := packet.lineNum
          valid := true }
      else rb.slots (rb.place (oldPlace (rb.insertPlace packet) (rbPacketCount rb) offset)) := by
  obtain ⟨pos, freed, moved⟩ := openInsertSlot_place inv packet
  have within := insertPlace_le rb packet
  have bound := inv.count_lt
  unfold insertPacket oldPlace
  dsimp only
  rw [pos, freed]
  by_cases here : offset = rb.insertPlace packet
  · rw [if_pos here, here, setAt_same]
  · have apart : rb.place offset ≠ rb.place (rb.insertPlace packet) := by
      rw [Ne, inv.place_inj inside (by omega)]
      exact here
    rw [if_neg here, if_neg here, setAt_other _ _ apart, moved offset inside here]
    split_ifs <;> rfl

theorem insertPacket_data (inv : RingInv rb) (packet : PacketHeader) (data : List UInt8)
    (ts : UInt64) {offset : Nat} (inside : offset < rb.maxCapacity) :
    ((insertPacket rb packet data ts).slots (rb.place offset)).data =
      (rb.slots (rb.place (oldPlace (rb.insertPlace packet) (rbPacketCount rb) offset))).data := by
  rw [insertPacket_slot inv packet data ts inside]
  by_cases here : offset = rb.insertPlace packet
  · rw [if_pos here, oldPlace, if_pos here, inv.place_count]
  · rw [if_neg here]

theorem insertPacket_payload (inv : RingInv rb) (packet : PacketHeader) (data : List UInt8)
    (ts : UInt64) :
    (insertPacket rb packet data ts).payload =
      setAt rb.payload (rb.slots rb.head).data (paddedPayload rb.packetSize data) := by
  obtain ⟨pos, freed, _⟩ := openInsertSlot_place inv packet
  unfold insertPacket
  dsimp only
  rw [pos, freed]

theorem insertPacket_inv (inv : RingInv rb) (room : rbPacketCount rb + 1 < rb.maxCapacity)
    (tracked : rb.seqInitialized = true) (packet : PacketHeader) (data : List UInt8)
    (ts : UInt64) : RingInv (insertPacket rb packet data ts) := by
  -- Every slot has a place, and the places were permuted by the shift.
  have within := insertPlace_le rb packet
  have bound := inv.count_lt
  have count := insertPacket_count inv room packet data ts
  refine ⟨inv.large, Nat.mod_lt _ (by omega), inv.tailInside, ?_, ?_, ?_, ?_, fun _ => tracked⟩
  · intro offset inside
    change offset < rb.maxCapacity at inside
    change ((insertPacket rb packet data ts).slots (rb.place offset)).valid = _
    rw [insertPacket_slot inv packet data ts inside, count]
    by_cases here : offset = rb.insertPlace packet
    · rw [if_pos here]
      exact (decide_eq_true (by omega)).symm
    · have old : oldPlace (rb.insertPlace packet) (rbPacketCount rb) offset < rb.maxCapacity := by
        unfold oldPlace
        split_ifs <;> omega
      rw [if_neg here, inv.window _ old, decide_eq_decide]
      unfold oldPlace
      split_ifs <;> omega
  · intro slot inside
    obtain ⟨offset, small, rfl⟩ := exists_ringPos inv.tailInside inside
    change ((insertPacket rb packet data ts).slots (rb.place offset)).data < _
    rw [insertPacket_data inv packet data ts small]
    exact inv.pointsInside _ (inv.place_lt _)
  · intro first firstInside second secondInside same
    obtain ⟨i, left, rfl⟩ := exists_ringPos inv.tailInside firstInside
    obtain ⟨j, right, rfl⟩ := exists_ringPos inv.tailInside secondInside
    change ((insertPacket rb packet data ts).slots (rb.place i)).data =
      ((insertPacket rb packet data ts).slots (rb.place j)).data at same
    rw [insertPacket_data inv packet data ts left, insertPacket_data inv packet data ts right]
      at same
    have meet := inv.distinct _ (inv.place_lt _) _ (inv.place_lt _) same
    have inside : ∀ k < rb.maxCapacity,
        oldPlace (rb.insertPlace packet) (rbPacketCount rb) k < rb.maxCapacity := by
      intro k small
      unfold oldPlace
      split_ifs <;> omega
    rw [inv.place_inj (inside i left) (inside j right)] at meet
    unfold oldPlace at meet
    have equal : i = j := by split_ifs at meet <;> omega
    rw [equal]
  · intro buffer
    rw [insertPacket_payload inv]
    by_cases here : buffer = (rb.slots rb.head).data
    · rw [here, setAt_same]
      exact paddedPayload_length _ _
    · rw [setAt_other _ _ here]
      exact inv.filled buffer

theorem insertPacket_queued (inv : RingInv rb) (room : rbPacketCount rb + 1 < rb.maxCapacity)
    (data : List UInt8) (ts : UInt64) :
    (insertPacket rb (packetHeader rb.type data) data ts).queued =
      rb.queued.take (rb.insertPlace (packetHeader rb.type data)) ++
        rb.incoming data ts :: rb.queued.drop (rb.insertPlace (packetHeader rb.type data)) := by
  -- The lists agree place by place; the written payload buffer belongs to the new packet alone.
  generalize header : packetHeader rb.type data = packet
  have within := insertPlace_le rb packet
  have bound := inv.count_lt
  have count := insertPacket_count inv room packet data ts
  have kept : ∀ offset < rb.maxCapacity, offset ≠ rb.insertPlace packet →
      oldPlace (rb.insertPlace packet) (rbPacketCount rb) offset ≠ rbPacketCount rb →
      (insertPacket rb packet data ts).packetAt (rb.place offset) =
        rb.packetAt (rb.place
          (oldPlace (rb.insertPlace packet) (rbPacketCount rb) offset)) := by
    intro offset inside other old
    have oldInside : oldPlace (rb.insertPlace packet) (rbPacketCount rb) offset
        < rb.maxCapacity := by
      unfold oldPlace
      split_ifs <;> omega
    unfold PacketRingBuffer.packetAt
    rw [insertPacket_slot inv packet data ts inside, if_neg other, insertPacket_payload inv,
      setAt_other]
    rw [← inv.place_count]
    exact inv.data_ne oldInside bound old
  apply List.ext_getElem
  · simp only [queued_length, count, List.length_append, List.length_take, List.length_cons,
      List.length_drop]
    omega
  · intro offset inside _
    rw [queued_length, count] at inside
    rw [queued_getElem]
    change (insertPacket rb packet data ts).packetAt (rb.place offset) = _
    rcases Nat.lt_trichotomy offset (rb.insertPlace packet) with before | here | behind
    · rw [List.getElem_append_left (by simp; omega), List.getElem_take, queued_getElem,
        kept offset (by omega) (by omega) (by unfold oldPlace; split_ifs <;> omega), oldPlace,
        if_neg (by omega), if_pos (Or.inl before)]
    · rw [List.getElem_append_right (by simp; omega)]
      simp only [List.length_take, queued_length, here, min_eq_left within, Nat.sub_self,
        List.getElem_cons_zero]
      unfold PacketRingBuffer.packetAt PacketRingBuffer.incoming
      rw [insertPacket_slot inv packet data ts (by omega), if_pos rfl, insertPacket_payload inv,
        setAt_same, header]
      rfl
    · rw [List.getElem_append_right (by simp; omega)]
      simp only [List.length_take, queued_length, min_eq_left within]
      rw [List.getElem_cons, dif_neg (by omega), List.getElem_drop, queued_getElem,
        kept offset (by omega) (by omega) (by unfold oldPlace; split_ifs <;> omega), oldPlace,
        if_neg (by omega), if_neg (by omega)]
      congr 2
      omega

end Push

section Drain

variable {rb : PacketRingBuffer}

/-- Moving the tail past a slot that is given up, and perhaps overwriting its payload. -/
def PacketRingBuffer.dropTail (rb : PacketRingBuffer) (slot : PacketSlot)
    (payload : Nat → List UInt8) : PacketRingBuffer :=
  { rb with
    slots := setAt rb.slots rb.tail slot
    payload := payload
    tail := (rb.tail + 1) % rb.maxCapacity }

theorem dropTail_place (rb : PacketRingBuffer) (slot : PacketSlot) (payload : Nat → List UInt8)
    (offset : Nat) : (rb.dropTail slot payload).place offset = rb.place (offset + 1) :=
  ringPos_tail_succ _ _

theorem dropTail_count (inv : RingInv rb) (occupied : rb.head ≠ rb.tail) (slot : PacketSlot)
    (payload : Nat → List UInt8) :
    rbPacketCount (rb.dropTail slot payload) + 1 = rbPacketCount rb := by
  -- The head is one place nearer to the new tail.
  have bound := inv.count_lt
  have positive : rbPacketCount rb ≠ 0 := by
    rw [rbPacketCount, Ne, ringCount_eq_zero inv.tailInside]
    exact occupied
  have inside : (rb.tail + 1) % rb.maxCapacity < rb.maxCapacity := Nat.mod_lt _ (by omega)
  have head : rb.head = ringPos rb.maxCapacity ((rb.tail + 1) % rb.maxCapacity)
      (rbPacketCount rb - 1) := by
    rw [ringPos_tail_succ, Nat.sub_add_cancel (by omega)]
    exact inv.place_count.symm
  change ringCount rb.maxCapacity rb.head ((rb.tail + 1) % rb.maxCapacity) + 1 = _
  rw [head, ringCount_ringPos inside (by omega)]
  omega

theorem dropTail_inv (inv : RingInv rb) (occupied : rb.head ≠ rb.tail) (slot : PacketSlot)
    (cleared : slot.valid = false) (same : slot.data = (rb.slots rb.tail).data)
    {payload : Nat → List UInt8} (filled : ∀ buffer, (payload buffer).length = rb.packetSize) :
    RingInv (rb.dropTail slot payload) := by
  -- The dropped slot becomes the last place, which lies outside the window.
  have bound := inv.count_lt
  have count := dropTail_count inv occupied slot payload
  have data : ∀ i, ((rb.dropTail slot payload).slots i).data = (rb.slots i).data := by
    intro i
    change (setAt rb.slots rb.tail slot i).data = _
    by_cases here : i = rb.tail
    · rw [here, setAt_same, same]
    · rw [setAt_other _ _ here]
  refine ⟨inv.large, inv.headInside, Nat.mod_lt _ (by omega), ?_, ?_, ?_, filled,
    fun _ => inv.started occupied⟩
  · intro offset inside
    change offset < rb.maxCapacity at inside
    rw [dropTail_place]
    change (setAt rb.slots rb.tail slot (rb.place (offset + 1))).valid = _
    by_cases last : offset + 1 = rb.maxCapacity
    · have around : rb.place (offset + 1) = rb.tail := by
        rw [last, PacketRingBuffer.place, ringPos, Nat.add_mod_right]
        exact Nat.mod_eq_of_lt inv.tailInside
      rw [around, setAt_same, cleared]
      exact (decide_eq_false (by omega)).symm
    · have apart : rb.place (offset + 1) ≠ rb.tail := by
        rw [← inv.place_zero, Ne, inv.place_inj (by omega) (by omega)]
        omega
      rw [setAt_other _ _ apart, inv.window _ (by omega), decide_eq_decide]
      omega
  · intro i inside
    rw [data]
    exact inv.pointsInside i inside
  · intro i left j right equal
    rw [data, data] at equal
    exact inv.distinct i left j right equal

theorem dropTail_queued (inv : RingInv rb) (occupied : rb.head ≠ rb.tail) (slot : PacketSlot)
    (payload : Nat → List UInt8)
    (kept : ∀ buffer, buffer ≠ (rb.slots rb.tail).data → payload buffer = rb.payload buffer) :
    rb.queued = rb.packetAt rb.tail :: (rb.dropTail slot payload).queued := by
  -- The places behind the tail keep their slots and their payload buffers.
  have bound := inv.count_lt
  have count := dropTail_count inv occupied slot payload
  apply List.ext_getElem
  · simp [← count]
  · intro offset inside _
    rw [queued_length] at inside
    rw [queued_getElem]
    cases offset with
    | zero => rw [List.getElem_cons_zero, inv.place_zero]
    | succ offset =>
      have apart : rb.place (offset + 1) ≠ rb.tail := by
        rw [← inv.place_zero, Ne, inv.place_inj (by omega) (by omega)]
        omega
      have other : (rb.slots (rb.place (offset + 1))).data ≠ (rb.slots rb.tail).data := by
        rw [← inv.place_zero]
        exact inv.data_ne (by omega) (by omega) (by omega)
      rw [List.getElem_cons_succ, queued_getElem, dropTail_place]
      unfold PacketRingBuffer.packetAt PacketRingBuffer.dropTail
      dsimp only
      rw [setAt_other _ _ apart, kept _ other]

theorem rbPopOldest_some (occupied : rb.head ≠ rb.tail) :
    ∃ popped, rbPopOldest rb = some popped ∧
      popped.queued = (rb.dropTail { rb.slots rb.tail with valid := false } rb.payload).queued ∧
      (RingInv (rb.dropTail { rb.slots rb.tail with valid := false } rb.payload) →
        RingInv popped) ∧
      popped.type = rb.type ∧
      popped.popScratch =
        { bytes := (rb.payload (rb.slots rb.tail).data).take rb.packetSize
          size := (rb.slots rb.tail).size
          timestampUs := (rb.slots rb.tail).timestampUs
          sequenceNum := (rb.slots rb.tail).sequenceNum
          frameNum := (rb.slots rb.tail).frameNum
          lineNum := (rb.slots rb.tail).lineNum
          valid := true } := by
  -- The two rings differ only in the scratch packet and the expected number.
  unfold rbPopOldest
  rw [if_neg occupied]
  exact ⟨_, rfl, rfl, fun inv => { inv with }, rfl, rfl⟩

theorem rbReset_inv (inv : RingInv rb) (activeSlots : Nat) : RingInv (rbReset rb activeSlots) := by
  -- No slot is valid, and the slots keep their payload buffers.
  have positive : 0 < rb.maxCapacity := Nat.lt_of_succ_lt inv.large
  have data : ∀ i, ((rbReset rb activeSlots).slots i).data = (rb.slots i).data := by
    intro i
    simp only [rbReset]
    split_ifs <;> rfl
  refine ⟨inv.large, positive, positive, ?_, ?_, ?_, inv.filled, fun differ => absurd rfl differ⟩
  · intro offset inside
    change offset < rb.maxCapacity at inside
    have empty : rbPacketCount (rbReset rb activeSlots) = 0 := rfl
    have inRing : (rbReset rb activeSlots).place offset < rb.maxCapacity :=
      ringPos_lt positive _ _
    rw [empty]
    simp only [rbReset] at inRing ⊢
    rw [if_pos inRing]
    simp
  · intro i inside
    rw [data]
    exact inv.pointsInside i inside
  · intro i left j right equal
    rw [data, data] at equal
    exact inv.distinct i left j right equal

@[simp] theorem rbReset_queued (rb : PacketRingBuffer) (activeSlots : Nat) :
    (rbReset rb activeSlots).queued = [] := rfl

theorem discardOldest_succ (inv : RingInv rb) (occupied : rb.head ≠ rb.tail) (steps count : Nat) :
    ∃ next, discardOldest rb (steps + 1) (count + 1) = discardOldest next steps count ∧
      RingInv next ∧ next.type = rb.type ∧ rb.queued = rb.packetAt rb.tail :: next.queued := by
  -- The oldest slot of an occupied ring is valid, and its payload buffer is its own.
  have positive := dropTail_count inv occupied (rb.slots rb.tail).clear rb.payload
  have valid : (rb.slots rb.tail).valid = true := by
    have here := inv.window 0 (by have := inv.large; omega)
    rw [inv.place_zero] at here
    rw [here]
    exact decide_eq_true (by omega)
  have filled : ∀ buffer, (setAt rb.payload (rb.slots rb.tail).data
      (List.replicate rb.packetSize 0) buffer).length = rb.packetSize := by
    intro buffer
    by_cases here : buffer = (rb.slots rb.tail).data
    · rw [here, setAt_same, List.length_replicate]
    · rw [setAt_other _ _ here]
      exact inv.filled buffer
  refine ⟨rb.dropTail (rb.slots rb.tail).clear
    (setAt rb.payload (rb.slots rb.tail).data (List.replicate rb.packetSize 0)), ?_,
    dropTail_inv inv occupied (rb.slots rb.tail).clear rfl rfl filled, rfl,
    dropTail_queued inv occupied _ _ fun buffer other => setAt_other _ _ other⟩
  have more : rb.tail ≠ rb.head := fun meet => occupied meet.symm
  conv_lhs => unfold discardOldest
  rw [if_neg more]
  simp only [valid, if_true]
  rfl

theorem discardOldest_laws (inv : RingInv rb) (steps count : Nat) :
    RingInv (discardOldest rb steps count) ∧ (discardOldest rb steps count).type = rb.type ∧
      ∃ dropped, rb.queued = dropped ++ (discardOldest rb steps count).queued := by
  -- Each step gives up the tail slot of an occupied ring.
  induction steps generalizing rb count with
  | zero => exact ⟨inv, rfl, [], rfl⟩
  | succ steps ih =>
    cases count with
    | zero => exact ⟨inv, rfl, [], rfl⟩
    | succ count =>
      by_cases empty : rb.tail = rb.head
      · unfold discardOldest
        rw [if_pos empty]
        exact ⟨inv, rfl, [], rfl⟩
      · obtain ⟨next, same, kept, type, queue⟩ :=
          discardOldest_succ inv (fun meet => empty meet.symm) steps count
        obtain ⟨rest, sameType, dropped, split⟩ := ih kept count
        rw [same]
        refine ⟨rest, sameType.trans type, rb.packetAt rb.tail :: dropped, ?_⟩
        rw [queue, split]
        rfl

theorem rbTrim_laws (inv : RingInv rb) (newCapacity : Nat) :
    RingInv (rbTrim rb newCapacity) ∧ (rbTrim rb newCapacity).type = rb.type ∧
      ∃ dropped, rb.queued = dropped ++ (rbTrim rb newCapacity).queued := by
  unfold rbTrim
  dsimp only
  split_ifs
  · exact discardOldest_laws inv _ _
  · exact ⟨inv, rfl, [], rfl⟩

theorem rbRetimestamp_slot (rb : PacketRingBuffer) (ts : UInt64) (i : Nat) :
    ((rbRetimestamp rb ts).slots i).valid = (rb.slots i).valid ∧
      ((rbRetimestamp rb ts).slots i).data = (rb.slots i).data ∧
      ((rbRetimestamp rb ts).slots i).header = (rb.slots i).header := by
  simp only [rbRetimestamp]
  split_ifs <;> exact ⟨rfl, rfl, rfl⟩

theorem rbRetimestamp_inv (inv : RingInv rb) (ts : UInt64) : RingInv (rbRetimestamp rb ts) := by
  refine ⟨inv.large, inv.headInside, inv.tailInside, ?_, ?_, ?_, inv.filled, inv.started⟩
  · intro offset inside
    rw [(rbRetimestamp_slot rb ts _).1]
    exact inv.window offset inside
  · intro i inside
    rw [(rbRetimestamp_slot rb ts _).2.1]
    exact inv.pointsInside i inside
  · intro i left j right equal
    rw [(rbRetimestamp_slot rb ts _).2.1, (rbRetimestamp_slot rb ts _).2.1] at equal
    exact inv.distinct i left j right equal

theorem rbRetimestamp_headers (rb : PacketRingBuffer) (ts : UInt64) :
    (rbRetimestamp rb ts).queued.map (·.header) = rb.queued.map (·.header) := by
  simp only [PacketRingBuffer.queued, List.map_map]
  apply List.map_congr_left
  intro offset _
  exact (rbRetimestamp_slot rb ts _).2.2

theorem rbSetDelay_laws (inv : RingInv rb) (delayMs : Nat) (nowUs : UInt64) :
    RingInv (rbSetDelay rb delayMs nowUs) ∧ (rbSetDelay rb delayMs nowUs).type = rb.type ∧
      ∃ dropped, rb.queued.map (·.header) =
        dropped ++ (rbSetDelay rb delayMs nowUs).queued.map (·.header) := by
  -- The new delay is stored first; after that the ring is emptied, trimmed or left alone.
  have stored : ∀ delay, RingInv { rb with delayUs := delay } := fun delay => { inv with }
  unfold rbSetDelay
  dsimp only
  split_ifs with _ shorter flush
  all_goals first
    | exact ⟨rbReset_inv (stored _) _, rfl, rb.queued.map (·.header), by simp⟩
    | exact ⟨stored _, rfl, [], rfl⟩
    | skip
  all_goals
    obtain ⟨trimmed, type, dropped, split⟩ := rbTrim_laws (stored _) _
    refine ⟨rbRetimestamp_inv trimmed _, type, dropped.map (·.header), ?_⟩
    rw [rbRetimestamp_headers, ← List.map_append, ← split]
    rfl

end Drain

section Calls

variable {rb : PacketRingBuffer}

theorem startTracking_laws (rb : PacketRingBuffer) (packet : PacketHeader) :
    (RingInv rb → RingInv (startTracking rb packet)) ∧
      (startTracking rb packet).seqInitialized = true ∧
      (startTracking rb packet).queued = rb.queued ∧
      rbPacketCount (startTracking rb packet) = rbPacketCount rb ∧
      (startTracking rb packet).maxCapacity = rb.maxCapacity ∧
      (startTracking rb packet).packetSize = rb.packetSize ∧
      (startTracking rb packet).type = rb.type := by
  unfold startTracking
  split_ifs with tracked
  · exact ⟨id, tracked, rfl, rfl, rfl, rfl, rfl⟩
  · exact ⟨fun inv => { inv with started := fun _ => rfl }, rfl, rfl, rfl, rfl, rfl, rfl⟩

theorem rbPush_cases (inv : RingInv rb) {data : List UInt8}
    (long : minHeaderSize rb.type ≤ data.length) (ts : UInt64) :
    (rbPacketCount rb = rb.maxCapacity - 1 ∧ rbPush rb data ts = rb) ∨
      (rbPacketCount rb + 1 < rb.maxCapacity ∧
        rbPush rb data ts = insertPacket (startTracking rb (packetHeader rb.type data))
          (packetHeader rb.type data) data ts) := by
  -- A full ring is not empty, so its tracking had started before.
  have large := inv.large
  have bound := inv.count_lt
  obtain ⟨tracked, _, _, count, cap, _, _⟩ := startTracking_laws rb (packetHeader rb.type data)
  have full := next_head_eq_tail (tracked inv).headInside (tracked inv).tailInside
  change _ ↔ rbPacketCount (startTracking rb (packetHeader rb.type data)) = _ at full
  rw [count, cap] at full
  unfold rbPush
  rw [if_neg (by omega)]
  dsimp only
  rw [cap]
  by_cases last : rbPacketCount rb = rb.maxCapacity - 1
  · left
    refine ⟨last, ?_⟩
    have occupied : rb.head ≠ rb.tail := by
      rw [Ne, ← ringCount_eq_zero inv.tailInside]
      change ¬rbPacketCount rb = 0
      omega
    rw [if_pos (full.mpr last), startTracking, if_pos (inv.started occupied)]
  · right
    refine ⟨by omega, ?_⟩
    rw [if_neg (fun meet => last (full.mp meet))]

theorem rbPush_inv (inv : RingInv rb) (data : List UInt8) (ts : UInt64) :
    RingInv (rbPush rb data ts) := by
  by_cases long : minHeaderSize rb.type ≤ data.length
  · rcases rbPush_cases inv long ts with ⟨_, same⟩ | ⟨room, pushed⟩
    · rwa [same]
    · obtain ⟨tracked, started, _, count, cap, _, _⟩ :=
        startTracking_laws rb (packetHeader rb.type data)
      rw [pushed]
      exact insertPacket_inv (tracked inv) (by rw [count, cap]; exact room) started _ _ _
  · rw [rbPush, if_pos (by omega)]
    exact inv

theorem rbPopReady_cases (inv : RingInv rb) (nowUs : UInt64) :
    rbPopReady rb nowUs = (rb, none) ∨
      ∃ popped scratch packet, rbPopReady rb nowUs = (popped, some scratch) ∧
        RingInv popped ∧ popped.type = rb.type ∧ rb.queued = packet :: popped.queued ∧
        scratch.bytes = packet.bytes ∧ scratch.size = packet.size ∧
        scratch.timestampUs = packet.timestampUs ∧ scratch.sequenceNum = packet.header.sequenceNum ∧
        scratch.frameNum = packet.header.frameNum ∧ scratch.lineNum = packet.header.lineNum := by
  unfold rbPopReady
  split_ifs with ready
  · right
    obtain ⟨occupied, _, _⟩ := ready
    obtain ⟨popped, taken, queue, keeps, type, scratch⟩ := rbPopOldest_some occupied
    have first := dropTail_queued inv occupied { rb.slots rb.tail with valid := false }
      rb.payload (fun _ _ => rfl)
    have next := dropTail_inv inv occupied { rb.slots rb.tail with valid := false } rfl rfl
      inv.filled
    rw [taken]
    refine ⟨popped, popped.popScratch, rb.packetAt rb.tail, rfl, keeps next, type, ?_, ?_⟩
    · rw [queue]
      exact first
    · rw [scratch]
      refine ⟨?_, rfl, rfl, rfl, rfl, rfl⟩
      exact List.take_of_length_le (le_of_eq (inv.filled _))
  · exact Or.inl rfl

theorem rbPopReady_inv (inv : RingInv rb) (nowUs : UInt64) : RingInv (rbPopReady rb nowUs).1 := by
  rcases rbPopReady_cases inv nowUs with same | ⟨_, _, _, taken, next, _⟩
  · rwa [same]
  · rwa [taken]

theorem rbCreate_inv (type : BufferType) (raw : RawRing) : RingInv (rbCreate type raw) := by
  -- The slots point at their own payload buffers, and resetting empties the ring.
  have large : 1 < maxPackets type := by cases type <;> decide
  unfold rbCreate
  refine rbReset_inv ⟨large, ?_, ?_, ?_, ?_, ?_, ?_, ?_⟩ _
  · exact Nat.lt_of_succ_lt large
  · exact Nat.lt_of_succ_lt large
  · intro offset inside
    have inRing : ringPos (maxPackets type) 0 offset < maxPackets type :=
      ringPos_lt (Nat.lt_of_succ_lt large) _ _
    change PacketSlot.valid (if ringPos (maxPackets type) 0 offset < maxPackets type then _ else _) =
      decide (offset < 0)
    rw [if_pos inRing]
    simp
  · intro i inside
    simp only [if_pos inside]
    exact inside
  · intro i left j right equal
    simpa only [if_pos left, if_pos right] using equal
  · intro buffer
    exact paddedPayload_length _ _
  · intro differ
    exact absurd rfl differ

end Calls

section Conservation

/-- Both rings of a buffer satisfy the ring invariant. -/
def BufferInv (buf : C64NetworkBuffer) : Prop :=
  RingInv buf.video ∧ RingInv buf.audio

theorem rbSetDelay_inv {rb : PacketRingBuffer} (inv : RingInv rb) (delayMs : Nat)
    (nowUs : UInt64) : RingInv (rbSetDelay rb delayMs nowUs) :=
  (rbSetDelay_laws inv delayMs nowUs).1

theorem apply_inv (buf : C64NetworkBuffer) (call : BufferCall) (inv : BufferInv buf) :
    BufferInv (call.apply buf) := by
  -- Each call acts on each ring by an operation that keeps its invariant.
  cases call with
  | pushVideo data ts => exact ⟨rbPush_inv inv.1 _ _, inv.2⟩
  | pushAudio data ts => exact ⟨inv.1, rbPush_inv inv.2 _ _⟩
  | pop videoNow audioNow => exact ⟨rbPopReady_inv inv.1 _, rbPopReady_inv inv.2 _⟩
  | setDelay videoMs audioMs videoNow audioNow =>
    exact ⟨rbSetDelay_inv inv.1 _ _, rbSetDelay_inv inv.2 _ _⟩
  | flush => exact ⟨rbReset_inv inv.1 _, rbReset_inv inv.2 _⟩

theorem always_bufferInv (rawVideo rawAudio : RawRing) (calls : List BufferCall) :
    Always BufferCall.apply BufferInv (c64NetworkBufferCreate rawVideo rawAudio) calls :=
  always_of_step apply_inv ⟨rbCreate_inv _ _, rbCreate_inv _ _⟩ calls

/-- A push of a long enough packet is dropped by a full ring, or adds exactly that packet. -/
def PushConserves (rb : PacketRingBuffer) : Prop :=
  ∀ data ts, minHeaderSize rb.type ≤ data.length →
    (rbPacketCount rb = rb.maxCapacity - 1 ∧ rbPush rb data ts = rb) ∨
      (rbPacketCount rb < rb.maxCapacity - 1 ∧ ∃ older newer, rb.queued = older ++ newer ∧
        (rbPush rb data ts).queued = older ++ rb.incoming data ts :: newer)

/-- A pop hands out nothing and leaves the ring alone, or removes the oldest packet and returns it. -/
def PopConserves (rb next : PacketRingBuffer) (data : Option (List UInt8)) (size : Nat) : Prop :=
  (next = rb ∧ data = none ∧ size = 0) ∨
    ∃ packet, rb.queued = packet :: next.queued ∧ packet = rb.packetAt rb.tail ∧
      data = some packet.bytes ∧ size = packet.size

/-- The slots, payload buffers and pushes of a ring conserve packets. -/
structure RingConserves (rb : PacketRingBuffer) : Prop where
  occupied : ∀ slot < rb.maxCapacity,
    ((rb.slots slot).valid = true ↔ ∃ offset < rbPacketCount rb, slot = rb.place offset)
  unwedged : rb.head ≠ rb.tail → (rb.slots rb.tail).valid = true
  payloads : ((List.range rb.maxCapacity).map fun slot => (rb.slots slot).data).Perm
    (List.range rb.maxCapacity)
  bounded : rbPacketCount rb ≤ rb.maxCapacity - 1
  push : PushConserves rb

/-- Both rings conserve packets, and so does every pop from them. -/
structure BufferConserves (buf : C64NetworkBuffer) : Prop where
  video : RingConserves buf.video
  audio : RingConserves buf.audio
  pop : ∀ videoNowUs audioNowUs,
    let (next, result) := c64NetworkBufferPop buf videoNowUs audioNowUs
    PopConserves buf.video next.video result.videoData result.videoSize ∧
      PopConserves buf.audio next.audio result.audioData result.audioSize

variable {rb : PacketRingBuffer}

theorem RingInv.valid_iff (inv : RingInv rb) {slot : Nat} (inside : slot < rb.maxCapacity) :
    (rb.slots slot).valid = true ↔ ∃ offset < rbPacketCount rb, slot = rb.place offset := by
  have bound := inv.count_lt
  obtain ⟨offset, small, rfl⟩ := exists_ringPos inv.tailInside inside
  change (rb.slots (rb.place offset)).valid = true ↔ ∃ i < _, rb.place offset = rb.place i
  rw [inv.window offset small, decide_eq_true_eq]
  constructor
  · intro queued
    exact ⟨offset, queued, rfl⟩
  · rintro ⟨other, queued, same⟩
    rw [inv.place_inj small (by omega)] at same
    omega

theorem RingInv.data_perm (inv : RingInv rb) :
    ((List.range rb.maxCapacity).map fun slot => (rb.slots slot).data).Perm
      (List.range rb.maxCapacity) := by
  -- An injective map of a finite set into itself only reorders it.
  have nodup : ((List.range rb.maxCapacity).map fun slot => (rb.slots slot).data).Nodup := by
    refine List.Nodup.map_on ?_ List.nodup_range
    intro i left j right same
    exact inv.distinct i (List.mem_range.mp left) j (List.mem_range.mp right) same
  have subset : ((List.range rb.maxCapacity).map fun slot => (rb.slots slot).data) ⊆
      List.range rb.maxCapacity := by
    intro buffer member
    obtain ⟨slot, inside, rfl⟩ := List.mem_map.mp member
    exact List.mem_range.mpr (inv.pointsInside slot (List.mem_range.mp inside))
  exact (List.subperm_of_subset nodup subset).perm_of_length_le (by simp)

theorem RingInv.conserves (inv : RingInv rb) : RingConserves rb := by
  have bound := inv.count_lt
  refine ⟨fun slot inside => inv.valid_iff inside, ?_, inv.data_perm, by omega, ?_⟩
  · intro occupied
    have positive : rbPacketCount rb ≠ 0 := by
      rw [rbPacketCount, Ne, ringCount_eq_zero inv.tailInside]
      exact occupied
    rw [inv.valid_iff inv.tailInside]
    exact ⟨0, by omega, inv.place_zero.symm⟩
  · intro data ts long
    rcases rbPush_cases inv long ts with full | ⟨room, pushed⟩
    · exact Or.inl full
    · right
      obtain ⟨tracked, _, queue, count, cap, size, type⟩ :=
        startTracking_laws rb (packetHeader rb.type data)
      have inserted := insertPacket_queued (tracked inv) (by rw [count, cap]; exact room) data ts
      rw [type, queue] at inserted
      have packet : (startTracking rb (packetHeader rb.type data)).incoming data ts =
          rb.incoming data ts := by
        simp only [PacketRingBuffer.incoming, size, type]
      rw [packet] at inserted
      rw [pushed]
      exact ⟨by omega, _, _, (List.take_append_drop _ rb.queued).symm, inserted⟩

theorem RingInv.pop_conserves (inv : RingInv rb) (nowUs : UInt64) :
    PopConserves rb (rbPopReady rb nowUs).1 ((rbPopReady rb nowUs).2.map (·.bytes))
      (((rbPopReady rb nowUs).2.map (·.size)).getD 0) := by
  rcases rbPopReady_cases inv nowUs with same | ⟨popped, scratch, packet, taken, next, _, queue,
    bytes, size, _⟩
  · rw [same]
    exact Or.inl ⟨rfl, rfl, rfl⟩
  · rw [taken]
    refine Or.inr ⟨packet, queue, ?_, by simp [bytes], by simp [size]⟩
    -- The first packet of the queue is the one at the tail.
    have first : rb.queued[0]? = some packet := by rw [queue]; rfl
    obtain ⟨inside, here⟩ := List.getElem?_eq_some_iff.mp first
    rw [← here, queued_getElem, inv.place_zero]

end Conservation

end C64Stream
