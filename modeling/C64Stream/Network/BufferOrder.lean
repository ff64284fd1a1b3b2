import C64Stream.Network.BufferLaws

/-! The queue of a jitter ring stays sorted exactly as long as every push finds its place. -/

namespace C64Stream

/-- Whether one packet does not come after another, by wrapped differences. -/
def notAfter (type : BufferType) (older newer : PacketHeader) : Prop :=
  match type with
  | .video =>
    0 < int16 (newer.frameNum - older.frameNum) ∨
      int16 (newer.frameNum - older.frameNum) = 0 ∧ 0 ≤ int16 (newer.lineNum - older.lineNum)
  | .audio => 0 ≤ int16 (newer.sequenceNum - older.sequenceNum)

instance : ∀ (type : BufferType) (older newer : PacketHeader), Decidable (notAfter type older newer)
  | .video, _, _ => inferInstanceAs (Decidable (_ ∨ _ ∧ _))
  | .audio, _, _ => inferInstanceAs (Decidable (_ ≤ _))

/-- The number whose wrapped differences decide the order first. -/
def PacketHeader.leading (type : BufferType) (packet : PacketHeader) : UInt16 :=
  match type with
  | .video => packet.frameNum
  | .audio => packet.sequenceNum

/-- The headers of the queued packets, oldest first. -/
def PacketRingBuffer.headers (rb : PacketRingBuffer) : List PacketHeader :=
  rb.queued.map (·.header)

/-- The queued packets are in non-decreasing key order. -/
def Ordered (rb : PacketRingBuffer) : Prop :=
  rb.headers.Pairwise (notAfter rb.type)

/-- Every key lies less than half of the sixteen-bit range above a base. -/
def KeysAbove (base : UInt16) (rb : PacketRingBuffer) : Prop :=
  ∀ packet ∈ rb.headers, (packet.leading rb.type - base).toNat < 32768

/-- The keys held together lie within less than half of the sixteen-bit range. -/
def HalfRange (rb : PacketRingBuffer) : Prop :=
  ∃ base, KeysAbove base rb

/-- A push finds its place: the search reaches a packet that the new one belongs behind. -/
def FindsPlace (rb : PacketRingBuffer) (data : List UInt8) : Prop :=
  let packet := packetHeader rb.type data
  -- A packet that is dropped needs no place, and one at the end of the queue has it.
  data.length < minHeaderSize rb.type ∨ rbPacketCount rb = rb.maxCapacity - 1 ∨
    (∀ newest ∈ rb.headers.getLast?, notAfter rb.type newest packet) ∨
    -- The search stops before the tail and after its depth.
    ∃ queued ∈ rb.headers.drop (max 1 (rbPacketCount rb - maxSearchDepth rb.type)),
      notAfter rb.type queued packet

/-- The distance of a packet from a base, with its line below it. -/
def PacketHeader.rank (type : BufferType) (base : UInt16) (packet : PacketHeader) : Nat :=
  match type with
  | .video => (packet.frameNum - base).toNat * 32768 + packet.lineNum.toNat
  | .audio => (packet.sequenceNum - base).toNat

theorem notAfter_iff_rank (type : BufferType) (base : UInt16) {older newer : PacketHeader}
    (left : (older.leading type - base).toNat < 32768)
    (right : (newer.leading type - base).toNat < 32768)
    (leftLine : older.lineNum.toNat < 32768) (rightLine : newer.lineNum.toNat < 32768) :
    notAfter type older newer ↔ older.rank type base ≤ newer.rank type base := by
  -- Both differences are true differences, and a line never outweighs a frame.
  cases type with
  | video =>
    simp only [PacketHeader.leading] at left right
    have frames := int16_sub_above base right left
    have lines := int16_sub_above 0 (a := newer.lineNum) (b := older.lineNum) (by simpa) (by simpa)
    simp only [UInt16.sub_zero] at lines
    simp only [notAfter, PacketHeader.rank, frames, lines]
    omega
  | audio =>
    simp only [PacketHeader.leading] at left right
    simp only [notAfter, PacketHeader.rank, int16_sub_above base right left]
    omega

theorem shouldInsertHere_iff (type : BufferType) (packet : PacketHeader) (slot : PacketSlot) :
    shouldInsertHere type packet slot = true ↔ notAfter type slot.header packet := by
  cases type with
  | video =>
    simp only [shouldInsertHere, notAfter, PacketSlot.header]
    split_ifs with ahead same
    · simp [ahead]
    · simp [same]
    · simp [ahead, same]
  | audio => simp [shouldInsertHere, notAfter, PacketSlot.header]

section Lines

/-- Every queued line lies below the marker bit. -/
def LinesMasked (rb : PacketRingBuffer) : Prop :=
  ∀ packet ∈ rb.headers, packet.lineNum.toNat < 32768

theorem packetHeader_line (type : BufferType) (data : List UInt8) :
    (packetHeader type data).lineNum.toNat < 32768 := by
  cases type with
  | video =>
    simp only [packetHeader, UInt16.toNat_and]
    exact Nat.lt_of_le_of_lt Nat.and_le_right (by decide)
  | audio => simp [packetHeader]

variable {rb : PacketRingBuffer}

@[simp] theorem headers_length (rb : PacketRingBuffer) :
    rb.headers.length = rbPacketCount rb := by
  simp [PacketRingBuffer.headers]

theorem headers_getElem? (rb : PacketRingBuffer) (offset : Nat) (packet : PacketHeader) :
    rb.headers[offset]? = some packet ↔
      offset < rbPacketCount rb ∧ (rb.slots (rb.place offset)).header = packet := by
  simp [PacketRingBuffer.headers, PacketRingBuffer.queued, List.getElem?_eq_some_iff,
    PacketRingBuffer.packetAt]

/-- Where a push puts a packet: behind the last compared one it follows, or else at the end. -/
def InsertedAt (rb : PacketRingBuffer) (packet : PacketHeader) (place : Nat) : Prop :=
  (1 < place ∧ place ≤ rbPacketCount rb ∧ rbPacketCount rb < place + maxSearchDepth rb.type ∧
    (∃ queued, rb.headers[place - 1]? = some queued ∧ notAfter rb.type queued packet) ∧
    ∀ k queued, place ≤ k → rb.headers[k]? = some queued → ¬notAfter rb.type queued packet) ∨
  (place = rbPacketCount rb ∧
    ∀ k queued, 0 < k → rbPacketCount rb ≤ k + maxSearchDepth rb.type →
      rb.headers[k]? = some queued → ¬notAfter rb.type queued packet)

theorem insertPlace_insertedAt (rb : PacketRingBuffer) (packet : PacketHeader) :
    InsertedAt rb packet (rb.insertPlace packet) := by
  -- The comparison of the search is the key order on the header at each place.
  have compare : ∀ k, rb.belongsBehind packet k = true ↔
      notAfter rb.type (rb.slots (rb.place k)).header packet :=
    fun k => shouldInsertHere_iff _ _ _
  unfold PacketRingBuffer.insertPlace
  cases search : searchPlace (rb.belongsBehind packet) (maxSearchDepth rb.type)
    (rbPacketCount rb) with
  | some found =>
    left
    obtain ⟨behind, within, near, belongs, none⟩ := searchPlace_some search
    refine ⟨behind, within, near, ⟨_, (headers_getElem? _ _ _).mpr ⟨?_, rfl⟩, ?_⟩, ?_⟩
    · simp only [Option.getD_some]
      omega
    · exact (compare _).mp belongs
    · intro k queued above here after
      obtain ⟨inside, rfl⟩ := (headers_getElem? _ _ _).mp here
      have fails := none k above inside
      rw [(compare k).mpr after] at fails
      cases fails
  | none =>
    right
    refine ⟨rfl, fun k queued positive near here after => ?_⟩
    obtain ⟨inside, rfl⟩ := (headers_getElem? _ _ _).mp here
    have fails := searchPlace_none search positive inside near
    rw [(compare k).mpr after] at fails
    cases fails

theorem rbPush_headers (inv : RingInv rb) {data : List UInt8} {ts : UInt64}
    (room : rbPacketCount rb + 1 < rb.maxCapacity)
    (pushed : rbPush rb data ts = insertPacket (startTracking rb (packetHeader rb.type data))
      (packetHeader rb.type data) data ts) :
    ∃ place, InsertedAt rb (packetHeader rb.type data) place ∧
      (rbPush rb data ts).headers =
        rb.headers.take place ++ packetHeader rb.type data :: rb.headers.drop place := by
  -- Starting the tracking changes nothing that the search or the queue reads.
  obtain ⟨tracked, _, queue, count, cap, _, type⟩ :=
    startTracking_laws rb (packetHeader rb.type data)
  have headers : (startTracking rb (packetHeader rb.type data)).headers = rb.headers :=
    congrArg (List.map QueuedPacket.header) queue
  have inserted := insertPlace_insertedAt (startTracking rb (packetHeader rb.type data))
    (packetHeader rb.type data)
  have moved := insertPacket_queued (tracked inv) (by rw [count, cap]; exact room) data ts
  rw [type, queue] at moved
  have after := congrArg (List.map QueuedPacket.header) moved
  rw [List.map_append, List.map_cons, List.map_take, List.map_drop, ← pushed] at after
  simp only [PacketRingBuffer.incoming, type] at after
  simp only [InsertedAt, headers, count, type] at inserted
  exact ⟨_, inserted, after⟩

theorem rbPush_headers_cases (inv : RingInv rb) (data : List UInt8) (ts : UInt64) :
    (rbPush rb data ts = rb ∧
      (data.length < minHeaderSize rb.type ∨ rbPacketCount rb = rb.maxCapacity - 1)) ∨
    (minHeaderSize rb.type ≤ data.length ∧ rbPacketCount rb + 1 < rb.maxCapacity ∧
      ∃ place, InsertedAt rb (packetHeader rb.type data) place ∧
        (rbPush rb data ts).headers =
          rb.headers.take place ++ packetHeader rb.type data :: rb.headers.drop place) := by
  by_cases long : minHeaderSize rb.type ≤ data.length
  · rcases rbPush_cases inv long ts with ⟨full, same⟩ | ⟨room, pushed⟩
    · exact Or.inl ⟨same, Or.inr full⟩
    · exact Or.inr ⟨long, room, rbPush_headers inv room pushed⟩
  · left
    rw [rbPush, if_pos (by omega)]
    exact ⟨rfl, Or.inl (by omega)⟩

theorem rbPush_type (inv : RingInv rb) (data : List UInt8) (ts : UInt64) :
    (rbPush rb data ts).type = rb.type := by
  by_cases long : minHeaderSize rb.type ≤ data.length
  · rcases rbPush_cases inv long ts with ⟨_, same⟩ | ⟨_, pushed⟩
    · rw [same]
    · rw [pushed]
      exact (startTracking_laws rb _).2.2.2.2.2.2
  · rw [rbPush, if_pos (by omega)]

theorem rbPush_lines (inv : RingInv rb) (masked : LinesMasked rb) (data : List UInt8)
    (ts : UInt64) : LinesMasked (rbPush rb data ts) := by
  rcases rbPush_headers_cases inv data ts with ⟨same, _⟩ | ⟨_, _, place, _, headers⟩
  · rwa [same]
  · intro packet member
    rw [headers, List.mem_append, List.mem_cons] at member
    rcases member with older | rfl | newer
    · exact masked packet (List.mem_of_mem_take older)
    · exact packetHeader_line _ _
    · exact masked packet (List.mem_of_mem_drop newer)

end Lines

section Order

variable {rb : PacketRingBuffer}

theorem pairwise_insert {α : Type*} {rel : α → α → Prop} {list : List α} {entry : α}
    (sorted : list.Pairwise rel) (place : Nat) :
    (list.take place ++ entry :: list.drop place).Pairwise rel ↔
      (∀ older ∈ list.take place, rel older entry) ∧
        ∀ newer ∈ list.drop place, rel entry newer := by
  have split : (list.take place ++ list.drop place).Pairwise rel := by
    rwa [List.take_append_drop]
  rw [List.pairwise_append] at split
  obtain ⟨front, back, across⟩ := split
  rw [List.pairwise_append, List.pairwise_cons]
  constructor
  · rintro ⟨_, ⟨behind, _⟩, before⟩
    exact ⟨fun older member => before older member entry (by simp), behind⟩
  · rintro ⟨before, behind⟩
    refine ⟨front, ⟨behind, back⟩, fun older left newer right => ?_⟩
    rcases List.mem_cons.mp right with rfl | later
    · exact before older left
    · exact across older left newer later

theorem notAfter_refl (type : BufferType) (packet : PacketHeader) :
    notAfter type packet packet := by
  cases type <;> simp [notAfter]

theorem pairwise_getElem? {α : Type*} {rel : α → α → Prop} (refl : ∀ a, rel a a) {list : List α}
    (sorted : list.Pairwise rel) {i j : Nat} (ahead : i ≤ j) {a b : α}
    (first : list[i]? = some a) (second : list[j]? = some b) : rel a b := by
  obtain ⟨left, rfl⟩ := List.getElem?_eq_some_iff.mp first
  obtain ⟨right, rfl⟩ := List.getElem?_eq_some_iff.mp second
  rcases Nat.lt_or_eq_of_le ahead with before | rfl
  · exact List.pairwise_iff_getElem.mp sorted i j left right before
  · exact refl _

theorem insertedAt_sorted {packet : PacketHeader} {place : Nat}
    (inserted : InsertedAt rb packet place) (sorted : Ordered rb)
    (total : ∀ a ∈ rb.headers, ¬notAfter rb.type a packet → notAfter rb.type packet a)
    (trans : ∀ a ∈ rb.headers, ∀ b ∈ rb.headers, notAfter rb.type a b →
      notAfter rb.type b packet → notAfter rb.type a packet) :
    (rb.headers.take place ++ packet :: rb.headers.drop place).Pairwise (notAfter rb.type) ↔
      (∀ newest ∈ rb.headers.getLast?, notAfter rb.type newest packet) ∨
        ∃ queued ∈ rb.headers.drop (max 1 (rbPacketCount rb - maxSearchDepth rb.type)),
          notAfter rb.type queued packet := by
  have refl := notAfter_refl rb.type
  rw [pairwise_insert sorted]
  rcases inserted with ⟨behind, within, near, ⟨last, here, follows⟩, none⟩ | ⟨atEnd, none⟩
  · -- Everything up to the found packet precedes the new one, and everything after it follows.
    have reached : last ∈ rb.headers.drop (max 1 (rbPacketCount rb - maxSearchDepth rb.type)) := by
      refine List.mem_iff_getElem?.mpr
        ⟨place - 1 - max 1 (rbPacketCount rb - maxSearchDepth rb.type), ?_⟩
      rw [List.getElem?_drop, Nat.add_sub_cancel' (by omega), here]
    refine iff_of_true ⟨?_, ?_⟩ (Or.inr ⟨last, reached, follows⟩)
    · intro older member
      obtain ⟨i, inside, rfl⟩ := List.getElem_of_mem member
      rw [List.length_take] at inside
      have found : rb.headers[i]? = some (rb.headers.take place)[i] := by
        rw [List.getElem_take]
        exact List.getElem?_eq_getElem _
      exact trans _ (List.mem_of_mem_take member) last (List.mem_of_getElem? here)
        (pairwise_getElem? refl sorted (by omega) found here) follows
    · intro newer member
      obtain ⟨i, inside, rfl⟩ := List.getElem_of_mem member
      have found : rb.headers[place + i]? = some (rb.headers.drop place)[i] := by
        rw [List.getElem_drop]
        exact List.getElem?_eq_getElem _
      exact total _ (List.mem_of_mem_drop member) (none (place + i) _ (by omega) found)
  · -- At the end of the queue only the newest packet matters, since nothing compared precedes.
    have whole : rb.headers.take place = rb.headers := List.take_of_length_le (by simp [atEnd])
    have rest : rb.headers.drop place = [] := List.drop_of_length_le (by simp [atEnd])
    rw [whole, rest]
    constructor
    · rintro ⟨before, -⟩
      exact Or.inl fun newest member => before newest (List.mem_of_mem_getLast? member)
    · rintro (newest | ⟨queued, reached, follows⟩)
      · refine ⟨fun older member => ?_, by simp⟩
        obtain ⟨i, inside, rfl⟩ := List.getElem_of_mem member
        rw [List.getLast?_eq_getElem?] at newest
        have final : rb.headers[rb.headers.length - 1]? =
            some rb.headers[rb.headers.length - 1] := List.getElem?_eq_getElem _
        exact trans _ member _ (List.getElem_mem _)
          (pairwise_getElem? refl sorted (by omega) (List.getElem?_eq_getElem inside) final) (newest _ final)
      · obtain ⟨i, found⟩ := List.mem_iff_getElem?.mp reached
        rw [List.getElem?_drop] at found
        exact absurd follows (none _ queued (by omega) (by omega) found)

theorem rbPush_ordered (inv : RingInv rb) (masked : LinesMasked rb) (sorted : Ordered rb)
    (data : List UInt8) (ts : UInt64) (near : HalfRange (rbPush rb data ts)) :
    Ordered (rbPush rb data ts) ↔ FindsPlace rb data := by
  -- Above the common base the key order is the order of numbers, hence total and transitive.
  have lines := rbPush_lines inv masked data ts
  obtain ⟨base, close⟩ := near
  rw [Ordered, rbPush_type inv data ts]
  rw [KeysAbove, rbPush_type inv data ts] at close
  rcases rbPush_headers_cases inv data ts with
    ⟨same, dropped⟩ | ⟨long, room, place, inserted, headers⟩
  · rw [same]
    refine iff_of_true sorted ?_
    rcases dropped with short | full
    · exact Or.inl short
    · exact Or.inr (Or.inl full)
  · have order : ∀ a ∈ (rbPush rb data ts).headers, ∀ b ∈ (rbPush rb data ts).headers,
        (notAfter rb.type a b ↔ a.rank rb.type base ≤ b.rank rb.type base) :=
      fun a left b right => notAfter_iff_rank rb.type base (close a left) (close b right)
        (lines a left) (lines b right)
    have incoming : packetHeader rb.type data ∈ (rbPush rb data ts).headers := by
      rw [headers]
      simp
    have held : ∀ a ∈ rb.headers, a ∈ (rbPush rb data ts).headers := by
      intro a member
      rw [← List.take_append_drop place rb.headers, List.mem_append] at member
      rw [headers, List.mem_append, List.mem_cons]
      tauto
    have decides := insertedAt_sorted inserted sorted
      (fun a member after => by
        rw [order _ incoming a (held a member)]
        rw [order a (held a member) _ incoming] at after
        omega)
      (fun a left b right first second => by
        rw [order a (held a left) b (held b right)] at first
        rw [order b (held b right) _ incoming] at second
        rw [order a (held a left) _ incoming]
        omega)
    rw [headers, decides]
    constructor
    · intro fits
      exact Or.inr (Or.inr fits)
    · rintro (short | full | fits)
      · omega
      · omega
      · exact fits

theorem ordered_of_suffix {rb next : PacketRingBuffer} (sorted : Ordered rb)
    (type : next.type = rb.type) {dropped : List PacketHeader}
    (suffix : rb.headers = dropped ++ next.headers) : Ordered next := by
  rw [Ordered, suffix, List.pairwise_append] at sorted
  rw [Ordered, type]
  exact sorted.2.1

theorem linesMasked_of_suffix {rb next : PacketRingBuffer} (masked : LinesMasked rb)
    {dropped : List PacketHeader} (suffix : rb.headers = dropped ++ next.headers) :
    LinesMasked next := by
  intro packet member
  refine masked packet ?_
  rw [suffix]
  exact List.mem_append_right _ member

theorem rbPopReady_suffix (inv : RingInv rb) (nowUs : UInt64) :
    (rbPopReady rb nowUs).1.type = rb.type ∧
      ∃ dropped, rb.headers = dropped ++ (rbPopReady rb nowUs).1.headers := by
  rcases rbPopReady_cases inv nowUs with same | ⟨popped, _, packet, taken, _, type, queue, _⟩
  · rw [same]
    exact ⟨rfl, [], rfl⟩
  · rw [taken]
    exact ⟨type, [packet.header], by simp [PacketRingBuffer.headers, queue]⟩

theorem rbSetDelay_suffix (inv : RingInv rb) (delayMs : Nat) (nowUs : UInt64) :
    (rbSetDelay rb delayMs nowUs).type = rb.type ∧
      ∃ dropped, rb.headers = dropped ++ (rbSetDelay rb delayMs nowUs).headers :=
  (rbSetDelay_laws inv delayMs nowUs).2

theorem rbReset_suffix (rb : PacketRingBuffer) (activeSlots : Nat) :
    (rbReset rb activeSlots).type = rb.type ∧
      ∃ dropped, rb.headers = dropped ++ (rbReset rb activeSlots).headers :=
  ⟨rfl, rb.headers, by simp [PacketRingBuffer.headers]⟩

end Order

section Runs

/-- The queues of both rings are in non-decreasing key order. -/
def BufferOrdered (buf : C64NetworkBuffer) : Prop :=
  Ordered buf.video ∧ Ordered buf.audio

/-- The keys held together in either ring lie within less than half of the sixteen-bit range. -/
def BufferHalfRange (buf : C64NetworkBuffer) : Prop :=
  HalfRange buf.video ∧ HalfRange buf.audio

/-- Only a push asks for a place in a ring. -/
def BufferFindsPlace (buf : C64NetworkBuffer) : BufferCall → Prop
  | .pushVideo data _ => FindsPlace buf.video data
  | .pushAudio data _ => FindsPlace buf.audio data
  | _ => True

/-- Both rings queue masked lines only. -/
def BufferMasked (buf : C64NetworkBuffer) : Prop :=
  BufferInv buf ∧ LinesMasked buf.video ∧ LinesMasked buf.audio

theorem apply_masked (buf : C64NetworkBuffer) (call : BufferCall) (masked : BufferMasked buf) :
    BufferMasked (call.apply buf) := by
  obtain ⟨inv, video, audio⟩ := masked
  refine ⟨apply_inv buf call inv, ?_⟩
  cases call with
  | pushVideo data ts => exact ⟨rbPush_lines inv.1 video _ _, audio⟩
  | pushAudio data ts => exact ⟨video, rbPush_lines inv.2 audio _ _⟩
  | pop videoNow audioNow =>
    exact ⟨linesMasked_of_suffix video (rbPopReady_suffix inv.1 videoNow).2.choose_spec,
      linesMasked_of_suffix audio (rbPopReady_suffix inv.2 audioNow).2.choose_spec⟩
  | setDelay videoMs audioMs videoNow audioNow =>
    exact ⟨linesMasked_of_suffix video (rbSetDelay_suffix inv.1 videoMs videoNow).2.choose_spec,
      linesMasked_of_suffix audio (rbSetDelay_suffix inv.2 audioMs audioNow).2.choose_spec⟩
  | flush =>
    exact ⟨linesMasked_of_suffix video (rbReset_suffix _ _).2.choose_spec,
      linesMasked_of_suffix audio (rbReset_suffix _ _).2.choose_spec⟩

theorem apply_ordered (buf : C64NetworkBuffer) (call : BufferCall) (masked : BufferMasked buf)
    (near : BufferHalfRange (call.apply buf)) (sorted : BufferOrdered buf) :
    BufferOrdered (call.apply buf) ↔ BufferFindsPlace buf call := by
  -- A push touches one ring; every other call leaves a suffix of each queue.
  obtain ⟨inv, video, audio⟩ := masked
  cases call with
  | pushVideo data ts =>
    have decides := rbPush_ordered inv.1 video sorted.1 data _ near.1
    exact ⟨fun after => decides.mp after.1, fun finds => ⟨decides.mpr finds, sorted.2⟩⟩
  | pushAudio data ts =>
    have decides := rbPush_ordered inv.2 audio sorted.2 data _ near.2
    exact ⟨fun after => decides.mp after.2, fun finds => ⟨sorted.1, decides.mpr finds⟩⟩
  | pop videoNow audioNow =>
    obtain ⟨videoType, _, videoSuffix⟩ := rbPopReady_suffix inv.1 videoNow
    obtain ⟨audioType, _, audioSuffix⟩ := rbPopReady_suffix inv.2 audioNow
    exact iff_of_true ⟨ordered_of_suffix sorted.1 videoType videoSuffix,
      ordered_of_suffix sorted.2 audioType audioSuffix⟩ trivial
  | setDelay videoMs audioMs videoNow audioNow =>
    obtain ⟨videoType, _, videoSuffix⟩ := rbSetDelay_suffix inv.1 videoMs videoNow
    obtain ⟨audioType, _, audioSuffix⟩ := rbSetDelay_suffix inv.2 audioMs audioNow
    exact iff_of_true ⟨ordered_of_suffix sorted.1 videoType videoSuffix,
      ordered_of_suffix sorted.2 audioType audioSuffix⟩ trivial
  | flush =>
    obtain ⟨videoType, _, videoSuffix⟩ := rbReset_suffix buf.video buf.video.activeSlots
    obtain ⟨audioType, _, audioSuffix⟩ := rbReset_suffix buf.audio buf.audio.activeSlots
    exact iff_of_true ⟨ordered_of_suffix sorted.1 videoType videoSuffix,
      ordered_of_suffix sorted.2 audioType audioSuffix⟩ trivial

/-- The queues stay sorted along a run exactly when every push of it finds its place. -/
theorem networkBuffer_ordered_iff (rawVideo rawAudio : RawRing) (calls : List BufferCall)
    (near : Always BufferCall.apply BufferHalfRange
      (c64NetworkBufferCreate rawVideo rawAudio) calls) :
    Always BufferCall.apply BufferOrdered (c64NetworkBufferCreate rawVideo rawAudio) calls ↔
      EachStep BufferCall.apply BufferFindsPlace
        (c64NetworkBufferCreate rawVideo rawAudio) calls := by
  -- The run rule needs the invariant of both rings beside the range of the keys.
  have masked : Always BufferCall.apply BufferMasked
      (c64NetworkBufferCreate rawVideo rawAudio) calls := by
    refine always_of_step apply_masked ⟨⟨rbCreate_inv _ _, rbCreate_inv _ _⟩, ?_, ?_⟩ calls
    · intro packet member
      cases member
    · intro packet member
      cases member
  refine always_iff_eachStep (fun buf => BufferMasked buf ∧ BufferHalfRange buf)
    (fun buf call before after sorted => ?_) (masked.and near) ⟨List.Pairwise.nil, List.Pairwise.nil⟩
  exact apply_ordered buf call before.1 after.2 sorted

/-- Memory that holds nothing but zeros. -/
def zeroRawRing : RawRing :=
  { slots := fun _ => ⟨0, 0, 0, 0, 0, 0, false⟩
    payload := fun _ => []
    popScratch := ⟨[], 0, 0, 0, 0, 0, false⟩ }

/-- A run that pushes audio packets with small sequence numbers. -/
def audioPushes (numbers : List UInt8) : List BufferCall :=
  numbers.map fun number => .pushAudio [number, 0] 0

instance : DecidablePred Ordered := fun rb =>
  inferInstanceAs (Decidable (rb.headers.Pairwise (notAfter rb.type)))

instance : DecidablePred BufferOrdered := fun buf =>
  inferInstanceAs (Decidable (Ordered buf.video ∧ Ordered buf.audio))

instance (rb : PacketRingBuffer) (data : List UInt8) : Decidable (FindsPlace rb data) :=
  inferInstanceAs (Decidable (_ ∨ _ ∨ _ ∨ _))

instance : ∀ (buf : C64NetworkBuffer) (call : BufferCall), Decidable (BufferFindsPlace buf call)
  | buf, .pushVideo data _ => inferInstanceAs (Decidable (FindsPlace buf.video data))
  | buf, .pushAudio data _ => inferInstanceAs (Decidable (FindsPlace buf.audio data))
  | _, .pop _ _ => inferInstanceAs (Decidable True)
  | _, .setDelay _ _ _ _ => inferInstanceAs (Decidable True)
  | _, .flush => inferInstanceAs (Decidable True)

instance (base : UInt16) : DecidablePred (KeysAbove base) := fun rb =>
  inferInstanceAs (Decidable (∀ packet ∈ rb.headers, _))

theorem always_halfRange {buf : C64NetworkBuffer} {calls : List BufferCall}
    (above : Always BufferCall.apply
      (fun buf => KeysAbove 0 buf.video ∧ KeysAbove 0 buf.audio) buf calls) :
    Always BufferCall.apply BufferHalfRange buf calls :=
  above.imp fun _ keys => ⟨⟨0, keys.1⟩, ⟨0, keys.2⟩⟩

/-- Four packets of which the last two arrive in the wrong order leave the ring sorted. -/
theorem networkBuffer_ordered_reordering :
    Always BufferCall.apply BufferOrdered
      (c64NetworkBufferCreate zeroRawRing zeroRawRing) (audioPushes [1, 2, 4, 3]) :=
  (networkBuffer_ordered_iff _ _ _ (always_halfRange (by decide))).mpr (by decide)

/-- A packet that is older than everything queued ends up behind the newer packet. -/
theorem networkBuffer_unordered :
    Always BufferCall.apply BufferHalfRange
        (c64NetworkBufferCreate zeroRawRing zeroRawRing) (audioPushes [5, 3]) ∧
      ¬Always BufferCall.apply BufferOrdered
        (c64NetworkBufferCreate zeroRawRing zeroRawRing) (audioPushes [5, 3]) :=
  ⟨always_halfRange (by decide), by decide⟩

end Runs

end C64Stream
