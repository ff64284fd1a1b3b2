import C64Stream.Input.Keyboard

/-! Typed bytes reach the device in order and once, and leave the queue after an attempt. -/

namespace C64Stream

section Order

def Keyboard.acted (keyboard : Keyboard) : List KeyEntry := keyboard.delivered.map (·.entry)

/-- The number of entries that have left the queue. -/
def Keyboard.taken (keyboard : Keyboard) : Nat :=
  keyboard.accepted.length - keyboard.queue.length

/-- The batch of the worker lies somewhere in front of the queue's end, behind what was acted on. -/
def BatchAt (keyboard : Keyboard) (start : Nat) : Prop :=
  start ≤ keyboard.taken ∧ start + keyboard.pendingConsumed ≤ keyboard.accepted.length

/-- The entries that the batch stands for. -/
def Keyboard.batchFrom (keyboard : Keyboard) (start : Nat) : List KeyEntry :=
  (keyboard.accepted.drop start).take keyboard.pendingConsumed

/-- Where the batch lies, as far as the worker has got with it. -/
def BatchInOrder (keyboard : Keyboard) : Prop :=
  match keyboard.pc with
  | .idle => keyboard.acted.Sublist (keyboard.accepted.take keyboard.taken)
  | .choose | .sendInput _ =>
    ∃ start, BatchAt keyboard start ∧ keyboard.acted.Sublist (keyboard.accepted.take start) ∧
      keyboard.pending = keyboard.batchFrom start
  | .waitBufferEmpty | .writeStopFlag | .writeBuffer | .writeLength =>
    ∃ start, BatchAt keyboard start ∧ keyboard.acted.Sublist (keyboard.accepted.take start) ∧
      keyboard.pending.Sublist (keyboard.batchFrom start)
  | .verify | .discard =>
    ∃ start, BatchAt keyboard start ∧
      keyboard.acted.Sublist (keyboard.accepted.take (start + keyboard.pendingConsumed))

/-- The queue ends the accepted entries, and the batch lies behind what was acted on. -/
structure InOrder (keyboard : Keyboard) : Prop where
  suffix : keyboard.queue <:+ keyboard.accepted
  batch : BatchInOrder keyboard

variable {keyboard : Keyboard}

theorem sublist_take_append {α : Type*} {entries accepted more : List α} {count count' : Nat}
    (sublist : entries.Sublist (accepted.take count)) (longer : count ≤ count') :
    entries.Sublist ((accepted ++ more).take count') := by
  refine sublist.trans ?_
  rw [List.take_append]
  exact ((List.take_prefix_take_left longer).sublist).trans (List.sublist_append_left _ _)

theorem InOrder.grows (order : InOrder keyboard) {more queue : List KeyEntry}
    (suffix : queue <:+ keyboard.accepted ++ more)
    (ahead : keyboard.taken ≤ (keyboard.accepted ++ more).length - queue.length) :
    InOrder { keyboard with accepted := keyboard.accepted ++ more, queue } := by
  refine ⟨suffix, ?_⟩
  have batch := order.batch
  have place : ∀ {start}, BatchAt keyboard start →
      BatchAt { keyboard with accepted := keyboard.accepted ++ more, queue } start := by
    intro start place
    refine ⟨place.1.trans ahead, place.2.trans ?_⟩
    rw [List.length_append]
    exact Nat.le_add_right _ _
  -- Entries behind the batch do not change what it stands for.
  have same : ∀ {start}, BatchAt keyboard start →
      ((keyboard.accepted ++ more).drop start).take keyboard.pendingConsumed =
        keyboard.batchFrom start := by
    intro start place
    have := place.2
    rw [List.drop_append_of_le_length (by omega), List.take_append_of_le_length (by
      rw [List.length_drop]; omega)]
    rfl
  unfold BatchInOrder at batch ⊢
  cases pc : keyboard.pc <;> rw [pc] at batch <;> dsimp only at batch ⊢
  case idle => exact sublist_take_append batch ahead
  case choose | sendInput =>
    obtain ⟨start, at_, acted, pending⟩ := batch
    exact ⟨start, place at_, sublist_take_append acted (Nat.le_refl _),
      pending.trans (same at_).symm⟩
  case verify | discard =>
    obtain ⟨start, at_, acted⟩ := batch
    exact ⟨start, place at_, sublist_take_append acted (Nat.le_refl _)⟩
  all_goals
    obtain ⟨start, at_, acted, pending⟩ := batch
    refine ⟨start, place at_, sublist_take_append acted (Nat.le_refl _), ?_⟩
    unfold Keyboard.batchFrom
    rw [same at_]
    exact pending

theorem entriesFrom_length (serial : Nat) (transition : KeyTransition) (bytes : List UInt8) :
    (entriesFrom serial transition bytes).length = bytes.length := by
  induction bytes generalizing serial with
  | nil => rfl
  | cons byte rest ih => rw [entriesFrom, List.length_cons, List.length_cons, ih]

theorem queuePushMany_inOrder (order : InOrder keyboard) (bytes : List UInt8)
    (transition : KeyTransition) : InOrder (queuePushMany keyboard bytes transition).1 := by
  unfold queuePushMany
  split
  · exact order
  · have suffix := order.suffix
    refine order.grows ?_ ?_
    · exact List.suffix_append_self_iff.mpr suffix
    · unfold Keyboard.taken
      simp only [List.length_append]
      omega

theorem queueFlush_inOrder (order : InOrder keyboard) : InOrder (queueFlush keyboard) := by
  have grown := @InOrder.grows keyboard order [] [] (List.nil_suffix) (by
    unfold Keyboard.taken
    simp)
  unfold queueFlush
  simpa only [List.append_nil] using grown

theorem InOrder.queue_eq (order : InOrder keyboard) :
    keyboard.queue = keyboard.accepted.drop keyboard.taken :=
  List.suffix_iff_eq_drop.mp order.suffix

theorem InOrder.peek (order : InOrder keyboard) (idle : keyboard.pc = .idle) :
    InOrder { keyboard with
      pending := queuePeekBatch keyboard c64RestInputBatchSize
      pendingConsumed := (queuePeekBatch keyboard c64RestInputBatchSize).length
      pc := .choose } := by
  have acted := order.batch
  simp only [BatchInOrder, idle] at acted
  refine ⟨order.suffix, keyboard.taken, ⟨Nat.le_refl _, ?_⟩, acted, ?_⟩
  · have := order.suffix.length_le
    unfold queuePeekBatch Keyboard.taken
    dsimp only
    rw [List.length_take]
    omega
  · unfold Keyboard.batchFrom queuePeekBatch
    dsimp only
    rw [← order.queue_eq, List.length_take, ← List.take_eq_take_min]

/-- A batch that lies behind what was acted on. -/
def WholeBatchAt (keyboard : Keyboard) (start : Nat) : Prop :=
  BatchAt keyboard start ∧ keyboard.acted.Sublist (keyboard.accepted.take start) ∧
    keyboard.pending = keyboard.batchFrom start

theorem InOrder.legacy (suffix : keyboard.queue <:+ keyboard.accepted) {start : Nat}
    (whole : WholeBatchAt keyboard start) : InOrder (legacyBatch keyboard) := by
  obtain ⟨place, acted, pending⟩ := whole
  have slots : keyboard.pending.take c64KeyboardBufferSize =
      (keyboard.accepted.drop start).take
        (keyboard.pending.take c64KeyboardBufferSize).length := by
    rw [pending, Keyboard.batchFrom, List.take_take, List.length_take, ← List.take_eq_take_min]
  have fewer : (keyboard.pending.take c64KeyboardBufferSize).length ≤ keyboard.pendingConsumed := by
    rw [pending, Keyboard.batchFrom, List.length_take, List.length_take]
    omega
  have within : start + (keyboard.pending.take c64KeyboardBufferSize).length ≤
      keyboard.accepted.length := by
    have := place.2
    omega
  refine ⟨suffix, ?_⟩
  by_cases none : (keyboard.pending.take c64KeyboardBufferSize).filter
      (·.transition ≠ .release) = []
  · simp only [BatchInOrder, legacyBatch, if_pos none]
    refine ⟨start, ⟨place.1, within⟩, acted.trans ?_⟩
    exact (List.take_prefix_take_left (Nat.le_add_right _ _)).sublist
  · simp only [BatchInOrder, legacyBatch, if_neg none]
    refine ⟨start, ⟨place.1, within⟩, acted, ?_⟩
    refine List.filter_sublist.trans ?_
    unfold Keyboard.batchFrom
    dsimp only
    rw [← slots]

theorem InOrder.givesUp (suffix : keyboard.queue <:+ keyboard.accepted) {start : Nat}
    (place : BatchAt keyboard start)
    (acted : keyboard.acted.Sublist (keyboard.accepted.take start)) :
    InOrder { keyboard with pc := .discard } :=
  ⟨suffix, start, place,
    acted.trans (List.take_prefix_take_left (Nat.le_add_right _ _)).sublist⟩

theorem acted_delivers {start : Nat} {entries : List KeyEntry} {byInput : Bool}
    (acted : keyboard.acted.Sublist (keyboard.accepted.take start))
    (pending : entries.Sublist (keyboard.batchFrom start)) :
    ((keyboard.delivered ++ entries.map fun entry => (⟨entry, byInput⟩ : Delivery)).map
      (·.entry)).Sublist (keyboard.accepted.take (start + keyboard.pendingConsumed)) := by
  have same : entries.map ((fun delivery : Delivery => delivery.entry) ∘
      fun entry => ⟨entry, byInput⟩) = entries := List.map_id entries
  rw [List.map_append, List.map_map, same, List.take_add]
  exact acted.append pending

theorem InOrder.discards (order : InOrder keyboard) (here : keyboard.pc = .discard) :
    InOrder { queueDiscardMany keyboard keyboard.pendingConsumed with
      pending := []
      pendingConsumed := 0
      retryCount := 0
      pc := .idle } := by
  have batch := order.batch
  simp only [BatchInOrder, here] at batch
  obtain ⟨start, place, acted⟩ := batch
  have length := order.suffix.length_le
  refine ⟨(List.drop_suffix _ _).trans order.suffix, ?_⟩
  refine acted.trans (List.take_prefix_take_left ?_).sublist
  -- At least as many entries have left the queue as the batch reaches.
  obtain ⟨before, within⟩ := place
  unfold queueDiscardMany
  unfold Keyboard.taken at before ⊢
  dsimp only
  rw [List.length_drop]
  omega

theorem chooseTransport_cases (keyboard : Keyboard) (nowNs : UInt64) :
    ∃ until_ generation, (until_ = 0 ∨ until_ = keyboard.restDemotedUntilNs) ∧
      ((keyboard.transport ≠ .legacy ∧ (buildRestInputBatch keyboard.pending).isSome = true ∧
        chooseTransport keyboard nowNs = { keyboard with
          restDemotedUntilNs := until_
          workerGeneration := generation
          pc := .sendInput keyboard.transport }) ∨
      (keyboard.transport = .rest ∧ (buildRestInputBatch keyboard.pending).isSome = false ∧
        chooseTransport keyboard nowNs = { keyboard with
          restDemotedUntilNs := until_
          workerGeneration := generation
          refused := keyboard.refused ++ [⟨keyboard.transport, keyboard.pending⟩]
          pc := .discard }) ∨
      ((keyboard.transport ≠ .rest ∧ (keyboard.transport = .legacy ∨
          (buildRestInputBatch keyboard.pending).isSome = false ∨ nowNs < until_)) ∧
        chooseTransport keyboard nowNs = legacyBatch { keyboard with
          restDemotedUntilNs := until_
          workerGeneration := generation })) := by
  have choice : (if keyboard.transportGeneration ≠ keyboard.workerGeneration then 0
      else keyboard.restDemotedUntilNs) = 0 ∨
      (if keyboard.transportGeneration ≠ keyboard.workerGeneration then 0
      else keyboard.restDemotedUntilNs) = keyboard.restDemotedUntilNs := by
    split
    · exact .inl rfl
    · exact .inr rfl
  unfold chooseTransport
  dsimp only
  generalize (if keyboard.transportGeneration ≠ keyboard.workerGeneration then 0
    else keyboard.restDemotedUntilNs) = until_ at choice
  refine ⟨until_, keyboard.transportGeneration, choice, ?_⟩
  split
  · rename_i tries
    simp only [decide_eq_true_eq] at tries
    exact .inl ⟨tries.1.1, tries.2, rfl⟩
  · rename_i fails
    simp only [decide_eq_true_eq] at fails
    split
    · rename_i forced
      refine .inr (.inl ⟨forced, ?_, rfl⟩)
      simpa [forced] using fails
    · rename_i unforced
      refine .inr (.inr ⟨⟨unforced, ?_⟩, rfl⟩)
      by_cases legacy : keyboard.transport = .legacy
      · exact .inl legacy
      · refine .inr ?_
        cases built : (buildRestInputBatch keyboard.pending).isSome with
        | false => exact .inl rfl
        | true =>
          refine .inr (UInt64.not_le.mp fun due => fails ⟨⟨legacy, .inr due⟩, built⟩)

theorem retryAt_cases (keyboard : Keyboard) (pc : InjectionPc) :
    ∃ retryCount, retryAt keyboard pc = { keyboard with retryCount, pc := .discard } ∨
      retryAt keyboard pc = { keyboard with retryCount, pc } := by
  unfold retryAt
  dsimp only
  refine ⟨keyboard.retryCount + 1, ?_⟩
  split
  · exact .inl rfl
  · exact .inr rfl

theorem InOrder.retries (suffix : keyboard.queue <:+ keyboard.accepted) {pc : InjectionPc}
    (again : pc = .waitBufferEmpty ∨ pc = .writeStopFlag) {start : Nat}
    (place : BatchAt keyboard start)
    (acted : keyboard.acted.Sublist (keyboard.accepted.take start))
    (pending : keyboard.pending.Sublist (keyboard.batchFrom start)) :
    InOrder (retryAt keyboard pc) := by
  obtain ⟨retryCount, givenUp | retried⟩ := retryAt_cases keyboard pc
  · rw [givenUp]
    exact ⟨suffix, (InOrder.givesUp suffix place acted).batch⟩
  · rw [retried]
    refine ⟨suffix, ?_⟩
    rcases again with rfl | rfl
    · exact ⟨start, place, acted, pending⟩
    · exact ⟨start, place, acted, pending⟩

theorem injectionWorker_inOrder (order : InOrder keyboard) (answer : InjectionAnswer) :
    InOrder (injectionWorker keyboard answer) := by
  have suffix := order.suffix
  have batch := order.batch
  unfold injectionWorker
  unfold BatchInOrder at batch
  cases pc : keyboard.pc <;> rw [pc] at batch <;> dsimp only at batch ⊢
  case idle =>
    split
    · exact order
    · exact order.peek pc
  case choose =>
    obtain ⟨start, whole⟩ := batch
    obtain ⟨until_, generation, _, ⟨_, _, sent⟩ | ⟨_, _, refused⟩ | ⟨_, legacy⟩⟩ :=
      chooseTransport_cases keyboard answer.nowNs
    · rw [sent]
      exact ⟨suffix, start, whole⟩
    · rw [refused]
      exact ⟨suffix, (InOrder.givesUp suffix whole.1 whole.2.1).batch⟩
    · rw [legacy]
      exact InOrder.legacy suffix whole
  case sendInput transport =>
    obtain ⟨start, place, acted, pending⟩ := batch
    split
    · exact ⟨suffix, start, place, acted_delivers acted (by rw [pending])⟩
    · split
      · exact ⟨suffix, (InOrder.givesUp suffix place acted).batch⟩
      · exact InOrder.legacy suffix ⟨place, acted, pending⟩
  case waitBufferEmpty =>
    obtain ⟨start, place, acted, pending⟩ := batch
    split
    · exact ⟨suffix, start, place, acted, pending⟩
    · exact @InOrder.retries { keyboard with
        attempted := keyboard.attempted ++ keyboard.pending
        pc := .waitBufferEmpty } suffix _ (.inl rfl) start place acted pending
  case writeStopFlag | writeBuffer =>
    obtain ⟨start, place, acted, pending⟩ := batch
    split
    · exact ⟨suffix, start, place, acted, pending⟩
    · exact InOrder.retries suffix (.inr rfl) place acted pending
  case writeLength =>
    obtain ⟨start, place, acted, pending⟩ := batch
    split
    · exact ⟨suffix, start, place, acted_delivers acted pending⟩
    · exact InOrder.retries suffix (.inr rfl) place acted pending
  case verify =>
    split
    · exact ⟨suffix, batch⟩
    · obtain ⟨retryCount, givenUp | retried⟩ := retryAt_cases keyboard .verify
      · rw [givenUp]
        exact ⟨suffix, batch⟩
      · rw [retried]
        exact ⟨suffix, batch⟩
  case discard => exact order.discards pc

theorem c64KeyboardQueueOutputEx_cases (keyboard : Keyboard) (output : C64Output)
    (transition : KeyTransition) :
    (c64KeyboardQueueOutputEx keyboard output transition).1 = keyboard ∨
      ∃ bytes actual holds, outputBytes output = some bytes ∧
        (actual = .tap ∨ (actual = transition ∧
          (c64KeyboardOutputIsHoldable output).isSome = true)) ∧
        holds = (if actual = .tap then [] else bytes.map fun byte => (byte, actual)) ∧
        (c64KeyboardQueueOutputEx keyboard output transition).1 =
          { (queuePushMany keyboard bytes actual).1 with holds := keyboard.holds ++ holds } := by
  unfold c64KeyboardQueueOutputEx
  dsimp only
  generalize chosen : (if transition ≠ .tap ∧ c64KeyboardOutputIsHoldable output = none then
    KeyTransition.tap else transition) = actual
  have kept : ∀ bytes, (queuePushMany keyboard bytes actual).1.holds = keyboard.holds := by
    intro bytes
    unfold queuePushMany
    split <;> rfl
  cases known : outputBytes output with
  | none => exact .inl rfl
  | some bytes =>
    refine .inr ⟨bytes, actual, _, rfl, ?_, rfl, ?_⟩
    · by_cases coerced : transition ≠ .tap ∧ c64KeyboardOutputIsHoldable output = none
      · rw [if_pos coerced] at chosen
        exact .inl chosen.symm
      · rw [if_neg coerced] at chosen
        subst chosen
        by_cases tapped : transition = .tap
        · exact .inl tapped
        · refine .inr ⟨rfl, ?_⟩
          rw [Option.isSome_iff_ne_none]
          exact fun absent => coerced ⟨tapped, absent⟩
    · by_cases tapped : actual = .tap
      · simp only [if_pos tapped, List.append_nil, ← kept bytes]
      · simp only [if_neg tapped, ← kept bytes]

theorem keyboardStep_inOrder (order : InOrder keyboard) (op : KeyboardOp) :
    InOrder (keyboardStep keyboard op) := by
  cases op with
  | pushMany bytes transition => exact queuePushMany_inOrder order bytes transition
  | queueOutput output transition =>
    unfold keyboardStep
    dsimp only
    obtain same | ⟨bytes, actual, holds, _, _, _, queued⟩ :=
      c64KeyboardQueueOutputEx_cases keyboard output transition
    · rw [same]
      exact order
    · rw [queued]
      have pushed := queuePushMany_inOrder order bytes actual
      exact ⟨pushed.suffix, pushed.batch⟩
  | setCapture enabled =>
    unfold keyboardStep c64KeyboardSetCapture
    dsimp only
    split
    · exact ⟨order.suffix, order.batch⟩
    · have flushed := queueFlush_inOrder order
      exact ⟨flushed.suffix, flushed.batch⟩
  | setTransport transport => exact ⟨order.suffix, order.batch⟩
  | resetNegotiation => exact ⟨order.suffix, order.batch⟩
  | worker answer => exact injectionWorker_inOrder order answer

theorem InOrder.acted_sublist (order : InOrder keyboard) :
    keyboard.acted.Sublist keyboard.accepted := by
  have batch := order.batch
  unfold BatchInOrder at batch
  cases pc : keyboard.pc <;> rw [pc] at batch <;> dsimp only at batch
  case idle => exact batch.trans (List.take_sublist _ _)
  case choose | sendInput | waitBufferEmpty | writeStopFlag | writeBuffer | writeLength =>
    obtain ⟨_, _, acted, _⟩ := batch
    exact acted.trans (List.take_sublist _ _)
  case verify | discard =>
    obtain ⟨_, _, acted⟩ := batch
    exact acted.trans (List.take_sublist _ _)

theorem keyboard_inOrder (ops : List KeyboardOp) :
    Always keyboardStep InOrder initialKeyboard ops :=
  @always_of_step _ _ _ InOrder (fun _ op order => keyboardStep_inOrder order op) initialKeyboard
    ⟨List.suffix_refl _, List.Sublist.slnil⟩ ops

end Order

section Attempts

variable {keyboard : Keyboard}

/-- A request was made for an entry, or its batch was refused. -/
def Keyboard.Tried (keyboard : Keyboard) (entry : KeyEntry) : Prop :=
  entry ∈ keyboard.attempted ∨ ∃ refusal ∈ keyboard.refused, entry ∈ refusal.batch

/-- The worker has the front of the queue in hand, as far as it has got with it. -/
def FrontInHand (keyboard : Keyboard) : Prop :=
  match keyboard.pc with
  | .idle => True
  | .choose | .sendInput _ =>
    keyboard.pendingConsumed ≤ keyboard.queue.length ∧
      keyboard.pending = keyboard.queue.take keyboard.pendingConsumed ∧
      keyboard.pending ≠ [] ∧ keyboard.pending.length ≤ c64RestInputBatchSize
  | .waitBufferEmpty =>
    keyboard.pendingConsumed ≤ keyboard.queue.length ∧
      ∀ entry ∈ keyboard.queue.take keyboard.pendingConsumed, entry.transition ≠ .release →
        entry ∈ keyboard.pending
  | .writeStopFlag | .writeBuffer | .writeLength | .verify | .discard =>
    keyboard.pendingConsumed ≤ keyboard.queue.length ∧
      ∀ entry ∈ keyboard.queue.take keyboard.pendingConsumed, entry.transition ≠ .release →
        keyboard.Tried entry

/-- What left the queue was tried, and what was refused holds a byte without a key. -/
structure AttemptedFirst (keyboard : Keyboard) : Prop where
  tried : ∀ entry ∈ keyboard.discarded, entry.transition ≠ .release → keyboard.Tried entry
  refusals : ∀ refusal ∈ keyboard.refused, refusal.transport = .rest ∧
    ∃ entry ∈ refusal.batch, petsciiToMatrix entry.byte = none

/-- The invariant behind it, as long as the front of the queue stays where it is. -/
structure FrontKept (keyboard : Keyboard) : Prop extends AttemptedFirst keyboard where
  front : FrontInHand keyboard

theorem FrontKept.pushes (kept : FrontKept keyboard) (more accepted : List KeyEntry) :
    FrontKept { keyboard with queue := keyboard.queue ++ more, accepted } := by
  have front := kept.front
  refine ⟨⟨kept.tried, kept.refusals⟩, ?_⟩
  have longer : keyboard.pendingConsumed ≤ keyboard.queue.length →
      keyboard.pendingConsumed ≤ (keyboard.queue ++ more).length ∧
        (keyboard.queue ++ more).take keyboard.pendingConsumed =
          keyboard.queue.take keyboard.pendingConsumed := by
    intro within
    refine ⟨within.trans ?_, List.take_append_of_le_length within⟩
    rw [List.length_append]
    exact Nat.le_add_right _ _
  unfold FrontInHand at front ⊢
  cases pc : keyboard.pc <;> rw [pc] at front <;> dsimp only at front ⊢
  case choose | sendInput =>
    obtain ⟨longer, same⟩ := longer front.1
    rw [same]
    exact ⟨longer, front.2⟩
  case waitBufferEmpty | writeStopFlag | writeBuffer | writeLength | verify | discard =>
    obtain ⟨longer, same⟩ := longer front.1
    rw [same]
    exact ⟨longer, front.2⟩

theorem FrontKept.peek (kept : FrontKept keyboard)
    (nonempty : queuePeekBatch keyboard c64RestInputBatchSize ≠ []) :
    FrontKept { keyboard with
      pending := queuePeekBatch keyboard c64RestInputBatchSize
      pendingConsumed := (queuePeekBatch keyboard c64RestInputBatchSize).length
      pc := .choose } := by
  refine ⟨⟨kept.tried, kept.refusals⟩, ?_, ?_, nonempty, ?_⟩
  · unfold queuePeekBatch
    exact List.length_take_le' _ _
  · unfold queuePeekBatch
    dsimp only
    rw [List.length_take, ← List.take_eq_take_min]
  · unfold queuePeekBatch
    exact List.length_take_le _ _

theorem FrontKept.legacy (attempted : AttemptedFirst keyboard)
    (pending : keyboard.pending = keyboard.queue.take keyboard.pendingConsumed) :
    FrontKept (legacyBatch keyboard) := by
  have slots : keyboard.queue.take (keyboard.pending.take c64KeyboardBufferSize).length =
      keyboard.pending.take c64KeyboardBufferSize := by
    rw [pending, List.take_take, List.length_take, ← List.take_eq_take_min]
  have fewer : (keyboard.pending.take c64KeyboardBufferSize).length ≤ keyboard.queue.length := by
    rw [pending, List.take_take, List.length_take]
    omega
  refine ⟨⟨attempted.tried, attempted.refusals⟩, ?_⟩
  by_cases none : (keyboard.pending.take c64KeyboardBufferSize).filter
      (·.transition ≠ .release) = []
  · simp only [FrontInHand, legacyBatch, if_pos none]
    refine ⟨fewer, fun entry member held => ?_⟩
    rw [slots] at member
    have := List.filter_eq_nil_iff.mp none entry member
    exact absurd held (by simpa using this)
  · simp only [FrontInHand, legacyBatch, if_neg none]
    refine ⟨fewer, fun entry member held => ?_⟩
    rw [slots] at member
    exact List.mem_filter.mpr ⟨member, by simpa using held⟩

theorem FrontKept.choose (kept : FrontKept keyboard) (here : keyboard.pc = .choose)
    (nowNs : UInt64) : FrontKept (chooseTransport keyboard nowNs) := by
  have front := kept.front
  simp only [FrontInHand, here] at front
  obtain ⟨within, pending, nonempty, size⟩ := front
  obtain ⟨until_, generation, _, ⟨_, _, sent⟩ | ⟨forced, unbuilt, refused⟩ | ⟨_, legacy⟩⟩ :=
    chooseTransport_cases keyboard nowNs
  · rw [sent]
    exact ⟨⟨kept.tried, kept.refusals⟩, within, pending, nonempty, size⟩
  · rw [refused]
    refine ⟨⟨fun entry member held => ?_, fun refusal member => ?_⟩, within,
      fun entry member _ => ?_⟩
    · exact (kept.tried entry member held).imp id fun ⟨refusal, before, inside⟩ =>
        ⟨refusal, List.mem_append_left _ before, inside⟩
    · rcases List.mem_append.mp member with before | now
      · exact kept.refusals refusal before
      · rw [List.mem_singleton.mp now]
        refine ⟨forced, ?_⟩
        have unmapped := mt (buildRestInputBatch_isSome nonempty size).mpr (by rw [unbuilt]; nofun)
        simpa [Option.isSome_iff_ne_none] using unmapped
    · refine .inr ⟨_, List.mem_append_right _ List.mem_cons_self, ?_⟩
      rw [pending]
      exact member
  · rw [legacy]
    exact FrontKept.legacy ⟨kept.tried, kept.refusals⟩ pending

theorem AttemptedFirst.requests (attempted : AttemptedFirst keyboard) (more : List KeyEntry) :
    AttemptedFirst { keyboard with attempted := keyboard.attempted ++ more } :=
  ⟨fun entry member held => (attempted.tried entry member held).imp
    (List.mem_append_left more) id, attempted.refusals⟩

theorem injectionWorker_frontKept (kept : FrontKept keyboard) (answer : InjectionAnswer) :
    FrontKept (injectionWorker keyboard answer) := by
  have front := kept.front
  have first := kept.toAttemptedFirst
  have requested := first.requests keyboard.pending
  have choose := kept.choose
  unfold injectionWorker
  unfold FrontInHand at front
  cases pc : keyboard.pc <;> rw [pc] at front <;> dsimp only at front ⊢
  case idle =>
    split
    · exact kept
    · rename_i nonempty
      exact kept.peek nonempty
  case choose => exact choose pc answer.nowNs
  case sendInput transport =>
    obtain ⟨within, pending, _, _⟩ := front
    have tried : ∀ entry ∈ keyboard.queue.take keyboard.pendingConsumed,
        entry.transition ≠ .release →
          entry ∈ keyboard.attempted ++ keyboard.pending ∨
            ∃ refusal ∈ keyboard.refused, entry ∈ refusal.batch := by
      intro entry member _
      rw [← pending] at member
      exact .inl (List.mem_append_right _ member)
    split
    · exact ⟨⟨requested.tried, requested.refusals⟩, within, tried⟩
    · split
      · exact ⟨⟨requested.tried, requested.refusals⟩, within, tried⟩
      · exact FrontKept.legacy ⟨requested.tried, requested.refusals⟩ pending
  case waitBufferEmpty =>
    obtain ⟨within, pending⟩ := front
    have tried : ∀ entry ∈ keyboard.queue.take keyboard.pendingConsumed,
        entry.transition ≠ .release →
          entry ∈ keyboard.attempted ++ keyboard.pending ∨
            ∃ refusal ∈ keyboard.refused, entry ∈ refusal.batch := fun entry member held =>
      .inl (List.mem_append_right _ (pending entry member held))
    split
    · exact ⟨⟨requested.tried, requested.refusals⟩, within, tried⟩
    · obtain ⟨retryCount, givenUp | retried⟩ := retryAt_cases { keyboard with
        attempted := keyboard.attempted ++ keyboard.pending
        pc := .waitBufferEmpty } .waitBufferEmpty
      · rw [givenUp]
        exact ⟨⟨requested.tried, requested.refusals⟩, within, tried⟩
      · rw [retried]
        exact ⟨⟨requested.tried, requested.refusals⟩, within, pending⟩
  case writeStopFlag | writeBuffer | writeLength | verify =>
    split
    · exact ⟨⟨first.tried, first.refusals⟩, front⟩
    · obtain ⟨retryCount, givenUp | retried⟩ := retryAt_cases keyboard _
      · rw [givenUp]
        exact ⟨⟨first.tried, first.refusals⟩, front⟩
      · rw [retried]
        exact ⟨⟨first.tried, first.refusals⟩, front⟩
  case discard =>
    obtain ⟨within, tried⟩ := front
    refine ⟨⟨fun entry member held => ?_, first.refusals⟩, trivial⟩
    unfold queueDiscardMany at member
    rw [Nat.min_eq_left within] at member
    rcases List.mem_append.mp member with before | now
    · exact first.tried entry before held
    · exact tried entry now held

/-- No flush comes while the worker has a batch in hand. -/
def FlushesBetween (keyboard : Keyboard) : KeyboardOp → Prop
  | .setCapture false => keyboard.pc = .idle
  | _ => True

instance (keyboard : Keyboard) (op : KeyboardOp) : Decidable (FlushesBetween keyboard op) := by
  cases op with
  | setCapture enabled => cases enabled <;> unfold FlushesBetween <;> infer_instance
  | _ => exact inferInstanceAs (Decidable True)

theorem keyboardStep_frontKept (kept : FrontKept keyboard) {op : KeyboardOp}
    (between : FlushesBetween keyboard op) : FrontKept (keyboardStep keyboard op) := by
  have pushes : ∀ bytes transition, FrontKept (queuePushMany keyboard bytes transition).1 := by
    intro bytes transition
    unfold queuePushMany
    split
    · exact kept
    · exact kept.pushes _ _
  cases op with
  | pushMany bytes transition => exact pushes bytes transition
  | queueOutput output transition =>
    unfold keyboardStep
    dsimp only
    obtain same | ⟨bytes, actual, holds, _, _, _, queued⟩ :=
      c64KeyboardQueueOutputEx_cases keyboard output transition
    · rw [same]
      exact kept
    · rw [queued]
      exact ⟨⟨(pushes bytes actual).tried, (pushes bytes actual).refusals⟩,
        (pushes bytes actual).front⟩
  | setCapture enabled =>
    cases enabled with
    | true => exact ⟨⟨kept.tried, kept.refusals⟩, kept.front⟩
    | false =>
      have idle : keyboard.pc = .idle := between
      refine ⟨⟨kept.tried, kept.refusals⟩, ?_⟩
      simp only [FrontInHand, keyboardStep, c64KeyboardSetCapture, queueFlush, idle,
        Bool.false_eq_true, if_false]
  | setTransport transport => exact ⟨⟨kept.tried, kept.refusals⟩, kept.front⟩
  | resetNegotiation => exact ⟨⟨kept.tried, kept.refusals⟩, kept.front⟩
  | worker answer => exact injectionWorker_frontKept kept answer

end Attempts

section Serials

variable {keyboard : Keyboard}

/-- The entries are numbered by their place. -/
def Numbered (keyboard : Keyboard) : Prop :=
  keyboard.accepted.map (·.serial) = List.range keyboard.accepted.length

theorem entriesFrom_serials (serial : Nat) (transition : KeyTransition) (bytes : List UInt8) :
    (entriesFrom serial transition bytes).map (·.serial) = List.range' serial bytes.length := by
  induction bytes generalizing serial with
  | nil => rfl
  | cons byte rest ih => rw [entriesFrom, List.map_cons, ih, List.length_cons, List.range'_succ]

theorem queuePushMany_numbered (numbered : Numbered keyboard) (bytes : List UInt8)
    (transition : KeyTransition) : Numbered (queuePushMany keyboard bytes transition).1 := by
  unfold Numbered at numbered ⊢
  unfold queuePushMany
  split
  · exact numbered
  · dsimp only
    rw [List.map_append, numbered, entriesFrom_serials, List.length_append, entriesFrom_length,
      List.range_eq_range', List.range_eq_range', List.range'_append_1.symm]
    rw [Nat.zero_add]

theorem injectionWorker_accepted (keyboard : Keyboard) (answer : InjectionAnswer) :
    (injectionWorker keyboard answer).accepted = keyboard.accepted := by
  have retries : ∀ (keyboard : Keyboard) (pc : InjectionPc),
      (retryAt keyboard pc).accepted = keyboard.accepted := fun _ _ => rfl
  unfold injectionWorker
  cases keyboard.pc <;> dsimp only
  case choose =>
    obtain ⟨_, _, _, ⟨_, _, next⟩ | ⟨_, _, next⟩ | ⟨_, next⟩⟩ :=
      chooseTransport_cases keyboard answer.nowNs
    · rw [next]
    · rw [next]
    · rw [next]
      rfl
  case discard => rfl
  case idle | waitBufferEmpty | writeStopFlag | writeBuffer | writeLength | verify =>
    split <;> rfl
  case sendInput transport =>
    split
    · rfl
    · split <;> rfl

theorem keyboardStep_numbered (numbered : Numbered keyboard) (op : KeyboardOp) :
    Numbered (keyboardStep keyboard op) := by
  cases op with
  | pushMany bytes transition => exact queuePushMany_numbered numbered bytes transition
  | queueOutput output transition =>
    unfold keyboardStep
    dsimp only
    obtain same | ⟨bytes, actual, holds, _, _, _, queued⟩ :=
      c64KeyboardQueueOutputEx_cases keyboard output transition
    · rw [same]
      exact numbered
    · rw [queued]
      exact queuePushMany_numbered numbered bytes actual
  | setCapture enabled => cases enabled <;> exact numbered
  | setTransport transport => exact numbered
  | resetNegotiation => exact numbered
  | worker answer =>
    unfold Numbered keyboardStep
    dsimp only
    rw [injectionWorker_accepted]
    exact numbered

/-- What the device acted on is a subsequence of what was accepted, and every entry is one of a
kind. -/
structure SentInOrder (keyboard : Keyboard) : Prop where
  ordered : keyboard.acted.Sublist keyboard.accepted
  distinct : (keyboard.accepted.map (·.serial)).Nodup

/-- In every run the device acts on a subsequence of the accepted bytes. As long as no flush comes
between the reading of a batch and the end of its handling, a byte leaves the queue only after an
attempt to send it, or because REST is forced and its batch holds a byte without a key. -/
theorem keyboard_sentInOrder (ops : List KeyboardOp) :
    Always keyboardStep SentInOrder initialKeyboard ops ∧
      (EachStep keyboardStep FlushesBetween initialKeyboard ops →
        Always keyboardStep AttemptedFirst initialKeyboard ops) := by
  constructor
  · have numbered := @always_of_step _ _ _ Numbered
      (fun _ op numbered => keyboardStep_numbered numbered op) initialKeyboard rfl ops
    refine ((keyboard_inOrder ops).and numbered).imp ?_
    rintro keyboard ⟨order, numbered⟩
    refine ⟨order.acted_sublist, ?_⟩
    rw [numbered]
    exact List.nodup_range
  · intro between
    exact (@always_of_eachStep _ _ _ FrontKept _
      (fun _ _ kept between => keyboardStep_frontKept kept between) initialKeyboard ops between
      ⟨⟨nofun, nofun⟩, trivial⟩).imp fun _ kept => kept.toAttemptedFirst

def answered : InjectionAnswer := ⟨0, none, 1, 0, true⟩

/-- Some steps of the worker, every request of which succeeds. -/
def workerSteps (count : Nat) : List KeyboardOp :=
  List.replicate count (KeyboardOp.worker answered)

/-- A letter by an event, then a colour code by the KERNAL buffer, and a flush of an idle queue. -/
def typing : List KeyboardOp :=
  KeyboardOp.pushMany [0x41] .tap :: workerSteps 4 ++
    KeyboardOp.pushMany [0x05] .tap :: workerSteps 8 ++ [KeyboardOp.setCapture false]

/-- What was typed arrives in order, and every byte was tried before it left the queue. -/
theorem typing_sentInOrder :
    Always keyboardStep SentInOrder initialKeyboard typing ∧
      Always keyboardStep AttemptedFirst initialKeyboard typing ∧
      (typing.foldl keyboardStep initialKeyboard).acted.map (·.byte) = [0x41, 0x05] :=
  ⟨(keyboard_sentInOrder typing).1, (keyboard_sentInOrder typing).2 (by decide +kernel),
    by decide +kernel⟩

/-- With REST forced, a letter is queued behind a colour code that has no key. -/
def forcedRest : List KeyboardOp :=
  KeyboardOp.setTransport .rest :: KeyboardOp.pushMany [0x05, 0x41] .tap :: workerSteps 3

/-- The queue is flushed and filled again while the first batch is on its way. -/
def flushedMeanwhile : List KeyboardOp :=
  KeyboardOp.setTransport .legacy :: KeyboardOp.pushMany [0x41] .tap :: workerSteps 6 ++
    KeyboardOp.setCapture false :: KeyboardOp.pushMany [0x42] .tap :: workerSteps 2

/-- With REST forced, a batch that holds a byte without a key leaves the queue without a request,
and so does a byte that was queued behind a flush of the batch in hand. -/
theorem forcedRest_not_attempted :
    (∃ entry ∈ (forcedRest.foldl keyboardStep initialKeyboard).discarded,
      entry.byte = 0x41 ∧ entry ∉ (forcedRest.foldl keyboardStep initialKeyboard).attempted) ∧
    (∃ entry ∈ (flushedMeanwhile.foldl keyboardStep initialKeyboard).discarded,
      entry.byte = 0x42 ∧
        entry ∉ (flushedMeanwhile.foldl keyboardStep initialKeyboard).attempted) := by
  decide +kernel

end Serials

end C64Stream
