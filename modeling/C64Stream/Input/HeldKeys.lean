import C64Stream.Input.KeyboardLaws

/-! Keys that are held down on the device, and the releases that let them go. -/

namespace C64Stream

section Held

/-- The keys that are down after one more event; a tap leaves a key as it was. -/
def holdKey (held : List String) (event : UInt8 × KeyTransition) : List String :=
  match petsciiToMatrix event.1, event.2 with
  | some (key, _), .press => key :: held
  | some (key, _), .release => held.filter (· ≠ key)
  | _, _ => held

def heldAfter (events : List (UInt8 × KeyTransition)) : List String := events.foldl holdKey []

def KeyEntry.event (entry : KeyEntry) : UInt8 × KeyTransition := (entry.byte, entry.transition)

/-- Every press is followed by the release of its key. -/
def Balanced : List (UInt8 × KeyTransition) → Prop
  | [] => True
  | event :: rest => (event.2 = .press → (event.1, .release) ∈ rest) ∧ Balanced rest

instance decidableBalanced : ∀ events, Decidable (Balanced events)
  | [] => inferInstanceAs (Decidable True)
  | event :: rest =>
    have : Decidable (Balanced rest) := decidableBalanced rest
    inferInstanceAs (Decidable ((event.2 = .press → (event.1, .release) ∈ rest) ∧ Balanced rest))

variable {held larger : List String} {key : String}

theorem mem_holdKey {event : UInt8 × KeyTransition} :
    key ∈ holdKey held event ↔
      ((∃ shift, petsciiToMatrix event.1 = some (key, shift)) ∧ event.2 = .press) ∨
        (key ∈ held ∧
          ¬ (event.2 = .release ∧ ∃ shift, petsciiToMatrix event.1 = some (key, shift))) := by
  unfold holdKey
  cases mapped : petsciiToMatrix event.1 with
  | none => simp
  | some chord =>
    obtain ⟨other, shift⟩ := chord
    cases moved : event.2 with
    | tap => simp
    | press => simp [@eq_comm _ other key]
    | release => simp [@eq_comm _ other key]

theorem holdKey_mono (subset : ∀ key ∈ held, key ∈ larger) (event : UInt8 × KeyTransition) :
    ∀ key ∈ holdKey held event, key ∈ holdKey larger event := by
  intro key down
  rw [mem_holdKey] at down ⊢
  exact down.imp id fun ⟨before, kept⟩ => ⟨subset key before, kept⟩

theorem foldl_holdKey_mono (subset : ∀ key ∈ held, key ∈ larger)
    (events : List (UInt8 × KeyTransition)) :
    ∀ key ∈ events.foldl holdKey held, key ∈ events.foldl holdKey larger := by
  induction events generalizing held larger with
  | nil => exact subset
  | cons event rest ih => exact ih (holdKey_mono subset event)

theorem subset_foldl_holdKey (subset : ∀ key ∈ held, key ∈ larger)
    {events : List (UInt8 × KeyTransition)}
    (kept : ∀ event ∈ events, event.2 = .release →
      ∀ key shift, petsciiToMatrix event.1 = some (key, shift) → key ∉ held) :
    ∀ key ∈ held, key ∈ events.foldl holdKey larger := by
  induction events generalizing larger with
  | nil => exact subset
  | cons event rest ih =>
    refine ih (fun key down => ?_) fun event member => kept event (List.mem_cons_of_mem _ member)
    refine mem_holdKey.mpr (.inr ⟨subset key down, ?_⟩)
    rintro ⟨released, shift, mapped⟩
    exact kept event List.mem_cons_self released key shift mapped down

theorem pressed_of_mem_heldAfter (events : List (UInt8 × KeyTransition))
    (down : key ∈ heldAfter events) :
    ∃ before byte shift after, events = before ++ (byte, .press) :: after ∧
      petsciiToMatrix byte = some (key, shift) ∧ (byte, .release) ∉ after := by
  -- The induction is on the events from the last one back.
  induction events using List.reverseRecOn with
  | nil => cases down
  | append_singleton events event ih =>
    unfold heldAfter at down ih
    rw [List.foldl_append, List.foldl_cons, List.foldl_nil, mem_holdKey] at down
    rcases down with ⟨⟨shift, mapped⟩, pressed⟩ | ⟨earlier, unreleased⟩
    · exact ⟨events, event.1, shift, [], by rw [← pressed], mapped, List.not_mem_nil⟩
    · obtain ⟨before, byte, shift, after, split, mapped, absent⟩ := ih earlier
      refine ⟨before, byte, shift, after ++ [event], by rw [split]; simp, mapped, ?_⟩
      intro released
      rcases List.mem_append.mp released with inside | last
      · exact absent inside
      · obtain rfl := List.mem_singleton.mp last
        exact unreleased ⟨rfl, shift, mapped⟩

theorem Balanced.released {before after : List (UInt8 × KeyTransition)} {byte : UInt8}
    (balanced : Balanced (before ++ (byte, .press) :: after)) : (byte, .release) ∈ after := by
  induction before with
  | nil => exact balanced.1 rfl
  | cons event rest ih => exact ih balanced.2

theorem Balanced.heldAfter_eq_nil {events : List (UInt8 × KeyTransition)}
    (balanced : Balanced events) : heldAfter events = [] := by
  rw [List.eq_nil_iff_forall_not_mem]
  intro key down
  obtain ⟨before, byte, _, after, split, _, absent⟩ := pressed_of_mem_heldAfter events down
  subst split
  exact absent balanced.released

end Held

section Property

/-- The events that `machine:input` requests delivered. -/
def Keyboard.inputs (keyboard : Keyboard) : List (UInt8 × KeyTransition) :=
  (keyboard.delivered.filter (·.byInput)).map (·.entry.event)

/-- The queue is empty and the worker has nothing in hand. -/
def Drained (keyboard : Keyboard) : Prop := keyboard.queue = [] ∧ keyboard.pc = .idle

/-- Once the queue is drained and every press was followed by its release, no key is down. -/
def KeysReleased (keyboard : Keyboard) : Prop :=
  Drained keyboard → Balanced keyboard.holds → heldAfter keyboard.inputs = []

/-- Outputs are queued and the worker sends them, without a flush, to a device that either answers
every `machine:input` request or does not support them. -/
def OutputsOnly (supports : Bool) (keyboard : Keyboard) : KeyboardOp → Prop
  | .pushMany _ _ | .setCapture false => False
  | .worker answer =>
    match keyboard.pc with
    | .sendInput _ =>
      if supports then answer.inputFailure = none
      else answer.inputFailure.map (·.1) = some .notSupported
    | _ => True
  | _ => True

/-- The batch can be sent as events. -/
def SentAsEvents (keyboard : Keyboard) : Prop :=
  keyboard.transport ≠ .legacy ∧ ∀ entry ∈ keyboard.pending, (petsciiToMatrix entry.byte).isSome

/-- The entries that are taken out of the queue when the batch is not sent as events: all of them
when REST is forced, and else as many as the KERNAL buffer holds. -/
def takenOtherwise (keyboard : Keyboard) : List KeyEntry :=
  if keyboard.transport = .rest then keyboard.pending
  else keyboard.pending.take c64KeyboardBufferSize

/-- An event releases a key that is down. -/
def Releases (held : List String) (event : UInt8 × KeyTransition) : Prop :=
  event.2 = .release ∧ ∃ chord ∈ petsciiToMatrix event.1, chord.1 ∈ held

instance (held : List String) (event : UInt8 × KeyTransition) : Decidable (Releases held event) :=
  inferInstanceAs (Decidable (_ ∧ ∃ chord ∈ petsciiToMatrix event.1, chord.1 ∈ held))

/-- What keeps a step from losing the release of a key that is down: a full queue refuses none,
and none is in a batch that is not sent as events. -/
def ReleaseArrives (keyboard : Keyboard) : KeyboardOp → Prop
  | .queueOutput output transition =>
    keyboard.queue.length ≥ queueSize → ∀ byte ∈ c64KeyboardOutputIsHoldable output,
      ¬ Releases (heldAfter (keyboard.accepted.map (·.event))) (byte, transition)
  | .worker _ =>
    keyboard.pc = .choose → SentAsEvents keyboard ∨
      ∀ entry ∈ takenOtherwise keyboard, ¬ Releases (heldAfter keyboard.inputs) entry.event
  | _ => True

instance (keyboard : Keyboard) : Decidable (KeysReleased keyboard) :=
  inferInstanceAs (Decidable ((_ ∧ _) → _ → _))

instance (keyboard : Keyboard) : Decidable (SentAsEvents keyboard) :=
  inferInstanceAs (Decidable (_ ∧ _))

instance (supports : Bool) (keyboard : Keyboard) (op : KeyboardOp) :
    Decidable (OutputsOnly supports keyboard op) := by
  rcases op with _ | _ | ⟨⟨⟩⟩ | _ | _ | _ <;> dsimp only [OutputsOnly]
  case worker => rcases keyboard.pc with ⟨⟩ <;> infer_instance
  all_goals infer_instance

instance (keyboard : Keyboard) (op : KeyboardOp) : Decidable (ReleaseArrives keyboard op) := by
  rcases op with ⟨⟩ <;> dsimp only [ReleaseArrives] <;> infer_instance

end Property

section Invariant

/-- The entries that the batch in hand has been decided about. -/
def decided (keyboard : Keyboard) : Nat :=
  match keyboard.pc with
  | .idle | .choose | .sendInput _ => 0
  | _ => keyboard.pendingConsumed

/-- The keys down on the device are among those that the decided entries hold down. -/
structure HeldSound (supports : Bool) (keyboard : Keyboard) : Prop where
  unsupported : supports = false → keyboard.inputs = []
  undemoted : supports = true → keyboard.restDemotedUntilNs = 0
  /-- Every release that was asked for was accepted while its key was held. -/
  asked : ∀ key ∈ heldAfter (keyboard.accepted.map (·.event)), key ∈ heldAfter keyboard.holds
  device : ∀ key ∈ heldAfter keyboard.inputs,
    key ∈ heldAfter ((keyboard.accepted.take (keyboard.taken + decided keyboard)).map (·.event))

variable {supports : Bool} {keyboard : Keyboard}

theorem HeldSound.keysReleased (sound : HeldSound supports keyboard) : KeysReleased keyboard := by
  rintro ⟨empty, idle⟩ balanced
  have all : keyboard.accepted.take (keyboard.taken + decided keyboard) = keyboard.accepted := by
    unfold Keyboard.taken decided
    rw [empty, idle]
    exact List.take_length
  have device := sound.device
  rw [all] at device
  rw [List.eq_nil_iff_forall_not_mem]
  intro key down
  have held := sound.asked key (device key down)
  rw [balanced.heldAfter_eq_nil] at held
  cases held

theorem InOrder.take_batch (order : InOrder keyboard) (count : Nat) :
    keyboard.accepted.take (keyboard.taken + count) =
      keyboard.accepted.take keyboard.taken ++ keyboard.queue.take count := by
  rw [List.take_add, ← order.queue_eq]

theorem HeldSound.decides (sound : HeldSound supports keyboard) (order : InOrder keyboard)
    (undecided : decided keyboard = 0) {count : Nat}
    (kept : ∀ entry ∈ keyboard.queue.take count,
      ¬ Releases (heldAfter keyboard.inputs) entry.event) :
    ∀ key ∈ heldAfter keyboard.inputs,
      key ∈ heldAfter ((keyboard.accepted.take (keyboard.taken + count)).map (·.event)) := by
  have device := sound.device
  rw [undecided, Nat.add_zero] at device
  intro key down
  rw [order.take_batch, List.map_append, heldAfter, List.foldl_append]
  refine subset_foldl_holdKey device
    (fun event member released key shift mapped down => ?_) key down
  obtain ⟨entry, inside, rfl⟩ := List.mem_map.mp member
  exact kept entry inside ⟨released, (key, shift), mapped, down⟩

theorem HeldSound.moves (sound : HeldSound supports keyboard) {next : Keyboard}
    (queue : next.queue = keyboard.queue) (accepted : next.accepted = keyboard.accepted)
    (inputs : next.inputs = keyboard.inputs) (holds : next.holds = keyboard.holds)
    (undemoted : supports = true → next.restDemotedUntilNs = 0)
    (same : decided next = decided keyboard) : HeldSound supports next := by
  refine ⟨?_, undemoted, ?_, ?_⟩
  · rw [inputs]
    exact sound.unsupported
  · rw [accepted, holds]
    exact sound.asked
  · unfold Keyboard.taken
    rw [inputs, accepted, queue, same]
    exact sound.device

theorem HeldSound.legacy (sound : HeldSound supports keyboard) (order : InOrder keyboard)
    (undecided : decided keyboard = 0)
    (pending : keyboard.pending = keyboard.queue.take keyboard.pendingConsumed)
    (kept : ∀ entry ∈ keyboard.pending.take c64KeyboardBufferSize,
      ¬ Releases (heldAfter keyboard.inputs) entry.event) :
    HeldSound supports (legacyBatch keyboard) := by
  refine ⟨sound.unsupported, sound.undemoted, sound.asked, ?_⟩
  have slots : keyboard.queue.take (keyboard.pending.take c64KeyboardBufferSize).length =
      keyboard.pending.take c64KeyboardBufferSize := by
    rw [pending, List.take_take, List.length_take, ← List.take_eq_take_min]
  have count : decided (legacyBatch keyboard) =
      (keyboard.pending.take c64KeyboardBufferSize).length := by
    unfold legacyBatch decided
    dsimp only
    by_cases none : (keyboard.pending.take c64KeyboardBufferSize).filter
        (·.transition ≠ .release) = []
    · rw [if_pos none]
    · rw [if_neg none]
  rw [count]
  refine sound.decides order undecided ?_
  rw [slots]
  exact kept

theorem HeldSound.noneHeld (sound : HeldSound supports keyboard) (unsupported : supports = false)
    (event : UInt8 × KeyTransition) : ¬ Releases (heldAfter keyboard.inputs) event := by
  rw [sound.unsupported unsupported]
  rintro ⟨_, chord, _, down⟩
  cases down

theorem HeldSound.choose (sound : HeldSound supports keyboard) (order : InOrder keyboard)
    (front : FrontInHand keyboard) (here : keyboard.pc = .choose)
    (arrives : SentAsEvents keyboard ∨
      ∀ entry ∈ takenOtherwise keyboard, ¬ Releases (heldAfter keyboard.inputs) entry.event)
    (nowNs : UInt64) : HeldSound supports (chooseTransport keyboard nowNs) := by
  simp only [FrontInHand, here] at front
  obtain ⟨within, pending, nonempty, size⟩ := front
  have undecided : decided keyboard = 0 := by
    unfold decided
    rw [here]
  have built := buildRestInputBatch_isSome nonempty size
  obtain ⟨until_, generation, choice, next⟩ := chooseTransport_cases keyboard nowNs
  have undemoted : supports = true → until_ = 0 := by
    intro supported
    rcases choice with zero | same
    · exact zero
    · rw [same, sound.undemoted supported]
  rcases next with ⟨_, _, sent⟩ | ⟨forced, unbuilt, refused⟩ | ⟨⟨unforced, why⟩, legacy⟩
  · rw [sent]
    exact sound.moves rfl rfl rfl rfl undemoted (by rw [undecided]; rfl)
  · rw [refused]
    refine ⟨sound.unsupported, undemoted, sound.asked, ?_⟩
    refine sound.decides order undecided fun entry member => ?_
    rcases arrives with sent | kept
    · rw [built.mpr sent.2] at unbuilt
      cases unbuilt
    · refine kept entry ?_
      rw [takenOtherwise, if_pos forced, pending]
      exact member
  · rw [legacy]
    have moved : HeldSound supports { keyboard with
        restDemotedUntilNs := until_
        workerGeneration := generation } :=
      sound.moves rfl rfl rfl rfl undemoted rfl
    refine moved.legacy ⟨order.suffix, order.batch⟩ undecided pending fun entry member => ?_
    cases supported : supports with
    | false => exact sound.noneHeld supported _
    | true =>
      rcases arrives with sent | kept
      · -- A device that supports the events is never demoted, so the batch would be sent.
        rcases why with legacy | unbuilt | early
        · exact absurd legacy sent.1
        · rw [built.mpr sent.2] at unbuilt
          cases unbuilt
        · rw [undemoted supported] at early
          exact absurd early (UInt64.not_lt.mpr UInt64.zero_le)
      · refine kept entry ?_
        rw [takenOtherwise, if_neg unforced]
        exact member

theorem HeldSound.delivers (sound : HeldSound supports keyboard) (order : InOrder keyboard)
    (undecided : decided keyboard = 0) (supported : supports = true)
    (pending : keyboard.pending = keyboard.queue.take keyboard.pendingConsumed)
    {attempted : List KeyEntry} :
    HeldSound supports { keyboard with
      attempted
      delivered := keyboard.delivered ++ keyboard.pending.map fun entry => ⟨entry, true⟩
      restDemotedUntilNs := 0
      pc := .discard } := by
  have inputs : Keyboard.inputs { keyboard with
      attempted
      delivered := keyboard.delivered ++ keyboard.pending.map fun entry => ⟨entry, true⟩
      restDemotedUntilNs := 0
      pc := .discard } = keyboard.inputs ++ keyboard.pending.map (·.event) := by
    unfold Keyboard.inputs
    simp [List.filter_map, Function.comp_def]
  refine ⟨fun unsupported => ?_, fun _ => rfl, sound.asked, ?_⟩
  · rw [supported] at unsupported
    cases unsupported
  · have device := sound.device
    rw [undecided, Nat.add_zero] at device
    rw [inputs]
    change ∀ key ∈ heldAfter (keyboard.inputs ++ keyboard.pending.map (·.event)), key ∈ heldAfter
      ((keyboard.accepted.take (keyboard.taken + keyboard.pendingConsumed)).map (·.event))
    rw [order.take_batch, ← pending, List.map_append, heldAfter, heldAfter, List.foldl_append,
      List.foldl_append]
    exact foldl_holdKey_mono device _

theorem HeldSound.discards (sound : HeldSound supports keyboard) (order : InOrder keyboard)
    (here : keyboard.pc = .discard)
    (within : keyboard.pendingConsumed ≤ keyboard.queue.length) :
    HeldSound supports { queueDiscardMany keyboard keyboard.pendingConsumed with
      pending := []
      pendingConsumed := 0
      retryCount := 0
      pc := .idle } := by
  refine ⟨sound.unsupported, sound.undemoted, sound.asked, ?_⟩
  have device := sound.device
  have length := order.suffix.length_le
  have taken : keyboard.accepted.length - (keyboard.queue.drop
      (min keyboard.pendingConsumed keyboard.queue.length)).length =
        keyboard.taken + decided keyboard := by
    unfold Keyboard.taken decided
    rw [here, List.length_drop]
    dsimp only
    omega
  rw [← taken] at device
  exact device

theorem HeldSound.worker (sound : HeldSound supports keyboard) (order : InOrder keyboard)
    (front : FrontInHand keyboard) {answer : InjectionAnswer}
    (answers : OutputsOnly supports keyboard (.worker answer))
    (arrives : ReleaseArrives keyboard (.worker answer)) :
    HeldSound supports (injectionWorker keyboard answer) := by
  unfold injectionWorker
  cases here : keyboard.pc <;> dsimp only
  case idle =>
    split
    · exact sound
    · refine sound.moves rfl rfl rfl rfl sound.undemoted ?_
      unfold decided
      rw [here]
  case choose => exact sound.choose order front here (arrives here) answer.nowNs
  case sendInput transport =>
    unfold OutputsOnly at answers
    rw [here] at answers
    have undecided : decided keyboard = 0 := by
      unfold decided
      rw [here]
    simp only [FrontInHand, here] at front
    obtain ⟨within, pending, _, _⟩ := front
    cases supported : supports with
    | true =>
      subst supported
      have answered : answer.inputFailure = none := answers
      rw [answered]
      exact sound.delivers order undecided rfl pending
    | false =>
      subst supported
      have unsupported : answer.inputFailure.map (·.1) = some .notSupported := answers
      obtain ⟨⟨failure, status⟩, failed, _⟩ := Option.map_eq_some_iff.mp unsupported
      rw [failed]
      -- Without support nothing was ever delivered as an event, so no key is down.
      have none : keyboard.inputs = [] := sound.unsupported rfl
      dsimp only
      split
      · refine ⟨fun _ => none, by rintro ⟨⟩, sound.asked, fun key down => ?_⟩
        change key ∈ heldAfter keyboard.inputs at down
        rw [none] at down
        cases down
      · refine ⟨fun _ => none, by rintro ⟨⟩, sound.asked, fun key down => ?_⟩
        change key ∈ heldAfter keyboard.inputs at down
        rw [none] at down
        cases down
  case discard =>
    simp only [FrontInHand, here] at front
    exact sound.discards order here front.1
  case waitBufferEmpty | writeStopFlag | writeBuffer | verify =>
    have waits : decided keyboard = keyboard.pendingConsumed := by
      unfold decided
      rw [here]
    split
    · exact sound.moves rfl rfl rfl rfl sound.undemoted waits.symm
    · unfold retryAt
      dsimp only
      split
      · exact sound.moves rfl rfl rfl rfl sound.undemoted waits.symm
      · exact sound.moves rfl rfl rfl rfl sound.undemoted waits.symm
  case writeLength =>
    have waits : decided keyboard = keyboard.pendingConsumed := by
      unfold decided
      rw [here]
    split
    · refine sound.moves rfl rfl ?_ rfl sound.undemoted waits.symm
      -- What the KERNAL takes from its buffer is no event.
      unfold Keyboard.inputs
      simp [List.filter_map, Function.comp_def]
    · unfold retryAt
      dsimp only
      split
      · exact sound.moves rfl rfl rfl rfl sound.undemoted waits.symm
      · exact sound.moves rfl rfl rfl rfl sound.undemoted waits.symm

theorem outputBytes_of_holdable {output : C64Output} {byte : UInt8} {bytes : List UInt8}
    (holdable : c64KeyboardOutputIsHoldable output = some byte)
    (typed : outputBytes output = some bytes) : bytes = [byte] := by
  have known : ∀ value, c64KeyboardOutputIsHoldable (.petscii value) = some byte →
      value = byte := by
    intro value same
    simp only [c64KeyboardOutputIsHoldable] at same
    split at same
    · exact Option.some.inj same
    · cases same
  unfold c64KeyboardOutputIsHoldable at holdable
  unfold outputBytes at typed
  cases output with
  | text text => cases holdable
  | petscii value =>
    rw [← Option.some.inj typed, known value holdable]
  | symbolic name =>
    dsimp only at typed
    split at typed
    · cases typed
    · rw [← Option.some.inj typed, known _ holdable]

theorem foldl_holdKey_taps (held : List String) (serial : Nat) (bytes : List UInt8) :
    ((entriesFrom serial .tap bytes).map (·.event)).foldl holdKey held = held := by
  induction bytes generalizing serial with
  | nil => rfl
  | cons byte rest ih =>
    rw [entriesFrom, List.map_cons, List.foldl_cons]
    have unmoved : holdKey held (KeyEntry.event ⟨serial, byte, .tap⟩) = held := by
      unfold holdKey KeyEntry.event
      split <;> first | rfl | contradiction
    rw [unmoved, ih]

theorem HeldSound.pushes (sound : HeldSound supports keyboard) (order : InOrder keyboard)
    (within : decided keyboard ≤ keyboard.queue.length) {more : List KeyEntry}
    {holds : List (UInt8 × KeyTransition)}
    (asked : ∀ key ∈ heldAfter ((keyboard.accepted ++ more).map (·.event)),
      key ∈ heldAfter holds) :
    HeldSound supports { keyboard with
      queue := keyboard.queue ++ more
      accepted := keyboard.accepted ++ more
      holds } := by
  refine ⟨sound.unsupported, sound.undemoted, asked, ?_⟩
  have device := sound.device
  have length := order.suffix.length_le
  have taken : (keyboard.accepted ++ more).length - (keyboard.queue ++ more).length =
      keyboard.taken := by
    unfold Keyboard.taken
    rw [List.length_append, List.length_append]
    omega
  have same : (keyboard.accepted ++ more).take (keyboard.taken + decided keyboard) =
      keyboard.accepted.take (keyboard.taken + decided keyboard) := by
    refine List.take_append_of_le_length ?_
    unfold Keyboard.taken
    omega
  change ∀ key ∈ heldAfter keyboard.inputs, key ∈ heldAfter (((keyboard.accepted ++ more).take
    ((keyboard.accepted ++ more).length - (keyboard.queue ++ more).length +
      decided keyboard)).map (·.event))
  rw [taken, same]
  exact device

theorem FrontKept.decided_le (kept : FrontKept keyboard) :
    decided keyboard ≤ keyboard.queue.length := by
  have front := kept.front
  unfold FrontInHand at front
  unfold decided
  cases here : keyboard.pc <;> rw [here] at front <;> dsimp only at front ⊢
  case idle | choose | sendInput => exact Nat.zero_le _
  case waitBufferEmpty | writeStopFlag | writeBuffer | writeLength | verify | discard =>
    exact front.1

theorem HeldSound.queueOutput (sound : HeldSound supports keyboard) (order : InOrder keyboard)
    (kept : FrontKept keyboard) {output : C64Output} {transition : KeyTransition}
    (arrives : ReleaseArrives keyboard (.queueOutput output transition)) :
    HeldSound supports (c64KeyboardQueueOutputEx keyboard output transition).1 := by
  obtain same | ⟨bytes, actual, holds, typed, chosen, rfl, queued⟩ :=
    c64KeyboardQueueOutputEx_cases keyboard output transition
  · rw [same]
    exact sound
  rw [queued]
  -- A press or a release is of the single byte that the output types.
  have single : actual ≠ .tap → actual = transition ∧
      ∃ byte, c64KeyboardOutputIsHoldable output = some byte ∧ bytes = [byte] := by
    intro untapped
    obtain ⟨same, holdable⟩ := chosen.resolve_left untapped
    obtain ⟨byte, holdable⟩ := Option.isSome_iff_exists.mp holdable
    exact ⟨same, byte, holdable, outputBytes_of_holdable holdable typed⟩
  unfold queuePushMany
  by_cases full : bytes.length > queueSize - keyboard.queue.length
  · rw [if_pos full]
    refine ⟨sound.unsupported, sound.undemoted, fun key held => ?_, sound.device⟩
    by_cases tapped : actual = .tap
    · simp only [if_pos tapped, List.append_nil]
      exact sound.asked key held
    · obtain ⟨rfl, byte, holdable, rfl⟩ := single tapped
      simp only [if_neg tapped, List.map_cons, List.map_nil]
      have kept := arrives (by rw [List.length_singleton] at full; omega) byte holdable
      rw [heldAfter, List.foldl_append, List.foldl_cons, List.foldl_nil]
      refine mem_holdKey.mpr (.inr ⟨sound.asked key held, ?_⟩)
      rintro ⟨released, shift, mapped⟩
      exact kept ⟨released, (key, shift), mapped, held⟩
  · rw [if_neg full]
    refine sound.pushes order kept.decided_le fun key held => ?_
    rw [List.map_append, heldAfter, List.foldl_append] at held
    by_cases tapped : actual = .tap
    · subst tapped
      rw [foldl_holdKey_taps] at held
      simp only [if_true, List.append_nil]
      exact sound.asked key held
    · obtain ⟨rfl, byte, holdable, rfl⟩ := single tapped
      simp only [if_neg tapped, List.map_cons, List.map_nil]
      rw [heldAfter, List.foldl_append]
      exact foldl_holdKey_mono sound.asked _ key held

theorem keyboardStep_heldSound (sound : HeldSound supports keyboard) (order : InOrder keyboard)
    (kept : FrontKept keyboard) {op : KeyboardOp} (outputs : OutputsOnly supports keyboard op)
    (arrives : ReleaseArrives keyboard op) : HeldSound supports (keyboardStep keyboard op) := by
  cases op with
  | pushMany bytes transition => exact outputs.elim
  | queueOutput output transition => exact sound.queueOutput order kept arrives
  | setCapture enabled =>
    cases enabled with
    | false => exact outputs.elim
    | true => exact sound.moves rfl rfl rfl rfl sound.undemoted rfl
  | setTransport transport => exact sound.moves rfl rfl rfl rfl sound.undemoted rfl
  | resetNegotiation => exact sound.moves rfl rfl rfl rfl sound.undemoted rfl
  | worker answer => exact sound.worker order kept.front outputs arrives

theorem OutputsOnly.flushesBetween {op : KeyboardOp} (outputs : OutputsOnly supports keyboard op) :
    FlushesBetween keyboard op := by
  cases op with
  | setCapture enabled =>
    cases enabled with
    | false => exact outputs.elim
    | true => trivial
  | _ => trivial

/-- In every run that loses no release of a key that is down, no key stays down: once the queue is
drained, each key that a `machine:input` request pressed was released by one. -/
theorem keyboard_keysReleased (supports : Bool) (ops : List KeyboardOp)
    (outputs : EachStep keyboardStep (OutputsOnly supports) initialKeyboard ops)
    (arrives : EachStep keyboardStep ReleaseArrives initialKeyboard ops) :
    Always keyboardStep KeysReleased initialKeyboard ops := by
  have start : HeldSound supports initialKeyboard :=
    ⟨fun _ => rfl, fun _ => rfl, nofun, nofun⟩
  have front : FrontKept initialKeyboard := ⟨⟨nofun, nofun⟩, trivial⟩
  refine (@always_of_eachStep _ _ keyboardStep
    (fun keyboard => HeldSound supports keyboard ∧ InOrder keyboard ∧ FrontKept keyboard)
    (fun keyboard op => OutputsOnly supports keyboard op ∧ ReleaseArrives keyboard op)
    ?_ initialKeyboard ops (outputs.and arrives)
    ⟨start, (keyboard_inOrder []).start, front⟩).imp fun _ sound => sound.1.keysReleased
  rintro keyboard op ⟨sound, order, kept⟩ ⟨outputs, arrives⟩
  exact ⟨keyboardStep_heldSound sound order kept outputs arrives, keyboardStep_inOrder order op,
    keyboardStep_frontKept kept outputs.flushesBetween⟩

/-- A key is pressed and released, each in a batch of its own. -/
def heldAlone : List KeyboardOp :=
  KeyboardOp.queueOutput (.petscii 0x41) .press :: workerSteps 4 ++
    KeyboardOp.queueOutput (.petscii 0x41) .release :: workerSteps 4

/-- A key whose release gets a batch of its own does not stay down. -/
theorem heldAlone_keysReleased :
    Always keyboardStep KeysReleased initialKeyboard heldAlone :=
  keyboard_keysReleased true heldAlone (by decide +kernel) (by decide +kernel)

/-- A key is pressed, and its release is queued behind a colour code in one batch. -/
def heldWithColour : List KeyboardOp :=
  KeyboardOp.queueOutput (.petscii 0x41) .press :: workerSteps 4 ++
    KeyboardOp.queueOutput (.symbolic "c64:COLOR_RED") .tap ::
      KeyboardOp.queueOutput (.petscii 0x41) .release :: workerSteps 8

/-- A release that shares its batch with a colour code is dropped, and the key stays down. -/
theorem heldWithColour_not_keysReleased :
    EachStep keyboardStep (OutputsOnly true) initialKeyboard heldWithColour ∧
      ¬ Always keyboardStep KeysReleased initialKeyboard heldWithColour ∧
      heldAfter (heldWithColour.foldl keyboardStep initialKeyboard).inputs = ["a"] := by
  decide +kernel

end Invariant

end C64Stream
