import C64Stream.Input.Interact

/-! Inputs that are held down on the device through both queues, and when all are let go again. -/

namespace C64Stream

section Property

/-- The keyboard with its next batch in hand. -/
def Keyboard.withBatch (keyboard : Keyboard) : Keyboard :=
  let batch := queuePeekBatch keyboard c64RestInputBatchSize
  { keyboard with
    pending := batch
    pendingConsumed := batch.length
    pc := .choose }

/-- The entries at the front of the queue that the batch in hand stands for. -/
def Keyboard.skipped (keyboard : Keyboard) : Nat :=
  match keyboard.pc with
  | .idle => 0
  | .choose =>
    if SentAsEvents keyboard then keyboard.pendingConsumed else (takenOtherwise keyboard).length
  | _ => keyboard.pendingConsumed

def Keyboard.waiting (keyboard : Keyboard) : List KeyEntry := keyboard.queue.drop keyboard.skipped

/-- The entries of the batch in hand that are still to be sent as events. -/
def Keyboard.sending (keyboard : Keyboard) : List KeyEntry :=
  match keyboard.pc with
  | .choose => if SentAsEvents keyboard then keyboard.pending else []
  | .sendInput _ => keyboard.pending
  | _ => []

/-- The keys that some entries leave down. -/
def keysAfter (entries : List KeyEntry) (keys : List String) : List String :=
  (entries.map (·.event)).foldl holdKey keys

/-- The requests that were not executed yet. -/
def InputSystem.requests (system : InputSystem) : List MachineCommand :=
  match system.worker with
  | .executing command => command :: system.commands
  | _ => system.commands

/-- The keys that are down once some entries are sent and all requests are executed. -/
def InputSystem.reached (system : InputSystem) (entries : List KeyEntry) : List String :=
  system.requests.foldl commandKeys (keysAfter entries system.keysDown)

/-- The queues are empty and the worker has nothing in hand; and every key of the host is up again,
or the focus was lost. -/
def InputSystem.Settled (system : InputSystem) : Prop :=
  system.flushDue = false ∧ system.requests = [] ∧ system.keyboard.queue = [] ∧
    system.keyboard.pc = .idle ∧
    (system.hostDown = [] ∨ system.source.keyboardCaptureActive = false)

/-- Once everything has settled, nothing is down on the device. -/
def InputSystem.NothingSticks (system : InputSystem) : Prop :=
  system.Settled → system.keysDown = [] ∧ system.joysticksDown = []

/-- What a call asks for finds room in its queue. -/
def ActionFits (system : InputSystem) (action : Option ClickAction) : Prop :=
  match action with
  | none => True
  | some (.command _) => system.commands.length < cmdQueueSize
  | some (.output output _) =>
    ∀ bytes ∈ outputBytes output, bytes.length ≤ queueSize - system.keyboard.queue.length

/-- No queue overflows, at most sixteen keys are down at once, and every request succeeds. -/
def RunsSmoothly (positional : Bool) (system : InputSystem) (op : InputOp) : Prop :=
  match op with
  | .keyClick event keyUp lookup =>
    (hostDownAfter system.hostDown event keyUp).length ≤ heldKeysSize ∧
      ActionFits system (c64KeyClick positional system.source event keyUp lookup).2
  | .focus focus =>
    ActionFits system ((c64Focus system.source focus).2.1.map .command) ∧
      ActionFits system ((c64Focus system.source focus).2.2.map .command)
  | .finishFocus => True
  | .update mode port => ActionFits system ((updateJoystick system.source mode port).2.map .command)
  | .worker answer => answer.inputFailure = none

/-- A key-up goes the way that the key-down of a held key went. -/
def RoutedAlike (positional : Bool) (source : InteractSource) (event : ObsKeyEvent)
    (slot : HeldKey) : Prop :=
  let vkey := event.nativeVkey
  if isShiftKey vkey || isCtrlKey vkey || isAltKey vkey || isMetaKey vkey event.text then
    positional = true ∧
      (c64PositionalModifierInput vkey event.nativeScancode).map .key = some slot.input
  else
    match if source.joystickModeActive then c64JoystickInputForVkey vkey else none with
    | some input => slot.input = .joystick source.joystickEmulationPort input
    | none => slot.isJoystick = false

/-- No press waits in the queue of keystrokes without its release. -/
def NoPressWaits (system : InputSystem) : Prop := keysAfter system.keyboard.waiting [] = []

/-- No release of a key that is down is among some entries. -/
def NoReleaseIn (entries : List KeyEntry) (keys : List String) : Prop :=
  ∀ entry ∈ entries, ¬ Releases keys entry.event

/-- What keeps a step from losing the release of an input that is down: the key-up of a held key
goes the way of its key-down; a release of everything overtakes no press; a focus that is lost
with no key in the table leaves none down either, also not by a batch that is taken up before the
flush; and a batch of keystrokes that is not sent as events holds no release. -/
def LosesNoRelease (positional : Bool) (system : InputSystem) (op : InputOp) : Prop :=
  match op with
  | .keyClick event true _ =>
    ∀ slot ∈ c64FindHeldSlot system.source event.nativeVkey,
      RoutedAlike positional system.source event slot
  | .keyClick _ false lookup =>
    system.source.keyboardCaptureActive = true → system.source.joystickModeActive = true →
      lookup.key.map (·.1) ∈ [some "F10", some "F11"] → NoPressWaits system
  | .focus focus =>
    focus = false → system.source.keyboardCaptureActive = true →
      system.source.joystickModeActive = false → system.source.heldKeys = [] →
        system.reached system.keyboard.sending = []
  | .finishFocus => True
  | .update mode port =>
    system.source.joystickModeActive = true →
      (mode = false ∨
        system.source.joystickEmulationPort ≠ if port = 1 ∨ port = 2 then port else 2) →
          NoPressWaits system
  | .worker _ =>
    system.worker = .machine → system.keyboard.pc = .idle →
      if system.flushDue then
        SentAsEvents system.keyboard.withBatch →
          system.reached system.keyboard.withBatch.pending = []
      else
        SentAsEvents system.keyboard.withBatch ∨
          NoReleaseIn (takenOtherwise system.keyboard.withBatch) system.keysDown

instance (system : InputSystem) : Decidable system.NothingSticks :=
  inferInstanceAs (Decidable ((_ ∧ _ ∧ _ ∧ _ ∧ (_ ∨ _)) → _ ∧ _))

instance (system : InputSystem) (action : Option ClickAction) :
    Decidable (ActionFits system action) := by
  unfold ActionFits
  split <;> infer_instance

instance (positional : Bool) (system : InputSystem) (op : InputOp) :
    Decidable (RunsSmoothly positional system op) := by
  unfold RunsSmoothly
  cases op <;> infer_instance

instance (positional : Bool) (source : InteractSource) (event : ObsKeyEvent) (slot : HeldKey) :
    Decidable (RoutedAlike positional source event slot) := by
  unfold RoutedAlike
  dsimp only
  split
  · infer_instance
  · split <;> infer_instance

instance (system : InputSystem) : Decidable (NoPressWaits system) :=
  inferInstanceAs (Decidable (_ = _))

instance (entries : List KeyEntry) (keys : List String) : Decidable (NoReleaseIn entries keys) :=
  inferInstanceAs (Decidable (∀ entry ∈ entries, _))

instance (positional : Bool) (system : InputSystem) (op : InputOp) :
    Decidable (LosesNoRelease positional system op) := by
  unfold LosesNoRelease
  split <;> infer_instance

end Property

section Invariant

def modifierKeys : List String := ["ctrl", "commodore", "right_shift", "left_shift"]

/-- The keys that are down once both queues are worked off, if no more is queued; a flush that is
due takes away what waits. -/
def InputSystem.finalKeys (system : InputSystem) : List String :=
  if system.flushDue then system.reached system.keyboard.sending
  else keysAfter system.keyboard.waiting (system.reached system.keyboard.sending)

/-- The joystick inputs that are down once all requests are executed. -/
def InputSystem.finalJoysticks (system : InputSystem) : List (Nat × String) :=
  system.requests.foldl commandJoysticks system.joysticksDown

/-- A slot that is no joystick input is that of a modifier, or its byte is that of its key. -/
def SlotFits (slot : HeldKey) : Prop :=
  slot.isJoystick = false →
    (isShiftKey slot.vkey || isCtrlKey slot.vkey || isAltKey slot.vkey) = true ∨
      ∃ name, slot.input = .key name ∧ petsciiToMatrix slot.outputByte = some (name, false)

/-- What is down on the device, or will be, is held by a key that is down on the host. -/
structure InputSound (system : InputSystem) : Prop where
  undemoted : system.keyboard.restDemotedUntilNs = 0
  batch : system.keyboard.pc = .choose → system.keyboard.pending ≠ [] ∧
    system.keyboard.pending.length ≤ c64RestInputBatchSize ∧
    system.keyboard.pendingConsumed = system.keyboard.pending.length
  phase : system.worker ≠ .machine → system.keyboard.pc.inBatch = false
  /-- A batch whose entries were flushed leaves no key of a keystroke down. -/
  flushed : system.keyboard.skipped ≤ system.keyboard.queue.length ∨
    ∀ key ∈ system.reached system.keyboard.sending, key ∈ modifierKeys
  names : ∀ input press, MachineCommand.key input press ∈ system.requests → input ∈ modifierKeys
  keys : ∀ key ∈ system.finalKeys, ∃ slot ∈ system.source.heldKeys, slot.input = .key key
  joysticks : ∀ stick ∈ system.finalJoysticks,
    ∃ slot ∈ system.source.heldKeys, slot.input = .joystick stick.1 stick.2
  slots : ∀ slot ∈ system.source.heldKeys, SlotFits slot
  distinct : (system.source.heldKeys.map (·.vkey)).Nodup
  hosts : ∀ slot ∈ system.source.heldKeys, ∃ scancode, (slot.vkey, scancode) ∈ system.hostDown
  captured : system.source.keyboardCaptureActive = false → system.source.heldKeys = []
  flush : system.flushDue = true → system.source.keyboardCaptureActive = false

variable {system : InputSystem}

theorem InputSound.nothingSticks (sound : InputSound system) : system.NothingSticks := by
  rintro ⟨unflushed, requests, empty, idle, released⟩
  have none : system.source.heldKeys = [] := by
    rcases released with up | lost
    · rw [List.eq_nil_iff_forall_not_mem]
      intro slot held
      obtain ⟨scancode, down⟩ := sound.hosts slot held
      rw [up] at down
      cases down
    · exact sound.captured lost
  have keys := sound.keys
  have joysticks := sound.joysticks
  simp only [InputSystem.finalKeys, InputSystem.reached, requests, unflushed, Keyboard.waiting,
    Keyboard.sending, idle, empty, none, List.drop_nil] at keys
  simp only [InputSystem.finalJoysticks, requests, none] at joysticks
  constructor
  · rw [List.eq_nil_iff_forall_not_mem]
    intro key down
    obtain ⟨_, member, _⟩ := keys key down
    cases member
  · rw [List.eq_nil_iff_forall_not_mem]
    intro stick down
    obtain ⟨_, member, _⟩ := joysticks stick down
    cases member

end Invariant

section Commutes

variable {keys larger : List String} {commands : List MachineCommand}

theorem petsciiToMatrix_notModifier {value : UInt8} {key : String} {shift : Bool}
    (mapped : petsciiToMatrix value = some (key, shift)) : key ∉ modifierKeys := by
  have apart : ∀ key ∈ chordKeys, key ∉ modifierKeys := by decide +kernel
  exact apart key (petsciiToMatrix_key mapped)

theorem keysAfter_mono (subset : ∀ key ∈ keys, key ∈ larger) (entries : List KeyEntry) :
    ∀ key ∈ keysAfter entries keys, key ∈ keysAfter entries larger :=
  foldl_holdKey_mono subset _

theorem keysAfter_append (first second : List KeyEntry) (keys : List String) :
    keysAfter (first ++ second) keys = keysAfter second (keysAfter first keys) := by
  rw [keysAfter, List.map_append, List.foldl_append]
  rfl

theorem commandKeys_mono (subset : ∀ key ∈ keys, key ∈ larger) (command : MachineCommand) :
    ∀ key ∈ commandKeys keys command, key ∈ commandKeys larger command := by
  intro key down
  match command with
  | .key input true =>
    simp only [commandKeys, List.mem_cons] at down ⊢
    exact down.imp id (subset key)
  | .key input false =>
    simp only [commandKeys, List.mem_filter] at down ⊢
    exact ⟨subset key down.1, down.2⟩
  | .releaseAll => cases down
  | .joystick _ _ _ | .menu | .reset | .reboot => exact subset key down

theorem foldl_commandKeys_mono (subset : ∀ key ∈ keys, key ∈ larger)
    (commands : List MachineCommand) :
    ∀ key ∈ commands.foldl commandKeys keys, key ∈ commands.foldl commandKeys larger := by
  induction commands generalizing keys larger with
  | nil => exact subset
  | cons command rest ih => exact ih (commandKeys_mono subset command)

theorem mem_foldl_commandKeys
    (names : ∀ input press, MachineCommand.key input press ∈ commands → input ∈ modifierKeys)
    {key : String} (down : key ∈ commands.foldl commandKeys keys) :
    key ∈ keys ∨ key ∈ modifierKeys := by
  induction commands generalizing keys with
  | nil => exact .inl down
  | cons command rest ih =>
    rcases ih (fun input press member => names input press (List.mem_cons_of_mem _ member)) down
      with before | modifier
    · match command with
      | .key input true =>
        rcases List.mem_cons.mp before with rfl | before
        · exact .inr (names key true (List.mem_cons_self ..))
        · exact .inl before
      | .key input false => exact .inl (List.mem_filter.mp before).1
      | .releaseAll => cases before
      | .joystick _ _ _ | .menu | .reset | .reboot => exact .inl before
    · exact .inr modifier

theorem mem_keysAfter_cons {input key : String} (entries : List KeyEntry) :
    key ∈ keysAfter entries (input :: keys) → key = input ∨ key ∈ keysAfter entries keys := by
  unfold keysAfter
  generalize entries.map (·.event) = events
  induction events generalizing keys with
  | nil => exact List.mem_cons.mp
  | cons event rest ih =>
    intro down
    by_cases same : key = input
    · exact .inl same
    · refine .inr ?_
      have fewer : ∀ other ∈ holdKey (input :: keys) event,
          other ∈ input :: holdKey keys event := by
        intro other down
        rw [mem_holdKey] at down
        rw [List.mem_cons, mem_holdKey]
        rcases down with pressed | ⟨before, kept⟩
        · exact .inr (.inl pressed)
        · rcases List.mem_cons.mp before with rfl | before
          · exact .inl rfl
          · exact .inr (.inr ⟨before, kept⟩)
      exact (ih (foldl_holdKey_mono fewer rest key down)).resolve_left same

theorem mem_keysAfter_modifier {key : String} (modifier : key ∈ modifierKeys)
    (entries : List KeyEntry) (down : key ∈ keys) : key ∈ keysAfter entries keys := by
  unfold keysAfter
  generalize entries.map (·.event) = events
  induction events generalizing keys with
  | nil => exact down
  | cons event rest ih =>
    refine ih (mem_holdKey.mpr (.inr ⟨down, ?_⟩))
    rintro ⟨_, shift, mapped⟩
    exact petsciiToMatrix_notModifier mapped modifier

theorem foldl_commandKeys_behind
    (names : ∀ input press, MachineCommand.key input press ∈ commands → input ∈ modifierKeys)
    (entries : List KeyEntry) :
    ∀ key ∈ commands.foldl commandKeys (keysAfter entries keys),
      key ∈ keysAfter entries (commands.foldl commandKeys keys) := by
  induction commands generalizing keys with
  | nil => exact fun _ down => down
  | cons command rest ih =>
    have first : ∀ key ∈ commandKeys (keysAfter entries keys) command,
        key ∈ keysAfter entries (commandKeys keys command) := by
      intro key down
      match command with
      | .key input true =>
        rcases List.mem_cons.mp down with rfl | before
        · exact mem_keysAfter_modifier (names key true (List.mem_cons_self ..)) entries
            (List.mem_cons_self ..)
        · exact keysAfter_mono (fun _ => List.mem_cons_of_mem _) entries key before
      | .key input false =>
        obtain ⟨before, other⟩ := List.mem_filter.mp down
        have apart : ∀ key ∈ keys, key ∈ input :: keys.filter (· ≠ input) := by
          intro key held
          by_cases same : key = input
          · exact same ▸ List.mem_cons_self ..
          · exact List.mem_cons_of_mem _ (List.mem_filter.mpr ⟨held, by simpa using same⟩)
        exact (mem_keysAfter_cons entries (keysAfter_mono apart entries key before)).resolve_left
          (by simpa using other)
      | .releaseAll => cases down
      | .joystick _ _ _ | .menu | .reset | .reboot => exact down
    intro key down
    exact ih (fun input press member => names input press (List.mem_cons_of_mem _ member)) key
      (foldl_commandKeys_mono first rest key down)

theorem foldl_commandKeys_kept
    (names : ∀ input press, MachineCommand.key input press ∈ commands → input ∈ modifierKeys)
    {entries : List KeyEntry} (kept : NoReleaseIn entries keys) :
    ∀ key ∈ commands.foldl commandKeys keys,
      key ∈ keysAfter entries (commands.foldl commandKeys keys) := by
  refine subset_foldl_holdKey (fun _ down => down) fun event member released key shift mapped
    down => ?_
  obtain ⟨entry, inside, rfl⟩ := List.mem_map.mp member
  rcases mem_foldl_commandKeys names down with before | modifier
  · exact kept entry inside ⟨released, (key, shift), mapped, before⟩
  · exact petsciiToMatrix_notModifier mapped modifier

end Commutes

section Worker

variable {keyboard : Keyboard}

theorem withBatch_front (keyboard : Keyboard) :
    keyboard.queue = keyboard.withBatch.pending ++
        keyboard.queue.drop keyboard.withBatch.pending.length ∧
      keyboard.queue = takenOtherwise keyboard.withBatch ++
        keyboard.queue.drop (takenOtherwise keyboard.withBatch).length := by
  have front : ∀ count, keyboard.queue.take count ++
      keyboard.queue.drop (keyboard.queue.take count).length = keyboard.queue := by
    intro count
    rw [List.length_take]
    rcases Nat.le_total count keyboard.queue.length with less | more
    · rw [Nat.min_eq_left less, List.take_append_drop]
    · rw [Nat.min_eq_right more, List.take_of_length_le more, List.drop_length, List.append_nil]
  refine ⟨(front c64RestInputBatchSize).symm, ?_⟩
  unfold takenOtherwise
  split
  · exact (front c64RestInputBatchSize).symm
  · have both : (keyboard.withBatch.pending).take c64KeyboardBufferSize =
        keyboard.queue.take (min c64KeyboardBufferSize c64RestInputBatchSize) := List.take_take
    rw [both]
    exact (front _).symm

theorem legacyBatch_moves (keyboard : Keyboard) :
    (legacyBatch keyboard).sending = [] ∧ (legacyBatch keyboard).pc ≠ .choose ∧
      (legacyBatch keyboard).skipped = (keyboard.pending.take c64KeyboardBufferSize).length := by
  have next : (legacyBatch keyboard).pc = .discard ∨
      (legacyBatch keyboard).pc = .waitBufferEmpty := by
    change (if _ then InjectionPc.discard else .waitBufferEmpty) = _ ∨
      (if _ then InjectionPc.discard else .waitBufferEmpty) = _
    split
    · exact .inl rfl
    · exact .inr rfl
  rw [Keyboard.sending, Keyboard.skipped]
  rcases next with next | next
  · rw [next]
    exact ⟨rfl, nofun, rfl⟩
  · rw [next]
    exact ⟨rfl, nofun, rfl⟩

/-- What a step of the worker does to the entries that wait and to the batch that it sends. -/
inductive WorkerMoves (keyboard next : Keyboard) (sent : List String → List String) : Prop where
  | rests (waiting : next.waiting = keyboard.waiting) (sending : next.sending = keyboard.sending)
      (same : ∀ keys, sent keys = keys)
  | takesUp (idle : keyboard.pc = .idle) (events : SentAsEvents keyboard.withBatch)
      (sending : next.sending = keyboard.withBatch.pending)
      (waiting : keyboard.waiting = next.sending ++ next.waiting) (same : ∀ keys, sent keys = keys)
  | leavesOut (idle : keyboard.pc = .idle) (unsent : ¬ SentAsEvents keyboard.withBatch)
      (sending : next.sending = [])
      (waiting : keyboard.waiting = takenOtherwise keyboard.withBatch ++ next.waiting)
      (same : ∀ keys, sent keys = keys)
  | sends (sending : next.sending = []) (waiting : next.waiting = keyboard.waiting)
      (keys : ∀ keys, sent keys = keysAfter keyboard.sending keys)

/-- A batch in hand that was not decided about yet is as it was taken up. -/
def BatchTaken (keyboard : Keyboard) : Prop :=
  keyboard.pc = .choose → keyboard.pending ≠ [] ∧
    keyboard.pending.length ≤ c64RestInputBatchSize ∧
    keyboard.pendingConsumed = keyboard.pending.length

theorem chooseTransport_moves (batch : BatchTaken keyboard) (here : keyboard.pc = .choose)
    (undemoted : keyboard.restDemotedUntilNs = 0) (nowNs : UInt64) :
    (chooseTransport keyboard nowNs).restDemotedUntilNs = 0 ∧
      (chooseTransport keyboard nowNs).pc ≠ .choose ∧
      (chooseTransport keyboard nowNs).queue = keyboard.queue ∧
      (chooseTransport keyboard nowNs).skipped = keyboard.skipped ∧
      (chooseTransport keyboard nowNs).sending = keyboard.sending := by
  obtain ⟨nonempty, size, consumed⟩ := batch here
  have built := buildRestInputBatch_isSome nonempty size
  have skips : keyboard.skipped = if SentAsEvents keyboard then keyboard.pendingConsumed
      else (takenOtherwise keyboard).length := by rw [Keyboard.skipped, here]
  have sends : keyboard.sending = if SentAsEvents keyboard then keyboard.pending else [] := by
    rw [Keyboard.sending, here]
  rw [skips, sends]
  obtain ⟨until_, generation, choice, next⟩ := chooseTransport_cases keyboard nowNs
  have zero : until_ = 0 := by
    rcases choice with zero | same
    · exact zero
    · rw [same, undemoted]
  subst zero
  rcases next with ⟨modern, possible, chosen⟩ | ⟨forced, unbuilt, chosen⟩ |
    ⟨⟨unforced, why⟩, chosen⟩
  · have events : SentAsEvents keyboard := ⟨modern, built.mp possible⟩
    rw [chosen, if_pos events, if_pos events]
    exact ⟨rfl, (by rintro ⟨⟩), rfl, rfl, rfl⟩
  · have unsent : ¬ SentAsEvents keyboard := fun events => by
      rw [built.mpr events.2] at unbuilt
      cases unbuilt
    rw [chosen, if_neg unsent, if_neg unsent, takenOtherwise, if_pos forced]
    exact ⟨rfl, (by rintro ⟨⟩), rfl, consumed, rfl⟩
  · have unsent : ¬ SentAsEvents keyboard := fun events => by
      rcases why with legacy | unbuilt | early
      · exact events.1 legacy
      · rw [built.mpr events.2] at unbuilt
        cases unbuilt
      · exact absurd early (UInt64.not_lt.mpr UInt64.zero_le)
    rw [chosen, if_neg unsent, if_neg unsent, takenOtherwise, if_neg unforced]
    obtain ⟨sending, decided, skipped⟩ := legacyBatch_moves { keyboard with
      restDemotedUntilNs := 0, workerGeneration := generation }
    exact ⟨rfl, decided, rfl, skipped, sending⟩

/-- A step of the worker whose requests succeed takes up a batch, or leaves one out, or has one
sent, or changes nothing that matters for the keys. -/
theorem injectionWorker_moves (batch : BatchTaken keyboard) (answer : InjectionAnswer)
    (succeeds : answer.inputFailure = none) (undemoted : keyboard.restDemotedUntilNs = 0) :
    (injectionWorker keyboard answer).restDemotedUntilNs = 0 ∧
      BatchTaken (injectionWorker keyboard answer) ∧
      (keyboard.skipped ≤ keyboard.queue.length →
        (injectionWorker keyboard answer).skipped ≤
          (injectionWorker keyboard answer).queue.length) ∧
      WorkerMoves keyboard (injectionWorker keyboard answer) (sentKeys keyboard answer) := by
  unfold injectionWorker
  cases here : keyboard.pc <;> dsimp only
  case idle =>
    have same : ∀ keys, sentKeys keyboard answer keys = keys := fun keys => by rw [sentKeys, here]
    have waits : keyboard.waiting = keyboard.queue := by
      rw [Keyboard.waiting, Keyboard.skipped, here]
      rfl
    split
    · exact ⟨undemoted, batch, id, .rests rfl rfl same⟩
    · rename_i nonempty
      change keyboard.withBatch.restDemotedUntilNs = 0 ∧ BatchTaken keyboard.withBatch ∧
        (_ → keyboard.withBatch.skipped ≤ keyboard.withBatch.queue.length) ∧
          WorkerMoves keyboard keyboard.withBatch _
      obtain ⟨whole, otherwise⟩ := withBatch_front keyboard
      have skips : keyboard.withBatch.skipped = if SentAsEvents keyboard.withBatch then
          keyboard.withBatch.pending.length else (takenOtherwise keyboard.withBatch).length := rfl
      have sends : keyboard.withBatch.sending = if SentAsEvents keyboard.withBatch then
          keyboard.withBatch.pending else [] := rfl
      have waiting : keyboard.withBatch.waiting =
          keyboard.queue.drop keyboard.withBatch.skipped := rfl
      refine ⟨undemoted, fun _ => ⟨nonempty, List.length_take_le _ _, rfl⟩, fun _ => ?_, ?_⟩
      · change _ ≤ keyboard.queue.length
        rw [skips]
        split
        · rw [whole]
          simp only [List.length_append]
          omega
        · rw [otherwise]
          simp only [List.length_append]
          omega
      · by_cases events : SentAsEvents keyboard.withBatch
        · rw [if_pos events] at skips sends
          refine .takesUp here events sends ?_ same
          rw [waits, sends, waiting, skips]
          exact whole
        · rw [if_neg events] at skips sends
          refine .leavesOut here events sends ?_ same
          rw [waits, waiting, skips]
          exact otherwise
  case choose =>
    obtain ⟨zero, decided, queue, skipped, sending⟩ :=
      chooseTransport_moves batch here undemoted answer.nowNs
    refine ⟨zero, fun chooses => absurd chooses decided, ?_, .rests ?_ sending
      fun keys => by rw [sentKeys, here]⟩
    · rw [skipped, queue]
      exact id
    · rw [Keyboard.waiting, Keyboard.waiting, skipped, queue]
  case sendInput transport =>
    rw [succeeds]
    have skips : keyboard.skipped = keyboard.pendingConsumed := by rw [Keyboard.skipped, here]
    refine ⟨rfl, nofun, ?_, .sends rfl ?_ fun keys => ?_⟩
    · rw [skips]
      exact id
    · have waits : keyboard.waiting = keyboard.queue.drop keyboard.pendingConsumed := by
        rw [Keyboard.waiting, skips]
      rw [waits]
      rfl
    · rw [sentKeys, here, succeeds, Keyboard.sending, here]
      rfl
  case discard =>
    have skips : keyboard.skipped = keyboard.pendingConsumed := by rw [Keyboard.skipped, here]
    refine ⟨undemoted, nofun, fun _ => Nat.zero_le _, .rests ?_ ?_ fun keys => by
      rw [sentKeys, here]⟩
    · rw [Keyboard.waiting, Keyboard.waiting, skips]
      change keyboard.queue.drop (min keyboard.pendingConsumed keyboard.queue.length) = _
      rcases Nat.le_total keyboard.pendingConsumed keyboard.queue.length with less | more
      · rw [Nat.min_eq_left less]
      · rw [Nat.min_eq_right more, List.drop_length, List.drop_of_length_le more]
    · rw [Keyboard.sending, Keyboard.sending, here]
  case waitBufferEmpty | writeStopFlag | writeBuffer | writeLength | verify =>
    have same : ∀ keys, sentKeys keyboard answer keys = keys := fun keys => by rw [sentKeys, here]
    have skips : keyboard.skipped = keyboard.pendingConsumed := by rw [Keyboard.skipped, here]
    have sends : keyboard.sending = [] := by rw [Keyboard.sending, here]
    have waits : keyboard.waiting = keyboard.queue.drop keyboard.pendingConsumed := by
      rw [Keyboard.waiting, skips]
    rw [skips]
    split
    · exact ⟨undemoted, nofun, id, .rests waits.symm sends.symm same⟩
    · unfold retryAt
      dsimp only
      split <;> exact ⟨undemoted, nofun, id, .rests waits.symm sends.symm same⟩

variable {system : InputSystem}

theorem InputSound.worked (sound : InputSound system) {next : InputSystem}
    (source : next.source = system.source) (hostDown : next.hostDown = system.hostDown)
    (flushDue : next.flushDue = system.flushDue) (undemoted : next.keyboard.restDemotedUntilNs = 0)
    (batch : BatchTaken next.keyboard)
    (phase : next.worker ≠ .machine → next.keyboard.pc.inBatch = false)
    (flushed : next.keyboard.skipped ≤ next.keyboard.queue.length ∨
      ∀ key ∈ next.reached next.keyboard.sending, key ∈ modifierKeys)
    (names : ∀ command ∈ next.requests, command ∈ system.requests)
    (keys : ∀ key ∈ next.finalKeys, key ∈ system.finalKeys)
    (joysticks : next.finalJoysticks = system.finalJoysticks) : InputSound next := by
  refine ⟨undemoted, batch, phase, flushed, fun input press member => ?_, fun key down => ?_, ?_,
    ?_, ?_, ?_, ?_, ?_⟩
  · exact sound.names input press (names _ member)
  · rw [source]
    exact sound.keys key (keys key down)
  · rw [joysticks, source]
    exact sound.joysticks
  · rw [source]
    exact sound.slots
  · rw [source]
    exact sound.distinct
  · rw [source, hostDown]
    exact sound.hosts
  · rw [source]
    exact sound.captured
  · rw [flushDue, source]
    exact sound.flush

theorem InputSound.injects (sound : InputSound system) (here : system.worker = .machine)
    {positional : Bool} {answer : InjectionAnswer} (succeeds : answer.inputFailure = none)
    (loses : LosesNoRelease positional system (.worker answer)) {worker : WorkerPhase}
    (goesOn : ∀ command, worker ≠ .executing command)
    (phase : worker ≠ .machine → (injectionWorker system.keyboard answer).pc.inBatch = false) :
    InputSound { system with
      keyboard := injectionWorker system.keyboard answer
      worker := worker
      keysDown := sentKeys system.keyboard answer system.keysDown } := by
  obtain ⟨undemoted, batch, skips, moves⟩ :=
    injectionWorker_moves sound.batch answer succeeds sound.undemoted
  have requests : ∀ keyboard keysDown, InputSystem.requests { system with
      keyboard := keyboard, worker := worker, keysDown := keysDown } = system.requests := by
    intro keyboard keysDown
    unfold InputSystem.requests
    rw [here]
    cases worker with
    | executing command => exact absurd rfl (goesOn command)
    | commands | machine => rfl
  have reached : ∀ keyboard keysDown entries, InputSystem.reached { system with
      keyboard := keyboard, worker := worker, keysDown := keysDown } entries =
        system.requests.foldl commandKeys (keysAfter entries keysDown) := by
    intro keyboard keysDown entries
    rw [InputSystem.reached, requests]
  have loses := loses here
  refine sound.worked rfl rfl rfl undemoted batch phase ?_
    (fun command member => by rwa [requests] at member) ?_ ?_
  · -- Between two batches nothing of the queue is skipped.
    rcases sound.flushed with within | modifiers
    · exact .inl (skips within)
    rw [reached]
    cases moves with
    | rests waiting sending same =>
      rw [sending, same]
      exact .inr modifiers
    | takesUp idle | leavesOut idle =>
      refine .inl (skips ?_)
      rw [Keyboard.skipped, idle]
      exact Nat.zero_le _
    | sends sending waiting keys =>
      rw [sending, keys]
      exact .inr modifiers
  · unfold InputSystem.finalKeys
    rw [reached]
    dsimp only
    cases moves with
    | rests waiting sending same =>
      rw [waiting, sending, same]
      exact fun _ down => down
    | takesUp idle events sending waiting same =>
      have sends : system.keyboard.sending = [] := by rw [Keyboard.sending, idle]
      have loses := loses idle
      rw [sending] at waiting
      rw [same, sending, sends]
      by_cases due : system.flushDue = true
      · -- Nothing of the batch stays down, as a release of everything follows it.
        rw [if_pos due] at loses ⊢
        rw [show system.requests.foldl commandKeys _ = _ from loses events]
        exact fun _ down => absurd down List.not_mem_nil
      · -- The batch is sent before the requests that were queued meanwhile.
        rw [if_neg due, if_neg due, waiting, keysAfter_append]
        exact keysAfter_mono (foldl_commandKeys_behind sound.names _) _
    | leavesOut idle unsent sending waiting same =>
      have sends : system.keyboard.sending = [] := by rw [Keyboard.sending, idle]
      have loses := loses idle
      rw [same, sending, sends]
      by_cases due : system.flushDue = true
      · rw [if_pos due, if_pos due]
        exact fun _ down => down
      · -- The batch is left out, which releases no key that is down.
        rw [if_neg due] at loses
        rw [if_neg due, if_neg due, waiting, keysAfter_append]
        exact keysAfter_mono (foldl_commandKeys_kept sound.names
          (loses.resolve_left unsent)) _
    | sends sending waiting keys =>
      rw [waiting, sending, keys]
      exact fun _ down => down
  · unfold InputSystem.finalJoysticks
    rw [requests]

theorem InputSound.worker (sound : InputSound system) (positional : Bool)
    {answer : InjectionAnswer} (smooth : RunsSmoothly positional system (.worker answer))
    (loses : LosesNoRelease positional system (.worker answer)) :
    InputSound (workerStep system answer) := by
  have flushed := sound.flushed
  unfold workerStep
  cases here : system.worker with
  | commands =>
    dsimp only
    cases queued : system.commands with
    | nil =>
      refine sound.worked rfl rfl rfl sound.undemoted sound.batch (fun other => absurd rfl other)
        ?_ ?_ ?_ ?_
      all_goals
        simp only [InputSystem.requests, InputSystem.reached, InputSystem.finalKeys,
          InputSystem.finalJoysticks, here, queued] at flushed ⊢
      · exact flushed
      · exact fun _ same => same
      · exact fun _ same => same
    | cons command rest =>
      refine sound.worked rfl rfl rfl sound.undemoted sound.batch
        (fun _ => sound.phase (by rw [here]; nofun)) ?_ ?_ ?_ ?_
      all_goals
        simp only [InputSystem.requests, InputSystem.reached, InputSystem.finalKeys,
          InputSystem.finalJoysticks, here, queued] at flushed ⊢
      · exact flushed
      · exact fun _ same => same
      · exact fun _ same => same
  | executing command =>
    have between := sound.phase (by rw [here]; nofun)
    have sends : system.keyboard.sending = [] := by
      unfold Keyboard.sending
      cases pc : system.keyboard.pc with
      | sendInput transport | choose =>
        rw [pc] at between
        cases between
      | _ => rfl
    refine sound.worked rfl rfl rfl sound.undemoted sound.batch (fun _ => between) ?_ ?_ ?_ ?_
    all_goals
      simp only [InputSystem.requests, InputSystem.reached, InputSystem.finalKeys,
        InputSystem.finalJoysticks, here, sends, List.foldl_cons] at flushed ⊢
    · exact flushed
    · exact fun _ => List.mem_cons_of_mem _
    · exact fun _ down => down
  | machine =>
    dsimp only
    by_cases waits : system.keyboard.pc = .idle ∧ system.keyboard.queue = []
    · rw [if_pos waits]
      by_cases none : system.commands = []
      · rw [if_pos none]
        exact sound
      rw [if_neg none]
      refine sound.worked rfl rfl rfl sound.undemoted sound.batch
        (fun _ => by rw [waits.1]; rfl) ?_ ?_ ?_ ?_
      all_goals
        simp only [InputSystem.requests, InputSystem.reached, InputSystem.finalKeys,
          InputSystem.finalJoysticks, here] at flushed ⊢
      · exact flushed
      · exact fun _ same => same
      · exact fun _ same => same
    · rw [if_neg waits]
      refine sound.injects here smooth loses (fun command => ?_) fun other => ?_
      · split <;> nofun
      · by_contra busy
        rw [if_pos (by simpa using busy)] at other
        exact other rfl

end Worker

end C64Stream
