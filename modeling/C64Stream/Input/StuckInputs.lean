import C64Stream.Input.ClickLaws

/-! Runs of the user interface and the worker, and the inputs that stay down in them. -/

namespace C64Stream

section Queued

variable {system : InputSystem} {keyboard : Keyboard} {keys : List String}

theorem keysAfter_taps {entries : List KeyEntry} (taps : ∀ entry ∈ entries, entry.transition = .tap)
    (keys : List String) : keysAfter entries keys = keys := by
  unfold keysAfter
  induction entries with
  | nil => rfl
  | cons entry rest ih =>
    rw [List.map_cons, List.foldl_cons]
    -- The first entry leaves the keys as they are, and so do those behind it.
    have unmoved : holdKey keys entry.event = keys := by
      unfold holdKey KeyEntry.event
      rw [taps entry List.mem_cons_self]
      cases petsciiToMatrix entry.byte <;> rfl
    rw [unmoved]
    exact ih fun other member => taps other (List.mem_cons_of_mem _ member)

theorem modifier_of_mem_keysAfter {key : String} (modifier : key ∈ modifierKeys)
    {entries : List KeyEntry} (down : key ∈ keysAfter entries keys) : key ∈ keys := by
  unfold keysAfter at down
  generalize entries.map (·.event) = events at down
  induction events generalizing keys with
  | nil => exact down
  | cons event rest ih =>
    rcases mem_holdKey.mp (ih down) with ⟨⟨shift, mapped⟩, _⟩ | ⟨before, _⟩
    · exact absurd modifier (petsciiToMatrix_notModifier mapped)
    · exact before

theorem keysAfter_commandKeys {command : MachineCommand}
    (named : ∀ input press, command = .key input press → input ∈ modifierKeys)
    (entries : List KeyEntry) :
    ∀ key ∈ keysAfter entries (commandKeys keys command),
      command ≠ .releaseAll → key ∈ commandKeys (keysAfter entries keys) command := by
  intro key down other
  match command with
  | .key input true => exact List.mem_cons.mpr (mem_keysAfter_cons entries down)
  | .key input false =>
    have modifier := named input false rfl
    refine List.mem_filter.mpr ⟨keysAfter_mono (fun _ held => (List.mem_filter.mp held).1) entries
      key down, ?_⟩
    -- No entry presses the modifier again.
    have released : key ≠ input := by
      rintro rfl
      have filtered := modifier_of_mem_keysAfter modifier down
      simp [commandKeys] at filtered
    simpa using released
  | .releaseAll => exact absurd rfl other
  | .joystick _ _ _ | .menu | .reset | .reboot => exact down

theorem entriesFrom_transition (serial : Nat) (transition : KeyTransition) (bytes : List UInt8) :
    ∀ entry ∈ entriesFrom serial transition bytes, entry.transition = transition := by
  induction bytes generalizing serial with
  | nil => exact List.forall_mem_nil _
  | cons byte rest ih => exact List.forall_mem_cons.mpr ⟨rfl, ih (serial + 1)⟩

theorem holdable_of_unknown {output : C64Output} (unknown : outputBytes output = none) :
    c64KeyboardOutputIsHoldable output = none := by
  cases output with
  | text bytes => rfl
  | petscii byte => cases unknown
  | symbolic name =>
    -- Only a name without a code types nothing, and the code zero has no key.
    have zero : lookupSymbolicKey name = 0 := by
      by_contra known
      simp [outputBytes, known] at unknown
    have unmapped : petsciiToMatrix 0 = none := by decide +kernel
    rw [c64KeyboardOutputIsHoldable, zero]
    dsimp only
    rw [unmapped]

theorem queueOutput_behind {output : C64Output} {transition : KeyTransition}
    (fits : ∀ bytes ∈ outputBytes output, bytes.length ≤ queueSize - keyboard.queue.length) :
    ∃ more accepted holds,
      (c64KeyboardQueueOutputEx keyboard output transition).1 = { keyboard with
        queue := keyboard.queue ++ more
        accepted := accepted
        holds := holds } ∧
      (∀ keys, keysAfter more keys = actionKeys (some (.output output transition)) keys) ∧
        ((∀ entry ∈ more, entry.transition = .tap) ∨ more.length = 1) := by
  unfold c64KeyboardQueueOutputEx
  dsimp only
  cases known : outputBytes output with
  | none =>
    refine ⟨[], keyboard.accepted, keyboard.holds, ?_, fun keys => ?_, .inl (List.forall_mem_nil _)⟩
    · rw [List.append_nil]
    · rw [actionKeys, holdable_of_unknown known]
      rfl
  | some bytes =>
    have room : ¬ bytes.length > queueSize - keyboard.queue.length :=
      Nat.not_lt.mpr (fits bytes known)
    dsimp only
    rw [queuePushMany, if_neg room]
    cases holdable : c64KeyboardOutputIsHoldable output with
    | none =>
      -- What cannot be held is tapped.
      have tapped : (if transition ≠ .tap ∧ (none : Option UInt8) = none then KeyTransition.tap
          else transition) = .tap := by
        by_cases tap : transition = .tap
        · rw [tap]
          rfl
        · rw [if_pos ⟨tap, rfl⟩]
      have taps := entriesFrom_transition keyboard.accepted.length .tap bytes
      rw [tapped]
      refine ⟨_, _, _, rfl, fun keys => ?_, .inl taps⟩
      rw [keysAfter_taps taps, actionKeys, holdable]
    | some byte =>
      obtain rfl := outputBytes_of_holdable holdable known
      have kept : (if transition ≠ .tap ∧ some byte = none then KeyTransition.tap
          else transition) = transition := if_neg fun coerced => by cases coerced.2
      rw [kept]
      by_cases tap : transition = .tap
      · rw [if_pos tap]
        refine ⟨_, _, _, rfl, fun keys => ?_, .inr rfl⟩
        rw [actionKeys, holdable]
        rfl
      · rw [if_neg tap]
        refine ⟨_, _, _, rfl, fun keys => ?_, .inr rfl⟩
        rw [actionKeys, holdable]
        rfl

/-- What a step of the user interface does to the source, before its action is queued. -/
structure HoldsAlike (system : InputSystem) (action : Option ClickAction)
    (source : InteractSource) (hostDown : List (UInt32 × UInt32)) : Prop where
  keys : ∀ key ∈ actionKeys action system.finalKeys, ∃ slot ∈ source.heldKeys, slot.input = .key key
  joysticks : ∀ stick ∈ actionJoysticks action system.finalJoysticks,
    ∃ slot ∈ source.heldKeys, slot.input = .joystick stick.1 stick.2
  slots : ∀ slot ∈ source.heldKeys, SlotFits slot
  distinct : (source.heldKeys.map (·.vkey)).Nodup
  hosts : ∀ slot ∈ source.heldKeys, ∃ scancode, (slot.vkey, scancode) ∈ hostDown
  captured : source.keyboardCaptureActive = false → source.heldKeys = []

theorem InputSound.types (sound : InputSound system) (unflushed : system.flushDue = false)
    {output : C64Output} {transition : KeyTransition}
    (fits : ActionFits system (some (.output output transition))) {source : InteractSource}
    {hostDown : List (UInt32 × UInt32)}
    (alike : HoldsAlike system (some (.output output transition)) source hostDown) :
    InputSound (queueAction { system with source := source, hostDown := hostDown }
      (some (.output output transition))) := by
  obtain ⟨more, accepted, holds, queued, effect, few⟩ := queueOutput_behind fits
  have next : queueAction { system with source := source, hostDown := hostDown }
      (some (.output output transition)) = { system with
        source := source
        hostDown := hostDown
        keyboard := { system.keyboard with
          queue := system.keyboard.queue ++ more
          accepted := accepted
          holds := holds } } := by
    rw [queueAction, queued]
  have keys := alike.keys
  rw [InputSystem.finalKeys, unflushed] at keys
  rw [next]
  refine ⟨sound.undemoted, sound.batch, sound.phase, ?_, sound.names, fun key down => keys key ?_,
    alike.joysticks, alike.slots, alike.distinct, alike.hosts, alike.captured, ?_⟩
  · refine sound.flushed.imp (fun within => within.trans ?_) id
    simp only [List.length_append]
    exact Nat.le_add_right _ _
  · rw [InputSystem.finalKeys] at down
    dsimp only at down
    rw [unflushed] at down
    have behind : key ∈ keysAfter ((system.keyboard.queue ++ more).drop system.keyboard.skipped)
        (system.reached system.keyboard.sending) := down
    rw [← effect]
    by_cases within : system.keyboard.skipped ≤ system.keyboard.queue.length
    · rw [List.drop_append_of_le_length within, keysAfter_append] at behind
      exact behind
    · -- After a flush, the batch in hand stands for entries that are queued later.
      have modifiers := sound.flushed.resolve_left within
      have skipped : (system.keyboard.queue ++ more).drop system.keyboard.skipped =
          more.drop (system.keyboard.skipped - system.keyboard.queue.length) := by
        rw [List.drop_append, List.drop_of_length_le (Nat.le_of_not_le within), List.nil_append]
      have taps : ∀ entry ∈ more.drop (system.keyboard.skipped - system.keyboard.queue.length),
          entry.transition = .tap := by
        rcases few with taps | one
        · exact fun entry member => taps entry (List.mem_of_mem_drop member)
        · rw [List.drop_of_length_le (by omega)]
          exact List.forall_mem_nil _
      rw [skipped, keysAfter_taps taps] at behind
      have modifier := modifiers key behind
      exact mem_keysAfter_modifier modifier more (mem_keysAfter_modifier modifier _ behind)
  · rw [unflushed]
    nofun

theorem requests_queued (command : MachineCommand) :
    InputSystem.requests { system with commands := system.commands ++ [command] } =
      system.requests ++ [command] := by
  unfold InputSystem.requests
  cases system.worker <;> rfl

theorem InputSound.asks (sound : InputSound system) (unflushed : system.flushDue = false)
    {command : MachineCommand} (room : system.commands.length < cmdQueueSize)
    (named : ActionNamed (some (.command command)))
    (overtakes : command = .releaseAll → NoPressWaits system) {source : InteractSource}
    {hostDown : List (UInt32 × UInt32)}
    (alike : HoldsAlike system (some (.command command)) source hostDown) :
    InputSound (queueAction { system with source := source, hostDown := hostDown }
      (some (.command command))) := by
  have names : ∀ input press, command = .key input press → input ∈ modifierKeys :=
    fun input press same => named input press (by rw [same])
  have next : queueAction { system with source := source, hostDown := hostDown }
      (some (.command command)) = { system with
        source := source
        hostDown := hostDown
        commands := system.commands ++ [command] } := by
    rw [queueAction, c64KeyboardQueueMachineCommand]
    exact if_neg (Nat.not_le.mpr room)
  have requests : InputSystem.requests { system with
      source := source
      hostDown := hostDown
      commands := system.commands ++ [command] } = system.requests ++ [command] :=
    requests_queued command
  have reached : ∀ entries, InputSystem.reached { system with
      source := source
      hostDown := hostDown
      commands := system.commands ++ [command] } entries =
        commandKeys (system.reached entries) command := by
    intro entries
    rw [InputSystem.reached, requests, List.foldl_append]
    rfl
  have keys := alike.keys
  rw [InputSystem.finalKeys, unflushed] at keys
  rw [next]
  refine ⟨sound.undemoted, sound.batch, sound.phase, ?_, ?_, fun key down => keys key ?_,
    fun stick down => alike.joysticks stick ?_, alike.slots, alike.distinct, alike.hosts,
    alike.captured, ?_⟩
  · rw [reached]
    refine sound.flushed.imp id fun modifiers key down => ?_
    have single : ∀ input press, MachineCommand.key input press ∈ [command] →
        input ∈ modifierKeys := fun input press member =>
      names input press (List.mem_singleton.mp member).symm
    exact (mem_foldl_commandKeys single (down : key ∈ [command].foldl commandKeys _)).elim
      (modifiers key) id
  · rw [requests]
    intro input press member
    rcases List.mem_append.mp member with before | last
    · exact sound.names input press before
    · exact names input press (List.mem_singleton.mp last).symm
  · rw [InputSystem.finalKeys, reached] at down
    dsimp only at down
    rw [unflushed] at down
    have behind : key ∈ keysAfter system.keyboard.waiting
        (commandKeys (system.reached system.keyboard.sending) command) := down
    by_cases all : command = .releaseAll
    · -- The queue presses nothing that the release of everything would have to release.
      have none := overtakes all
      subst all
      rw [show commandKeys _ MachineCommand.releaseAll = [] from rfl, none] at behind
      cases behind
    · exact keysAfter_commandKeys names _ key behind all
  · rw [InputSystem.finalJoysticks, requests, List.foldl_append] at down
    exact down
  · rw [unflushed]
    rintro ⟨⟩

theorem InputSound.acts (sound : InputSound system) (unflushed : system.flushDue = false)
    {action : Option ClickAction} (fits : ActionFits system action) (named : ActionNamed action)
    (overtakes : action = some (.command .releaseAll) → NoPressWaits system)
    {source : InteractSource} {hostDown : List (UInt32 × UInt32)}
    (alike : HoldsAlike system action source hostDown) :
    InputSound (queueAction { system with source := source, hostDown := hostDown } action) := by
  match action with
  | none =>
    exact ⟨sound.undemoted, sound.batch, sound.phase, sound.flushed, sound.names, alike.keys,
      alike.joysticks, alike.slots, alike.distinct, alike.hosts, alike.captured,
      fun due => absurd (due.symm.trans unflushed) (by decide)⟩
  | some (.command command) =>
    exact sound.asks unflushed fits named (fun all => overtakes (by rw [all])) alike
  | some (.output output transition) => exact sound.types unflushed fits alike

end Queued

section Table

variable {slots : List HeldKey} {vkey : UInt32}

theorem c64FindHeldSlot_mem {source : InteractSource} {slot : HeldKey}
    (found : c64FindHeldSlot source vkey = some slot) :
    slot ∈ source.heldKeys ∧ slot.vkey = vkey :=
  ⟨List.mem_of_find?_eq_some found, by simpa using List.find?_some found⟩

theorem c64FindHeldSlot_absent {source : InteractSource}
    (absent : c64FindHeldSlot source vkey = none) : ∀ slot ∈ source.heldKeys, slot.vkey ≠ vkey := by
  intro slot held same
  have none := List.find?_eq_none.mp absent slot held
  simp [same] at none

theorem mem_eraseP_iff (distinct : (slots.map (·.vkey)).Nodup) {slot : HeldKey} :
    slot ∈ slots.eraseP (·.vkey == vkey) ↔ slot ∈ slots ∧ slot.vkey ≠ vkey := by
  induction slots with
  | nil => simp
  | cons head rest ih =>
    obtain ⟨fresh, others⟩ := List.nodup_cons.mp distinct
    by_cases same : head.vkey = vkey
    · -- The head is the one that goes, and no slot behind it has its code.
      rw [List.eraseP_cons_of_pos (by simpa using same)]
      constructor
      · intro member
        refine ⟨List.mem_cons_of_mem _ member, fun equal => fresh ?_⟩
        exact List.mem_map.mpr ⟨slot, member, equal.trans same.symm⟩
      · rintro ⟨member, other⟩
        rcases List.mem_cons.mp member with rfl | member
        · exact absurd same other
        · exact member
    · rw [List.eraseP_cons_of_neg (by simpa using same), List.mem_cons, List.mem_cons, ih others]
      constructor
      · rintro (rfl | ⟨member, other⟩)
        · exact ⟨.inl rfl, same⟩
        · exact ⟨.inr member, other⟩
      · rintro ⟨rfl | member, other⟩
        · exact .inl rfl
        · exact .inr ⟨member, other⟩

theorem mem_hostDownAfter {hostDown : List (UInt32 × UInt32)} {event : ObsKeyEvent} {keyUp : Bool}
    {key : UInt32 × UInt32} (down : key ∈ hostDown)
    (other : keyUp = true → key.1 ≠ event.nativeVkey) :
    key ∈ hostDownAfter hostDown event keyUp := by
  unfold hostDownAfter
  cases keyUp with
  | true =>
    refine List.mem_filter.mpr ⟨down, ?_⟩
    have apart : key ≠ (event.nativeVkey, event.nativeScancode) := fun same =>
      other rfl (by rw [same])
    simpa using apart
  | false =>
    dsimp only
    rw [if_neg Bool.false_ne_true]
    split
    · exact down
    · exact List.mem_cons_of_mem _ down

theorem pressed_mem_hostDownAfter (hostDown : List (UInt32 × UInt32)) (event : ObsKeyEvent) :
    (event.nativeVkey, event.nativeScancode) ∈ hostDownAfter hostDown event false := by
  unfold hostDownAfter
  dsimp only
  rw [if_neg Bool.false_ne_true]
  split
  · assumption
  · exact List.mem_cons_self

theorem InputSound.room {system : InputSystem} (sound : InputSound system) {event : ObsKeyEvent}
    (few : (hostDownAfter system.hostDown event false).length ≤ heldKeysSize)
    (absent : c64FindHeldSlot system.source event.nativeVkey = none) :
    system.source.heldKeys.length < heldKeysSize := by
  have fresh : event.nativeVkey ∉ system.source.heldKeys.map (·.vkey) := by
    intro member
    obtain ⟨slot, held, same⟩ := List.mem_map.mp member
    exact c64FindHeldSlot_absent absent slot held same
  have distinct : (event.nativeVkey :: system.source.heldKeys.map (·.vkey)).Nodup :=
    List.nodup_cons.mpr ⟨fresh, sound.distinct⟩
  have down : ∀ vkey ∈ event.nativeVkey :: system.source.heldKeys.map (·.vkey),
      vkey ∈ (hostDownAfter system.hostDown event false).map (·.1) := by
    intro vkey member
    rcases List.mem_cons.mp member with rfl | member
    · exact List.mem_map.mpr ⟨_, pressed_mem_hostDownAfter system.hostDown event, rfl⟩
    · obtain ⟨slot, held, rfl⟩ := List.mem_map.mp member
      obtain ⟨scancode, host⟩ := sound.hosts slot held
      exact List.mem_map.mpr ⟨_, mem_hostDownAfter host nofun, rfl⟩
  have shorter := (List.subperm_of_subset distinct down).length_le
  simp only [List.length_cons, List.length_map] at shorter
  omega

end Table

section Steps

variable {system : InputSystem} {positional : Bool}

theorem InputSound.alike_rests (sound : InputSound system) {event : ObsKeyEvent} {keyUp : Bool}
    {action : Option ClickAction} {next : InteractSource}
    (captured : next.keyboardCaptureActive = system.source.keyboardCaptureActive)
    (held : next.heldKeys = system.source.heldKeys) (idle : ActionRests action)
    (absent : keyUp = true → c64FindHeldSlot system.source event.nativeVkey = none) :
    HoldsAlike system action next (hostDownAfter system.hostDown event keyUp) := by
  refine ⟨?_, ?_, ?_, ?_, ?_, ?_⟩
  · rw [idle.1, held]
    exact sound.keys
  · rw [idle.2, held]
    exact sound.joysticks
  · rw [held]
    exact sound.slots
  · rw [held]
    exact sound.distinct
  · rw [held]
    intro slot member
    obtain ⟨scancode, down⟩ := sound.hosts slot member
    exact ⟨scancode, mem_hostDownAfter down fun up =>
      c64FindHeldSlot_absent (absent up) slot member⟩
  · rw [captured, held]
    exact sound.captured

theorem InputSound.alike_presses (sound : InputSound system) {event : ObsKeyEvent}
    {action : Option ClickAction} {next : InteractSource} {slot : HeldKey}
    (captured : next.keyboardCaptureActive = true)
    (absent : c64FindHeldSlot system.source event.nativeVkey = none)
    (own : slot.vkey = event.nativeVkey) (fits : SlotFits slot)
    (held : next.heldKeys = slot :: system.source.heldKeys)
    (moves : ActionMoves action true slot.input) :
    HoldsAlike system action next (hostDownAfter system.hostDown event false) := by
  refine ⟨fun key down => ?_, fun stick down => ?_, ?_, ?_, ?_, ?_⟩
  · rw [held]
    cases input : slot.input with
    | key name =>
      rw [input] at moves
      rw [moves.1] at down
      rcases List.mem_cons.mp down with rfl | before
      · exact ⟨slot, List.mem_cons_self, input⟩
      · obtain ⟨other, member, same⟩ := sound.keys key before
        exact ⟨other, List.mem_cons_of_mem _ member, same⟩
    | joystick port name =>
      rw [input] at moves
      rw [moves.1] at down
      obtain ⟨other, member, same⟩ := sound.keys key down
      exact ⟨other, List.mem_cons_of_mem _ member, same⟩
  · rw [held]
    cases input : slot.input with
    | key name =>
      rw [input] at moves
      rw [moves.2] at down
      obtain ⟨other, member, same⟩ := sound.joysticks stick down
      exact ⟨other, List.mem_cons_of_mem _ member, same⟩
    | joystick port name =>
      rw [input] at moves
      rw [moves.2] at down
      rcases List.mem_cons.mp down with rfl | before
      · exact ⟨slot, List.mem_cons_self, input⟩
      · obtain ⟨other, member, same⟩ := sound.joysticks stick before
        exact ⟨other, List.mem_cons_of_mem _ member, same⟩
  · rw [held]
    exact List.forall_mem_cons.mpr ⟨fits, sound.slots⟩
  · rw [held, List.map_cons]
    refine List.nodup_cons.mpr ⟨fun member => ?_, sound.distinct⟩
    obtain ⟨other, inside, same⟩ := List.mem_map.mp member
    exact c64FindHeldSlot_absent absent other inside (same.trans own)
  · rw [held]
    refine List.forall_mem_cons.mpr ⟨⟨event.nativeScancode, ?_⟩, fun other member => ?_⟩
    · rw [own]
      exact pressed_mem_hostDownAfter system.hostDown event
    · obtain ⟨scancode, down⟩ := sound.hosts other member
      exact ⟨scancode, mem_hostDownAfter down nofun⟩
  · rw [captured]
    nofun

theorem InputSound.alike_releases (sound : InputSound system) {event : ObsKeyEvent}
    {action : Option ClickAction} {next : InteractSource} {slot : HeldKey}
    (captured : next.keyboardCaptureActive = system.source.keyboardCaptureActive)
    (found : c64FindHeldSlot system.source event.nativeVkey = some slot)
    (held : next.heldKeys = system.source.heldKeys.eraseP (·.vkey == event.nativeVkey))
    (moves : ActionMoves action false slot.input) :
    HoldsAlike system action next (hostDownAfter system.hostDown event true) := by
  obtain ⟨inside, own⟩ := c64FindHeldSlot_mem found
  -- A slot with another input is another slot, and has another code.
  have stays : ∀ other ∈ system.source.heldKeys, other.input ≠ slot.input →
      other ∈ next.heldKeys := by
    intro other member apart
    rw [held, mem_eraseP_iff sound.distinct]
    refine ⟨member, fun same => apart ?_⟩
    rw [List.inj_on_of_nodup_map sound.distinct member inside (same.trans own.symm)]
  refine ⟨fun key down => ?_, fun stick down => ?_, ?_, ?_, ?_, ?_⟩
  · cases input : slot.input with
    | key name =>
      rw [input] at moves stays
      rw [moves.1] at down
      obtain ⟨before, apart⟩ := List.mem_filter.mp down
      obtain ⟨other, member, same⟩ := sound.keys key before
      refine ⟨other, stays other member fun equal => ?_, same⟩
      have name := DeviceInput.key.inj (same.symm.trans equal)
      simp [name] at apart
    | joystick port name =>
      rw [input] at moves stays
      rw [moves.1] at down
      obtain ⟨other, member, same⟩ := sound.keys key down
      exact ⟨other, stays other member (by rw [same]; nofun), same⟩
  · cases input : slot.input with
    | key name =>
      rw [input] at moves stays
      rw [moves.2] at down
      obtain ⟨other, member, same⟩ := sound.joysticks stick down
      exact ⟨other, stays other member (by rw [same]; nofun), same⟩
    | joystick port name =>
      rw [input] at moves stays
      rw [moves.2] at down
      obtain ⟨before, apart⟩ := List.mem_filter.mp down
      obtain ⟨other, member, same⟩ := sound.joysticks stick before
      refine ⟨other, stays other member fun equal => ?_, same⟩
      obtain ⟨samePort, sameName⟩ := DeviceInput.joystick.inj (same.symm.trans equal)
      simp [← samePort, ← sameName] at apart
  · intro other member
    rw [held, mem_eraseP_iff sound.distinct] at member
    exact sound.slots other member.1
  · rw [held]
    exact (List.eraseP_sublist.map _).nodup sound.distinct
  · intro other member
    rw [held, mem_eraseP_iff sound.distinct] at member
    obtain ⟨scancode, down⟩ := sound.hosts other member.1
    exact ⟨scancode, mem_hostDownAfter down fun _ => member.2⟩
  · intro lost
    rw [held, sound.captured (captured ▸ lost)]
    rfl

theorem alike_none {action : Option ClickAction} {next : InteractSource}
    {hostDown : List (UInt32 × UInt32)} (held : next.heldKeys = [])
    (keys : actionKeys action system.finalKeys = [])
    (joysticks : actionJoysticks action system.finalJoysticks = []) :
    HoldsAlike system action next hostDown := by
  refine ⟨?_, ?_, ?_, ?_, ?_, fun _ => held⟩
  · rw [keys]
    exact List.forall_mem_nil _
  · rw [joysticks]
    exact List.forall_mem_nil _
  · rw [held]
    exact List.forall_mem_nil _
  · rw [held]
    exact List.nodup_nil
  · rw [held]
    exact List.forall_mem_nil _

theorem releaseAll_not_moves {press : Bool} {input : DeviceInput} :
    ¬ ActionMoves (some (.command .releaseAll)) press input := by
  intro moves
  cases input with
  | key name =>
    have kept : ([] : List (Nat × String)) = [(1, name)] := moves.2 [(1, name)]
    cases kept
  | joystick port name =>
    have kept : ([] : List String) = [name] := moves.1 [name]
    cases kept

theorem InputSound.clicks (sound : InputSound system) {event : ObsKeyEvent} {keyUp : Bool}
    {lookup : KeyLookup} (smooth : RunsSmoothly positional system (.keyClick event keyUp lookup))
    (loses : LosesNoRelease positional system (.keyClick event keyUp lookup)) :
    InputSound (inputStep positional system (.keyClick event keyUp lookup)) := by
  unfold inputStep
  dsimp only
  by_cases due : system.flushDue = true
  · rw [if_pos due]
    exact sound
  rw [if_neg due]
  have unflushed : system.flushDue = false := by simpa using due
  obtain ⟨few, fits⟩ := smooth
  have clicked := @c64KeyClick_clicked system.source keyUp lookup positional event sound.slots
    sound.captured (fun down absent => sound.room (by rwa [down] at few) absent)
    (fun up => by
      subst up
      exact loses)
  generalize c64KeyClick positional system.source event keyUp lookup = click at fits clicked
  obtain ⟨next, action⟩ := click
  refine sound.acts unflushed fits clicked.named ?_ ?_
  · rintro rfl
    cases clicked.outcome with
    | rests held idle absent =>
      have kept : ([] : List String) = ["a"] := idle.1 ["a"]
      cases kept
    | presses down absent slot own fits active held moves =>
      exact (releaseAll_not_moves moves).elim
    | releases up slot found held moves => exact (releaseAll_not_moves moves).elim
    | releasesAll down active joysticks hotkey held all =>
      subst down
      exact loses active joysticks hotkey
  · cases clicked.outcome with
    | rests held idle absent => exact sound.alike_rests clicked.captured held idle absent
    | presses down absent slot own fits active held moves =>
      subst down
      exact sound.alike_presses (clicked.captured.trans active) absent own fits held moves
    | releases up slot found held moves =>
      subst up
      exact sound.alike_releases clicked.captured found held moves
    | releasesAll down active joysticks hotkey held all =>
      subst all
      exact alike_none held rfl rfl

theorem InputSound.updates (sound : InputSound system) {mode : Bool} {port : Nat}
    (smooth : RunsSmoothly positional system (.update mode port))
    (loses : LosesNoRelease positional system (.update mode port)) :
    InputSound (inputStep positional system (.update mode port)) := by
  unfold inputStep
  dsimp only
  by_cases due : system.flushDue = true
  · rw [if_pos due]
    exact sound
  rw [if_neg due]
  have unflushed : system.flushDue = false := by simpa using due
  have fits : ActionFits system ((updateJoystick system.source mode port).2.map .command) := smooth
  unfold updateJoystick c64ReleaseJoystickInputs at fits ⊢
  dsimp only at fits ⊢
  by_cases leaves : (system.source.joystickModeActive && (!mode ||
      system.source.joystickEmulationPort != if port = 1 ∨ port = 2 then port else 2)) = true
  · have active := (Bool.and_eq_true_iff.mp leaves).1
    have changed := (Bool.and_eq_true_iff.mp leaves).2
    rw [if_pos leaves, if_pos active] at fits ⊢
    refine sound.acts unflushed fits (by rintro _ _ asked; cases asked) (fun _ => ?_)
      (alike_none rfl rfl rfl)
    refine loses active ?_
    rcases Bool.or_eq_true_iff.mp changed with off | moved
    · exact .inl (by simpa using off)
    · exact .inr (by simpa using moved)
  · rw [if_neg leaves]
    exact @InputSound.acts system sound unflushed none trivial nofun nofun _ system.hostDown
      ⟨sound.keys, sound.joysticks, sound.slots, sound.distinct, sound.hosts, sound.captured⟩

theorem InputSound.releasesFocus (sound : InputSound system) {source : InteractSource}
    (held : source.heldKeys = []) (lost : source.keyboardCaptureActive = false) :
    InputSound { system with
      source := source
      flushDue := true
      commands := system.commands ++ [.releaseAll] } := by
  have requests : InputSystem.requests { system with
      source := source
      flushDue := true
      commands := system.commands ++ [.releaseAll] } = system.requests ++ [.releaseAll] :=
    requests_queued .releaseAll
  have reached : ∀ entries, InputSystem.reached { system with
      source := source
      flushDue := true
      commands := system.commands ++ [.releaseAll] } entries = [] := by
    intro entries
    rw [InputSystem.reached, requests, List.foldl_append]
    rfl
  refine ⟨sound.undemoted, sound.batch, sound.phase, .inr ?_, ?_, ?_, ?_, ?_, ?_, ?_,
    fun _ => held, fun _ => lost⟩
  · rw [reached]
    exact List.forall_mem_nil _
  · rw [requests]
    intro input press member
    rcases List.mem_append.mp member with before | last
    · exact sound.names input press before
    · cases List.mem_singleton.mp last
  · rw [InputSystem.finalKeys, if_pos rfl, reached]
    exact List.forall_mem_nil _
  · rw [InputSystem.finalJoysticks, requests, List.foldl_append]
    exact List.forall_mem_nil _
  · rw [held]
    exact List.forall_mem_nil _
  · rw [held]
    exact List.nodup_nil
  · rw [held]
    exact List.forall_mem_nil _

theorem InputSound.leavesFocus (sound : InputSound system) {source : InteractSource}
    (held : source.heldKeys = []) (same : system.source.heldKeys = [])
    (lost : source.keyboardCaptureActive = false)
    (none : system.reached system.keyboard.sending = []) :
    InputSound { system with source := source, flushDue := true } := by
  have joysticks := sound.joysticks
  rw [same] at joysticks
  refine ⟨sound.undemoted, sound.batch, sound.phase, sound.flushed, sound.names, ?_, ?_, ?_, ?_,
    ?_, fun _ => held, fun _ => lost⟩
  · have reached : InputSystem.reached { system with source := source, flushDue := true }
        system.keyboard.sending = [] := none
    rw [InputSystem.finalKeys, if_pos rfl, reached]
    exact List.forall_mem_nil _
  · rw [held]
    exact joysticks
  · rw [held]
    exact List.forall_mem_nil _
  · rw [held]
    exact List.nodup_nil
  · rw [held]
    exact List.forall_mem_nil _

theorem InputSound.focuses (sound : InputSound system) {focus : Bool}
    (smooth : RunsSmoothly positional system (.focus focus))
    (loses : LosesNoRelease positional system (.focus focus)) :
    InputSound (inputStep positional system (.focus focus)) := by
  have queued : system.commands.length < cmdQueueSize →
      ∀ source, queueAction { system with source := source, flushDue := true }
        (some (.command .releaseAll)) = { system with
          source := source
          flushDue := true
          commands := system.commands ++ [.releaseAll] } := fun room source =>
    if_neg (Nat.not_le.mpr room)
  have fits : ActionFits system ((c64Focus system.source focus).2.1.map .command) ∧
      ActionFits system ((c64Focus system.source focus).2.2.map .command) := smooth
  unfold inputStep
  dsimp only
  by_cases due : system.flushDue = true
  · rw [if_pos due]
    exact sound
  rw [if_neg due]
  have unflushed : system.flushDue = false := by simpa using due
  cases focus with
  | true =>
    rw [if_pos rfl]
    exact ⟨sound.undemoted, sound.batch, sound.phase, sound.flushed, sound.names, sound.keys,
      sound.joysticks, sound.slots, sound.distinct, sound.hosts, nofun,
      fun flushes => absurd (flushes.symm.trans unflushed) (by decide)⟩
  | false =>
    rw [if_neg Bool.false_ne_true]
    by_cases active : system.source.keyboardCaptureActive = true
    · rw [if_pos active]
      rw [c64Focus, if_neg Bool.false_ne_true, if_pos active] at fits ⊢
      unfold c64ReleaseJoystickInputs c64ReleaseHeldKeys at fits ⊢
      dsimp only at fits ⊢
      cases mode : system.source.joystickModeActive with
      | true =>
        -- The joystick mode is left with a release of everything, and the table is empty then.
        rw [mode, if_pos rfl] at fits
        rw [if_pos rfl]
        dsimp only
        rw [if_pos rfl]
        change InputSound (queueAction { system with source := _, flushDue := true }
          (some (.command .releaseAll)))
        rw [queued fits.1]
        exact sound.releasesFocus rfl rfl
      | false =>
        rw [mode, if_neg Bool.false_ne_true] at fits
        rw [if_neg Bool.false_ne_true]
        dsimp only at fits ⊢
        by_cases held : system.source.heldKeys = []
        · rw [if_pos held]
          exact sound.leavesFocus held held rfl (loses rfl active mode held)
        · rw [if_neg held] at fits ⊢
          change InputSound (queueAction { system with source := _, flushDue := true }
            (some (.command .releaseAll)))
          rw [queued fits.2]
          exact sound.releasesFocus rfl rfl
    · rw [if_neg active]
      exact sound

theorem InputSound.flushes (sound : InputSound system) :
    InputSound (inputStep positional system .finishFocus) := by
  unfold inputStep
  dsimp only
  by_cases due : system.flushDue = true
  · rw [if_pos due]
    have none := sound.captured (sound.flush due)
    have empty : system.reached system.keyboard.sending = [] := by
      have keys := sound.keys
      rw [InputSystem.finalKeys, if_pos due, none] at keys
      rw [List.eq_nil_iff_forall_not_mem]
      intro key down
      obtain ⟨_, member, _⟩ := keys key down
      cases member
    have reached : InputSystem.reached { system with
        keyboard := c64KeyboardSetCapture system.keyboard false, flushDue := false }
          (c64KeyboardSetCapture system.keyboard false).sending = [] := empty
    refine ⟨sound.undemoted, sound.batch, sound.phase, .inr ?_, sound.names, ?_, sound.joysticks,
      sound.slots, sound.distinct, sound.hosts, sound.captured, by rintro ⟨⟩⟩
    · rw [reached]
      exact List.forall_mem_nil _
    · rw [InputSystem.finalKeys, if_neg Bool.false_ne_true, reached, Keyboard.waiting]
      change ∀ key ∈ keysAfter (([] : List KeyEntry).drop _) [], _
      rw [List.drop_nil]
      exact List.forall_mem_nil _
  · rw [if_neg due]
    exact sound

theorem InputSound.step (sound : InputSound system) {op : InputOp}
    (smooth : RunsSmoothly positional system op) (loses : LosesNoRelease positional system op) :
    InputSound (inputStep positional system op) := by
  cases op with
  | keyClick event keyUp lookup => exact sound.clicks smooth loses
  | focus focus => exact sound.focuses smooth loses
  | finishFocus => exact sound.flushes
  | update mode port => exact sound.updates smooth loses
  | worker answer => exact sound.worker positional smooth loses

end Steps

section Runs

/-- A source that was just created, with the settings of the joystick and a transport. -/
def freshSystem (transport : Transport) (joystickMode : Bool) (port : Nat) : InputSystem where
  source :=
    { keyboardCaptureActive := false
      joystickModeActive := joystickMode
      joystickEmulationPort := port
      flags := ⟨false, false, false, false, false, false, false⟩
      heldKeys := [] }
  keyboard := { initialKeyboard with transport }
  commands := []
  worker := .commands
  flushDue := false
  keysDown := []
  joysticksDown := []
  hostDown := []

theorem freshSystem_sound (transport : Transport) (joystickMode : Bool) (port : Nat) :
    InputSound (freshSystem transport joystickMode port) where
  undemoted := rfl
  batch := nofun
  phase := fun _ => rfl
  flushed := .inl (Nat.zero_le _)
  names := nofun
  keys := nofun
  joysticks := nofun
  slots := nofun
  distinct := List.nodup_nil
  hosts := nofun
  captured := fun _ => rfl
  flush := nofun

/-- In every run whose steps lose no release, nothing stays down: once every key of the host is up
or the focus is lost and the queues are empty, all that was pressed was released. -/
theorem interactiveInput_released (positional : Bool) (transport : Transport)
    (joystickMode : Bool) (port : Nat) (ops : List InputOp)
    (smooth : EachStep (inputStep positional) (RunsSmoothly positional)
      (freshSystem transport joystickMode port) ops)
    (loses : EachStep (inputStep positional) (LosesNoRelease positional)
      (freshSystem transport joystickMode port) ops) :
    Always (inputStep positional) InputSystem.NothingSticks
      (freshSystem transport joystickMode port) ops := by
  refine (@always_of_eachStep _ _ (inputStep positional) InputSound
    (fun system op => RunsSmoothly positional system op ∧ LosesNoRelease positional system op)
    (fun _ _ sound meets => sound.step meets.1 meets.2) _ ops (smooth.and loses)
    (freshSystem_sound transport joystickMode port)).imp fun _ sound => sound.nothingSticks

def keyEvent (vkey : UInt32) : ObsKeyEvent := ⟨vkey, 0, ⟨false, false, false, false⟩, []⟩

/-- The cursor key to the right, which the keymap makes the cursor key of the machine. -/
def cursorRight (keyUp : Bool) : InputOp :=
  .keyClick (keyEvent 0x27) keyUp ⟨some ("Right", []), some (.petscii 0x1D)⟩

/-- The key that toggles the joystick mode. -/
def toggleKey (keyUp : Bool) : InputOp :=
  .keyClick (keyEvent 0x79) keyUp ⟨some ("F10", []), none⟩

def workedOff (count : Nat) : List InputOp := List.replicate count (.worker answered)

/-- A key is typed, and a joystick direction after it. -/
def typedAndSteered : List InputOp :=
  [.focus true, cursorRight false] ++ workedOff 8 ++ [cursorRight true] ++ workedOff 8 ++
    [toggleKey false, toggleKey true, cursorRight false] ++ workedOff 4 ++ [cursorRight true] ++
    workedOff 4

/-- What goes up the way it went down does not stay down. -/
theorem typedAndSteered_released :
    Always (inputStep false) InputSystem.NothingSticks (freshSystem .auto false 2)
      typedAndSteered :=
  interactiveInput_released false .auto false 2 typedAndSteered (by decide +kernel)
    (by decide +kernel)

/-- The mode is toggled while the key is down. -/
def toggledMeanwhile : List InputOp :=
  [.focus true, cursorRight false] ++ workedOff 8 ++
    [toggleKey false, toggleKey true, cursorRight true] ++ workedOff 8

/-- The key-up is sent as that of a joystick direction then, and the cursor key stays down. -/
theorem toggledMeanwhile_sticks :
    EachStep (inputStep false) (RunsSmoothly false) (freshSystem .auto false 2)
        toggledMeanwhile ∧
      ¬ Always (inputStep false) InputSystem.NothingSticks (freshSystem .auto false 2)
        toggledMeanwhile ∧
      (toggledMeanwhile.foldl (inputStep false) (freshSystem .auto false 2)).keysDown =
        ["cursor_left_right"] := by
  decide +kernel

end Runs

end C64Stream
