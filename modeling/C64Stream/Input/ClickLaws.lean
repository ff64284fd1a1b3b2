import C64Stream.Input.HeldInputs

/-! What a click of a key queues, and how the table of held keys stays in step with the device. -/

namespace C64Stream

section Actions

/-- The keys that are down once an action is carried out. -/
def actionKeys (action : Option ClickAction) (keys : List String) : List String :=
  match action with
  | none => keys
  | some (.command command) => commandKeys keys command
  | some (.output output transition) =>
    match c64KeyboardOutputIsHoldable output with
    | some byte => holdKey keys (byte, transition)
    | none => keys

/-- The joystick inputs that are down once an action is carried out. -/
def actionJoysticks (action : Option ClickAction) (joysticks : List (Nat × String)) :
    List (Nat × String) :=
  match action with
  | some (.command command) => commandJoysticks joysticks command
  | _ => joysticks

/-- An action that presses and releases nothing. -/
def ActionRests (action : Option ClickAction) : Prop :=
  (∀ keys, actionKeys action keys = keys) ∧
    ∀ joysticks, actionJoysticks action joysticks = joysticks

/-- An action that presses or releases one input, and nothing else. -/
def ActionMoves (action : Option ClickAction) (press : Bool) (input : DeviceInput) : Prop :=
  match input with
  | .key name =>
    (∀ keys, actionKeys action keys = if press then name :: keys else keys.filter (· ≠ name)) ∧
      ∀ joysticks, actionJoysticks action joysticks = joysticks
  | .joystick port name =>
    (∀ keys, actionKeys action keys = keys) ∧
      ∀ joysticks, actionJoysticks action joysticks =
        if press then (port, name) :: joysticks else joysticks.filter (· ≠ (port, name))

/-- The keys that an action requests by their names are those of modifiers. -/
def ActionNamed (action : Option ClickAction) : Prop :=
  ∀ input press, action = some (.command (.key input press)) → input ∈ modifierKeys

theorem tap_rests (output : C64Output) : ActionRests (some (.output output .tap)) := by
  refine ⟨fun keys => ?_, fun _ => rfl⟩
  unfold actionKeys holdKey
  dsimp only
  cases c64KeyboardOutputIsHoldable output with
  | none => rfl
  | some byte =>
    dsimp only
    cases petsciiToMatrix byte <;> rfl

theorem matrix_of_holdable {output : C64Output} {byte : UInt8}
    (holdable : c64KeyboardOutputIsHoldable output = some byte) :
    ∃ name, petsciiToMatrix byte = some (name, false) := by
  have known : ∀ value, c64KeyboardOutputIsHoldable (.petscii value) = some byte →
      ∃ name, petsciiToMatrix byte = some (name, false) := by
    intro value same
    simp only [c64KeyboardOutputIsHoldable] at same
    split at same
    · rename_i name mapped
      obtain rfl := Option.some.inj same
      exact ⟨name, mapped⟩
    · cases same
  unfold c64KeyboardOutputIsHoldable at holdable
  cases output with
  | text bytes => cases holdable
  | petscii value => exact known value holdable
  | symbolic name => exact known _ holdable

theorem holdable_of_matrix {byte : UInt8} {name : String}
    (mapped : petsciiToMatrix byte = some (name, false)) :
    c64KeyboardOutputIsHoldable (.petscii byte) = some byte := by
  unfold c64KeyboardOutputIsHoldable
  dsimp only
  rw [mapped]

end Actions

section Clicks

/-- What becomes of the table of held keys with a click, and what its action does with it. -/
inductive ClickOutcome (source : InteractSource) (vkey : UInt32) (keyUp : Bool)
    (lookup : KeyLookup) (next : InteractSource) (action : Option ClickAction) : Prop where
  | rests (held : next.heldKeys = source.heldKeys) (idle : ActionRests action)
      (absent : keyUp = true → c64FindHeldSlot source vkey = none)
  | presses (down : keyUp = false) (absent : c64FindHeldSlot source vkey = none)
      (slot : HeldKey) (own : slot.vkey = vkey) (fits : SlotFits slot)
      (active : source.keyboardCaptureActive = true)
      (held : next.heldKeys = slot :: source.heldKeys) (moves : ActionMoves action true slot.input)
  | releases (up : keyUp = true) (slot : HeldKey) (found : c64FindHeldSlot source vkey = some slot)
      (held : next.heldKeys = source.heldKeys.eraseP (·.vkey == vkey))
      (moves : ActionMoves action false slot.input)
  | releasesAll (down : keyUp = false) (active : source.keyboardCaptureActive = true)
      (joysticks : source.joystickModeActive = true)
      (hotkey : lookup.key.map (·.1) ∈ [some "F10", some "F11"]) (held : next.heldKeys = [])
      (all : action = some (.command .releaseAll))

/-- A click leaves the capture as it is, and has one of the outcomes. -/
structure Clicked (source : InteractSource) (vkey : UInt32) (keyUp : Bool) (lookup : KeyLookup)
    (click : InteractSource × Option ClickAction) : Prop where
  captured : click.1.keyboardCaptureActive = source.keyboardCaptureActive
  named : ActionNamed click.2
  outcome : ClickOutcome source vkey keyUp lookup click.1 click.2

variable {source : InteractSource} {vkey : UInt32} {keyUp : Bool} {lookup : KeyLookup}

theorem Clicked.ofFlags {flags : ChordFlags} {click : InteractSource × Option ClickAction}
    (clicked : Clicked { source with flags } vkey keyUp lookup click) :
    Clicked source vkey keyUp lookup click := by
  refine ⟨clicked.captured, clicked.named, ?_⟩
  cases clicked.outcome with
  | rests held idle absent => exact .rests held idle absent
  | presses down absent slot own fits active held moves =>
    exact .presses down absent slot own fits active held moves
  | releases up slot found held moves => exact .releases up slot found held moves
  | releasesAll down active joysticks hotkey held all =>
    exact .releasesAll down active joysticks hotkey held all

theorem Clicked.nothing {next : InteractSource} {action : Option ClickAction}
    (captured : next.keyboardCaptureActive = source.keyboardCaptureActive)
    (named : ActionNamed action) (held : next.heldKeys = source.heldKeys)
    (idle : ActionRests action)
    (absent : keyUp = true → c64FindHeldSlot source vkey = none) :
    Clicked source vkey keyUp lookup (next, action) :=
  ⟨captured, named, .rests held idle absent⟩

theorem Clicked.switch {click : InteractSource × Option ClickAction} {slot : HeldKey}
    {press release : Option ClickAction} (own : slot.vkey = vkey) (fits : SlotFits slot)
    (active : source.keyboardCaptureActive = true)
    (presses : ActionMoves press true slot.input) (pressNamed : ActionNamed press)
    (releases : ActionMoves release false slot.input) (releaseNamed : ActionNamed release)
    (same : click = match c64FindHeldSlot source vkey, keyUp with
      | none, false => (holdSlot source slot, press)
      | some _, true => (freeSlot source vkey, release)
      | _, _ => (source, none))
    (room : keyUp = false → c64FindHeldSlot source vkey = none →
      source.heldKeys.length < heldKeysSize)
    (routed : keyUp = true → ∀ held ∈ c64FindHeldSlot source vkey, held.input = slot.input) :
    Clicked source vkey keyUp lookup click := by
  subst same
  have rests : ActionRests none := ⟨fun _ => rfl, fun _ => rfl⟩
  cases found : c64FindHeldSlot source vkey with
  | none =>
    cases keyUp with
    | false =>
      dsimp only
      rw [holdSlot, if_pos (room rfl found)]
      exact ⟨rfl, pressNamed, .presses rfl found slot own fits active rfl presses⟩
    | true => exact .nothing rfl nofun rfl rests fun _ => found
  | some held =>
    cases keyUp with
    | false => exact .nothing rfl nofun rfl rests nofun
    | true =>
      refine ⟨rfl, releaseNamed, .releases rfl held found rfl ?_⟩
      rw [routed rfl held found]
      exact releases

theorem clickChord_clicked (absent : keyUp = true → c64FindHeldSlot source vkey = none) :
    Clicked source vkey keyUp lookup (clickChord source lookup keyUp) := by
  unfold clickChord
  dsimp only
  refine .nothing rfl ?_ rfl ?_ absent
  · intro input press asked
    split at asked
    · cases converted : lookup.converted <;> rw [converted] at asked <;> cases asked
    · cases asked
  · split
    · cases lookup.converted with
      | none => exact ⟨fun _ => rfl, fun _ => rfl⟩
      | some output => exact tap_rests output
    · exact ⟨fun _ => rfl, fun _ => rfl⟩

theorem clickUp_clicked
    (routed : ∀ slot ∈ c64FindHeldSlot source vkey, slot.isJoystick = false ∧
      ∃ name, slot.input = .key name ∧ petsciiToMatrix slot.outputByte = some (name, false)) :
    Clicked source vkey true lookup (clickUp source vkey) := by
  unfold clickUp
  cases found : c64FindHeldSlot source vkey with
  | none => exact .nothing rfl nofun rfl ⟨fun _ => rfl, fun _ => rfl⟩ fun _ => found
  | some slot =>
    obtain ⟨typed, name, input, mapped⟩ := routed slot found
    dsimp only
    rw [typed, if_neg Bool.false_ne_true]
    refine ⟨rfl, nofun, .releases rfl slot found rfl ?_⟩
    rw [input]
    refine ⟨fun keys => ?_, fun _ => rfl⟩
    simp only [actionKeys, holdable_of_matrix mapped, holdKey, mapped]
    rfl

theorem clickType_clicked (active : source.keyboardCaptureActive = true)
    (room : c64FindHeldSlot source vkey = none → source.heldKeys.length < heldKeysSize) :
    Clicked source vkey false lookup (clickType source vkey lookup) := by
  have rests : ActionRests none := ⟨fun _ => rfl, fun _ => rfl⟩
  unfold clickType
  generalize armed : (if source.flags.ctrlMetaArmed then
      { source with flags := { source.flags with ctrlMetaConsumed := true } }
    else source) = next
  have held : next.heldKeys = source.heldKeys := by
    rw [← armed]
    split <;> rfl
  have captured : next.keyboardCaptureActive = source.keyboardCaptureActive := by
    rw [← armed]
    split <;> rfl
  have finds : c64FindHeldSlot next vkey = c64FindHeldSlot source vkey := by
    rw [c64FindHeldSlot, c64FindHeldSlot, held]
  dsimp only
  rw [finds]
  cases converted : lookup.converted with
  | none => exact .nothing captured nofun held rests nofun
  | some output =>
    dsimp only
    cases holdable : c64KeyboardOutputIsHoldable output with
    | none => exact .nothing captured nofun held (tap_rests output) nofun
    | some byte =>
      dsimp only
      cases found : c64FindHeldSlot source vkey with
      | some slot => exact .nothing captured nofun held rests nofun
      | none =>
        obtain ⟨name, mapped⟩ := matrix_of_holdable holdable
        have space := room found
        rw [if_neg (by simp), held, if_pos space, holdSlot, held, if_pos space, mapped]
        refine ⟨captured, nofun, .presses rfl found ⟨vkey, false, byte, .key name⟩ rfl
          (fun _ => .inr ⟨name, rfl, mapped⟩) active rfl ⟨fun keys => ?_, fun _ => rfl⟩⟩
        simp only [actionKeys, holdable, holdKey, mapped]
        rfl

theorem clickHotkey_clicked (active : source.keyboardCaptureActive = true)
    (hotkey : lookup.key.map (·.1) ∈ [some "F10", some "F11"]) (isF10 : Bool) :
    Clicked source vkey false lookup (clickHotkey source isF10) := by
  unfold clickHotkey c64ReleaseJoystickInputs
  cases mode : source.joystickModeActive with
  | true =>
    refine ⟨?_, ?_, .releasesAll rfl active mode hotkey ?_ rfl⟩
    · cases isF10 <;> rfl
    · rintro input press asked
      cases asked
    · cases isF10 <;> rfl
  | false =>
    refine ⟨?_, nofun, .rests ?_ ⟨fun _ => rfl, fun _ => rfl⟩ nofun⟩
    · cases isF10 <;> rfl
    · cases isF10 <;> rfl

theorem clickDown_clicked {event : ObsKeyEvent} (active : source.keyboardCaptureActive = true)
    (room : c64FindHeldSlot source event.nativeVkey = none →
      source.heldKeys.length < heldKeysSize) :
    Clicked source event.nativeVkey false lookup (clickDown source event lookup) := by
  have rests : ∀ command : MachineCommand, command ∈ [.reboot, .reset, .menu] →
      ActionRests (some (.command command)) := by
    intro command member
    simp only [List.mem_cons, List.not_mem_nil, or_false] at member
    rcases member with rfl | rfl | rfl <;> exact ⟨fun _ => rfl, fun _ => rfl⟩
  unfold clickDown
  dsimp only
  split
  · exact .nothing rfl (by rintro _ _ asked; cases asked) rfl (rests _ (by simp)) nofun
  split
  · exact .nothing rfl (by rintro _ _ asked; cases asked) rfl (rests _ (by simp)) nofun
  cases known : lookup.key with
  | none => exact .nothing rfl nofun rfl ⟨fun _ => rfl, fun _ => rfl⟩ nofun
  | some key =>
    obtain ⟨code, text⟩ := key
    dsimp only
    split
    · exact .nothing rfl (by rintro _ _ asked; cases asked) rfl (rests _ (by simp)) nofun
    split
    · rename_i f10
      exact clickHotkey_clicked active (by rw [known, f10]; simp) true
    split
    · rename_i f11
      exact clickHotkey_clicked active (by rw [known, f11]; simp) false
    · exact clickType_clicked active room

theorem c64PositionalModifierInput_name {scancode : UInt32} {input : String}
    (known : c64PositionalModifierInput vkey scancode = some input) :
    input ∈ modifierKeys ∧ (isShiftKey vkey || isCtrlKey vkey || isAltKey vkey) = true := by
  unfold c64PositionalModifierInput at known
  split_ifs at known with ctrl alt shift right generic rightCode
  all_goals obtain rfl := Option.some.inj known
  · exact ⟨by decide, by simp [ctrl]⟩
  · exact ⟨by decide, by simp [alt]⟩
  · exact ⟨by decide, by simp [shift]⟩
  · exact ⟨by decide, by simp [shift]⟩
  · exact ⟨by decide, by simp [shift]⟩
  · exact ⟨by decide, by simp [shift]⟩

/-- Every click has one of the outcomes, if there is room in the table and a held key goes up the
way it went down. -/
theorem c64KeyClick_clicked (positional : Bool) {event : ObsKeyEvent}
    (slots : ∀ slot ∈ source.heldKeys, SlotFits slot)
    (captured : source.keyboardCaptureActive = false → source.heldKeys = [])
    (room : keyUp = false → c64FindHeldSlot source event.nativeVkey = none →
      source.heldKeys.length < heldKeysSize)
    (routed : keyUp = true → ∀ slot ∈ c64FindHeldSlot source event.nativeVkey,
      RoutedAlike positional source event slot) :
    Clicked source event.nativeVkey keyUp lookup
      (c64KeyClick positional source event keyUp lookup) := by
  have absent : source.keyboardCaptureActive = false →
      c64FindHeldSlot source event.nativeVkey = none := by
    intro lost
    rw [c64FindHeldSlot, captured lost]
    rfl
  unfold c64KeyClick
  dsimp only
  refine Clicked.ofFlags (?_ : Clicked { source with
    flags := trackChords source.flags event keyUp } event.nativeVkey keyUp lookup _)
  unfold RoutedAlike at routed
  by_cases modifier : (isShiftKey event.nativeVkey || isCtrlKey event.nativeVkey ||
      isAltKey event.nativeVkey || isMetaKey event.nativeVkey event.text) = true
  · simp only [if_pos modifier] at routed ⊢
    cases known : c64PositionalModifierInput event.nativeVkey event.nativeScancode with
    | none =>
      -- A modifier that is no key of its own is never held.
      refine clickChord_clicked fun up => ?_
      rw [Option.eq_none_iff_forall_ne_some]
      intro slot found
      obtain ⟨_, alike⟩ := routed up slot found
      rw [known] at alike
      cases alike
    | some input =>
      obtain ⟨name, own⟩ := c64PositionalModifierInput_name known
      dsimp only
      split
      · rename_i both
        have active := (Bool.and_eq_true _ _ ▸ both).1
        refine @Clicked.switch _ _ _ _ _ ⟨event.nativeVkey, false, 0, .key input⟩ _ _ rfl
          (fun _ => .inl own) active ⟨fun _ => rfl, fun _ => rfl⟩ ?_
          ⟨fun _ => rfl, fun _ => rfl⟩ ?_ rfl room ?_
        · rintro _ _ asked
          cases asked
          exact name
        · rintro _ _ asked
          cases asked
          exact name
        · intro up slot found
          obtain ⟨_, alike⟩ := routed up slot found
          rw [known] at alike
          exact (Option.some.inj alike).symm
      · rename_i neither
        refine clickChord_clicked fun up => ?_
        rw [Option.eq_none_iff_forall_ne_some]
        intro slot found
        obtain ⟨modern, _⟩ := routed up slot found
        cases active : source.keyboardCaptureActive with
        | false =>
          have none : c64FindHeldSlot source event.nativeVkey = some slot := found
          rw [absent active] at none
          cases none
        | true =>
          rw [active, modern] at neither
          exact neither rfl
  · have plain : (isShiftKey event.nativeVkey || isCtrlKey event.nativeVkey ||
        isAltKey event.nativeVkey) = false := by
      simp only [Bool.or_eq_true, not_or] at modifier
      simp [modifier.1.1.1, modifier.1.1.2, modifier.1.2]
    simp only [if_neg modifier] at routed ⊢
    by_cases active : source.keyboardCaptureActive = true
    · rw [if_neg (by simp [active])]
      cases stick : (if source.joystickModeActive then c64JoystickInputForVkey event.nativeVkey
        else none) with
      | some input =>
        simp only [stick] at routed ⊢
        refine @Clicked.switch _ _ _ _ _
          ⟨event.nativeVkey, true, 0, .joystick source.joystickEmulationPort input⟩
          (some (.command (.joystick source.joystickEmulationPort input true)))
          (some (.command (.joystick source.joystickEmulationPort input false))) rfl
          (by rintro ⟨⟩) active ⟨fun _ => rfl, fun _ => rfl⟩ ?_ ⟨fun _ => rfl, fun _ => rfl⟩ ?_ ?_
          room routed
        · rintro _ _ asked
          cases asked
        · rintro _ _ asked
          cases asked
        · unfold clickJoystick
          dsimp only
          cases keyUp with
          | true => cases c64FindHeldSlot _ event.nativeVkey <;> rfl
          | false => cases c64FindHeldSlot _ event.nativeVkey <;> rfl
      | none =>
        simp only [stick] at routed ⊢
        cases keyUp with
        | true =>
          refine clickUp_clicked fun slot found => ?_
          have typed := routed rfl slot found
          have member := List.mem_of_find?_eq_some found
          have own : slot.vkey = event.nativeVkey := by
            simpa using List.find?_some found
          rcases slots slot member typed with modifier | named
          · rw [own, plain] at modifier
            cases modifier
          · exact ⟨typed, named⟩
        | false => exact clickDown_clicked active (room rfl)
    · have lost : source.keyboardCaptureActive = false := by simpa using active
      rw [if_pos (by simp [lost])]
      exact .nothing rfl (by rintro _ _ ⟨⟩) rfl ⟨fun _ => rfl, fun _ => rfl⟩ fun _ => absent lost

end Clicks

end C64Stream
