import C64Stream.Input.HeldKeys

/-! Keys of the host: how each is routed to the device, and the table of those that are held. -/

namespace C64Stream

section Events

/-- The modifiers that are down at a key event. -/
structure InteractModifiers where
  shift : Bool
  control : Bool
  alt : Bool
  command : Bool
  deriving DecidableEq

/-- A key event of the host. -/
structure ObsKeyEvent where
  nativeVkey : UInt32
  nativeScancode : UInt32
  modifiers : InteractModifiers
  text : List UInt8
  deriving DecidableEq

/-- What the tables of keys give for an event: its code and text, or none for a warm start; and
what the keymap makes of them, which may change from one time to the next. -/
structure KeyLookup where
  key : Option (String × List UInt8)
  converted : Option C64Output
  deriving DecidableEq

/-- Whether the text of an event is printable; its first byte is no control character or space. -/
def hasPrintableText (text : List UInt8) : Bool :=
  match text with
  | [] => false
  | first :: _ => decide (0x20 < first) && first != 0x7F

def isCtrlKey (vkey : UInt32) : Bool := vkey == 0xFFE3 || vkey == 0xFFE4 || vkey == 0x11

/-- The codes 0x5B and 0x5C are brackets where the key has a text. -/
def isMetaKey (vkey : UInt32) (text : List UInt8) : Bool :=
  vkey == 0xFFEB || vkey == 0xFFEC || (!hasPrintableText text && (vkey == 0x5B || vkey == 0x5C))

def isShiftKey (vkey : UInt32) : Bool := vkey == 0xFFE1 || vkey == 0xFFE2 || vkey == 0x10

def isAltKey (vkey : UInt32) : Bool := vkey == 0xFFE9 || vkey == 0xFFEA || vkey == 0x12

def c64InteractKeyIsEscape (vkey scancode : UInt32) : Bool :=
  scancode == 0x01 || vkey == 0x1B || vkey == 0xFF1B

def c64InteractKeyIsTab (vkey scancode : UInt32) : Bool :=
  scancode == 0x0F || vkey == 0x09 || vkey == 0xFF09

/-- The joystick input of a cursor key or the space bar. -/
def c64JoystickInputForVkey (vkey : UInt32) : Option String :=
  if vkey = 0x25 ∨ vkey = 0xFF51 then some "left"
  else if vkey = 0x26 ∨ vkey = 0xFF52 then some "up"
  else if vkey = 0x27 ∨ vkey = 0xFF53 then some "right"
  else if vkey = 0x28 ∨ vkey = 0xFF54 then some "down"
  else if vkey = 0x20 then some "fire"
  else none

/-- The matrix key of a modifier, where modifiers are keys of their own; the generic shift key is
told apart by its scancode. -/
def c64PositionalModifierInput (vkey scancode : UInt32) : Option String :=
  if isCtrlKey vkey then some "ctrl"
  else if isAltKey vkey then some "commodore"
  else if isShiftKey vkey then
    if vkey = 0xFFE2 then some "right_shift"
    else if vkey = 0x10 then some (if scancode = 0x36 then "right_shift" else "left_shift")
    else some "left_shift"
  else none

end Events

section Commands

/-- A request to the machine that waits for the worker. -/
inductive MachineCommand where
  | joystick (port : Nat) (input : String) (press : Bool)
  | menu
  | reset
  | reboot
  | releaseAll
  | key (input : String) (press : Bool)
  deriving DecidableEq

/-- What a click of a key queues. -/
inductive ClickAction where
  | command (command : MachineCommand)
  | output (output : C64Output) (transition : KeyTransition)
  deriving DecidableEq

/-- An input of the device that is held down: a key of the matrix, or an input of a joystick. -/
inductive DeviceInput where
  | key (name : String)
  | joystick (port : Nat) (input : String)
  deriving DecidableEq

end Commands

section Source

/-- A key of the host that is held. -/
structure HeldKey where
  vkey : UInt32
  isJoystick : Bool
  /-- The byte that its release replays; it is not read for modifiers and joystick inputs. -/
  outputByte : UInt8
  /-- What was pressed for it; the source does not keep this. -/
  input : DeviceInput
  deriving DecidableEq

/-- The keys of chords that are down, and how far the chords have come. -/
structure ChordFlags where
  ctrlDown : Bool
  metaDown : Bool
  tabDown : Bool
  escapeDown : Bool
  rebootConsumed : Bool
  ctrlMetaArmed : Bool
  ctrlMetaConsumed : Bool
  deriving DecidableEq

/-- The parts of a source that route the keys. -/
structure InteractSource where
  keyboardCaptureActive : Bool
  joystickModeActive : Bool
  joystickEmulationPort : Nat
  flags : ChordFlags
  heldKeys : List HeldKey
  deriving DecidableEq

def heldKeysSize : Nat := 16

/-- The held key with a code. -/
def c64FindHeldSlot (source : InteractSource) (vkey : UInt32) : Option HeldKey :=
  source.heldKeys.find? (·.vkey == vkey)

/-- Enter a key in the table of held keys, if there is room. -/
def holdSlot (source : InteractSource) (slot : HeldKey) : InteractSource :=
  if source.heldKeys.length < heldKeysSize then
    { source with heldKeys := slot :: source.heldKeys }
  else source

/-- Remove a key from the table of held keys. -/
def freeSlot (source : InteractSource) (vkey : UInt32) : InteractSource :=
  { source with heldKeys := source.heldKeys.eraseP (·.vkey == vkey) }

/-- Leaving the joystick mode or its port releases everything. -/
def c64ReleaseJoystickInputs (source : InteractSource) : InteractSource × Option MachineCommand :=
  if source.joystickModeActive then ({ source with heldKeys := [] }, some .releaseAll)
  else (source, none)

/-- Losing the focus releases everything that is held. -/
def c64ReleaseHeldKeys (source : InteractSource) : InteractSource × Option MachineCommand :=
  if source.heldKeys = [] then (source, none)
  else ({ source with heldKeys := [] }, some .releaseAll)

end Source

section Clicks

/-- Follow the keys of chords. -/
def trackChords (flags : ChordFlags) (event : ObsKeyEvent) (keyUp : Bool) : ChordFlags :=
  let flags := if isCtrlKey event.nativeVkey then { flags with ctrlDown := !keyUp } else flags
  let flags :=
    if isMetaKey event.nativeVkey event.text then { flags with metaDown := !keyUp } else flags
  let flags :=
    if c64InteractKeyIsTab event.nativeVkey event.nativeScancode then
      { flags with tabDown := !keyUp }
    else flags
  let flags :=
    if c64InteractKeyIsEscape event.nativeVkey event.nativeScancode then
      { flags with escapeDown := !keyUp }
    else flags
  if event.modifiers.control || event.modifiers.alt || event.modifiers.command || keyUp ||
      !flags.tabDown || !flags.escapeDown then
    { flags with rebootConsumed := false }
  else flags

/-- A modifier that is a key of its own is pressed at its first key-down and released when it is
held. -/
def clickModifier (source : InteractSource) (vkey : UInt32) (input : String) (keyUp : Bool) :
    InteractSource × Option ClickAction :=
  match c64FindHeldSlot source vkey, keyUp with
  | none, false =>
    (holdSlot source ⟨vkey, false, 0, .key input⟩, some (.command (.key input true)))
  | some _, true => (freeSlot source vkey, some (.command (.key input false)))
  | _, _ => (source, none)

/-- The chord of Ctrl and Meta types its output once, and other modifiers are skipped. -/
def clickChord (source : InteractSource) (lookup : KeyLookup) (keyUp : Bool) :
    InteractSource × Option ClickAction :=
  let flags := source.flags
  let arms := !keyUp && flags.ctrlDown && flags.metaDown && !flags.ctrlMetaArmed &&
    !flags.ctrlMetaConsumed
  let flags := if arms then { flags with ctrlMetaArmed := true } else flags
  let flags :=
    if keyUp && (!flags.ctrlDown || !flags.metaDown) then
      { flags with ctrlMetaArmed := false, ctrlMetaConsumed := false }
    else flags
  ({ source with flags },
    if arms then lookup.converted.map fun output => .output output .tap else none)

/-- A joystick input is pressed at its first key-down and released when it is held. -/
def clickJoystick (source : InteractSource) (vkey : UInt32) (input : String) (keyUp : Bool) :
    InteractSource × Option ClickAction :=
  let command := MachineCommand.joystick source.joystickEmulationPort input (!keyUp)
  match c64FindHeldSlot source vkey, keyUp with
  | none, false =>
    (holdSlot source ⟨vkey, true, 0, .joystick source.joystickEmulationPort input⟩,
      some (.command command))
  | some _, true => (freeSlot source vkey, some (.command command))
  | _, _ => (source, none)

/-- A held key is released with its key-up. -/
def clickUp (source : InteractSource) (vkey : UInt32) : InteractSource × Option ClickAction :=
  match c64FindHeldSlot source vkey with
  | some slot =>
    if slot.isJoystick then (source, none)
    else (freeSlot source vkey, some (.output (.petscii slot.outputByte) .release))
  | none => (source, none)

/-- F10 toggles the joystick mode, and any other hotkey its port. -/
def clickHotkey (source : InteractSource) (isF10 : Bool) : InteractSource × Option ClickAction :=
  let (released, command) := c64ReleaseJoystickInputs source
  (if isF10 then { released with joystickModeActive := !released.joystickModeActive }
    else
      { released with
        joystickEmulationPort := if released.joystickEmulationPort = 1 then 2 else 1 },
    command.map .command)

/-- A key is typed: held down if it is a single key without shift, and else tapped. -/
def clickType (source : InteractSource) (vkey : UInt32) (lookup : KeyLookup) :
    InteractSource × Option ClickAction :=
  let source :=
    if source.flags.ctrlMetaArmed then
      { source with flags := { source.flags with ctrlMetaConsumed := true } }
    else source
  match lookup.converted with
  | none => (source, none)
  | some output =>
    match c64KeyboardOutputIsHoldable output with
    | none => (source, some (.output output .tap))
    | some byte =>
      if (c64FindHeldSlot source vkey).isSome then (source, none)
      else if source.heldKeys.length < heldKeysSize then
        (holdSlot source ⟨vkey, false, byte, .key (((petsciiToMatrix byte).map (·.1)).getD "")⟩,
          some (.output output .press))
      -- More keys are down than the table holds.
      else (source, some (.output output .tap))

/-- A key-down that is neither a modifier nor a joystick input: shortcuts first. -/
def clickDown (source : InteractSource) (event : ObsKeyEvent) (lookup : KeyLookup) :
    InteractSource × Option ClickAction :=
  let escape := c64InteractKeyIsEscape event.nativeVkey event.nativeScancode
  let tab := c64InteractKeyIsTab event.nativeVkey event.nativeScancode
  if !source.flags.rebootConsumed && !event.modifiers.control && !event.modifiers.alt &&
      !event.modifiers.command && source.flags.escapeDown && source.flags.tabDown &&
      (escape || tab) then
    ({ source with flags := { source.flags with rebootConsumed := true } },
      some (.command .reboot))
  else if escape && (event.modifiers.control || event.modifiers.shift) then
    (source, some (.command .reset))
  else
    match lookup.key with
    -- A warm start writes to memory.
    | none => (source, none)
    | some (code, _) =>
      if code = "F9" then (source, some (.command .menu))
      else if code = "F10" then clickHotkey source true
      else if code = "F11" then clickHotkey source false
      else clickType source event.nativeVkey lookup

/-- A key event: what it does to the source, and what it queues. -/
def c64KeyClick (positional : Bool) (source : InteractSource) (event : ObsKeyEvent)
    (keyUp : Bool) (lookup : KeyLookup) : InteractSource × Option ClickAction :=
  let vkey := event.nativeVkey
  let source := { source with flags := trackChords source.flags event keyUp }
  if isShiftKey vkey || isCtrlKey vkey || isAltKey vkey || isMetaKey vkey event.text then
    match c64PositionalModifierInput vkey event.nativeScancode with
    | some input =>
      if source.keyboardCaptureActive && positional then clickModifier source vkey input keyUp
      else clickChord source lookup keyUp
    | none => clickChord source lookup keyUp
  else if !source.keyboardCaptureActive then (source, none)
  else
    match if source.joystickModeActive then c64JoystickInputForVkey vkey else none with
    | some input => clickJoystick source vkey input keyUp
    | none => if keyUp then clickUp source vkey else clickDown source event lookup

end Clicks

section System

def cmdQueueSize : Nat := 256

/-- Where the worker is: it sends the requests that wait, one by one, and then goes on with the
keystrokes. -/
inductive WorkerPhase where
  | commands
  | executing (command : MachineCommand)
  | machine
  deriving DecidableEq

/-- The source, its two queues, their worker, and what is held down on the device through them. -/
structure InputSystem where
  source : InteractSource
  keyboard : Keyboard
  commands : List MachineCommand
  worker : WorkerPhase
  /-- The focus is lost, and the keystrokes that wait are flushed next. -/
  flushDue : Bool
  keysDown : List String
  joysticksDown : List (Nat × String)
  /-- The keys of the host that are down, by their codes. -/
  hostDown : List (UInt32 × UInt32)
  deriving DecidableEq

/-- A call of the user interface, or a step of the worker. -/
inductive InputOp where
  | keyClick (event : ObsKeyEvent) (keyUp : Bool) (lookup : KeyLookup)
  | focus (focus : Bool)
  /-- The last part of the call that follows a loss of the focus. -/
  | finishFocus
  /-- The settings of the joystick are changed. -/
  | update (joystickMode : Bool) (port : Nat)
  | worker (answer : InjectionAnswer)
  deriving DecidableEq

/-- Queue a request, if there is room. -/
def c64KeyboardQueueMachineCommand (system : InputSystem) (command : MachineCommand) :
    InputSystem :=
  if system.commands.length ≥ cmdQueueSize then system
  else { system with commands := system.commands ++ [command] }

/-- Queue what a click asks for. -/
def queueAction (system : InputSystem) (action : Option ClickAction) : InputSystem :=
  match action with
  | none => system
  | some (.command command) => c64KeyboardQueueMachineCommand system command
  | some (.output output transition) =>
    { system with keyboard := (c64KeyboardQueueOutputEx system.keyboard output transition).1 }

/-- The keys of the host that are down after an event. -/
def hostDownAfter (hostDown : List (UInt32 × UInt32)) (event : ObsKeyEvent) (keyUp : Bool) :
    List (UInt32 × UInt32) :=
  let key := (event.nativeVkey, event.nativeScancode)
  if keyUp then hostDown.filter (· ≠ key) else if key ∈ hostDown then hostDown else key :: hostDown

/-- The focus of the source changes; when it is lost, all that is held is released. -/
def c64Focus (source : InteractSource) (focus : Bool) :
    InteractSource × Option MachineCommand × Option MachineCommand :=
  if focus then ({ source with keyboardCaptureActive := true }, none, none)
  else if source.keyboardCaptureActive then
    let (source, first) := c64ReleaseJoystickInputs { source with keyboardCaptureActive := false }
    let (source, second) := c64ReleaseHeldKeys source
    (source, first, second)
  else (source, none, none)

/-- The settings of the joystick are taken over; a port that does not exist becomes the second. -/
def updateJoystick (source : InteractSource) (mode : Bool) (port : Nat) :
    InteractSource × Option MachineCommand :=
  let port := if port = 1 ∨ port = 2 then port else 2
  let (released, command) :=
    if source.joystickModeActive && (!mode || source.joystickEmulationPort != port) then
      c64ReleaseJoystickInputs source
    else (source, none)
  ({ released with joystickModeActive := mode, joystickEmulationPort := port }, command)

/-- The keys of the matrix that are down after a request. -/
def commandKeys (keys : List String) (command : MachineCommand) : List String :=
  match command with
  | .key input true => input :: keys
  | .key input false => keys.filter (· ≠ input)
  | .releaseAll => []
  | _ => keys

/-- The joystick inputs that are down after a request. -/
def commandJoysticks (joysticks : List (Nat × String)) (command : MachineCommand) :
    List (Nat × String) :=
  match command with
  | .joystick port input true => (port, input) :: joysticks
  | .joystick port input false => joysticks.filter (· ≠ (port, input))
  | .releaseAll => []
  | _ => joysticks

/-- The keys that are down once a batch was sent, if its request succeeded. -/
def sentKeys (keyboard : Keyboard) (answer : InjectionAnswer) (keys : List String) :
    List String :=
  match keyboard.pc, answer.inputFailure with
  | .sendInput _, none => (keyboard.pending.map (·.event)).foldl holdKey keys
  | _, _ => keys

/-- Whether the worker is in the middle of a batch, which no request of the other queue cuts. -/
def InjectionPc.inBatch (pc : InjectionPc) : Bool :=
  match pc with
  | .choose | .sendInput _ | .discard => true
  | _ => false

/-- A step of the worker. -/
def workerStep (system : InputSystem) (answer : InjectionAnswer) : InputSystem :=
  match system.worker with
  | .commands =>
    match system.commands with
    | [] => { system with worker := .machine }
    | command :: rest => { system with commands := rest, worker := .executing command }
  | .executing command =>
    { system with
      worker := .commands
      keysDown := commandKeys system.keysDown command
      joysticksDown := commandJoysticks system.joysticksDown command }
  | .machine =>
    if system.keyboard.pc = .idle ∧ system.keyboard.queue = [] then
      -- It waits for keystrokes or requests.
      if system.commands = [] then system else { system with worker := .commands }
    else
      let keyboard := injectionWorker system.keyboard answer
      { system with
        keyboard := keyboard
        worker := if keyboard.pc.inBatch then .machine else .commands
        keysDown := sentKeys system.keyboard answer system.keysDown }

/-- A step of one of the two threads; a call begins only after the one before has ended. -/
def inputStep (positional : Bool) (system : InputSystem) (op : InputOp) : InputSystem :=
  match op with
  | .worker answer => workerStep system answer
  | .finishFocus =>
    if system.flushDue then
      { system with
        keyboard := c64KeyboardSetCapture system.keyboard false
        flushDue := false }
    else system
  | .keyClick event keyUp lookup =>
    if system.flushDue then system
    else
      let (source, action) := c64KeyClick positional system.source event keyUp lookup
      queueAction
        { system with
          source := source
          hostDown := hostDownAfter system.hostDown event keyUp } action
  | .focus focus =>
    if system.flushDue then system
    else if focus then
      { system with
        source := (c64Focus system.source true).1
        keyboard := c64KeyboardSetCapture system.keyboard true }
    else if system.source.keyboardCaptureActive then
      let (source, first, second) := c64Focus system.source false
      queueAction (queueAction { system with source := source, flushDue := true }
        (first.map .command)) (second.map .command)
    else system
  | .update mode port =>
    if system.flushDue then system
    else
      let (source, command) := updateJoystick system.source mode port
      queueAction { system with source := source } (command.map .command)

end System

end C64Stream
