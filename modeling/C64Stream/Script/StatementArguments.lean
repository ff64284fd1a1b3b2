import C64Stream.Input.Keyboard
import C64Stream.Script.Bytecode
import C64Stream.Script.Operators
import C64Stream.Script.Paths

/-! Statements that hand a text on: to a shell, to the keyboard, or to the settings of the source. -/

namespace C64Stream

variable {R : Type} [ScriptNumber R]

section World

/-- A value for a setting of the source. -/
inductive UpdateValue (R : Type) where
  | string (value : Text)
  | double (value : R)
  | bool (value : Bool)
  deriving DecidableEq

/-- What a statement does outside of the script. -/
inductive StatementEffect (R : Type) where
  | command (cmd : Text)
  | typed (byte : UInt8)
  | update (key : Text) (value : UpdateValue R)
  deriving DecidableEq

/-- What becomes of a shell command; its output and its status are read when it was started. -/
inductive ShellReply where
  | notOpened
  | noMemory
  | finished (output : Text) (exitCode : Int)
  deriving DecidableEq

/-- A device of the registry, whose id fits its field. -/
structure SwitchTarget where
  id : Text
  host : Text
  fits : id.length < 64

/-- What statements meet, and what they have done so far. -/
structure StatementWorld (R : Type) where
  platform : Platform
  scriptDir : Option Text
  shell : Text → ShellReply
  keyboard : Bool
  /-- The free places of the queue that each submission finds, whatever other threads do. -/
  room : Nat → Nat
  submissions : Nat
  obsSource : Bool
  /-- Whether there is memory for an update, and the source still exists. -/
  updatable : Bool
  devices : List SwitchTarget
  effects : List (StatementEffect R)
  assigned : List (Text × Value R)

abbrev StatementResult (R : Type) := StatementWorld R × Except Text Unit

/-- A message in its field. -/
def errorMessage (message : Text) : Text :=
  message.take 1023

/-- The text that a value has to be. -/
def requireString (value : Value R) (what : Text) : Except Text Text :=
  match value with
  | .string string => .ok string
  | _ => .error (typeMismatch what)

end World

section Keyboards

variable (world : StatementWorld R)

/-- Queue an output for the keyboard: all of its bytes or none. -/
def c64scriptQueueKeyboardOutput (output : C64Output) : StatementResult R :=
  if world.keyboard = false then (world, .error (text "Keyboard not available"))
  else
    match outputBytes output with
    | none => (world, .error (text "Keyboard input queue rejected output"))
    | some bytes =>
      let tried := { world with submissions := world.submissions + 1 }
      if world.room world.submissions < bytes.length then
        (tried, .error (text "Keyboard input queue rejected output"))
      else ({ tried with effects := tried.effects ++ bytes.map .typed }, .ok ())

/-- The line that loads a file. -/
def loadLine (filename : Text) (device : Int) : Text :=
  text "LOAD\"" ++ filename ++ text "\"," ++ signedDecimal device ++ text ",1" ++ [13]

/-- The line that runs what is loaded. -/
def runLine : Text :=
  text "RUN" ++ [13]

/-- The device of a file, which is the first drive unless it is given. -/
def deviceNumber (device : Option (Value R)) (what : Text) : Except Text Int :=
  match device with
  | none => .ok 8
  | some value => numberToInt value what

/-- Type a line that holds the name of a file, as far as the output has room for it. -/
def typeFileLine (filename : Value R) (device : Option (Value R)) (what : Text)
    (line : Text → Int → Text) : StatementResult R :=
  match requireString filename what with
  | .error message => (world, .error message)
  | .ok name =>
    match device.elim (.ok ()) fun value => (requireNumber value what).map fun _ => () with
    | .error message => (world, .error message)
    | .ok _ =>
      if world.keyboard = false then (world, .error (text "Keyboard not available"))
      else
        match deviceNumber device what with
        | .error message => (world, .error message)
        | .ok number =>
          c64scriptQueueKeyboardOutput world (.text ((line name number).take (outputTextSize - 1)))

/-- Load a file. -/
def opLoad (filename : Value R) (device : Option (Value R)) : StatementResult R :=
  typeFileLine world filename device (text "LOAD") loadLine

/-- Run what is loaded, or load a file and run it. -/
def opRun (file : Option (Value R × Option (Value R))) : StatementResult R :=
  match file with
  | some (filename, device) =>
    typeFileLine world filename device (text "RUN") fun name number =>
      loadLine name number ++ runLine
  | none => c64scriptQueueKeyboardOutput world (.text runLine)

/-- The loop that types a text piece by piece. -/
def typePieces (world : StatementWorld R) (string : Text) : StatementResult R :=
  if string = [] then (world, .ok ())
  else
    match c64scriptQueueKeyboardOutput world (.text (string.take (outputTextSize - 1))) with
    | (world, .error message) => (world, .error message)
    | (world, .ok _) => typePieces world (string.drop (outputTextSize - 1))
termination_by string.length
decreasing_by
  have := List.length_pos_iff.mpr ‹_›
  rw [List.length_drop, outputTextSize]
  omega

/-- Type a text. -/
def opType (value : Value R) : StatementResult R :=
  match value with
  | .string string =>
    if world.keyboard = false then (world, .error (text "Keyboard not available"))
    else typePieces world string
  | _ => (world, .error (typeMismatch (text "TYPE")))

def outputSymbolSize : Nat := 32

/-- Press a key, given by its name or by its code. -/
def opKey (key : Value R) : StatementResult R :=
  if world.keyboard = false then (world, .error (text "Keyboard not available"))
  else
    match key with
    | .string name =>
      let symbol := (name.take (outputSymbolSize - 1)).map toUpper
      c64scriptQueueKeyboardOutput world
        (.symbolic (String.ofList (symbol.map fun byte => Char.ofNat byte.toNat)))
    | .number _ =>
      match numberToInt key (text "KEY") with
      | .error message => (world, .error message)
      | .ok petscii =>
        c64scriptQueueKeyboardOutput world (.petscii (UInt8.ofNat (petscii % 256).toNat))
    | _ => (world, .error (typeMismatch (text "KEY")))

end Keyboards

section Sources

variable (world : StatementWorld R)

/-- A value in its field. -/
def UpdateValue.held (value : UpdateValue R) : UpdateValue R :=
  match value with
  | .string content => .string (content.take 255)
  | .double number => .double number
  | .bool flag => .bool flag

/-- Queue an update of a setting; its key and its text are copied into fields. -/
def c64ScriptQueueSourceUpdate (key : Text) (value : UpdateValue R) : StatementWorld R × Bool :=
  if world.obsSource = false ∨ key = [] ∨ world.updatable = false then (world, false)
  else
    ({ world with effects := world.effects ++ [.update (key.take 127) value.held] }, true)

/-- Update a setting, or end the script if the update cannot be queued. -/
def updateSetting (key : Text) (value : UpdateValue R) (failure : Text) : StatementResult R :=
  match c64ScriptQueueSourceUpdate world key value with
  | (world, true) => (world, .ok ())
  | (world, false) => (world, .error failure)

/-- Apply an effect preset; without a source nothing happens. -/
def opEffect (preset : Value R) : StatementResult R :=
  match preset with
  | .string name =>
    if world.obsSource = false then (world, .ok ())
    else updateSetting world (text "crt_preset") (.string name) (text "Failed to queue OBS update")
  | _ => (world, .error (typeMismatch (text "EFFECT")))

/-- Set a parameter of the effects. -/
def opEffectparam (param value : Value R) : StatementResult R :=
  match param, value with
  | .string name, .number number =>
    if world.obsSource = false then (world, .ok ())
    else
      let update :=
        if name = text "preserve_size" then .bool !(isZero number) else .double number
      updateSetting world name update (text "Failed to queue OBS update")
  | _, _ => (world, .error (typeMismatch (text "EFFECTPARAM")))

/-- The id of the palette that a name stands for. -/
def namedPalette (name : Text) : Text :=
  if name = text "device" then text "__device__" else name

/-- Load a palette. -/
def opPalette (palette : Value R) : StatementResult R :=
  match palette with
  | .string name =>
    if world.obsSource = false then (world, .ok ())
    else
      updateSetting world (text "palette") (.string (namedPalette name))
        (text "Failed to queue OBS update")
  | _ => (world, .error (typeMismatch (text "PALETTE")))

/-- The device of an id, or else of a host. -/
def findDevice (devices : List SwitchTarget) (reference : Text) : Option SwitchTarget :=
  (devices.find? (·.id = reference)).or
    (if reference = [] then none else devices.find? (·.host = reference))

/-- Switch to a device. -/
def opSwitchDevice (deviceRef : Value R) : StatementResult R :=
  match deviceRef with
  | .string reference =>
    if world.obsSource = false then (world, .ok ())
    else
      match findDevice world.devices reference with
      | none =>
        (world, .error (errorMessage
          (text "SWITCH_DEVICE: unknown device '" ++ reference ++ text "'")))
      | some device =>
        updateSetting world (text "c64_device") (.string device.id)
          (text "Failed to queue device switch")
  | _ => (world, .error (typeMismatch (text "SWITCH_DEVICE")))

end Sources

section Shell

variable (world : StatementWorld R)

/-- The program to run: a name, or a path that is resolved. -/
def execPath (path : Text) : Option Text :=
  if path.head? = some 46 ∨ 47 ∈ path ∨ 92 ∈ path then
    match c64scriptResolveScriptPath world.platform world.scriptDir path 1024 with
    | (true, resolved) => some resolved
    | (false, _) => none
  else some path

/-- The line for the shell. -/
def commandLine (path args : Text) : Text :=
  if args = [] then path ++ text " 2>&1" else path ++ text " " ++ args ++ text " 2>&1"

def commandSize : Nat := 2048

/-- Run a program, and keep its status and its output in variables that are named. -/
def opRunlocal (path args statusVar outputVar : Value R) : StatementResult R :=
  match path, args, statusVar, outputVar with
  | .string path, .string args, .string statusVar, .string outputVar =>
    match execPath world path with
    | none => (world, .error (text "Path too long"))
    | some path =>
      let cmd := (commandLine path args).take (commandSize - 1)
      match world.shell cmd with
      | .notOpened => (world, .error (errorMessage (text "Failed to execute: " ++ path)))
      | .noMemory =>
        ({ world with effects := world.effects ++ [.command cmd] }, .error (text "Out of memory"))
      | .finished output exitCode =>
        let status := if statusVar = [] then [] else
          [(statusVar, .number (ScriptNumber.ofInt exitCode))]
        let output := if outputVar = [] then [] else [(outputVar, .string output)]
        ({ world with
          effects := world.effects ++ [.command cmd]
          assigned := world.assigned ++ status ++ output }, .ok ())
  | _, _, _, _ => (world, .error (typeMismatch (text "RUNLOCAL")))

end Shell

end C64Stream
