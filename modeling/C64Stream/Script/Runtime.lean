import C64Stream.Lib.Effects
import C64Stream.Script.Code
import C64Stream.Script.Operators

/-! The state of a running script, and the operations its instructions are made of. -/

namespace C64Stream

def c64scriptMaxVariables : Nat := 512

def c64scriptMaxStackDepth : Nat := 64

def c64scriptMaxForNesting : Nat := 16

def c64scriptMaxGosubDepth : Nat := 32

def maxScopeDepth : Nat := 1024

/-- The state of a `FOR` loop. -/
structure ForState (R : Type) where
  variableName : Text
  endValue : R
  stepValue : R
  loopStartIp : Nat
  deriving DecidableEq

/-- Where a `GOSUB` returns to, and how many parameters it was given. -/
structure GosubState where
  returnIp : Nat
  paramCount : Nat
  deriving DecidableEq

abbrev Variables (R : Type) := List (Text × Value R)

/-- The scope of a function call. -/
structure Scope (R : Type) where
  localVars : Variables R
  savedVarCount : Nat
  returnIp : Nat
  deriving DecidableEq

/-- The parts of the state that instructions work on; the top of each stack is its first entry. -/
structure Machine (R : Type) where
  ip : Nat
  globalVars : Variables R
  stack : List (Value R)
  forStack : List (ForState R)
  gosubStack : List GosubState
  scopeStack : List (Scope R)
  deriving DecidableEq

/-- The flags that other threads may set. -/
structure Flags where
  shouldStop : Bool
  shouldPause : Bool
  isPaused : Bool
  stepMode : Bool
  stepSkipWaits : Bool
  deriving DecidableEq

/-- The state of a running script; the world stands for everything outside the interpreter. -/
structure Runtime (R World : Type) extends Machine R where
  flags : Flags
  /-- Zero for no limit. -/
  maxIterations : Nat
  iterationCount : Nat
  lastExecutedLine : Int
  nextLineToExecute : Int
  errorMsg : Text
  errorLine : Int
  traceRecordingEnabled : Bool
  world : World
  deriving DecidableEq

section Variables

variable {R : Type}

/-- The value of a name among some variables. -/
def lookup (table : Variables R) (key : Text) : Option (Value R) :=
  (table.find? fun entry => entry.1 == key).map Prod.snd

/-- Overwrite the variable of a name, or add it behind the others. -/
def store (table : Variables R) (key : Text) (value : Value R) : Variables R :=
  match table with
  | [] => [(key, value)]
  | entry :: rest =>
    if entry.1 == key then (key, value) :: rest else entry :: store rest key value

variable [ScriptNumber R]

/-- Set a variable in the innermost scope; the message tells why it cannot be set. -/
def setVar (machine : Machine R) (name : Text) (value : Value R) : Except Text (Machine R) := do
  let key := normalizeIdentifier name
  let stored ← coerceForName key value
  match machine.scopeStack with
  | scope :: rest =>
    let scope := { scope with localVars := store scope.localVars key stored }
    .ok { machine with scopeStack := scope :: rest }
  | [] =>
    -- The table doubles from 64 places, and more than 512 are refused.
    if lookup machine.globalVars key = none ∧ c64scriptMaxVariables ≤ machine.globalVars.length then
      .error (text "Too many variables")
    else .ok { machine with globalVars := store machine.globalVars key stored }

/-- The value that is held under a name, in the innermost scope or globally. -/
def heldValue (machine : Machine R) (key : Text) : Option (Value R) :=
  match machine.scopeStack with
  | scope :: _ => lookup scope.localVars key <|> lookup machine.globalVars key
  | [] => lookup machine.globalVars key

/-- The value of a variable; one that was never set is zero. -/
def getVar (machine : Machine R) (name : Text) : Value R :=
  (heldValue machine (normalizeIdentifier name)).getD (.number numberZero)

/-- Whether a variable was set. -/
def varExists (machine : Machine R) (name : Text) : Bool :=
  (heldValue machine (normalizeIdentifier name)).isSome

end Variables

section Operations

variable {R World : Type} [ScriptNumber R]

/-- The operations that the handlers of instructions are made of. -/
inductive VmOp (R World : Type) where
  | pop
  | push (value : Value R)
  | stackSize
  | getVar (name : Text)
  | varExists (name : Text)
  | setVar (name : Text) (value : Value R)
  | setError (message : Text)
  | fail
  | flags
  | traceRecordingEnabled
  | world
  | setWorld (world : World)

/-- What each operation answers; a failure answers nothing. -/
@[reducible] def VmOp.Reply (op : VmOp R World) : Type :=
  match op with
  | .pop => Value R
  | .push _ => Unit
  | .stackSize => Nat
  | .getVar _ => Value R
  | .varExists _ => Bool
  | .setVar _ _ => Bool
  | .setError _ => Unit
  | .fail => Empty
  | .flags => Flags
  | .traceRecordingEnabled => Bool
  | .world => World
  | .setWorld _ => Unit

abbrev Program (R World : Type) := Effectful (VmOp R World) VmOp.Reply

/-- The error message is cut to its buffer. -/
def Runtime.withError (runtime : Runtime R World) (message : Text) : Runtime R World :=
  { runtime with errorMsg := message.take 1023 }

/-- Perform an operation. -/
def handleOp (op : VmOp R World) (runtime : Runtime R World) :
    Option op.Reply × Runtime R World :=
  match op with
  | .pop =>
    match runtime.stack with
    | [] => (none, runtime.withError (text "Stack underflow"))
    | value :: rest => (some value, { runtime with stack := rest })
  | .push value =>
    if c64scriptMaxStackDepth ≤ runtime.stack.length then
      (none, runtime.withError (text "Stack overflow"))
    else (some (), { runtime with stack := value :: runtime.stack })
  | .stackSize => (some runtime.stack.length, runtime)
  | .getVar name => (some (getVar runtime.toMachine name), runtime)
  | .varExists name => (some (varExists runtime.toMachine name), runtime)
  | .setVar name value =>
    match setVar runtime.toMachine name value with
    | .error message => (some false, runtime.withError message)
    | .ok machine => (some true, { runtime with toMachine := machine })
  | .setError message => (some (), runtime.withError message)
  | .fail => (none, runtime)
  | .flags => (some runtime.flags, runtime)
  | .traceRecordingEnabled => (some runtime.traceRecordingEnabled, runtime)
  | .world => (some runtime.world, runtime)
  | .setWorld world => (some (), { runtime with world })

/-- Take the top value off the stack. -/
def pop : Program R World (Value R) :=
  .perform .pop .done

/-- Put a value on the stack. -/
def push (value : Value R) : Program R World Unit :=
  .perform (.push value) .done

/-- Fail with the message that was written before. -/
def failed {α : Type} : Program R World α :=
  .perform .fail fun impossible => impossible.elim

/-- Fail with a message. -/
def failWith {α : Type} (message : Text) : Program R World α :=
  .perform (.setError message) fun _ => failed

/-- Fail with the message of a result, or go on with its value. -/
def orFail {α : Type} (result : Except Text α) : Program R World α :=
  match result with
  | .error message => failWith message
  | .ok value => .done value

/-- Set a variable; the answer tells whether that was possible. -/
def trySetVar (name : Text) (value : Value R) : Program R World Bool :=
  .perform (.setVar name value) .done

/-- Set a variable, or fail with the reason why it cannot be set. -/
def assign (name : Text) (value : Value R) : Program R World Unit := do
  let stored ← trySetVar name value
  if stored then .done () else failed

end Operations

end C64Stream
