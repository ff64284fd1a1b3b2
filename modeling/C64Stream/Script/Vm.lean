import C64Stream.Script.Runtime

/-! The virtual machine: what each instruction does, and the loop that executes them. -/

namespace C64Stream

variable {R World : Type} [ScriptNumber R]

section DataInstructions

/-- The index of an array element that a number stands for. -/
def arrayIndexFromNumber (n : R) : Option Nat :=
  match ScriptNumber.truncated n with
  | some whole => if 0 ≤ whole ∧ whole < c64scriptMaxArraySize then some whole.toNat else none
  | none => none

/-- The type that the elements of an array or a map of this name have. -/
def elementTypeOfName (name : Text) : ScalarType :=
  if nameHasSuffix name dollar then .string else .number

/-- The element that an array or a map starts with. -/
def defaultElement (elementType : ScalarType) : Scalar R :=
  match elementType with
  | .string => .string []
  | .number => .number numberZero

/-- The name that the operand of an instruction stands for. -/
def constantName (code : Code R) (operand : Nat) (message : Text) : Except Text Text :=
  match code.constants[operand]? with
  | none => .error message
  | some constant => .ok constant.asString

/-- The message for an operand that is no constant. -/
def invalidConstant (what : Text) : Text :=
  text "Invalid constant index" ++ what

/-- A value as an element of a container: numbers become strings where strings are held. -/
def elementValue (elementType : ScalarType) (value : Value R) (what : Text) :
    Except Text (Scalar R) :=
  match elementType, value with
  | .string, .number n => .ok (.string (ScriptNumber.toText n))
  | .string, .string string => .ok (.string string)
  | .number, .number n => .ok (.number n)
  | _, _ => .error (typeMismatch what)

/-- Allocate an array. -/
def dimArray (name : Text) : Program R World Unit := do
  let size ← pop
  match size with
  | .number n =>
    match ScriptNumber.truncated n with
    | none => failWith (text "Array size must be greater than 0")
    | some whole =>
      if whole < 1 then failWith (text "Array size must be greater than 0")
      else if (c64scriptMaxArraySize : Int) < whole then
        failWith (text "Array size must not exceed " ++ decimal c64scriptMaxArraySize)
      else
        let elementType := elementTypeOfName name
        assign name (.array elementType (List.replicate whole.toNat (defaultElement elementType)))
  | _ => failWith (text "Array size must be a number")

/-- The index that a value stands for. -/
def arrayIndex (index : Value R) : Except Text Nat :=
  match index with
  | .number n =>
    match arrayIndexFromNumber n with
    | some position => .ok position
    | none => .error (text "Array index out of bounds")
  | _ => .error (text "Array index must be a number")

/-- The message for a name that does not hold what an instruction needs. -/
def notA (name what : Text) : Text :=
  text "Variable '" ++ name ++ text "' is not " ++ what

/-- Read a variable. -/
def readVar (name : Text) : Program R World (Value R) :=
  .perform (.getVar name) .done

/-- Whether a variable was set. -/
def checkVar (name : Text) : Program R World Bool :=
  .perform (.varExists name) .done

/-- Push an element of an array. -/
def arrayGet (name : Text) : Program R World Unit := do
  let index ← pop
  let position ← orFail (arrayIndex index)
  match ← readVar name with
  | .array _ elements =>
    match elements[position]? with
    | some element => push element.toValue
    | none => failWith (text "Array index out of bounds")
  | _ => failWith (notA name (text "an array"))

/-- Overwrite an element of an array. -/
def arraySet (name : Text) : Program R World Unit := do
  let index ← pop
  let value ← pop
  let position ← orFail (arrayIndex index)
  match ← readVar name with
  | .array elementType elements =>
    let element ← orFail (elementValue elementType value (text "ARRAY SET"))
    if position < elements.length then
      assign name (.array elementType (elements.set position element))
    else failWith (text "Array index out of bounds")
  | _ => failWith (notA name (text "an array"))

/-- The key that a value stands for. -/
def mapKey (key : Value R) : Except Text Text :=
  match key with
  | .string string => .ok string
  | _ => .error (text "Map key must be a string")

/-- The value of a key, or the default of the map. -/
def mapValue (valueType : ScalarType) (entries : List (Text × Scalar R)) (key : Text) :
    Scalar R :=
  ((entries.find? fun entry => entry.1 == key).map Prod.snd).getD (defaultElement valueType)

/-- Overwrite the value of a key, or add the key behind the others. -/
def mapStore (entries : List (Text × Scalar R)) (key : Text) (value : Scalar R) :
    List (Text × Scalar R) :=
  match entries with
  | [] => [(key, value)]
  | entry :: rest =>
    if entry.1 == key then (key, value) :: rest else entry :: mapStore rest key value

/-- Push the value of a key. -/
def mapGet (name : Text) : Program R World Unit := do
  let keyValue ← pop
  let key ← orFail (mapKey keyValue)
  match ← readVar name with
  | .map valueType entries => push (mapValue valueType entries key).toValue
  | _ => failWith (notA name (text "a map"))

/-- Set the value of a key; a name that was never set becomes a map. -/
def mapSet (name : Text) : Program R World Unit := do
  let keyValue ← pop
  let value ← pop
  let key ← orFail (mapKey keyValue)
  let known ← checkVar name
  let container ← if known then readVar name else .done (.map (elementTypeOfName name) [])
  match container with
  | .map valueType entries =>
    let element ← orFail (elementValue valueType value (text "MAP SET"))
    assign name (.map valueType (mapStore entries key element))
  | other => failWith (notA name (text "a map (type=") ++ decimal other.typeCode ++ text ")")

/-- Replace the two values on top of the stack by the result of an operator. -/
def binaryInstruction (operator : Value R → Value R → Except Text (Value R)) :
    Program R World Unit := do
  let b ← pop
  let a ← pop
  let result ← orFail (operator a b)
  push result

/-- Replace the value on top of the stack by the result of an operator. -/
def unaryInstruction (operator : Value R → Except Text (Value R)) : Program R World Unit := do
  let a ← pop
  let result ← orFail (operator a)
  push result

/-- The operator of an instruction with two operands. -/
def binaryOperator (opcode : Opcode) : Option (Value R → Value R → Except Text (Value R)) :=
  match opcode with
  | .add => some addValues
  | .subtract => some subtractValues
  | .multiply => some multiplyValues
  | .divide => some divideValues
  | .eq => some (relationalOperator (text "EQ") fun order => order == .eq)
  | .ne => some (relationalOperator (text "NE") fun order => order != .eq)
  | .lt => some (relationalOperator (text "LT") fun order => order == .lt)
  | .le => some (relationalOperator (text "LE") fun order => order != .gt)
  | .gt => some (relationalOperator (text "GT") fun order => order == .gt)
  | .ge => some (relationalOperator (text "GE") fun order => order != .lt)
  | .and => some (bitwiseOperator (text "AND") fun x y => x &&& y)
  | .xor => some (bitwiseOperator (text "XOR") fun x y => x ^^^ y)
  | .or => some (bitwiseOperator (text "OR") fun x y => x ||| y)
  | _ => none

/-- The operator of an instruction with one operand. -/
def unaryOperator (opcode : Opcode) : Option (Value R → Except Text (Value R)) :=
  match opcode with
  | .negate => some negateValue
  | .not => some notValue
  | _ => none

/-- Push a constant. -/
def pushConst (code : Code R) (operand : Nat) : Program R World Unit :=
  match code.constants[operand]? with
  | none => failWith (invalidConstant [])
  | some constant => push constant.toValue

/-- Push the value of a variable. -/
def pushVar (code : Code R) (operand : Nat) : Program R World Unit := do
  let name ← orFail (constantName code operand (invalidConstant (text " for variable name")))
  let value ← readVar name
  push value

/-- Store the top value in a variable. -/
def popVar (code : Code R) (operand : Nat) : Program R World Unit := do
  let name ← orFail (constantName code operand (invalidConstant (text " for variable name")))
  let value ← pop
  assign name value

/-- An instruction on a named array or map. -/
def containerInstruction (code : Code R) (operand : Nat) (kind : Text)
    (act : Text → Program R World Unit) : Program R World Unit := do
  let name ← orFail
    (constantName code operand (invalidConstant (text " for " ++ kind ++ text " name")))
  act name

end DataInstructions

/-- What ends a pause. -/
inductive Release where
  | resume
  | step
  | stop
  deriving DecidableEq

/-- Everything that the machine leaves to others: the handlers of the instructions that act on
devices, files and the clock, and what other threads do to the flags. -/
structure Host (R World : Type) [ScriptNumber R] where
  device : Code R → Instruction → Program R World Unit
  requests : World → Flags → Flags × World
  release : World → Release × World

/-- A host whose devices do nothing and whose other threads ask for nothing. -/
def quietHost : Host R Unit where
  device _ _ := .done ()
  requests world flags := (flags, world)
  release world := (.resume, world)

/-- The program of an instruction that does not touch the flow of control. -/
def dataProgram (host : Host R World) (code : Code R) (instruction : Instruction) :
    Program R World Unit :=
  match instruction.opcode with
  | .nop | .enterScope | .exitScope => .done ()
  | .pushConst => pushConst code instruction.operand
  | .pushNum => push (.number (ScriptNumber.ofInt instruction.operand))
  | .pushVar => pushVar code instruction.operand
  | .popVar => popVar code instruction.operand
  | .pop => do
    let _ ← pop
    .done ()
  | .dimArray => containerInstruction code instruction.operand (text "array") dimArray
  | .arrayGet => containerInstruction code instruction.operand (text "array") arrayGet
  | .arraySet => containerInstruction code instruction.operand (text "array") arraySet
  | .mapGet => containerInstruction code instruction.operand (text "map") mapGet
  | .mapSet => containerInstruction code instruction.operand (text "map") mapSet
  | opcode =>
    match binaryOperator opcode with
    | some operator => binaryInstruction operator
    | none =>
      match unaryOperator opcode with
      | some operator => unaryInstruction operator
      | none => host.device code instruction

abbrev Executed (R World : Type) := Option Bool × Runtime R World

/-- Run a program and go on with its result. -/
def andThen {α : Type} (program : Program R World α) (runtime : Runtime R World)
    (next : α → Runtime R World → Executed R World) : Executed R World :=
  match program.run handleOp runtime with
  | (some result, after) => next result after
  | (none, after) => (none, after)

/-- Fail with a message. -/
def Runtime.fail (runtime : Runtime R World) (message : Text) : Executed R World :=
  (none, runtime.withError message)

section ControlInstructions

/-- Take a number off the stack. -/
def popNumber (what : Text) : Program R World R := do
  let value ← pop
  orFail (requireNumber value what)

/-- The name that the parameter of an index is stored under. -/
def paramName (index : Nat) : Text :=
  text "PARAM" ++ decimal index

/-- A number as a size. -/
def sizeOfNumber (n : R) : Nat :=
  ((ScriptNumber.truncated n).getD 0).toNat

/-- Store parameters, the last one first. -/
def bindParams : Nat → Program R World Unit
  | 0 => .done ()
  | index + 1 => do
    let value ← pop
    let _ ← trySetVar (paramName (index + 1)) value
    bindParams index

/-- Take the parameters of a `GOSUB` off the stack and store them. -/
def callParams : Program R World Nat := do
  let count ← pop
  match count with
  | .number n => do
    bindParams (sizeOfNumber n)
    .done (sizeOfNumber n)
  | _ => failWith (typeMismatch (text "GOSUB param count"))

/-- Enter a subroutine. -/
def executeCall (operand : Nat) (runtime : Runtime R World) : Executed R World :=
  andThen callParams runtime fun paramCount runtime =>
    if c64scriptMaxGosubDepth ≤ runtime.gosubStack.length then
      runtime.fail (text "GOSUB stack overflow")
    else
      (some false,
        { runtime with
          gosubStack := ⟨runtime.ip, paramCount⟩ :: runtime.gosubStack
          ip := operand })

/-- Set the first parameters to zero. -/
def clearParams : Nat → Program R World Unit
  | 0 => .done ()
  | index + 1 => do
    clearParams index
    let _ ← trySetVar (paramName (index + 1)) (.number numberZero)
    .done ()

/-- Store the result of a subroutine and clear its parameters. -/
def leaveGosub (hasReturnValue : Bool) (paramCount : Nat) : Program R World Unit := do
  if hasReturnValue then
    let value ← pop
    let _ ← trySetVar (text "RESULT") value
    clearParams paramCount
  else clearParams paramCount

/-- The value that a function returns. -/
def returnValue (hasReturnValue : Bool) : Program R World (Value R) :=
  if hasReturnValue then pop else .done (.number numberZero)

/-- Return from a function if a scope is open, and from a subroutine otherwise. -/
def executeReturn (hasReturnValue : Bool) (runtime : Runtime R World) : Executed R World :=
  match runtime.scopeStack with
  | scope :: _ =>
    andThen (returnValue hasReturnValue) runtime fun value runtime =>
      andThen (push value) { runtime with scopeStack := runtime.scopeStack.tail } fun _ runtime =>
        (some true, { runtime with ip := scope.returnIp })
  | [] =>
    match runtime.gosubStack with
    | gosub :: _ =>
      andThen (leaveGosub hasReturnValue gosub.paramCount) runtime fun _ runtime =>
        (some false,
          { runtime with ip := gosub.returnIp, gosubStack := runtime.gosubStack.tail })
    | [] => runtime.fail (text "RETURN without GOSUB or function call")

/-- Call a function: its arguments become the first variables of a new scope. -/
def executeCallFunction (code : Code R) (operand : Nat) (runtime : Runtime R World) :
    Executed R World :=
  let index := operand / 65536
  let argCount := operand % 65536
  match code.functions[index]? with
  | none => runtime.fail (text "Invalid function index: " ++ decimal index)
  | some function =>
    if argCount ≠ function.paramNames.length then
      runtime.fail (text "Function " ++ function.name ++ text " expects " ++
        decimal function.paramNames.length ++ text " arguments, got " ++ decimal argCount)
    else if maxScopeDepth ≤ runtime.scopeStack.length then
      runtime.fail (text "recursion too deep")
    else if runtime.stack.length < argCount then
      -- The arguments taken so far are lost, and the scope is gone again.
      Runtime.fail { runtime with stack := [] } (text "Stack underflow in function call")
    else
      let scope : Scope R :=
        { localVars := (function.paramNames.reverse.map nameField).zip runtime.stack
          savedVarCount := runtime.globalVars.length
          returnIp := runtime.ip }
      (some true,
        { runtime with
          scopeStack := scope :: runtime.scopeStack
          stack := runtime.stack.drop argCount
          ip := function.bytecodeAddress })

/-- Take the bounds of a loop off the stack; its current value has to be a number too. -/
def forBounds : Program R World (R × R) := do
  let step ← pop
  let finish ← pop
  let current ← pop
  let step ← orFail (requireNumber step (text "FOR"))
  let finish ← orFail (requireNumber finish (text "FOR"))
  let _ ← orFail (requireNumber current (text "FOR"))
  .done (finish, step)

/-- Enter a `FOR` loop. -/
def executeForInit (code : Code R) (operand : Nat) (runtime : Runtime R World) :
    Executed R World :=
  andThen forBounds runtime fun bounds runtime =>
    if c64scriptMaxForNesting ≤ runtime.forStack.length then
      runtime.fail (text "FOR loop nesting too deep")
    else
      match constantName code operand (invalidConstant []) with
      | .error message => runtime.fail message
      | .ok variableName =>
        let state : ForState R := ⟨variableName, bounds.1, bounds.2, runtime.ip⟩
        (some false, { runtime with forStack := state :: runtime.forStack })

/-- Whether a loop is past its end. -/
def ForState.isDone (state : ForState R) (current : R) : Bool :=
  if ScriptNumber.less numberZero state.stepValue then
    ScriptNumber.less state.endValue current
  else ScriptNumber.less current state.endValue

/-- Leave the innermost `FOR` loop if it is done. -/
def executeForCheck (operand : Nat) (runtime : Runtime R World) : Executed R World :=
  match runtime.forStack with
  | [] => runtime.fail (text "FOR_CHECK without FOR_INIT")
  | state :: rest =>
    match requireNumber (getVar runtime.toMachine state.variableName) (text "FOR") with
    | .error message => runtime.fail message
    | .ok current =>
      if state.isDone current then (some false, { runtime with forStack := rest, ip := operand })
      else (some false, runtime)

/-- Advance the variable of the innermost `FOR` loop. -/
def executeForIncr (runtime : Runtime R World) : Executed R World :=
  match runtime.forStack with
  | [] => runtime.fail (text "FOR_INCR without FOR_INIT")
  | state :: _ =>
    match requireNumber (getVar runtime.toMachine state.variableName) (text "FOR") with
    | .error message => runtime.fail message
    | .ok current =>
      andThen (assign state.variableName (.number (ScriptNumber.add current state.stepValue)))
        runtime fun _ runtime => (some false, runtime)

/-- Jump if the number on top of the stack is zero. -/
def executeConditionalJump (what : Text) (operand : Nat) (runtime : Runtime R World) :
    Executed R World :=
  andThen (popNumber what) runtime fun condition runtime =>
    (some false, if isZero condition then { runtime with ip := operand } else runtime)

/-- Execute an instruction; the instruction pointer is already at the next one. -/
def executeInstruction (host : Host R World) (code : Code R) (instruction : Instruction)
    (runtime : Runtime R World) : Executed R World :=
  match instruction.opcode with
  | .jump => (some false, { runtime with ip := instruction.operand })
  | .jumpIfFalse => executeConditionalJump (text "JUMP_IF_FALSE") instruction.operand runtime
  | .whileCheck => executeConditionalJump (text "WHILE") instruction.operand runtime
  | .call => executeCall instruction.operand runtime
  | .return => executeReturn (decide (instruction.operand ≠ 0)) runtime
  | .returnValue => executeReturn true runtime
  | .callFunction => executeCallFunction code instruction.operand runtime
  | .stop | .halt =>
    (some false, { runtime with flags := { runtime.flags with shouldStop := true } })
  | .forInit => executeForInit code instruction.operand runtime
  | .forCheck => executeForCheck instruction.operand runtime
  | .forIncr => executeForIncr runtime
  | _ => andThen (dataProgram host code instruction) runtime fun _ runtime => (some false, runtime)

end ControlInstructions

section Loop

/-- One round of the loop: it goes on, or execution ends with success or failure. -/
inductive Progress (R World : Type) where
  | running (runtime : Runtime R World)
  | finished (runtime : Runtime R World)
  | failed (runtime : Runtime R World)

/-- The source line of the instruction at an address, zero past the end. -/
def Code.lineAt (code : Code R) (ip : Nat) : Int :=
  match code.bytecode[ip]? with
  | some instruction => instruction.sourceLine
  | none => 0

/-- The state as other threads have left it. -/
def observe (host : Host R World) (runtime : Runtime R World) : Runtime R World :=
  let seen := host.requests runtime.world runtime.flags
  { runtime with flags := seen.1, world := seen.2 }

/-- Wait at a new line if a pause was requested. -/
def pauseAtLine (host : Host R World) (line : Int) (runtime : Runtime R World) :
    Runtime R World :=
  if runtime.flags.shouldPause ∧ line ≠ runtime.lastExecutedLine ∧ 0 < line then
    let flags :=
      { runtime.flags with isPaused := true, shouldPause := false, stepSkipWaits := false }
    match host.release runtime.world with
    | (.resume, world) => { runtime with flags := { flags with isPaused := false }, world }
    | (.stop, world) => { runtime with flags := { flags with shouldStop := true }, world }
    | (.step, world) =>
      { runtime with
        flags :=
          { flags with
            stepMode := false
            stepSkipWaits := true
            isPaused := false
            shouldPause := true }
        world }
  else runtime

/-- Keep the line numbers up to date after an instruction. -/
def updateLines (code : Code R) (line : Int) (skipLineUpdate : Bool) (runtime : Runtime R World) :
    Runtime R World :=
  { runtime with
    lastExecutedLine :=
      if ¬ skipLineUpdate ∧ 0 < line ∧ line ≠ runtime.lastExecutedLine then line
      else runtime.lastExecutedLine
    nextLineToExecute := code.lineAt runtime.ip }

/-- The state in which an instruction is executed: the next instruction is already in view. -/
def beginInstruction (instruction : Instruction) (runtime : Runtime R World) :
    Runtime R World :=
  { runtime with errorLine := instruction.sourceLine, ip := runtime.ip + 1 }

/-- Execute an instruction and keep the line numbers up to date. -/
def vmDispatch (host : Host R World) (code : Code R) (instruction : Instruction)
    (runtime : Runtime R World) : Progress R World :=
  match executeInstruction host code instruction (beginInstruction instruction runtime) with
  | (none, after) => .failed after
  | (some skipLineUpdate, after) =>
    .running (updateLines code instruction.sourceLine skipLineUpdate after)

/-- Whether another instruction would exceed the limit on their number. -/
def Runtime.atIterationLimit (runtime : Runtime R World) : Bool :=
  decide (0 < runtime.maxIterations ∧ runtime.maxIterations ≤ runtime.iterationCount + 1)

/-- The message for a script that executed too many instructions. -/
def iterationLimitMessage (maxIterations : Nat) : Text :=
  text "Iteration limit exceeded (" ++ decimal maxIterations ++ text " iterations)"

/-- One round of the loop of the machine. -/
def vmStep (host : Host R World) (code : Code R) (runtime : Runtime R World) :
    Progress R World :=
  let runtime := observe host runtime
  match code.bytecode[runtime.ip]? with
  | none => .finished runtime
  | some instruction =>
    if runtime.flags.shouldStop then .finished runtime
    else if runtime.atIterationLimit then
      .failed
        { runtime.withError (iterationLimitMessage runtime.maxIterations) with
          iterationCount := runtime.iterationCount + 1
          flags := { runtime.flags with shouldStop := true } }
    else
      let counted :=
        if 0 < runtime.maxIterations then
          { runtime with iterationCount := runtime.iterationCount + 1 }
        else runtime
      let paused := pauseAtLine host instruction.sourceLine counted
      if paused.flags.shouldStop then .finished paused
      else vmDispatch host code instruction paused

/-- The state that execution starts with. -/
def vmStart (code : Code R) (runtime : Runtime R World) : Runtime R World :=
  { runtime with
    ip := 0
    flags := { runtime.flags with shouldStop := false }
    lastExecutedLine := 0
    nextLineToExecute := code.lineAt 0
    iterationCount := 0 }

/-- Execute at most so many rounds; the outcome if the script ended in them. -/
def vmRun (host : Host R World) (code : Code R) : Nat → Runtime R World → Progress R World
  | 0, runtime => .running runtime
  | rounds + 1, runtime =>
    match vmStep host code runtime with
    | .running after => vmRun host code rounds after
    | outcome => outcome

/-- The runtime of a script that was just created. -/
def runtimeCreate (world : World) : Runtime R World :=
  { ip := 0
    globalVars := []
    stack := []
    forStack := []
    gosubStack := []
    scopeStack := []
    flags := ⟨false, false, false, false, false⟩
    maxIterations := 1000000
    iterationCount := 0
    lastExecutedLine := 0
    nextLineToExecute := 0
    errorMsg := []
    errorLine := 0
    traceRecordingEnabled := false
    world }

end Loop

end C64Stream
