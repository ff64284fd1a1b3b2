import C64Stream.Lib.Heeds
import C64Stream.Script.Devices
import C64Stream.Script.StatementArguments

/-! The instructions that store values in variables, and what becomes of a store that fails. -/

namespace C64Stream.Stores

variable {R World : Type} [ScriptNumber R]

section Outside

/-- A request to a server. -/
structure HttpRequest where
  method : Nat
  url : Text
  headers : List Text
  body : Text
  deriving DecidableEq

/-- What becomes of a request; a failed one may have received something. -/
inductive HttpReply where
  | failed (error : Text) (received : Option Text)
  | answered (statusCode : Int) (received : Option Text)
  deriving DecidableEq

/-- Whether an operation sets a variable. -/
def isStore (op : VmOp R World) : Bool :=
  match op with
  | .setVar _ _ => true
  | _ => false

/-- A program that sets no variable, whatever its operations answer. -/
def Storeless {α : Type} (program : Program R World α) : Prop :=
  program.Typed (fun op (_ : Unit) => isStore op = false) (fun _ level => level) () ()

/-- What the instructions meet outside, and the instructions that set no variable. -/
structure Outside (R World : Type) [ScriptNumber R] where
  statement : World → StatementWorld R
  keep : World → StatementWorld R → World
  loadTextFile : World → Text → Except Text Text
  httpReady : World → Bool
  request : World → HttpRequest → HttpReply × World
  restClient : World → Bool
  /-- The texts of the configuration of the device below some names, or the reason there are none. -/
  configList : World → List Text → Except Text (List Text) × World
  others : Code R → Instruction → Program R World Unit
  storeless : ∀ code instruction, Storeless (others code instruction)

variable (outside : Outside R World)

/-- Look at the world. -/
def look : Program R World World :=
  .perform .world .done

/-- Leave the world as it has become. -/
def become (world : World) : Program R World Unit :=
  .perform (.setWorld world) .done

/-- Store some values, whether that is possible or not. -/
def tryStoreAll : List (Text × Value R) → Program R World Unit
  | [] => .done ()
  | (name, value) :: others => do
    let _ ← trySetVar name value
    tryStoreAll others

end Outside

section Outputs

variable (outside : Outside R World)

/-- Run a program, and store its status and its output. -/
def runlocal : Program R World Unit := do
  let outputVar ← pop
  let statusVar ← pop
  let args ← pop
  let path ← pop
  let world ← look
  let met := { outside.statement world with assigned := [] }
  match opRunlocal met path args statusVar outputVar with
  | (after, .error message) => do
    become (outside.keep world after)
    failWith message
  | (after, .ok ()) => do
    become (outside.keep world after)
    tryStoreAll after.assigned

/-- The content of a file of the script, if the statement names one and a variable. -/
def fileContent (world : World) (path target : Value R) : Except Text (Text × Text) :=
  match target, path with
  | .string name, .string path =>
    let met := outside.statement world
    match c64scriptResolveScriptPath met.platform met.scriptDir path 1024 with
    | (false, _) => .error (text "Path too long")
    | (true, resolved) => (outside.loadTextFile world resolved).map fun content => (name, content)
  | .string _, _ => .error (typeMismatch (text "READFILE path"))
  | _, _ => .error (typeMismatch (text "READFILE variable name"))

/-- Read a file into a variable. -/
def readfile : Program R World Unit := do
  let target ← pop
  let path ← pop
  let world ← look
  let (name, content) ← orFail (fileContent outside world path target)
  tryStoreAll [(name, .string content)]

/-- The variable that a value names, if it names one. -/
def outputName (value : Value R) : Option Text :=
  match value with
  | .string name => if name = [] then none else some name
  | _ => none

/-- The body of a request. -/
def httpBody (body : Value R) : Except Text Text :=
  match body with
  | .string body => .ok body
  | .number n => .ok (ScriptNumber.toText n)
  | _ => .error (typeMismatch (text "HTTP body"))

/-- The headers of a request. -/
def httpHeaders (headers : Value R) : Except Text (List Text) :=
  match headers with
  | .string header => .ok (if header = [] then [] else [header])
  | .map _ entries =>
    .ok (entries.map fun entry =>
      entry.1 ++ text ": " ++
        match entry.2 with
        | .string value => value
        | .number n => ScriptNumber.toText n)
  | _ => .error (typeMismatch (text "HTTP headers"))

/-- The request that an instruction makes. -/
def httpRequest (method : Nat) (url headers body : Value R) : Except Text HttpRequest :=
  match url with
  | .string url => do
    let body ← httpBody body
    let headers ← httpHeaders headers
    .ok ⟨method, url, headers, body⟩
  | _ => .error (typeMismatch (text "HTTP url"))

/-- What a request leaves in its variables, or why it ends the script. -/
def httpStores (statusVar responseVar : Value R) (reply : HttpReply) :
    Except Text (List (Text × Value R)) :=
  let status (code : Int) := (outputName statusVar).toList.map fun name =>
    (name, Value.number (ScriptNumber.ofInt code))
  let response (received : Text) := (outputName responseVar).toList.map fun name =>
    (name, Value.string received)
  match reply with
  | .failed error received =>
    -- Without a variable for the status, a failed request ends the script.
    if outputName statusVar = none then .error (text "HTTP request failed: " ++ error)
    else .ok (status 0 ++ response (received.getD error))
  | .answered code received => .ok (status code ++ response (received.getD []))

/-- What a request to a server leads to. -/
def httpOutcome (world : World) (method : Nat) (url headers body statusVar responseVar : Value R) :
    Except Text (List (Text × Value R)) × World :=
  match httpRequest method url headers body with
  | .error message => (.error message, world)
  | .ok request =>
    if outside.httpReady world = false then (.error (text "HTTP initialization failed"), world)
    else if 4 < method then (.error (text "Invalid HTTP method"), world)
    else
      let (reply, after) := outside.request world request
      (httpStores statusVar responseVar reply, after)

/-- Send a request to a server, and store its status and its response. -/
def http (method : Nat) : Program R World Unit := do
  let url ← pop
  let headers ← pop
  let body ← pop
  let statusVar ← pop
  let responseVar ← pop
  let world ← look
  let (outcome, after) := httpOutcome outside world method url headers body statusVar responseVar
  become after
  let stores ← orFail outcome
  tryStoreAll stores

end Outputs

section Configuration

variable (outside : Outside R World)

/-- Store the texts of the configuration in an array, and push their number. -/
def storeConfigList (what name : Text) (names : List Text) : Program R World Unit := do
  match ← readVar name with
  | .array elementType elements => do
    let world ← look
    let (listed, after) := outside.configList world names
    become after
    match listed with
    | .error reason => failWith (what ++ text " failed: " ++ reason)
    | .ok items =>
      if elements.length < items.length then failWith (text "Array index out of bounds")
      else do
        assign name (.array elementType (items.map .string ++ elements.drop items.length))
        push (.number (ScriptNumber.ofInt items.length))
  | _ => failWith (notA name (text "an array"))

/-- Fail without a client for the device. -/
def requireRestClient : Program R World Unit := do
  let world ← look
  if outside.restClient world then .done () else failWith (text "REST client not available")

/-- List the categories or the items of the configuration. -/
def cfgItem : Program R World Unit := do
  let array ← pop
  let path ← pop
  requireRestClient outside
  let name ← orFail (requireString array (text "CFG_ITEM$"))
  let path ← orFail (requireString path (text "CFG_ITEM$"))
  storeConfigList outside (text "CFG_ITEM$") name [path]

/-- List the options of an item of the configuration. -/
def cfgOptions : Program R World Unit := do
  let array ← pop
  let item ← pop
  let category ← pop
  requireRestClient outside
  let category ← orFail (requireString category (text "CFG_OPTIONS$"))
  let item ← orFail (requireString item (text "CFG_OPTIONS$"))
  let name ← orFail (requireString array (text "CFG_OPTIONS$"))
  storeConfigList outside (text "CFG_OPTIONS$") name [category, item]

/-- The machine with these instructions; its other threads ask for nothing. -/
def storingHost : Host R World where
  device code instruction :=
    match instruction.opcode with
    | .runlocal => runlocal outside
    | .readfile => readfile outside
    | .http => http outside instruction.operand
    | .cfgItem => cfgItem outside
    | .cfgOptions => cfgOptions outside
    | _ => outside.others code instruction
  requests world flags := (flags, world)
  release world := (.resume, world)

end Configuration

section Memory

abbrev Refusals := Nat → Bool

abbrev Counted (R World : Type) := Nat × Runtime R World

variable (refuses : Refusals)

/-- Why a store fails, if it does. -/
def storeFailure (state : Counted R World) (name : Text) (value : Value R) : Option Text :=
  if refuses state.1 then some (text "Out of memory")
  else
    match setVar state.2.toMachine name value with
    | .error message => some message
    | .ok _ => none

/-- Perform an operation, where a store may find no memory. -/
def handleStore (op : VmOp R World) (state : Counted R World) :
    Option op.Reply × Counted R World :=
  match op with
  | .setVar name value =>
    if refuses state.1 then
      (some false, (state.1 + 1, state.2.withError (text "Out of memory")))
    else
      let handled := handleOp (.setVar name value) state.2
      (handled.1, (state.1 + 1, handled.2))
  | op =>
    let handled := handleOp op state.2
    (handled.1, (state.1, handled.2))

/-- A store that an instruction tries, and why it fails if it does. -/
structure Attempt (R : Type) where
  name : Text
  value : Value R
  failure : Option Text
  deriving DecidableEq

/-- The variable of a store. -/
def Attempt.key (attempt : Attempt R) : Text :=
  normalizeIdentifier attempt.name

/-- The store that an operation is, if it is one. -/
def attemptOf (entry : VmOp R World × Counted R World) : Option (Attempt R) :=
  match entry.1 with
  | .setVar name value => some ⟨name, value, storeFailure refuses entry.2 name value⟩
  | _ => none

/-- The stores that a program tries. -/
def attempts {α : Type} (program : Program R World α) (state : Counted R World) :
    List (Attempt R) :=
  (program.performed (handleStore refuses) state).filterMap (attemptOf refuses)

end Memory

section Instructions

variable (outside : Outside R World) (refuses : Refusals)

/-- An instruction: the program that may store values, and what is done behind it. -/
structure Staged (R World : Type) where
  program : Program R World Nat
  next : Nat → Runtime R World → Executed R World

/-- An instruction that stores nothing. -/
def Staged.storingNothing (execute : Runtime R World → Executed R World) : Staged R World :=
  ⟨.done 0, fun _ => execute⟩

/-- Behind its parameters, a subroutine is entered. -/
def stagedCall (operand : Nat) : Staged R World where
  program := callParams
  next paramCount runtime :=
    if c64scriptMaxGosubDepth ≤ runtime.gosubStack.length then
      runtime.fail (text "GOSUB stack overflow")
    else
      (some false,
        { runtime with
          gosubStack := ⟨runtime.ip, paramCount⟩ :: runtime.gosubStack
          ip := operand })

/-- Behind its result, a subroutine is left; a function stores nothing. -/
def stagedReturn (hasReturnValue : Bool) (runtime : Runtime R World) : Staged R World :=
  match runtime.scopeStack, runtime.gosubStack with
  | [], gosub :: _ =>
    { program := do
        leaveGosub hasReturnValue gosub.paramCount
        .done 0
      next := fun _ runtime =>
        (some false,
          { runtime with ip := gosub.returnIp, gosubStack := runtime.gosubStack.tail }) }
  | _, _ => .storingNothing (executeReturn hasReturnValue)

/-- The variable of the innermost loop is advanced. -/
def stagedForIncr (runtime : Runtime R World) : Staged R World :=
  match runtime.forStack with
  | [] => .storingNothing executeForIncr
  | state :: _ =>
    match requireNumber (getVar runtime.toMachine state.variableName) (text "FOR") with
    | .error _ => .storingNothing executeForIncr
    | .ok current =>
      { program := do
          assign state.variableName (.number (ScriptNumber.add current state.stepValue))
          .done 0
        next := fun _ runtime => (some false, runtime) }

/-- Each instruction, by what it stores. -/
def staged (code : Code R) (instruction : Instruction) (runtime : Runtime R World) :
    Staged R World :=
  match instruction.opcode with
  | .call => stagedCall instruction.operand
  | .return => stagedReturn (decide (instruction.operand ≠ 0)) runtime
  | .returnValue => stagedReturn true runtime
  | .forIncr => stagedForIncr runtime
  | .jump | .jumpIfFalse | .whileCheck | .callFunction | .stop | .halt | .forInit | .forCheck =>
    .storingNothing (executeInstruction (storingHost outside) code instruction)
  | _ =>
    { program := do
        dataProgram (storingHost outside) code instruction
        .done 0
      next := fun _ runtime => (some false, runtime) }

/-- Execute an instruction, where a store may find no memory. -/
def executeStoring (code : Code R) (instruction : Instruction) (runtime : Runtime R World) :
    Executed R World :=
  let stages := staged outside code instruction runtime
  match stages.program.run (handleStore refuses) (0, runtime) with
  | (some result, (_, after)) => stages.next result after
  | (none, (_, after)) => (none, after)

/-- Execute an instruction of the loop, where a store may find no memory. -/
def dispatchStoring (code : Code R) (instruction : Instruction) (runtime : Runtime R World) :
    Progress R World :=
  match executeStoring outside refuses code instruction (beginInstruction instruction runtime) with
  | (none, after) => .failed after
  | (some skipLineUpdate, after) =>
    .running (updateLines code instruction.sourceLine skipLineUpdate after)

/-- The stores that an instruction tries. -/
def instructionAttempts (code : Code R) (instruction : Instruction) (runtime : Runtime R World) :
    List (Attempt R) :=
  let begun := beginInstruction instruction runtime
  attempts refuses (staged outside code instruction begun).program (0, begun)

end Instructions

end C64Stream.Stores
