import C64Stream.Script.Code

/-! The compiler: one pass over the tree, with jumps patched once their targets are known. -/

namespace C64Stream

def c64scriptMaxLabels : Nat := 256

/-- A whole number, as `%d` prints it. -/
def signedDecimal (n : Int) : Text :=
  if n < 0 then text "-" ++ decimal n.natAbs else decimal n.natAbs

section Compiler

variable {R : Type} [ScriptNumber R]

/-- What the compiler has produced so far. -/
structure CompilerContext (R : Type) [ScriptNumber R] where
  instructions : List Instruction
  constants : List (Constant R)
  /-- Stored label names with their addresses. -/
  labels : List (Text × Nat)
  /-- Instructions to patch, with the stored name of their target. -/
  patches : List (Nat × Text)
  functions : List FunctionDef

/-- A failed compilation: the message, if one was written, and the function table it leaves. -/
structure CompileFailure where
  message : Option Text
  functions : List FunctionDef
  deriving DecidableEq

abbrev Compiled (R : Type) [ScriptNumber R] := Except CompileFailure (CompilerContext R)

/-- Give up with a message. -/
def CompilerContext.fail (ctx : CompilerContext R) (message : Text) : Compiled R :=
  .error ⟨some message, ctx.functions⟩

/-- Give up without a message. -/
def CompilerContext.failSilently (ctx : CompilerContext R) : Compiled R :=
  .error ⟨none, ctx.functions⟩

/-- Append an instruction. -/
def emit (ctx : CompilerContext R) (opcode : Opcode) (operand : Nat) (sourceLine : Int) :
    CompilerContext R :=
  { ctx with instructions := ctx.instructions ++ [⟨opcode, operand % operandBound, sourceLine⟩] }

/-- Whether a pool entry can stand for a constant. -/
def sameConstant (value existing : Constant R) : Bool :=
  match value, existing with
  | .number a, .number b => ScriptNumber.equal b.val a.val
  | .string a, .string b => b == a
  | _, _ => false

/-- Where a constant is in the pool, and the pool that has it. -/
def addConstant (ctx : CompilerContext R) (value : Constant R) : Nat × CompilerContext R :=
  match ctx.constants.findIdx? (sameConstant value) with
  | some index => (index % operandBound, ctx)
  | none =>
    (ctx.constants.length % operandBound, { ctx with constants := ctx.constants ++ [value] })

/-- Emit an instruction whose operand is the index of a constant. -/
def emitConstant (ctx : CompilerContext R) (opcode : Opcode) (value : Constant R)
    (sourceLine : Int) : Compiled R :=
  let added := addConstant ctx value
  if added.1 = uint32Max then added.2.failSilently
  else .ok (emit added.2 opcode added.1 sourceLine)

/-- Define a label at the current address. -/
def defineLabel (ctx : CompilerContext R) (labelName : Text) (sourceLine : Int) : Compiled R :=
  if ctx.labels.any fun label => label.1 == labelName then
    ctx.fail (text "Duplicate label: " ++ labelName ++ text " (line " ++ signedDecimal sourceLine ++
      text ")")
  else if ctx.labels.length < c64scriptMaxLabels then
    .ok { ctx with labels := ctx.labels ++ [(nameField labelName, ctx.instructions.length)] }
  else ctx.fail (text "Too many labels")

/-- The address of the first label stored under a name. -/
def getLabelAddress (labels : List (Text × Nat)) (labelName : Text) : Option Nat :=
  (labels.find? fun label => label.1 == labelName).map Prod.snd

/-- Emit a jump; a target that is not defined yet is left to be patched, if there is room. -/
def emitJump (ctx : CompilerContext R) (opcode : Opcode) (label : Text) (sourceLine : Int) :
    CompilerContext R :=
  match getLabelAddress ctx.labels label with
  | none =>
    let patches :=
      if ctx.patches.length < c64scriptMaxLabels then
        ctx.patches ++ [(ctx.instructions.length, nameField label)]
      else ctx.patches
    emit { ctx with patches } opcode 0 sourceLine
  | some address => emit ctx opcode address sourceLine

/-- Overwrite the operand of an instruction. -/
def setOperand (instructions : List Instruction) (index operand : Nat) : List Instruction :=
  instructions.modify index fun instruction =>
    { instruction with operand := operand % operandBound }

/-- Overwrite the operand of an emitted instruction. -/
def patchOperand (ctx : CompilerContext R) (index operand : Nat) : CompilerContext R :=
  { ctx with instructions := setOperand ctx.instructions index operand }

/-- Give the deferred jumps their targets. -/
def patchJumps (labels : List (Text × Nat)) :
    List (Nat × Text) → List Instruction → Except Text (List Instruction)
  | [], instructions => .ok instructions
  | patch :: rest, instructions =>
    match getLabelAddress labels patch.2 with
    | none => .error (text "Undefined label: " ++ patch.2)
    | some address => patchJumps labels rest (setOperand instructions patch.1 address)

/-- Add a function to the table, unless one of that name is there. -/
def registerFunction (ctx : CompilerContext R) (name : Text) (address : Nat)
    (paramNames : List Text) : Option (CompilerContext R) :=
  if ctx.functions.any fun function => function.name == name then none
  else some { ctx with functions := ctx.functions ++ [⟨nameField name, address, paramNames⟩] }

/-- The built-in functions, with the numbers that name them in an operand. -/
def builtins : List (Text × Nat × Nat) :=
  [(text "LEN", 0, 1), (text "LEFT$", 1, 2), (text "RIGHT$", 2, 2), (text "MID$", 3, 3),
    (text "CHR$", 4, 1), (text "ASC", 5, 1), (text "VAL", 6, 1), (text "ABS", 7, 1),
    (text "INT", 8, 1), (text "RND", 9, 1), (text "SIN", 10, 1), (text "COS", 11, 1),
    (text "TAN", 12, 1), (text "SQRT", 13, 1), (text "LOG", 14, 1), (text "EXP", 15, 1),
    (text "TIME$", 16, 0), (text "ENV", 17, 1), (text "ENV", 17, 2)]

/-- Where the operand of an instruction comes from. -/
inductive OperandSource where
  | immediate (operand : Nat)
  | name (name : Text)

/-- How a call is compiled: what is pushed besides its arguments, and the instruction that ends it. -/
structure CallForm where
  /-- An empty string goes below the arguments. -/
  emptyFirst : Bool := false
  /-- The last argument names an array, for the function of this name. -/
  arrayArgument : Option Text := none
  opcode : Opcode
  operand : OperandSource

/-- The operand of a call, with the number of arguments in its low half. -/
def callOperand (index argCount : Nat) : Nat :=
  index * 65536 ||| argCount

/-- The form of a call of a built-in function, or the complaint about its arguments. -/
def namedBuiltin (name : Text) (argCount : Nat) : Option (Except Text CallForm) :=
  match builtins.find? fun entry => entry.1 == name && entry.2.2 == argCount with
  | some entry =>
    some (.ok { opcode := .callBuiltin, operand := .immediate (callOperand entry.2.1 argCount) })
  | none =>
    match (builtins.filter fun entry => entry.1 == name).map fun entry => entry.2.2 with
    | [] => none
    | [count] =>
      some (.error (name ++ text " expects " ++ decimal count ++ text " argument" ++
        if count = 1 then [] else text "s"))
    | first :: second :: _ =>
      some (.error (name ++ text " expects " ++ decimal first ++ text " or " ++ decimal second ++
        text " arguments"))

/-- The form of a call, or the message that rejects it. -/
def callForm (functions : List FunctionDef) (name : Text) (argCount : Nat) :
    Except Text CallForm :=
  if name = text "CFG$" then
    if argCount = 2 then .ok { opcode := .cfgGet, operand := .immediate 0 }
    else .error (text "CFG$ expects 2 arguments")
  else if name = text "CFG_ITEM$" ∨ name = text "CFGITEM$" then
    if argCount = 2 then
      .ok { arrayArgument := some (text "CFG_ITEM$"), opcode := .cfgItem, operand := .immediate 0 }
    else if argCount = 1 then
      .ok { emptyFirst := true, arrayArgument := some (text "CFG_ITEM$"), opcode := .cfgItem
            operand := .immediate 0 }
    else .error (text "CFG_ITEM$ expects 1 or 2 arguments")
  else if name = text "CFG_OPTIONS$" ∨ name = text "CFGOPTIONS$" then
    if argCount = 3 then
      .ok { arrayArgument := some (text "CFG_OPTIONS$"), opcode := .cfgOptions
            operand := .immediate 0 }
    else .error (text "CFG_OPTIONS$ expects 3 arguments")
  else if name = text "DRIVE$" then
    if argCount = 2 then .ok { opcode := .driveGet, operand := .immediate 0 }
    else .error (text "DRIVE$ expects 2 arguments")
  else if name = text "PEEK" then
    if argCount = 1 then .ok { opcode := .callPeek, operand := .immediate 0 }
    else .error (text "PEEK expects 1 argument")
  else if name = text "STR" ∨ name = text "STR$" then
    if argCount = 1 then .ok { opcode := .callStr, operand := .immediate 0 }
    else .error (text "STR expects 1 argument")
  else
    match namedBuiltin name argCount with
    | some form => form
    | none =>
      match functions.findIdx? fun function => function.name == name with
      | some index =>
        .ok { opcode := .callFunction, operand := .immediate (callOperand index argCount) }
      | none =>
        -- With one argument, a name that is no function is read as an array.
        if argCount = 1 then .ok { opcode := .arrayGet, operand := .name name }
        else .error (text "UNDEF'D FUNCTION")

/-- Emit the instruction that ends a call or a command. -/
def emitSource (ctx : CompilerContext R) (opcode : Opcode) (operand : OperandSource)
    (sourceLine : Int) : Compiled R :=
  match operand with
  | .immediate operand => .ok (emit ctx opcode operand sourceLine)
  | .name name => emitConstant ctx opcode (.string name) sourceLine

/-- The line of an expression. -/
def AstExpr.line (expr : AstExpr R) : Int :=
  match expr with
  | .number line _ | .string line _ | .identifier line _ | .arrayAccess line _ _
  | .mapAccess line _ _ | .unary line _ _ | .binary line _ _ _ | .call line _ _ => line

/-- Push the name of an array that an argument stands for. -/
def compileArrayNameExpr (expr : AstExpr R) (what : Text) (ctx : CompilerContext R) :
    Compiled R :=
  match expr with
  | .call line name [] | .identifier line name =>
    emitConstant ctx .pushConst (.string name) line
  | _ => ctx.fail (text "Expected " ++ what ++ text " array name")

/-- The instruction of a unary operator, if it has one. -/
def unaryOpcode : AstOperator → Option Opcode
  | .negate => some .negate
  | .not => some .not
  | _ => none

/-- The instruction of a binary operator, if it has one. -/
def binaryOpcode : AstOperator → Option Opcode
  | .add => some .add
  | .subtract => some .subtract
  | .multiply => some .multiply
  | .divide => some .divide
  | .eq => some .eq
  | .ne => some .ne
  | .lt => some .lt
  | .le => some .le
  | .gt => some .gt
  | .ge => some .ge
  | .and => some .and
  | .or => some .or
  | .xor => some .xor
  | .negate => none
  | .not => none

mutual

/-- Compile an expression: its value ends up on the stack. -/
def compileExpression : AstExpr R → CompilerContext R → Compiled R
  | .number line value, ctx => emitConstant ctx .pushConst (.number value) line
  | .string line value, ctx => emitConstant ctx .pushConst (.string value) line
  | .identifier line name, ctx => emitConstant ctx .pushVar (.string name) line
  | .arrayAccess line name index, ctx => do
    let ctx ← compileExpression index ctx
    emitConstant ctx .arrayGet (.string name) line
  | .mapAccess line name key, ctx => do
    let ctx ← compileExpression key ctx
    emitConstant ctx .mapGet (.string name) line
  | .unary line op operand, ctx => do
    let ctx ← compileExpression operand ctx
    match unaryOpcode op with
    | some opcode => .ok (emit ctx opcode 0 line)
    | none => .ok ctx
  | .binary line op left right, ctx => do
    let ctx ← compileExpression left ctx
    let ctx ← compileExpression right ctx
    match binaryOpcode op with
    | some opcode => .ok (emit ctx opcode 0 line)
    | none => ctx.failSilently
  | .call line name args, ctx =>
    match callForm ctx.functions name args.length with
    | .error message => ctx.fail message
    | .ok form => do
      let ctx ← (if form.emptyFirst then emitConstant ctx .pushConst (.string []) line else .ok ctx)
      let ctx ← compileArguments form.arrayArgument args ctx
      emitSource ctx form.opcode form.operand line

/-- Compile the arguments of a call; the last one may have to name an array. -/
def compileArguments (arrayArgument : Option Text) :
    List (AstExpr R) → CompilerContext R → Compiled R
  | [], ctx => .ok ctx
  | arg :: rest, ctx => do
    let ctx ←
      (match arrayArgument, rest with
        | some what, [] => compileArrayNameExpr arg what ctx
        | _, _ => compileExpression arg ctx)
    compileArguments arrayArgument rest ctx

end

/-- Push the name of the variable that an output argument stands for. -/
def compileVarNameExpr (expr : AstExpr R) (what : Text) (ctx : CompilerContext R) : Compiled R :=
  match expr with
  | .identifier line name => emitConstant ctx .pushConst (.string name) line
  | .string line value => compileExpression (.string line value) ctx
  | _ => ctx.fail (text "Expected " ++ what ++ text " variable name")

/-- What a command puts on the stack before its own instruction. -/
inductive Operand (R : Type) [ScriptNumber R] where
  | expression (expr : AstExpr R)
  | constant (value : Constant R)
  | variableName (expr : AstExpr R) (what : Text)
  /-- A constant that is added to the pool and not pushed. -/
  | pooled (value : Constant R)

/-- Compile one operand of a command. -/
def compileOperand (line : Int) (operand : Operand R) (ctx : CompilerContext R) : Compiled R :=
  match operand with
  | .expression expr => compileExpression expr ctx
  | .constant value => emitConstant ctx .pushConst value line
  | .variableName expr what => compileVarNameExpr expr what ctx
  | .pooled value => .ok (addConstant ctx value).2

/-- Compile the operands of a command, first to last. -/
def compileOperands (line : Int) : List (Operand R) → CompilerContext R → Compiled R
  | [], ctx => .ok ctx
  | operand :: rest, ctx => do
    let ctx ← compileOperand line operand ctx
    compileOperands line rest ctx

/-- A number constant of the compiler's own. -/
def numberConstant (n : Nat) : Constant R :=
  .number (literal n)

/-- An expression, or a constant where it is absent. -/
def expressionOr (value : Option (AstExpr R)) (default : Constant R) : Operand R :=
  match value with
  | some expr => .expression expr
  | none => .constant default

/-- A name given in the source, or the empty string. -/
def nameOrEmpty (name : Option Text) : Operand R :=
  .constant (.string (name.getD []))

/-- An output variable, or the empty string. -/
def variableOrEmpty (value : Option (AstExpr R)) (what : Text) : Operand R :=
  match value with
  | some expr => .variableName expr what
  | none => .constant (.string [])

/-- An expression that may be absent, as operands. -/
def optionalOperand (value : Option (AstExpr R)) : List (Operand R) :=
  value.toList.map .expression

/-- The operand of a memory wait: its unit, and which values it has. -/
def waitMemOperand (pollUnit : WaitUnit) (hasValue hasPoll : Bool) : Nat :=
  pollUnit.operand ||| (if hasValue then 256 else 0) ||| (if hasPoll then 512 else 0)

/-- The code of a command: its operands, and the instruction that ends it. -/
structure CommandForm (R : Type) [ScriptNumber R] where
  operands : List (Operand R)
  opcode : Opcode
  operand : OperandSource := .immediate 0

/-- How each command is compiled. -/
def commandForm (command : AstCommand R) : CommandForm R :=
  match command with
  | .assignment variableName value =>
    { operands := [.expression value], opcode := .popVar, operand := .name variableName }
  | .dim arrayName size =>
    { operands := [.expression size], opcode := .dimArray, operand := .name arrayName }
  | .arraySet arrayName index value =>
    { operands := [.expression value, .expression index], opcode := .arraySet
      operand := .name arrayName }
  | .mapSet mapName key value =>
    { operands := [.expression value, .expression key], opcode := .mapSet
      operand := .name mapName }
  | .wait duration unit =>
    { operands := [.expression duration], opcode := .wait, operand := .immediate unit.operand }
  | .waitMem address mask value poll pollUnit =>
    { operands := [.expression address, .expression mask] ++ optionalOperand value ++
        optionalOperand poll
      opcode := .waitMem
      operand := .immediate (waitMemOperand pollUnit value.isSome poll.isSome) }
  | .waitUntil timeExpr => { operands := [.expression timeExpr], opcode := .waitUntil }
  | .obsScreenshot target path =>
    { operands := [.expression path], opcode := .obsScreenshot
      operand := .immediate target.operand }
  | .obsRecordingStart => { operands := [], opcode := .obsRecordingStart }
  | .obsRecordingStop => { operands := [], opcode := .obsRecordingStop }
  | .obsWaitFrames frameCount =>
    { operands := [.expression frameCount], opcode := .obsWaitFrames }
  | .assertImageEquals actualPath expectedPath tolerance =>
    { operands := [.expression actualPath, .expression expectedPath,
        expressionOr tolerance (numberConstant 0)]
      opcode := .assertImageEquals }
  | .effect presetName => { operands := [.expression presetName], opcode := .effect }
  | .effectparam paramName paramValue =>
    { operands := [.expression paramName, .expression paramValue], opcode := .effectparam }
  | .palette paletteName => { operands := [.expression paletteName], opcode := .palette }
  | .switchDevice deviceRef => { operands := [.expression deviceRef], opcode := .switchDevice }
  | .discoverDevices port =>
    { operands := optionalOperand port, opcode := .discoverDevices
      operand := .immediate (if port.isSome then 1 else 0) }
  | .palettecolor index r g b =>
    { operands := [.expression index, .expression r, .expression g, .expression b]
      opcode := .palettecolor }
  | .playsid path songnr =>
    { operands := [.expression path, expressionOr songnr (numberConstant 0)], opcode := .playsid }
  | .runprg path => { operands := [.expression path], opcode := .runprg }
  | .runlocal path args statusVar outputVar =>
    { operands := [.expression path, expressionOr args (.string []),
        variableOrEmpty statusVar (text "status"), variableOrEmpty outputVar (text "output")]
      opcode := .runlocal }
  | .mountdisk path => { operands := [.expression path], opcode := .mountdisk }
  | .cfg category item value =>
    { operands := [.expression category, .expression item, .expression value], opcode := .cfgSet }
  | .cfgsave => { operands := [], opcode := .cfgSave }
  | .cfgload => { operands := [], opcode := .cfgLoad }
  | .cfgreset => { operands := [], opcode := .cfgReset }
  | .sidModel target model =>
    { operands := [.constant (.string target), .expression model], opcode := .sidModel }
  | .sidEnable target enabled =>
    { operands := [.constant (.string target), .expression enabled], opcode := .sidEnable }
  | .sidVol target level =>
    { operands := [.constant (.string target), .expression level], opcode := .sidVol }
  | .sidFilterCurve target curve =>
    { operands := [.constant (.string target), .expression curve], opcode := .sidFilterCurve }
  | .sidResonance target resonance =>
    { operands := [.constant (.string target), .expression resonance], opcode := .sidResonance }
  | .sidCombined target combined =>
    { operands := [.constant (.string target), .expression combined], opcode := .sidCombined }
  | .sidDigis target level =>
    { operands := [.constant (.string target), .expression level], opcode := .sidDigis }
  | .vicMode mode => { operands := [.expression mode], opcode := .vicMode }
  | .cpuSpeed speed => { operands := [.expression speed], opcode := .cpuSpeed }
  | .driveMount drive image type mode =>
    { operands := [nameOrEmpty drive, .expression image, nameOrEmpty type, nameOrEmpty mode]
      opcode := .driveMount }
  | .driveUnmount drive => { operands := [.constant (.string drive)], opcode := .driveUnmount }
  | .driveReset drive => { operands := [.constant (.string drive)], opcode := .driveReset }
  | .driveOn drive => { operands := [.constant (.string drive)], opcode := .driveOn }
  | .driveOff drive => { operands := [.constant (.string drive)], opcode := .driveOff }
  | .driveRom drive file =>
    { operands := [nameOrEmpty drive, .expression file], opcode := .driveRom }
  | .driveMode drive mode =>
    { operands := [.constant (.string drive), .constant (.string mode)], opcode := .driveMode }
  | .driveBusId drive busId =>
    { operands := [.constant (.string drive), .expression busId], opcode := .driveBusId }
  | .load filename device =>
    { operands := .expression filename :: optionalOperand device, opcode := .load
      operand := .immediate (if device.isSome then 1 else 0) }
  | .run none => { operands := [], opcode := .run }
  | .run (some (filename, device)) =>
    { operands := .expression filename :: optionalOperand device, opcode := .run
      operand := .immediate (if device.isSome then 3 else 1) }
  | .sys address => { operands := [.expression address], opcode := .sys }
  | .autostart => { operands := [], opcode := .autostart }
  | .reset => { operands := [], opcode := .reset }
  | .reboot => { operands := [], opcode := .reboot }
  | .pause => { operands := [], opcode := .pause }
  | .resume => { operands := [], opcode := .resume }
  | .poweroff => { operands := [], opcode := .poweroff }
  | .type text => { operands := [.expression text], opcode := .type }
  | .key key => { operands := [.expression key], opcode := .key }
  | .poke address value =>
    { operands := [.expression address, .expression value], opcode := .pokeSingle }
  | .pokeArray address first rest =>
    { operands := .expression address :: .expression first :: rest.map .expression
      opcode := .pokeArray
      operand := .immediate (rest.length + 1) }
  | .logfile path truncate =>
    { operands := [.expression path], opcode := .logfile
      operand := .immediate (if truncate then 1 else 0) }
  | .log message => { operands := [.expression message], opcode := .log }
  | .print message => { operands := [.expression message], opcode := .print }
  | .tron => { operands := [], opcode := .tron }
  | .troff => { operands := [], opcode := .troff }
  | .readfile variableName path =>
    { operands := [.expression path, .variableName variableName (text "READFILE")]
      opcode := .readfile }
  | .writefile path content truncate =>
    { operands := [.expression path, .expression content]
      opcode := if truncate then .writefileTruncate else .writefileAppend }
  | .http method url headers body statusVar responseVar =>
    { operands := [.pooled (.string []), variableOrEmpty responseVar (text "response"),
        variableOrEmpty statusVar (text "status"), expressionOr body (.string []),
        expressionOr headers (.string []), .expression url]
      opcode := .http
      operand := .immediate method.operand }

/-- Compile a command. -/
def compileCommand (line : Int) (command : AstCommand R) (ctx : CompilerContext R) :
    Compiled R := do
  let form := commandForm command
  let ctx ← compileOperands line form.operands ctx
  emitSource ctx form.opcode form.operand line

/-- Compile expressions one after another. -/
def compileExpressions : List (AstExpr R) → CompilerContext R → Compiled R
  | [], ctx => .ok ctx
  | expr :: rest, ctx => do
    let ctx ← compileExpression expr ctx
    compileExpressions rest ctx

/-- The opcode of the last instruction that was emitted. -/
def lastOpcode (ctx : CompilerContext R) : Option Opcode :=
  ctx.instructions.getLast?.map Instruction.opcode

/-- A function whose code does not end in a return gets one that returns zero. -/
def implicitReturn (line : Int) (ctx : CompilerContext R) : Compiled R :=
  if lastOpcode ctx = some .return then .ok ctx
  else do
    let ctx ← emitConstant ctx .pushConst (numberConstant 0) line
    .ok (emit ctx .return 1 line)

mutual

/-- Compile a statement. -/
def compileStatement : AstStmt R → CompilerContext R → Compiled R
  | .empty _, ctx => .ok ctx
  | .rem _, ctx => .ok ctx
  | .label line name, ctx => defineLabel ctx name line
  | .functionDef line name paramNames body, ctx =>
    let jumpOver := ctx.instructions.length
    let ctx := emit ctx .jump 0 line
    match registerFunction ctx name ctx.instructions.length paramNames with
    | none =>
      ctx.fail (text "Too many function definitions or duplicate function name: " ++ name)
    | some ctx => do
      let ctx ← compileStatements body ctx
      let ctx ← implicitReturn line ctx
      .ok (patchOperand ctx jumpOver ctx.instructions.length)
  | .goto line label, ctx => .ok (emitJump ctx .jump label line)
  | .gosub line label params, ctx => do
    let ctx ← compileExpressions params ctx
    let ctx := emit ctx .pushNum params.length line
    .ok (emitJump ctx .call label line)
  | .return line (some value), ctx => do
    let ctx ← compileExpression value ctx
    .ok (emit ctx .return 1 line)
  | .return line none, ctx => .ok (emit ctx .return 0 line)
  | .stop line, ctx => .ok (emit ctx .stop 0 line)
  | .if line condition thenBranch elseBranch, ctx => do
    let ctx ← compileExpression condition ctx
    let elseJump := ctx.instructions.length
    let ctx := emit ctx .jumpIfFalse 0 line
    let ctx ← compileStatements thenBranch ctx
    match elseBranch with
    | [] => .ok (patchOperand ctx elseJump ctx.instructions.length)
    | first :: rest =>
      let endJump := ctx.instructions.length
      let ctx := emit ctx .jump 0 line
      let ctx := patchOperand ctx elseJump ctx.instructions.length
      let ctx ← compileStatements (first :: rest) ctx
      .ok (patchOperand ctx endJump ctx.instructions.length)
  | .for line variableName start finish step body, ctx => do
    let ctx ← compileExpression start ctx
    let ctx ← emitConstant ctx .popVar (.string variableName) line
    let ctx ← emitConstant ctx .pushVar (.string variableName) line
    let ctx ← compileExpression finish ctx
    let ctx ← compileOperand line (expressionOr step (numberConstant 1)) ctx
    let ctx ← emitConstant ctx .forInit (.string variableName) line
    let loopStart := ctx.instructions.length
    let ctx := emit ctx .forCheck 0 line
    let ctx ← compileStatements body ctx
    let ctx ← emitConstant ctx .forIncr (.string variableName) line
    let ctx := emit ctx .jump loopStart line
    .ok (patchOperand ctx loopStart ctx.instructions.length)
  | .while line condition body, ctx => do
    let loopStart := ctx.instructions.length
    let ctx ← compileExpression condition ctx
    let checkJump := ctx.instructions.length
    let ctx := emit ctx .whileCheck 0 line
    let ctx ← compileStatements body ctx
    let ctx := emit ctx .jump loopStart line
    .ok (patchOperand ctx checkJump ctx.instructions.length)
  | .command line command, ctx => compileCommand line command ctx

/-- Compile the statements of a block, first to last. -/
def compileStatements : List (AstStmt R) → CompilerContext R → Compiled R
  | [], ctx => .ok ctx
  | stmt :: rest, ctx => do
    let ctx ← compileStatement stmt ctx
    compileStatements rest ctx

end

/-- Compile the statements of a program, and halt after them. -/
def compileProgram (program : List (AstStmt R)) (ctx : CompilerContext R) : Compiled R := do
  let ctx ← compileStatements program ctx
  .ok (emit ctx .halt 0 (-1))

/-- The context that a compilation starts with. -/
def emptyContext (functions : List FunctionDef) : CompilerContext R :=
  { instructions := [], constants := [], labels := [], patches := [], functions }

/-- Compile a program, for a runtime whose function table is given. -/
def c64scriptCompile (program : List (AstStmt R)) (functions : List FunctionDef) :
    Except CompileFailure (Code R) :=
  match program with
  | [] => .error ⟨some (text "NULL AST or runtime provided"), functions⟩
  | first :: rest => do
    let ctx ← compileProgram (first :: rest) (emptyContext functions)
    match patchJumps ctx.labels ctx.patches ctx.instructions with
    | .error message => .error ⟨some message, ctx.functions⟩
    | .ok bytecode => .ok { bytecode, constants := ctx.constants, functions := ctx.functions }

end Compiler

end C64Stream
