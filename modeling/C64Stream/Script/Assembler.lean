import C64Stream.Script.Bytecode

/-! The compiler as a flattening of the tree followed by a one-pass assembler. -/

namespace C64Stream

variable {R : Type} [ScriptNumber R]

/-- What the tree of a program is flattened to. -/
inductive Item (R : Type) [ScriptNumber R] where
  | op (opcode : Opcode) (operand : Nat) (line : Int)
  | constant (opcode : Opcode) (value : Constant R) (line : Int)
  | jump (opcode : Opcode) (label : Text) (line : Int)
  | invoke (name : Text) (argCount : Nat) (line : Int)
  | checkCall (name : Text) (argCount : Nat)
  | pool (value : Constant R)
  | label (name : Text) (line : Int)
  | function (name : Text) (address : Nat) (paramNames : List Text)
  | failure (message : Option Text)

/-- The number of instructions an item stands for. -/
def Item.size (item : Item R) : Nat :=
  match item with
  | .op _ _ _ | .constant _ _ _ | .jump _ _ _ | .invoke _ _ _ => 1
  | _ => 0

/-- Whether an item neither jumps to a label nor defines a name. -/
def Item.isPlain (item : Item R) : Bool :=
  match item with
  | .jump _ _ _ | .label _ _ | .function _ _ _ => false
  | _ => true

/-- The instructions that may go on at the address in their operand. -/
def Opcode.isLocalJump (opcode : Opcode) : Bool :=
  match opcode with
  | .jump | .jumpIfFalse | .whileCheck | .forCheck => true
  | _ => false

/-- Whether execution goes on behind an item in any case. -/
def Item.isStraight (item : Item R) : Bool :=
  match item with
  | .op opcode _ _ | .constant opcode _ _ => !opcode.isLocalJump
  | item => item.isPlain

/-- The number of instructions a list of items stands for. -/
def codeSize (items : List (Item R)) : Nat :=
  (items.map Item.size).sum

/-- Whether a call pushes an empty string first, and whether its last argument names an array. -/
def callShape (name : Text) (argCount : Nat) : Bool × Option Text :=
  match callForm [] name argCount with
  | .ok form => (form.emptyFirst, form.arrayArgument)
  | .error _ => (false, none)

/-- The item that pushes the name of an array. -/
def flattenArrayName (expr : AstExpr R) (what : Text) : Item R :=
  match expr with
  | .call line name [] | .identifier line name => .constant .pushConst (.string name) line
  | _ => .failure (some (text "Expected " ++ what ++ text " array name"))

mutual

/-- The items of an expression. -/
def flattenExpression : AstExpr R → List (Item R)
  | .number line value => [.constant .pushConst (.number value) line]
  | .string line value => [.constant .pushConst (.string value) line]
  | .identifier line name => [.constant .pushVar (.string name) line]
  | .arrayAccess line name index =>
    flattenExpression index ++ [.constant .arrayGet (.string name) line]
  | .mapAccess line name key => flattenExpression key ++ [.constant .mapGet (.string name) line]
  | .unary line op operand =>
    flattenExpression operand ++
      match unaryOpcode op with
      | some opcode => [.op opcode 0 line]
      | none => []
  | .binary line op left right =>
    flattenExpression left ++ flattenExpression right ++
      match binaryOpcode op with
      | some opcode => [.op opcode 0 line]
      | none => [.failure none]
  | .call line name args =>
    [.checkCall name args.length] ++
      (if (callShape name args.length).1 then [.constant .pushConst (.string []) line] else []) ++
      flattenArguments (callShape name args.length).2 args ++ [.invoke name args.length line]

/-- The items of the arguments of a call. -/
def flattenArguments (arrayArgument : Option Text) : List (AstExpr R) → List (Item R)
  | [] => []
  | arg :: rest =>
    (match arrayArgument, rest with
      | some what, [] => [flattenArrayName arg what]
      | _, _ => flattenExpression arg) ++ flattenArguments arrayArgument rest

end

/-- The items that push the name of a variable. -/
def flattenVarName (expr : AstExpr R) (what : Text) : List (Item R) :=
  match expr with
  | .identifier line name => [.constant .pushConst (.string name) line]
  | .string line value => [.constant .pushConst (.string value) line]
  | _ => [.failure (some (text "Expected " ++ what ++ text " variable name"))]

/-- The items of an operand of a command. -/
def flattenOperand (line : Int) (operand : Operand R) : List (Item R) :=
  match operand with
  | .expression expr => flattenExpression expr
  | .constant value => [.constant .pushConst value line]
  | .variableName expr what => flattenVarName expr what
  | .pooled value => [.pool value]

/-- The item of an instruction with a given source of its operand. -/
def flattenSource (opcode : Opcode) (operand : OperandSource) (line : Int) : Item R :=
  match operand with
  | .immediate operand => .op opcode operand line
  | .name name => .constant opcode (.string name) line

/-- The items of a command. -/
def flattenCommand (line : Int) (command : AstCommand R) : List (Item R) :=
  (commandForm command).operands.flatMap (flattenOperand line) ++
    [flattenSource (commandForm command).opcode (commandForm command).operand line]

/-- Whether the last instruction is a return, given whether the one before the items is. -/
def endsInReturn : Bool → List (Item R) → Bool
  | before, [] => before
  | _, .op opcode _ _ :: rest => endsInReturn (opcode == .return) rest
  | _, .constant opcode _ _ :: rest => endsInReturn (opcode == .return) rest
  | _, .jump opcode _ _ :: rest => endsInReturn (opcode == .return) rest
  | _, .invoke _ _ _ :: rest => endsInReturn false rest
  | before, .checkCall _ _ :: rest => endsInReturn before rest
  | before, .pool _ :: rest => endsInReturn before rest
  | before, .label _ _ :: rest => endsInReturn before rest
  | before, .function _ _ _ :: rest => endsInReturn before rest
  | before, .failure _ :: rest => endsInReturn before rest

/-- The return that a function gets unless its code ends in one. -/
def flattenImplicitReturn (line : Int) (body : List (Item R)) : List (Item R) :=
  if endsInReturn false body then []
  else [.constant .pushConst (numberConstant 0) line, .op .return 1 line]

mutual

/-- The items of a statement whose code starts at an address. -/
def flattenStatement : Nat → AstStmt R → List (Item R)
  | _, .empty _ => []
  | _, .rem _ => []
  | _, .label line name => [.label name line]
  | base, .functionDef line name paramNames body =>
    let items := flattenStatements (base + 1) body
    let implicit := flattenImplicitReturn line items
    [.op .jump (base + 1 + codeSize items + codeSize implicit) line,
      .function name (base + 1) paramNames] ++ items ++ implicit
  | _, .goto line label => [.jump .jump label line]
  | _, .gosub line label params =>
    params.flatMap flattenExpression ++ [.op .pushNum params.length line, .jump .call label line]
  | _, .return line (some value) => flattenExpression value ++ [.op .return 1 line]
  | _, .return line none => [.op .return 0 line]
  | _, .stop line => [.op .stop 0 line]
  | base, .if line condition thenBranch elseBranch =>
    let test := flattenExpression condition
    let start := base + codeSize test + 1
    let items := flattenStatements start thenBranch
    match elseBranch with
    | [] => test ++ [.op .jumpIfFalse (start + codeSize items) line] ++ items
    | first :: rest =>
      let other := flattenStatements (start + codeSize items + 1) (first :: rest)
      test ++ [.op .jumpIfFalse (start + codeSize items + 1) line] ++ items ++
        [.op .jump (start + codeSize items + 1 + codeSize other) line] ++ other
  | base, .for line variableName start finish step body =>
    let setup := flattenExpression start ++
      [.constant .popVar (.string variableName) line,
        .constant .pushVar (.string variableName) line] ++ flattenExpression finish ++
      flattenOperand line (expressionOr step (numberConstant 1)) ++
      [.constant .forInit (.string variableName) line]
    let loopStart := base + codeSize setup
    let items := flattenStatements (loopStart + 1) body
    setup ++ [.op .forCheck (loopStart + 1 + codeSize items + 2) line] ++ items ++
      [.constant .forIncr (.string variableName) line, .op .jump loopStart line]
  | base, .while line condition body =>
    let test := flattenExpression condition
    let start := base + codeSize test + 1
    let items := flattenStatements start body
    test ++ [.op .whileCheck (start + codeSize items + 1) line] ++ items ++
      [.op .jump base line]
  | _, .command line command => flattenCommand line command

/-- The items of a block whose code starts at an address. -/
def flattenStatements : Nat → List (AstStmt R) → List (Item R)
  | _, [] => []
  | base, stmt :: rest =>
    flattenStatement base stmt ++
      flattenStatements (base + codeSize (flattenStatement base stmt)) rest

end

/-- The items of a program. -/
def flattenProgram (program : List (AstStmt R)) : List (Item R) :=
  flattenStatements 0 program ++ [.op .halt 0 (-1)]

/-- Assemble one item. -/
def assembleItem (item : Item R) (ctx : CompilerContext R) : Compiled R :=
  match item with
  | .op opcode operand line => .ok (emit ctx opcode operand line)
  | .constant opcode value line => emitConstant ctx opcode value line
  | .jump opcode label line => .ok (emitJump ctx opcode label line)
  | .invoke name argCount line =>
    match callForm ctx.functions name argCount with
    | .error message => ctx.fail message
    | .ok form => emitSource ctx form.opcode form.operand line
  | .checkCall name argCount =>
    match callForm ctx.functions name argCount with
    | .error message => ctx.fail message
    | .ok _ => .ok ctx
  | .pool value => .ok (addConstant ctx value).2
  | .label name line => defineLabel ctx name line
  | .function name address paramNames =>
    match registerFunction ctx name address paramNames with
    | none =>
      ctx.fail (text "Too many function definitions or duplicate function name: " ++ name)
    | some ctx => .ok ctx
  | .failure message => .error ⟨message, ctx.functions⟩

/-- Assemble items, first to last. -/
def assemble : List (Item R) → CompilerContext R → Compiled R
  | [], ctx => .ok ctx
  | item :: rest, ctx => do
    let ctx ← assembleItem item ctx
    assemble rest ctx

section Assembling

variable {ctx after : CompilerContext R} {line : Int} {name : Text}

@[simp] theorem codeSize_append (first second : List (Item R)) :
    codeSize (first ++ second) = codeSize first + codeSize second := by
  simp [codeSize]

@[simp] theorem codeSize_cons (item : Item R) (rest : List (Item R)) :
    codeSize (item :: rest) = item.size + codeSize rest := by
  simp [codeSize]

@[simp] theorem codeSize_nil : codeSize ([] : List (Item R)) = 0 := rfl

theorem Item.size_le_one (item : Item R) : item.size ≤ 1 := by
  cases item <;> simp [Item.size]

theorem codeSize_le_length (items : List (Item R)) : codeSize items ≤ items.length := by
  induction items with
  | nil => exact Nat.zero_le _
  | cons item rest ih =>
    have small := item.size_le_one
    simp only [codeSize_cons, List.length_cons]
    omega

theorem assemble_append (first second : List (Item R)) (ctx : CompilerContext R) :
    assemble (first ++ second) ctx = assemble first ctx >>= assemble second := by
  induction first generalizing ctx with
  | nil => rfl
  | cons item rest ih =>
    simp only [List.cons_append, assemble]
    cases assembleItem item ctx with
    | error failure => rfl
    | ok after => exact ih after

theorem assemble_single (item : Item R) (ctx : CompilerContext R) :
    assemble [item] ctx = assembleItem item ctx := by
  simp only [assemble]
  cases assembleItem item ctx with
  | error failure => rfl
  | ok after => rfl

theorem addConstant_instructions (ctx : CompilerContext R) (value : Constant R) :
    (addConstant ctx value).2.instructions = ctx.instructions := by
  unfold addConstant
  split <;> rfl

theorem emitConstant_length {opcode : Opcode} {value : Constant R}
    (emitted : emitConstant ctx opcode value line = .ok after) :
    after.instructions.length = ctx.instructions.length + 1 := by
  simp only [emitConstant] at emitted
  split at emitted
  · simp [CompilerContext.failSilently] at emitted
  · simp only [Except.ok.injEq] at emitted
    simp [← emitted, emit, addConstant_instructions]

theorem emitSource_length {opcode : Opcode} {operand : OperandSource}
    (emitted : emitSource ctx opcode operand line = .ok after) :
    after.instructions.length = ctx.instructions.length + 1 := by
  cases operand with
  | immediate operand =>
    simp only [emitSource, Except.ok.injEq] at emitted
    simp [← emitted, emit]
  | name name => exact emitConstant_length emitted

theorem emitJump_length (ctx : CompilerContext R) (opcode : Opcode) (label : Text) (line : Int) :
    (emitJump ctx opcode label line).instructions.length = ctx.instructions.length + 1 := by
  unfold emitJump
  split <;> simp [emit]

theorem assemble_cons_ok {item : Item R} {rest : List (Item R)}
    (assembled : assemble (item :: rest) ctx = .ok after) :
    ∃ middle, assembleItem item ctx = .ok middle ∧ assemble rest middle = .ok after := by
  simp only [assemble] at assembled
  cases first : assembleItem item ctx with
  | error failure => simp [first, Bind.bind, Except.bind] at assembled
  | ok middle => exact ⟨middle, rfl, by simpa [first, Bind.bind, Except.bind] using assembled⟩

theorem assembleItem_label (assembled : assembleItem (.label name line) ctx = .ok after) :
    after = { ctx with labels := ctx.labels ++ [(nameField name, ctx.instructions.length)] } := by
  simp only [assembleItem, defineLabel] at assembled
  split at assembled
  · simp [CompilerContext.fail] at assembled
  · split at assembled
    · exact (Except.ok.inj assembled).symm
    · simp [CompilerContext.fail] at assembled

theorem assembleItem_function {address : Nat} {paramNames : List Text}
    (assembled : assembleItem (.function name address paramNames) ctx = .ok after) :
    after =
      { ctx with functions := ctx.functions ++ [⟨nameField name, address, paramNames⟩] } := by
  simp only [assembleItem, registerFunction] at assembled
  split at assembled
  · simp [CompilerContext.fail] at assembled
  · rename_i registered
    split at registered
    · simp at registered
    · rw [Option.some.inj registered]
      exact (Except.ok.inj assembled).symm

theorem assembleItem_checkCall {argCount : Nat}
    (assembled : assembleItem (.checkCall name argCount) ctx = .ok after) : after = ctx := by
  simp only [assembleItem] at assembled
  split at assembled
  · simp [CompilerContext.fail] at assembled
  · exact (Except.ok.inj assembled).symm

theorem assembleItem_invoke {argCount : Nat}
    (assembled : assembleItem (.invoke name argCount line) ctx = .ok after) :
    ∃ form, callForm ctx.functions name argCount = .ok form ∧
      emitSource ctx form.opcode form.operand line = .ok after := by
  simp only [assembleItem] at assembled
  split at assembled
  · simp [CompilerContext.fail] at assembled
  · exact ⟨_, ‹_›, assembled⟩

theorem assembleItem_length {item : Item R} (assembled : assembleItem item ctx = .ok after) :
    after.instructions.length = ctx.instructions.length + item.size := by
  cases item with
  | op opcode operand line =>
    simp [← Except.ok.inj assembled, emit, Item.size]
  | constant opcode value line => exact emitConstant_length assembled
  | jump opcode label line =>
    rw [← Except.ok.inj assembled]
    exact emitJump_length ctx opcode label line
  | invoke name argCount line =>
    obtain ⟨form, _, emitted⟩ := assembleItem_invoke assembled
    exact emitSource_length emitted
  | checkCall name argCount => rw [assembleItem_checkCall assembled]; rfl
  | pool value =>
    simp [← Except.ok.inj assembled, Item.size, addConstant_instructions]
  | label name line => rw [assembleItem_label assembled]; rfl
  | function name address paramNames => rw [assembleItem_function assembled]; rfl
  | failure message => simp [assembleItem] at assembled

theorem assemble_length {items : List (Item R)} (assembled : assemble items ctx = .ok after) :
    after.instructions.length = ctx.instructions.length + codeSize items := by
  induction items generalizing ctx with
  | nil => simp [← Except.ok.inj assembled]
  | cons item rest ih =>
    obtain ⟨middle, first, others⟩ := assemble_cons_ok assembled
    rw [ih others, assembleItem_length first, codeSize_cons, Nat.add_assoc]

end Assembling

end C64Stream
