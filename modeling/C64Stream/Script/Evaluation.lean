import C64Stream.Script.Bytecode
import C64Stream.Script.Vm

/-! What a script means: its tree evaluated directly, without code and without stacks of values. -/

namespace C64Stream

variable {R : Type} [ScriptNumber R]

section Store

/-- The value of a variable; one that was never set is zero. -/
def readVariable (vars : Variables R) (name : Text) : Value R :=
  (lookup vars (normalizeIdentifier name)).getD (.number numberZero)

/-- The variables after an assignment. -/
def writeVariable (vars : Variables R) (name : Text) (value : Value R) :
    Except Text (Variables R) := do
  let key := normalizeIdentifier name
  let stored ← coerceForName key value
  if lookup vars key = none ∧ c64scriptMaxVariables ≤ vars.length then
    .error (text "Too many variables")
  else .ok (store vars key stored)

end Store

section Expressions

/-- What a unary operator does; the others leave their operand alone. -/
def unaryOperation (op : AstOperator) : Value R → Except Text (Value R) :=
  match op with
  | .negate => negateValue
  | .not => notValue
  | _ => .ok

/-- What a binary operator does. -/
def binaryOperation (op : AstOperator) : Option (Value R → Value R → Except Text (Value R)) :=
  match op with
  | .add => some addValues
  | .subtract => some subtractValues
  | .multiply => some multiplyValues
  | .divide => some divideValues
  | .eq => some (relationalOperator (text "EQ") fun order => order == .eq)
  | .ne => some (relationalOperator (text "NE") fun order => order != .eq)
  | .lt => some (relationalOperator (text "LT") fun order => order == .lt)
  | .le => some (relationalOperator (text "LE") fun order => order != .gt)
  | .gt => some (relationalOperator (text "GT") fun order => order == .gt)
  | .ge => some (relationalOperator (text "GE") fun order => order != .lt)
  | .and => some (bitwiseOperator (text "AND") fun x y => x &&& y)
  | .xor => some (bitwiseOperator (text "XOR") fun x y => x ^^^ y)
  | .or => some (bitwiseOperator (text "OR") fun x y => x ||| y)
  | .negate | .not => none

/-- A value that needs a place while the rest of an expression is evaluated. -/
def keep (room : Nat) (value : Value R) : Except Text (Value R) :=
  if room = 0 then .error (text "Stack overflow") else .ok value

/-- The value of an expression, left operands first, with so many places for values to wait in. -/
def evaluateExpression (vars : Variables R) : Nat → AstExpr R → Except Text (Value R)
  | room, .number _ value => keep room (.number value.val)
  | room, .string _ value => keep room (.string value)
  | room, .identifier _ name => keep room (readVariable vars name)
  | room, .unary _ op operand => do
    let value ← evaluateExpression vars room operand
    unaryOperation op value
  | room, .binary _ op left right => do
    let a ← evaluateExpression vars room left
    let b ← evaluateExpression vars (room - 1) right
    match binaryOperation op with
    | some operation => operation a b
    | none => .error []
  | _, .arrayAccess _ _ _ | _, .mapAccess _ _ _ | _, .call _ _ _ => .error []

/-- An expression of numbers and strings that calls nothing. -/
def AstExpr.isCore : AstExpr R → Bool
  | .number _ _ | .string _ _ | .identifier _ _ => true
  | .unary _ _ operand => operand.isCore
  | .binary _ op left right =>
    (binaryOperation (R := R) op).isSome && left.isCore && right.isCore
  | .arrayAccess _ _ _ | .mapAccess _ _ _ | .call _ _ _ => false

end Expressions

section Statements

/-- What a piece of a script comes to: the variables it leaves, the complaint that ended it, or
nothing within the given number of rounds. -/
inductive Outcome (R : Type) where
  | unfinished
  | fine (vars : Variables R)
  | failed (vars : Variables R) (message : Text)
  deriving DecidableEq

/-- Go on with the variables, unless it is over. -/
def Outcome.andThen (outcome : Outcome R) (next : Variables R → Outcome R) : Outcome R :=
  match outcome with
  | .fine vars => next vars
  | ended => ended

/-- Go on with a result, or fail with its complaint. -/
def attempt {α : Type} (vars : Variables R) (result : Except Text α) (next : α → Outcome R) :
    Outcome R :=
  match result with
  | .ok value => next value
  | .error message => .failed vars message

/-- Go through a loop at most so many times. -/
def evaluateLoop (test : Variables R → Except Text Bool) (body : Variables R → Outcome R) :
    Nat → Variables R → Outcome R
  | 0, _ => .unfinished
  | rounds + 1, vars =>
    attempt vars (test vars) fun goesOn =>
      if goesOn then (body vars).andThen (evaluateLoop test body rounds) else .fine vars

/-- Whether a condition holds. -/
def evaluateCondition (what : Text) (condition : AstExpr R) (room : Nat) (vars : Variables R) :
    Except Text Bool := do
  let value ← evaluateExpression vars room condition
  let number ← requireNumber value what
  .ok (!isZero number)

/-- The step of a loop, which is one where none is given. -/
def evaluateStep (vars : Variables R) (room : Nat) (step : Option (AstExpr R)) :
    Except Text (Value R) :=
  match step with
  | some step => evaluateExpression vars room step
  | none => keep room (.number (ScriptNumber.ofInt 1))

/-- The end and the step of a loop; they and its current value have to be numbers. -/
def checkBounds (current finish step : Value R) : Except Text (R × R) := do
  let step ← requireNumber step (text "FOR")
  let finish ← requireNumber finish (text "FOR")
  let _ ← requireNumber current (text "FOR")
  .ok (finish, step)

/-- What a loop is opened with: the current value waits for the end, and both for the step. -/
def evaluateBounds (vars : Variables R) (room : Nat) (variableName : Text) (finish : AstExpr R)
    (step : Option (AstExpr R)) : Except Text (R × R) := do
  let current ← keep room (readVariable vars variableName)
  let finish ← evaluateExpression vars (room - 1) finish
  let step ← evaluateStep vars (room - 1 - 1) step
  checkBounds current finish step

/-- Whether a loop with a variable is not past its end. -/
def forGoesOn (variableName : Text) (finish step : R) (vars : Variables R) :
    Except Text Bool := do
  let current ← requireNumber (readVariable vars variableName) (text "FOR")
  .ok (!if ScriptNumber.less numberZero step then ScriptNumber.less finish current
    else ScriptNumber.less current finish)

/-- Count the variable of a loop on. -/
def forAdvance (variableName : Text) (step : R) (vars : Variables R) : Outcome R :=
  attempt vars (requireNumber (readVariable vars variableName) (text "FOR")) fun current =>
    attempt vars (writeVariable vars variableName (.number (ScriptNumber.add current step))) .fine

mutual

/-- What a statement does inside so many open `FOR` loops, its loops in at most so many rounds. -/
def evaluateStatement (rounds room : Nat) : AstStmt R → Nat → Variables R → Outcome R
  | .command _ (.assignment variableName value), _, vars =>
    attempt vars (evaluateExpression vars room value) fun value =>
      attempt vars (writeVariable vars variableName value) .fine
  | .if _ condition thenBranch elseBranch, nesting, vars =>
    attempt vars (evaluateCondition (text "JUMP_IF_FALSE") condition room vars) fun holds =>
      if holds then evaluateStatements rounds room thenBranch nesting vars
      else evaluateStatements rounds room elseBranch nesting vars
  | .while _ condition body, nesting, vars =>
    evaluateLoop (evaluateCondition (text "WHILE") condition room)
      (evaluateStatements rounds room body nesting) rounds vars
  | .for _ variableName start finish step body, nesting, vars =>
    attempt vars (evaluateExpression vars room start) fun first =>
      attempt vars (writeVariable vars variableName first) fun vars =>
        attempt vars (evaluateBounds vars room variableName finish step) fun bounds =>
          -- The end and the step are fixed before the first round.
          if c64scriptMaxForNesting ≤ nesting then
            .failed vars (text "FOR loop nesting too deep")
          else
            evaluateLoop (forGoesOn variableName bounds.1 bounds.2)
              (fun vars => (evaluateStatements rounds room body (nesting + 1) vars).andThen
                (forAdvance variableName bounds.2)) rounds vars
  | _, _, vars => .fine vars

/-- What statements do one after another. -/
def evaluateStatements (rounds room : Nat) : List (AstStmt R) → Nat → Variables R → Outcome R
  | [], _, vars => .fine vars
  | stmt :: rest, nesting, vars =>
    (evaluateStatement rounds room stmt nesting vars).andThen
      (evaluateStatements rounds room rest nesting)

end

mutual

/-- A statement that computes: no jumps to labels, no functions, no arrays, no devices. -/
def AstStmt.isCore : AstStmt R → Bool
  | .empty _ | .rem _ | .label _ _ => true
  | .command _ (.assignment _ value) => value.isCore
  | .if _ condition thenBranch elseBranch =>
    condition.isCore && areCore thenBranch && areCore elseBranch
  | .while _ condition body => condition.isCore && areCore body
  | .for _ _ start finish step body =>
    start.isCore && finish.isCore && (step.all AstExpr.isCore) && areCore body
  | _ => false

/-- Whether all statements compute. -/
def areCore : List (AstStmt R) → Bool
  | [] => true
  | stmt :: rest => stmt.isCore && areCore rest

end

end Statements

end C64Stream
