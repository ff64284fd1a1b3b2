import C64Stream.Script.Value

/-! The operators of the language, on values. -/

namespace C64Stream

section Requirements

variable {R : Type} [ScriptNumber R]

/-- The complaint about a value of the wrong type. -/
def typeMismatch (what : Text) : Text :=
  text "TYPE MISMATCH (" ++ what ++ text ")"

/-- The number that a value has to be. -/
def requireNumber (value : Value R) (what : Text) : Except Text R :=
  match value with
  | .number n => .ok n
  | _ => .error (typeMismatch what)

omit [ScriptNumber R] in
theorem requireNumber_eq_ok {value : Value R} {what : Text} {n : R} :
    requireNumber value what = .ok n ↔ value = .number n := by
  cases value <;> simp [requireNumber]

/-- The whole number of thirty-two bits that a value has to be. -/
def numberToInt (value : Value R) (what : Text) : Except Text Int := do
  let n ← requireNumber value what
  match ScriptNumber.truncated n with
  | some whole =>
    if whole ≤ 2147483647 ∧ -2147483648 ≤ whole then .ok whole
    else .error (text "ILLEGAL QUANTITY")
  | none => .error (text "ILLEGAL QUANTITY")

end Requirements

/-- The order of two byte strings. -/
def strcmp : Text → Text → Ordering
  | [], [] => .eq
  | [], _ :: _ => .lt
  | _ :: _, [] => .gt
  | a :: as, b :: bs => if a < b then .lt else if b < a then .gt else strcmp as bs

section Operators

variable {R : Type} [ScriptNumber R]

/-- The order of two values of the same type. -/
def compareValues (a b : Value R) (what : Text) : Except Text Ordering :=
  match a, b with
  | .number a, .number b =>
    .ok (if ScriptNumber.less a b then .lt else if ScriptNumber.less b a then .gt else .eq)
  | .string a, .string b => .ok (strcmp a b)
  | _, _ => .error (typeMismatch what)

/-- The text of a value in a concatenation. -/
def concatText (value : Value R) : Except Text Text :=
  match value with
  | .string string => .ok string
  | .number n => .ok (ScriptNumber.toText n)
  | _ => .error (typeMismatch (text "ADD"))

/-- An operator on two numbers. -/
def numberOperator (what : Text) (apply : R → R → Except Text R) (a b : Value R) :
    Except Text (Value R) := do
  let left ← requireNumber a what
  let right ← requireNumber b what
  let result ← apply left right
  .ok (.number result)

/-- Addition, or concatenation when either side is a string. -/
def addValues (a b : Value R) : Except Text (Value R) :=
  match a, b with
  | .string _, _ | _, .string _ => do
    let left ← concatText a
    let right ← concatText b
    .ok (.string (left ++ right))
  | _, _ => numberOperator (text "ADD") (fun x y => .ok (ScriptNumber.add x y)) a b

/-- Subtraction. -/
def subtractValues (a b : Value R) : Except Text (Value R) :=
  numberOperator (text "SUBTRACT") (fun x y => .ok (ScriptNumber.subtract x y)) a b

/-- Multiplication. -/
def multiplyValues (a b : Value R) : Except Text (Value R) :=
  numberOperator (text "MULTIPLY") (fun x y => .ok (ScriptNumber.multiply x y)) a b

/-- Division, by a number that is not zero. -/
def divideValues (a b : Value R) : Except Text (Value R) :=
  numberOperator (text "DIVIDE")
    (fun x y => if isZero y then .error (text "Division by zero") else .ok (ScriptNumber.divide x y))
    a b

/-- An operator on the order of two values. -/
def relationalOperator (what : Text) (test : Ordering → Bool) (a b : Value R) :
    Except Text (Value R) := do
  let order ← compareValues a b what
  .ok (.number (ofBool (test order)))

/-- An operator on the bits of two numbers. -/
def bitwiseOperator (what : Text) (apply : BitVec 32 → BitVec 32 → BitVec 32) (a b : Value R) :
    Except Text (Value R) := do
  let left ← numberToInt a what
  let right ← numberToInt b what
  .ok (.number (ScriptNumber.ofInt (apply (BitVec.ofInt 32 left) (BitVec.ofInt 32 right)).toInt))

/-- Negation. -/
def negateValue (a : Value R) : Except Text (Value R) := do
  let n ← requireNumber a (text "NEGATE")
  .ok (.number (ScriptNumber.negate n))

/-- The complement of the bits of a number. -/
def notValue (a : Value R) : Except Text (Value R) := do
  let n ← numberToInt a (text "NOT")
  .ok (.number (ScriptNumber.ofInt (~~~(BitVec.ofInt 32 n)).toInt))

end Operators

end C64Stream
