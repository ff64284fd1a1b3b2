import Mathlib.Tactic

/-! Values of the script language, the numbers they rest on, and the names that hold them. -/

namespace C64Stream

abbrev Text := List UInt8

/-- The bytes of a literal. -/
def text (literal : String) : Text :=
  literal.toUTF8.data.toList

/-- The decimal digits of a number. -/
def decimal (n : Nat) : Text :=
  (Nat.toDigits 10 n).map fun digit => UInt8.ofNat digit.toNat

/-- Lower-case ASCII letters in upper case; every other byte is kept. -/
def toUpper (c : UInt8) : UInt8 :=
  if 97 ≤ c ∧ c ≤ 122 then c - 32 else c

/-- Whether two strings agree up to the case of their letters. -/
def equalsIgnoreCase (a b : Text) : Bool :=
  a.map toUpper == b.map toUpper

/-- The number type of the interpreter, kept abstract. -/
class ScriptNumber (R : Type) where
  ofInt : Int → R
  add : R → R → R
  subtract : R → R → R
  multiply : R → R → R
  divide : R → R → R
  negate : R → R
  less : R → R → Bool
  equal : R → R → Bool
  /-- The integral part of a finite number. -/
  truncated : R → Option Int
  /-- The text that `%.10g` prints. -/
  toText : R → Text
  /-- The numbers that number tokens can stand for: never a negative zero. -/
  IsLiteral : R → Prop
  literal_ofInt : ∀ n : Nat, IsLiteral (ofInt n)
  literal_equal : ∀ a b, IsLiteral a → IsLiteral b → equal a b = true → a = b
  truncated_ofInt : ∀ n : Int, 0 ≤ n → n < 2 ^ 53 → truncated (ofInt n) = some n

/-- Whole numbers, on which the operations agree with those of the interpreter. -/
instance : ScriptNumber Int where
  ofInt n := n
  add a b := a + b
  subtract a b := a - b
  multiply a b := a * b
  divide a b := a.tdiv b
  negate a := -a
  less a b := decide (a < b)
  equal a b := a == b
  truncated a := some a
  toText a := if a < 0 then text "-" ++ decimal a.natAbs else decimal a.natAbs
  IsLiteral a := 0 ≤ a
  literal_ofInt n := Int.natCast_nonneg n
  literal_equal _ _ _ _ same := eq_of_beq same
  truncated_ofInt _ _ _ := rfl

/-- A number literal of a script. -/
abbrev Literal (R : Type) [ScriptNumber R] :=
  { number : R // ScriptNumber.IsLiteral number }

/-- The literal of a natural number. -/
def literal {R : Type} [ScriptNumber R] (n : Nat) : Literal R :=
  ⟨ScriptNumber.ofInt n, ScriptNumber.literal_ofInt n⟩

/-- The types a scalar can have. -/
inductive ScalarType where
  | number
  | string
  deriving DecidableEq

/-- A value that is not a container. -/
inductive Scalar (R : Type) where
  | number (number : R)
  | string (string : Text)
  deriving DecidableEq

/-- A value of the interpreter; arrays and maps hold scalars. -/
inductive Value (R : Type) where
  | number (number : R)
  | string (string : Text)
  | array (elementType : ScalarType) (elements : List (Scalar R))
  | map (valueType : ScalarType) (entries : List (Text × Scalar R))
  deriving DecidableEq

/-- The number that stands for the type of a value. -/
def Value.typeCode {R : Type} (value : Value R) : Nat :=
  match value with
  | .number _ => 0
  | .string _ => 1
  | .array _ _ => 2
  | .map _ _ => 3

/-- A scalar as a value. -/
def Scalar.toValue {R : Type} (scalar : Scalar R) : Value R :=
  match scalar with
  | .number n => .number n
  | .string bytes => .string bytes

section Numbers

variable {R : Type} [ScriptNumber R]

/-- The zero of the number type. -/
def numberZero : R :=
  ScriptNumber.ofInt 0

/-- Whether a number is the zero a condition tests for. -/
def isZero (number : R) : Bool :=
  ScriptNumber.equal number numberZero

/-- The number a comparison pushes. -/
def ofBool (flag : Bool) : R :=
  if flag then ScriptNumber.ofInt 1 else ScriptNumber.ofInt 0

end Numbers

def c64scriptMaxArraySize : Nat := 65536

/-- Names of labels, functions and variables are stored in fields of 64 bytes. -/
def nameField (name : Text) : Text :=
  name.take 63

/-- Names are compared in upper case, by their first 63 bytes. -/
def normalizeIdentifier (name : Text) : Text :=
  (name.take 63).map toUpper

/-- Whether a name ends in a given byte. -/
def nameHasSuffix (name : Text) (suffix : UInt8) : Bool :=
  name.getLast? == some suffix

def dollar : UInt8 := 36

def percent : UInt8 := 37

section Coercions

variable {R : Type} [ScriptNumber R]

/-- A number reduced to the range of a signed thirty-two bit integer. -/
def coerceIntegerValue (value : Value R) : Except Text (Value R) :=
  match value with
  | .number number =>
    match ScriptNumber.truncated number with
    | none => .error (text "ILLEGAL QUANTITY")
    | some whole => .ok (.number (ScriptNumber.ofInt (whole.bmod 4294967296)))
  | _ => .error (text "TYPE MISMATCH")

/-- A number turned into its text. -/
def coerceStringValue (value : Value R) : Except Text (Value R) :=
  match value with
  | .string string => .ok (.string string)
  | .number number => .ok (.string (ScriptNumber.toText number))
  | _ => .error (text "TYPE MISMATCH")

/-- The value as it is stored under a name: the suffix decides the type of a scalar. -/
def coerceForName (key : Text) (value : Value R) : Except Text (Value R) :=
  match value with
  | .array elementType elements => .ok (.array elementType elements)
  | .map valueType entries => .ok (.map valueType entries)
  | scalar =>
    if nameHasSuffix key dollar then coerceStringValue scalar
    else if nameHasSuffix key percent then coerceIntegerValue scalar
    else .ok scalar

end Coercions

end C64Stream
