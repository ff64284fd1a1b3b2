import C64Stream.Lib.Layered
import C64Stream.Palette.Catalogue

/-! The settings of a source: values of several types under their names, with defaults. -/

namespace C64Stream

/-- A value of the settings. -/
inductive ObsValue (D : Type*) where
  | string (value : Chars)
  | int (value : Int)
  | double (value : D)
  | bool (value : Bool)
  deriving DecidableEq

/-- What is used of floating-point numbers. -/
class ObsNumber (D : Type*) where
  ofInt : Int → D
  /-- The integer part. -/
  toInt : D → Int
  /-- Whether two numbers differ by less than a ten-thousandth. -/
  near : D → D → Bool
  isZero : D → Bool
  atof : Chars → D

abbrev ObsData (D : Type*) := Layered Chars (ObsValue D)

section Access

variable {D : Type*} [ObsNumber D] (settings : ObsData D) (key : Chars)

/-- A text; a value of another type reads as an empty one. -/
def obsDataGetString : Chars :=
  match settings.get key with
  | some (.string value) => value
  | _ => []

/-- A whole number; a text reads as zero. -/
def obsDataGetInt : Int :=
  match settings.get key with
  | some (.int value) => value
  | some (.double value) => ObsNumber.toInt value
  | _ => 0

/-- A number; a text reads as zero. -/
def obsDataGetDouble : D :=
  match settings.get key with
  | some (.int value) => ObsNumber.ofInt value
  | some (.double value) => value
  | _ => ObsNumber.ofInt 0

/-- Whether a value is set, and not only a default. -/
def obsDataHasUserValue : Bool :=
  (settings.user key).isSome

end Access

section Reading

variable {D : Type*} (settings : ObsData D)

@[simp] theorem obsDataGetString_set (key value : Chars) :
    obsDataGetString (settings.set key (.string value)) key = value := by
  simp [obsDataGetString]

theorem obsDataGetString_set_of_ne {key other : Chars} (apart : other ≠ key)
    (value : ObsValue D) :
    obsDataGetString (settings.set key value) other = obsDataGetString settings other := by
  simp [obsDataGetString, Layered.get_set_of_ne _ apart]

end Reading

end C64Stream
