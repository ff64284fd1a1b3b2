import C64Stream.Lib.Ini
import C64Stream.Lib.Json
import C64Stream.Script.Value

/-! The check of an error body of the device: a scanner for one member of an object. -/

namespace C64Stream

section Cursors

abbrev Cursor := Option Text

/-- What is read at a place of a string; at its end that is the terminating zero. -/
def readByte (p : Text) : UInt8 :=
  p.headD 0

/-- The pointer one byte further on. -/
def advance (p : Text) : Cursor :=
  match p with
  | [] => none
  | _ :: rest => some rest

/-- Skip white space; a pointer past the terminator is not read. -/
def skipSpaces (cursor : Cursor) : Option Text :=
  cursor.map fun p => p.dropWhile isSpace

end Cursors

section Scanners

/-- How a byte outside of strings changes the depth of an array, nothing at its end. -/
def arrayStep (depth : Int) (byte : UInt8) : Option Int :=
  if byte = 91 then some (depth + 1)
  else if byte = 93 then (if depth - 1 = 0 then none else some (depth - 1))
  else some depth

/-- Where an array ends, behind its bracket. -/
def scanJsonArrayEnd (p : Text) : Option Text :=
  if readByte p ≠ 91 then none
  else
    match scanOutside arrayStep 0 false p with
    | [] => none
    | _ :: rest => some rest

/-- How a byte outside of strings changes the depth of a value, nothing where it ends. -/
def valueStep (depth : Int) (byte : UInt8) : Option Int :=
  if byte = 91 ∨ byte = 123 then some (depth + 1)
  else if byte = 93 ∨ byte = 125 then (if depth = 0 then none else some (depth - 1))
  else if byte = 44 ∧ depth = 0 then none
  else some depth

/-- Skip a value up to the comma or the bracket behind it. -/
def skipValue (p : Text) : Text :=
  scanOutside valueStep 0 false p

/-- Where the name of a member ends: at its quote, or at the end of the string. -/
def keyEnd (escaped : Bool) : Text → Text
  | [] => []
  | byte :: rest =>
    if byte ≠ jsonQuote ∨ escaped then
      let escaped := byte == jsonBackslash && !escaped
      let escaped := if byte ≠ jsonBackslash then false else escaped
      keyEnd escaped rest
    else byte :: rest

/-- How a pass of the loop ends: with the result, or where the next one begins. -/
inductive MemberPass where
  | ended (result : Bool)
  | next (cursor : Cursor)
  deriving DecidableEq

/-- What follows the member that is looked for. -/
def errorsMember (p : Text) : Option MemberPass :=
  match scanJsonArrayEnd p with
  | none => some (.ended false)
  | some close =>
    let close := close.dropWhile isSpace
    if readByte close ≠ 125 then some (.ended false)
    else do
      let close ← skipSpaces (advance close)
      some (.ended (readByte close == 0))

/-- Go on behind the value of another member. -/
def otherMember (p : Text) : Option MemberPass :=
  let p := skipValue p
  if p = [] then some (.ended false)
  else if readByte p = 125 then some (.ended false)
  else some (.next (advance p))

/-- One pass of the loop over the members; nothing if it reads past the terminator. -/
def memberPass (cursor : Cursor) : Option MemberPass := do
  let p ← skipSpaces cursor
  if readByte p = 125 then some (.ended false)
  else if readByte p ≠ jsonQuote then some (.ended false)
  else
    let key ← advance p
    let p := keyEnd false key
    if readByte p ≠ jsonQuote then some (.ended false)
    else
      let keyLen := key.length - p.length
      let isErrors := keyLen == 6 && key.take keyLen == text "errors"
      let p ← skipSpaces (advance p)
      if readByte p ≠ 58 then some (.ended false)
      else
        let p ← skipSpaces (advance p)
        if isErrors then errorsMember p else otherMember p

/-- The loop over the members, with so many passes to go. -/
def memberLoop : Nat → Cursor → Option Bool
  | 0, _ => none
  | passes + 1, cursor => do
    match ← memberPass cursor with
    | .ended result => some result
    | .next cursor => memberLoop passes cursor

/-- Whether a body is an error of the device; nothing if a byte past the terminator is read. -/
def c64DeviceScanIsUltimateError (body : Text) : Option Bool :=
  let p := body.dropWhile isSpace
  if readByte p ≠ 123 then some false else memberLoop (body.length + 1) (advance p)

end Scanners

end C64Stream
