import C64Stream.Automation.Songlengths

/-! The times that a script can wait for: how the text of one is read. -/

namespace C64Stream.Wallclock

section Reading

/-- Why a text is not read: it is refused, or a byte behind its terminator would be read. -/
inductive ReadFailure where
  | refused
  | beyond
  deriving DecidableEq

/-- The byte at a place of a text, whose end is a zero. -/
def byteAt (s : Text) (place : Nat) : Except ReadFailure UInt8 :=
  match s.drop place with
  | byte :: _ => .ok byte
  | [] => if place = s.length then .ok 0 else .error .beyond

/-- Whether the bytes at some places are the given ones; reading ends at the first that is not. -/
def bytesAt (s : Text) : List (Nat × UInt8) → Except ReadFailure Bool
  | [] => .ok true
  | (place, expected) :: others => do
    let byte ← byteAt s place
    if byte = expected then bytesAt s others else .ok false

/-- The number that so many digits write, behind some that are read already. -/
def parseFixedDigits (s : Text) (place : Nat) : Nat → Nat → Except ReadFailure Nat
  | 0, value => .ok value
  | len + 1, value => do
    let byte ← byteAt s place
    if isDigit byte then parseFixedDigits s (place + 1) len (10 * value + (byte.toNat - 48))
    else .error .refused

/-- The place behind the digits from a place on. -/
def skipDigits (s : Text) (place : Nat) : Except ReadFailure Nat :=
  match _ : s.drop place with
  | byte :: _ => if isDigit byte then skipDigits s (place + 1) else .ok place
  | [] => (byteAt s place).map fun _ => place
termination_by s.length - place
decreasing_by
  have := congrArg List.length ‹s.drop place = _ :: _›
  rw [List.length_drop, List.length_cons] at this
  omega

end Reading

section Times

/-- A broken-down time of the C library. -/
structure Tm where
  year : Int
  mon : Int
  mday : Int
  hour : Int
  min : Int
  sec : Int
  isdst : Int
  deriving DecidableEq

/-- The clock, and what the C library makes of broken-down times; -1 is a failure. -/
structure WallclockSystem where
  now : ℚ
  localtime : Int → Tm
  mktime : Tm → Int
  timegm : Tm → Int

/-- A date and a time of day, as they are written. -/
structure DateTime where
  year : Nat
  month : Nat
  day : Nat
  hour : Nat
  minute : Nat
  second : Nat
  deriving DecidableEq

/-- The broken-down time for the library; nothing is said of daylight saving. -/
def DateTime.tm (fields : DateTime) : Tm :=
  ⟨fields.year - 1900, fields.month - 1, fields.day, fields.hour, fields.minute, fields.second, 0⟩

/-- An instant of the library, unless it failed. -/
def orRefuse (instant : Int) : Except ReadFailure Int :=
  if instant = -1 then .error .refused else .ok instant

variable (system : WallclockSystem) (s : Text)

/-- The date at the start of a text. -/
def parseDate : Except ReadFailure (Nat × Nat × Nat) := do
  let year ← parseFixedDigits s 0 4 0
  let month ← parseFixedDigits s 5 2 0
  let day ← parseFixedDigits s 8 2 0
  .ok (year, month, day)

/-- The time of day behind a date. -/
def parseClock : Except ReadFailure (Nat × Nat × Nat) := do
  let hour ← parseFixedDigits s 11 2 0
  let minute ← parseFixedDigits s 14 2 0
  let second ← parseFixedDigits s 17 2 0
  .ok (hour, minute, second)

/-- The next instant of a time of day. -/
def timeOfDayTarget (hour minute second : Nat) : Except ReadFailure Int := do
  if 23 < hour ∨ 59 < minute ∨ 59 < second then .error .refused
  else
    let today := system.localtime ⌊system.now⌋
    let target ← orRefuse
      (system.mktime { today with hour := hour, min := minute, sec := second })
    .ok (if (target : ℚ) ≤ system.now then target + 24 * 60 * 60 else target)

/-- Read a time of day. -/
def parseTimeOfDay : Except ReadFailure Int := do
  let hour ← parseFixedDigits s 0 2 0
  if ← bytesAt s [(2, 58)] then
    let minute ← parseFixedDigits s 3 2 0
    if s.length = 8 then
      if ← bytesAt s [(5, 58)] then
        let second ← parseFixedDigits s 6 2 0
        timeOfDayTarget system hour minute second
      else .error .refused
    else timeOfDayTarget system hour minute 0
  else .error .refused

/-- Read a local date and time. -/
def parseLocal : Except ReadFailure Int := do
  let (year, month, day) ← parseDate s
  let (hour, minute, second) ← parseClock s
  orRefuse (system.mktime (DateTime.tm ⟨year, month, day, hour, minute, second⟩))

/-- The place behind the digits of a fraction, if there is one. -/
def skipFraction (place : Nat) : Except ReadFailure Nat := do
  let byte ← byteAt s place
  if byte = 46 then skipDigits s (place + 1) else .ok place

/-- A time zone behind which the text ends. -/
def zoneAtEnd (zone : Option Int) (place : Nat) : Except ReadFailure (Option Int) := do
  let byte ← byteAt s place
  if byte ≠ 0 then .error .refused else .ok zone

/-- The offset of a time zone in seconds, if there is one; the text ends behind it. -/
def parseZone (place : Nat) : Except ReadFailure (Option Int) := do
  let byte ← byteAt s place
  if byte = 90 then zoneAtEnd s (some 0) (place + 1)
  else if byte = 43 ∨ byte = 45 then
    let hour ← parseFixedDigits s (place + 1) 2 0
    if ← bytesAt s [(place + 3, 58)] then
      let minute ← parseFixedDigits s (place + 4) 2 0
      let sign : Int := if byte = 45 then -1 else 1
      zoneAtEnd s (some (sign * ((hour * 60 + minute) * 60))) (place + 6)
    else .error .refused
  else zoneAtEnd s none place

/-- The instant of a date and a time in a time zone, or in local time. -/
def isoTarget (fields : DateTime) (zone : Option Int) : Except ReadFailure Int :=
  match zone with
  | some offset => (orRefuse (system.timegm fields.tm)).map (· - offset)
  | none => orRefuse (system.mktime fields.tm)

/-- Read a date and a time with a fraction and a time zone. -/
def parseIso : Except ReadFailure Int := do
  if s.findIdx? (· = 84) ≠ some 10 then .error .refused
  else if ← bytesAt s [(4, 45), (7, 45)] then
    let (year, month, day) ← parseDate s
    if s.length - 11 < 8 then .error .refused
    else if ← bytesAt s [(13, 58), (16, 58)] then
      let (hour, minute, second) ← parseClock s
      let place ← skipFraction s 19
      let zone ← parseZone s place
      isoTarget system ⟨year, month, day, hour, minute, second⟩ zone
    else .error .refused
  else .error .refused

/-- The instant that a text stands for, in seconds. -/
def parseWallclockTarget : Except ReadFailure Int := do
  if s.length = 5 ∨ s.length = 8 then parseTimeOfDay system s
  else if s.length = 19 then
    if ← bytesAt s [(4, 45), (7, 45), (10, 32), (13, 58), (16, 58)] then parseLocal system s
    else parseIso system s
  else parseIso system s

end Times

end C64Stream.Wallclock
