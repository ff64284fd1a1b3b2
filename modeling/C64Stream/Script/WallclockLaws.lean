import C64Stream.Script.Wallclock

/-! Which texts stand for times, which instants they mean, and when they are read so. -/

namespace C64Stream.Wallclock

section Calendar

/-- Whether a year has a day more. -/
def isLeapYear (year : Nat) : Bool :=
  year % 4 = 0 && (year % 100 ≠ 0 || year % 400 = 0)

/-- The days of a month. -/
def daysInMonth (year month : Nat) : Nat :=
  if month = 2 then (if isLeapYear year then 29 else 28)
  else if month = 4 ∨ month = 6 ∨ month = 9 ∨ month = 11 then 30 else 31

/-- A date of the calendar and a time of a day. -/
structure DateTime.Valid (fields : DateTime) : Prop where
  year : fields.year ≤ 9999
  month : 1 ≤ fields.month ∧ fields.month ≤ 12
  day : 1 ≤ fields.day ∧ fields.day ≤ daysInMonth fields.year fields.month
  hour : fields.hour < 24
  minute : fields.minute < 60
  second : fields.second < 60

/-- The same time on the next day. -/
def DateTime.nextDay (fields : DateTime) : DateTime :=
  if fields.day < daysInMonth fields.year fields.month then { fields with day := fields.day + 1 }
  else if fields.month < 12 then { fields with month := fields.month + 1, day := 1 }
  else { fields with year := fields.year + 1, month := 1, day := 1 }

/-- The days before a year, from the year zero on. -/
def daysBeforeYear (year : Nat) : Nat :=
  ((List.range year).map fun earlier => if isLeapYear earlier then 366 else 365).sum

/-- The days before a month, from the start of its year on. -/
def daysBeforeMonth (year month : Nat) : Nat :=
  ((List.range (month - 1)).map fun earlier => daysInMonth year (earlier + 1)).sum

/-- The seconds from the start of 1970 to a date and time in universal time. -/
def utcInstant (fields : DateTime) : Int :=
  let days : Int := daysBeforeYear fields.year + daysBeforeMonth fields.year fields.month +
    (fields.day - 1) - 719528
  days * 86400 + fields.hour * 3600 + fields.minute * 60 + fields.second

/-- The library is right about the dates of the calendar, with the flags for daylight saving that
    it is given, and about the date of today. -/
structure LibraryCorrect (system : WallclockSystem) (localInstant : DateTime → Int)
    (today : DateTime) : Prop where
  mktime : ∀ fields, DateTime.Valid fields →
    ∀ isdst, isdst = 0 ∨ isdst = (system.localtime ⌊system.now⌋).isdst →
      system.mktime { fields.tm with isdst := isdst } = localInstant fields
  timegm : ∀ fields, DateTime.Valid fields → system.timegm fields.tm = utcInstant fields
  validToday : today.Valid
  localtime : ∃ isdst, system.localtime ⌊system.now⌋ = { today.tm with isdst := isdst }

end Calendar

section Forms

/-- A time zone as it is written. -/
inductive Zone where
  | unstated
  | utc
  | offset (west : Bool) (hour minute : Nat)
  deriving DecidableEq

/-- The last digit of a number. -/
def digitOf (n : Nat) : UInt8 :=
  UInt8.ofNat (48 + n % 10)

/-- A number of two digits. -/
def twoDigits (n : Nat) : Text :=
  [digitOf (n / 10), digitOf n]

/-- A number of four digits. -/
def fourDigits (n : Nat) : Text :=
  [digitOf (n / 1000), digitOf (n / 100), digitOf (n / 10), digitOf n]

/-- How a time zone is written. -/
def Zone.text (zone : Zone) : Text :=
  match zone with
  | .unstated => []
  | .utc => [90]
  | .offset west hour minute =>
    (if west then 45 else 43) :: (twoDigits hour ++ 58 :: twoDigits minute)

/-- The seconds of a time zone before universal time, unless it is local time. -/
def Zone.seconds (zone : Zone) : Option Int :=
  match zone with
  | .unstated => none
  | .utc => some 0
  | .offset west hour minute => some ((if west then -1 else 1) * ((hour * 60 + minute) * 60))

/-- A text in one of the forms, whatever its digits are. -/
inductive Form where
  | timeOfDay (hour minute : Nat) (second : Option Nat)
  | localTime (fields : DateTime)
  | iso (fields : DateTime) (fraction : Option Text) (zone : Zone)
  deriving DecidableEq

/-- How a date and a time are written. -/
def DateTime.text (fields : DateTime) (separator : UInt8) : Text :=
  fourDigits fields.year ++ 45 :: (twoDigits fields.month ++ 45 :: (twoDigits fields.day ++
    separator :: (twoDigits fields.hour ++ 58 :: (twoDigits fields.minute ++
      58 :: twoDigits fields.second))))

/-- How a fraction is written. -/
def fractionText (fraction : Option Text) : Text :=
  match fraction with
  | none => []
  | some digits => 46 :: digits

/-- How a form is written. -/
def Form.text (form : Form) : Text :=
  match form with
  | .timeOfDay hour minute none => twoDigits hour ++ 58 :: twoDigits minute
  | .timeOfDay hour minute (some second) =>
    twoDigits hour ++ 58 :: (twoDigits minute ++ 58 :: twoDigits second)
  | .localTime fields => fields.text 32
  | .iso fields fraction zone => fields.text 84 ++ (fractionText fraction ++ zone.text)

/-- The numbers of a date and a time have as many digits as there is room for. -/
structure DateTime.Written (fields : DateTime) : Prop where
  year : fields.year < 10000
  month : fields.month < 100
  day : fields.day < 100
  hour : fields.hour < 100
  minute : fields.minute < 100
  second : fields.second < 100

/-- The numbers of a time zone have two digits. -/
def Zone.Written (zone : Zone) : Prop :=
  match zone with
  | .offset _ hour minute => hour < 100 ∧ minute < 100
  | _ => True

/-- The numbers of a form have as many digits as there is room for. -/
def Form.Written (form : Form) : Prop :=
  match form with
  | .timeOfDay hour minute second =>
    hour < 100 ∧ minute < 100 ∧ ∀ value ∈ second, value < 100
  | .localTime fields => fields.Written
  | .iso fields fraction zone =>
    fields.Written ∧ (∀ digits ∈ fraction, ∀ byte ∈ digits, isDigit byte = true) ∧ zone.Written

/-- The parts of a form are in their ranges, and a fraction has a digit. -/
def Form.Valid (form : Form) : Prop :=
  match form with
  | .timeOfDay hour minute second => hour < 24 ∧ minute < 60 ∧ ∀ value ∈ second, value < 60
  | .localTime fields => fields.Valid
  | .iso fields fraction zone =>
    fields.Valid ∧
      (∀ digits ∈ fraction, digits ≠ [] ∧ ∀ byte ∈ digits, isDigit byte = true) ∧
      ∀ west hour minute, zone = .offset west hour minute → hour < 24 ∧ minute < 60

/-- The part of a second that digits behind the point stand for. -/
def fractionValue (fraction : Option Text) : ℚ :=
  match fraction with
  | none => 0
  | some digits => decimalNumber digits / 10 ^ digits.length

variable (system : WallclockSystem) (localInstant : DateTime → Int) (today : DateTime)

/-- The instant that a form means. -/
def Form.instant (form : Form) : ℚ :=
  match form with
  | .timeOfDay hour minute second =>
    let fields := { today with hour := hour, minute := minute, second := second.getD 0 }
    -- A time of day that has passed means the one of tomorrow.
    if (localInstant fields : ℚ) ≤ system.now then localInstant fields.nextDay
    else localInstant fields
  | .localTime fields => localInstant fields
  | .iso fields fraction zone =>
    (match zone.seconds with
      | some offset => utcInstant fields - offset
      | none => localInstant fields) + fractionValue fraction

/-- A text is a valid time, and stands for an instant. -/
def Denotes (s : Text) (instant : ℚ) : Prop :=
  ∃ form : Form, form.Valid ∧ s = form.text ∧ instant = form.instant system localInstant today

/-- A text is read as what it stands for, and refused if it stands for nothing. -/
def ReadsExactly (s : Text) : Prop :=
  parseWallclockTarget system s ≠ .error .beyond ∧
    ∀ instant : ℚ, (∃ target : Int, parseWallclockTarget system s = .ok target ∧
      (target : ℚ) = instant) ↔ Denotes system localInstant today s instant

/-- What the reading of a form relies on. -/
def Form.Exact (form : Form) : Prop :=
  match form with
  | .timeOfDay hour minute second =>
    let fields := { today with hour := hour, minute := minute, second := second.getD 0 }
    form.Valid → localInstant fields ≠ -1 ∧ ((localInstant fields : ℚ) ≤ system.now →
      localInstant fields.nextDay = localInstant fields + 86400)
  | .localTime fields =>
    (form.Valid → localInstant fields ≠ -1) ∧ (¬form.Valid → system.mktime fields.tm = -1)
  | .iso fields fraction zone =>
    let made := if zone = .unstated then system.mktime fields.tm else system.timegm fields.tm
    (form.Valid → made ≠ -1 ∧ ∀ digits ∈ fraction, ∀ byte ∈ digits, byte = 48) ∧
      (¬form.Valid → made = -1)

end Forms

section Digits

variable {s : Text} {place : Nat} {n : Nat}

theorem isDigit_iff (byte : UInt8) :
    isDigit byte = true ↔ byte = digitOf (byte.toNat - 48) ∧ byte.toNat - 48 < 10 := by
  revert byte
  exact forall_byte (by decide +kernel)

theorem digitOf_digit (n : Nat) :
    isDigit (digitOf n) = true ∧ (digitOf n).toNat - 48 = n % 10 := by
  have all : ∀ k < 10, isDigit (UInt8.ofNat (48 + k)) = true ∧
      (UInt8.ofNat (48 + k)).toNat - 48 = k := by decide
  exact all (n % 10) (Nat.mod_lt n (by decide))

theorem digitOf_inj {m : Nat} (same : digitOf n = digitOf m) : n % 10 = m % 10 := by
  rw [← (digitOf_digit n).2, same, (digitOf_digit m).2]

theorem parseFixedDigits_two (small : n < 100) (one : byteAt s place = .ok (digitOf (n / 10)))
    (two : byteAt s (place + 1) = .ok (digitOf n)) :
    parseFixedDigits s place 2 0 = .ok n := by
  obtain ⟨digit, value⟩ := digitOf_digit (n / 10)
  obtain ⟨digit', value'⟩ := digitOf_digit n
  have whole : 10 * (n / 10 % 10) + n % 10 = n := by omega
  simp [parseFixedDigits, one, two, digit, digit', value, value', whole, bind, Except.bind]

theorem twoDigits_cases {first second : UInt8} (one : byteAt s place = .ok first)
    (two : byteAt s (place + 1) = .ok second) :
    parseFixedDigits s place 2 0 = .error .refused ∨
      ∃ n < 100, [first, second] = twoDigits n := by
  by_cases digit : isDigit first = true
  · by_cases digit' : isDigit second = true
    · obtain ⟨written, small⟩ := (isDigit_iff first).mp digit
      obtain ⟨written', small'⟩ := (isDigit_iff second).mp digit'
      refine .inr ⟨10 * (first.toNat - 48) + (second.toNat - 48), by omega, ?_⟩
      have tens : (10 * (first.toNat - 48) + (second.toNat - 48)) / 10 = first.toNat - 48 := by
        omega
      have units : digitOf (10 * (first.toNat - 48) + (second.toNat - 48)) =
          digitOf (second.toNat - 48) := by
        rw [digitOf, digitOf, Nat.mul_add_mod]
      rw [twoDigits, tens, units, ← written, ← written']
    · exact .inl (by simp [parseFixedDigits, one, two, digit, digit', bind, Except.bind])
  · exact .inl (by simp [parseFixedDigits, one, digit, bind, Except.bind])

theorem parseFixedDigits_four (small : n < 10000) (one : byteAt s place = .ok (digitOf (n / 1000)))
    (two : byteAt s (place + 1) = .ok (digitOf (n / 100)))
    (three : byteAt s (place + 2) = .ok (digitOf (n / 10)))
    (four : byteAt s (place + 3) = .ok (digitOf n)) :
    parseFixedDigits s place 4 0 = .ok n := by
  obtain ⟨digit₁, value₁⟩ := digitOf_digit (n / 1000)
  obtain ⟨digit₂, value₂⟩ := digitOf_digit (n / 100)
  obtain ⟨digit₃, value₃⟩ := digitOf_digit (n / 10)
  obtain ⟨digit₄, value₄⟩ := digitOf_digit n
  have whole : 10 * (10 * (10 * (n / 1000 % 10) + n / 100 % 10) + n / 10 % 10) + n % 10 = n := by
    omega
  simp [parseFixedDigits, one, two, three, four, digit₁, digit₂, digit₃, digit₄, value₁, value₂,
    value₃, value₄, whole, bind, Except.bind]

theorem fourDigits_cases {first second third fourth : UInt8} (one : byteAt s place = .ok first)
    (two : byteAt s (place + 1) = .ok second) (three : byteAt s (place + 2) = .ok third)
    (four : byteAt s (place + 3) = .ok fourth) :
    parseFixedDigits s place 4 0 = .error .refused ∨
      ∃ n < 10000, [first, second, third, fourth] = fourDigits n := by
  by_cases digits : isDigit first = true ∧ isDigit second = true ∧ isDigit third = true ∧
      isDigit fourth = true
  · obtain ⟨digit₁, digit₂, digit₃, digit₄⟩ := digits
    obtain ⟨written₁, small₁⟩ := (isDigit_iff first).mp digit₁
    obtain ⟨written₂, small₂⟩ := (isDigit_iff second).mp digit₂
    obtain ⟨written₃, small₃⟩ := (isDigit_iff third).mp digit₃
    obtain ⟨written₄, small₄⟩ := (isDigit_iff fourth).mp digit₄
    generalize first.toNat - 48 = a at written₁ small₁
    generalize second.toNat - 48 = b at written₂ small₂
    generalize third.toNat - 48 = c at written₃ small₃
    generalize fourth.toNat - 48 = d at written₄ small₄
    have lower : ∀ {n k : Nat}, n % 10 = k % 10 → digitOf n = digitOf k := by
      intro n k same
      rw [digitOf, digitOf, same]
    refine .inr ⟨1000 * a + 100 * b + 10 * c + d, by omega, ?_⟩
    rw [written₁, written₂, written₃, written₄, fourDigits,
      lower (show (1000 * a + 100 * b + 10 * c + d) / 1000 % 10 = a % 10 by omega),
      lower (show (1000 * a + 100 * b + 10 * c + d) / 100 % 10 = b % 10 by omega),
      lower (show (1000 * a + 100 * b + 10 * c + d) / 10 % 10 = c % 10 by omega),
      lower (show (1000 * a + 100 * b + 10 * c + d) % 10 = d % 10 by omega)]
  · left
    by_cases digit₁ : isDigit first = true
    · by_cases digit₂ : isDigit second = true
      · by_cases digit₃ : isDigit third = true
        · have digit₄ : ¬isDigit fourth = true :=
            fun last => digits ⟨digit₁, digit₂, digit₃, last⟩
          simp [parseFixedDigits, one, two, three, four, digit₁, digit₂, digit₃, digit₄, bind,
            Except.bind]
        · simp [parseFixedDigits, one, two, three, digit₁, digit₂, digit₃, bind, Except.bind]
      · simp [parseFixedDigits, one, two, digit₁, digit₂, bind, Except.bind]
    · simp [parseFixedDigits, one, digit₁, bind, Except.bind]

end Digits

section Zones

theorem byteAt_append (front rest : Text) (place : Nat) :
    byteAt (front ++ rest) (front.length + place) = byteAt rest place := by
  have same : (front ++ rest).drop (front.length + place) = rest.drop place := by
    rw [List.drop_append, List.drop_of_length_le (by omega), Nat.add_sub_cancel_left,
      List.nil_append]
  have ends : front.length + place = (front ++ rest).length ↔ place = rest.length := by
    rw [List.length_append]
    omega
  rw [byteAt, byteAt, same]
  simp only [ends]

theorem parseFixedDigits_append (front rest : Text) (len : Nat) : ∀ place value : Nat,
    parseFixedDigits (front ++ rest) (front.length + place) len value =
      parseFixedDigits rest place len value := by
  induction len with
  | zero => exact fun place value => rfl
  | succ len ih =>
    intro place value
    rw [parseFixedDigits, parseFixedDigits, byteAt_append, Nat.add_assoc]
    simp only [ih]

theorem parseZone_append (front rest : Text) :
    parseZone (front ++ rest) front.length = parseZone rest 0 := by
  have byte := byteAt_append front rest 0
  rw [Nat.add_zero] at byte
  have ends : ∀ zone place, zoneAtEnd (front ++ rest) zone (front.length + place) =
      zoneAtEnd rest zone place := by
    intro zone place
    rw [zoneAtEnd, zoneAtEnd, byteAt_append]
  have start : ∀ zone, zoneAtEnd (front ++ rest) zone front.length = zoneAtEnd rest zone 0 :=
    fun zone => ends zone 0
  simp only [parseZone, byte, parseFixedDigits_append, bytesAt, byteAt_append, ends, start,
    Nat.zero_add]

theorem parseFixedDigits_end {s : Text} {place : Nat} (ends : byteAt s place = .ok 0)
    (len value : Nat) : parseFixedDigits s place (len + 1) value = .error .refused := by
  rw [parseFixedDigits, ends]
  rfl

theorem digitOf_ne_zero (n : Nat) : digitOf n ≠ 0 := by
  intro zero
  have digit := (digitOf_digit n).1
  rw [zero] at digit
  cases digit

theorem twoDigits_end {s : Text} {place : Nat} {first : UInt8} (one : byteAt s place = .ok first)
    (two : byteAt s (place + 1) = .ok 0) : parseFixedDigits s place 2 0 = .error .refused := by
  rcases twoDigits_cases one two with refused | ⟨n, -, digits⟩
  · exact refused
  · exact absurd (List.cons.inj (List.cons.inj digits).2).1.symm (digitOf_ne_zero n)

theorem parseZone_text {zone : Zone} (written : zone.Written) :
    parseZone zone.text 0 = .ok zone.seconds := by
  cases zone with
  | unstated => rfl
  | utc => rfl
  | offset west hour minute =>
    have hours : parseFixedDigits (Zone.text (.offset west hour minute)) 1 2 0 = .ok hour :=
      parseFixedDigits_two written.1 rfl rfl
    have minutes : parseFixedDigits (Zone.text (.offset west hour minute)) 4 2 0 = .ok minute :=
      parseFixedDigits_two written.2 rfl rfl
    have colon : bytesAt (Zone.text (.offset west hour minute)) [(3, 58)] = .ok true := rfl
    have ends : byteAt (Zone.text (.offset west hour minute)) 6 = .ok 0 := rfl
    cases west with
    | true =>
      have sign : byteAt (Zone.text (.offset true hour minute)) 0 = .ok 45 := rfl
      simp [parseZone, sign, hours, minutes, colon, zoneAtEnd, ends, Zone.seconds, bind,
        Except.bind]
    | false =>
      have sign : byteAt (Zone.text (.offset false hour minute)) 0 = .ok 43 := rfl
      simp [parseZone, sign, hours, minutes, colon, zoneAtEnd, ends, Zone.seconds, bind,
        Except.bind]

/-- What is read as a time zone is written as one. -/
theorem parseZone_cases {rest : Text} (noZero : 0 ∉ rest) :
    parseZone rest 0 = .error .refused ∨ ∃ zone : Zone, zone.Written ∧ rest = zone.text := by
  match rest with
  | [] => exact .inr ⟨.unstated, trivial, rfl⟩
  | mark :: tail =>
    have first : byteAt (mark :: tail) 0 = .ok mark := rfl
    have nonzero : mark ≠ 0 := fun zero => noZero (zero ▸ List.mem_cons_self)
    by_cases utc : mark = 90
    · subst utc
      match tail with
      | [] => exact .inr ⟨.utc, trivial, rfl⟩
      | next :: more =>
        have second : byteAt (90 :: next :: more) 1 = .ok next := rfl
        have nonzero' : next ≠ 0 :=
          fun zero => noZero (zero ▸ List.mem_cons_of_mem _ List.mem_cons_self)
        left
        simp [parseZone, first, zoneAtEnd, second, nonzero', bind, Except.bind]
    · by_cases sign : mark = 43 ∨ mark = 45
      · -- The digits of the offset are read one by one, up to the terminator.
        match tail with
        | [] =>
          left
          simp [parseZone, first, utc, sign, parseFixedDigits_end
            (show byteAt [mark] 1 = .ok 0 from rfl), bind, Except.bind]
        | [h₁] =>
          left
          have ends : parseFixedDigits [mark, h₁] 1 2 0 = .error .refused :=
            twoDigits_end (show byteAt [mark, h₁] 1 = .ok h₁ from rfl) rfl
          simp [parseZone, first, utc, sign, ends, bind, Except.bind]
        | [h₁, h₂] =>
          left
          rcases twoDigits_cases (show byteAt [mark, h₁, h₂] 1 = .ok h₁ from rfl) rfl with
            refused | ⟨hour, small, digits⟩
          · simp [parseZone, first, utc, sign, refused, bind, Except.bind]
          · cases digits
            have read : parseFixedDigits [mark, digitOf (hour / 10), digitOf hour] 1 2 0 =
                .ok hour := parseFixedDigits_two small rfl rfl
            have colon : bytesAt [mark, digitOf (hour / 10), digitOf hour] [(3, 58)] =
              .ok false := rfl
            simp [parseZone, first, utc, sign, read, colon, bind, Except.bind]
        | h₁ :: h₂ :: c :: minutes =>
          rcases twoDigits_cases
            (show byteAt (mark :: h₁ :: h₂ :: c :: minutes) 1 = .ok h₁ from rfl) rfl with
            refused | ⟨hour, small, digits⟩
          · left
            simp [parseZone, first, utc, sign, refused, bind, Except.bind]
          · cases digits
            have read : parseFixedDigits
                (mark :: digitOf (hour / 10) :: digitOf hour :: c :: minutes) 1 2 0 = .ok hour :=
              parseFixedDigits_two small rfl rfl
            have colon : bytesAt (mark :: digitOf (hour / 10) :: digitOf hour :: c :: minutes)
                [(3, 58)] = if c = 58 then .ok true else .ok false := rfl
            by_cases separated : c = 58
            · rw [if_pos separated] at colon
              match minutes with
              | [] =>
                left
                simp [parseZone, first, utc, sign, read, colon, parseFixedDigits_end
                  (show byteAt [mark, digitOf (hour / 10), digitOf hour, c] 4 = .ok 0 from rfl),
                  bind, Except.bind]
              | [m₁] =>
                left
                simp [parseZone, first, utc, sign, read, colon, twoDigits_end
                  (show byteAt [mark, digitOf (hour / 10), digitOf hour, c, m₁] 4 = .ok m₁ from rfl)
                  rfl, bind, Except.bind]
              | m₁ :: m₂ :: more =>
                rcases twoDigits_cases (show byteAt (mark :: digitOf (hour / 10) :: digitOf hour ::
                  c :: m₁ :: m₂ :: more) 4 = .ok m₁ from rfl) rfl with
                  refused | ⟨minute, small', digits⟩
                · left
                  simp [parseZone, first, utc, sign, read, colon, refused, bind, Except.bind]
                · cases digits
                  match more with
                  | [] =>
                    right
                    rcases sign with east | west
                    · exact ⟨.offset false hour minute, ⟨small, small'⟩, by
                        rw [east, separated]
                        rfl⟩
                    · exact ⟨.offset true hour minute, ⟨small, small'⟩, by
                        rw [west, separated]
                        rfl⟩
                  | next :: more =>
                    left
                    have nonzero' : next ≠ 0 := by
                      rintro rfl
                      exact noZero (by simp)
                    have read' : parseFixedDigits (mark :: digitOf (hour / 10) :: digitOf hour ::
                        c :: digitOf (minute / 10) :: digitOf minute :: next :: more) 4 2 0 =
                          .ok minute := parseFixedDigits_two small' rfl rfl
                    have ends : byteAt (mark :: digitOf (hour / 10) :: digitOf hour ::
                        c :: digitOf (minute / 10) :: digitOf minute :: next :: more) 6 =
                          .ok next := rfl
                    simp [parseZone, first, utc, sign, read, colon, read', zoneAtEnd, ends,
                      nonzero', bind, Except.bind]
            · left
              rw [if_neg separated] at colon
              simp [parseZone, first, utc, sign, read, colon, bind, Except.bind]
      · left
        simp [parseZone, first, utc, sign, zoneAtEnd, nonzero, bind, Except.bind]

end Zones

section Fractions

theorem skipDigits_eq (s : Text) : ∀ place ≤ s.length,
    skipDigits s place = .ok (place + ((s.drop place).takeWhile isDigit).length) := by
  intro place inside
  -- The induction is on the bytes that are left.
  induction left : s.length - place generalizing place with
  | zero =>
    have ends : s.drop place = [] := List.drop_of_length_le (by omega)
    have same : place = s.length := by omega
    rw [skipDigits]
    split
    · rename_i more
      rw [ends] at more
      cases more
    · rw [ends, byteAt, ends]
      simp [same, Except.map]
  | succ left ih =>
    rw [skipDigits]
    split
    · rename_i byte rest more
      rw [more, List.takeWhile_cons]
      split_ifs with digit
      · have tail : s.drop (place + 1) = rest := by
          rw [← List.drop_drop, more]
          rfl
        rw [ih (place + 1) (by omega) (by omega), tail, List.length_cons, Nat.add_assoc,
          Nat.add_comm 1]
      · rfl
    · rename_i more
      have := congrArg List.length more
      rw [List.length_drop, List.length_nil] at this
      omega

theorem skipFraction_eq (front rest : Text) :
    skipFraction (front ++ rest) front.length =
      .ok (match rest with
        | 46 :: digits => front.length + 1 + (digits.takeWhile isDigit).length
        | _ => front.length) := by
  have byte := byteAt_append front rest 0
  rw [Nat.add_zero] at byte
  cases rest with
  | nil =>
    rw [skipFraction, byte]
    rfl
  | cons mark digits =>
    have first : byteAt (mark :: digits) 0 = .ok mark := rfl
    rw [first] at byte
    by_cases point : mark = 46
    · subst point
      have tail : (front ++ 46 :: digits).drop (front.length + 1) = digits := by
        rw [List.drop_append, List.drop_of_length_le (by omega), Nat.add_sub_cancel_left]
        rfl
      have skipped := skipDigits_eq (front ++ 46 :: digits) (front.length + 1)
        (by rw [List.length_append, List.length_cons]; omega)
      rw [tail] at skipped
      simp [skipFraction, byte, skipped, bind, Except.bind]
    · simp only [skipFraction, byte, bind, Except.bind, if_neg point]
      split
      · rename_i same
        exact absurd (List.cons.inj same).1 point
      · rfl

theorem fraction_cases (rest : Text) :
    ∃ fraction : Option Text, ∃ tail : Text, rest = fractionText fraction ++ tail ∧
      (∀ digits ∈ fraction, ∀ byte ∈ digits, isDigit byte = true) ∧
      ∀ front : Text, skipFraction (front ++ rest) front.length =
        .ok (front ++ fractionText fraction).length := by
  by_cases point : ∃ digits, rest = 46 :: digits
  · obtain ⟨digits, rfl⟩ := point
    refine ⟨some (digits.takeWhile isDigit), digits.dropWhile isDigit, ?_, ?_, fun front => ?_⟩
    · rw [fractionText, List.cons_append, List.takeWhile_append_dropWhile]
    · rintro _ ⟨⟩ byte among
      exact List.mem_takeWhile_imp among
    · rw [skipFraction_eq, fractionText, List.length_append, List.length_cons]
      simp only [Except.ok.injEq]
      omega
  · refine ⟨none, rest, rfl, by simp, fun front => ?_⟩
    rw [skipFraction_eq]
    split
    · rename_i digits
      exact absurd ⟨digits, rfl⟩ point
    · rw [fractionText, List.append_nil]

theorem skipFraction_text {fraction : Option Text}
    (digits : ∀ digits ∈ fraction, ∀ byte ∈ digits, isDigit byte = true) {tail : Text}
    (ends : ∀ byte ∈ tail.head?, isDigit byte = false ∧ byte ≠ 46) (front : Text) :
    skipFraction (front ++ (fractionText fraction ++ tail)) front.length =
      .ok (front ++ fractionText fraction).length := by
  rw [skipFraction_eq]
  cases fraction with
  | none =>
    rw [fractionText, List.nil_append]
    split
    · exact absurd rfl (ends 46 rfl).2
    · rw [List.append_nil]
  | some written =>
    have stops : tail.takeWhile isDigit = [] := by
      cases tail with
      | nil => rfl
      | cons byte tail => rw [List.takeWhile_cons_of_neg (by simp [(ends byte rfl).1])]
    have whole : (written ++ tail).takeWhile isDigit = written := by
      rw [List.takeWhile_append_of_pos (digits written rfl), stops, List.append_nil]
    simp only [fractionText, List.cons_append, whole, List.length_append, List.length_cons,
      Except.ok.injEq]
    omega

end Fractions

section Dates

variable {system : WallclockSystem} {fields : DateTime}

theorem parseDate_text (written : fields.Written) (separator : UInt8) (rest : Text) :
    parseDate (fields.text separator ++ rest) =
      .ok (fields.year, fields.month, fields.day) := by
  have year : parseFixedDigits (fields.text separator ++ rest) 0 4 0 = .ok fields.year :=
    parseFixedDigits_four written.year rfl rfl rfl rfl
  have month : parseFixedDigits (fields.text separator ++ rest) 5 2 0 = .ok fields.month :=
    parseFixedDigits_two written.month rfl rfl
  have day : parseFixedDigits (fields.text separator ++ rest) 8 2 0 = .ok fields.day :=
    parseFixedDigits_two written.day rfl rfl
  simp [parseDate, year, month, day, bind, Except.bind]

theorem parseClock_text (written : fields.Written) (separator : UInt8) (rest : Text) :
    parseClock (fields.text separator ++ rest) =
      .ok (fields.hour, fields.minute, fields.second) := by
  have hour : parseFixedDigits (fields.text separator ++ rest) 11 2 0 = .ok fields.hour :=
    parseFixedDigits_two written.hour rfl rfl
  have minute : parseFixedDigits (fields.text separator ++ rest) 14 2 0 = .ok fields.minute :=
    parseFixedDigits_two written.minute rfl rfl
  have second : parseFixedDigits (fields.text separator ++ rest) 17 2 0 = .ok fields.second :=
    parseFixedDigits_two written.second rfl rfl
  simp [parseClock, hour, minute, second, bind, Except.bind]

theorem parseDate_cases (y₁ y₂ y₃ y₄ m₁ m₂ d₁ d₂ : UInt8) (rest : Text) :
    parseDate (y₁ :: y₂ :: y₃ :: y₄ :: 45 :: m₁ :: m₂ :: 45 :: d₁ :: d₂ :: rest) =
        .error .refused ∨
      ∃ year month day, year < 10000 ∧ month < 100 ∧ day < 100 ∧
        [y₁, y₂, y₃, y₄] = fourDigits year ∧ [m₁, m₂] = twoDigits month ∧
        [d₁, d₂] = twoDigits day ∧
        parseDate (y₁ :: y₂ :: y₃ :: y₄ :: 45 :: m₁ :: m₂ :: 45 :: d₁ :: d₂ :: rest) =
          .ok (year, month, day) := by
  let s := y₁ :: y₂ :: y₃ :: y₄ :: 45 :: m₁ :: m₂ :: 45 :: d₁ :: d₂ :: rest
  rcases fourDigits_cases (show byteAt s 0 = .ok y₁ from rfl) rfl rfl rfl with
    refused | ⟨year, smallYear, digits⟩
  · exact .inl (by simp [s, parseDate, refused, bind, Except.bind])
  · cases digits
    have readYear : parseFixedDigits s 0 4 0 = .ok year :=
      parseFixedDigits_four smallYear rfl rfl rfl rfl
    rcases twoDigits_cases (show byteAt s 5 = .ok m₁ from rfl) rfl with
      refused | ⟨month, smallMonth, digits⟩
    · exact .inl (by simp [s, parseDate, readYear, refused, bind, Except.bind])
    · cases digits
      have readMonth : parseFixedDigits s 5 2 0 = .ok month :=
        parseFixedDigits_two smallMonth rfl rfl
      rcases twoDigits_cases (show byteAt s 8 = .ok d₁ from rfl) rfl with
        refused | ⟨day, smallDay, digits⟩
      · exact .inl (by simp [s, parseDate, readYear, readMonth, refused, bind, Except.bind])
      · cases digits
        have readDay : parseFixedDigits s 8 2 0 = .ok day := parseFixedDigits_two smallDay rfl rfl
        exact .inr ⟨year, month, day, smallYear, smallMonth, smallDay, rfl, rfl, rfl,
          by simp [s, parseDate, readYear, readMonth, readDay, bind, Except.bind]⟩

theorem parseClock_cases (date : Text) (ten : date.length = 10)
    (separator h₁ h₂ m₁ m₂ s₁ s₂ : UInt8) (rest : Text) :
    parseClock (date ++ separator :: h₁ :: h₂ :: 58 :: m₁ :: m₂ :: 58 :: s₁ :: s₂ :: rest) =
        .error .refused ∨
      ∃ hour minute second, hour < 100 ∧ minute < 100 ∧ second < 100 ∧
        [h₁, h₂] = twoDigits hour ∧ [m₁, m₂] = twoDigits minute ∧ [s₁, s₂] = twoDigits second := by
  let s := date ++ separator :: h₁ :: h₂ :: 58 :: m₁ :: m₂ :: 58 :: s₁ :: s₂ :: rest
  have behind : ∀ k, byteAt s (10 + k) =
      byteAt (separator :: h₁ :: h₂ :: 58 :: m₁ :: m₂ :: 58 :: s₁ :: s₂ :: rest) k := by
    intro k
    rw [← ten]
    exact byteAt_append date _ k
  rcases twoDigits_cases (behind 1) (behind 2) with refused | ⟨hour, smallHour, digits⟩
  · exact .inl (by simp [s, parseClock, refused, bind, Except.bind])
  · rcases twoDigits_cases (behind 4) (behind 5) with refused | ⟨minute, smallMinute, digits'⟩
    · cases digits
      have read : parseFixedDigits s 11 2 0 = .ok hour :=
        parseFixedDigits_two smallHour (behind 1) (behind 2)
      exact .inl (by simp [s, parseClock, read, refused, bind, Except.bind])
    · rcases twoDigits_cases (behind 7) (behind 8) with refused | ⟨second, smallSecond, digits''⟩
      · cases digits
        cases digits'
        have read : parseFixedDigits s 11 2 0 = .ok hour :=
          parseFixedDigits_two smallHour (behind 1) (behind 2)
        have read' : parseFixedDigits s 14 2 0 = .ok minute :=
          parseFixedDigits_two smallMinute (behind 4) (behind 5)
        exact .inl (by simp [s, parseClock, read, read', refused, bind, Except.bind])
      · exact .inr ⟨hour, minute, second, smallHour, smallMinute, smallSecond, digits, digits',
          digits''⟩

end Dates

section Whole

variable {system : WallclockSystem} {s : Text}

/-- The instant that is read from a form. -/
def Form.read (system : WallclockSystem) (form : Form) : Except ReadFailure Int :=
  match form with
  | .timeOfDay hour minute second => timeOfDayTarget system hour minute (second.getD 0)
  | .localTime fields => orRefuse (system.mktime fields.tm)
  | .iso fields _ zone => isoTarget system fields zone.seconds

theorem digitOf_ne {byte : UInt8} (other : isDigit byte = false) (n : Nat) :
    digitOf n ≠ byte := by
  intro same
  rw [← same, (digitOf_digit n).1] at other
  cases other

theorem findIdx?_text (fields : DateTime) (rest : Text) :
    (fields.text 84 ++ rest).findIdx? (· = 84) = some 10 := by
  have digit : ∀ n, decide (digitOf n = 84) = false := by
    intro n
    exact decide_eq_false (digitOf_ne rfl n)
  simp [DateTime.text, fourDigits, twoDigits, List.findIdx?_cons, digit]

theorem zone_head (zone : Zone) : ∀ byte ∈ zone.text.head?, isDigit byte = false ∧ byte ≠ 46 := by
  intro byte first
  cases zone with
  | unstated => cases first
  | utc =>
    cases first
    decide
  | offset west hour minute =>
    cases west
    all_goals
      cases first
      decide

theorem parseTimeOfDay_text {hour minute : Nat} {second : Option Nat}
    (written : (Form.timeOfDay hour minute second).Written) :
    parseTimeOfDay system (Form.timeOfDay hour minute second).text =
      timeOfDayTarget system hour minute (second.getD 0) := by
  obtain ⟨smallHour, smallMinute, smallSecond⟩ := written
  cases second with
  | none =>
    have hours : parseFixedDigits (Form.timeOfDay hour minute none).text 0 2 0 = .ok hour :=
      parseFixedDigits_two smallHour rfl rfl
    have minutes : parseFixedDigits (Form.timeOfDay hour minute none).text 3 2 0 = .ok minute :=
      parseFixedDigits_two smallMinute rfl rfl
    have colon : bytesAt (Form.timeOfDay hour minute none).text [(2, 58)] = .ok true := rfl
    have short : (Form.timeOfDay hour minute none).text.length = 5 := rfl
    simp [parseTimeOfDay, hours, minutes, colon, short, bind, Except.bind]
  | some value =>
    have hours : parseFixedDigits (Form.timeOfDay hour minute (some value)).text 0 2 0 =
        .ok hour := parseFixedDigits_two smallHour rfl rfl
    have minutes : parseFixedDigits (Form.timeOfDay hour minute (some value)).text 3 2 0 =
        .ok minute := parseFixedDigits_two smallMinute rfl rfl
    have seconds : parseFixedDigits (Form.timeOfDay hour minute (some value)).text 6 2 0 =
        .ok value := parseFixedDigits_two (smallSecond value rfl) rfl rfl
    have colon : bytesAt (Form.timeOfDay hour minute (some value)).text [(2, 58)] = .ok true := rfl
    have colon' : bytesAt (Form.timeOfDay hour minute (some value)).text [(5, 58)] = .ok true :=
      rfl
    have long : (Form.timeOfDay hour minute (some value)).text.length = 8 := rfl
    simp [parseTimeOfDay, hours, minutes, seconds, colon, colon', long, bind, Except.bind]

theorem parseIso_front {fields : DateTime} (written : fields.Written) (tail : Text) :
    parseIso system (fields.text 84 ++ tail) =
      (skipFraction (fields.text 84 ++ tail) (fields.text 84).length).bind fun place =>
        (parseZone (fields.text 84 ++ tail) place).bind fun zone =>
          isoTarget system fields zone := by
  have mark := findIdx?_text fields tail
  have date := parseDate_text written 84 tail
  have clock := parseClock_text written 84 tail
  have dashes : bytesAt (fields.text 84 ++ tail) [(4, 45), (7, 45)] = .ok true := rfl
  have colons : bytesAt (fields.text 84 ++ tail) [(13, 58), (16, 58)] = .ok true := rfl
  have nineteen : (fields.text 84).length = 19 := rfl
  have long : ¬(fields.text 84 ++ tail).length - 11 < 8 := by
    rw [List.length_append, nineteen]
    omega
  simp only [parseIso, mark, date, clock, dashes, colons, long, nineteen, bind, Except.bind, ne_eq,
    not_true_eq_false, if_true, if_false]

theorem parseIso_text {fields : DateTime} {fraction : Option Text} {zone : Zone}
    (written : (Form.iso fields fraction zone).Written) :
    parseIso system (Form.iso fields fraction zone).text =
      isoTarget system fields zone.seconds := by
  obtain ⟨writtenFields, digits, writtenZone⟩ := written
  -- Behind the seconds, the fraction is skipped and the zone reaches to the terminator.
  have skipped := skipFraction_text digits (zone_head zone) (fields.text 84)
  have last : parseZone (fields.text 84 ++ (fractionText fraction ++ zone.text))
      (fields.text 84 ++ fractionText fraction).length = .ok zone.seconds := by
    rw [← List.append_assoc, parseZone_append]
    exact parseZone_text writtenZone
  rw [Form.text, parseIso_front writtenFields, skipped, Except.bind, last, Except.bind]

theorem parse_text {form : Form} (written : form.Written) :
    parseWallclockTarget system form.text = form.read system := by
  cases form with
  | timeOfDay hour minute second =>
    have short : (Form.timeOfDay hour minute second).text.length = 5 ∨
        (Form.timeOfDay hour minute second).text.length = 8 := by
      cases second with
      | none => exact .inl rfl
      | some value => exact .inr rfl
    rw [parseWallclockTarget, if_pos short]
    exact parseTimeOfDay_text written
  | localTime fields =>
    have date := parseDate_text (show fields.Written from written) 32 []
    have clock := parseClock_text (show fields.Written from written) 32 []
    rw [List.append_nil] at date clock
    have marks : bytesAt (fields.text 32) [(4, 45), (7, 45), (10, 32), (13, 58), (16, 58)] =
      .ok true := rfl
    have nineteen : (fields.text 32).length = 19 := rfl
    simp [parseWallclockTarget, Form.text, nineteen, marks, parseLocal, date, clock, Form.read,
      bind, Except.bind]
  | iso fields fraction zone =>
    have nineteen : (fields.text 84).length = 19 := rfl
    have long : ¬((Form.iso fields fraction zone).text.length = 5 ∨
        (Form.iso fields fraction zone).text.length = 8) := by
      rw [Form.text, List.length_append, nineteen]
      omega
    rw [parseWallclockTarget, if_neg long]
    split_ifs with exact
    · -- The separator is a T, so this is not the form in local time.
      have marks : bytesAt (Form.iso fields fraction zone).text
        [(4, 45), (7, 45), (10, 32), (13, 58), (16, 58)] = .ok false := rfl
      rw [marks]
      exact parseIso_text written
    · exact parseIso_text written

end Whole

section Completeness

variable {system : WallclockSystem} {s : Text}

theorem bytesAt_true {marks : List (Nat × UInt8)} (found : bytesAt s marks = .ok true) :
    ∀ mark ∈ marks, byteAt s mark.1 = .ok mark.2 := by
  induction marks with
  | nil => simp
  | cons mark others ih =>
    obtain ⟨place, expected⟩ := mark
    simp only [bytesAt, bind, Except.bind] at found
    cases read : byteAt s place with
    | error failure => simp [read] at found
    | ok byte =>
      simp only [read] at found
      split_ifs at found with same
      · intro mark among
        rcases List.mem_cons.mp among with rfl | among
        · rw [read, same]
        · exact ih found mark among
      · cases found

theorem bytesAt_ok {marks : List (Nat × UInt8)} (inside : ∀ mark ∈ marks, mark.1 ≤ s.length) :
    ∃ found, bytesAt s marks = .ok found := by
  induction marks with
  | nil => exact ⟨true, rfl⟩
  | cons mark others ih =>
    obtain ⟨place, expected⟩ := mark
    have near : place ≤ s.length := inside _ List.mem_cons_self
    have read : ∃ byte, byteAt s place = .ok byte := by
      cases left : s.drop place with
      | nil =>
        have same : place = s.length := Nat.le_antisymm near (List.drop_eq_nil_iff.mp left)
        exact ⟨0, by rw [byteAt, left, same]; simp⟩
      | cons byte rest => exact ⟨byte, by rw [byteAt, left]⟩
    obtain ⟨byte, read⟩ := read
    simp only [bytesAt, read, bind, Except.bind]
    split_ifs
    · exact ih fun mark among => inside mark (List.mem_cons_of_mem _ among)
    · exact ⟨false, rfl⟩

theorem parseTimeOfDay_cases (short : s.length = 5 ∨ s.length = 8) :
    parseTimeOfDay system s = .error .refused ∨
      ∃ hour minute second, (Form.timeOfDay hour minute second).Written ∧
        s = (Form.timeOfDay hour minute second).text := by
  rcases short with five | eight
  · match s, five with
    | [h₁, h₂, c, m₁, m₂], five =>
      rcases twoDigits_cases (show byteAt [h₁, h₂, c, m₁, m₂] 0 = .ok h₁ from rfl) rfl with
        refused | ⟨hour, smallHour, digits⟩
      · exact .inl (by simp [parseTimeOfDay, refused, bind, Except.bind])
      · cases digits
        have hours : parseFixedDigits [digitOf (hour / 10), digitOf hour, c, m₁, m₂] 0 2 0 =
            .ok hour := parseFixedDigits_two smallHour rfl rfl
        have colon : bytesAt [digitOf (hour / 10), digitOf hour, c, m₁, m₂] [(2, 58)] =
          if c = 58 then .ok true else .ok false := rfl
        by_cases separated : c = 58
        · rw [if_pos separated] at colon
          rcases twoDigits_cases (show byteAt [digitOf (hour / 10), digitOf hour, c, m₁, m₂] 3 =
            .ok m₁ from rfl) rfl with refused | ⟨minute, smallMinute, digits⟩
          · exact .inl (by simp [parseTimeOfDay, hours, colon, refused, bind, Except.bind])
          · cases digits
            exact .inr ⟨hour, minute, none, ⟨smallHour, smallMinute, by simp⟩, by
              rw [separated]
              rfl⟩
        · rw [if_neg separated] at colon
          exact .inl (by simp [parseTimeOfDay, hours, colon, bind, Except.bind])
  · match s, eight with
    | [h₁, h₂, c, m₁, m₂, c', s₁, s₂], eight =>
      rcases twoDigits_cases (show byteAt [h₁, h₂, c, m₁, m₂, c', s₁, s₂] 0 = .ok h₁ from rfl)
        rfl with refused | ⟨hour, smallHour, digits⟩
      · exact .inl (by simp [parseTimeOfDay, refused, bind, Except.bind])
      · cases digits
        let s := [digitOf (hour / 10), digitOf hour, c, m₁, m₂, c', s₁, s₂]
        have hours : parseFixedDigits s 0 2 0 = .ok hour :=
          parseFixedDigits_two smallHour rfl rfl
        have colon : bytesAt s [(2, 58)] = if c = 58 then .ok true else .ok false := rfl
        have colon' : bytesAt s [(5, 58)] = if c' = 58 then .ok true else .ok false := rfl
        by_cases separated : c = 58
        · rw [if_pos separated] at colon
          rcases twoDigits_cases (show byteAt s 3 = .ok m₁ from rfl) rfl with
            refused | ⟨minute, smallMinute, digits⟩
          · exact .inl (by simp [s, parseTimeOfDay, hours, colon, refused, bind, Except.bind])
          · cases digits
            have minutes : parseFixedDigits s 3 2 0 = .ok minute :=
              parseFixedDigits_two smallMinute rfl rfl
            by_cases separated' : c' = 58
            · rw [if_pos separated'] at colon'
              rcases twoDigits_cases (show byteAt s 6 = .ok s₁ from rfl) rfl with
                refused | ⟨second, smallSecond, digits⟩
              · exact .inl (by
                  simp [s, parseTimeOfDay, hours, colon, minutes, colon', refused, bind,
                    Except.bind])
              · cases digits
                exact .inr ⟨hour, minute, some second, ⟨smallHour, smallMinute, by simpa⟩, by
                  rw [separated, separated']
                  rfl⟩
            · rw [if_neg separated'] at colon'
              exact .inl (by
                simp [s, parseTimeOfDay, hours, colon, minutes, colon', bind, Except.bind])
        · rw [if_neg separated] at colon
          exact .inl (by simp [s, parseTimeOfDay, hours, colon, bind, Except.bind])

theorem dateTime_cases (y₁ y₂ y₃ y₄ m₁ m₂ d₁ d₂ separator h₁ h₂ i₁ i₂ s₁ s₂ : UInt8)
    (tail : Text) :
    let front := [y₁, y₂, y₃, y₄, 45, m₁, m₂, 45, d₁, d₂, separator, h₁, h₂, 58, i₁, i₂, 58, s₁, s₂]
    parseDate (front ++ tail) = .error .refused ∨
      (∃ date, parseDate (front ++ tail) = .ok date) ∧
        parseClock (front ++ tail) = .error .refused ∨
      ∃ fields : DateTime, fields.Written ∧ front = fields.text separator := by
  intro front
  rcases parseDate_cases y₁ y₂ y₃ y₄ m₁ m₂ d₁ d₂
      (separator :: h₁ :: h₂ :: 58 :: i₁ :: i₂ :: 58 :: s₁ :: s₂ :: tail) with
    refused | ⟨year, month, day, smallYear, smallMonth, smallDay, years, months, days, date⟩
  · exact .inl refused
  · right
    rcases parseClock_cases [y₁, y₂, y₃, y₄, 45, m₁, m₂, 45, d₁, d₂] rfl separator h₁ h₂ i₁ i₂ s₁ s₂
      tail with refused | ⟨hour, minute, second, smallHour, smallMinute, smallSecond, hours,
        minutes, seconds⟩
    · exact .inl ⟨⟨_, date⟩, refused⟩
    · cases years
      cases months
      cases days
      cases hours
      cases minutes
      cases seconds
      exact .inr ⟨⟨year, month, day, hour, minute, second⟩,
        ⟨smallYear, smallMonth, smallDay, smallHour, smallMinute, smallSecond⟩, rfl⟩

theorem parseLocal_cases (long : s.length = 19)
    (marks : bytesAt s [(4, 45), (7, 45), (10, 32), (13, 58), (16, 58)] = .ok true) :
    parseLocal system s = .error .refused ∨
      ∃ fields : DateTime, fields.Written ∧ s = fields.text 32 := by
  match s, long with
  | [y₁, y₂, y₃, y₄, a, m₁, m₂, b, d₁, d₂, separator, h₁, h₂, c, i₁, i₂, d, s₁, s₂], long =>
    obtain ⟨dash, dash', blank, colon, colon'⟩ : a = 45 ∧ b = 45 ∧ separator = 32 ∧ c = 58 ∧
        d = 58 := by
      have each := bytesAt_true marks
      exact ⟨Except.ok.inj (each (4, 45) (by simp)), Except.ok.inj (each (7, 45) (by simp)),
        Except.ok.inj (each (10, 32) (by simp)), Except.ok.inj (each (13, 58) (by simp)),
        Except.ok.inj (each (16, 58) (by simp))⟩
    subst dash dash' blank colon colon'
    rcases dateTime_cases y₁ y₂ y₃ y₄ m₁ m₂ d₁ d₂ 32 h₁ h₂ i₁ i₂ s₁ s₂ [] with
      refused | ⟨⟨date, read⟩, refused⟩ | ⟨fields, written, same⟩
    · rw [List.append_nil] at refused
      exact .inl (by simp [parseLocal, refused, bind, Except.bind])
    · rw [List.append_nil] at read refused
      exact .inl (by simp [parseLocal, read, refused, bind, Except.bind])
    · exact .inr ⟨fields, written, same⟩

end Completeness

section Isos

variable {system : WallclockSystem} {s : Text}

theorem nineteen_bytes (long : 19 ≤ s.length) :
    ∃ y₁ y₂ y₃ y₄ a m₁ m₂ b d₁ d₂ t h₁ h₂ c i₁ i₂ d s₁ s₂ tail,
      s = y₁ :: y₂ :: y₃ :: y₄ :: a :: m₁ :: m₂ :: b :: d₁ :: d₂ :: t :: h₁ :: h₂ :: c :: i₁ ::
        i₂ :: d :: s₁ :: s₂ :: tail := by
  have ten : 10 < s.length := by omega
  match s, ten with
  | y₁ :: y₂ :: y₃ :: y₄ :: a :: m₁ :: m₂ :: b :: d₁ :: d₂ :: t :: time, _ =>
    have eight : 7 < time.length := by
      simp only [List.length_cons] at long
      omega
    match time, eight with
    | h₁ :: h₂ :: c :: i₁ :: i₂ :: d :: s₁ :: s₂ :: tail, _ =>
      exact ⟨y₁, y₂, y₃, y₄, a, m₁, m₂, b, d₁, d₂, t, h₁, h₂, c, i₁, i₂, d, s₁, s₂, tail, rfl⟩

theorem parseIso_short (mark : s.findIdx? (· = 84) = some 10)
    (dashes : bytesAt s [(4, 45), (7, 45)] = .ok true) (short : s.length - 11 < 8) :
    parseIso system s = .error .refused := by
  obtain ⟨long, -⟩ := List.findIdx?_eq_some_iff_getElem.mp mark
  match s, long with
  | y₁ :: y₂ :: y₃ :: y₄ :: a :: m₁ :: m₂ :: b :: d₁ :: d₂ :: t :: tail, long =>
    have each := bytesAt_true dashes
    obtain rfl : a = 45 := Except.ok.inj (each (4, 45) (by simp))
    obtain rfl : b = 45 := Except.ok.inj (each (7, 45) (by simp))
    rcases parseDate_cases y₁ y₂ y₃ y₄ m₁ m₂ d₁ d₂ (t :: tail) with
      refused | ⟨year, month, day, -, -, -, -, -, -, date⟩
    · simp only [parseIso, mark, dashes, refused, bind, Except.bind, ne_eq, not_true_eq_false,
        if_true, if_false]
    · simp only [parseIso, mark, dashes, date, short, bind, Except.bind, ne_eq,
        not_true_eq_false, if_true, if_false]

theorem parseIso_tail {fields : DateTime} (written : fields.Written) {tail : Text}
    (noZero : 0 ∉ tail) :
    parseIso system (fields.text 84 ++ tail) = .error .refused ∨
      ∃ form : Form, form.Written ∧ fields.text 84 ++ tail = form.text := by
  obtain ⟨fraction, rest, rfl, digits, skipped⟩ := fraction_cases tail
  have behind := parseZone_append (fields.text 84 ++ fractionText fraction) rest
  rcases @parseZone_cases rest fun zero => noZero (List.mem_append_right _ zero) with
    refused | ⟨zone, writtenZone, rfl⟩
  · left
    rw [parseIso_front written, skipped, Except.bind, ← List.append_assoc, behind, refused,
      Except.bind]
  · exact .inr ⟨.iso fields fraction zone, ⟨written, digits, writtenZone⟩, rfl⟩

theorem parseIso_cases (noZero : 0 ∉ s) :
    parseIso system s = .error .refused ∨
      ∃ form : Form, form.Written ∧ s = form.text := by
  by_cases mark : s.findIdx? (· = 84) = some 10
  · obtain ⟨ten, isT, -⟩ := List.findIdx?_eq_some_iff_getElem.mp mark
    obtain ⟨found, dashes⟩ := @bytesAt_ok s [(4, 45), (7, 45)]
      (by simp; omega)
    cases found with
    | false =>
      exact .inl (by
        simp only [parseIso, mark, dashes, bind, Except.bind, ne_eq, not_true_eq_false, if_false,
          Bool.false_eq_true])
    | true =>
      by_cases short : s.length - 11 < 8
      · exact .inl (parseIso_short mark dashes short)
      · obtain ⟨found, colons⟩ := @bytesAt_ok s [(13, 58), (16, 58)]
          (by simp; omega)
        obtain ⟨y₁, y₂, y₃, y₄, a, m₁, m₂, b, d₁, d₂, t, h₁, h₂, c, i₁, i₂, d, s₁, s₂, tail, rfl⟩ :=
          @nineteen_bytes s (by omega)
        have each := bytesAt_true dashes
        obtain rfl : a = 45 := Except.ok.inj (each (4, 45) (by simp))
        obtain rfl : b = 45 := Except.ok.inj (each (7, 45) (by simp))
        obtain rfl : t = 84 := of_decide_eq_true isT
        cases found with
        | false =>
          rcases parseDate_cases y₁ y₂ y₃ y₄ m₁ m₂ d₁ d₂
              (84 :: h₁ :: h₂ :: c :: i₁ :: i₂ :: d :: s₁ :: s₂ :: tail) with
            refused | ⟨year, month, day, -, -, -, -, -, -, date⟩
          · exact .inl (by
              simp only [parseIso, mark, dashes, refused, bind, Except.bind, ne_eq,
                not_true_eq_false, if_true, if_false])
          · exact .inl (by
              simp only [parseIso, mark, dashes, date, short, colons, bind, Except.bind, ne_eq,
                not_true_eq_false, if_true, if_false, Bool.false_eq_true])
        | true =>
          have each' := bytesAt_true colons
          obtain rfl : c = 58 := Except.ok.inj (each' (13, 58) (by simp))
          obtain rfl : d = 58 := Except.ok.inj (each' (16, 58) (by simp))
          rcases dateTime_cases y₁ y₂ y₃ y₄ m₁ m₂ d₁ d₂ 84 h₁ h₂ i₁ i₂ s₁ s₂ tail with
            refused | ⟨⟨date, read⟩, refused⟩ | ⟨fields, written, same⟩
          · left
            simp only [List.cons_append, List.nil_append] at refused
            simp only [parseIso, mark, dashes, refused, bind, Except.bind, ne_eq,
              not_true_eq_false, if_true, if_false]
          · left
            simp only [List.cons_append, List.nil_append] at read refused
            simp only [parseIso, mark, dashes, read, short, colons, refused, bind, Except.bind,
              ne_eq, not_true_eq_false, if_true, if_false]
          · have whole : y₁ :: y₂ :: y₃ :: y₄ :: 45 :: m₁ :: m₂ :: 45 :: d₁ :: d₂ :: 84 :: h₁ ::
                h₂ :: 58 :: i₁ :: i₂ :: 58 :: s₁ :: s₂ :: tail = fields.text 84 ++ tail := by
              rw [← same]
              rfl
            rw [whole] at noZero ⊢
            exact parseIso_tail written fun zero => noZero (List.mem_append_right _ zero)
  · exact .inl (by simp [parseIso, mark])

end Isos

section Exactness

variable {system : WallclockSystem} {localInstant : DateTime → Int} {today : DateTime} {s : Text}

theorem parse_cases (noZero : 0 ∉ s) :
    parseWallclockTarget system s = .error .refused ∨
      ∃ form : Form, form.Written ∧ s = form.text := by
  by_cases short : s.length = 5 ∨ s.length = 8
  · rw [parseWallclockTarget, if_pos short]
    rcases @parseTimeOfDay_cases system s short with
      refused | ⟨hour, minute, second, written, rfl⟩
    · exact .inl refused
    · exact .inr ⟨_, written, rfl⟩
  · rw [parseWallclockTarget, if_neg short]
    split_ifs with exact
    · obtain ⟨found, marks⟩ := @bytesAt_ok s
        [(4, 45), (7, 45), (10, 32), (13, 58), (16, 58)] (by simp; omega)
      rw [marks]
      cases found with
      | true =>
        rcases @parseLocal_cases system s exact marks with refused | ⟨fields, written, rfl⟩
        · exact .inl refused
        · exact .inr ⟨.localTime fields, written, rfl⟩
      | false => exact parseIso_cases noZero
    · exact parseIso_cases noZero

theorem dateTime_text_inj {fields others : DateTime} (written : fields.Written)
    (written' : others.Written) {separator : UInt8}
    (same : fields.text separator = others.text separator) : fields = others := by
  have date := parseDate_text written separator []
  have clock := parseClock_text written separator []
  rw [same, parseDate_text written'] at date
  rw [same, parseClock_text written'] at clock
  cases fields
  cases others
  simp only [Except.ok.injEq, Prod.mk.injEq] at date clock
  simp only [DateTime.mk.injEq]
  tauto

theorem twoDigits_inj {n m : Nat} (small : n < 100) (small' : m < 100)
    (same : twoDigits n = twoDigits m) : n = m := by
  have tens := digitOf_inj (List.cons.inj same).1
  have units := digitOf_inj (List.cons.inj (List.cons.inj same).2).1
  omega

theorem zone_text_inj {zone other : Zone} (written : zone.Written) (written' : other.Written)
    (same : zone.text = other.text) : zone = other := by
  have sign : ∀ west : Bool, (if west then 45 else 43 : UInt8) ≠ 90 := by decide
  cases zone with
  | unstated =>
    cases other with
    | unstated => rfl
    | utc => cases same
    | offset west hour minute => cases same
  | utc =>
    cases other with
    | unstated => cases same
    | utc => rfl
    | offset west hour minute => exact absurd (List.cons.inj same).1.symm (sign west)
  | offset west hour minute =>
    cases other with
    | unstated => cases same
    | utc => exact absurd (List.cons.inj same).1 (sign west)
    | offset west' hour' minute' =>
      obtain ⟨signs, digits⟩ := List.cons.inj same
      obtain ⟨hours, minutes⟩ := List.append_inj digits rfl
      have west_eq : west = west' := by
        cases west <;> cases west' <;> first | rfl | cases signs
      rw [west_eq, twoDigits_inj written.1 written'.1 hours,
        twoDigits_inj written.2 written'.2 (List.cons.inj minutes).2]

theorem timeOfDay_text_inj {hour minute hour' minute' : Nat} {second second' : Option Nat}
    (written : (Form.timeOfDay hour minute second).Written)
    (written' : (Form.timeOfDay hour' minute' second').Written)
    (same : (Form.timeOfDay hour minute second).text =
      (Form.timeOfDay hour' minute' second').text) :
    Form.timeOfDay hour minute second = Form.timeOfDay hour' minute' second' := by
  obtain ⟨smallHour, smallMinute, smallSecond⟩ := written
  obtain ⟨smallHour', smallMinute', smallSecond'⟩ := written'
  cases second with
  | none =>
    cases second' with
    | none =>
      obtain ⟨hours, minutes⟩ :=
        List.append_inj (show twoDigits hour ++ _ = twoDigits hour' ++ _ from same) rfl
      rw [twoDigits_inj smallHour smallHour' hours,
        twoDigits_inj smallMinute smallMinute' (List.cons.inj minutes).2]
    | some value' => exact absurd (congrArg List.length same) (by simp [Form.text, twoDigits])
  | some value =>
    cases second' with
    | none => exact absurd (congrArg List.length same) (by simp [Form.text, twoDigits])
    | some value' =>
      obtain ⟨hours, rest⟩ :=
        List.append_inj (show twoDigits hour ++ _ = twoDigits hour' ++ _ from same) rfl
      obtain ⟨minutes, seconds⟩ := List.append_inj (List.cons.inj rest).2 rfl
      rw [twoDigits_inj smallHour smallHour' hours,
        twoDigits_inj smallMinute smallMinute' minutes,
        twoDigits_inj (smallSecond value rfl) (smallSecond' value' rfl) (List.cons.inj seconds).2]

theorem iso_text_inj {fields fields' : DateTime} {fraction fraction' : Option Text}
    {zone zone' : Zone} (written : (Form.iso fields fraction zone).Written)
    (written' : (Form.iso fields' fraction' zone').Written)
    (same : (Form.iso fields fraction zone).text = (Form.iso fields' fraction' zone').text) :
    Form.iso fields fraction zone = Form.iso fields' fraction' zone' := by
  obtain ⟨writtenFields, digits, writtenZone⟩ := written
  obtain ⟨writtenFields', digits', writtenZone'⟩ := written'
  obtain ⟨dates, tails⟩ :=
    List.append_inj (show fields.text 84 ++ _ = fields'.text 84 ++ _ from same) rfl
  -- The fraction is as long as what is skipped, so the zones start at the same place.
  have skipped := skipFraction_text digits (zone_head zone) []
  have skipped' := skipFraction_text digits' (zone_head zone') []
  rw [tails, skipped'] at skipped
  have long : (fractionText fraction).length = (fractionText fraction').length :=
    (Except.ok.inj skipped).symm
  obtain ⟨fractions, zones⟩ := List.append_inj tails long
  have fraction_eq : fraction = fraction' := by
    cases fraction with
    | none =>
      cases fraction' with
      | none => rfl
      | some written' => cases fractions
    | some written =>
      cases fraction' with
      | none => cases fractions
      | some written' => rw [(List.cons.inj fractions).2]
  rw [dateTime_text_inj writtenFields writtenFields' dates, fraction_eq,
    zone_text_inj writtenZone writtenZone' zones]

theorem form_length (form : Form) :
    match form with
    | .timeOfDay _ _ _ => form.text.length ≤ 8
    | _ => 19 ≤ form.text.length := by
  cases form with
  | timeOfDay hour minute second =>
    cases second with
    | none => simp [Form.text, twoDigits]
    | some value => simp [Form.text, twoDigits]
  | localTime fields => exact Nat.le_refl 19
  | iso fields fraction zone =>
    have nineteen : (fields.text 84).length = 19 := rfl
    rw [Form.text, List.length_append, nineteen]
    omega

theorem form_text_inj {form other : Form} (written : form.Written) (written' : other.Written)
    (same : form.text = other.text) : form = other := by
  have length := form_length form
  have length' := form_length other
  rw [← same] at length'
  -- The two forms with a date differ in the byte behind it.
  have separator : ∀ fields others : DateTime, ∀ tail, fields.text 32 ≠ others.text 84 ++ tail := by
    intro fields others tail equal
    have space : (fields.text 32)[10]? = some 32 := rfl
    have letter : (others.text 84 ++ tail)[10]? = some 84 := rfl
    rw [equal, letter] at space
    cases space
  cases form with
  | timeOfDay hour minute second =>
    cases other with
    | timeOfDay hour' minute' second' => exact timeOfDay_text_inj written written' same
    | localTime fields' => simp only at length length'; omega
    | iso fields' fraction' zone' => simp only at length length'; omega
  | localTime fields =>
    cases other with
    | timeOfDay hour' minute' second' => simp only at length length'; omega
    | localTime fields' => rw [dateTime_text_inj written written' same]
    | iso fields' fraction' zone' => exact absurd same (separator fields fields' _)
  | iso fields fraction zone =>
    cases other with
    | timeOfDay hour' minute' second' => simp only at length length'; omega
    | localTime fields' => exact absurd same.symm (separator fields' fields _)
    | iso fields' fraction' zone' => exact iso_text_inj written written' same

theorem Form.Valid.written {form : Form} (valid : form.Valid) : form.Written := by
  have fits : ∀ fields : DateTime, fields.Valid → fields.Written := by
    intro fields ⟨year, month, day, hour, minute, second⟩
    have days : daysInMonth fields.year fields.month ≤ 31 := by
      unfold daysInMonth
      split_ifs <;> omega
    exact ⟨by omega, by omega, by omega, by omega, by omega, by omega⟩
  cases form with
  | timeOfDay hour minute second =>
    obtain ⟨hours, minutes, seconds⟩ := valid
    exact ⟨by omega, by omega, fun value among => by have := seconds value among; omega⟩
  | localTime fields => exact fits fields valid
  | iso fields fraction zone =>
    obtain ⟨validFields, digits, validZone⟩ := valid
    refine ⟨fits fields validFields, fun written among => (digits written among).2, ?_⟩
    cases zone with
    | unstated => trivial
    | utc => trivial
    | offset west hour minute =>
      have := validZone west hour minute rfl
      exact ⟨by omega, by omega⟩

end Exactness

section Readings

variable {system : WallclockSystem} {localInstant : DateTime → Int} {today : DateTime} {s : Text}

theorem decimalNumber_eq_zero (digits : Text)
    (isDigits : ∀ byte ∈ digits, isDigit byte = true) :
    decimalNumber digits = 0 ↔ ∀ byte ∈ digits, byte = 48 := by
  have general : ∀ start,
      digits.foldl (fun number digit => 10 * number + (digit.toNat - 48)) start = 0 ↔
        start = 0 ∧ ∀ byte ∈ digits, byte = 48 := by
    induction digits with
    | nil => simp
    | cons byte digits ih =>
      intro start
      have zero : byte.toNat - 48 = 0 ↔ byte = 48 := by
        have low : 48 ≤ byte := by
          have := isDigits byte List.mem_cons_self
          simp only [isDigit, Bool.and_eq_true, decide_eq_true_eq] at this
          exact this.1
        have low' : 48 ≤ byte.toNat := low
        constructor
        · intro nothing
          exact UInt8.toNat_inj.mp (by simpa using (show byte.toNat = 48 by omega))
        · rintro rfl
          rfl
      rw [List.foldl_cons, ih (fun byte among => isDigits byte (List.mem_cons_of_mem _ among)),
        List.forall_mem_cons, ← zero]
      constructor
      · rintro ⟨none, others⟩
        exact ⟨by omega, by omega, others⟩
      · rintro ⟨none, this, others⟩
        exact ⟨by omega, others⟩
  rw [decimalNumber, general 0]
  simp

theorem fractionValue_eq_zero {fraction : Option Text}
    (isDigits : ∀ digits ∈ fraction, ∀ byte ∈ digits, isDigit byte = true) :
    fractionValue fraction = 0 ↔ ∀ digits ∈ fraction, ∀ byte ∈ digits, byte = 48 := by
  cases fraction with
  | none => simp [fractionValue]
  | some digits =>
    have power : (10 : ℚ) ^ digits.length ≠ 0 := by positivity
    rw [fractionValue, div_eq_zero_iff, or_iff_left power, Nat.cast_eq_zero,
      decimalNumber_eq_zero digits (isDigits digits rfl)]
    simp

theorem orRefuse_eq {instant target : Int} :
    orRefuse instant = .ok target ↔ instant ≠ -1 ∧ instant = target := by
  rw [orRefuse]
  split_ifs with failed
  · simp [failed]
  · simp [failed]

theorem orRefuse_beyond (instant : Int) : orRefuse instant ≠ .error .beyond := by
  rw [orRefuse]
  split_ifs <;> simp

/-- A form is right if it is read as its instant when it is valid, and refused when not. -/
def Form.Right (system : WallclockSystem) (localInstant : DateTime → Int) (today : DateTime)
    (form : Form) : Prop :=
  (form.Valid → ∃ target, form.read system = .ok target ∧
    (target : ℚ) = form.instant system localInstant today) ∧
  (¬form.Valid → ∀ target, form.read system ≠ .ok target)

theorem timeOfDay_right (library : LibraryCorrect system localInstant today) (hour minute : Nat)
    (second : Option Nat) :
    (Form.timeOfDay hour minute second).Right system localInstant today ↔
      (Form.timeOfDay hour minute second).Exact system localInstant today := by
  let fields := { today with hour := hour, minute := minute, second := second.getD 0 }
  have ranges : (Form.timeOfDay hour minute second).Valid ↔
      ¬(23 < hour ∨ 59 < minute ∨ 59 < second.getD 0) := by
    cases second with
    | none =>
      simp only [Form.Valid, Option.getD_none, Option.mem_def, reduceCtorEq, false_implies,
        implies_true, and_true]
      omega
    | some value =>
      simp only [Form.Valid, Option.getD_some, Option.mem_def, Option.some.injEq, forall_eq']
      omega
  by_cases valid : (Form.timeOfDay hour minute second).Valid
  · have inside := ranges.mp valid
    have validFields : fields.Valid := by
      obtain ⟨year, month, day, -, -, -⟩ := library.validToday
      exact ⟨year, month, day, show hour < 24 by omega, show minute < 60 by omega,
        show second.getD 0 < 60 by omega⟩
    obtain ⟨isdst, broken⟩ := library.localtime
    have made := library.mktime fields validFields isdst (.inr (by rw [broken]))
    have read : (Form.timeOfDay hour minute second).read system =
        (orRefuse (localInstant fields)).bind fun target =>
          .ok (if (target : ℚ) ≤ system.now then target + 24 * 60 * 60 else target) := by
      rw [← made]
      simp only [Form.read, timeOfDayTarget, if_neg inside, broken, bind]
      rfl
    change _ ↔ (_ → localInstant fields ≠ -1 ∧ ((localInstant fields : ℚ) ≤ system.now →
      localInstant fields.nextDay = localInstant fields + 86400))
    have means : (Form.timeOfDay hour minute second).instant system localInstant today =
        if (localInstant fields : ℚ) ≤ system.now then (localInstant fields.nextDay : ℚ)
        else localInstant fields := rfl
    rw [Form.Right, read, means]
    simp only [valid, true_implies, not_true_eq_false, false_implies, and_true]
    by_cases failed : localInstant fields = -1
    · simp [orRefuse, failed, Except.bind]
    · have within : orRefuse (localInstant fields) = .ok (localInstant fields) := if_neg failed
      rw [within, Except.bind]
      by_cases passed : (localInstant fields : ℚ) ≤ system.now
      · rw [if_pos passed, if_pos passed]
        simp only [Except.ok.injEq, exists_eq_left', Int.cast_inj]
        constructor
        · intro same
          exact ⟨failed, fun _ => by omega⟩
        · intro ⟨_, day⟩
          have next := day passed
          omega
      · simp [passed, failed]
  · have outside := not_not.mp (mt ranges.mpr valid)
    have refused : (Form.timeOfDay hour minute second).read system = .error .refused := by
      rw [Form.read, timeOfDayTarget, if_pos outside]
    simp [Form.Right, Form.Exact, valid, refused]

theorem localTime_right (library : LibraryCorrect system localInstant today) (fields : DateTime) :
    (Form.localTime fields).Right system localInstant today ↔
      (Form.localTime fields).Exact system localInstant today := by
  by_cases valid : (Form.localTime fields).Valid
  · have made : system.mktime fields.tm = localInstant fields := library.mktime fields valid 0 (.inl rfl)
    simp [Form.Right, Form.Exact, valid, Form.read, Form.instant, made, orRefuse_eq]
  · simp [Form.Right, Form.Exact, valid, Form.read, orRefuse_eq]

theorem iso_right (library : LibraryCorrect system localInstant today) {fields : DateTime}
    {fraction : Option Text} {zone : Zone} (written : (Form.iso fields fraction zone).Written) :
    (Form.iso fields fraction zone).Right system localInstant today ↔
      (Form.iso fields fraction zone).Exact system localInstant today := by
  let made := if zone = .unstated then system.mktime fields.tm else system.timegm fields.tm
  have read : (Form.iso fields fraction zone).read system =
      (orRefuse made).bind fun instant => .ok (instant - zone.seconds.getD 0) := by
    cases zone with
    | unstated =>
      have whole : made = system.mktime fields.tm := if_pos rfl
      rw [whole]
      simp [Form.read, isoTarget, Zone.seconds, Except.bind, orRefuse]
      split_ifs <;> rfl
    | utc => rfl
    | offset west hour minute => rfl
  change _ ↔ (_ → made ≠ -1 ∧ ∀ digits ∈ fraction, ∀ byte ∈ digits, byte = 48) ∧ (_ → made = -1)
  by_cases valid : (Form.iso fields fraction zone).Valid
  · have means : (Form.iso fields fraction zone).instant system localInstant today =
        made - zone.seconds.getD 0 + fractionValue fraction := by
      cases zone with
      | unstated =>
        have whole : made = localInstant fields := (if_pos rfl).trans
          (library.mktime fields valid.1 0 (.inl rfl))
        rw [whole]
        simp [Form.instant, Zone.seconds]
      | utc =>
        have whole : made = utcInstant fields := library.timegm fields valid.1
        rw [whole]
        rfl
      | offset west hour minute =>
        have whole : made = utcInstant fields := library.timegm fields valid.1
        rw [whole]
        rfl
    rw [Form.Right, read, means, ← fractionValue_eq_zero written.2.1]
    simp only [valid, true_implies, not_true_eq_false, false_implies, and_true]
    by_cases failed : made = -1
    · simp [orRefuse, failed, Except.bind]
    · simp [orRefuse, failed, Except.bind]
  · simp only [Form.Right, valid, false_implies, true_and, not_false_eq_true, true_implies, read]
    by_cases failed : made = -1
    · simp [orRefuse, failed, Except.bind]
    · simp [orRefuse, failed, Except.bind]

end Readings

section Claim

variable {system : WallclockSystem} {localInstant : DateTime → Int} {today : DateTime} {s : Text}

theorem right_iff (library : LibraryCorrect system localInstant today) {form : Form}
    (written : form.Written) :
    form.Right system localInstant today ↔ form.Exact system localInstant today := by
  cases form with
  | timeOfDay hour minute second => exact timeOfDay_right library hour minute second
  | localTime fields => exact localTime_right library fields
  | iso fields fraction zone => exact iso_right library written

theorem read_beyond (form : Form) : form.read system ≠ .error .beyond := by
  cases form with
  | timeOfDay hour minute second =>
    rw [Form.read, timeOfDayTarget]
    split_ifs
    · simp
    · simp only [bind, Except.bind]
      split
      · rename_i failure failed
        intro beyond
        cases beyond
        exact orRefuse_beyond _ failed
      · simp
  | localTime fields => exact orRefuse_beyond _
  | iso fields fraction zone =>
    rw [Form.read, isoTarget.eq_def]
    split
    · rename_i offset
      cases made : orRefuse (system.timegm fields.tm) with
      | error failure =>
        intro beyond
        cases beyond
        exact orRefuse_beyond _ made
      | ok instant => simp [Except.map]
    · exact orRefuse_beyond _

/-- A morning in universal time. -/
def newYear : DateTime :=
  ⟨2024, 1, 1, 10, 0, 0⟩

/-- The fields of a broken-down time. -/
def Tm.fields (tm : Tm) : DateTime :=
  ⟨(tm.year + 1900).toNat, (tm.mon + 1).toNat, tm.mday.toNat, tm.hour.toNat, tm.min.toNat,
    tm.sec.toNat⟩

/-- On that morning, a library whose local time is universal time. -/
def universal : WallclockSystem :=
  ⟨1704103200, fun _ => newYear.tm, fun tm => utcInstant tm.fields, fun tm => utcInstant tm.fields⟩

theorem universal_correct : LibraryCorrect universal utcInstant newYear := by
  have fields_tm : ∀ (fields : DateTime) isdst,
      { fields.tm with isdst := isdst }.fields = fields := by
    intro fields isdst
    simp [Tm.fields, DateTime.tm]
  constructor
  · intro fields valid isdst given
    exact congrArg utcInstant (fields_tm fields isdst)
  · intro fields valid
    exact congrArg utcInstant (fields_tm fields 0)
  · exact ⟨by decide, by decide, by decide, by decide, by decide, by decide⟩
  · exact ⟨0, rfl⟩

theorem utcInstant_ne_failed {fields : DateTime} (seconds : fields.second < 59) :
    utcInstant fields ≠ -1 := by
  simp only [utcInstant]
  omega

end Claim

end C64Stream.Wallclock
