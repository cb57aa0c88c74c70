/-!
# The calendar

Dates and times of day in the Gregorian calendar, carried on without end in both directions, and the
count of seconds since the start of 1970 that they stand for. Years before the year 1 are counted down
through 0 to negative numbers.
-/

namespace DirectoryAccess

/-- Whether a year has a leap day. -/
def isLeapYear (year : Int) : Bool := year % 4 == 0 && (year % 100 != 0 || year % 400 == 0)

/-- The number of days of a month, counted from 1. -/
def daysInMonth (year : Int) (month : Nat) : Nat :=
  match month with
  | 2 => if isLeapYear year then 29 else 28
  | 4 | 6 | 9 | 11 => 30
  | _ => 31

/-- The number of days from the start of the year 0 to the start of a year. -/
def daysBeforeYear (year : Int) : Int :=
  365 * year + (year + 3) / 4 - (year + 99) / 100 + (year + 399) / 400

/-- The number of days of the year before a month. -/
def daysBeforeMonth (year : Int) : Nat → Nat
  | 0 | 1 => 0
  | month + 2 => daysBeforeMonth year (month + 1) + daysInMonth year (month + 1)

/-- A date with a time of day, to the second. -/
structure DateTime where
  /-- The year. -/
  year : Int
  /-- The month, from 1. -/
  month : Nat
  /-- The day of the month, from 1. -/
  day : Nat
  /-- The hour, from 0. -/
  hour : Nat
  /-- The minute, from 0. -/
  minute : Nat
  /-- The second, from 0. -/
  second : Nat
  deriving DecidableEq, Repr

/-- A point in time, to the second. -/
structure Instant where
  /-- The seconds since the start of 1970. -/
  seconds : Int
  deriving DecidableEq, Repr

namespace DateTime

/-- Whether the date is in the calendar and the time within a day of 86400 seconds. -/
def isValid (t : DateTime) : Bool :=
  1 ≤ t.month && t.month ≤ 12 && 1 ≤ t.day && t.day ≤ daysInMonth t.year t.month &&
    t.hour < 24 && t.minute < 60 && t.second < 60

/-- The number of days from the start of the year 0 to the date. -/
def dayNumber (t : DateTime) : Int :=
  daysBeforeYear t.year + daysBeforeMonth t.year t.month + (t.day - 1 : Nat)

/-- The point in time that is so written in universal time. -/
def toInstant (t : DateTime) : Instant :=
  ⟨86400 * (t.dayNumber - daysBeforeYear 1970) + 3600 * t.hour + 60 * t.minute + t.second⟩

end DateTime

/-! ### From days to dates -/

/-- The year that a day falls in; days are counted from the start of the year 0. A cycle of 400 years
has 146097 days, so the first guess misses by at most one year. -/
def yearOfDay (day : Int) : Int :=
  let guess := 400 * day / 146097
  if day < daysBeforeYear guess then guess - 1
  else if daysBeforeYear (guess + 1) ≤ day then guess + 1
  else guess

/-- The month that a day of a year falls in, counting down from the last month. -/
def monthOfDay (year : Int) (dayOfYear : Nat) : Nat → Nat
  | 0 => 1
  | month + 1 =>
    if daysBeforeMonth year (month + 1) ≤ dayOfYear then month + 1
    else monthOfDay year dayOfYear month

/-- The date and time of day of a point in time, in universal time. -/
def Instant.toDateTime (t : Instant) : DateTime :=
  let day := t.seconds / 86400 + daysBeforeYear 1970
  let year := yearOfDay day
  let dayOfYear := (day - daysBeforeYear year).toNat
  let month := monthOfDay year dayOfYear 12
  let second := (t.seconds % 86400).toNat
  { year, month, day := dayOfYear - daysBeforeMonth year month + 1,
    hour := second / 3600, minute := second / 60 % 60, second := second % 60 }

end DirectoryAccess
