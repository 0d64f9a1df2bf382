/-!
# DataGrid.Calendar.Date -- the proleptic Gregorian calendar

Dates by year, month and day, for all integer years, and their day numbers. Day 0 is the
first of January 1970.

The day number is counted: the days before the year, the days before the month, the days
before the day. Going back, the year is estimated from the mean length of a year, which
is wrong by at most one, and the month is found by walking the lengths.
-/

namespace DataGrid.Calendar

/-- A date by its calendar fields. -/
structure Date where
  year : Int
  month : Nat
  day : Nat
deriving DecidableEq, Repr

/-- Every fourth year, less the centuries, plus every fourth century. -/
def isLeapYear (year : Int) : Bool :=
  (year % 4 == 0 && year % 100 != 0) || year % 400 == 0

/-- The length of February. -/
def februaryLength (year : Int) : Nat := if isLeapYear year then 29 else 28

/-- The lengths of the months in order. -/
def monthLengths (year : Int) : List Nat :=
  [31, februaryLength year, 31, 30, 31, 30, 31, 31, 30, 31, 30, 31]

/-- The length of a month counted from 1, and 0 for a month that does not exist. -/
def monthLength (year : Int) (month : Nat) : Nat :=
  if month = 0 then 0 else (monthLengths year).getD (month - 1) 0

/-- The number of days from the first of January of year 0. -/
def daysBeforeYear (year : Int) : Int :=
  365 * year + (year + 3) / 4 - (year + 99) / 100 + (year + 399) / 400

/-- The number of days of a year before a month. -/
def daysBeforeMonth (year : Int) (month : Nat) : Nat :=
  ((monthLengths year).take (month - 1)).foldl (· + ·) 0

/-- The day number of the first of January 1970 counted from year 0. -/
def epochDays : Int := 719528

namespace Date

/-- The month exists and has this day. -/
def isValid (d : Date) : Bool :=
  decide (1 ≤ d.day) && decide (d.day ≤ monthLength d.year d.month)

/-- The day of the year, counted from 1. -/
def ordinal (d : Date) : Nat := daysBeforeMonth d.year d.month + d.day

/-- The day number. -/
def toDays (d : Date) : Int := daysBeforeYear d.year + d.ordinal - 1 - epochDays

/-- The month and day of a day of the year counted from 0. -/
def splitOrdinal : List Nat → (month rest : Nat) → Nat × Nat
  | [], month, rest => (month, rest + 1)
  | length :: lengths, month, rest =>
    if rest < length then (month, rest + 1) else splitOrdinal lengths (month + 1) (rest - length)

/-- The year of a day counted from year 0. -/
def yearOfDay (day : Int) : Int :=
  let estimate := day * 400 / 146097
  if day < daysBeforeYear estimate then estimate - 1
  else if daysBeforeYear (estimate + 1) ≤ day then estimate + 1
  else estimate

/-- The date of a day number. -/
def ofDays (days : Int) : Date :=
  let day := days + epochDays
  let year := yearOfDay day
  let (month, dayOfMonth) :=
    splitOrdinal (monthLengths year) 1 (day - daysBeforeYear year).toNat
  ⟨year, month, dayOfMonth⟩

/-- The day of the week, with Monday as 0. -/
def weekday (d : Date) : Nat := ((d.toDays + 3) % 7).toNat

/-- The day of the week, with Sunday as 0. -/
def weekdayFromSunday (d : Date) : Nat := (d.weekday + 1) % 7

/-- Weeks of the year that begin on Sunday; the days before the first are in week 0. -/
def weekFromSunday (d : Date) : Nat := (d.ordinal + 6 - d.weekdayFromSunday) / 7

/-- Weeks of the year that begin on Monday; the days before the first are in week 0. -/
def weekFromMonday (d : Date) : Nat := (d.ordinal + 6 - d.weekday) / 7

/-- The year and number of the week that begins on Monday and belongs to the year in which
its Thursday lies. -/
def isoWeek (d : Date) : Int × Nat :=
  let thursday := ofDays (d.toDays - d.weekday + 3)
  (thursday.year, (thursday.ordinal - 1) / 7 + 1)

/-- The quarter, counted from 1. -/
def quarter (d : Date) : Nat := (d.month - 1) / 3 + 1

end Date
end DataGrid.Calendar
