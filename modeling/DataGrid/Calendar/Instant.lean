import DataGrid.Calendar.Date

/-!
# DataGrid.Calendar.Instant -- points in time and their clock fields

An instant is a count of seconds from the beginning of 1970 and a count of nanoseconds.
A leap second is the nanosecond count running on past a full second, up to two.

`Fields` is the reading of a clock and calendar. `Fields.toInstant?` checks every field
and the result against the supported years, -262143 to 262142; `Fields.ofMillis` goes the
other way and never fails.
-/

namespace DataGrid.Calendar

/-- A point in time. -/
structure Instant where
  seconds : Int
  nanos : Nat
deriving DecidableEq, Repr

/-- Whole milliseconds from the beginning of 1970, rounded down. -/
def Instant.millis (t : Instant) : Int := t.seconds * 1000 + (t.nanos / 1000000 : Nat)

/-- A date and a time of day. -/
structure Fields where
  date : Date
  hour : Nat
  minute : Nat
  second : Nat
  nanos : Nat
deriving DecidableEq, Repr

def firstYear : Int := -262143
def lastYear : Int := 262142

/-- The day numbers of the supported years. -/
def firstDay : Int := Date.toDays ⟨firstYear, 1, 1⟩
def lastDay : Int := Date.toDays ⟨lastYear, 12, 31⟩

def secondsPerDay : Int := 86400

namespace Fields

/-- Every field is in its range; the second may be 60. -/
def isValid (f : Fields) : Bool :=
  f.date.isValid && decide (firstYear ≤ f.date.year) && decide (f.date.year ≤ lastYear) &&
  decide (f.hour ≤ 23) && decide (f.minute ≤ 59) && decide (f.second ≤ 60) &&
  decide (f.nanos < 1000000000)

/-- The instant at which a clock that is `offset` seconds ahead shows these fields. -/
def toInstant? (f : Fields) (offset : Int) : Option Instant :=
  if f.isValid then
    let leap := f.second = 60
    let second := if leap then 59 else f.second
    let seconds := f.date.toDays * secondsPerDay +
      (f.hour * 3600 + f.minute * 60 + second : Nat) - offset
    let nanos := if leap then 1000000000 + f.nanos else f.nanos
    if firstDay * secondsPerDay ≤ seconds ∧ seconds < (lastDay + 1) * secondsPerDay then
      some ⟨seconds, nanos⟩
    else none
  else none

/-- The fields of a day and a nanosecond of that day. -/
def ofDay (day : Int) (nanosOfDay : Nat) : Fields :=
  let secondOfDay := nanosOfDay / 1000000000
  { date := Date.ofDays day, hour := secondOfDay / 3600, minute := secondOfDay / 60 % 60,
    second := secondOfDay % 60, nanos := nanosOfDay % 1000000000 }

/-- The fields of a millisecond count, for any count. -/
def ofMillisUnbounded (millis : Int) : Fields :=
  ofDay (millis / 86400000) ((millis % 86400000).toNat * 1000000)

/-- The fields of a millisecond count. Counts outside the supported years become the
first or the last moment of them. -/
def ofMillis (millis : Int) : Fields :=
  let day := millis / 86400000
  if day < firstDay then ofDay firstDay 0
  else if lastDay < day then ofDay lastDay 86399999999999
  else ofMillisUnbounded millis

/-- Whole seconds from the beginning of 1970. -/
def timestamp (f : Fields) : Int :=
  f.date.toDays * secondsPerDay + (f.hour * 3600 + f.minute * 60 + f.second : Nat)

end Fields
end DataGrid.Calendar
