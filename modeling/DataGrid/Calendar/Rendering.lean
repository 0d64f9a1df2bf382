import DataGrid.Calendar.Format
import DataGrid.Calendar.Instant

/-!
# DataGrid.Calendar.Rendering -- date-times by format

Writes the fields of a moment in UTC item by item. Years outside 0 to 9999 carry a sign,
and names are English. The only item that cannot be written is the one meant for reading.
-/

namespace DataGrid.Calendar

namespace Rendering

/-- Fills a text on the left. -/
def padLeft (width : Nat) (fill : Char) (text : String) : String :=
  String.ofList (List.replicate (width - text.length) fill) ++ text

/-- At least `width` digits of a natural number. -/
def digits (width : Nat) (value : Nat) : String := padLeft width '0' (toString value)

/-- A number of one or two digits. Values come as one byte: a tens digit above nine is the
character that many places behind `0`. -/
def twoPlaces (padding : Padding) (value : Nat) : String :=
  let ones := Char.ofNat ('0'.toNat + value % 10)
  match value / 10, padding with
  | 0, .none => String.ofList [ones]
  | 0, .space => String.ofList [' ', ones]
  | tens, _ => String.ofList [Char.ofNat ('0'.toNat + tens), ones]

/-- A number of at least `width` places, with a sign in front if asked for. A sign takes a
place of its own. -/
def wide (width : Nat) (padding : Padding) (signed : Bool) (value : Int) : String :=
  let sign := if value < 0 then "-" else if signed then "+" else ""
  let body := toString value.natAbs
  let full := if signed then width + 1 else width
  match padding with
  | .none => sign ++ body
  | .zero => sign ++ padLeft (full - sign.length) '0' body
  | .space => padLeft full ' ' (sign ++ body)

/-- A year of at least four places, signed when it has more or is negative. -/
def year (padding : Padding) (value : Int) : String :=
  wide 4 padding (decide (value < 0) || decide (9999 < value)) value

def longWeekdays : List String :=
  ["Monday", "Tuesday", "Wednesday", "Thursday", "Friday", "Saturday", "Sunday"]

def longMonths : List String :=
  ["January", "February", "March", "April", "May", "June", "July", "August", "September",
   "October", "November", "December"]

/-- The first three letters of a name. -/
def short (name : String) : String := String.ofList (name.toList.take 3)

/-- The hour on a clock of twelve hours. -/
def hourOfHalf (hour : Nat) : Nat := if hour % 12 = 0 then 12 else hour % 12

def number (f : Fields) (field : NumberField) (padding : Padding) : String :=
  match field with
  | .year => year padding f.date.year
  | .century => twoPlaces padding (f.date.year / 100 % 256).toNat
  | .yearOfCentury => twoPlaces padding (f.date.year % 100).toNat
  | .isoYear => year padding f.date.isoWeek.1
  | .isoYearOfCentury => twoPlaces padding (f.date.isoWeek.1 % 100).toNat
  | .quarter => digits 1 f.date.quarter
  | .month => twoPlaces padding f.date.month
  | .day => twoPlaces padding f.date.day
  | .weekFromSunday => twoPlaces padding f.date.weekFromSunday
  | .weekFromMonday => twoPlaces padding f.date.weekFromMonday
  | .isoWeek => twoPlaces padding f.date.isoWeek.2
  | .weekdayFromSunday => digits 1 f.date.weekdayFromSunday
  | .weekdayFromMonday => digits 1 (f.date.weekday + 1)
  | .ordinal => wide 3 padding false f.date.ordinal
  | .hour => twoPlaces padding f.hour
  | .hourOfHalf => twoPlaces padding (hourOfHalf f.hour)
  | .minute => twoPlaces padding f.minute
  | .second => twoPlaces padding f.second
  | .nanosecond => wide 9 padding false f.nanos
  | .timestamp => wide 9 padding false f.timestamp

/-- The fraction of a second in the fewest groups of three digits, with its point. -/
def fraction (nanos : Nat) : String :=
  if nanos = 0 then ""
  else if nanos % 1000000 = 0 then "." ++ digits 3 (nanos / 1000000)
  else if nanos % 1000 = 0 then "." ++ digits 6 (nanos / 1000)
  else "." ++ digits 9 nanos

/-- The internet shape, with as much of the fraction as is needed. -/
def internet (f : Fields) : String :=
  year .zero f.date.year ++ "-" ++ digits 2 f.date.month ++ "-" ++ digits 2 f.date.day ++ "T" ++
    digits 2 f.hour ++ ":" ++ digits 2 f.minute ++ ":" ++ digits 2 f.second ++
    fraction f.nanos ++ "+00:00"

def text? (f : Fields) : TextField → Option String
  | .shortMonth => some (short (longMonths.getD (f.date.month - 1) ""))
  | .longMonth => some (longMonths.getD (f.date.month - 1) "")
  | .shortWeekday => some (short (longWeekdays.getD f.date.weekday ""))
  | .longWeekday => some (longWeekdays.getD f.date.weekday "")
  | .lowerHalf => some (if f.hour < 12 then "am" else "pm")
  | .upperHalf => some (if f.hour < 12 then "AM" else "PM")
  | .fraction => some (fraction f.nanos)
  | .fixedFraction point places =>
    some ((if point then "." else "") ++ digits places (f.nanos / Nat.pow 10 (9 - places)))
  | .zoneName => some "UTC"
  | .offset .compact => some "+0000"
  | .offset .colon => some "+00:00"
  | .offset .seconds => some "+00:00:00"
  | .offset .hours => some "+00"
  | .internet => some (internet f)
  | .readOnlyOffset => none

def item? (f : Fields) : FormatItem → Option String
  | .literal c => some (String.ofList [c])
  | .number field padding => some (number f field padding)
  | .text field => text? f field

end Rendering

/-- Writes the items one behind the other, or nothing if one cannot be written. -/
def render? (f : Fields) : List FormatItem → Option String
  | [] => some ""
  | item :: items => do
    let head ← Rendering.item? f item
    return head ++ (← render? f items)

end DataGrid.Calendar
