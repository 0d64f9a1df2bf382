import DataGrid.Calendar.Reading

/-!
# DataGrid.Calendar.Exchange -- date-times in exchanged documents

The internet shape as documents in exchange use it. It differs from the one in conditions:
any ASCII character may stand between date and time, a second 60 is accepted only where
one can be inserted, at the very end of a month in UTC, and counts as the last nanosecond
before it, and milliseconds are rounded toward 1970.
-/

namespace DataGrid.Calendar.Exchange

open Reading (Reader number char fraction)

/-- One ASCII character. -/
def anyAscii : List Char → Option (List Char)
  | c :: rest => if c.toNat < 128 then some rest else none
  | [] => none

/-- `Z` in either case, or an offset of less than a day. -/
def zone : Reader Int
  | 'Z' :: rest | 'z' :: rest => some (0, rest)
  | '+' :: rest => Reading.offset (char ':') ('+' :: rest)
  | '-' :: rest => Reading.offset (char ':') ('-' :: rest)
  | _ => none

/-- The last nanosecond of the last day of a month. -/
def isEndOfMonth (t : Instant) : Bool :=
  let date := Date.ofDays (t.seconds / secondsPerDay)
  t.seconds % secondsPerDay = 86399 && t.nanos = 999999999 &&
    date.day = monthLength date.year date.month

/-- The instant of fields in which the second may be 60. -/
def instant? (f : Fields) (offset : Int) : Option Instant :=
  if f.second = 60 then
    (Fields.toInstant? { f with second := 59, nanos := 999999999 } offset).filter isEndOfMonth
  else f.toInstant? offset

/-- The instant that a text names. -/
def ofChars? (cs : List Char) : Option Instant := do
  let (year, cs) ← number 4 4 cs
  let cs ← char '-' cs
  let (month, cs) ← number 2 2 cs
  let cs ← char '-' cs
  let (day, cs) ← number 2 2 cs
  let cs ← anyAscii cs
  let (hour, cs) ← number 2 2 cs
  let cs ← char ':' cs
  let (minute, cs) ← number 2 2 cs
  let cs ← char ':' cs
  let (second, cs) ← number 2 2 cs
  let (nanos, cs) ← fraction cs
  let (zoneOffset, cs) ← zone cs
  if cs.isEmpty then instant? ⟨⟨year, month, day⟩, hour, minute, second, nanos⟩ zoneOffset
  else none

/-- The milliseconds of a text, rounded toward zero. -/
def millis? (text : String) : Option Int :=
  (ofChars? text.toList).map fun t =>
    Int.tdiv (t.seconds * 1000000000 + (t.nanos : Int)) 1000000

end DataGrid.Calendar.Exchange
