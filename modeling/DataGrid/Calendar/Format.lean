import DataGrid.Text.Blank

/-!
# DataGrid.Calendar.Format -- date format strings

A format string is text with directives: a percent sign, an optional padding mark, and a
letter. It is read once into a list of items; a string that holds anything unknown is
refused as a whole. Some directives stand for several items. A padding mark is allowed in
front of a single number only.

Writing the items of a format is `DataGrid.Calendar.Rendering`.
-/

namespace DataGrid.Calendar

/-- What fills a number up to its width. -/
inductive Padding where
  | none
  | space
  | zero
deriving DecidableEq, Repr

/-- Numbers that a date-time has. -/
inductive NumberField where
  | year
  | century
  | yearOfCentury
  | isoYear
  | isoYearOfCentury
  | quarter
  | month
  | day
  | weekFromSunday
  | weekFromMonday
  | isoWeek
  | weekdayFromSunday
  | weekdayFromMonday
  | ordinal
  | hour
  | hourOfHalf
  | minute
  | second
  | nanosecond
  | timestamp
deriving DecidableEq, Repr

/-- How much of a zone offset is written. -/
inductive OffsetStyle where
  | compact
  | colon
  | seconds
  | hours
deriving DecidableEq, Repr

/-- Parts of a date-time that are not plain numbers. -/
inductive TextField where
  | shortMonth
  | longMonth
  | shortWeekday
  | longWeekday
  | lowerHalf
  | upperHalf
  | fraction
  | fixedFraction (point : Bool) (digits : Nat)
  | zoneName
  | offset (style : OffsetStyle)
  | internet
  /-- An offset with optional minutes has a meaning for reading only. -/
  | readOnlyOffset
deriving DecidableEq, Repr

/-- One item of a format. -/
inductive FormatItem where
  | literal (c : Char)
  | number (field : NumberField) (padding : Padding)
  | text (field : TextField)
deriving DecidableEq, Repr

namespace Format

open FormatItem

def zeroPadded (field : NumberField) : FormatItem := .number field .zero
def spacePadded (field : NumberField) : FormatItem := .number field .space
def unpadded (field : NumberField) : FormatItem := .number field .none

def clock : List FormatItem :=
  [zeroPadded .hour, literal ':', zeroPadded .minute, literal ':', zeroPadded .second]

def americanDate : List FormatItem :=
  [zeroPadded .month, literal '/', zeroPadded .day, literal '/', zeroPadded .yearOfCentury]

/-- The items of a directive that is a single letter. -/
def letter? : Char → Option (List FormatItem)
  | 'A' => some [text .longWeekday]
  | 'B' => some [text .longMonth]
  | 'C' => some [zeroPadded .century]
  | 'D' | 'x' => some americanDate
  | 'F' => some [zeroPadded .year, literal '-', zeroPadded .month, literal '-', zeroPadded .day]
  | 'G' => some [zeroPadded .isoYear]
  | 'H' => some [zeroPadded .hour]
  | 'I' => some [zeroPadded .hourOfHalf]
  | 'M' => some [zeroPadded .minute]
  | 'P' => some [text .lowerHalf]
  | 'R' => some [zeroPadded .hour, literal ':', zeroPadded .minute]
  | 'S' => some [zeroPadded .second]
  | 'T' | 'X' => some clock
  | 'U' => some [zeroPadded .weekFromSunday]
  | 'V' => some [zeroPadded .isoWeek]
  | 'W' => some [zeroPadded .weekFromMonday]
  | 'Y' => some [zeroPadded .year]
  | 'Z' => some [text .zoneName]
  | 'a' => some [text .shortWeekday]
  | 'b' | 'h' => some [text .shortMonth]
  | 'c' => some ([text .shortWeekday, literal ' ', text .shortMonth, literal ' ',
      spacePadded .day, literal ' '] ++ clock ++ [literal ' ', zeroPadded .year])
  | 'd' => some [zeroPadded .day]
  | 'e' => some [spacePadded .day]
  | 'f' => some [zeroPadded .nanosecond]
  | 'g' => some [zeroPadded .isoYearOfCentury]
  | 'j' => some [zeroPadded .ordinal]
  | 'k' => some [spacePadded .hour]
  | 'l' => some [spacePadded .hourOfHalf]
  | 'm' => some [zeroPadded .month]
  | 'n' => some [literal '\n']
  | 'p' => some [text .upperHalf]
  | 'q' => some [unpadded .quarter]
  | 'r' => some [zeroPadded .hourOfHalf, literal ':', zeroPadded .minute, literal ':',
      zeroPadded .second, literal ' ', text .upperHalf]
  | 's' => some [unpadded .timestamp]
  | 't' => some [literal '\t']
  | 'u' => some [unpadded .weekdayFromMonday]
  | 'v' => some [spacePadded .day, literal '-', text .shortMonth, literal '-', zeroPadded .year]
  | 'w' => some [unpadded .weekdayFromSunday]
  | 'y' => some [zeroPadded .yearOfCentury]
  | 'z' => some [text (.offset .compact)]
  | '+' => some [text .internet]
  | '%' => some [literal '%']
  | _ => none

/-- The items of a directive, from the characters behind the percent sign and the padding
mark, and the characters behind the directive. -/
def directive? : List Char → Option (List FormatItem × List Char)
  | ':' :: ':' :: ':' :: 'z' :: rest => some ([text (.offset .hours)], rest)
  | ':' :: ':' :: 'z' :: rest => some ([text (.offset .seconds)], rest)
  | ':' :: 'z' :: rest => some ([text (.offset .colon)], rest)
  | '.' :: 'f' :: rest => some ([text .fraction], rest)
  | '.' :: '3' :: 'f' :: rest => some ([text (.fixedFraction true 3)], rest)
  | '.' :: '6' :: 'f' :: rest => some ([text (.fixedFraction true 6)], rest)
  | '.' :: '9' :: 'f' :: rest => some ([text (.fixedFraction true 9)], rest)
  | '3' :: 'f' :: rest => some ([text (.fixedFraction false 3)], rest)
  | '6' :: 'f' :: rest => some ([text (.fixedFraction false 6)], rest)
  | '9' :: 'f' :: rest => some ([text (.fixedFraction false 9)], rest)
  | '#' :: 'z' :: rest => some ([text .readOnlyOffset], rest)
  | c :: rest => (letter? c).map (·, rest)
  | [] => none

/-- Replaces the padding of a directive that is a single number. -/
def repad? (padding : Padding) : List FormatItem → Option (List FormatItem)
  | [.number field _] => some [.number field padding]
  | _ => none

/-- A directive behind a padding mark. The alternate form takes no mark. -/
def padded? (padding : Padding) (cs : List Char) : Option (List FormatItem × List Char) := do
  let (items, rest) ← directive? cs
  return (← repad? padding items, rest)

/-- What follows a percent sign. -/
def afterPercent? : List Char → Option (List FormatItem × List Char)
  | '-' :: rest => padded? .none rest
  | '_' :: rest => padded? .space rest
  | '0' :: rest => padded? .zero rest
  | cs => directive? cs

/-- Reads at most `fuel` items; every item takes at least one character. -/
def itemsWithin? : (fuel : Nat) → List Char → Option (List FormatItem)
  | _, [] => some []
  | 0, _ :: _ => none
  | fuel + 1, '%' :: rest => do
    let (items, rest) ← afterPercent? rest
    return items ++ (← itemsWithin? fuel rest)
  | fuel + 1, c :: rest => (itemsWithin? fuel rest).map (.literal c :: ·)

/-- The items of a format string, or nothing if it is not one. -/
def items? (format : String) : Option (List FormatItem) :=
  itemsWithin? format.toList.length format.toList

end Format
end DataGrid.Calendar
