import DataGrid.Number.Binary64
import DataGrid.Text.Digits

/-!
# DataGrid.Number.Reading -- numbers in text

Integers and doubles that stand alone in a text: an optional sign of either kind and then
digits, without white space. A double may have a point, with digits on at least one side of
it, and an exponent; it is the nearest one. The special values go by their names in any
letter case.
-/

namespace DataGrid

/-- An optional sign, and the characters behind it. -/
def splitSign : List Char → Bool × List Char
  | '-' :: rest => (true, rest)
  | '+' :: rest => (false, rest)
  | cs => (false, cs)

/-- The integer of characters. -/
def integerOfChars? (cs : List Char) : Option Int :=
  let (negative, digits) := splitSign cs
  (Text.natural? digits).map fun n => if negative then -(n : Int) else (n : Int)

/-- The integer of a text, if it lies within two bounds. -/
def integerWithin? (low high : Int) (text : String) : Option Int :=
  (integerOfChars? text.toList).filter fun n => decide (low ≤ n) && decide (n ≤ high)

namespace Binary64

/-- The exponent that begins with the letter; no characters are the exponent zero. -/
def exponent? : List Char → Option Int
  | [] => some 0
  | letter :: rest => if letter = 'e' ∨ letter = 'E' then integerOfChars? rest else none

/-- A number in digits without its sign. -/
def ofDigits? (negative : Bool) (cs : List Char) : Option Binary64 := do
  let whole := cs.takeWhile Char.isDigit
  let (fraction, rest) := match cs.dropWhile Char.isDigit with
    | '.' :: rest => (rest.takeWhile Char.isDigit, rest.dropWhile Char.isDigit)
    | rest => ([], rest)
  let digits ← Text.natural? (whole ++ fraction)
  let exponent ← exponent? rest
  return ofDecimal negative digits (exponent - fraction.length)

/-- The double that characters denote. -/
def ofChars? (cs : List Char) : Option Binary64 :=
  let (negative, rest) := splitSign cs
  let name := rest.map Char.toLower
  if name = "inf".toList ∨ name = "infinity".toList then some (infinity negative)
  else if name = "nan".toList then some nan
  else ofDigits? negative rest

/-- The double that a text denotes. -/
def ofText? (text : String) : Option Binary64 := ofChars? text.toList

end Binary64
end DataGrid
