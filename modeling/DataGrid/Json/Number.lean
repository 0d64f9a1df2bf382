import DataGrid.Number.Binary64
import DataGrid.Text.Digits

/-!
# DataGrid.Json.Number -- number literals

A literal is a sign, a whole part without leading zeros, and possibly a fraction and an
exponent. What it stands for depends on its form: without fraction and exponent it is an
integer if it fits into 64 bits, and in all other cases it is a double.

The double of a literal is found with little precision to spare. Digits count as long as
the significand fits into 64 bits; the significand is rounded to a double, and that double
is multiplied or divided by a power of ten that is rounded too. So the double may be off
from the nearest one by a unit or two in the last place.
-/

namespace DataGrid.Json

/-- What a literal stands for. -/
inductive Number where
  | natural (value : UInt64)
  | negative (value : Int64)
  | double (value : Binary64)
deriving DecidableEq, Repr

/-- The parts of a literal. -/
structure Literal where
  negative : Bool
  whole : List Char
  fraction : List Char
  /-- The exponent, if one is written. -/
  exponent : Option Int
deriving DecidableEq, Repr

namespace Literal

open Text (digitValue digitsValue)

/-! ## Parts -/

/-- A whole part: no digits in front of it that do not count. -/
def isWhole : List Char → Bool
  | [] => false
  | ['0'] => true
  | '0' :: _ => false
  | _ :: _ => true

/-- The exponent that begins with the letter; `none` when it is malformed. -/
def exponent? : List Char → Option (Option Int)
  | [] => some none
  | letter :: rest =>
    let (negative, digits) := match rest with
      | '-' :: digits => (true, digits)
      | '+' :: digits => (false, digits)
      | digits => (false, digits)
    if (letter = 'e' ∨ letter = 'E') ∧ digits ≠ [] ∧ digits.all Char.isDigit then
      let value : Int := digitsValue digits
      some (some (if negative then -value else value))
    else none

/-- The parts of the characters of a literal. -/
def ofChars? (cs : List Char) : Option Literal := do
  let (negative, cs) := match cs with
    | '-' :: rest => (true, rest)
    | rest => (false, rest)
  let whole := cs.takeWhile Char.isDigit
  if !isWhole whole then none
  match cs.dropWhile Char.isDigit with
  | '.' :: rest =>
    let fraction := rest.takeWhile Char.isDigit
    if fraction.isEmpty then none
    return ⟨negative, whole, fraction, ← exponent? (rest.dropWhile Char.isDigit)⟩
  | rest => return ⟨negative, whole, [], ← exponent? rest⟩

/-! ## Doubles -/

/-- Adds the digits of the whole part to a significand while it fits into 64 bits, and
counts those that are left over. -/
def addWhole (significand : Nat) : List Char → Nat × Nat
  | [] => (significand, 0)
  | c :: rest =>
    let next := significand * 10 + digitValue c
    if next < UInt64.size then addWhole next rest else (significand, rest.length + 1)

/-- Adds the digits of the fraction while the significand fits into 64 bits, and counts
those that were added. -/
def addFraction (significand : Nat) : List Char → Nat × Nat
  | [] => (significand, 0)
  | c :: rest =>
    let next := significand * 10 + digitValue c
    if next < UInt64.size then
      let (significand, added) := addFraction next rest
      (significand, added + 1)
    else (significand, 0)

/-- The greatest exponent of a power of ten that is a double. -/
def greatestPower : Nat := 308

/-- A power of ten as a double. -/
def powerOfTen (exponent : Nat) : Binary64 := .ofDecimal false 1 exponent

/-- A significand times a power of ten; nothing when that is too large for a double. Powers
that are too small for one division take two, and what is smaller still is zero. -/
def scale? (significand : Nat) (exponent : Int) : Option Binary64 :=
  let start := Binary64.ofInt significand
  let size := exponent.natAbs
  if 0 ≤ exponent then
    if size ≤ greatestPower then
      let product := start.mul (powerOfTen size)
      if product.isInfinite then none else some product
    else if significand = 0 then some .zero
    else none
  else if size ≤ greatestPower then some (start.div (powerOfTen size))
  else if size ≤ 2 * greatestPower then
    some ((start.div (powerOfTen greatestPower)).div (powerOfTen (size - greatestPower)))
  else some .zero

/-- The double of a literal, if there is one. -/
def double? (l : Literal) : Option Binary64 :=
  let (significand, left) := addWhole 0 l.whole
  let (significand, added) := addFraction significand l.fraction
  (scale? significand (left - added + l.exponent.getD 0)).map fun x =>
    Binary64.ofMagnitude l.negative x.magnitude

/-! ## Values -/

/-- A literal without fraction and exponent that is an integer of 64 bits. Zero with a sign
is none. -/
def integer? (l : Literal) : Option Number :=
  if l.fraction.isEmpty && l.exponent.isNone then
    let size := digitsValue l.whole
    if l.negative then
      if 0 < size ∧ Int64.minValue.toInt ≤ -(size : Int) then
        some (.negative (Int64.ofInt (-(size : Int))))
      else none
    else if size < UInt64.size then some (.natural (UInt64.ofNat size))
    else none
  else none

end Literal

/-- What a literal stands for; nothing when it is malformed or too large. -/
def Number.ofLiteral? (cs : List Char) : Option Number := do
  let literal ← Literal.ofChars? cs
  match literal.integer? with
  | some number => some number
  | none => literal.double?.map .double

end DataGrid.Json
