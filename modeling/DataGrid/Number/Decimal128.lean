import DataGrid.Text.Digits

/-!
# DataGrid.Number.Decimal128 -- thirty-four digit decimals

A decimal is kept as its coefficient and exponent, not as a value: `1.0` and `1.00` are
different numbers here, and both differ from `1`. Reading never rounds. A text with more
than thirty-four digits, or an exponent out of range, is accepted only when zeros can be
moved between coefficient and exponent to make it fit.

Writing chooses positional notation for exponents up to zero with at most six zeros after
the point, and scientific notation otherwise.
-/

namespace DataGrid

/-- What a decimal is apart from its sign. -/
inductive Decimal128.Kind where
  | nan (signalling : Bool)
  | infinity
  | finite (coefficient : Nat) (exponent : Int)
deriving DecidableEq, Repr

/-- A signed decimal of up to thirty-four digits. -/
structure Decimal128 where
  negative : Bool
  kind : Decimal128.Kind
deriving DecidableEq, Repr

namespace Decimal128

def maxDigits : Nat := 34
def minExponent : Int := -6176
def maxExponent : Int := 6111

/-! ## Reading -/

/-- A signed exponent of at most sixteen bits. -/
def exponentValue? (cs : List Char) : Option Int :=
  let value? : Option Int := match cs with
    | '-' :: rest => (Text.natural? rest).map fun n => -(n : Int)
    | '+' :: rest => (Text.natural? rest).map fun n => (n : Int)
    | rest => (Text.natural? rest).map fun n => (n : Int)
  value?.filter fun value => decide (-32768 ≤ value) && decide (value ≤ 32767)

/-- The first `precision` digits, if nothing but zeros is cut off. -/
def cutZeros? (precision : Nat) (digits : List Char) : Option (List Char) :=
  if (digits.drop precision).all (· == '0') then some (digits.take precision) else none

/-- An unsigned coefficient; a plus sign in front is tolerated. -/
def coefficient? : List Char → Option Nat
  | '+' :: rest => Text.natural? rest
  | digits => Text.natural? digits

/-- Fits digits and exponent into the format by moving zeros between them. -/
def fit? (digits : List Char) (exponent : Int) : Option Kind := do
  let digits := match digits.dropWhile (· == '0') with
    | [] => ['0']
    | kept => kept
  let length := digits.length
  let digits ← if length > maxDigits then cutZeros? maxDigits digits else some digits
  let exponent := exponent + (length - digits.length : Nat)
  if exponent > 32767 then none else
  if exponent < minExponent then
    if digits = ['0'] then some (.finite 0 minExponent)
    else
      let missing := (minExponent - exponent).toNat
      if digits.length < missing then none
      else
        let kept ← cutZeros? (digits.length - missing) digits
        return .finite (← coefficient? kept) minExponent
  else if exponent > maxExponent then
    if digits = ['0'] then some (.finite 0 maxExponent)
    else
      let extra := (exponent - maxExponent).toNat
      if digits.length + extra > maxDigits then none
      else return .finite (← coefficient? (digits ++ List.replicate extra '0')) maxExponent
  else return .finite (← coefficient? digits) exponent

/-- The number without its sign, from text in lower case. -/
def kind? (cs : List Char) : Option Kind :=
  if cs = "nan".toList then some (.nan false)
  else if cs = "snan".toList then some (.nan true)
  else if cs = "infinity".toList ∨ cs = "inf".toList then some .infinity
  else do
    let mantissa := cs.takeWhile (· != 'e')
    let exponent ← match cs.dropWhile (· != 'e') with
      | [] => some 0
      | _ :: rest => exponentValue? rest
    match mantissa.dropWhile (· != '.') with
    | [] => fit? mantissa exponent
    | _ :: fraction =>
      let exponent := exponent - fraction.length
      if exponent < -32768 then none
      else fit? (mantissa.takeWhile (· != '.') ++ fraction) exponent

/-- Reads a decimal: an optional sign, then digits with an optional point and exponent,
or one of the special values, in any letter case. -/
def ofText? (text : String) : Option Decimal128 :=
  match text.toList.map Char.toLower with
  | '-' :: rest => (kind? rest).map (⟨true, ·⟩)
  | '+' :: rest => (kind? rest).map (⟨false, ·⟩)
  | rest => (kind? rest).map (⟨false, ·⟩)

/-! ## Writing -/

/-- The text of a finite decimal without its sign. -/
def finiteText (coefficient : Nat) (exponent : Int) : String :=
  let digits := (toString coefficient).toList
  let adjusted := exponent + digits.length - 1
  if exponent ≤ 0 ∧ adjusted ≥ -6 then
    let places := (-exponent).toNat
    if places = 0 then String.ofList digits
    else if places ≥ digits.length then
      "0." ++ String.ofList (List.replicate (places - digits.length) '0') ++
        String.ofList digits
    else
      String.ofList (digits.take (digits.length - places)) ++ "." ++
        String.ofList (digits.drop (digits.length - places))
  else
    let mantissa := match digits with
      | [] => ""
      | [first] => String.ofList [first]
      | first :: rest => String.ofList (first :: '.' :: rest)
    mantissa ++ "E" ++ (if adjusted > 0 then "+" else "") ++ toString adjusted

/-- Writes a decimal. Not-a-number carries no sign. -/
def toText (d : Decimal128) : String :=
  let sign := if d.negative then "-" else ""
  match d.kind with
  | .nan _ => "NaN"
  | .infinity => sign ++ "Infinity"
  | .finite coefficient exponent => sign ++ finiteText coefficient exponent

end Decimal128
end DataGrid
