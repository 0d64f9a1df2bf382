import DataGrid.Number.Shortest

/-!
# DataGrid.Number.Layout -- writing doubles

The two written forms of a double differ only in layout, and a layout is one record:
which exponents are written in positional notation, whether an integer keeps `.0`, how a
tie between two shortest decimals goes, and how the special values read.

* `Layout.plain` is the form inside text patterns and case conversions: positional for
  every exponent, no `.0`.
* `Layout.json` is the form in JSON text: positional from `1e-5` to `1e15`, otherwise one
  digit before the point and a signed exponent; every number shows that it is a double.
-/

namespace DataGrid

/-- How a double is written. The exponent meant in `positional` is that of scientific
notation: the power of ten of the first digit. -/
structure Layout where
  tie : Tie
  /-- First and last exponent in positional notation; `none` for all. -/
  positional : Option (Int × Int)
  /-- Integers in positional notation end in `.0`. -/
  pointZero : Bool
  nan : String
  infinity : String
  negativeInfinity : String

namespace Layout

/-- Positional notation whatever the size, integers without a point. -/
def plain : Layout :=
  { tie := .toUpper, positional := none, pointZero := false,
    nan := "NaN", infinity := "inf", negativeInfinity := "-inf" }

/-- JSON numbers that read back as doubles; the values JSON lacks become `null`. -/
def json : Layout :=
  { tie := .toEven, positional := some (-5, 15), pointZero := true,
    nan := "null", infinity := "null", negativeInfinity := "null" }

/-- The text of `count` zeros. -/
def zeros (count : Nat) : String := String.ofList (List.replicate count '0')

/-- Digits with the point after `position` of them; a position before the first digit or
behind the last is reached with zeros. -/
def positionalText (pointZero : Bool) (digits : List Char) (position : Int) : String :=
  if position ≤ 0 then "0." ++ zeros (-position).toNat ++ String.ofList digits
  else if position ≥ digits.length then
    String.ofList digits ++ zeros (position.toNat - digits.length) ++
      if pointZero then ".0" else ""
  else
    String.ofList (digits.take position.toNat) ++ "." ++
      String.ofList (digits.drop position.toNat)

/-- One digit, the others after a point, and the exponent with its sign. -/
def scientificText (digits : List Char) (exponent : Int) : String :=
  let mantissa := match digits with
    | [] => "0"
    | [first] => String.ofList [first]
    | first :: rest => String.ofList (first :: '.' :: rest)
  mantissa ++ "e" ++ (if exponent < 0 then "-" else "+") ++ toString exponent.natAbs

/-- The text of a double. -/
def write (layout : Layout) (x : Binary64) : String :=
  if x.isNaN then layout.nan
  else if x.isInfinite then
    if x.negative then layout.negativeInfinity else layout.infinity
  else
    let sign := if x.negative then "-" else ""
    if x.isZero then sign ++ (if layout.pointZero then "0.0" else "0")
    else
      let decimal := x.shortest layout.tie
      let digits := (toString decimal.digits).toList
      let position := decimal.exponent + digits.length
      let inPositional := match layout.positional with
        | none => true
        | some (first, last) => decide (first ≤ position - 1) && decide (position - 1 ≤ last)
      sign ++ if inPositional then positionalText layout.pointZero digits position
        else scientificText digits (position - 1)

end Layout
end DataGrid
