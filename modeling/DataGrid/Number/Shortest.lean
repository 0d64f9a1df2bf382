import DataGrid.Number.Binary64

/-!
# DataGrid.Number.Shortest -- the fewest digits that read back

Every finite double owns an interval of reals that round to it. The decimal chosen here
lies in that interval, has as few digits as any that does, and among those of its length
is the one nearest to the double. The search walks the decimal grids from coarse to fine;
on each grid only the two neighbours of the double can be hits, because the interval
contains the double.

All comparisons are between natural numbers over one common denominator, so nothing is
rounded on the way. What the two callers do with a decimal that lies exactly half way
between its neighbours is a parameter (`Tie`); how the digits are laid out is the business
of `DataGrid.Number.Layout`.
-/

namespace DataGrid

/-- The positive decimal `digits * 10 ^ exponent`. -/
structure Decimal where
  digits : Nat
  exponent : Int
deriving DecidableEq, Repr, Inhabited

/-- Which neighbour is taken when both are equally near. -/
inductive Tie where
  | toUpper
  | toEven
deriving DecidableEq, Repr

namespace Decimal

/-- Drops up to `fuel` trailing zeros of the digits. -/
def stripZeros : Nat → Decimal → Decimal
  | 0, d => d
  | fuel + 1, d =>
    if d.digits ≠ 0 ∧ d.digits % 10 = 0 then stripZeros fuel ⟨d.digits / 10, d.exponent + 1⟩
    else d

end Decimal

namespace Binary64

/-- The reals that round to a positive finite double, as numerators over four times
`2 ^ 1074`; the ends belong to it when the significand is even. -/
structure RoundingInterval where
  low : Nat
  value : Nat
  high : Nat
  closed : Bool

/-- Half a unit on either side, but a quarter below a power of two, where the doubles
beneath lie twice as close. -/
def roundingInterval (x : Binary64) : RoundingInterval :=
  let unit := Nat.pow 2 x.unitExponent
  let value := 4 * x.significand * unit
  let below := if x.significand = exponentWeight ∧ 0 < x.unitExponent then unit else 2 * unit
  { low := value - below, value := value, high := value + 2 * unit,
    closed := decide (x.significand % 2 = 0) }

/-- The common denominator of the interval. -/
def intervalDenominator : Nat := 4 * unitsInOne

/-- The grid of the multiples of `10 ^ exponent`: what the numerators are multiplied by,
and the step between neighbours then. -/
def gridScale (exponent : Int) : Nat × Nat :=
  if exponent ≥ 0 then (1, intervalDenominator * Nat.pow 10 exponent.toNat)
  else (Nat.pow 10 (-exponent).toNat, intervalDenominator)

/-- The nearest point of one grid that lies in the interval, if any does. -/
def gridPoint? (interval : RoundingInterval) (tie : Tie) (exponent : Int) : Option Nat :=
  let (scale, step) := gridScale exponent
  let value := interval.value * scale
  let inside (point : Nat) : Bool :=
    let place := point * step
    if interval.closed then
      decide (interval.low * scale ≤ place) && decide (place ≤ interval.high * scale)
    else decide (interval.low * scale < place) && decide (place < interval.high * scale)
  let lower := value / step
  let upper := lower + 1
  match inside lower, inside upper with
  | false, false => none
  | true, false => some lower
  | false, true => some upper
  | true, true =>
    let toLower := value - lower * step
    let toUpper := upper * step - value
    if toLower < toUpper then some lower
    else if toUpper < toLower then some upper
    else match tie with
      | .toUpper => some upper
      | .toEven => if lower % 2 = 0 then some lower else some upper

/-- The least `position` with `value < 10 ^ position`, found upward from an estimate that
is at most a few too small. -/
def decimalPosition (value : Nat) : Nat → Int → Int
  | 0, position => position
  | fuel + 1, position =>
    let (scale, step) := gridScale position
    if value * scale < step then position else decimalPosition value fuel (position + 1)

/-- Walks the grids of `count`, `count + 1`, ... digits and stops at the first hit. -/
def firstGridPoint (interval : RoundingInterval) (tie : Tie) (position : Int) :
    Nat → Nat → Decimal
  | 0, count => ⟨interval.value * (gridScale (position - count)).1 /
      (gridScale (position - count)).2, position - count⟩
  | fuel + 1, count =>
    match gridPoint? interval tie (position - count) with
    | some point => ⟨point, position - count⟩
    | none => firstGridPoint interval tie position fuel (count + 1)

/-- The shortest decimal that rounds to the absolute value of a finite double other than
zero. Seventeen digits always suffice. -/
def shortest (tie : Tie) (x : Binary64) : Decimal :=
  let interval := x.roundingInterval
  let binaryPlace : Int := (Nat.log2 interval.value : Int) - 1076
  let position := decimalPosition interval.value 8 (binaryPlace * 30103 / 100000 - 2)
  (firstGridPoint interval tie position 17 1).stripZeros 20

end Binary64
end DataGrid
