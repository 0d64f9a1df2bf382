/-
# DataGrid.Number.Binary64 -- double precision numbers as words

A double is the 64-bit word that encodes it, and every operation below is exact
integer arithmetic on the fields of that word followed, where a result has to be
rounded, by one rounding to nearest with ties to the even significand.

* `rank` turns the order of doubles into the order of integers: the magnitude
  bits of a word grow with the number, so a sign in front of them is enough.
* `ofRatio` is the only rounding. Sums, quotients, integers and decimal texts
  all go through it.

Covered: comparison, conversion from and to integers, addition, division by a count, and
products and quotients of finite numbers. Not covered: the remaining arithmetic, which
nothing in this library needs.
-/

namespace DataGrid

/-- A double precision number, given by its encoding: one sign bit, eleven exponent
bits, fifty-two fraction bits. -/
structure Binary64 where
  bits : UInt64
deriving DecidableEq, Repr, Inhabited

namespace Binary64

/-! ## Fields of the word -/

/-- The weight of the sign bit: `2 ^ 63`. -/
def signWeight : Nat := 0x8000000000000000

/-- The weight of the lowest exponent bit: `2 ^ 52`. It is also what a normal number has in
its significand above the fraction bits. -/
def exponentWeight : Nat := 0x10000000000000

/-- How many of the smallest units, `2 ^ -1074`, make one. -/
def unitsInOne : Nat := Nat.pow 2 1074

/-- The sign bit. -/
def negative (x : Binary64) : Bool := decide (signWeight ≤ x.bits.toNat)

/-- Everything below the sign bit. It grows with the absolute value. -/
def magnitude (x : Binary64) : Nat := x.bits.toNat % signWeight

/-- The magnitude of the infinities; what lies above it is not a number. -/
def infiniteMagnitude : Nat := 2047 * exponentWeight

/-- The double with a given sign and magnitude. -/
def ofMagnitude (negative : Bool) (magnitude : Nat) : Binary64 :=
  ⟨UInt64.ofNat ((if negative then signWeight else 0) + magnitude % signWeight)⟩

def zero : Binary64 := ofMagnitude false 0

/-- The one not-a-number that computations here produce. -/
def nan : Binary64 := ofMagnitude false (infiniteMagnitude + exponentWeight / 2)

def infinity (negative : Bool) : Binary64 := ofMagnitude negative infiniteMagnitude

def isNaN (x : Binary64) : Bool := decide (infiniteMagnitude < x.magnitude)

def isInfinite (x : Binary64) : Bool := decide (x.magnitude = infiniteMagnitude)

def isFinite (x : Binary64) : Bool := decide (x.magnitude < infiniteMagnitude)

def isZero (x : Binary64) : Bool := decide (x.magnitude = 0)

/-- The integer significand: a finite double is `significand * 2 ^ (unitExponent - 1074)`
up to its sign. -/
def significand (x : Binary64) : Nat :=
  if x.magnitude / exponentWeight = 0 then x.magnitude
  else exponentWeight + x.magnitude % exponentWeight

/-- The exponent of the unit in the last place, counted from the smallest one. -/
def unitExponent (x : Binary64) : Nat := x.magnitude / exponentWeight - 1

/-- The absolute value of a finite double in units of `2 ^ -1074`, an integer for all of
them. -/
def size (x : Binary64) : Nat := x.significand * Nat.pow 2 x.unitExponent

/-- The value of a finite double in the same units. -/
def scaled (x : Binary64) : Int := if x.negative then -(x.size : Int) else (x.size : Int)

/-! ## Order -/

/-- The place of a double among the integers: both zeros at 0, negative numbers below. -/
def rank (x : Binary64) : Int :=
  if x.negative then -(x.magnitude : Int) else (x.magnitude : Int)

/-- Comparison of two numbers; nothing compares with what is not a number. -/
def compare? (x y : Binary64) : Option Ordering :=
  if x.isNaN || y.isNaN then none else some (compare x.rank y.rank)

/-- Numeric equality: the two zeros are equal, not-a-number differs even from itself. -/
def equals (x y : Binary64) : Bool := !x.isNaN && !y.isNaN && decide (x.rank = y.rank)

/-! ## Rounding -/

/-- `num / den` rounded to the nearest integer, a half to the even one. -/
def roundHalfEven (num den : Nat) : Nat :=
  let quotient := num / den
  let twice := 2 * (num % den)
  if twice < den then quotient
  else if den < twice then quotient + 1
  else if quotient % 2 = 0 then quotient else quotient + 1

/-- The magnitude nearest to `num / den`. The unit is chosen so that the quotient has
fifty-three bits, or is the smallest unit when the number is too small for that; a
quotient that rounds up to `2 ^ 53` carries into the exponent by itself. -/
def roundMagnitude (num den : Nat) : Nat :=
  if num = 0 then 0 else
  let estimate : Int := (Nat.log2 num : Int) - Nat.log2 den - 52
  let unitOf (exponent : Int) : Nat × Nat :=
    if exponent ≥ 0 then (num, den * Nat.pow 2 exponent.toNat)
    else (num * Nat.pow 2 (-exponent).toNat, den)
  let exact := unitOf estimate
  let fitted := if exact.1 / exact.2 < exponentWeight then estimate - 1 else estimate
  let exponent := max fitted (-1074)
  let scaledRatio := unitOf exponent
  let rounded := roundHalfEven scaledRatio.1 scaledRatio.2
  let magnitude :=
    if rounded < exponentWeight then rounded
    else (exponent + 1074).toNat * exponentWeight + rounded
  min magnitude infiniteMagnitude

/-- The double nearest to `num / den`, with a half going to the even significand and
anything beyond the largest double to infinity. -/
def ofRatio (negative : Bool) (num den : Nat) : Binary64 :=
  ofMagnitude negative (roundMagnitude num den)

/-- The double nearest to an integer. -/
def ofInt (n : Int) : Binary64 := ofRatio (decide (n < 0)) n.natAbs 1

/-- The double nearest to `digits * 10 ^ exponent`. Exponents that put the number beyond
every double, or below half of the smallest, are settled without forming the power. -/
def ofDecimal (negative : Bool) (digits : Nat) (exponent : Int) : Binary64 :=
  if digits = 0 then ofMagnitude negative 0
  else if exponent > 310 then infinity negative
  else
    let length : Int := (Nat.log2 digits : Int) / 3 + 1
    if exponent + length < -330 then ofMagnitude negative 0
    else if exponent ≥ 0 then ofRatio negative (digits * Nat.pow 10 exponent.toNat) 1
    else ofRatio negative digits (Nat.pow 10 (-exponent).toNat)

/-! ## Arithmetic -/

/-- The sum, rounded once. An exact zero is positive unless both summands are negative
zeros. -/
def add (x y : Binary64) : Binary64 :=
  if x.isNaN || y.isNaN then nan
  else if x.isInfinite then
    if y.isInfinite && x.negative != y.negative then nan else x
  else if y.isInfinite then y
  else
    let total := x.scaled + y.scaled
    if total = 0 then ofMagnitude (x.negative && y.negative) 0
    else ofRatio (decide (total < 0)) total.natAbs unitsInOne

/-- The quotient by a positive count, rounded once. -/
def divNat (x : Binary64) (count : Nat) : Binary64 :=
  if x.isNaN || x.isInfinite then x
  else ofRatio x.negative x.size (count * unitsInOne)

/-- The product of two finite numbers, rounded once. -/
def mul (x y : Binary64) : Binary64 :=
  ofRatio (x.negative != y.negative) (x.size * y.size) (unitsInOne * unitsInOne)

/-- The quotient of two finite numbers, of which the second is not zero, rounded once. -/
def div (x y : Binary64) : Binary64 := ofRatio (x.negative != y.negative) x.size y.size

/-! ## Conversion to integers -/

/-- The integer part, toward zero. Only meaningful for finite numbers. -/
def truncate (x : Binary64) : Int :=
  let whole : Nat := x.size / unitsInOne
  if x.negative then -(whole : Int) else (whole : Int)

/-- True for the finite numbers without a fractional part. -/
def isIntegral (x : Binary64) : Bool :=
  x.isFinite && decide (x.size % unitsInOne = 0)

/-- The integer part held within `low` and `high`; not-a-number becomes 0. -/
def clampToInt (low high : Int) (x : Binary64) : Int :=
  if x.isNaN then 0
  else if x.isInfinite then if x.negative then low else high
  else max low (min high x.truncate)

end Binary64
end DataGrid
