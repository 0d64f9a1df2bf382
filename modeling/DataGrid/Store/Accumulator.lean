import DataGrid.Document.Order
import DataGrid.Store.Error

/-!
# DataGrid.Store.Accumulator -- summing up groups

An accumulator takes the values of a group one by one and yields one value at the end. A
value may be missing.

Sums are exact as long as they are integers that fit into 64 bits; an integer that would
carry the sum out of them is added to a double beside it instead. The result is a double
once any double or any such integer was added, else the smallest integer kind that holds
it. Means are computed in doubles. Extremes pass over null and what is missing.
-/

namespace DataGrid.Store

inductive Accumulator where
  | sum (integer : Int64) (float : Binary64) (isFloat : Bool)
  | mean (total : Binary64) (count : Nat)
  | first (value : Option Value)
  | last (value : Value)
  | max (value : Option Value)
  | min (value : Option Value)
  | push (items : List Value)

namespace Accumulator

/-- The accumulator of an operator before any value. -/
def new (operator : String) : Except StoreError Accumulator :=
  match operator with
  | "$sum" => .ok (.sum 0 .zero false)
  | "$avg" => .ok (.mean .zero 0)
  | "$first" => .ok (.first none)
  | "$last" => .ok (.last .null)
  | "$max" => .ok (.max none)
  | "$min" => .ok (.min none)
  | "$push" => .ok (.push [])
  | other => .error (.unknownAccumulator other)

/-- The integers of 64 bits. -/
def fits64 (n : Int) : Bool :=
  decide (Int64.minValue.toInt ≤ n) && decide (n ≤ Int64.maxValue.toInt)

/-- The integers of 32 bits. -/
def fits32 (n : Int) : Bool :=
  decide (Int32.minValue.toInt ≤ n) && decide (n ≤ Int32.maxValue.toInt)

/-- Adds an integer to a sum: to the integer part if the result fits, else to the double. -/
def addInteger (integer : Int64) (float : Binary64) (isFloat : Bool) (n : Int) : Accumulator :=
  let total := integer.toInt + n
  if fits64 total then .sum (Int64.ofInt total) float isFloat
  else .sum integer (float.add (Binary64.ofInt n)) true

/-- The value counts towards an extreme. -/
def counts : Option Value → Bool
  | none | some .null => false
  | some _ => true

/-- The new extreme: the first value, or one that stands in the given order to the old. -/
def extreme (wanted : Ordering) (current value : Option Value) : Option Value :=
  if !counts value then current
  else match current with
    | none => value
    | some _ => if Value.sortOrder value current = wanted then value else current

/-- Takes one value. -/
def add (a : Accumulator) (value : Option Value) : Accumulator :=
  match a with
  | sum integer float isFloat =>
    match value with
    | some (.int32 n) => addInteger integer float isFloat n.toInt
    | some (.int64 n) => addInteger integer float isFloat n.toInt
    | some (.double x) => sum integer (float.add x) true
    | _ => a
  | mean total count =>
    match value.bind Value.numeric? with
    | some x => mean (total.add x) (count + 1)
    | none => a
  | first current => if current.isNone then first (some (value.getD .null)) else a
  | last _ => last (value.getD .null)
  | max current => max (extreme .gt current value)
  | min current => min (extreme .lt current value)
  | push items =>
    match value with
    | some item => push (items ++ [item])
    | none => a

/-- The value at the end. -/
def result : Accumulator → Value
  | sum integer float isFloat =>
    if isFloat then .double ((Binary64.ofInt integer.toInt).add float)
    else if fits32 integer.toInt then .int32 (Int32.ofInt integer.toInt)
    else .int64 integer
  | mean total count => if count = 0 then .null else .double (total.divNat count)
  | first value | max value | min value => value.getD .null
  | last value => value
  | push items => .array items

end Accumulator
end DataGrid.Store
