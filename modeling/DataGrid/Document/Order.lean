import DataGrid.Document.Value

/-!
# DataGrid.Document.Order -- comparing values

Three comparisons, each used by a different part of the store.

* `Value.equals`: numbers of any width by their value as doubles, all else by `same`.
* `Value.compareWithin?`: order inside one kind; values of different kinds do not compare.
* `Value.sortOrder`: the order of sorting, defined for every pair. Kinds are ranked, a
  missing value ranks with null, and what does not compare within its kind is tied.

Integers are compared after conversion to double, so integers beyond `2 ^ 53` that round
to the same double are equal.
-/

namespace DataGrid.Value

/-- The double that stands for a number in comparisons. -/
def numeric? : Value → Option Binary64
  | .int32 n => some (Binary64.ofInt n.toInt)
  | .int64 n => some (Binary64.ofInt n.toInt)
  | .double x => some x
  | _ => none

/-- Equality across the number kinds. -/
def equals (a b : Value) : Bool :=
  match a.numeric?, b.numeric? with
  | some x, some y => x.equals y
  | _, _ => same a b

/-- Order within one kind. -/
def compareWithin? (a b : Value) : Option Ordering :=
  match a.numeric?, b.numeric? with
  | some x, some y => x.compare? y
  | _, _ =>
    match a, b with
    | .string x, .string y => some (compare x y)
    | .dateTime x, .dateTime y => some (compare x.toInt y.toInt)
    | .boolean x, .boolean y => some (compare x.toNat y.toNat)
    | .objectId x, .objectId y => some (x.compare y)
    | .null, .null => some .eq
    | _, _ => none

/-- The place of each kind in the sort order. -/
def kindRank : Option Value → Nat
  | some .minKey => 0
  | none | some .null | some .undefined => 1
  | some (.int32 _) | some (.int64 _) | some (.double _) | some (.decimal128 _) => 2
  | some (.string _) | some (.symbol _) => 3
  | some (.document _) => 4
  | some (.array _) => 5
  | some (.binary _ _) => 6
  | some (.objectId _) => 7
  | some (.boolean _) => 8
  | some (.dateTime _) => 9
  | some (.timestamp _ _) => 10
  | some (.regex _ _) => 11
  | some (.maxKey) | some (.code _) | some (.codeWithScope _ _) | some (.dbPointer _ _) => 12

/-- The order of sorting. -/
def sortOrder (a b : Option Value) : Ordering :=
  match compare (kindRank a) (kindRank b) with
  | .eq =>
    match a, b with
    | some x, some y => (x.compareWithin? y).getD .eq
    | _, _ => .eq
  | order => order

end DataGrid.Value
