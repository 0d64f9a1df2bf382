/-!
# DataGrid.Request.Operator -- how a condition compares

The operators that a condition may name. Names are exact; a name that is none of them is
kept as it is and compares like equality.
-/

namespace DataGrid

inductive Operator where
  | eq
  | neq
  | inList
  | notInList
  | gt
  | lt
  | gte
  | lte
  | like
  | starts
  | ends
  | notEmpty
  | empty
  | between
  | notBetween
  | exist
  | notExist
  | other (name : String)
deriving DecidableEq, Repr

namespace Operator

/-- The name of an operator in requests. -/
def name : Operator → String
  | eq => "EQ"
  | neq => "NEQ"
  | inList => "IN"
  | notInList => "NIN"
  | gt => "GT"
  | lt => "LT"
  | gte => "GTE"
  | lte => "LTE"
  | like => "LIKE"
  | starts => "STARTS"
  | ends => "ENDS"
  | notEmpty => "NEMPTY"
  | empty => "EMPTY"
  | between => "BETWEEN"
  | notBetween => "NBETWEEN"
  | exist => "EXIST"
  | notExist => "NEXIST"
  | other name => name

/-- The operators that have a name of their own. -/
def known : List Operator :=
  [eq, neq, inList, notInList, gt, lt, gte, lte, like, starts, ends, notEmpty, empty, between,
   notBetween, exist, notExist]

/-- The operator of a name. -/
def ofName (text : String) : Operator :=
  (known.find? fun operator => operator.name == text).getD (other text)

/-- A condition with this operator is incomplete without a value. -/
def requiresValue : Operator → Bool
  | empty | notEmpty | exist | notExist => false
  | _ => true

/-- The name is not one of the known ones. -/
def isOther : Operator → Bool
  | other _ => true
  | _ => false

@[simp] theorem name_ofName (text : String) : (ofName text).name = text := by
  unfold ofName
  cases h : known.find? fun operator => operator.name == text with
  | none => rfl
  | some operator => simpa using List.find?_some h

end Operator
end DataGrid
