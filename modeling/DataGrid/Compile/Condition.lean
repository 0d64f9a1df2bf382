import DataGrid.Document.Display
import DataGrid.Pattern.Escape
import DataGrid.Request.Operator

/-!
# DataGrid.Compile.Condition -- operators as filter documents

The table that gives each operator its filter document on one field. Operators on one
value take the first; with no value at all that is null. Equality and its negation turn
into list membership when there are several values, and a range with fewer than two
bounds falls back to equality or its negation.
-/

namespace DataGrid.Compile

/-- Where a literal text is looked for. -/
inductive LikeMode where
  | contains
  | startsWith
  | endsWith
deriving DecidableEq, Repr

/-- The pattern of a literal text. -/
def likePattern (text : String) (mode : LikeMode) : String :=
  let literal := Pattern.escape text.toList
  String.ofList <| match mode with
    | .contains => literal
    | .startsWith => '^' :: literal
    | .endsWith => literal ++ ['$']

/-- The filter for a literal text anywhere, at the start or at the end, in any case. -/
def likeCondition (field : String) (value : Value) (mode : LikeMode) : Document :=
  [(field, .document [("$regex", .string (likePattern value.patternText mode)),
    ("$options", .string "i")])]

/-- The filter that compares a field with a value. -/
def compare (field operator : String) (value : Value) : Document :=
  [(field, .document [(operator, value)])]

/-- Filters under one logical operator. -/
def combine (operator : String) (filters : List Document) : Document :=
  [(operator, .array (filters.map .document))]

/-- Equality with one of the values. -/
def equality (field : String) (values : List Value) : Document :=
  match values with
  | [] => compare field "$eq" .null
  | [only] => compare field "$eq" only
  | many => compare field "$in" (.array many)

/-- Difference from all of the values. -/
def inequality (field : String) (values : List Value) : Document :=
  match values with
  | [] => compare field "$ne" .null
  | [only] => compare field "$ne" only
  | many => compare field "$nin" (.array many)

/-- The filter document of one condition. -/
def condition (field : String) (operator : Option Operator) (values : List Value) : Document :=
  let first := values.headD .null
  match operator with
  | none => compare field "$eq" first
  | some operator =>
    match operator with
    | .eq | .inList => equality field values
    | .neq | .notInList => inequality field values
    | .gt => compare field "$gt" first
    | .gte => compare field "$gte" first
    | .lt => compare field "$lt" first
    | .lte => compare field "$lte" first
    | .notEmpty => combine "$and" [compare field "$ne" .null, compare field "$ne" first]
    | .empty => combine "$or" [compare field "$eq" .null, compare field "$eq" first]
    | .like => likeCondition field first .contains
    | .starts => likeCondition field first .startsWith
    | .ends => likeCondition field first .endsWith
    | .between =>
      match values with
      | low :: high :: _ => [(field, .document [("$gte", low), ("$lte", high)])]
      | _ => compare field "$eq" first
    | .notBetween =>
      match values with
      | low :: high :: _ =>
        combine "$or" [compare field "$lte" low, compare field "$gte" high]
      | _ => compare field "$ne" first
    | .exist => compare field "$exists" (.boolean true)
    | .notExist => compare field "$exists" (.boolean false)
    | .other _ => compare field "$eq" first

end DataGrid.Compile
