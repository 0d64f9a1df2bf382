import DataGrid.Document.Value
import DataGrid.Request.Basic

/-!
# DataGrid.Resource.Count -- how the total is found

The total of an aggregation is either the size of the collection or the result of a
pipeline that counts. The first is taken when the request narrows nothing and no stage
groups: the key `$group` occurs nowhere in the stages, however deep.
-/

namespace DataGrid

inductive CountStrategy where
  /-- The size of the collection. -/
  | fast
  /-- The rows of a pipeline. -/
  | aggregate
deriving DecidableEq, Repr

namespace Count

/-- The field that holds the number in the row of a counting pipeline. -/
def fieldName : String := "count"

mutual

/-- The key `$group` occurs in a value. -/
def valueGroups : Value → Bool
  | .document fields => fieldsGroup fields
  | .array items => itemsGroup items
  | _ => false

/-- The key `$group` occurs in a document. -/
def fieldsGroup : List (String × Value) → Bool
  | [] => false
  | (key, value) :: rest => key == "$group" || valueGroups value || fieldsGroup rest

/-- The key `$group` occurs in a list. -/
def itemsGroup : List Value → Bool
  | [] => false
  | item :: rest => valueGroups item || itemsGroup rest

end

/-- The strategy for a pipeline and a request. -/
def decide (stages : List Document) (hasFilter hasSearch : Bool) : CountStrategy :=
  if hasFilter || hasSearch || stages.any fieldsGroup then .aggregate else .fast

/-- The number in the first row; no row, and no number, is zero. -/
def read (rows : List Document) : UInt64 :=
  match rows with
  | [] => 0
  | row :: _ =>
    match Keyed.get? row fieldName with
    | some (.int32 n) => saturate n.toInt.toNat
    | some (.int64 n) => saturate n.toInt.toNat
    | some (.double x) => saturate (x.clampToInt 0 (UInt64.size - 1)).toNat
    | _ => 0

end Count
end DataGrid
