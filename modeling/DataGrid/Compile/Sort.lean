import DataGrid.Columns.Basic
import DataGrid.Compile.Compilation
import DataGrid.Request.Basic

/-!
# DataGrid.Compile.Sort -- sortations

Sortations become sort keys in their order. Two columns, or one column twice, may lead to
the same field; it keeps its first place and takes the last direction. The callback of a
column runs every time the column is named, before any sorting.
-/

namespace DataGrid.Compile

/-- The keys to sort by, and the computed fields to remove afterwards. -/
structure SortPlan where
  keys : Document
  unset : List String

namespace SortPlan

def empty : SortPlan := ⟨[], []⟩

def isEmpty (plan : SortPlan) : Bool := plan.keys.isEmpty

end SortPlan

/-- Adds sortations to a plan. -/
def extendPlan (columns : Columns) (plan : SortPlan) : List Sortation → Compilation SortPlan
  | [] => .done plan
  | sortation :: rest => do
    let field ← .lift (columns.resolveSortation sortation.column)
    let unset ← match Keyed.get? columns.sortCallbacks sortation.column with
      | some callback => ⟨callback.calls, .ok callback.unset⟩
      | none => .done []
    extendPlan columns
      ⟨Keyed.insert plan.keys field (.int32 sortation.direction.key), plan.unset ++ unset⟩ rest

/-- The plan for a list of sortations. -/
def sortPlan (columns : Columns) (orderBy : List Sortation) : Compilation SortPlan :=
  extendPlan columns .empty orderBy

end DataGrid.Compile
