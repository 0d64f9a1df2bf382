import DataGrid.Columns.Basic
import DataGrid.Compile.Compilation
import DataGrid.Compile.Condition

/-!
# DataGrid.Compile.Search -- the search term

A search asks for its term in any of the searchable columns. A column with a condition
callback is left to the callback, which gets the term as its only value and no operator.
-/

namespace DataGrid.Compile

/-- Runs a condition callback. What it writes is the filter; nothing written asks for
nothing. -/
def runCallback (callback : ConditionCallback) (values : List Value) (field : String)
    (operator : Option Operator) : Compilation Document :=
  let effect := callback values field operator
  ⟨effect.calls, .ok (effect.predicate.toDocument?.getD [])⟩

/-- The filter of one searchable column. -/
def searchBranch (columns : Columns) (term : String) (column : String × String) :
    Compilation Document :=
  match Keyed.get? columns.conditionCallbacks column.1 with
  | some callback => runCallback callback [.string term] column.2 none
  | none => .done (likeCondition column.2 (.string term) .contains)

/-- The filter of a search over all searchable columns. -/
def search (columns : Columns) (term : String) : Compilation Document := do
  let searchable ← .lift columns.requireSearchable
  let branches ← Compilation.forEach (searchBranch columns term) searchable
  return combine "$or" branches

/-- The filter that uses the text index. -/
def textSearch (term : String) : Document :=
  [("$text", .document [("$search", .string term)])]

end DataGrid.Compile
