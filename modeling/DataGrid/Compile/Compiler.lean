import DataGrid.Compile.Search
import DataGrid.Compile.Sort
import DataGrid.Compile.Values

/-!
# DataGrid.Compile.Compiler -- requests into builder calls

A request is compiled against the columns of a resource in three steps that can be used
alone: conditions, sortations, pagination.

The conditions end in one call that conjoins all groups: those of the filter, those of the
additional filters, the search group, and the use of the text index if it is switched on.
Groups without conditions ask for nothing. A request without any group makes no call.
-/

namespace DataGrid

/-- What is compiled against what. -/
structure Compiler where
  columns : Columns
  request : Request
  /-- A search also asks the text index. -/
  textSearch : Bool

namespace Compiler

open Compile

/-- One condition. What is missing is noticed before an unknown column. -/
def condition (c : Compiler) (condition : Condition) : Compilation Document :=
  match condition.column, condition.operator with
  | some column, some operator =>
    match condition.value with
    | none =>
      if operator.requiresValue then .fail .missingConditionField
      else compile column operator (.string "")
    | some value => compile column operator value
  | _, _ => .fail .missingConditionField
where
  /-- A complete condition: resolve the column, then its callback or the general table. -/
  compile (column : String) (operator : Operator) (value : Value) : Compilation Document := do
    let field ← .lift (c.columns.resolveCondition column)
    match Keyed.get? c.columns.conditionCallbacks column with
    | some callback => runCallback callback (normalize value) field (some operator)
    | none => .done (Compile.condition field (some operator) (normalize value))

/-- The filters of the groups that have conditions. -/
def groups (c : Compiler) : List OrGroup → Compilation (List Document)
  | [] => .done []
  | group :: rest => do
    let branches ← Compilation.forEach c.condition group
    let others ← c.groups rest
    return if branches.isEmpty then others else combine "$or" branches :: others

/-- The filters of the search. -/
def searchGroups (c : Compiler) : Compilation (List Document) :=
  match c.request.searchTerm with
  | none => .done []
  | some term => do
    let group ← search c.columns term
    return if c.textSearch then [group, Compile.textSearch term] else [group]

/-- Conditions and search, conjoined in one call if there are any. -/
def conditions (c : Compiler) : Compilation Unit := do
  let filter ← c.groups c.request.filter
  let additional ← c.groups c.request.additionalFilters
  let search ← c.searchGroups
  let all := filter ++ additional ++ search
  if all.isEmpty then .done () else .emit [.matchFilter (combine "$and" all)]

/-- Sorting, and the removal of computed fields behind it. -/
def sortations (c : Compiler) : Compilation Unit := do
  let plan ← sortPlan c.columns c.request.orderBy
  if plan.isEmpty then .done ()
  else if plan.unset.isEmpty then .emit [.sort plan.keys]
  else .emit [.sort plan.keys, .unset plan.unset]

/-- The window of the requested page. -/
def pagination (c : Compiler) : Compilation Unit :=
  .emit [.skip c.request.offset, .limit c.request.pageSize]

/-- All three, in this order. -/
def apply (c : Compiler) : Compilation Unit := do
  c.conditions
  c.sortations
  c.pagination

end Compiler
end DataGrid
