import DataGrid.Builder.Basic
import DataGrid.Columns.Predicate
import DataGrid.Error
import DataGrid.Request.Operator

/-!
# DataGrid.Columns.Basic -- what a resource lets clients name

A configuration maps the column names of clients to fields of documents, separately for
filtering and for sorting, and lists the columns that a search looks through. Nothing that
is not listed can be named.

A column may carry a callback in place of the general compilation. A callback sees its
arguments and answers with builder calls and, for conditions, with a predicate; it cannot
see the state of the builder.
-/

namespace DataGrid

/-- What a condition callback does: builder calls, and the clauses it writes. -/
structure ConditionEffect where
  calls : List BuilderCall
  predicate : Predicate

/-- A condition callback, from the normalised values, the field and the operator. A search
gives no operator. -/
abbrev ConditionCallback := List Value → String → Option Operator → ConditionEffect

/-- What a sort callback does: builder calls, and the names of the fields that are to be
removed after sorting. -/
structure SortCallback where
  calls : List BuilderCall
  unset : List String

structure Columns where
  resource : String
  conditions : Keyed String
  sortations : Keyed String
  searchable : List String
  conditionCallbacks : Keyed ConditionCallback
  sortCallbacks : Keyed SortCallback

namespace Columns

/-! ## Registration -/

def new (resource : String) : Columns := ⟨resource, [], [], [], [], []⟩

/-- Lets a column be filtered; a later registration of the name wins. -/
def condition (c : Columns) (logical physical : String) : Columns :=
  { c with conditions := c.conditions.insert logical physical }

/-- Lets a column be sorted; a later registration of the name wins. -/
def sortation (c : Columns) (logical physical : String) : Columns :=
  { c with sortations := c.sortations.insert logical physical }

/-- Lets a column be searched. It has to be a condition column too, whenever that is
registered. Only the first registration counts. -/
def search (c : Columns) (logical : String) : Columns :=
  if c.searchable.contains logical then c
  else { c with searchable := c.searchable ++ [logical] }

def conditionCallback (c : Columns) (logical : String) (callback : ConditionCallback) : Columns :=
  { c with conditionCallbacks := c.conditionCallbacks.insert logical callback }

def sortCallback (c : Columns) (logical : String) (callback : SortCallback) : Columns :=
  { c with sortCallbacks := c.sortCallbacks.insert logical callback }

/-! ## Resolution -/

/-- The field of a column in conditions. -/
def resolveCondition (c : Columns) (column : String) : Except GridError String :=
  match Keyed.get? c.conditions column with
  | some field => .ok field
  | none => .error (.missingConditionColumn column c.resource)

/-- The field of a column in sortations. -/
def resolveSortation (c : Columns) (column : String) : Except GridError String :=
  match Keyed.get? c.sortations column with
  | some field => .ok field
  | none => .error (.missingSortationColumn column c.resource)

/-- The fields of searchable columns. -/
def resolveSearchable (c : Columns) : List String → Except GridError (List (String × String))
  | [] => .ok []
  | logical :: rest =>
    match Keyed.get? c.conditions logical with
    | some field => (resolveSearchable c rest).map ((logical, field) :: ·)
    | none => .error (.missingSearchColumn (some logical) c.resource)

/-- The searchable columns with their fields, in the order of registration. There has to
be one, and all have to be condition columns. -/
def requireSearchable (c : Columns) : Except GridError (List (String × String)) :=
  if c.searchable.isEmpty then .error (.missingSearchColumn none c.resource)
  else c.resolveSearchable c.searchable

end Columns
end DataGrid
