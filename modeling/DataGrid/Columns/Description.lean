import DataGrid.Columns.Basic
import DataGrid.Text.Visible

/-!
# DataGrid.Columns.Description -- a configuration for developers

One line that shows the maps of a configuration and, of its callbacks, the names.
-/

namespace DataGrid.Columns

/-- Names in square brackets. -/
def describeNames (names : List String) : String :=
  "[" ++ ", ".intercalate (names.map Text.quoted) ++ "]"

/-- A map in braces. -/
def describeMap (entries : Keyed String) : String :=
  "\x7b" ++ ", ".intercalate (entries.map fun entry => Text.quoted entry.1 ++ ": " ++
    Text.quoted entry.2) ++ "\x7d"

/-- The configuration in one line. -/
def describe (c : Columns) : String :=
  "ColumnConfig \x7b " ++ ", ".intercalate [
    "resource: " ++ Text.quoted c.resource,
    "conditions: " ++ describeMap c.conditions,
    "sortations: " ++ describeMap c.sortations,
    "searchable: " ++ describeNames c.searchable,
    "condition_callbacks: " ++ describeNames c.conditionCallbacks.keys,
    "sort_callbacks: " ++ describeNames c.sortCallbacks.keys] ++ " \x7d"

end DataGrid.Columns
