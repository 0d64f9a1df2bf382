/-!
# DataGrid.Request.Direction -- ascending and descending

A direction is read from text: `asc` in any mix of cases is ascending and everything else
is descending. As a sort key it is 1 or -1.
-/

namespace DataGrid

inductive Direction where
  | ascending
  | descending
deriving DecidableEq, Repr, Inhabited

namespace Direction

def ofText (text : String) : Direction :=
  if text.toList.map Char.toLower = ['a', 's', 'c'] then ascending else descending

/-- The name of a direction in requests. -/
def name : Direction → String
  | ascending => "ASC"
  | descending => "DESC"

/-- The sort key that the store understands. -/
def key : Direction → Int32
  | ascending => 1
  | descending => -1

@[simp] theorem ofText_name (d : Direction) : ofText d.name = d := by cases d <;> rfl

end Direction
end DataGrid
