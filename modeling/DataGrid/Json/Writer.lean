import DataGrid.Json.Basic

/-!
# DataGrid.Json.Writer -- trees as text

Trees are written without any space. Literals and strings stand as the tree holds them.
-/

namespace DataGrid.Json

mutual

def write : Json → List Char
  | .null => "null".toList
  | .boolean flag => (if flag then "true" else "false").toList
  | .number literal => literal
  | .text written => '"' :: written ++ ['"']
  | .list items => '[' :: writeItems items ++ [']']
  | .object fields => '{' :: writeFields fields ++ ['}']

/-- Items with commas between them. -/
def writeItems : List Json → List Char
  | [] => []
  | [last] => write last
  | item :: next :: rest => write item ++ ',' :: writeItems (next :: rest)

/-- Fields with commas between them. -/
def writeFields : List (List Char × Json) → List Char
  | [] => []
  | [(name, value)] => '"' :: name ++ '"' :: ':' :: write value
  | (name, value) :: next :: rest =>
    '"' :: name ++ '"' :: ':' :: write value ++ ',' :: writeFields (next :: rest)

end

/-- The text of a tree. -/
def toText (j : Json) : String := String.ofList j.write

end DataGrid.Json
