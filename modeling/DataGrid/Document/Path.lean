import DataGrid.Document.Value
import DataGrid.Text.CodePoints

/-!
# DataGrid.Document.Path -- dotted paths into nested documents

A path is the list of its segments, read from a text by cutting at every dot; empty
segments are segments like any other. Paths lead through documents only: a list on the
way ends the look-up.

`set` creates the documents that are missing on the way and replaces scalars that stand
there, `remove` changes nothing when the path does not resolve.
-/

namespace DataGrid

abbrev Path := List String

namespace Path

/-- The segments of a dotted text. -/
def ofText (text : String) : Path := (Text.splitAt '.' text.toList).map String.ofList

theorem ofText_ne_nil (text : String) : ofText text ≠ [] := by
  simp [ofText, Text.splitAt_ne_nil]

end Path

namespace Document

/-- The value at a path, if every segment but the last names a document. -/
def lookup (d : Document) : Path → Option Value
  | [] => none
  | [key] => Keyed.get? d key
  | key :: rest =>
    match Keyed.get? d key with
    | some (.document fields) => lookup fields rest
    | _ => none

/-- The document under a key, or an empty one. -/
def inner (d : Document) (key : String) : Document :=
  match Keyed.get? d key with
  | some (.document fields) => fields
  | _ => []

/-- Gives a path a value, making documents on the way where there are none. -/
def set (d : Document) : Path → Value → Document
  | [], _ => d
  | [key], value => Keyed.insert d key value
  | key :: rest, value => Keyed.insert d key (.document (set (inner d key) rest value))

/-- Removes the value at a path, if the path resolves. -/
def remove (d : Document) : Path → Document
  | [] => d
  | [key] => Keyed.erase d key
  | key :: rest =>
    match Keyed.get? d key with
    | some (.document fields) => Keyed.insert d key (.document (remove fields rest))
    | _ => d

/-- Look-up by dotted text. -/
def lookupText (d : Document) (path : String) : Option Value := lookup d (Path.ofText path)

end Document
end DataGrid
