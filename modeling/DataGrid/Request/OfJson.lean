import DataGrid.Document.OfJson
import DataGrid.Json.Reader
import DataGrid.Request.Basic

/-!
# DataGrid.Request.OfJson -- JSON as requests

A request, a condition and a sortation are each an object, or the list of its values in
order, with those at the end left out at will. Fields that are not known are ignored,
whatever they hold; a known field must not occur twice. Null stands for a missing text and
a missing native query, and for a condition value that is there and is null.

Values must not nest too deeply: at most `depthLimit` lists and objects are inside each
other, counted from the request itself.
-/

namespace DataGrid

/-! ## Reading structures -/

namespace Json

/-- The parts of a structure whose fields go by the given names, several names for one
field being alike. -/
def parts? (names : List (List String)) : Json → Option (List (Option Json))
  | .list items =>
    if items.length ≤ names.length then
      some (items.map some ++ List.replicate (names.length - items.length) none)
    else none
  | other => do
    let fields ← other.fields?
    names.mapM fun alike =>
      match fields.filter fun entry => alike.contains entry.1 with
      | [] => some none
      | [(_, value)] => some (some value)
      | _ => none

/-- A part that may be missing and then has a default. -/
def orDefault {α : Type} (default : α) (read : Json → Option α) : Option Json → Option α
  | none => some default
  | some j => read j

/-- A part that may be null. -/
def orNull {α : Type} (read : Json → Option α) : Json → Option (Option α)
  | .null => some none
  | j => (read j).map some

/-- A list of parts. -/
def listOf? {α : Type} (read : Json → Option α) (j : Json) : Option (List α) :=
  j.list?.bind fun items => items.mapM read

/-- A natural number of 64 bits. -/
def natural? (j : Json) : Option UInt64 :=
  match j.number? with
  | some (.natural n) => some n
  | _ => none

end Json

open Json (orDefault orNull listOf?)

/-- How many lists and objects may be inside each other. -/
def Request.depthLimit : Nat := 127

/-! ## The parts of a request -/

namespace Condition

/-- The lists and objects around a condition value: the request, the filter, the group and
the condition. -/
def depthAround : Nat := 4

def value? (j : Json) : Option Value :=
  if j.depth + depthAround ≤ Request.depthLimit then Value.ofJson? j else none

def ofJson? (j : Json) : Option Condition :=
  match j.parts? [["column"], ["operator"], ["value"]] with
  | some [column, operator, value] => do
    let column ← orDefault none (orNull Json.text?) column
    let operator ← orDefault none (orNull Json.text?) operator
    let value ← orDefault none (fun j => (value? j).map some) value
    return ⟨column, operator.map Operator.ofName, value⟩
  | _ => none

end Condition

/-- Groups from a list of lists. -/
def OrGroup.listOfJson? (j : Json) : Option (List OrGroup) := listOf? (listOf? Condition.ofJson?) j

namespace Sortation

def direction? (j : Json) : Option Direction := j.text?.map Direction.ofText

def ofJson? (j : Json) : Option Sortation :=
  match j.parts? [["column"], ["direction"]] with
  | some [some column, direction] => do
    return ⟨← column.text?, ← orDefault .ascending direction? direction⟩
  | _ => none

end Sortation

def Sortation.listOfJson? (j : Json) : Option (List Sortation) := listOf? Sortation.ofJson? j

namespace Request

/-- The native query; only the request is around it. -/
def nativeQuery? (j : Json) : Option Document :=
  if j.depth + 1 ≤ depthLimit then Document.ofJson? j else none

/-- The names of the fields in their order. -/
def fieldNames : List (List String) :=
  [["filter"], ["additionalFilters"], ["sorter", "orderBy"], ["search"], ["page"],
   ["itemsPerPage"], ["nativeQuery"]]

def ofJson? (j : Json) : Option Request :=
  match j.parts? fieldNames with
  | some [filter, additionalFilters, orderBy, search, page, itemsPerPage, nativeQuery] => do
    let filter ← orDefault default.filter OrGroup.listOfJson? filter
    let additionalFilters ←
      orDefault default.additionalFilters OrGroup.listOfJson? additionalFilters
    let orderBy ← orDefault default.orderBy Sortation.listOfJson? orderBy
    let search ← orDefault default.search (orNull Json.text?) search
    let page ← orDefault default.page Json.natural? page
    let itemsPerPage ← orDefault default.itemsPerPage Json.natural? itemsPerPage
    let nativeQuery ← orDefault default.nativeQuery (orNull nativeQuery?) nativeQuery
    return ⟨filter, additionalFilters, orderBy, search, page, itemsPerPage, nativeQuery⟩
  | _ => none

/-- The request of a text, if it is one. -/
def ofText? (text : String) : Option Request := (Json.read? text).bind ofJson?

end Request
end DataGrid
