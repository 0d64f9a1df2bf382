import DataGrid.Document.ToJson
import DataGrid.Request.Basic

/-!
# DataGrid.Request.ToJson -- requests as JSON

The written form of a request has all fields in a fixed order, but leaves out the native
query if there is none, and of a condition what it does not have. A missing search is null.
-/

namespace DataGrid

open Json (field ofText ofNat)

/-- A field for a value that may be missing. -/
def Json.optionalField (name : String) (value : Option Json) : List (List Char × Json) :=
  (value.map (field name)).toList

def Condition.toJson (c : Condition) : Json :=
  .object (Json.optionalField "column" (c.column.map ofText) ++
    Json.optionalField "operator" (c.operator.map fun operator => ofText operator.name) ++
    Json.optionalField "value" (c.value.map Value.toJson))

/-- Groups as a list of lists. -/
def OrGroup.listToJson (groups : List OrGroup) : Json :=
  .list (groups.map fun group => .list (group.map Condition.toJson))

def Sortation.toJson (s : Sortation) : Json :=
  .object [field "column" (ofText s.column), field "direction" (ofText s.direction.name)]

def Sortation.listToJson (sortations : List Sortation) : Json :=
  .list (sortations.map Sortation.toJson)

/-- A text or null. -/
def Json.ofText? (text : Option String) : Json := (text.map ofText).getD .null

namespace Request

def toJson (r : Request) : Json :=
  .object ([
    field "filter" (OrGroup.listToJson r.filter),
    field "additionalFilters" (OrGroup.listToJson r.additionalFilters),
    field "sorter" (Sortation.listToJson r.orderBy),
    field "search" (Json.ofText? r.search),
    field "page" (ofNat r.page.toNat),
    field "itemsPerPage" (ofNat r.itemsPerPage.toNat)] ++
    Json.optionalField "nativeQuery" (r.nativeQuery.map Document.toJson))

end Request
end DataGrid
