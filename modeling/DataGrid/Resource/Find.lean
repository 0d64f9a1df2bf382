import DataGrid.Builder.Query
import DataGrid.Compile.Compiler
import DataGrid.Response.Shape
import DataGrid.Store.Memory

/-!
# DataGrid.Resource.Find -- resources answered by a find query

Such a resource compiles the request into its base query: the native query first, if the
resource honours it, then sortations, then conditions. The total is counted by the same
filter, or by a query of the resource's own that gets the same native query and
conditions.
-/

namespace DataGrid

/-- One page of shaped documents, and how many there are on all pages. -/
structure ResultPage where
  items : List Document
  total : UInt64

structure FindResource where
  collection : String
  columns : Columns
  /-- The format of dates in the output. -/
  dateFormat : String
  /-- The native query of a request is used. -/
  allowNative : Bool
  /-- A search also asks the text index. -/
  textSearch : Bool
  /-- The query that a request is compiled into. -/
  base : QueryBuilder
  /-- A base of its own for counting. -/
  countBase : Option QueryBuilder

namespace FindResource

/-- A resource without anything special. -/
def plain (collection : String) (columns : Columns) : FindResource :=
  ⟨collection, columns, Shape.dateTimeUtc, false, false, .empty, none⟩

/-- The native query that is used. -/
def native (r : FindResource) (request : Request) : Option Document :=
  if r.allowNative then request.nativeQuery else none

/-- A base with the native query. -/
def withNative (r : FindResource) (request : Request) (base : QueryBuilder) : QueryBuilder :=
  match r.native request with
  | some filter => base.matchFilter filter
  | none => base

/-- A failure of the store, as a failure of the resource. -/
def stored {α : Type} (r : FindResource) (result : Except StoreError α) : Except GridError α :=
  result.mapError fun cause => .ofStore cause r.columns.resource

def compiler (r : FindResource) (request : Request) : Compiler :=
  ⟨r.columns, request, r.textSearch⟩

/-- The query for the data, before the window, and the filter for the total. -/
def queries (r : FindResource) (request : Request) :
    Except GridError (QueryBuilder × Document) := do
  let c := r.compiler request
  let (query, sorted) := c.sortations.run (r.withNative request r.base)
  sorted
  let (query, matched) := c.conditions.run query
  matched
  match r.countBase with
  | none => return (query, query.filter)
  | some base =>
    let (counting, matched) := c.conditions.run (r.withNative request base)
    matched
    return (query, counting.filter)

/-- One page of the resource. -/
def getData (r : FindResource) (store : MemoryStore) (request : Request) :
    Except GridError ResultPage := do
  let (query, countFilter) ← r.queries request
  let windowed := Builder.run query (r.compiler request).pagination.calls
  let documents ← r.stored (store.find r.collection windowed.toQuery)
  let items ← Shape.documents documents r.dateFormat
  let total ← r.stored (store.count r.collection countFilter)
  return ⟨items, saturate total⟩

end FindResource
end DataGrid
