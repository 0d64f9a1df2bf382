import DataGrid.Request.ToJson
import DataGrid.Resource.Aggregation
import DataGrid.Response.Paging
import DataGrid.Response.Reply

/-!
# DataGrid.Response.Envelope -- the page and what was asked

The body of a successful reply: the documents of the page with the filter, the search and
the sortations that led to it, and the paging. The filter is echoed as the text of its
JSON, inside a string. What the server added to the request is not echoed.
-/

namespace DataGrid

structure Envelope where
  filter : List OrGroup
  items : List Document
  paging : Paging
  search : Option String
  /-- Absent when nothing was asked for. -/
  sorter : Option (List Sortation)
  /-- The name in the range header; it is not part of the body. -/
  resource : String

def Paging.toJson (p : Paging) : Json :=
  let number (name : String) (n : UInt64) := Json.field name (.ofNat n.toNat)
  .object [number "itemsPerPage" p.itemsPerPage, number "lastPage" p.lastPage,
    number "nextPage" p.nextPage, number "page" p.page, number "previousPage" p.previousPage,
    number "total" p.total]

namespace Envelope

open Json (field)

/-- The envelope of a page. -/
def new (resource : String) (request : Request) (page : ResultPage) : Envelope :=
  { filter := request.filter
    items := page.items
    paging := .new request.pageNumber request.pageSize page.total
    search := request.search
    sorter := if request.orderBy.isEmpty then none else some request.orderBy
    resource := resource }

def toJson (e : Envelope) : Json :=
  .object [
    field "filter" (.ofText (OrGroup.listToJson e.filter).toText),
    field "items" (.list (e.items.map Document.toJson)),
    field "paging" e.paging.toJson,
    field "search" (Json.ofText? e.search),
    field "sorter" ((e.sorter.map Sortation.listToJson).getD .null)]

/-- How many documents come before the page. -/
def offset (e : Envelope) : UInt64 :=
  saturate ((e.paging.page.toNat - 1) * e.paging.itemsPerPage.toNat)

/-- The reply with the envelope as its body. -/
def reply (e : Envelope) : Reply :=
  .ofJson 200
    (ContentRange.headers e.offset e.paging.itemsPerPage e.paging.total e.resource)
    e.toJson

end Envelope

/-- The reply to a request that a resource has answered or refused. There is none if the program
has broken off. -/
def Reply.ofResult (collection : String) (request : Request)
    (result : Except GridError ResultPage) : Option Reply :=
  match result with
  | .ok page => some (Envelope.new collection request page).reply
  | .error e => if e.breaksOff then none else some (.ofError e)

/-- The reply of a resource that is answered by a find query. -/
def FindResource.reply (r : FindResource) (store : MemoryStore) (request : Request) :
    Option Reply :=
  Reply.ofResult r.collection request (r.getData store request)

/-- The reply of a resource that is answered by a pipeline. -/
def AggregationResource.reply (r : AggregationResource) (store : MemoryStore)
    (request : Request) : Option Reply :=
  Reply.ofResult r.collection request (r.getData store request)

end DataGrid
