import DataGrid.Request.Basic

/-!
# DataGrid.Response.Paging -- pages and ranges

What a response says about its place among the pages, and the header that names the range
of positions it covers. All numbers have 64 bits; sums and products that would leave them
are the largest number instead.
-/

namespace DataGrid

structure Paging where
  itemsPerPage : UInt64
  lastPage : UInt64
  nextPage : UInt64
  page : UInt64
  previousPage : UInt64
  total : UInt64
deriving DecidableEq, Repr

namespace Paging

/-- The paging of a page. There is always a first page, and the next page is never beyond
the last. -/
def new (page itemsPerPage total : UInt64) : Paging :=
  let itemsPerPage := max itemsPerPage 1
  let page := max page 1
  let lastPage := saturate (max ((total.toNat + itemsPerPage.toNat - 1) / itemsPerPage.toNat) 1)
  { itemsPerPage := itemsPerPage
    lastPage := lastPage
    nextPage := min lastPage (saturate (page.toNat + 1))
    page := page
    previousPage := saturate (max (page.toNat - 1) 1)
    total := total }

end Paging

namespace ContentRange

/-- The printable ASCII characters of a name. -/
def safeName (name : String) : String :=
  String.ofList (name.toList.filter fun c => 0x20 ≤ c.toNat && c.toNat ≤ 0x7E)

/-- The position of the last document of a page, which never passes the last of all. -/
def lastPosition (offset limit total : UInt64) : UInt64 :=
  min (saturate (offset.toNat + (max limit.toNat 1 - 1))) (saturate (total.toNat - 1))

/-- The name, the range, and the total. -/
def text (offset limit total : UInt64) (name : String) : String :=
  safeName name ++ " " ++ toString offset.toNat ++ "-" ++
    toString (lastPosition offset limit total).toNat ++ "/" ++ toString total.toNat

/-- A header may hold printable ASCII characters and tabs. -/
def isHeaderText (text : String) : Bool :=
  text.toList.all fun c => c == '\t' || (0x20 ≤ c.toNat && c.toNat ≤ 0x7E)

/-- The range of nothing at all, in place of a text that no header may hold. -/
def fallback : String := "items 0-0/0"

/-- The value of the header. -/
def value (offset limit total : UInt64) (name : String) : String :=
  let text := text offset limit total name
  if isHeaderText text then text else fallback

/-- The header, alone. -/
def headers (offset limit total : UInt64) (name : String) : List (String × String) :=
  [("content-range", value offset limit total name)]

end ContentRange
end DataGrid
