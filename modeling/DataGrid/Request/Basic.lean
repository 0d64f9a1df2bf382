import DataGrid.Document.Value
import DataGrid.Request.Direction
import DataGrid.Request.Operator

/-!
# DataGrid.Request.Basic -- grid requests

A request filters, sorts, searches and cuts out one page. Filters are lists of groups: a
document has to satisfy every group, and satisfies a group when one of its conditions
holds. Page numbers begin at 1; zeros count as 1.

Pages and sizes are 64-bit numbers, so the first position of a page may lie beyond them.
It is then the largest of them.
-/

namespace DataGrid

/-- One comparison. What is missing is noticed when the condition is compiled, because a
missing value is no fault for every operator. -/
structure Condition where
  column : Option String
  operator : Option Operator
  value : Option Value

/-- Alternatives, one of which has to hold. -/
abbrev OrGroup := List Condition

/-- One column to sort by. -/
structure Sortation where
  column : String
  direction : Direction
deriving DecidableEq, Repr

/-- A natural number held within 64 bits. -/
def saturate (n : Nat) : UInt64 := UInt64.ofNat (min n (UInt64.size - 1))

structure Request where
  filter : List OrGroup
  /-- Groups that the server adds; they are not echoed to the client. -/
  additionalFilters : List OrGroup
  orderBy : List Sortation
  search : Option String
  page : UInt64
  itemsPerPage : UInt64
  /-- A filter document that only some resources honour. -/
  nativeQuery : Option Document

namespace Request

/-- The first page of ten of everything. -/
def default : Request := ⟨[], [], [], none, 1, 10, none⟩

instance : Inhabited Request := ⟨default⟩

/-- The page number, at least 1. -/
def pageNumber (r : Request) : UInt64 := max r.page 1

/-- The page size, at least 1. -/
def pageSize (r : Request) : UInt64 := max r.itemsPerPage 1

/-- How many documents come before the page. -/
def offset (r : Request) : UInt64 :=
  saturate ((r.pageNumber.toNat - 1) * r.pageSize.toNat)

/-- The text to search for, unless it is empty. -/
def searchTerm (r : Request) : Option String := r.search.filter fun term => term != ""

def hasSearch (r : Request) : Bool := r.searchTerm.isSome

/-- Some group has a condition. -/
def hasFilter (r : Request) : Bool :=
  (r.filter ++ r.additionalFilters).any fun group => !group.isEmpty

end Request
end DataGrid
