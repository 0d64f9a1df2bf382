import DataGrid.Builder.Basic

/-!
# DataGrid.Builder.Query -- calls into one find query

Filters are collected and conjoined, sort keys are merged, and the last window wins. A
find query cannot compute fields, so calls that add or remove them have no effect.
-/

namespace DataGrid

/-- What a store is asked to find. No limit and a limit of zero mean everything. -/
structure FindQuery where
  filter : Document
  sort : Option Document
  skip : Option UInt64
  limit : Option UInt64
  projection : Option Document

/-- The query that finds everything. -/
def FindQuery.all : FindQuery := ⟨[], none, none, none, none⟩

structure QueryBuilder where
  filters : List Document
  sort : Option Document
  skip : Option UInt64
  limit : Option UInt64
  projection : Option Document

namespace QueryBuilder

def empty : QueryBuilder := ⟨[], none, none, none, none⟩

/-- Conjoins one more filter; an empty one asks for nothing. -/
def matchFilter (b : QueryBuilder) (filter : Document) : QueryBuilder :=
  if filter.isEmpty then b else { b with filters := b.filters ++ [filter] }

/-- Merges sort keys into those that are there. -/
def mergeSort (b : QueryBuilder) (keys : Document) : QueryBuilder :=
  { b with sort := some (keys.foldl (fun sort key => Keyed.insert sort key.1 key.2)
      (b.sort.getD [])) }

def withProjection (b : QueryBuilder) (projection : Document) : QueryBuilder :=
  { b with projection := some projection }

instance : Builder QueryBuilder where
  call b
    | .matchFilter filter => b.matchFilter filter
    | .addFields _ => b
    | .sort keys => b.mergeSort keys
    | .unset _ => b
    | .skip count => { b with skip := some count }
    | .limit count => { b with limit := some count }

/-- The conjunction of the filters: nothing, the only one, or all of them under `$and`. -/
def filter (b : QueryBuilder) : Document :=
  match b.filters with
  | [] => []
  | [only] => only
  | many => [("$and", .array (many.map .document))]

/-- The finished query. -/
def toQuery (b : QueryBuilder) : FindQuery := ⟨b.filter, b.sort, b.skip, b.limit, b.projection⟩

end QueryBuilder
end DataGrid
