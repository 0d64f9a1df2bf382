import DataGrid.Builder.Query
import DataGrid.Store.Pipeline

/-!
# DataGrid.Store.Memory -- a document store as a value

Collections by name, a supply of identifiers, and the count of those that were given out.
Inserting makes the collection if it is not there, and puts an identifier in front of every
document that has none. A collection that was never written to is empty for every query.
-/

namespace DataGrid

structure MemoryStore where
  collections : Keyed Store.Collection
  /-- The identifiers in the order in which they are given out. -/
  fresh : Nat → ObjectId
  /-- How many identifiers were given out. -/
  issued : Nat

namespace MemoryStore

open Store

/-- A store without collections, and with the given supply of identifiers. -/
def new (fresh : Nat → ObjectId) : MemoryStore := ⟨[], fresh, 0⟩

/-- The collection of a name, empty if there is none. -/
def collection (s : MemoryStore) (name : String) : Collection :=
  (Keyed.get? s.collections name).getD .empty

/-! ## Writing -/

/-- Puts a fresh identifier in front of a document that has none. -/
def identify (s : MemoryStore) (d : Document) : Document × MemoryStore :=
  if Keyed.contains d "_id" then (d, s)
  else (("_id", .objectId (s.fresh s.issued)) :: d, { s with issued := s.issued + 1 })

/-- Identifies documents one by one. -/
def identifyAll (s : MemoryStore) : List Document → List Document × MemoryStore
  | [] => ([], s)
  | d :: rest =>
    let (first, s) := s.identify d
    let (others, s) := s.identifyAll rest
    (first :: others, s)

/-- Adds documents behind those of a collection. Gives the identifiers. -/
def insertMany (s : MemoryStore) (name : String) (documents : List Document) :
    List Value × MemoryStore :=
  let (documents, s) := s.identifyAll documents
  let target := s.collection name
  let ids := documents.map fun d => (Keyed.get? d "_id").getD .null
  let filled : Collection := { target with documents := target.documents ++ documents }
  (ids, { s with collections := Keyed.insert s.collections name filled })

/-- Adds one document. Gives its identifier. -/
def insertOne (s : MemoryStore) (name : String) (d : Document) : Value × MemoryStore :=
  let (ids, s) := s.insertMany name [d]
  (ids.headD .null, s)

/-- Gives a collection a text index over fields. -/
def createTextIndex (s : MemoryStore) (name : String) (fields : List String) : MemoryStore :=
  let indexed : Collection := { s.collection name with textIndex := some fields }
  { s with collections := Keyed.insert s.collections name indexed }

/-! ## Reading -/

/-- Filter, sort, cut and project. -/
def find (s : MemoryStore) (name : String) (query : FindQuery) :
    Except StoreError (List Document) :=
  match Keyed.get? s.collections name with
  | none => .ok []
  | some source => do
    let matched ← Matcher.select source.textIndex query.filter source.documents
    let sorted ← match query.sort with
      | some keys => Sorting.sort keys matched
      | none => .ok matched
    let rest := sorted.drop ((query.skip.getD 0).toNat)
    let page := match query.limit with
      | some limit => if limit = 0 then rest else rest.take limit.toNat
      | none => rest
    match query.projection with
    | some projection => page.mapM (Projection.project projection)
    | none => return page

/-- The number of documents that a filter holds of. -/
def count (s : MemoryStore) (name : String) (filter : Document) : Except StoreError Nat :=
  match Keyed.get? s.collections name with
  | none => .ok 0
  | some source => do
    return (← Matcher.select source.textIndex filter source.documents).length

/-- Runs stages over the documents of a collection. -/
def aggregate (s : MemoryStore) (name : String) (stages : List Document) :
    Except StoreError (List Document) :=
  let source := s.collection name
  Pipeline.run ⟨s.collections, source.textIndex⟩ stages source.documents

end MemoryStore
end DataGrid
