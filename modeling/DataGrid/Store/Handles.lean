import DataGrid.Store.Memory

/-!
# DataGrid.Store.Handles -- a store and its clones

A clone of a store leads to the same collections, so what is written through one of them is read
through all. A program holds handles: each leads to a place, and the places hold the stores. A
step goes through a handle, and a clone is one more handle to its place.
-/

namespace DataGrid

/-- What a program does with a store beside reading it. -/
inductive StoreStep where
  | insertMany (name : String) (documents : List Document)
  | insertOne (name : String) (document : Document)
  | createTextIndex (name : String) (fields : List String)
  | clone

/-- What the program is told. -/
inductive StoreAnswer where
  | identifiers (ids : List Value)
  | identifier (id : Value)
  | done

namespace StoreStep

/-- What a step does to the store it is for. -/
def perform : StoreStep → MemoryStore → StoreAnswer × MemoryStore
  | insertMany name documents, s =>
    let (ids, s) := s.insertMany name documents
    (.identifiers ids, s)
  | insertOne name document, s =>
    let (id, s) := s.insertOne name document
    (.identifier id, s)
  | createTextIndex name fields, s => (.done, s.createTextIndex name fields)
  | clone, s => (.done, s)

/-- The new handles of a step through a handle to a place. -/
def opened (place : Nat) : StoreStep → List Nat
  | clone => [place]
  | _ => []

end StoreStep

/-- A step through a handle. -/
structure StoreCall where
  handle : Nat
  step : StoreStep

structure Handles where
  places : List MemoryStore
  /-- The place that each handle leads to. -/
  targets : List Nat

namespace Handles

/-- One handle to a new store. -/
def new (fresh : Nat → ObjectId) : Handles := ⟨[.new fresh], [0]⟩

/-- The store that a handle leads to. -/
def store? (s : Handles) (handle : Nat) : Option MemoryStore := do
  s.places[← s.targets[handle]?]?

/-- One step, if there is such a handle. -/
def step? (s : Handles) (call : StoreCall) : Option (StoreAnswer × Handles) := do
  let place ← s.targets[call.handle]?
  let store ← s.places[place]?
  let (answer, store) := call.step.perform store
  return (answer, ⟨s.places.set place store, s.targets ++ call.step.opened place⟩)

/-- Steps one after the other. -/
def run? (s : Handles) : List StoreCall → Option (List StoreAnswer × Handles)
  | [] => some ([], s)
  | call :: rest => do
    let (answer, s) ← s.step? call
    let (answers, s) ← s.run? rest
    return (answer :: answers, s)

end Handles
end DataGrid
