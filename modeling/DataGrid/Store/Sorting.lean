import DataGrid.Document.Order
import DataGrid.Document.Path
import DataGrid.Store.Error
import DataGrid.Store.StableSort

/-!
# DataGrid.Store.Sorting -- sorting documents

Documents are sorted by several keys, the first one deciding, each of them ascending or
descending. Sorting is stable: documents that tie on all keys keep their order, also under
descending keys. Values without a place in the order of values can make the comparison
inconsistent, and then the sort of many documents may give up.
-/

namespace DataGrid.Store.Sorting

/-- One sort key. -/
structure Key where
  path : Path
  descending : Bool

/-- The direction of a sort key: 1 or -1 of any width. -/
def direction? : Value → Option Bool
  | .int32 n => if n = 1 then some false else if n = -1 then some true else none
  | .int64 n => if n = 1 then some false else if n = -1 then some true else none
  | .double x =>
    if x.equals (Binary64.ofInt 1) then some false
    else if x.equals (Binary64.ofInt (-1)) then some true else none
  | _ => none

/-- The keys of a sort specification; the first that has no direction is the fault. -/
def keys : List (String × Value) → Except StoreError (List Key)
  | [] => .ok []
  | (field, direction) :: rest =>
    match direction? direction with
    | some descending => (keys rest).map (⟨Path.ofText field, descending⟩ :: ·)
    | none => .error (.sortDirection field)

/-- The order of two documents by one key. -/
def compareBy (key : Key) (a b : Document) : Ordering :=
  let order := Value.sortOrder (Document.lookup a key.path) (Document.lookup b key.path)
  if key.descending then order.swap else order

/-- The order of two documents by the first key that tells them apart. -/
def compareAll : List Key → Document → Document → Ordering
  | [], _, _ => .eq
  | key :: rest, a, b => (compareBy key a b).then (compareAll rest a b)

/-- The documents sorted by keys. -/
def sortByKeys (keys : List Key) (documents : List Document) :
    Except StoreError (List Document) :=
  match sortBy? (fun a b => (compareAll keys a b).isLT) documents with
  | some sorted => .ok sorted
  | none => .error .inconsistentOrder

/-- Sorts the documents that are held by a specification. -/
def sortInPlace (spec : Document) : ExceptT StoreError (StateM (List Document)) Unit := do
  let keys ← MonadExcept.ofExcept (keys spec)
  set (← MonadExcept.ofExcept (sortByKeys keys (← get)))

/-- The documents sorted by a specification. -/
def sort (spec : Document) (documents : List Document) : Except StoreError (List Document) :=
  match (sortInPlace spec).run.run documents with
  | (.ok (), sorted) => .ok sorted
  | (.error fault, _) => .error fault

end DataGrid.Store.Sorting
