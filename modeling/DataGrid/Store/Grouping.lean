import DataGrid.Store.Accumulator
import DataGrid.Store.Expression

/-!
# DataGrid.Store.Grouping -- rows of equal keys

Documents are put into groups by the value of an expression, equal across the number
kinds. Groups stand in the order in which their keys first appear, and the first key is
the key of the row. Beside it a row holds the results of accumulators over its documents.
-/

namespace DataGrid.Store.Grouping

/-- An accumulated field of a row. -/
structure Field where
  name : String
  fresh : Accumulator
  argument : Value

/-- A row as far as it is filled. -/
structure Group where
  key : Value
  states : List Accumulator

/-- The fields of a specification, without the key. -/
def fields : List (String × Value) → Except StoreError (List Field)
  | [] => .ok []
  | (name, definition) :: rest =>
    if name = "_id" then fields rest
    else match definition with
      | .document ((operator, argument) :: _) => do
        let fresh ← Accumulator.new operator
        return ⟨name, fresh, argument⟩ :: (← fields rest)
      | _ => .error (.accumulatorNotDocument name)

/-- The values of a document for the fields. -/
def arguments (d : Document) : List Field → Except StoreError (List (Option Value))
  | [] => .ok []
  | field :: rest => do
    let value ← Expression.evaluate d field.argument
    return value :: (← arguments d rest)

/-- Adds values to the group of a key, which is opened if it is not there. -/
def addTo (fields : List Field) (key : Value) (values : List (Option Value)) :
    List Group → List Group
  | [] => [⟨key, List.zipWith Accumulator.add (fields.map Field.fresh) values⟩]
  | group :: rest =>
    if group.key.equals key then
      ⟨group.key, List.zipWith Accumulator.add group.states values⟩ :: rest
    else group :: addTo fields key values rest

/-- Puts documents into groups one by one. -/
def collect (fields : List Field) (key : Value) (groups : List Group) :
    List Document → Except StoreError (List Group)
  | [] => .ok groups
  | d :: rest => do
    let value ← Expression.evaluate d key
    let values ← arguments d fields
    collect fields key (addTo fields (value.getD .null) values groups) rest

/-- The row of a group. -/
def row (fields : List Field) (group : Group) : Document :=
  Keyed.ofEntries (("_id", group.key) ::
    List.zipWith (fun field state => (field.name, state.result)) fields group.states)

/-- The rows of documents under a specification. -/
def group (spec : Document) (documents : List Document) : Except StoreError (List Document) :=
  match Keyed.get? spec "_id" with
  | none => .error .groupKeyRequired
  | some key => do
    let fields ← fields spec
    let groups ← collect fields key [] documents
    return groups.map (row fields)

end DataGrid.Store.Grouping
