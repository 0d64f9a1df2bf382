import DataGrid.Store.Grouping
import DataGrid.Store.Matcher
import DataGrid.Store.Projection
import DataGrid.Store.Sorting

/-!
# DataGrid.Store.Pipeline -- aggregation stages

A pipeline runs documents through stages one after the other. A stage is a document with
one field: its name, and what it is to do. Matching with a text search uses the text index
of the collection that the pipeline started from; joins look into the other collections.
-/

namespace DataGrid.Store

/-- The documents of one name, and the fields of its text index if it has one. -/
structure Collection where
  documents : List Document
  textIndex : TextIndex

def Collection.empty : Collection := ⟨[], none⟩

namespace Pipeline

/-- What stages can see beside the documents. -/
structure Context where
  collections : Keyed Collection
  textIndex : TextIndex

/-- The specification of a stage that needs a document. -/
def specDocument (name : String) : Value → Except StoreError Document
  | .document fields => .ok fields
  | _ => .error (.stageNotDocument name)

/-- The count of a stage that cuts: an integer of any kind that is not negative. -/
def window (name : String) (spec : Value) : Except StoreError Nat :=
  let count : Int := match spec with
    | .int32 n => n.toInt
    | .int64 n => n.toInt
    | .double x =>
      if x.isIntegral then x.clampToInt Int64.minValue.toInt Int64.maxValue.toInt else -1
    | _ => -1
  if count < 0 then .error (.windowNotCount name) else .ok count.toNat

/-! ## Fields -/

/-- Gives a document computed fields. Each sees those before it. -/
def addFields (d : Document) : List (String × Value) → Except StoreError Document
  | [] => .ok d
  | (field, expression) :: rest => do
    match ← Expression.evaluate d expression with
    | some value => addFields (Document.set d (Path.ofText field) value) rest
    | none => addFields d rest

/-- The strings of a list. -/
def names : List Value → Except StoreError (List String)
  | [] => .ok []
  | .string name :: rest => (names rest).map (name :: ·)
  | _ :: _ => .error .unsetNotNames

/-- The paths that a removal names: one or a list. -/
def unsetNames : Value → Except StoreError (List String)
  | .string name => .ok [name]
  | .array items => names items
  | _ => .error .unsetNotNames

/-- Removes paths from a document. -/
def unset (paths : List String) (d : Document) : Document :=
  paths.foldl (fun d path => Document.remove d (Path.ofText path)) d

/-! ## Counting -/

/-- One row with the number of documents, or no row when there are none. -/
def count (documents : List Document) : Value → Except StoreError (List Document)
  | .string field =>
    if field = "" || startsWithDollar field then .error .countFieldName
    else if documents.isEmpty then .ok []
    else
      let n : Int := documents.length
      let value : Value :=
        if n ≤ Int32.maxValue.toInt then .int32 (Int32.ofInt n)
        else .int64 (Int64.ofInt (min n Int64.maxValue.toInt))
      .ok [[(field, value)]]
  | _ => .error .countFieldName

/-! ## Joining -/

/-- A string field of the specification of a join. -/
def joinField (spec : Document) (name : String) : Except StoreError String :=
  match Keyed.get? spec name with
  | some (.string text) => .ok text
  | _ => .error (.lookupField name)

/-- A foreign value equals the local one, or one of its items. -/
def joins (foreign : Option Value) : Value → Bool
  | .array items => items.any fun item => (foreign.getD .null).equals item
  | value => (foreign.getD .null).equals value

/-- Puts the matching documents of another collection under a path. -/
def join (foreign : List Document) (localPath foreignPath target : Path) (d : Document) :
    Document :=
  let value := (Document.lookup d localPath).getD .null
  let joined := foreign.filter fun candidate =>
    joins (Document.lookup candidate foreignPath) value
  Document.set d target (.array (joined.map .document))

/-- The join stage. -/
def lookup (context : Context) (spec : Document) (documents : List Document) :
    Except StoreError (List Document) := do
  let source ← joinField spec "from"
  let localField ← joinField spec "localField"
  let foreignField ← joinField spec "foreignField"
  let target ← joinField spec "as"
  let foreign := (Keyed.get? context.collections source).getD .empty
  return documents.map (join foreign.documents (Path.ofText localField)
    (Path.ofText foreignField) (Path.ofText target))

/-! ## Stages -/

/-- One stage by its name. -/
def stage (context : Context) (name : String) (spec : Value) (documents : List Document) :
    Except StoreError (List Document) :=
  match name with
  | "$match" => do Matcher.select context.textIndex (← specDocument name spec) documents
  | "$sort" => do Sorting.sort (← specDocument name spec) documents
  | "$skip" => do return documents.drop (← window name spec)
  | "$limit" => do
    match ← window name spec with
    | 0 => .error .limitNotPositive
    | limit => return documents.take limit
  | "$addFields" | "$set" => do
    let fields ← specDocument name spec
    documents.mapM fun d => addFields d fields
  | "$unset" => do return documents.map (unset (← unsetNames spec))
  | "$project" => do
    let projection ← specDocument name spec
    documents.mapM (Projection.project projection)
  | "$count" => count documents spec
  | "$group" => do Grouping.group (← specDocument name spec) documents
  | "$lookup" => do lookup context (← specDocument name spec) documents
  | other => .error (.unknownStage other)

/-- Stages one after the other. -/
def run (context : Context) : List Document → List Document → Except StoreError (List Document)
  | [], documents => .ok documents
  | [(name, spec)] :: rest, documents => do
    run context rest (← stage context name spec documents)
  | _ :: _, _ => .error .stageFieldCount

end Pipeline
end DataGrid.Store
