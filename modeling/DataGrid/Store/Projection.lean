import DataGrid.Store.Expression

/-!
# DataGrid.Store.Projection -- choosing the fields of documents

A projection either includes or excludes. It includes when some entry other than `_id` is
no exclusion; then the result holds what the entries name or compute, and `_id` unless
that is excluded. Otherwise every path that is named is removed. An exclusion among
inclusions is refused, except of `_id`.
-/

namespace DataGrid.Store.Projection

/-- False, or a zero of any width. -/
def isExclusion : Value → Bool
  | .boolean flag => !flag
  | .int32 n => n == 0
  | .int64 n => n == 0
  | .double x => x.isZero
  | _ => false

/-- True, or a number that is not zero. -/
def isInclusion : Value → Bool
  | .boolean flag => flag
  | .int32 n => n != 0
  | .int64 n => n != 0
  | .double x => !x.isZero
  | _ => false

/-- The projection builds a document instead of reducing one. -/
def includes (projection : Document) : Bool :=
  projection.any fun entry => entry.1 != "_id" && !isExclusion entry.2

/-- Removes every path that is named. -/
def exclude (d : Document) (projection : Document) : Document :=
  projection.foldl (fun d entry => Document.remove d (Path.ofText entry.1)) d

/-- The identifier, unless it is missing or excluded. -/
def identifier (d : Document) (projection : Document) : Document :=
  let excluded := match Keyed.get? projection "_id" with
    | some value => isExclusion value
    | none => false
  match excluded, Keyed.get? d "_id" with
  | false, some id => [("_id", id)]
  | _, _ => []

/-- What an entry puts under its path: what is there, or what it computes. -/
def entryValue (d : Document) (path : String) (entry : Value) :
    Except StoreError (Option Value) :=
  if isExclusion entry then .error (.exclusionInInclusion path)
  else if isInclusion entry then .ok (Document.lookupText d path)
  else Expression.evaluate d entry

/-- Adds the entries to what is built so far. -/
def build (d : Document) (built : Document) :
    List (String × Value) → Except StoreError Document
  | [] => .ok built
  | (path, entry) :: rest =>
    if path = "_id" then build d built rest
    else do
      match ← entryValue d path entry with
      | some value => build d (Document.set built (Path.ofText path) value) rest
      | none => build d built rest

/-- The document under a projection. -/
def project (projection : Document) (d : Document) : Except StoreError Document :=
  if includes projection then build d (identifier d projection) projection
  else .ok (exclude d projection)

end DataGrid.Store.Projection
