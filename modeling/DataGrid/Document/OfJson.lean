import DataGrid.Document.Marked

/-!
# DataGrid.Document.OfJson -- JSON as values

A natural number becomes the narrowest integer that holds it, a negative one always the
wide integer; naturals beyond the wide integers are refused. The fields of an object are
read one by one, a repeated name giving its place to the first and its value to the last.
A field whose name is a mark ends this: the object is the marked value, whatever came
before, and nothing may come after.
-/

namespace DataGrid

namespace Value

/-- The value of a number. -/
def ofNumber? : Json.Number → Option Value
  | .natural n =>
    let value : Int := n.toNat
    if value ≤ Int32.maxValue.toInt then some (.int32 (Int32.ofInt value))
    else if value ≤ Int64.maxValue.toInt then some (.int64 (Int64.ofInt value))
    else none
  | .negative n => some (.int64 n)
  | .double x => some (.double x)

/-- A field name is the given one. -/
def isNamed (written : List Char) (name : String) : Bool :=
  Json.Quoted.decode? written == some name.toList

/-- Code with its scope, which has to be a document. -/
def scoped? (code : Json) (scope : Option Value) : Option Value := do
  return .codeWithScope (← code.text?) (← (← scope).document?)

mutual

/-- The value of a tree. -/
def ofJson? : Json → Option Value
  | .null => some .null
  | .boolean flag => some (.boolean flag)
  | .number literal => (Json.Number.ofLiteral? literal).bind ofNumber?
  | .text written => (Json.Quoted.decode? written).map fun text => .string (String.ofList text)
  | .list items => (itemsOfJson? items).map .array
  | .object fields => fieldsOfJson? [] fields

def itemsOfJson? : List Json → Option (List Value)
  | [] => some []
  | item :: rest => do return (← ofJson? item) :: (← itemsOfJson? rest)

/-- The value of an object, some of whose fields have been read. -/
def fieldsOfJson? (done : Document) : List (List Char × Json) → Option Value
  | [] => some (.document done)
  | (written, body) :: rest =>
    match Json.Quoted.decode? written with
    | none => none
    | some letters =>
      let name := String.ofList letters
      match Keyed.get? Marked.readers name with
      | some reader => if rest.isEmpty then reader body else none
      | none =>
        if name = "$code" then
          match rest with
          | [] => body.text?.map .code
          | [(second, scope)] =>
            if isNamed second "$scope" then scoped? body (ofJson? scope) else none
          | _ => none
        else if name = "$scope" then
          match rest with
          | [(second, text)] =>
            if isNamed second "$code" then scoped? text (ofJson? body) else none
          | _ => none
        else (ofJson? body).bind fun value => fieldsOfJson? (Keyed.insert done name value) rest

end

end Value

/-- The document of a tree, if it is one. -/
def Document.ofJson? (j : Json) : Option Document := (Value.ofJson? j).bind Value.document?

end DataGrid
