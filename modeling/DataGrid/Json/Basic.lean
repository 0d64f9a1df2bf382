import DataGrid.Json.Number
import DataGrid.Json.Quoted

/-!
# DataGrid.Json.Basic -- JSON texts as trees

The tree of a JSON text keeps numbers, strings and field names as they are written, so
that nothing is lost or judged before it is known what a part of the text is wanted for.
Fields are a list: names may repeat.
-/

namespace DataGrid

inductive Json where
  | null
  | boolean (flag : Bool)
  | number (literal : List Char)
  | text (written : List Char)
  | list (items : List Json)
  | object (fields : List (List Char × Json))
deriving Inhabited, Repr

namespace Json

/-! ## Making trees -/

def ofText (text : String) : Json := .text (Quoted.encode text.toList)

def ofInt (n : Int) : Json := .number (toString n).toList

def ofNat (n : Nat) : Json := .number (toString n).toList

/-- A field of an object. -/
def field (name : String) (value : Json) : List Char × Json :=
  (Quoted.encode name.toList, value)

/-! ## Taking trees apart -/

/-- The text of a string. -/
def text? : Json → Option String
  | .text written => (Quoted.decode? written).map String.ofList
  | _ => none

/-- What a number stands for. -/
def number? : Json → Option Number
  | .number literal => Number.ofLiteral? literal
  | _ => none

def list? : Json → Option (List Json)
  | .list items => some items
  | _ => none

/-- The fields of an object with their names as texts. -/
def fields? : Json → Option (List (String × Json))
  | .object fields => fields.mapM fun (name, value) =>
    (Quoted.decode? name).map fun name => (String.ofList name, value)
  | _ => none

/-- The values of an object that has exactly the fields of the given names, each once and
in any order; or the items of a list of as many. They come in the order of the names. -/
def record? (names : List String) : Json → Option (List Json)
  | .list items => if items.length = names.length then some items else none
  | other => do
    let fields ← other.fields?
    if fields.length ≠ names.length then none
    names.mapM fun name => fields.lookup name

/-- The value of an object with a single field of the given name, or of a list of one. -/
def single? (name : String) (j : Json) : Option Json := (j.record? [name]).bind List.head?

/-! ## Depth -/

mutual

/-- How many lists and objects are inside each other, the outermost included. -/
def depth : Json → Nat
  | .list items => depthOfItems items + 1
  | .object fields => depthOfFields fields + 1
  | _ => 0

def depthOfItems : List Json → Nat
  | [] => 0
  | item :: rest => max (depth item) (depthOfItems rest)

def depthOfFields : List (List Char × Json) → Nat
  | [] => 0
  | (_, value) :: rest => max (depth value) (depthOfFields rest)

end

end Json
end DataGrid
