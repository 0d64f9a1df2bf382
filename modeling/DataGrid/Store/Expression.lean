import DataGrid.Document.Display
import DataGrid.Document.Path
import DataGrid.Store.Matcher
import DataGrid.Text.Casing

/-!
# DataGrid.Store.Expression -- computed values

An expression is a value that is read on a document. A string that begins with one dollar
sign names a path; a document whose first key begins with a dollar sign applies that
operator; other documents and lists are computed part by part; everything else stands for
itself.

The result may be missing, when a path does not resolve. A missing part of a document is
left out, a missing item of a list is null.
-/

namespace DataGrid.Store.Expression

/-- The path that a string names, if it names one. -/
def reference? (text : String) : Option Path :=
  match text.toList with
  | '$' :: '$' :: _ => none
  | '$' :: rest => some (Path.ofText (String.ofList rest))
  | _ => none

mutual

/-- The value of an expression on a document, if it has one. -/
def evaluate (d : Document) : Value → Except StoreError (Option Value)
  | .string text =>
    match reference? text with
    | some path => .ok (Document.lookup d path)
    | none => .ok (some (.string text))
  | .document [] => .ok (some (.document []))
  | .document ((key, argument) :: rest) =>
    if startsWithDollar key then (apply d key argument).map some
    else do
      let first ← evaluate d argument
      let others ← fields d rest
      return some (.document (Keyed.ofEntries
        (match first with
        | some value => (key, value) :: others
        | none => others)))
  | .array items => do return some (.array (← evaluateItems d items))
  | literal => .ok (some literal)

/-- The fields of a document that are not missing. -/
def fields (d : Document) : List (String × Value) → Except StoreError (List (String × Value))
  | [] => .ok []
  | (key, argument) :: rest => do
    let first ← evaluate d argument
    let others ← fields d rest
    return match first with
      | some value => (key, value) :: others
      | none => others

/-- The items of a list. -/
def evaluateItems (d : Document) : List Value → Except StoreError (List Value)
  | [] => .ok []
  | item :: rest => do
    let first ← evaluate d item
    let others ← evaluateItems d rest
    return first.getD .null :: others

/-- The only argument of an operator, which may be wrapped in a list. -/
def single (d : Document) : Value → Except StoreError Value
  | .array [] => .ok .null
  | .array (first :: _) => do return (← evaluate d first).getD .null
  | argument => do return (← evaluate d argument).getD .null

/-- The first item that is neither missing nor null. -/
def firstPresent (d : Document) : List Value → Except StoreError Value
  | [] => .ok .null
  | item :: rest => do
    match ← evaluate d item with
    | none | some .null => firstPresent d rest
    | some value => return value

/-- The strings of a list one behind the other, or nothing if an item is missing or null
before any fault. -/
def concat (d : Document) (joined : String) : List Value → Except StoreError Value
  | [] => .ok (.string joined)
  | item :: rest => do
    match ← evaluate d item with
    | some (.string part) => concat d (joined ++ part) rest
    | none | some .null => return .null
    | some _ => .error .concatNotText

/-- An operator on its argument. -/
def apply (d : Document) (operator : String) (argument : Value) : Except StoreError Value :=
  match operator with
  | "$literal" => .ok argument
  | "$toLower" => do return .string (Text.lowerCase (← single d argument).caseText)
  | "$toUpper" => do return .string (Text.upperCase (← single d argument).caseText)
  | "$ifNull" =>
    match argument with
    | .array items => firstPresent d items
    | _ => .error (.expressionNotList operator)
  | "$concat" =>
    match argument with
    | .array items => concat d "" items
    | _ => .error (.expressionNotList operator)
  | other => .error (.unknownExpression other)

end

end DataGrid.Store.Expression
