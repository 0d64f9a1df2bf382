import DataGrid.Json.Basic

/-!
# DataGrid.Json.Reader -- text as trees

The grammar of JSON: one value between white space and nothing behind it. Names repeat
freely, nothing is allowed behind the last item of a list or field of an object, and white
space is the space, the tab and the two line ends.

Each reader takes the characters that are left and gives back what it read with the rest.
Two steps are made for every character at most, which bounds the steps of the whole.
-/

namespace DataGrid.Json.Reader

def isBlank (c : Char) : Bool := c == ' ' || c == '\t' || c == '\n' || c == '\r'

def skipBlanks (cs : List Char) : List Char := cs.dropWhile isBlank

/-- The characters of number literals. -/
def isNumeric (c : Char) : Bool :=
  c.isDigit || c == '-' || c == '+' || c == '.' || c == 'e' || c == 'E'

/-- A number literal and what follows it. -/
def number? (cs : List Char) : Option (Json × List Char) :=
  let literal := cs.takeWhile isNumeric
  if (Literal.ofChars? literal).isSome then
    some (.number literal, cs.dropWhile isNumeric)
  else none

mutual

/-- A value, with any white space before it. -/
def value? : Nat → List Char → Option (Json × List Char)
  | 0, _ => none
  | steps + 1, cs =>
    match skipBlanks cs with
    | 'n' :: 'u' :: 'l' :: 'l' :: rest => some (.null, rest)
    | 't' :: 'r' :: 'u' :: 'e' :: rest => some (.boolean true, rest)
    | 'f' :: 'a' :: 'l' :: 's' :: 'e' :: rest => some (.boolean false, rest)
    | '"' :: rest => (Quoted.scan? rest).map fun (written, rest) => (.text written, rest)
    | '[' :: rest =>
      match skipBlanks rest with
      | ']' :: rest => some (.list [], rest)
      | rest => (items? steps rest).map fun (items, rest) => (.list items, rest)
    | '{' :: rest =>
      match skipBlanks rest with
      | '}' :: rest => some (.object [], rest)
      | rest => (fields? steps rest).map fun (fields, rest) => (.object fields, rest)
    | rest => number? rest

/-- The items of a list up to its closing bracket. -/
def items? : Nat → List Char → Option (List Json × List Char)
  | 0, _ => none
  | steps + 1, cs => do
    let (first, rest) ← value? steps cs
    match skipBlanks rest with
    | ']' :: rest => some ([first], rest)
    | ',' :: rest => (items? steps rest).map fun (others, rest) => (first :: others, rest)
    | _ => none

/-- The fields of an object up to its closing brace. -/
def fields? : Nat → List Char → Option (List (List Char × Json) × List Char)
  | 0, _ => none
  | steps + 1, cs =>
    match skipBlanks cs with
    | '"' :: rest => do
      let (name, rest) ← Quoted.scan? rest
      match skipBlanks rest with
      | ':' :: rest => do
        let (value, rest) ← value? steps rest
        match skipBlanks rest with
        | '}' :: rest => some ([(name, value)], rest)
        | ',' :: rest =>
          (fields? steps rest).map fun (others, rest) => ((name, value) :: others, rest)
        | _ => none
      | _ => none
    | _ => none

end

end Reader

/-- The tree of a whole text. -/
def ofChars? (cs : List Char) : Option Json :=
  match Reader.value? (2 * cs.length + 1) cs with
  | some (j, rest) => if (Reader.skipBlanks rest).isEmpty then some j else none
  | none => none

/-- The tree of a text, if it is JSON. -/
def read? (text : String) : Option Json := ofChars? text.toList

end DataGrid.Json
