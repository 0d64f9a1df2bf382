import DataGrid.Document.Order
import DataGrid.Document.Path
import DataGrid.Pattern.Reader
import DataGrid.Store.Error
import DataGrid.Text.Casing

/-!
# DataGrid.Store.Matcher -- filters on documents

A filter is a document of clauses that all have to hold, read from left to right up to the
first that does not. Clauses under `$and`, `$or` and `$nor` hold lists of filters, `$text`
asks the text index, and every other key is a path with a condition on the value there.

A condition is a document of operators if its first key begins with a dollar sign, a
pattern, or a value to be equal to. A missing value compares like null. A list satisfies a
comparison when one of its items does.

A malformed filter fails when evaluation reaches the fault, and not before.
-/

namespace DataGrid.Store

/-- The fields of the text index of a collection, if it has one. -/
abbrev TextIndex := Option (List String)

/-- The text begins with a dollar sign. -/
def startsWithDollar (text : String) : Bool :=
  match text.toList with
  | '$' :: _ => true
  | _ => false

namespace Matcher

/-! ## Values under a path -/

/-- A test holds of the value, or of one of the items of a list. -/
def anyValue (actual : Option Value) (test : Value → Bool) : Bool :=
  match actual with
  | some (.array items) => items.any test
  | some value => test value
  | none => false

/-- Equality with an expected value. A list is also equal to what one of its items is
equal to, unless a list is expected. -/
def equals (actual : Option Value) (expected : Value) : Bool :=
  match actual with
  | none => expected.isNull
  | some (.array items) =>
    match expected with
    | .array _ => Value.equals (.array items) expected
    | _ => items.any fun item => item.equals expected
  | some value => value.equals expected

/-- Order relative to a bound within one kind. -/
def compares (actual : Option Value) (bound : Value) (accept : Ordering → Bool) : Bool :=
  anyValue (some (actual.getD .null)) fun value =>
    match value.compareWithin? bound with
    | some order => accept order
    | none => false

/-- How a value reads as yes or no. -/
def truthy : Value → Bool
  | .boolean flag => flag
  | .int32 n => n != 0
  | .int64 n => n != 0
  | .double x => !x.isZero
  | .null => false
  | _ => true

/-! ## Patterns -/

/-- The pattern of a text under option letters; unknown letters count for nothing. -/
def pattern (text options : String) : Except StoreError Pattern.Node :=
  let letters := options.toList
  let flags : Pattern.Flags :=
    { ignoreCase := letters.contains 'i', multiLine := letters.contains 'm',
      dotMatchesNewline := letters.contains 's', ignoreSpace := letters.contains 'x' }
  match Pattern.Node.read? flags text.toList with
  | some node => .ok node
  | none => .error (.malformedPattern text options)

/-- A pattern matches strings only. -/
def matchesText (node : Pattern.Node) : Value → Bool
  | .string text => node.matches text.toList
  | _ => false

/-- A pattern on the value under a path. -/
def matchesPattern (actual : Option Value) (text options : String) : Except StoreError Bool := do
  let node ← pattern text options
  return anyValue actual (matchesText node)

/-- One of the candidates is equal, or is a pattern that matches. -/
def inList (actual : Option Value) : List Value → Except StoreError Bool
  | [] => .ok false
  | candidate :: rest => do
    let found ← match candidate with
      | .regex text options => matchesPattern actual text options
      | other => .ok (equals actual other)
    if found then return true else inList actual rest

/-- The operand has to be a list of candidates. -/
def inOperand (actual : Option Value) (operator : String) : Value → Except StoreError Bool
  | .array candidates => inList actual candidates
  | _ => .error (.operandNotList operator)

/-- The options that stand beside a pattern. -/
def optionsOf (spec : Document) : String :=
  match Keyed.get? spec "$options" with
  | some (.string options) => options
  | _ => ""

/-! ## Conditions -/

/-- The first key of a condition makes it a document of operators. -/
def isOperatorDocument : Document → Bool
  | (key, _) :: _ => startsWithDollar key
  | [] => false

mutual

/-- A condition on the value under a path. -/
def condition (actual : Option Value) : Value → Except StoreError Bool
  | .document spec =>
    if isOperatorDocument spec then operators actual spec spec
    else .ok (equals actual (.document spec))
  | .regex text options => matchesPattern actual text options
  | expected => .ok (equals actual expected)

/-- Every operator of a document of operators. -/
def operators (actual : Option Value) (spec : Document) :
    List (String × Value) → Except StoreError Bool
  | [] => .ok true
  | (key, operand) :: rest => do
    if ← operator actual spec key operand then operators actual spec rest else return false

/-- One operator. -/
def operator (actual : Option Value) (spec : Document) (key : String) (operand : Value) :
    Except StoreError Bool :=
  match key with
  | "$eq" => .ok (equals actual operand)
  | "$ne" => .ok (!equals actual operand)
  | "$gt" => .ok (compares actual operand Ordering.isGT)
  | "$gte" => .ok (compares actual operand Ordering.isGE)
  | "$lt" => .ok (compares actual operand Ordering.isLT)
  | "$lte" => .ok (compares actual operand Ordering.isLE)
  | "$in" => inOperand actual key operand
  | "$nin" => (inOperand actual key operand).map not
  | "$exists" => .ok (actual.isSome == truthy operand)
  | "$regex" =>
    match operand with
    | .string text => matchesPattern actual text (optionsOf spec)
    | .regex text options => matchesPattern actual text options
    | _ => .error .patternNotText
  | "$options" => .ok true
  | "$not" => (condition actual operand).map not
  | other => .error (.unknownOperator other)

end

/-! ## The text index -/

/-- The words of a text in lower case. -/
def words (text : String) : List String :=
  let step (c : Char) : List (List Char) → List (List Char)
    | [] => if Text.isAlphanumeric c then [[c]] else [[]]
    | word :: others =>
      if Text.isAlphanumeric c then (c :: word) :: others else [] :: word :: others
  let parts := text.toList.foldr step []
  (parts.filter fun word => !word.isEmpty).map fun word => Text.lowerCase (String.ofList word)

/-- Some indexed field holds a string with one of the words searched for. -/
def searchText (index : TextIndex) (document : Document) (spec : Value) :
    Except StoreError Bool :=
  match index with
  | none => .error .textIndexRequired
  | some fields =>
    match spec with
    | .document spec =>
      match Keyed.get? spec "$search" with
      | some (.string search) =>
        let terms := words search
        .ok (fields.any fun field =>
          match Document.lookupText document field with
          | some (.string text) => (words text).any terms.contains
          | _ => false)
      | _ => .error .searchTextRequired
    | _ => .error .searchTextRequired

/-! ## Filters -/

/-- All clauses of a list are documents. -/
def allDocuments (items : List Value) : Bool := items.all fun item => item.document?.isSome

mutual

/-- A filter holds of a document. -/
def filter (index : TextIndex) (document : Document) :
    List (String × Value) → Except StoreError Bool
  | [] => .ok true
  | (key, spec) :: rest => do
    if ← clause index document key spec then filter index document rest else return false

/-- One clause of a filter. -/
def clause (index : TextIndex) (document : Document) (key : String) (spec : Value) :
    Except StoreError Bool :=
  match key with
  | "$and" => clauses index document key true spec
  | "$or" => clauses index document key false spec
  | "$nor" => (clauses index document key false spec).map not
  | "$text" => searchText index document spec
  | other =>
    if startsWithDollar other then .error (.unknownTopLevelOperator other)
    else condition (Document.lookupText document other) spec

/-- The filters under a logical operator: all of them hold, or one does. -/
def clauses (index : TextIndex) (document : Document) (key : String) (conjoin : Bool) :
    Value → Except StoreError Bool
  | .array items =>
    if allDocuments items then
      if conjoin then allHold index document items else anyHolds index document items
    else .error (.clauseNotDocument key)
  | _ => .error (.clausesNotList key)

/-- Every filter of a list holds. -/
def allHold (index : TextIndex) (document : Document) : List Value → Except StoreError Bool
  | .document fields :: rest => do
    if ← filter index document fields then allHold index document rest else return false
  | _ => .ok true

/-- Some filter of a list holds. -/
def anyHolds (index : TextIndex) (document : Document) : List Value → Except StoreError Bool
  | .document fields :: rest => do
    if ← filter index document fields then return true else anyHolds index document rest
  | _ => .ok false

end

/-- The documents of which a filter holds; the first failure is the failure of all. -/
def select (index : TextIndex) (spec : Document) : List Document → Except StoreError (List Document)
  | [] => .ok []
  | document :: rest => do
    let holds ← filter index document spec
    let others ← select index spec rest
    return if holds then document :: others else others

end Matcher
end DataGrid.Store
