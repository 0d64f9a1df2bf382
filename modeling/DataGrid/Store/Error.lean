/-!
# DataGrid.Store.Error -- why a store refuses

Each way in which a filter, a pipeline or an expression can be malformed is a cause of its
own, with one wording and one server code. `reported` stands for what another store might
answer; nothing in this library raises it by itself.

Three codes occur: `badValue` for malformed input, `indexNotFound` for a text search
without a text index, and `unknownStage` for a stage that does not exist.

`inconsistentOrder` is no refusal. The sort has given up in the middle of its work, and the
program breaks off there: nothing handles it, nobody is answered, and it has no code.
-/

namespace DataGrid

/-- A failure of the document store. -/
inductive StoreError where
  | reported (code : Option Int) (message : String)
  -- filters
  | unknownTopLevelOperator (operator : String)
  | clausesNotList (operator : String)
  | clauseNotDocument (operator : String)
  | unknownOperator (operator : String)
  | operandNotList (operator : String)
  | patternNotText
  /-- The pattern with its options. The wording stops where what is wrong with them begins. -/
  | malformedPattern (text options : String)
  | textIndexRequired
  | searchTextRequired
  -- pipelines
  | stageFieldCount
  | unknownStage (name : String)
  | stageNotDocument (name : String)
  | windowNotCount (name : String)
  | limitNotPositive
  | sortDirection (field : String)
  | unsetNotNames
  | countFieldName
  | exclusionInInclusion (field : String)
  | lookupField (name : String)
  | groupKeyRequired
  | accumulatorNotDocument (field : String)
  | unknownAccumulator (operator : String)
  -- expressions
  | unknownExpression (operator : String)
  | expressionNotList (operator : String)
  | concatNotText
  -- sorting
  | inconsistentOrder
deriving DecidableEq, Repr

namespace StoreError

/-- An index that a query needs does not exist. -/
def indexNotFound : Int := 27

/-- A malformed operator or stage. -/
def badValue : Int := 2

/-- A stage with an unknown name. -/
def unknownStageCode : Int := 40324

/-- The server code of a failure, if it has one. -/
def code : StoreError → Option Int
  | reported code _ => code
  | textIndexRequired => some indexNotFound
  | unknownStage _ => some unknownStageCode
  | inconsistentOrder => none
  | _ => some badValue

/-- The wording of a failure. -/
def message : StoreError → String
  | reported _ message => message
  | unknownTopLevelOperator operator => "unknown top level operator: " ++ operator
  | clausesNotList operator => operator ++ " must be an array"
  | clauseNotDocument operator => operator ++ " entries must be documents"
  | unknownOperator operator => "unknown operator: " ++ operator
  | operandNotList operator => operator ++ " needs an array"
  | patternNotText => "$regex has to be a string"
  | malformedPattern _ _ => "invalid regular expression"
  | textIndexRequired => "text index required for $text query"
  | searchTextRequired => "$text requires a $search string"
  | stageFieldCount =>
    "a pipeline stage specification object must contain exactly one field"
  | unknownStage name => "Unrecognized pipeline stage name: '" ++ name ++ "'"
  | stageNotDocument name => name ++ " specification must be an object"
  | windowNotCount name => name ++ " must be a non-negative integer"
  | limitNotPositive => "the limit must be positive"
  | sortDirection field => "$sort key '" ++ field ++ "' must be 1 or -1"
  | unsetNotNames => "$unset specification must be a string or array of strings"
  | countFieldName => "the count field must be a non-empty string"
  | exclusionInInclusion field =>
    "Cannot do exclusion on field " ++ field ++ " in inclusion projection"
  | lookupField name => "$lookup requires a '" ++ name ++ "' string"
  | groupKeyRequired => "a group specification must include an _id"
  | accumulatorNotDocument field =>
    "the field '" ++ field ++ "' must be an accumulator object"
  | unknownAccumulator operator => "unknown group operator '" ++ operator ++ "'"
  | unknownExpression operator => "Unrecognized expression '" ++ operator ++ "'"
  | expressionNotList operator => operator ++ " needs an array"
  | concatNotText => "$concat only supports strings"
  | inconsistentOrder =>
    "user-provided comparison function does not correctly implement a total order"

/-- The failure is a missing text index. -/
def isMissingIndex (e : StoreError) : Bool := e.code == some indexNotFound

/-- The program breaks off. -/
def breaksOff : StoreError → Bool
  | inconsistentOrder => true
  | _ => false

end StoreError
end DataGrid
