import DataGrid.Number.Binary64
import DataGrid.Number.Decimal128
import DataGrid.Document.ObjectId
import DataGrid.Keyed

/-!
# DataGrid.Document.Value -- what documents are made of

A document is a list of named values in a significant order, and a value is a scalar of
one of twenty kinds, a list of values, or a document again. Keys of a document are
distinct in every document this library builds: `Keyed.insert` replaces the value of a key
that is already there and keeps its place.

Two notions of sameness live here and in `DataGrid.Document.Order`. `Value.same` compares
kind by kind and is the finer one; numbers of different width are different. It looks
through the order of keys, and not-a-number is never the same as anything.
-/

namespace DataGrid

/-- A value of a document. -/
inductive Value where
  | null
  | undefined
  | minKey
  | maxKey
  | boolean (flag : Bool)
  | int32 (number : Int32)
  | int64 (number : Int64)
  | double (number : Binary64)
  | decimal128 (number : Decimal128)
  | string (text : String)
  | symbol (text : String)
  | code (text : String)
  | codeWithScope (text : String) (scope : List (String × Value))
  | regex (pattern : String) (options : String)
  | objectId (id : ObjectId)
  | dbPointer (collection : String) (id : ObjectId)
  | dateTime (millis : Int64)
  | timestamp (time : UInt32) (increment : UInt32)
  | binary (subtype : UInt8) (bytes : List UInt8)
  | array (items : List Value)
  | document (fields : List (String × Value))
deriving Inhabited

/-- Named values in order. -/
abbrev Document := Keyed Value

namespace Value

def document? : Value → Option Document
  | .document fields => some fields
  | _ => none

def isNull : Value → Bool
  | .null => true
  | _ => false

/-! ## Sameness -/

mutual

/-- Sameness of values: equal kinds and contents, documents up to the order of keys. -/
def same : Value → Value → Bool
  | .null, .null | .undefined, .undefined | .minKey, .minKey | .maxKey, .maxKey => true
  | .boolean x, .boolean y => x == y
  | .int32 x, .int32 y => x == y
  | .int64 x, .int64 y => x == y
  | .double x, .double y => x.equals y
  | .decimal128 x, .decimal128 y => x == y
  | .string x, .string y | .symbol x, .symbol y | .code x, .code y => x == y
  | .codeWithScope x scope, .codeWithScope y scope' =>
    x == y && scope.length == scope'.length && sameFields scope scope'
  | .regex p o, .regex p' o' => p == p' && o == o'
  | .objectId x, .objectId y => x == y
  | .dbPointer c x, .dbPointer c' y => c == c' && x == y
  | .dateTime x, .dateTime y => x == y
  | .timestamp t i, .timestamp t' i' => t == t' && i == i'
  | .binary s b, .binary s' b' => s == s' && b == b'
  | .array xs, .array ys => sameItems xs ys
  | .document xs, .document ys => xs.length == ys.length && sameFields xs ys
  | _, _ => false

/-- Sameness item by item. -/
def sameItems : List Value → List Value → Bool
  | [], [] => true
  | x :: xs, y :: ys => same x y && sameItems xs ys
  | _, _ => false

/-- Every field of the first list has a sameness partner under its key in the second. -/
def sameFields : List (String × Value) → List (String × Value) → Bool
  | [], _ => true
  | (key, x) :: rest, ys =>
    (match List.lookup key ys with
      | some y => same x y
      | none => false) && sameFields rest ys

end

end Value
end DataGrid
