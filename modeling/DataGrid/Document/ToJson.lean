import DataGrid.Document.Value
import DataGrid.Json.Basic
import DataGrid.Number.Layout
import DataGrid.Text.Base64

/-!
# DataGrid.Document.ToJson -- values as JSON

Null, booleans, numbers, strings, lists and documents are written as what they are; the
width of an integer is lost, and a double that JSON cannot write is null. Every other
value is an object whose field name begins with a dollar sign. Plain bytes are a list of
numbers.
-/

namespace DataGrid

namespace Json

/-- An object with one field. -/
def single (name : String) (value : Json) : Json := .object [field name value]

/-- A double; what is not finite becomes null. -/
def ofBinary64 (x : Binary64) : Json :=
  if x.isFinite then .number (Layout.json.write x).toList else .null

end Json

namespace Value

open Json (single field ofText ofInt ofNat)

/-- The object that stands for an identifier. -/
def objectIdToJson (id : ObjectId) : Json := single "$oid" (ofText id.toHex)

/-- Bytes of the plain kind, or with their kind. -/
def binaryToJson (subtype : UInt8) (bytes : List UInt8) : Json :=
  if subtype = 0 then .list (bytes.map fun byte => ofNat byte.toNat)
  else single "$binary" (.object
    [field "base64" (ofText (String.ofList (Base64.encode bytes))),
     field "subType" (ofText (String.ofList (Hex.ofNat 2 subtype.toNat)))])

mutual

def toJson : Value → Json
  | .null => .null
  | .undefined => single "$undefined" (.boolean true)
  | .minKey => single "$minKey" (ofNat 1)
  | .maxKey => single "$maxKey" (ofNat 1)
  | .boolean flag => .boolean flag
  | .int32 n => ofInt n.toInt
  | .int64 n => ofInt n.toInt
  | .double x => .ofBinary64 x
  | .decimal128 x => single "$numberDecimal" (ofText x.toText)
  | .string text => ofText text
  | .symbol text => single "$symbol" (ofText text)
  | .code text => single "$code" (ofText text)
  | .codeWithScope text scope =>
    .object [field "$code" (ofText text), field "$scope" (.object (fieldsToJson scope))]
  | .regex pattern options => single "$regularExpression" (.object
      [field "pattern" (ofText pattern), field "options" (ofText options)])
  | .objectId id => objectIdToJson id
  | .dbPointer collection id => single "$dbPointer" (.object
      [field "$ref" (ofText collection), field "$id" (objectIdToJson id)])
  | .dateTime millis =>
    single "$date" (single "$numberLong" (ofText (toString millis.toInt)))
  | .timestamp time increment => single "$timestamp" (.object
      [field "t" (ofNat time.toNat), field "i" (ofNat increment.toNat)])
  | .binary subtype bytes => binaryToJson subtype bytes
  | .array items => .list (itemsToJson items)
  | .document fields => .object (fieldsToJson fields)

def itemsToJson : List Value → List Json
  | [] => []
  | item :: rest => toJson item :: itemsToJson rest

def fieldsToJson : List (String × Value) → List (List Char × Json)
  | [] => []
  | (name, value) :: rest => field name (toJson value) :: fieldsToJson rest

end

end Value

/-- A document as an object. -/
def Document.toJson (d : Document) : Json := .object (Value.fieldsToJson d)

end DataGrid
