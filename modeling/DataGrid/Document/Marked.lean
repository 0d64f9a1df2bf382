import DataGrid.Calendar.Exchange
import DataGrid.Document.Value
import DataGrid.Json.Basic
import DataGrid.Number.Reading
import DataGrid.Text.Base64

/-!
# DataGrid.Document.Marked -- the values behind dollar signs

In JSON a value of a kind that JSON lacks is an object with a field whose name marks the
kind. `readers` lists the marks, and what each reads from the value of its field. A body
that is an object has exactly the fields of its kind; a list of their values in order is
as good.

Code with a scope has two marks and is read in `DataGrid.Document.OfJson`.
-/

namespace DataGrid.Marked

/-! ## Numbers -/

def int32? (j : Json) : Option Value := do
  let n ← integerWithin? Int32.minValue.toInt Int32.maxValue.toInt (← j.text?)
  return .int32 (Int32.ofInt n)

/-- A 64-bit integer in text. -/
def long? (j : Json) : Option Int64 := do
  let n ← integerWithin? Int64.minValue.toInt Int64.maxValue.toInt (← j.text?)
  return Int64.ofInt n

def double? (j : Json) : Option Value := do
  return .double (← Binary64.ofText? (← j.text?))

def decimal? (j : Json) : Option Value := do
  return .decimal128 (← Decimal128.ofText? (← j.text?))

/-- A natural number literal below a bound. -/
def natural? (bound : Nat) (j : Json) : Option Nat :=
  match j.number? with
  | some (.natural n) => if n.toNat < bound then some n.toNat else none
  | _ => none

/-! ## Identifiers and bytes -/

def objectId? (j : Json) : Option ObjectId := do ObjectId.ofHex? (← j.text?)

/-- A collection and an identifier in it. -/
def dbPointer? (j : Json) : Option Value :=
  match j.record? ["$ref", "$id"] with
  | some [collection, id] => do
    return .dbPointer (← collection.text?) (← objectId? (← id.single? "$oid"))
  | _ => none

/-- Bytes in Base64, and their kind in two hexadecimal digits. -/
def binary? (j : Json) : Option Value :=
  match j.record? ["base64", "subType"] with
  | some [bytes, subtype] => do
    let bytes ← Base64.decode? (← bytes.text?).toList
    match ← Hex.toBytes? (← subtype.text?).toList with
    | [subtype] => return .binary subtype bytes
    | _ => none
  | _ => none

/-- The groups of digits of an identifier of 128 bits are parted by hyphens. -/
def hyphenated? (cs : List Char) : Option (List Char) :=
  let isHyphen (index : Nat) : Bool := cs[index]? == some '-'
  if cs.length = 36 && isHyphen 8 && isHyphen 13 && isHyphen 18 && isHyphen 23 then
    some (cs.take 8 ++ (cs.drop 9).take 4 ++ (cs.drop 14).take 4 ++ (cs.drop 19).take 4 ++
      cs.drop 24)
  else none

/-- The digits of an identifier of 128 bits: bare, with hyphens, and the latter also in
braces or behind the words of a resource name in any case. -/
def uuidDigits? (cs : List Char) : Option (List Char) :=
  if cs.length = 32 then some cs
  else if cs.length = 38 && cs.head? == some '{' && cs.getLast? == some '}' then
    hyphenated? ((cs.drop 1).take 36)
  else if cs.length = 45 && (cs.take 9).map Char.toLower == "urn:uuid:".toList then
    hyphenated? (cs.drop 9)
  else hyphenated? cs

/-- The kind of the bytes of such an identifier. -/
def uuidSubtype : UInt8 := 4

def uuid? (j : Json) : Option Value := do
  let bytes ← Hex.toBytes? (← uuidDigits? (← j.text?).toList)
  return .binary uuidSubtype bytes

/-! ## The other kinds -/

def symbol? (j : Json) : Option Value := j.text?.map .symbol

def timestamp? (j : Json) : Option Value :=
  match j.record? ["t", "i"] with
  | some [time, increment] => do
    let time ← natural? UInt32.size time
    let increment ← natural? UInt32.size increment
    return .timestamp (UInt32.ofNat time) (UInt32.ofNat increment)
  | _ => none

/-- The options of a pattern in their order. -/
def sortOptions (options : String) : String :=
  String.ofList (options.toList.mergeSort fun a b => decide (a ≤ b))

def regex? (j : Json) : Option Value :=
  match j.record? ["pattern", "options"] with
  | some [pattern, options] => do
    return .regex (← pattern.text?) (sortOptions (← options.text?))
  | _ => none

/-- Milliseconds: in text under a mark of their own, as a date-time in text, or as an
integer. -/
def date? (j : Json) : Option Value :=
  match j with
  | .text _ => do
    let millis ← Calendar.Exchange.millis? (← j.text?)
    return .dateTime (Int64.ofInt millis)
  | .number _ =>
    match j.number? with
    | some (.natural n) =>
      if (n.toNat : Int) ≤ Int64.maxValue.toInt then some (.dateTime (Int64.ofInt n.toNat))
      else none
    | some (.negative n) => some (.dateTime n)
    | _ => none
  | _ => do return .dateTime (← long? (← j.single? "$numberLong"))

/-- A value whose body can only be the number 1. -/
def one? (value : Value) (j : Json) : Option Value :=
  (natural? 2 j).bind fun n => if n = 1 then some value else none

def undefined? : Json → Option Value
  | .boolean true => some .undefined
  | _ => none

/-- The marks that stand alone. -/
def readers : Keyed (Json → Option Value) :=
  [("$oid", fun j => (objectId? j).map .objectId),
   ("$symbol", symbol?),
   ("$numberInt", int32?),
   ("$numberLong", fun j => (long? j).map .int64),
   ("$numberDouble", double?),
   ("$numberDecimal", decimal?),
   ("$binary", binary?),
   ("$uuid", uuid?),
   ("$timestamp", timestamp?),
   ("$regularExpression", regex?),
   ("$dbPointer", dbPointer?),
   ("$date", date?),
   ("$minKey", one? .minKey),
   ("$maxKey", one? .maxKey),
   ("$undefined", undefined?)]

end DataGrid.Marked
