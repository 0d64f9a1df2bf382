import DataGrid.Calendar.Rendering
import DataGrid.Document.Value
import DataGrid.Number.Layout
import DataGrid.Text.Base64

/-!
# DataGrid.Document.Display -- values as plain text

The text form of a value: what a pattern condition searches for when it is given a value
that is no string, and what case conversion turns into letters. Strings inside containers
are quoted but not escaped, so the form is for people and does not read back.
-/

namespace DataGrid

namespace Display

/-- A date-time with an unpadded hour and as much of the fraction as is needed, at least
one digit of it. -/
def momentText (f : Calendar.Fields) : String :=
  let millis := f.nanos / 1000000
  let fraction :=
    if millis % 100 = 0 then toString (millis / 100)
    else if millis % 10 = 0 then Calendar.Rendering.digits 2 (millis / 10)
    else Calendar.Rendering.digits 3 millis
  Calendar.Rendering.year .zero f.date.year ++ "-" ++
    Calendar.Rendering.digits 2 f.date.month ++ "-" ++
    Calendar.Rendering.digits 2 f.date.day ++ " " ++ toString f.hour ++ ":" ++
    Calendar.Rendering.digits 2 f.minute ++ ":" ++
    Calendar.Rendering.digits 2 f.second ++ "." ++ fraction ++ " +00:00:00"

/-- The moment of a millisecond count, or the count itself when its year has more than
six digits. -/
def dateTimeText (millis : Int) : String :=
  let f := Calendar.Fields.ofMillisUnbounded millis
  if f.date.year.natAbs ≤ 999999 then momentText f else toString millis

end Display

namespace Value

mutual

/-- The text form of a value inside a container: strings stand in quotes. -/
def nestedText : Value → String
  | .null => "null"
  | .undefined => "undefined"
  | .minKey => "MinKey"
  | .maxKey => "MaxKey"
  | .boolean flag => if flag then "true" else "false"
  | .int32 n => toString n.toInt
  | .int64 n => toString n.toInt
  | .double x => Layout.plain.write x
  | .decimal128 x => x.toText
  | .string text => "\"" ++ text ++ "\""
  | .symbol text => "Symbol(\"" ++ text ++ "\")"
  | .code text => text
  | .codeWithScope text _ => text
  | .regex pattern options => "/" ++ pattern ++ "/" ++ options
  | .objectId id => "ObjectId(\"" ++ id.toHex ++ "\")"
  | .dbPointer collection id => "DbPointer(" ++ collection ++ ", " ++ id.toHex ++ ")"
  | .dateTime millis => "DateTime(\"" ++ Display.dateTimeText millis.toInt ++ "\")"
  | .timestamp time increment =>
    "Timestamp(" ++ toString time.toNat ++ ", " ++ toString increment.toNat ++ ")"
  | .binary subtype bytes =>
    "Binary(0x" ++ String.ofList (Hex.shortOfNat subtype.toNat) ++ ", " ++
      String.ofList (Base64.encode bytes) ++ ")"
  | .array items => "[" ++ ", ".intercalate (itemTexts items) ++ "]"
  | .document fields =>
    match fieldTexts fields with
    | [] => "\x7b\x7d"
    | texts => "\x7b " ++ ", ".intercalate texts ++ " \x7d"

def itemTexts : List Value → List String
  | [] => []
  | item :: rest => nestedText item :: itemTexts rest

def fieldTexts : List (String × Value) → List String
  | [] => []
  | (key, value) :: rest => ("\"" ++ key ++ "\": " ++ nestedText value) :: fieldTexts rest

end

/-- The text that a value contributes to a pattern: a string as it is, nothing for null,
and the text form of anything else. -/
def patternText : Value → String
  | .string text => text
  | .null => ""
  | other => other.nestedText

/-- The text that case conversion works on: as for patterns, and nothing for undefined. -/
def caseText : Value → String
  | .undefined => ""
  | other => other.patternText

end Value
end DataGrid
