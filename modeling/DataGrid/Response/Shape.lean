import DataGrid.Calendar.Rendering
import DataGrid.Document.Value
import DataGrid.Error

/-!
# DataGrid.Response.Shape -- documents for clients

Stored documents are made presentable at their top level: an object identifier becomes a
field `id` with its hexadecimal text, at its place, and a date-time becomes text in the
format of the resource. A document that holds an object identifier gives up a field `id`
of its own, wherever that stands.

The format is checked before any document is looked at.
-/

namespace DataGrid.Shape

/-- The two formats that come with the library. -/
def dateTimeUtc : String := "%Y-%m-%dT%H:%M:%SZ"
def dateTime : String := "%Y-%m-%d %H:%M:%S"

def isObjectId : Value → Bool
  | .objectId _ => true
  | _ => false

/-- The text of a date-time. -/
def dateText (items : List Calendar.FormatItem) (format : String) (millis : Int64) :
    Except GridError String :=
  match Calendar.render? (Calendar.Fields.ofMillis millis.toInt) items with
  | some text => .ok text
  | none => .error (.invalidDateFormat format)

/-- Adds the fields of a document to what is shaped so far. -/
def addFields (items : List Calendar.FormatItem) (format : String) (hasObjectId : Bool)
    (shaped : Document) : List (String × Value) → Except GridError Document
  | [] => .ok shaped
  | (key, value) :: rest =>
    match value with
    | .objectId id =>
      addFields items format hasObjectId (Keyed.insert shaped "id" (.string id.toHex)) rest
    | .dateTime millis =>
      if hasObjectId && key == "id" then addFields items format hasObjectId shaped rest
      else do
        let text ← dateText items format millis
        addFields items format hasObjectId (Keyed.insert shaped key (.string text)) rest
    | other =>
      if hasObjectId && key == "id" then addFields items format hasObjectId shaped rest
      else addFields items format hasObjectId (Keyed.insert shaped key other) rest

/-- One document. -/
def document (items : List Calendar.FormatItem) (format : String) (d : Document) :
    Except GridError Document :=
  addFields items format ((Keyed.values d).any isObjectId) [] d

/-- All documents, in a date format. -/
def documents (documents : List Document) (format : String) :
    Except GridError (List Document) :=
  match Calendar.Format.items? format with
  | none => .error (.invalidDateFormat format)
  | some items => documents.mapM (document items format)

end DataGrid.Shape
