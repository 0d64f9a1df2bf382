import DataGrid.Calendar.Reading
import DataGrid.Calendar.Shape
import DataGrid.Document.Value

/-!
# DataGrid.Compile.Values -- condition values

Every condition value becomes a list: a list keeps its items, anything else is a list of
one. A string that looks like a date-time and can be read as one becomes a date-time in
milliseconds, rounded down.
-/

namespace DataGrid.Compile

/-- The date-time that a text stands for, if it looks like one and can be read. -/
def dateTime? (text : String) : Option Value :=
  if Calendar.Shape.occurs Calendar.Shape.dateTime text.toList then
    (Calendar.Reading.instant? text).map fun instant =>
      .dateTime (Int64.ofInt instant.millis)
  else none

/-- Turns date-times in text into date-times. -/
def coerce : Value → Value
  | .string text => (dateTime? text).getD (.string text)
  | other => other

/-- The values of a condition. -/
def normalize : Value → List Value
  | .array items => items.map coerce
  | other => [coerce other]

end DataGrid.Compile
