import DataGrid.Text.Word

/-!
# DataGrid.Calendar.Shape -- texts that look like date-times

A cheap test before reading: somewhere in the text there are four digits, two and two with
hyphens between them, any one character but a line feed, and two, two and two digits with
colons between them. Digits of every script count here, although reading accepts the ASCII
digits only.
-/

namespace DataGrid.Calendar.Shape

open DataGrid.Text (PointTest isDecimalDigit)

def only (expected : Char) : PointTest := fun c => c == expected

/-- The shape, a test for each character. -/
def dateTime : List PointTest :=
  List.replicate 4 isDecimalDigit ++ [only '-'] ++ List.replicate 2 isDecimalDigit ++
    [only '-'] ++ List.replicate 2 isDecimalDigit ++ [fun c => c != '\n'] ++
    List.replicate 2 isDecimalDigit ++ [only ':'] ++ List.replicate 2 isDecimalDigit ++
    [only ':'] ++ List.replicate 2 isDecimalDigit

/-- The characters begin with a shape. -/
def begins : List PointTest → List Char → Bool
  | [], _ => true
  | test :: tests, c :: rest => test c && begins tests rest
  | _ :: _, [] => false

/-- The shape is somewhere among the characters. -/
def occurs (shape : List PointTest) : List Char → Bool
  | [] => begins shape []
  | c :: rest => begins shape (c :: rest) || occurs shape rest

end DataGrid.Calendar.Shape
