import DataGrid.Text.CodePoints

/-!
# DataGrid.Pattern.Utf8 -- classes of characters as sequences of byte ranges

Text is matched as UTF-8, byte by byte. A range of characters becomes sequences of one to
four byte ranges: a range is cut wherever the number of bytes changes, and then so that all
bytes behind the first that differs run through all continuation bytes. The sequences of a
class ascend.
-/

namespace DataGrid.Pattern

open DataGrid.Text (CodePoints)

/-- A range of bytes. -/
structure ByteRange where
  low : Nat
  high : Nat
deriving DecidableEq, Repr

namespace Utf8

/-- The bytes of a character. -/
def bytes (point : Nat) : List Nat :=
  if point < 0x80 then [point]
  else if point < 0x800 then [0xC0 + point / 0x40, 0x80 + point % 0x40]
  else if point < 0x10000 then
    [0xE0 + point / 0x1000, 0x80 + point / 0x40 % 0x40, 0x80 + point % 0x40]
  else
    [0xF0 + point / 0x40000, 0x80 + point / 0x1000 % 0x40, 0x80 + point / 0x40 % 0x40,
      0x80 + point % 0x40]

/-- The bytes of a text. -/
def ofChars (cs : List Char) : List Nat := cs.flatMap fun c => bytes c.toNat

/-- The first point of the next part of a range whose characters differ in length. -/
def lengthCut? (low high : Nat) : Option Nat :=
  [0x80, 0x800, 0x10000].find? fun cut => decide (low < cut ∧ cut ≤ high)

/-- The first point of the next part of a range whose ends differ above the last `6 * i` bits
and do not run through all values of those, for the first such `i` of the list. -/
def alignmentCut? (low high : Nat) : List Nat → Option Nat
  | [] => none
  | i :: rest =>
    let block := Nat.pow 64 i
    if low / block = high / block then alignmentCut? low high rest
    else if low % block ≠ 0 then some ((low / block + 1) * block)
    else if high % block ≠ block - 1 then some (high / block * block)
    else alignmentCut? low high rest

/-- Where a range has to be cut, if it does. Characters of one byte are never cut. -/
def cut? (low high : Nat) : Option Nat :=
  match lengthCut? low high with
  | some cut => some cut
  | none => if high < 0x80 then none else alignmentCut? low high [1, 2, 3]

/-- The byte ranges between the bytes of the first and the last character. -/
def pairUp (low high : Nat) : List ByteRange := List.zipWith ByteRange.mk (bytes low) (bytes high)

/-- The sequences of a range of characters. -/
def sequences (low high : Nat) : List (List ByteRange) :=
  match cut? low high with
  | some cut =>
    if low < cut ∧ cut ≤ high then sequences low (cut - 1) ++ sequences cut high
    else [pairUp low high]
  | none => [pairUp low high]
termination_by high + 1 - low

/-- The sequences of a class. -/
def ofPoints (points : CodePoints) : List (List ByteRange) :=
  points.ranges.toList.flatMap fun (low, high) => sequences low high

end Utf8
end DataGrid.Pattern
