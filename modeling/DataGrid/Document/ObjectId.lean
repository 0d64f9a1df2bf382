import DataGrid.Text.Hex

/-!
# DataGrid.Document.ObjectId -- twelve byte identifiers

An identifier is a 96-bit number written as twenty-four hexadecimal digits. How identifiers are
made is not told here: a store is given a supply of them.
-/

namespace DataGrid

structure ObjectId where
  value : BitVec 96
deriving DecidableEq, Repr

namespace ObjectId

/-- Twenty-four digits in lower case. -/
def toHex (id : ObjectId) : String := String.ofList (Hex.ofNat 24 id.value.toNat)

/-- Reads exactly twenty-four digits. -/
def ofHex? (text : String) : Option ObjectId :=
  let cs := text.toList
  if cs.length = 24 then (Hex.toNat? cs).map fun n => ⟨BitVec.ofNat 96 n⟩ else none

/-- Order of the bytes. -/
def compare (a b : ObjectId) : Ordering := Ord.compare a.value.toNat b.value.toNat

end ObjectId
end DataGrid
