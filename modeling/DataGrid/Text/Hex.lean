/-!
# DataGrid.Text.Hex -- hexadecimal digits

Numbers as hexadecimal text, and bytes read from it. Writing uses lower case, reading takes both.
-/

namespace DataGrid.Hex

/-- The digit of a value below sixteen. -/
def digit (value : Nat) : Char :=
  if value < 10 then Char.ofNat ('0'.toNat + value) else Char.ofNat ('a'.toNat + value - 10)

/-- The value of a digit in either case. -/
def digitValue? (c : Char) : Option Nat :=
  if '0' ≤ c ∧ c ≤ '9' then some (c.toNat - '0'.toNat)
  else if 'a' ≤ c ∧ c ≤ 'f' then some (c.toNat - 'a'.toNat + 10)
  else if 'A' ≤ c ∧ c ≤ 'F' then some (c.toNat - 'A'.toNat + 10)
  else none

/-- Exactly `width` digits, the most significant first. -/
def ofNat : (width : Nat) → (value : Nat) → List Char
  | 0, _ => []
  | width + 1, value => ofNat width (value / 16) ++ [digit (value % 16)]

/-- The number that a list of digits denotes. -/
def toNat? (cs : List Char) : Option Nat :=
  cs.foldlM (fun value c => (digitValue? c).map (value * 16 + ·)) 0

/-- Reads two digits a byte. -/
def toBytes? : List Char → Option (List UInt8)
  | [] => some []
  | high :: low :: rest => do
    let value ← toNat? [high, low]
    return UInt8.ofNat value :: (← toBytes? rest)
  | [_] => none

/-- The digits of a number without leading zeros; zero is `0`. -/
def shortOfNat (value : Nat) : List Char := Nat.toDigits 16 value

end DataGrid.Hex
