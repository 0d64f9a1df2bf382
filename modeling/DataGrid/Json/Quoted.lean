import DataGrid.Text.Hex

/-!
# DataGrid.Json.Quoted -- text between quotes

What stands between the quotes of a JSON string is kept in two forms: as written, with its
escapes, and as the text that it stands for.

* `encode` writes a text. Only the quote, the backslash and the controls are escaped.
* `scan?` finds the closing quote and refuses bare controls and escapes that do not exist.
* `decode?` gives the text. It refuses halves of surrogate pairs that stand alone, which
  `scan?` lets pass: they matter only where the text is asked for.
-/

namespace DataGrid.Json.Quoted

/-! ## Writing -/

/-- A character as it is written. -/
def encodeChar (c : Char) : List Char :=
  match c with
  | '"' => ['\\', '"']
  | '\\' => ['\\', '\\']
  | '\n' => ['\\', 'n']
  | '\r' => ['\\', 'r']
  | '\t' => ['\\', 't']
  | c =>
    if c.toNat = 0x08 then ['\\', 'b']
    else if c.toNat = 0x0C then ['\\', 'f']
    else if c.toNat < 0x20 then '\\' :: 'u' :: Hex.ofNat 4 c.toNat
    else [c]

/-- A text as it is written between quotes. -/
def encode (text : List Char) : List Char := text.flatMap encodeChar

/-! ## Finding the end -/

/-- What a one-letter escape stands for. -/
def shortEscape? (c : Char) : Option Char :=
  match c with
  | '"' | '\\' | '/' => some c
  | 'b' => some '\x08'
  | 'f' => some '\x0c'
  | 'n' => some '\n'
  | 'r' => some '\r'
  | 't' => some '\t'
  | _ => none

/-- What is written up to the closing quote, and what follows that. -/
def scan? : List Char → Option (List Char × List Char)
  | [] => none
  | '"' :: rest => some ([], rest)
  | '\\' :: 'u' :: a :: b :: c :: d :: rest =>
    if (Hex.toNat? [a, b, c, d]).isSome then
      (scan? rest).map fun (body, rest) => ('\\' :: 'u' :: a :: b :: c :: d :: body, rest)
    else none
  | '\\' :: c :: rest =>
    if (shortEscape? c).isSome then
      (scan? rest).map fun (body, rest) => ('\\' :: c :: body, rest)
    else none
  | c :: rest =>
    if c = '\\' ∨ c.toNat < 0x20 then none
    else (scan? rest).map fun (body, rest) => (c :: body, rest)

/-! ## Reading -/

/-- A piece of written text: a character, or one 16-bit unit given by its digits. -/
inductive Piece where
  | char (c : Char)
  | unit (value : Nat)
deriving DecidableEq, Repr

/-- The pieces of a written text. -/
def pieces? : List Char → Option (List Piece)
  | [] => some []
  | '\\' :: 'u' :: a :: b :: c :: d :: rest => do
    let value ← Hex.toNat? [a, b, c, d]
    return .unit value :: (← pieces? rest)
  | '\\' :: c :: rest => do
    let meant ← shortEscape? c
    return .char meant :: (← pieces? rest)
  | c :: rest => if c = '\\' then none else (pieces? rest).map (.char c :: ·)

def isHighSurrogate (value : Nat) : Bool := decide (0xD800 ≤ value) && decide (value < 0xDC00)

def isLowSurrogate (value : Nat) : Bool := decide (0xDC00 ≤ value) && decide (value < 0xE000)

/-- The text of pieces: a high and a low surrogate together are one character. -/
def join? : List Piece → Option (List Char)
  | [] => some []
  | .char c :: rest => (join? rest).map (c :: ·)
  | .unit high :: .unit low :: rest =>
    if isHighSurrogate high then
      if isLowSurrogate low then
        (join? rest).map
          (Char.ofNat (0x10000 + (high - 0xD800) * 0x400 + (low - 0xDC00)) :: ·)
      else none
    else if isLowSurrogate high then none
    else (join? (.unit low :: rest)).map (Char.ofNat high :: ·)
  | .unit value :: rest =>
    if isHighSurrogate value || isLowSurrogate value then none
    else (join? rest).map (Char.ofNat value :: ·)

/-- The text that is written. -/
def decode? (written : List Char) : Option (List Char) := (pieces? written).bind join?

/-! ## Samples -/

example : encode "a/é😀".toList = "a/é😀".toList := by decide +kernel
example : encode ['"', '\\', '\n', '\x01'] = "\\\"\\\\\\n\\u0001".toList := by decide +kernel
example : decode? "\\ud83d\\ude00\\/".toList = some ['😀', '/'] := by decide +kernel
example : decode? "\\ud83d".toList = none := by decide +kernel

end DataGrid.Json.Quoted
