import DataGrid.Pattern.CharClass
import DataGrid.Pattern.Flags
import DataGrid.Text.Hex

/-!
# DataGrid.Pattern.Escape -- backslash sequences

What a backslash and the characters behind it stand for: one character, a class of
characters, or an assertion. Reading takes the characters behind the backslash and gives
back the rest; under the layout switch, layout between the parts of a sequence is dropped.

`escape` goes the other way: it writes a text as a pattern that matches just that text.
-/

namespace DataGrid.Pattern

open DataGrid.Text (CodePoints)

/-- The characters with a meaning of their own in patterns. -/
def isMeta (c : Char) : Bool := "\\.+*?()|[]\x7b\x7d^$#&-~".toList.contains c

/-- Puts a backslash in front of every character with a meaning of its own. -/
def escape (text : List Char) : List Char :=
  text.flatMap fun c => if isMeta c then ['\\', c] else [c]

/-- What a backslash sequence stands for. -/
inductive Escaped where
  /-- A character; `asByte` when it was given by exactly two digits. -/
  | char (c : Char) (asByte : Bool)
  | charClass (points : CodePoints)
  | assertion (condition : Assertion)

namespace Escaped

/-- A character that may follow a backslash without a meaning of its own: any ASCII
character but letters, digits and angle brackets. -/
def isPlain (c : Char) : Bool :=
  c.toNat < 0x80 && !c.isAlphanum && c != '<' && c != '>'

/-- Characters up to a closing brace. -/
def untilBrace? (flags : Flags) : (fuel : Nat) → List Char → Option (List Char × List Char)
  | 0, _ => none
  | fuel + 1, cs =>
    match flags.skip cs with
    | [] => none
    | '\x7d' :: rest => some ([], rest)
    | c :: rest => (untilBrace? flags fuel rest).map fun (name, rest) => (c :: name, rest)

/-- Exactly `count` hexadecimal digits. -/
def hexDigits? (flags : Flags) : (count : Nat) → List Char → Option (List Char × List Char)
  | 0, cs => some ([], cs)
  | count + 1, cs =>
    match cs with
    | c :: rest =>
      if (Hex.digitValue? c).isSome then
        (hexDigits? flags count (flags.skip rest)).map fun (digits, rest) => (c :: digits, rest)
      else none
    | [] => none

/-- The character with a code point, if there is one. -/
def codePoint? (digits : List Char) : Option Char := do
  let value ← Hex.toNat? digits
  if value < 0xD800 ∨ (0xDFFF < value ∧ value < 0x110000) then some (Char.ofNat value) else none

/-- A character by its code point: digits in braces, or `width` of them. -/
def hex? (flags : Flags) (width : Nat) (cs : List Char) : Option (Escaped × List Char) :=
  match flags.skip cs with
  | '\x7b' :: rest => do
    let (digits, rest) ← untilBrace? flags (rest.length + 1) rest
    if digits.isEmpty then none
    else return (.char (← codePoint? digits) false, flags.skip rest)
  | cs => do
    let (digits, rest) ← hexDigits? flags width cs
    return (.char (← codePoint? digits) (width == 2), rest)

/-- A class by a Unicode property: a name in braces or a single letter. -/
def unicodeClass? (flags : Flags) (negated : Bool) (cs : List Char) :
    Option (Escaped × List Char) :=
  if !flags.unicode then none
  else
    let finish (negated : Bool) (points : CodePoints) (rest : List Char) :
        Option (Escaped × List Char) := do
      return (.charClass (← flags.negated? negated (flags.folded points)), rest)
    match flags.skip cs with
    | '\x7b' :: rest => do
      let (name, rest) ← untilBrace? flags (rest.length + 1) rest
      let (complement, points) ← braced? name
      finish (negated != complement) points rest
    | '\\' :: _ => none
    | c :: rest => do finish negated (← propertyAlone? [c]) (flags.skip rest)
    | [] => none

/-- A class by its letter. -/
def letterClass? (flags : Flags) (letter : LetterClass) (negated : Bool) (rest : List Char) :
    Option (Escaped × List Char) := do
  return (.charClass (← flags.negated? negated (letter.points flags.unicode)), rest)

/-- The kinds of word boundary that have a name. -/
def boundaryName? (unicode : Bool) (name : List Char) : Option Assertion :=
  match String.ofList name with
  | "start" => some (.wordStart unicode)
  | "end" => some (.wordEnd unicode)
  | "start-half" => some (.wordStartHalf unicode)
  | "end-half" => some (.wordEndHalf unicode)
  | _ => none

def isBoundaryNameChar (c : Char) : Bool := c.isAlpha || c == '-'

/-- Characters of a boundary name, and what follows. -/
def boundaryNameChars (flags : Flags) : (fuel : Nat) → List Char → List Char × List Char
  | fuel + 1, c :: rest =>
    if isBoundaryNameChar c then
      let (name, rest) := boundaryNameChars flags fuel (flags.skip rest)
      (c :: name, rest)
    else ([], c :: rest)
  | _, cs => ([], cs)

/-- A word boundary, of the kind named in braces if a name follows. Braces that hold
anything but a name are left for a repetition count. -/
def boundary? (flags : Flags) (cs : List Char) : Option (Escaped × List Char) :=
  let plain : Escaped := .assertion (.wordBoundary flags.unicode)
  match cs with
  | '\x7b' :: rest =>
    match flags.skip rest with
    | [] => none
    | c :: after =>
      if isBoundaryNameChar c then
        match boundaryNameChars flags (after.length + 1) (c :: after) with
        | (name, '\x7d' :: rest) =>
          (boundaryName? flags.unicode name).map fun condition => (.assertion condition, rest)
        | _ => none
      else some (plain, cs)
  | _ => some (plain, cs)

/-- Reads the characters behind a backslash. -/
def read? (flags : Flags) : List Char → Option (Escaped × List Char)
  | [] => none
  | c :: rest =>
    if isMeta c || isPlain c then some (.char c false, rest)
    else match c with
      | 'x' => hex? flags 2 rest
      | 'u' => hex? flags 4 rest
      | 'U' => hex? flags 8 rest
      | 'p' => unicodeClass? flags false rest
      | 'P' => unicodeClass? flags true rest
      | 'd' => letterClass? flags .digit false rest
      | 'D' => letterClass? flags .digit true rest
      | 's' => letterClass? flags .space false rest
      | 'S' => letterClass? flags .space true rest
      | 'w' => letterClass? flags .word false rest
      | 'W' => letterClass? flags .word true rest
      | 'a' => some (.char (Char.ofNat 7) false, rest)
      | 'f' => some (.char (Char.ofNat 12) false, rest)
      | 't' => some (.char '\t' false, rest)
      | 'n' => some (.char '\n' false, rest)
      | 'r' => some (.char '\r' false, rest)
      | 'v' => some (.char (Char.ofNat 11) false, rest)
      | 'A' => some (.assertion .textStart, rest)
      | 'z' => some (.assertion .textEnd, rest)
      | 'b' => boundary? flags rest
      | 'B' => some (.assertion (.notWordBoundary flags.unicode), rest)
      | '<' => some (.assertion (.wordStart flags.unicode), rest)
      | '>' => some (.assertion (.wordEnd flags.unicode), rest)
      | _ => none

end Escaped
end DataGrid.Pattern
