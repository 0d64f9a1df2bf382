import DataGrid.Pattern.Simplify
import DataGrid.Text.Blank
import DataGrid.Text.Folding

/-!
# DataGrid.Pattern.Flags -- switches that change the meaning of a pattern

A pattern is read under a set of switches, some given from outside and some set inside the
pattern for the rest of a group. Each function here says what one piece of a pattern means
under the switches in force.

Without Unicode rules a class may hold ASCII characters only, so negated classes and the
dot have no meaning there.
-/

namespace DataGrid.Pattern

open DataGrid.Text (CodePoints isBlank foldingClass foldCase)

structure Flags where
  ignoreCase : Bool := false
  multiLine : Bool := false
  dotMatchesNewline : Bool := false
  ignoreSpace : Bool := false
  unicode : Bool := true
  carriageReturn : Bool := false
  swapGreed : Bool := false
deriving DecidableEq, Repr

namespace Flags

/-- Sets or clears the switch of a letter. -/
def set? (flags : Flags) (letter : Char) (on : Bool) : Option Flags :=
  match letter with
  | 'i' => some { flags with ignoreCase := on }
  | 'm' => some { flags with multiLine := on }
  | 's' => some { flags with dotMatchesNewline := on }
  | 'x' => some { flags with ignoreSpace := on }
  | 'u' => some { flags with unicode := on }
  | 'R' => some { flags with carriageReturn := on }
  | 'U' => some { flags with swapGreed := on }
  | _ => none

/-- Drops white space and comments; a comment runs from a hash sign to the end of its
line. -/
def dropLayout : (inComment : Bool) → List Char → List Char
  | _, [] => []
  | true, c :: rest => dropLayout (c != '\n') rest
  | false, c :: rest =>
    if isBlank c then dropLayout false rest
    else if c = '#' then dropLayout true rest
    else c :: rest

/-- Drops layout if it is to be ignored. -/
def skip (flags : Flags) (cs : List Char) : List Char :=
  if flags.ignoreSpace then dropLayout false cs else cs

/-! ## Characters -/

def asciiChars : List Char := (List.range 0x80).map Char.ofNat

/-- The characters that differ from one in the case of an ASCII letter only, itself among
them. -/
def bothCases (c : Char) : List Char := if c.isAlpha then [c.toUpper, c.toLower] else [c]

/-- One of a set of characters that was named under the switches in force. -/
def node (flags : Flags) (points : CodePoints) : Node := .ofPoints flags.unicode points

/-- A literal character. -/
def literal (flags : Flags) (c : Char) : Node :=
  let cases :=
    if flags.ignoreCase then if flags.unicode then foldingClass c else bothCases c else [c]
  flags.node (.ofChars cases)

/-- A class closed under difference in case, if case is ignored. -/
def folded (flags : Flags) (points : CodePoints) : CodePoints :=
  if flags.ignoreCase then
    if flags.unicode then foldCase points
    else points.union (.ofChars ((asciiChars.filter points.contains).flatMap bothCases))
  else points

/-- A class with its negation applied, which needs Unicode rules. -/
def negated? (flags : Flags) (negated : Bool) (points : CodePoints) : Option CodePoints :=
  if negated then
    if flags.unicode then some points.complement else none
  else some points

/-- The dot: every character but line ends, or every character. -/
def dot? (flags : Flags) : Option CodePoints :=
  if !flags.unicode then none
  else if flags.dotMatchesNewline then some .all
  else some (CodePoints.ofChars (if flags.carriageReturn then ['\n', '\r'] else ['\n'])).complement

/-! ## Anchors -/

def caret (flags : Flags) : Assertion :=
  if flags.multiLine then if flags.carriageReturn then .anyLineStart else .lineStart
  else .textStart

def dollar (flags : Flags) : Assertion :=
  if flags.multiLine then if flags.carriageReturn then .anyLineEnd else .lineEnd
  else .textEnd

end Flags
end DataGrid.Pattern
