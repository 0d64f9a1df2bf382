import DataGrid.Pattern.Brackets
import DataGrid.Pattern.SizeLimit
import DataGrid.Text.Digits

/-!
# DataGrid.Pattern.Reader -- patterns from text

The grammar of patterns. There is no look-around and there are no back references; a
pattern that uses them, like any other fault, is refused.

Reading is one pass over the characters with a stack of open groups. The state holds the
switches in force, the items of the branch that is being read and the finished branches
of the group. Items know how deep they are: a pattern of a depth above `depthLimit` is
refused. So is a pattern whose automaton would be too large (`Node.fits`).
-/

namespace DataGrid.Pattern

/-- How deeply groups, classes, choices, sequences and repetitions may nest. -/
def depthLimit : Nat := 250

/-- One item of a branch. A switch is an item that cannot be repeated. -/
structure Item where
  node : Node
  depth : Nat
  repeatable : Bool

/-- Several items put together as one, which is one level deeper; the last one comes first
in the list. -/
def Item.together (combine : List Node → Node) : List Item → Item
  | [only] => only
  | [] => ⟨combine [], 0, true⟩
  | items =>
    ⟨combine (items.reverse.map Item.node),
      items.foldl (fun depth item => max depth item.depth) 0 + 1, true⟩

/-- What a group was opened in. -/
structure OpenGroup where
  branches : List Item
  branch : List Item
  flags : Flags
  recorded : Bool

/-- The state of reading. Branches and items are kept with the last one first. -/
structure ReaderState where
  flags : Flags
  names : List (List Char)
  branches : List Item
  branch : List Item
  groups : List OpenGroup

namespace ReaderState

def start (flags : Flags) : ReaderState := ⟨flags, [], [], [], []⟩

/-- Adds an item to the branch. -/
def push (s : ReaderState) (node : Node) (depth : Nat) : ReaderState :=
  { s with branch := ⟨node, depth, true⟩ :: s.branch }

/-- Finishes the branch. -/
def nextBranch (s : ReaderState) : ReaderState :=
  { s with branches := Item.together .inSequence s.branch :: s.branches, branch := [] }

/-- All branches as one item. -/
def whole (s : ReaderState) : Item := Item.together .inChoice s.nextBranch.branches

/-- Opens a group that is read under the given switches. -/
def openGroup (s : ReaderState) (flags : Flags) (recorded : Bool) : ReaderState :=
  { s with flags := flags, branches := [], branch := [],
           groups := ⟨s.branches, s.branch, s.flags, recorded⟩ :: s.groups }

/-- Closes the innermost group, if one is open. -/
def closeGroup? (s : ReaderState) : Option ReaderState :=
  match s.groups with
  | [] => none
  | outer :: groups =>
    let inner := s.whole
    let node := if outer.recorded then .group inner.node else inner.node
    some { s with flags := outer.flags, branches := outer.branches, groups := groups,
                  branch := ⟨node, inner.depth + 1, true⟩ :: outer.branch }

/-- Repeats the last item. -/
def repeatLast? (s : ReaderState) (least : Nat) (most : Option Nat) (reluctant : Bool) :
    Option ReaderState :=
  match s.branch with
  | item :: before =>
    if item.repeatable then
      let node := item.node.copies least most (reluctant == s.flags.swapGreed)
      some { s with branch := ⟨node, item.depth + 1, true⟩ :: before }
    else none
  | [] => none

end ReaderState

namespace Reader

/-! ## Groups -/

/-- The first character of a group name, and the others. -/
def isNameStart (c : Char) : Bool := c == '_' || Text.isAlphabetic c

def isNamePart (c : Char) : Bool :=
  c == '_' || c == '.' || c == '[' || c == ']' || Text.isAlphanumeric c

/-- The name of a group, up to its closing angle bracket. Names are distinct. -/
def groupName? (names : List (List Char)) (cs : List Char) : Option (List Char × List Char) :=
  let name := cs.takeWhile (· != '>')
  match name, cs.drop name.length with
  | first :: others, _ :: rest =>
    if isNameStart first && others.all isNamePart && !names.contains name then
      some (name, rest)
    else none
  | _, _ => none

/-- Letters of switches up to a closing parenthesis or a colon; those behind a hyphen are
cleared. No letter may occur twice, there is at most one hyphen, and it is not the last.
Gives the switches, whether there were letters, and whether a colon ended them. -/
def switches? (seen : List Char) (cleared lastHyphen : Bool) (flags : Flags) :
    List Char → Option (Flags × Bool × Bool × List Char)
  | [] => none
  | c :: rest =>
    if c = ')' ∨ c = ':' then
      if lastHyphen then none else some (flags, !seen.isEmpty, c = ':', rest)
    else if c = '-' then
      if cleared then none else switches? seen true true flags rest
    else if seen.contains c then none
    else match flags.set? c (!cleared) with
      | some flags => switches? (c :: seen) cleared false flags rest
      | none => none

/-- What follows an opening parenthesis: a group, or switches for the rest of the group
around it. -/
def group? (s : ReaderState) (cs : List Char) : Option (ReaderState × List Char) :=
  match s.flags.skip cs with
  | '?' :: '=' :: _ | '?' :: '!' :: _ | '?' :: '<' :: '=' :: _ | '?' :: '<' :: '!' :: _ => none
  | '?' :: 'P' :: '<' :: rest | '?' :: '<' :: rest => do
    let (name, rest) ← groupName? s.names rest
    return ({ s with names := name :: s.names }.openGroup s.flags true, rest)
  | '?' :: rest => do
    let (flags, hasLetters, colon, rest) ← switches? [] false false s.flags rest
    if colon then return (s.openGroup flags false, rest)
    else if hasLetters then
      return ({ s with flags := flags, branch := ⟨.empty, 0, false⟩ :: s.branch }, rest)
    else none
  | rest => some (s.openGroup s.flags true, rest)

/-! ## Repetition -/

/-- Repeats the last item; a mark for reluctance may follow. -/
def repeat? (s : ReaderState) (least : Nat) (most : Option Nat) :
    List Char → Option (ReaderState × List Char)
  | '?' :: rest => (s.repeatLast? least most true).map (·, rest)
  | rest => (s.repeatLast? least most false).map (·, rest)

/-- Digits of a count; layout between them is dropped where it is dropped elsewhere. -/
def countDigits (flags : Flags) : (fuel : Nat) → List Char → List Char × List Char
  | fuel + 1, c :: rest =>
    if c.isDigit then
      let (digits, rest) := countDigits flags fuel (flags.skip rest)
      (c :: digits, rest)
    else ([], c :: rest)
  | _, cs => ([], cs)

/-- A count, with white space around it, or none if there are no digits. Counts have
thirty-two bits. -/
def count? (flags : Flags) (cs : List Char) : Option (Option Nat × List Char) :=
  let cs := Text.trimStart cs
  let (digits, rest) := countDigits flags (cs.length + 1) cs
  let rest := flags.skip (Text.trimStart rest)
  if digits.isEmpty then some (none, rest)
  else
    let value := Text.digitsValue digits
    if value < UInt32.size then some (some value, rest) else none

/-- The bounds of a counted repetition, behind its opening brace. -/
def bounds? (flags : Flags) (cs : List Char) : Option (Nat × Option Nat × List Char) := do
  let (least, rest) ← count? flags (flags.skip cs)
  let least ← least
  match rest with
  | '\x7d' :: rest => some (least, some least, rest)
  | ',' :: rest =>
    match flags.skip rest with
    | '\x7d' :: rest => some (least, none, rest)
    | rest =>
      let (most, rest) ← count? flags rest
      let most ← most
      match rest with
      | '\x7d' :: rest => if least ≤ most then some (least, some most, rest) else none
      | _ => none
  | _ => none

/-! ## One step -/

/-- A character outside a class. One that was given by two digits is a byte when Unicode
rules are off, and then has to be ASCII. -/
def char? (s : ReaderState) (c : Char) (asByte : Bool) (rest : List Char) :
    Option (ReaderState × List Char) :=
  if asByte && !s.flags.unicode && c.toNat ≥ 0x80 then none
  else some (s.push (s.flags.literal c) 0, rest)

/-- Reads one item, starting with the given character. -/
def step? (s : ReaderState) (c : Char) (rest : List Char) : Option (ReaderState × List Char) :=
  match c with
  | '(' => group? s rest
  | ')' => s.closeGroup?.map (·, rest)
  | '|' => some (s.nextBranch, rest)
  | '[' => (Brackets.read? s.flags rest).map fun (bracket, rest) =>
      (s.push (s.flags.node bracket.points) bracket.depth, rest)
  | '?' => repeat? s 0 (some 1) rest
  | '*' => repeat? s 0 none rest
  | '+' => repeat? s 1 none rest
  | '\x7b' => do
    let (least, most, rest) ← bounds? s.flags rest
    repeat? s least most (s.flags.skip rest)
  | '\\' => do
    match ← Escaped.read? s.flags rest with
    | (.char c asByte, rest) => char? s c asByte rest
    | (.charClass points, rest) => some (s.push (s.flags.node points) 0, rest)
    | (.assertion condition, rest) => some (s.push (.assertion condition) 0, rest)
  | '.' => s.flags.dot?.map fun points => (s.push (s.flags.node points) 0, rest)
  | '^' => some (s.push (.assertion s.flags.caret) 0, rest)
  | '$' => some (s.push (.assertion s.flags.dollar) 0, rest)
  | c => char? s c false rest

/-- Reads all items. Every step takes at least one character. -/
def run? : (fuel : Nat) → ReaderState → List Char → Option ReaderState
  | fuel, s, cs =>
    match s.flags.skip cs, fuel with
    | [], _ => some s
    | _ :: _, 0 => none
    | c :: rest, fuel + 1 =>
      match step? s c rest with
      | some (s, rest) => run? fuel s rest
      | none => none

end Reader

/-- Reads a pattern under the given switches. -/
def Node.read? (flags : Flags) (cs : List Char) : Option Node := do
  let s ← Reader.run? cs.length (.start flags) cs
  let item := s.whole
  if s.groups.isEmpty && decide (item.depth ≤ depthLimit) && item.node.fits then some item.node
  else none

end DataGrid.Pattern
