import DataGrid.Pattern.Escape

/-!
# DataGrid.Pattern.Brackets -- classes of characters in brackets

A class lists characters, ranges and other classes, possibly negated, and may combine such
lists by intersection, difference and symmetric difference, all of one strength and from
left to right. Classes nest.

Reading is one pass with a stack: a frame for every open bracket and one for every
operator that waits for its right side. Classes count how deeply they are built, because
the depth of a whole pattern is limited.
-/

namespace DataGrid.Pattern

open DataGrid.Text (CodePoints isBlank)

/-- What may stand between two lists. -/
inductive SetOperator where
  | intersection
  | difference
  | symmetricDifference
deriving DecidableEq, Repr

def SetOperator.apply : SetOperator → CodePoints → CodePoints → CodePoints
  | intersection => .intersection
  | difference => .difference
  | symmetricDifference => .symmetricDifference

/-- A class as far as it is read: its members, how many items it has, and the depth of the
deepest. -/
structure ClassList where
  points : CodePoints
  count : Nat
  depth : Nat

namespace ClassList

def empty : ClassList := ⟨.empty, 0, 0⟩

def add (list : ClassList) (points : CodePoints) (depth : Nat) : ClassList :=
  ⟨list.points.union points, list.count + 1, max list.depth depth⟩

/-- Adds a character. Case is taken care of when the whole class is closed. -/
def addChar (list : ClassList) (c : Char) : ClassList := list.add (.ofChar c) 0

/-- The depth of the list as one item: several items are one level deeper. -/
def itemDepth (list : ClassList) : Nat := if list.count ≥ 2 then list.depth + 1 else list.depth

end ClassList

/-- What waits for the list that is being read. -/
inductive ClassFrame where
  /-- An open bracket within a list. -/
  | bracket (outer : ClassList) (negated : Bool)
  /-- An operator behind its left side. -/
  | operator (operation : SetOperator) (left : CodePoints) (depth : Nat)

/-- A finished class. -/
structure BracketClass where
  points : CodePoints
  depth : Nat

namespace Brackets

/-- Applies the operator that waits for a finished right side, if one does. -/
def closeOperator (flags : Flags) (stack : List ClassFrame) (list : ClassList) :
    BracketClass × List ClassFrame :=
  match stack with
  | .operator operation left leftDepth :: rest =>
    (⟨operation.apply (flags.folded left) (flags.folded list.points),
      max leftDepth list.itemDepth + 1⟩, rest)
  | _ => (⟨list.points, list.itemDepth⟩, stack)

/-- Hyphens at the beginning of a class stand for themselves. -/
def leadingHyphens (flags : Flags) : (fuel : Nat) → ClassList → List Char → ClassList × List Char
  | fuel + 1, list, '-' :: rest => leadingHyphens flags fuel (list.addChar '-') (flags.skip rest)
  | _, list, cs => (list, cs)

/-- The beginning of a class, behind its bracket: whether it is negated, the hyphens, and
a closing bracket that stands for itself because the class would be empty. -/
def opening (flags : Flags) (cs : List Char) : Bool × ClassList × List Char :=
  let (negated, cs) := match flags.skip cs with
    | '^' :: rest => (true, flags.skip rest)
    | cs => (false, cs)
  let (list, cs) := leadingHyphens flags cs.length .empty cs
  match list.count, cs with
  | 0, ']' :: rest => (negated, list.addChar ']', flags.skip rest)
  | _, cs => (negated, list, cs)

/-- A class by its ASCII name, behind its bracket: its members, whether they are negated,
and the rest. -/
def named? : List Char → Option (CodePoints × Bool × List Char)
  | ':' :: rest =>
    let (negated, rest) := match rest with
      | '^' :: rest => (true, rest)
      | rest => (false, rest)
    let name := rest.takeWhile (· != ':')
    match rest.drop name.length with
    | ':' :: ']' :: rest => (bracketName? (String.ofList name)).map (·, negated, rest)
    | _ => none
  | _ => none

/-- One item: a character, or a class by a backslash sequence. Without Unicode rules a
character has to be ASCII. -/
def item? (flags : Flags) (cs : List Char) : Option ((Char ⊕ CodePoints) × List Char) := do
  let char? (c : Char) (rest : List Char) : Option ((Char ⊕ CodePoints) × List Char) :=
    if flags.unicode || c.toNat < 0x80 then some (.inl c, rest) else none
  match cs with
  | [] => none
  | '\\' :: rest =>
    match ← Escaped.read? flags rest with
    | (.char c _, rest) => char? c rest
    | (.charClass points, rest) => some (.inr points, rest)
    | (.assertion _, _) => none
  | c :: rest => char? c rest

/-- The next character that counts when layout is ignored. A hash sign is looked through
once; what stands in a comment counts. -/
def nextVisible (afterHash : Bool) : List Char → Option Char
  | [] => none
  | c :: rest =>
    if isBlank c then nextVisible afterHash rest
    else if !afterHash && c == '#' then nextVisible true rest
    else some c

/-- The character behind a hyphen that decides whether the hyphen makes a range. -/
def peek (flags : Flags) (cs : List Char) : Option Char :=
  if flags.ignoreSpace then (nextVisible false cs).or cs.head? else cs.head?

/-- Reads an item or a range of two characters and adds it to a list. A hyphen makes no
range in front of a closing bracket or another hyphen. -/
def itemOrRange? (flags : Flags) (list : ClassList) (cs : List Char) :
    Option (ClassList × List Char) := do
  let (first, rest) ← item? flags cs
  let single (rest : List Char) : ClassList × List Char :=
    match first with
    | .inl c => (list.addChar c, rest)
    | .inr points => (list.add points 0, rest)
  match flags.skip rest with
  | '-' :: after =>
    if peek flags after = some ']' ∨ peek flags after = some '-' then
      return single ('-' :: after)
    else
      let (second, rest) ← item? flags (flags.skip after)
      match first, second with
      | .inl low, .inl high =>
        if low ≤ high then some (list.add (.ofRange low.toNat high.toNat) 0, rest) else none
      | _, _ => none
  | rest => return single rest

/-- An operator between two lists. -/
def operator? : List Char → Option (SetOperator × List Char)
  | '&' :: '&' :: rest => some (.intersection, rest)
  | '-' :: '-' :: rest => some (.difference, rest)
  | '~' :: '~' :: rest => some (.symmetricDifference, rest)
  | _ => none

/-- Reads a class to its closing bracket. Every round takes at least one character. -/
def readFrom? (flags : Flags) : (fuel : Nat) → List ClassFrame → ClassList → List Char →
    Option (BracketClass × List Char)
  | 0, _, _, _ => none
  | fuel + 1, stack, list, cs =>
    match flags.skip cs with
    | [] => none
    | '[' :: rest =>
      match named? rest with
      | some (points, negated, rest) => do
        let points ← flags.negated? negated (flags.folded points)
        readFrom? flags fuel stack (list.add points 0) rest
      | none =>
        let (negated, inner, rest) := opening flags rest
        readFrom? flags fuel (.bracket list negated :: stack) inner rest
    | ']' :: rest =>
      match closeOperator flags stack list with
      | (inner, .bracket outer negated :: below) => do
        let points ← flags.negated? negated (flags.folded inner.points)
        let depth := inner.depth + 1
        if below.isEmpty then some (⟨points, depth⟩, rest)
        else readFrom? flags fuel below (outer.add points depth) rest
      | _ => none
    | cs =>
      match operator? cs with
      | some (operation, rest) =>
        let (left, stack) := closeOperator flags stack list
        readFrom? flags fuel (.operator operation left.points left.depth :: stack) .empty rest
      | none => do
        let (list, rest) ← itemOrRange? flags list cs
        readFrom? flags fuel stack list rest

/-- Reads a class behind its opening bracket. -/
def read? (flags : Flags) (cs : List Char) : Option (BracketClass × List Char) :=
  let (negated, list, rest) := opening flags cs
  readFrom? flags (cs.length + 1) [.bracket .empty negated] list rest

end Brackets
end DataGrid.Pattern
