/-!
# DataGrid.Pattern.Footprint -- how much room an automaton takes

To be matched, a pattern is laid out as an automaton over bytes, and that automaton may take
ten mebibytes. A state takes 32 bytes, a transition in a state that has a table of them 8,
and a branch of a fork 4. Counted repetition is written out, so that counts make patterns
large.

What a piece takes may depend on what stands before it (`DataGrid.Pattern.ClassLayout`), so
the layout of a piece is a function on footprints. This module has layouts of a fixed size and
the ways to put layouts together.
-/

namespace DataGrid.Pattern

/-- What has been laid out: states, and bytes beside them. -/
structure Footprint where
  states : Nat
  tables : Nat
deriving DecidableEq, Repr

namespace Footprint

def bytes (f : Footprint) : Nat := 32 * f.states + f.tables

/-- The most bytes that an automaton may take. -/
def limit : Nat := 10 * 1024 * 1024

/-- Adds states and bytes, within the limit. -/
def grow? (f : Footprint) (states tables : Nat) : Option Footprint :=
  let grown : Footprint := ⟨f.states + states, f.tables + tables⟩
  if grown.bytes ≤ limit then some grown else none

/-- Adds a transition from the last state of a piece, which takes room if that is a fork. -/
def link? (f : Footprint) (fork : Bool) : Option Footprint := if fork then f.grow? 0 4 else some f

end Footprint

/-- How a piece is laid out: what the footprint becomes, and whether the piece ends in a
fork. -/
structure Layout where
  place? : Footprint → Option (Footprint × Bool)

namespace Layout

/-- A piece of a known size that does not end in a fork. -/
def fixed (states tables : Nat) : Layout :=
  ⟨fun f => (f.grow? states tables).map (·, false)⟩

/-! ## Composition -/

/-- Two pieces, one laid out behind the other. -/
def followedBy (first second : Layout) : Layout :=
  ⟨fun f => do
    let (f, fork) ← first.place? f
    let (f, fork') ← second.place? f
    return (← f.link? fork, fork')⟩

/-- Pieces in a row; none at all is a single state. -/
def row : List Layout → Layout
  | [] => fixed 1 0
  | first :: others => others.foldl followedBy first

/-- More copies behind one that ends in a fork or not. -/
def moreCopies? (piece : Layout) : (count : Nat) → Footprint → Bool → Option (Footprint × Bool)
  | 0, f, fork => some (f, fork)
  | count + 1, f, fork =>
    match piece.place? f with
    | none => none
    | some (f, fork') =>
      match f.link? fork with
      | none => none
      | some f => moreCopies? piece count f fork'

/-- A number of copies. -/
def exactly (piece : Layout) : (count : Nat) → Layout
  | 0 => fixed 1 0
  | count + 1 => ⟨fun f => do
    let (f, fork) ← piece.place? f
    piece.moreCopies? count f fork⟩

/-- More optional copies, each behind a fork that can leave them. -/
def moreOptions? (piece : Layout) : (count : Nat) → Footprint → Bool → Option (Footprint × Bool)
  | 0, f, fork => (f.link? fork).map (·, false)
  | count + 1, f, fork =>
    match f.grow? 1 8 with
    | none => none
    | some f =>
      match piece.place? f with
      | none => none
      | some (f, fork') =>
        match f.link? fork with
        | none => none
        | some f => moreOptions? piece count f fork'

/-- Copies with two different bounds. -/
def bounded (piece : Layout) (least most : Nat) : Layout :=
  ⟨fun f => do
    let (f, fork) ← (exactly piece least).place? f
    moreOptions? piece (most - least) (← f.grow? 1 0) fork⟩

/-- An option: a fork, the piece, and the state in which both ways meet. -/
def optional (piece : Layout) : Layout :=
  ⟨fun f => do
    let (f, fork) ← piece.place? (← f.grow? 1 0)
    return (← (← f.grow? 1 8).link? fork, false)⟩

/-- Any number of copies of a piece that takes characters: a fork to which it returns. -/
def loop (piece : Layout) : Layout :=
  ⟨fun f => do
    let (f, fork) ← piece.place? (← f.grow? 1 4)
    return (← f.link? fork, true)⟩

/-- Any number of copies of a piece that may take nothing: one fork behind it, one before
it, and a state behind both. -/
def guardedLoop (piece : Layout) : Layout :=
  ⟨fun f => do
    let (f, fork) ← piece.place? f
    return (← (← f.grow? 3 16).link? fork, false)⟩

/-- At least one copy: a fork behind the piece that returns to it. -/
def loopBehind (piece : Layout) : Layout :=
  ⟨fun f => do
    let (f, fork) ← piece.place? f
    return (← (← f.grow? 1 4).link? fork, true)⟩

/-- At least `least` copies. -/
def atLeast (piece : Layout) (mayTakeNothing : Bool) : (least : Nat) → Layout
  | 0 => if mayTakeNothing then guardedLoop piece else loop piece
  | 1 => loopBehind piece
  | least + 1 => followedBy (exactly piece least) (loopBehind piece)

/-- A branch of a choice is linked to the state in which the branches meet. -/
def branch? (f : Footprint) (piece : Layout) : Option Footprint := do
  let (f, fork) ← piece.place? f
  (← f.grow? 0 4).link? fork

/-- A choice: its first two branches, a fork and the state in which they meet, and the other
branches. -/
def fork : List Layout → Layout
  | [] => fixed 1 0
  | [piece] => piece
  | first :: second :: others =>
    ⟨fun f => do
      let f ← branch? (← branch? f first) second
      let f ← others.foldlM branch? (← f.grow? 2 0)
      return (f, false)⟩

/-- A piece between two states. -/
def between (piece : Layout) : Layout :=
  ⟨fun f => do
    let (f, fork) ← piece.place? (← f.grow? 1 0)
    return (← (← f.grow? 1 0).link? fork, false)⟩

end Layout
end DataGrid.Pattern
