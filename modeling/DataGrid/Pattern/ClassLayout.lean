import DataGrid.Pattern.Footprint
import DataGrid.Pattern.Utf8

/-!
# DataGrid.Pattern.ClassLayout -- how large classes of characters are

A class of ASCII characters is a table of transitions and the state behind it. Any other
class is laid out from the byte sequences of its characters, and parts of these are shared:
forward, equal tables are; backward, equal states in front of the same state. What has been
laid out is remembered in a table with a fixed number of places, in which an entry displaces
one that was there, so a few states are laid out twice. Which ones depends on the numbers of
the states, and so on how many stand before the class.
-/

namespace DataGrid.Pattern

open DataGrid.Text (CodePoints)

/-- In which direction an automaton runs. -/
inductive Heading where
  | forward
  | backward
deriving DecidableEq, Repr

namespace Layout

/-- The starting value and the factor of a hash over numbers, each of which is mixed in by
exclusive or. -/
def hashSeed : UInt64 := 14695981039346656037

def mix (hash : UInt64) (n : Nat) : UInt64 := (hash ^^^ n.toUInt64) * 1099511628211

/-- A transition for a range of bytes. -/
structure Transition where
  low : Nat
  high : Nat
  next : Nat
deriving DecidableEq, Repr

/-- Entries at the places that their hashes give them. -/
structure Memory (α : Type) where
  places : Array (Option (α × Nat))

namespace Memory

variable {α : Type} [DecidableEq α]

def ofSize (size : Nat) : Memory α := ⟨Array.replicate size none⟩

/-- The state of an entry that has not been displaced. -/
def find? (memory : Memory α) (place : Nat) (entry : α) : Option Nat :=
  match memory.places[place]? with
  | some (some (found, state)) => if found = entry then some state else none
  | _ => none

def insert (memory : Memory α) (place : Nat) (entry : α) (state : Nat) : Memory α :=
  ⟨memory.places.setIfInBounds place (some (entry, state))⟩

end Memory

/-- The places for tables of transitions, forward. -/
def forwardPlaces : Nat := 10000

def placeOfTable (table : List Transition) : Nat :=
  let hash := table.foldl (fun hash t => mix (mix (mix hash t.low) t.high) t.next) hashSeed
  (hash % forwardPlaces.toUInt64).toNat

/-- A table that is still being filled: its transitions, the last one first, and the range
of one more whose target is not known yet. -/
structure OpenTable where
  transitions : List Transition
  last : Option ByteRange

/-- Gives the last range of a table its target. -/
def OpenTable.close (table : OpenTable) (next : Nat) : OpenTable :=
  match table.last with
  | some range => ⟨⟨range.low, range.high, next⟩ :: table.transitions, none⟩
  | none => table

/-- A class on the way: the tables that are open along the last sequence, the innermost one
first, and what has been laid out. -/
structure Weaving where
  opened : List OpenTable
  memory : Memory (List Transition)
  footprint : Footprint

namespace Weaving

/-- Lays out a finished table, unless it is remembered, and gives its state. -/
def table? (w : Weaving) (transitions : List Transition) : Option (Nat × Weaving) :=
  let place := placeOfTable transitions
  match w.memory.find? place transitions with
  | some state => some (state, w)
  | none => do
    let grown ← w.footprint.grow? 1 (8 * transitions.length)
    let state := w.footprint.states
    return (state, { w with memory := w.memory.insert place transitions state, footprint := grown })

/-- Finishes the `count` innermost tables, the innermost of which leads to `next`, and leads
the one around them to the result. -/
def finish? (next : Nat) : (count : Nat) → Weaving → Option Weaving
  | 0, w =>
    match w.opened with
    | table :: outer => some { w with opened := table.close next :: outer }
    | [] => some w
  | count + 1, w =>
    match w.opened with
    | table :: outer => do
      let (state, w) ← { w with opened := outer }.table? (table.close next).transitions.reverse
      finish? state count w
    | [] => some w

/-- How many ranges of a sequence are those of the open tables, from the outermost on. -/
def sharedLength : List OpenTable → List ByteRange → Nat
  | table :: tables, range :: ranges =>
    if table.last = some range then sharedLength tables ranges + 1 else 0
  | _, _ => 0

/-- Opens a table for every range of the rest of a sequence; the first range goes into the
innermost table that is open. -/
def extend (opened : List OpenTable) : List ByteRange → List OpenTable
  | [] => opened
  | range :: ranges =>
    let opened := match opened with
      | table :: outer => { table with last := some range } :: outer
      | [] => []
    ranges.foldl (fun opened range => ⟨[], some range⟩ :: opened) opened

/-- Adds a sequence. All sequences lead to the state `target`. -/
def add? (target : Nat) (w : Weaving) (sequence : List ByteRange) : Option Weaving := do
  let shared := sharedLength w.opened.reverse sequence
  let w ← finish? target (w.opened.length - (shared + 1)) w
  return { w with opened := extend w.opened (sequence.drop shared) }

end Weaving

/-- A class, forward. -/
def classForward (sequences : List (List ByteRange)) : Layout :=
  ⟨fun f => do
    let target := f.states
    let w : Weaving := ⟨[⟨[], none⟩], .ofSize forwardPlaces, ← f.grow? 1 0⟩
    let w ← sequences.foldlM (Weaving.add? target) w
    let w ← w.finish? target (w.opened.length - 1)
    let root := (w.opened.headD ⟨[], none⟩).transitions.reverse
    let (_, w) ← w.table? root
    return (w.footprint, false)⟩

/-- The places for states, backward. -/
def backwardPlaces : Nat := 1000

def placeOfState (t : Transition) : Nat :=
  (mix (mix (mix hashSeed t.next) t.low) t.high % backwardPlaces.toUInt64).toNat

/-- A class on the way: the states behind which another state is known to stand, and what has
been laid out. -/
structure Stacking where
  memory : Memory Transition
  footprint : Footprint

/-- The state in front of another one, for a range of bytes. -/
def Stacking.before? (s : Stacking) (next : Nat) (range : ByteRange) : Option (Nat × Stacking) :=
  let transition : Transition := ⟨range.low, range.high, next⟩
  let place := placeOfState transition
  match s.memory.find? place transition with
  | some state => some (state, s)
  | none => do
    let grown ← s.footprint.grow? 1 0
    let state := s.footprint.states
    return (state, ⟨s.memory.insert place transition state, grown⟩)

/-- Adds a sequence that begins in front of the state `target`. -/
def Stacking.add? (s : Stacking) (target : Nat) : List ByteRange → Option Stacking
  | [] => do return { s with footprint := ← s.footprint.grow? 0 4 }
  | range :: ranges => do
    let (state, s) ← s.before? target range
    s.add? state ranges

/-- A class, backward: a fork with a branch for every sequence. -/
def classBackward (sequences : List (List ByteRange)) : Layout :=
  ⟨fun f => do
    let target := f.states + 1
    let s : Stacking := ⟨.ofSize backwardPlaces, ← f.grow? 2 0⟩
    let s ← sequences.foldlM (fun s sequence => s.add? target sequence) s
    return (s.footprint, false)⟩

/-- A class. ASCII characters fit into one table. -/
def ofClass (heading : Heading) (members : CodePoints) : Layout :=
  if members.isAscii then fixed 2 (8 * members.ranges.size)
  else match heading with
    | .forward => classForward (Utf8.ofPoints members)
    | .backward => classBackward (Utf8.ofPoints members)

end Layout
end DataGrid.Pattern
