/-!
# DataGrid.Text.CodePoints -- sets and maps of characters as tables

Tables of characters are written as text: hexadecimal code points, ranges with a hyphen,
entries separated by spaces and in ascending order. They are read once into arrays and
searched by halving.

* `CodePoints` is a set: `41-5a aa b5`. Sets have the usual operations.
* `CaseMap` sends a character to one or several: `df:53+53`.
* `FoldingClasses` groups characters: `4b+6b+212a`.
-/

namespace DataGrid.Text

/-- A test on characters. -/
abbrev PointTest := Char → Bool

/-- Cuts characters at every separator; the result is never empty. -/
def splitAt (separator : Char) : List Char → List (List Char)
  | [] => [[]]
  | c :: rest =>
    if c = separator then [] :: splitAt separator rest
    else match splitAt separator rest with
      | [] => [[c]]
      | part :: others => (c :: part) :: others

theorem splitAt_ne_nil (separator : Char) (cs : List Char) : splitAt separator cs ≠ [] := by
  fun_cases splitAt separator cs <;> simp_all

/-- The words of a table: what stands between spaces and line ends. -/
def tableWords (text : String) : List (List Char) :=
  (splitAt ' ' (text.toList.map fun c => if c = '\n' then ' ' else c)).filter (!·.isEmpty)

/-- The value of hexadecimal digits in lower case. -/
def hexValue (digits : List Char) : Nat :=
  digits.foldl (fun value c =>
    value * 16 + (if c ≤ '9' then c.toNat - '0'.toNat else c.toNat + 10 - 'a'.toNat)) 0

/-- The index of the last entry of an ascending array whose key is at most `key`, within
`low ≤ index < high`; `low` if there is none. -/
def searchLast {α : Type} (keyOf : α → Nat) (entries : Array α) (key : Nat) :
    (fuel low high : Nat) → Nat
  | 0, low, _ => low
  | fuel + 1, low, high =>
    if high ≤ low + 1 then low
    else
      let middle := (low + high) / 2
      match entries[middle]? with
      | some entry =>
        if keyOf entry ≤ key then searchLast keyOf entries key fuel middle high
        else searchLast keyOf entries key fuel low middle
      | none => low

/-! ## Sets -/

/-- A set of characters as ranges of code points. The ranges ascend, do not touch each other
and hold no surrogate, so equal sets are equal lists of ranges. -/
structure CodePoints where
  ranges : Array (Nat × Nat)
deriving DecidableEq, Repr

namespace CodePoints

/-- The last code point. -/
def lastPoint : Nat := 0x10FFFF

/-- The code points that are no characters. -/
def surrogates : Nat × Nat := (0xD800, 0xDFFF)

/-- Joins ranges that ascend by their first points where they overlap or touch. -/
def join : List (Nat × Nat) → List (Nat × Nat)
  | (low, high) :: (low', high') :: rest =>
    if low' ≤ high + 1 then join ((low, max high high') :: rest)
    else (low, high) :: join ((low', high') :: rest)
  | ranges => ranges
termination_by ranges => ranges.length

/-- What lies between ranges, from a given point on. -/
def between (start : Nat) : List (Nat × Nat) → List (Nat × Nat)
  | [] => if start ≤ lastPoint then [(start, lastPoint)] else []
  | (low, high) :: rest =>
    if start < low then (start, low - 1) :: between (high + 1) rest
    else between (high + 1) rest

/-- Ranges of two sets together. -/
def mergeRanges (a b : List (Nat × Nat)) : List (Nat × Nat) :=
  join (List.merge a b fun x y => decide (x.1 ≤ y.1))

def empty : CodePoints := ⟨#[]⟩

def isEmpty (points : CodePoints) : Bool := points.ranges.isEmpty

/-- All other characters. -/
def complement (points : CodePoints) : CodePoints :=
  ⟨(between 0 (mergeRanges points.ranges.toList [surrogates])).toArray⟩

def union (a b : CodePoints) : CodePoints :=
  ⟨(mergeRanges a.ranges.toList b.ranges.toList).toArray⟩

def intersection (a b : CodePoints) : CodePoints := (a.complement.union b.complement).complement

def difference (a b : CodePoints) : CodePoints := a.intersection b.complement

/-- What is in one of two sets only. -/
def symmetricDifference (a b : CodePoints) : CodePoints := (a.difference b).union (b.difference a)

/-- The characters from one code point to another. -/
def ofRange (low high : Nat) : CodePoints := complement ⟨(between 0 [(low, high)]).toArray⟩

/-- The characters with given code points, in any order. -/
def ofPoints (points : List Nat) : CodePoints :=
  ⟨(join ((points.mergeSort fun a b => decide (a ≤ b)).map fun point => (point, point))).toArray⟩

def ofChar (c : Char) : CodePoints := ⟨#[(c.toNat, c.toNat)]⟩

def ofChars (cs : List Char) : CodePoints := ofPoints (cs.map Char.toNat)

/-- All characters. -/
def all : CodePoints := empty.complement

def ascii : CodePoints := ⟨#[(0, 0x7F)]⟩

/-- Every member is an ASCII character. -/
def isAscii (points : CodePoints) : Bool := points.ranges.all fun range => range.2 < 0x80

/-- The only member, if there is just one. -/
def single? (points : CodePoints) : Option Char :=
  match points.ranges.toList with
  | [(low, high)] => if low = high then some (Char.ofNat low) else none
  | _ => none

/-- One range of the written form. -/
def readRange (digits : List Char) : Nat × Nat :=
  match splitAt '-' digits with
  | [low, high] => (hexValue low, hexValue high)
  | _ => (hexValue digits, hexValue digits)

def ofText (text : String) : CodePoints :=
  ⟨((tableWords text).map readRange).toArray⟩

def contains (points : CodePoints) (c : Char) : Bool :=
  match points.ranges[searchLast Prod.fst points.ranges c.toNat 64 0 points.ranges.size]? with
  | some (low, high) => low ≤ c.toNat && c.toNat ≤ high
  | none => false

end CodePoints

/-- A set of characters under several names, read only when it is asked for. -/
structure NamedPoints where
  names : List String
  text : String

/-- The set that goes by a name. -/
def NamedPoints.find? (sets : List NamedPoints) (name : String) : Option CodePoints :=
  (sets.find? fun set => set.names.contains name).map fun set => .ofText set.text

/-! ## Maps -/

/-- What some characters become; the others stay. -/
structure CaseMap where
  entries : Array (Nat × List Char)

namespace CaseMap

def readEntry (digits : List Char) : Nat × List Char :=
  match splitAt ':' digits with
  | [point, image] =>
    (hexValue point, (splitAt '+' image).map fun part => Char.ofNat (hexValue part))
  | _ => (0, [])

def ofText (text : String) : CaseMap := ⟨((tableWords text).map readEntry).toArray⟩

def apply (map : CaseMap) (c : Char) : List Char :=
  match map.entries[searchLast Prod.fst map.entries c.toNat 64 0 map.entries.size]? with
  | some (point, image) => if point = c.toNat then image else [c]
  | none => [c]

end CaseMap

/-! ## Classes -/

/-- Disjoint classes of characters, found through any of their members. -/
structure FoldingClasses where
  entries : Array (Nat × List Char)

namespace FoldingClasses

/-- Every member of a class, together with the class. -/
def readClass (digits : List Char) : List (Nat × List Char) :=
  let members := (splitAt '+' digits).map hexValue
  members.map fun member => (member, members.map Char.ofNat)

/-- The classes of several tables. -/
def ofTexts (texts : List String) : FoldingClasses :=
  ⟨(((texts.flatMap tableWords).flatMap readClass).mergeSort fun a b => a.1 ≤ b.1).toArray⟩

/-- The class of a character; alone if it is in none. -/
def classOf (classes : FoldingClasses) (c : Char) : List Char :=
  match classes.entries[searchLast Prod.fst classes.entries c.toNat 64 0
      classes.entries.size]? with
  | some (point, members) => if point = c.toNat then members else [c]
  | none => [c]

/-- A set together with everything that shares a class with a member. -/
def close (classes : FoldingClasses) (points : CodePoints) : CodePoints :=
  let added := classes.entries.toList.flatMap fun (point, members) =>
    if points.contains (Char.ofNat point) then members else []
  points.union (.ofChars added)

end FoldingClasses

end DataGrid.Text
