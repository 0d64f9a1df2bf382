/-!
# DataGrid.Store.StableSort -- sorting by comparisons

A stable sort. Up to twenty items are inserted one by one. Of more items, runs that are in
order as they stand are looked for, the rest is cut into runs that are sorted on their own, and
neighbouring runs are merged, in an order that keeps the merges balanced. Long runs without
order are sorted by partition.

A comparison can be inconsistent: it may put one item in front of a second, the second in front
of a third, and the third in front of the first. Then some order comes out, or the sort gives
up. It does when the two ends of a merge from both sides do not meet.

What is moved are positions, and items are only looked at by comparing those at two positions.
-/

namespace DataGrid.Store.Sorting

/-! ## Insertion -/

section Insertion

variable {α : Type}

/-- Inserts an item into a sorted list that is in reverse. -/
def insertBehind (precedes : α → α → Bool) (item : α) : List α → List α
  | [] => [item]
  | last :: before =>
    if precedes item last then last :: insertBehind precedes item before
    else item :: last :: before

/-- The items in reverse, sorted. -/
def sortReversed (precedes : α → α → Bool) (items : List α) : List α :=
  items.foldl (fun sorted item => insertBehind precedes item sorted) []

/-- Stable sorting by insertion. -/
def sortBy (precedes : α → α → Bool) (items : List α) : List α :=
  (sortReversed precedes items).reverse

end Insertion

section Positions

-- Whether the item at the first position precedes the one at the second.
variable (less : Nat → Nat → Bool)

/-! ## Merging -/

/-- Merges two sorted runs, from the end of the shorter one. -/
def merge (left right : List Nat) : List Nat :=
  if left.length ≤ right.length then List.merge left right fun l r => !less r l
  else (List.merge right.reverse left.reverse fun r l => !less r l).reverse

/-- The first items of a merge, as many as are asked for, and what is left of both lists. -/
def mergeFirst (fromRight : Nat → Nat → Bool) :
    (count : Nat) → (left right : List Nat) → List Nat × List Nat × List Nat
  | count + 1, l :: left, r :: right =>
    if fromRight l r then
      let (merged, rest) := mergeFirst fromRight count (l :: left) right
      (r :: merged, rest)
    else
      let (merged, rest) := mergeFirst fromRight count left (r :: right)
      (l :: merged, rest)
  | _, left, right => ([], left, right)

/-- The item that two sides of a merge leave over if the number of items is odd, and what is left
of both lists. -/
def mergeMiddle (odd fromLeft : Bool) (left right : List Nat) : List Nat × List Nat × List Nat :=
  if !odd then ([], left, right)
  else if fromLeft then (left.take 1, left.drop 1, right)
  else (right.take 1, left, right.drop 1)

/-- Merges two sorted halves from both sides at once; the right one may be longer by an item.
Gives up if the two sides do not meet. -/
def mergeBothEnds (left right : List Nat) : Option (List Nat) :=
  let half := left.length
  let (front, l, r) := mergeFirst (fun l r => less r l) half left right
  let (back, l', r') := mergeFirst (fun l r => !less r l) half left.reverse right.reverse
  let (middle, l, r) :=
    mergeMiddle (right.length != half) (decide (half < l.length + l'.length)) l r
  if l.length + l'.length = half ∧ r.length + r'.length = right.length then
    some (front ++ middle ++ back.reverse)
  else none

/-! ## Few items -/

/-- Merges two pairs that are in order. -/
def mergePairs (a b c d : Nat) : List Nat :=
  let fromRight := less c a
  let toLeft := less d b
  let first := if fromRight then c else a
  let last := if toLeft then b else d
  let left := if fromRight then a else if toLeft then c else b
  let right := if toLeft then d else if fromRight then b else c
  if less right left then [first, right, left, last] else [first, left, right, last]

/-- Sorts four items. -/
def sortFour (a b c d : Nat) : List Nat :=
  let (a, b) := if less b a then (b, a) else (a, b)
  let (c, d) := if less d c then (d, c) else (c, d)
  mergePairs less a b c d

/-- Sorts a half: its first four items at once, if so wanted, and the others by insertion. -/
def sortHalf (four : Bool) (items : List Nat) : List Nat :=
  match four, items with
  | true, a :: b :: c :: d :: rest =>
    (rest.foldl (fun sorted item => insertBehind less item sorted)
      (sortFour less a b c d).reverse).reverse
  | _, items => sortBy less items

/-- The most items that are sorted in halves. -/
def fewItems : Nat := 32

/-- Sorts two halves and merges them. -/
def sortFew (items : List Nat) : Option (List Nat) :=
  if items.length < 2 then some items
  else
    let half := items.length / 2
    let four := decide (8 ≤ items.length)
    mergeBothEnds less (sortHalf less four (items.take half)) (sortHalf less four (items.drop half))

/-! ## Runs -/

/-- Consecutive items, in order or yet to be sorted. -/
structure Run where
  items : List Nat
  sorted : Bool

/-- How many of the items go on in one direction behind the last one. -/
def continued (descending : Bool) : (last : Nat) → List Nat → Nat
  | last, next :: rest =>
    if less next last = descending then continued descending next rest + 1 else 0
  | _, [] => 0

/-- The length of the run at the front of the items, and whether it descends. -/
def frontRun : List Nat → Nat × Bool
  | first :: second :: rest =>
    let descending := less second first
    (continued less descending second rest + 2, descending)
  | items => (items.length, false)

/-- The next run: one that is there, if it is long enough, or one that is made. -/
def nextRun (eager : Bool) (longEnough : Nat) (items : List Nat) : Option Run :=
  let (length, descending) := frontRun less items
  if longEnough ≤ length then
    let run := items.take length
    some ⟨if descending then run.reverse else run, true⟩
  else if eager then (sortFew less (items.take fewItems)).map (⟨·, true⟩)
  else some ⟨items.take longEnough, false⟩

/-- All items, in runs. -/
def runs (eager : Bool) (longEnough : Nat) : List Nat → Option (List Run)
  | [] => some []
  | first :: rest => do
    let run ← nextRun less eager longEnough (first :: rest)
    -- the first item is in the run
    return run :: (← runs eager longEnough (rest.drop (run.items.length - 1)))
termination_by items => items.length
decreasing_by simp only [List.length_drop, List.length_cons]; omega

section Merging

-- How a run is sorted that was left unsorted.
variable (sortRun : List Nat → Option (List Nat))

/-- The items of a run, sorted. -/
def Run.inOrder (run : Run) : Option (List Nat) :=
  if run.sorted then some run.items else sortRun run.items

/-- Puts neighbours together. Runs that are both unsorted stay so, while there is room to sort
them as one. -/
def join (room : Nat) (left right : Run) : Option Run :=
  if room < left.items.length + right.items.length ∨ left.sorted ∨ right.sorted then do
    return ⟨merge less (← left.inOrder sortRun) (← right.inOrder sortRun), true⟩
  else some ⟨left.items ++ right.items, false⟩

/-- Joins a run to those on the stack that lie as deep in the tree of merges, or deeper. -/
def collapse (room depth : Nat) : Run → List (Run × Nat) → Option (Run × List (Run × Nat))
  | run, (left, leftDepth) :: below =>
    if depth ≤ leftDepth then do
      collapse room depth (← join less sortRun room left run) below
    else some (run, (left, leftDepth) :: below)
  | run, [] => some (run, [])

/-- How deep in a balanced tree of merges the border between two neighbours lies. -/
def mergeDepth (scale start border stop : Nat) : Nat :=
  63 - Nat.log2 ((scale * (start + border)) ^^^ (scale * (border + stop)))

/-- Joins all runs. The stack has the runs before the last one, with the depths of the borders
behind them. -/
def joinAll (room scale : Nat) : (start : Nat) → List (Run × Nat) → (last : Run) → List Run →
    Option Run
  | _, stack, last, [] => (collapse less sortRun room 0 last stack).map Prod.fst
  | start, stack, last, next :: rest => do
    let border := start + last.items.length
    let depth := mergeDepth scale start border (border + next.items.length)
    let (joined, stack) ← collapse less sortRun room depth last stack
    joinAll room scale border ((joined, depth) :: stack) next rest

end Merging

/-- The length from which on a run that is there is taken as it is. -/
def goodLength (length : Nat) : Nat :=
  if length ≤ 4096 then min (length - length / 2) 64
  else
    -- one step towards the root, from a power of two
    let shift := (1 + length.log2) / 2
    (1 <<< shift + length >>> shift) / 2

/-- Sorts the items in runs, which are sorted as soon as they are found or later on. -/
def sortRuns (sortRun : List Nat → Option (List Nat)) (eager : Bool) (room : Nat)
    (items : List Nat) : Option (List Nat) := do
  let length := items.length
  match ← runs less eager (goodLength length) items with
  | [] => return []
  | first :: rest =>
    let scale := (1 <<< 62 + length - 1) / length
    (← joinAll less sortRun room scale 0 [] first rest).inOrder sortRun

/-! ## Partition -/

/-- The one in the middle of three. -/
def median (a b c : Nat) : Nat :=
  if less a b = less a c then if less b c = less a b then b else c else a

/-- One near the middle of those in three stretches, each of them eight times as long. -/
def pseudoMedian (items : Array Nat) (length a b c : Nat) : Nat :=
  if h : 8 ≤ length then
    let part := length / 8
    have : part < length := Nat.div_lt_self (by omega) (by decide)
    let of (start : Nat) := pseudoMedian items part start (start + part * 4) (start + part * 7)
    median less (of a) (of b) (of c)
  else median less (items.getD a 0) (items.getD b 0) (items.getD c 0)
termination_by length

/-- The item by which the others are parted. -/
def pivot (items : List Nat) : Nat :=
  let part := items.length / 8
  pseudoMedian less items.toArray part 0 (part * 4) (part * 7)

/-- Sorts by partition. After too many of them the rest is sorted in runs. No item precedes the
bound; where none precedes the pivot either, those that tie with it are in order. -/
def sortParts (room : Nat) : (limit : Nat) → (bound : Option Nat) → List Nat → Option (List Nat)
  | limit, bound, items =>
    if items.length ≤ fewItems then sortFew less items
    else match limit with
    | 0 => sortRuns less (sortFew less) true room items
    | limit + 1 =>
      let pivot := pivot less items
      let low := items.filter fun item => item != pivot && less item pivot
      if bound.any (fun bound => !less bound pivot) || low.isEmpty then do
        let tied := items.filter fun item => item == pivot || !less pivot item
        let high := items.filter fun item => item != pivot && less pivot item
        return tied ++ (← sortParts room limit none high)
      else do
        let high := items.filter fun item => item == pivot || !less item pivot
        return (← sortParts room limit bound low) ++ (← sortParts room limit (some pivot) high)

/-- Sorts many items. -/
def sortMany (items : List Nat) : Option (List Nat) :=
  let length := items.length
  -- eight million bytes of documents are sorted as one, or else half of them
  let room := max (max (length - length / 2) (min length (8000000 / 88))) 48
  let quick (run : List Nat) := sortParts less room (2 * run.length.log2) none run
  sortRuns less quick (decide (length ≤ 2 * fewItems)) room items

end Positions

/-- Stable sorting. Gives nothing if the sort gives up. -/
def sortBy? {α : Type} (precedes : α → α → Bool) (items : List α) : Option (List α) :=
  if items.length ≤ 20 then some (sortBy precedes items)
  else match items with
  | [] => some []
  | first :: _ =>
    let table := items.toArray
    let item (position : Nat) : α := table.getD position first
    let less (i j : Nat) := precedes (item i) (item j)
    (sortMany less (List.range items.length)).map (List.map item)

end DataGrid.Store.Sorting
