import DataGrid.Pattern.ClassLayout

/-!
# DataGrid.Pattern.LiteralTree -- how large choices of literals are

A choice of literals is laid out as a tree in which common beginnings are shared, or common
ends if the automaton runs backward. The order of the literals counts, since a literal that
ends where another goes on is preferred to those behind it: an end of a literal cuts the
branches of a node into runs, and sharing takes place within a run.
-/

namespace DataGrid.Pattern.Layout

/-- The words up to each empty one, which ends a run. Empty words at the very beginning end
one run together, as long as no other word has come. -/
def runs : List (List Nat) → List (List (List Nat))
  | words =>
    let leading := words.takeWhile List.isEmpty
    let rest := words.dropWhile List.isEmpty
    if rest.isEmpty then (leading.take 1).map (fun _ => []) ++ [[]]
    else
      let cut := rest.foldr (fun word (done : List (List (List Nat))) =>
        if word.isEmpty then [] :: done
        else match done with
          | run :: others => (word :: run) :: others
          | [] => [[word]]) [[]]
      (leading.take 1).map (fun _ => []) ++ cut

/-- The words of a run by their first bytes, without these. -/
def byFirst (run : List (List Nat)) : List (List (List Nat)) :=
  (run.filterMap List.head?).eraseDups.map fun byte =>
    run.filterMap fun word => if word.head? = some byte then some word.tail else none

/-- States and bytes for the node of the tree in which the given words begin. A node in
which nothing but empty words begin has no state. Each run is a table, and the node a fork
over its runs and over the ends of words between them. -/
def treeSize : (fuel : Nat) → List (List Nat) → Nat × Nat
  | 0, _ => (0, 0)
  | fuel + 1, words =>
    if words.all List.isEmpty then (0, 0)
    else
      let runs := runs words
      let tables := (runs.map byFirst).filter (!·.isEmpty)
      let forks := tables.length + (runs.length - 1)
      tables.foldl (fun size children =>
        let own := if children.length = 1 then 0 else 8 * children.length
        children.foldl (fun size child =>
          let (states, bytes) := treeSize fuel child
          (size.1 + states, size.2 + bytes)) (size.1 + 1, size.2 + own))
        (1, 4 * forks)

/-- A choice of literals, given as their bytes. -/
def tree (heading : Heading) (words : List (List Nat)) : Layout :=
  let words := match heading with
    | .forward => words
    | .backward => words.map List.reverse
  let longest := words.foldl (fun length word => max length word.length) 0
  let (states, tables) := treeSize (longest + 1) words
  fixed (states + 1) tables

end DataGrid.Pattern.Layout
