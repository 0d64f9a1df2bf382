import DataGrid.Pattern.LiteralTree
import DataGrid.Pattern.Simplify

/-!
# DataGrid.Pattern.SizeLimit -- which patterns are too large

A pattern is laid out twice, once to be run forward and once to be run backward, and each of
the two automata has to stay within the limit (`Node.fits`).

* A literal is a state a byte. A choice is a fork, its branches and the state in which they
  meet; a choice of literals is a tree.
* Groups are recorded forward only, by a state on each side.
* In front of a pattern stands a loop over all bytes, unless every match is at the end of the
  text from which the automaton runs.
-/

namespace DataGrid.Pattern

namespace Node

mutual

/-- The fewest characters that a match takes, if all parts can match. -/
def minimumLength : Node → Option Nat
  | .empty => some 0
  | .literal cs => some cs.length
  | .points _ members => if members.isEmpty then none else some 1
  | .assertion _ => some 0
  | .sequence parts => minimumOfAll parts
  | .choice branches => minimumOfAny branches
  | .repeated body least _ _ => (minimumLength body).map (· * least)
  | .group body => minimumLength body

def minimumOfAll : List Node → Option Nat
  | [] => some 0
  | node :: nodes => do return (← minimumLength node) + (← minimumOfAll nodes)

def minimumOfAny : List Node → Option Nat
  | [] => none
  | [node] => minimumLength node
  | node :: nodes => do return min (← minimumLength node) (← minimumOfAny nodes)

end

/-- The characters of a literal. -/
def literal? : Node → Option (List Char)
  | .literal cs => some cs
  | _ => none

mutual

/-- The layout of a pattern. -/
def layout (heading : Heading) : Node → Layout
  | .empty => .fixed 1 0
  | .literal cs => .fixed (Utf8.ofChars cs).length 0
  | .points _ members => .ofClass heading members
  | .assertion _ => .fixed 1 0
  | .sequence parts =>
    let pieces := layouts heading parts
    .row (match heading with
      | .forward => pieces
      | .backward => pieces.reverse)
  | .choice branches =>
    match branches.mapM literal? with
    | some words => .tree heading (words.map Utf8.ofChars)
    | none => .fork (layouts heading branches)
  | .repeated body least most _ =>
    let piece := layout heading body
    match most with
    | none => .atLeast piece ((minimumLength body).getD 0 == 0) least
    | some most =>
      if least = 0 ∧ most = 1 then .optional piece
      else if least = most then .exactly piece least
      else .bounded piece least most
  | .group body =>
    match heading with
    | .forward => .between (layout heading body)
    | .backward => layout heading body

def layouts (heading : Heading) : List Node → List Layout
  | [] => []
  | node :: nodes => layout heading node :: layouts heading nodes

end

mutual

/-- Every match begins where an assertion holds that the pattern begins with. -/
def beginsWith (condition : Assertion) : Node → Bool
  | .assertion other => other == condition
  | .sequence parts => sequenceBeginsWith condition parts
  | .choice branches => allBeginWith condition branches
  | .repeated body least _ _ => decide (0 < least) && beginsWith condition body
  | .group body => beginsWith condition body
  | _ => false

/-- One of the parts that are reached before any character is taken. -/
def sequenceBeginsWith (condition : Assertion) : List Node → Bool
  | [] => false
  | node :: nodes =>
    beginsWith condition node || (node.takesNothing && sequenceBeginsWith condition nodes)

def allBeginWith (condition : Assertion) : List Node → Bool
  | [] => true
  | node :: nodes => beginsWith condition node && allBeginWith condition nodes

end

mutual

/-- Every match ends where an assertion holds that the pattern ends with. -/
def endsWith (condition : Assertion) : Node → Bool
  | .assertion other => other == condition
  | .sequence parts => sequenceEndsWith condition parts
  | .choice branches => allEndWith condition branches
  | .repeated body least _ _ => decide (0 < least) && endsWith condition body
  | .group body => endsWith condition body
  | _ => false

/-- One of the parts behind which no character is taken. -/
def sequenceEndsWith (condition : Assertion) : List Node → Bool
  | [] => false
  | node :: nodes =>
    (endsWith condition node && allTakeNothing nodes) || sequenceEndsWith condition nodes

def allEndWith (condition : Assertion) : List Node → Bool
  | [] => true
  | node :: nodes => endsWith condition node && allEndWith condition nodes

end

/-- What stands before the pattern: a single state if all matches are at one end of the text,
else a loop over all bytes with a link to the pattern. -/
def lead (anchored : Bool) : Footprint := if anchored then ⟨1, 0⟩ else ⟨3, 16⟩

/-- The whole automaton, forward: the pattern is recorded as a group and followed by the
state that accepts. -/
def forwardFootprint? (node : Node) : Option Footprint := do
  let (f, _) ← (Layout.between (node.layout .forward)).place? (lead (node.beginsWith .textStart))
  f.grow? 1 0

/-- The whole automaton, backward. -/
def backwardFootprint? (node : Node) : Option Footprint := do
  let (f, fork) ← (node.layout .backward).place? (lead (node.endsWith .textEnd))
  (← f.grow? 1 0).link? fork

/-- Both automata stay within the limit. -/
def fits (node : Node) : Bool := node.forwardFootprint?.isSome && node.backwardFootprint?.isSome

end Node

end DataGrid.Pattern
