import DataGrid.Pattern.Node

/-!
# DataGrid.Pattern.Simplify -- patterns in simplified form

Patterns are put together by the functions here, which keep them simple without changing what
they match. Literals side by side become one literal, a sequence within a sequence and a
choice within a choice are dissolved, a choice of single characters or of classes becomes one
class, and parts that all branches of a choice begin with are taken out of it. Repetition of
something that takes no characters is pointless and becomes a single copy or an option.

How large a pattern is counts, since large ones are refused (`DataGrid.Pattern.SizeLimit`);
it is measured on the simplified form.
-/

namespace DataGrid.Pattern

open DataGrid.Text (CodePoints)

namespace Node

/-- The pattern that matches nowhere. -/
def nothing : Node := .points false .empty

def ofChars (cs : List Char) : Node := if cs.isEmpty then .empty else .literal cs

/-- One of a set of characters. -/
def ofPoints (unicode : Bool) (members : CodePoints) : Node :=
  if members.isEmpty then nothing
  else match members.single? with
    | some c => .literal [c]
    | none => .points unicode members

mutual

/-- Every match takes no characters. -/
def takesNothing : Node → Bool
  | .empty => true
  | .literal _ => false
  | .points _ _ => false
  | .assertion _ => true
  | .sequence parts => allTakeNothing parts
  | .choice branches => allTakeNothing branches
  | .repeated body _ most _ => most.isSome && takesNothing body
  | .group body => takesNothing body

def allTakeNothing : List Node → Bool
  | [] => true
  | node :: nodes => takesNothing node && allTakeNothing nodes

end

/-- Copies of a pattern. -/
def copies (body : Node) (least : Nat) (most : Option Nat) (greedy : Bool) : Node :=
  let (least, most) :=
    if body.takesNothing then (min least 1, some (min (most.getD 1) 1)) else (least, most)
  if most = some 0 then .empty
  else if least = 1 ∧ most = some 1 then body
  else .repeated body least most greedy

/-- What a pattern contributes to a sequence around it. -/
def parts : Node → List Node
  | .empty => []
  | .sequence parts => parts
  | node => [node]

/-- Joins literals side by side. -/
def joinLiterals : List Node → List Node
  | [] => []
  | node :: nodes =>
    match node, joinLiterals nodes with
    | .literal cs, .literal ds :: rest => .literal (cs ++ ds) :: rest
    | node, rest => node :: rest

/-- Patterns one behind the other. -/
def inSequence (nodes : List Node) : Node :=
  match joinLiterals (nodes.flatMap parts) with
  | [] => .empty
  | [node] => node
  | nodes => .sequence nodes

/-! ## Choices -/

mutual

/-- The same pattern. Two recorded groups never are, because each has a number of its own. -/
def same : Node → Node → Bool
  | .empty, .empty => true
  | .literal cs, .literal ds => cs == ds
  | .points u a, .points v b => u == v && a == b
  | .assertion a, .assertion b => a == b
  | .sequence as, .sequence bs => allSame as bs
  | .choice as, .choice bs => allSame as bs
  | .repeated a least most greedy, .repeated b least' most' greedy' =>
    least == least' && most == most' && greedy == greedy' && same a b
  | _, _ => false

def allSame : List Node → List Node → Bool
  | [], [] => true
  | a :: as, b :: bs => same a b && allSame as bs
  | _, _ => false

end

/-- How many parts two sequences have in common at their beginning. -/
def commonLength : List Node → List Node → Nat
  | a :: as, b :: bs => if same a b then commonLength as bs + 1 else 0
  | _, _ => 0

/-- What a pattern contributes to a choice around it. -/
def branches : Node → List Node
  | .choice branches => branches
  | node => [node]

/-- The character of a literal that has just one. -/
def char? : Node → Option Char
  | .literal [c] => some c
  | _ => none

/-- The members of a class. -/
def members? : Node → Option CodePoints
  | .points _ members => some members
  | _ => none

/-- The parts of a sequence. -/
def sequence? : Node → Option (List Node)
  | .sequence parts => some parts
  | _ => none

/-- The length of what all of several sequences begin with. -/
def sharedLength : List (List Node) → Nat
  | [] => 0
  | first :: others => others.foldl (fun n other => min n (commonLength first other)) first.length

/-- One of several patterns. Taking out a common beginning leaves shorter branches, which
`fuel` bounds. -/
def choiceWithin : (fuel : Nat) → List Node → Node
  | fuel, nodes =>
    match nodes.flatMap branches, fuel with
    | [], _ => nothing
    | [node], _ => node
    | nodes, fuel =>
      match nodes.mapM char? with
      | some cs => ofPoints true (.ofChars cs)
      | none =>
        match nodes.mapM members? with
        | some sets => ofPoints true (sets.foldl .union .empty)
        | none =>
          match nodes.mapM sequence?, fuel with
          | some (first :: others), fuel + 1 =>
            match sharedLength (first :: others) with
            | 0 => .choice nodes
            | n => inSequence (first.take n ++
                [choiceWithin fuel ((first :: others).map fun parts => inSequence (parts.drop n))])
          | _, _ => .choice nodes

mutual

/-- The number of nodes in a pattern. -/
def size : Node → Nat
  | .sequence parts => sizeAll parts + 1
  | .choice branches => sizeAll branches + 1
  | .repeated body _ _ _ => size body + 1
  | .group body => size body + 1
  | _ => 1

def sizeAll : List Node → Nat
  | [] => 0
  | node :: nodes => size node + sizeAll nodes

end

/-- One of several patterns. -/
def inChoice (nodes : List Node) : Node := choiceWithin (sizeAll nodes) nodes

end Node
end DataGrid.Pattern
