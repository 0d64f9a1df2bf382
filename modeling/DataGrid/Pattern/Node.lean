import DataGrid.Text.Word

/-!
# DataGrid.Pattern.Node -- patterns and what they match

A pattern is a tree of literals, classes, assertions, sequences, choices and repetitions.
Only one question is asked of it: whether it matches somewhere in a text. So its meaning
is a flow of marks along the text. A text of `n` characters has `n + 1` gaps; the bits of a
number mark the gaps that matching has reached so far, and each node sends the marks
before it to the marks behind it.

* A literal or a class moves every mark over the characters that it accepts.
* An assertion keeps the marks whose surroundings it accepts.
* A choice unites the marks of its branches.
* A repetition is applied until no new gap is reached.

A pattern matches a text when marks at all gaps leave some mark behind it (`matches`).
Which match is found first, and how greedy it is, plays no part in that question.
-/

namespace DataGrid.Pattern

open DataGrid.Text (CodePoints isWord isAsciiWord)

/-- Conditions on a gap of the text. -/
inductive Assertion where
  | textStart
  | textEnd
  | lineStart
  | lineEnd
  /-- Line ends where carriage return, line feed, or both together end a line. -/
  | anyLineStart
  | anyLineEnd
  | wordBoundary (unicode : Bool)
  | notWordBoundary (unicode : Bool)
  | wordStart (unicode : Bool)
  | wordEnd (unicode : Bool)
  | wordStartHalf (unicode : Bool)
  | wordEndHalf (unicode : Bool)
deriving DecidableEq, Repr

/-- A gap of a text: the characters on its two sides. -/
structure Gap where
  before : Option Char
  after : Option Char
deriving DecidableEq, Repr

/-- The gaps of the rest of a text behind a given character. -/
def gapsFrom : Option Char → List Char → List Gap
  | before, [] => [⟨before, none⟩]
  | before, c :: rest => ⟨before, some c⟩ :: gapsFrom (some c) rest

/-- All gaps of a text, from its start to its end. -/
def gaps (text : List Char) : List Gap := gapsFrom none text

namespace Assertion

/-- Whether a side of a gap is part of a word. -/
def onWord (unicode : Bool) : Option Char → Bool
  | some c => if unicode then isWord c else isAsciiWord c
  | none => false

def holds (assertion : Assertion) (gap : Gap) : Bool :=
  match assertion with
  | textStart => gap.before.isNone
  | textEnd => gap.after.isNone
  | lineStart => gap.before.isNone || gap.before == some '\n'
  | lineEnd => gap.after.isNone || gap.after == some '\n'
  | anyLineStart =>
    gap.before.isNone || gap.before == some '\n' ||
      (gap.before == some '\r' && gap.after != some '\n')
  | anyLineEnd =>
    gap.after.isNone || gap.after == some '\r' ||
      (gap.after == some '\n' && gap.before != some '\r')
  | wordBoundary unicode => onWord unicode gap.before != onWord unicode gap.after
  | notWordBoundary unicode => onWord unicode gap.before == onWord unicode gap.after
  | wordStart unicode => !onWord unicode gap.before && onWord unicode gap.after
  | wordEnd unicode => onWord unicode gap.before && !onWord unicode gap.after
  | wordStartHalf unicode => !onWord unicode gap.before
  | wordEndHalf unicode => !onWord unicode gap.after

end Assertion

/-- A pattern. -/
inductive Node where
  | empty
  /-- These characters, one behind the other. -/
  | literal (cs : List Char)
  /-- One of these characters. The flag tells whether Unicode rules named them. -/
  | points (unicode : Bool) (members : CodePoints)
  | assertion (condition : Assertion)
  | sequence (parts : List Node)
  | choice (branches : List Node)
  /-- At least `least` copies, and at most `most` if there is a bound. -/
  | repeated (body : Node) (least : Nat) (most : Option Nat) (greedy : Bool)
  /-- A group whose match is recorded. -/
  | group (body : Node)
deriving Inhabited

/-! ## Marks -/

/-- Which gaps of a text have been reached: bit `i` stands for the gap in front of the
character at index `i`. -/
abbrev Marks := Nat

/-- The indices of a list at which an entry passes a test. -/
def placesOf {α : Type} (test : α → Bool) (entries : List α) : Marks :=
  entries.foldr (fun entry places => 2 * places + (test entry).toNat) 0

theorem placesOf_cons {α : Type} (test : α → Bool) (entry : α) (rest : List α) :
    placesOf test (entry :: rest) = 2 * placesOf test rest + (test entry).toNat := rfl

theorem testBit_placesOf {α : Type} (test : α → Bool) (entries : List α) (i : Nat) :
    (placesOf test entries).testBit i = entries[i]?.any test := by
  induction entries generalizing i with
  | nil => simp [placesOf]
  | cons entry rest ih =>
    have bit : (test entry).toNat < 2 := Bool.toNat_lt _
    rw [placesOf_cons]
    cases i with
    | zero => cases h : test entry <;> simp [h, Nat.testBit_zero]
    | succ i =>
      rw [Nat.testBit_succ, Nat.mul_add_div Nat.two_pos, Nat.div_eq_of_lt bit, Nat.add_zero, ih]
      rfl

/-- The rests of a text from each of its gaps on. -/
def rests : List Char → List (List Char)
  | [] => [[]]
  | c :: rest => (c :: rest) :: rests rest

/-- Moves the marks at the given places over a number of characters. -/
def advance (places : Marks) (count : Nat) (marks : Marks) : Marks := (marks &&& places) <<< count

theorem testBit_advance (places : Marks) (count : Nat) (marks : Marks) (i : Nat) :
    (advance places count marks).testBit i =
      (decide (count ≤ i) && (marks.testBit (i - count) && places.testBit (i - count))) := by
  simp [advance]

/-- Applies a step to marks `count` times. Marks that a step leaves as they are stay so
for good, and the loop ends there. -/
def iterate (step : Marks → Marks) : (count : Nat) → Marks → Marks
  | 0, marks => marks
  | count + 1, marks =>
    let next := step marks
    if next = marks then marks else iterate step count next

/-- Collects what up to `count` applications of a step reach. -/
def collect (step : Marks → Marks) (count : Nat) (marks : Marks) : Marks :=
  iterate (fun reached => reached ||| step reached) count marks

/-- How a node sends the marks before it to the marks behind it. -/
structure Flow where
  through : Marks → Marks

namespace Flow

/-- One flow behind the other. -/
def inTurn (flows : List Flow) : Flow :=
  ⟨fun marks => flows.foldl (fun marks flow => flow.through marks) marks⟩

/-- Several flows side by side. -/
def together (flows : List Flow) : Flow :=
  ⟨fun marks => flows.foldl (fun reached flow => reached ||| flow.through marks) 0⟩

/-- A flow that is repeated along a text. With as many rounds as there are gaps, an unbounded
repetition has reached everything that it can. -/
def repeated (text : List Char) (flow : Flow) (least : Nat) (most : Option Nat) : Flow :=
  let more := match most with
    | some bound => min (bound - least) (text.length + 1)
    | none => text.length + 1
  ⟨fun marks => collect flow.through more (iterate flow.through least marks)⟩

end Flow

mutual

/-- The flow of a node along a text. -/
def flow (text : List Char) : Node → Flow
  | .empty => ⟨id⟩
  | .literal cs => ⟨advance (placesOf cs.isPrefixOf (rests text)) cs.length⟩
  | .points _ members => ⟨advance (placesOf members.contains text) 1⟩
  | .assertion condition => ⟨advance (placesOf condition.holds (gaps text)) 0⟩
  | .sequence parts => .inTurn (flows text parts)
  | .choice branches => .together (flows text branches)
  | .repeated body least most _ => (flow text body).repeated text least most
  | .group body => flow text body

def flows (text : List Char) : List Node → List Flow
  | [] => []
  | node :: nodes => flow text node :: flows text nodes

end

/-- The pattern matches somewhere in the text. -/
def Node.matches (node : Node) (text : List Char) : Bool :=
  (flow text node).through (placesOf (fun _ => true) (rests text)) != 0

end DataGrid.Pattern
