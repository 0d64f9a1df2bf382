import DataGrid.Proofs.Pattern.Literal
import DataGrid.Proofs.Store.Matching

/-!
# DataGrid.Proofs.Compile.Verdict -- what the filter of a condition answers

The table of operators says which filter document a condition becomes; `verdict` says what that
document finds in the value under its field. Values are only ever compared: whatever document a
client sends as a value, it stands where an operand is expected and is no condition of its own.

The filter of a condition has an answer on every document. It takes three assumptions: the name
of the field is no operator, no value is a pattern that a store would read, and a literal text
that is looked for is not too large to be laid out.
-/

namespace DataGrid

/-- The value is a pattern. -/
def Value.isPattern : Value → Bool
  | .regex _ _ => true
  | _ => false

/-- Where an operator looks for a literal text. -/
def Operator.likeMode? : Operator → Option Compile.LikeMode
  | .like => some .contains
  | .starts => some .startsWith
  | .ends => some .endsWith
  | _ => none

namespace Compile

open Fallible Store

/-! ## The table -/

/-- The value is equal to one of several, or missing if none is given. -/
def equalsOne (actual : Option Value) : List Value → Bool
  | [] => Matcher.equals actual .null
  | values => values.any (Matcher.equals actual)

/-- The literal text of a value is found. -/
def findsLiteral (actual : Option Value) (value : Value) (mode : LikeMode) : Bool :=
  Matcher.anyValue actual (Matcher.matchesText (literalNode value.patternText mode))

/-- The value lies between the first two, ends included. -/
def liesWithin (actual : Option Value) (low high : Value) : Bool :=
  Matcher.compares actual low Ordering.isGE && Matcher.compares actual high Ordering.isLE

/-- The value does not lie beyond the first two, or at one of them. -/
def liesOutside (actual : Option Value) (low high : Value) : Bool :=
  Matcher.compares actual low Ordering.isLE || Matcher.compares actual high Ordering.isGE

/-- What a condition finds in the value under its field. -/
def verdict (operator : Option Operator) (values : List Value) (actual : Option Value) : Bool :=
  let first := values.headD .null
  match operator with
  | none => Matcher.equals actual first
  | some operator =>
    match operator with
    | .eq | .inList => equalsOne actual values
    | .neq | .notInList => !equalsOne actual values
    | .gt => Matcher.compares actual first Ordering.isGT
    | .gte => Matcher.compares actual first Ordering.isGE
    | .lt => Matcher.compares actual first Ordering.isLT
    | .lte => Matcher.compares actual first Ordering.isLE
    | .notEmpty => !(Matcher.equals actual .null || Matcher.equals actual first)
    | .empty => Matcher.equals actual .null || Matcher.equals actual first
    | .like => findsLiteral actual first .contains
    | .starts => findsLiteral actual first .startsWith
    | .ends => findsLiteral actual first .endsWith
    | .between =>
      match values with
      | low :: high :: _ => liesWithin actual low high
      | _ => Matcher.equals actual first
    | .notBetween =>
      match values with
      | low :: high :: _ => liesOutside actual low high
      | _ => !Matcher.equals actual first
    | .exist => actual.isSome
    | .notExist => actual.isNone
    | .other _ => Matcher.equals actual first

/-! ## Filters of the table on a document -/

variable {index : TextIndex} {d : Document} {field : String}

/-- Candidates that are no patterns are compared one by one. -/
theorem inList_eq {actual : Option Value} {candidates : List Value}
    (plain : ∀ candidate ∈ candidates, candidate.isPattern = false) :
    Matcher.inList actual candidates = .ok (candidates.any (Matcher.equals actual)) := by
  induction candidates with
  | nil => rfl
  | cons candidate rest ih =>
    obtain ⟨hcandidate, hrest⟩ := List.forall_mem_cons.mp plain
    have hfound : Matcher.inList actual (candidate :: rest) =
        if Matcher.equals actual candidate then .ok true else Matcher.inList actual rest := by
      cases candidate with
      | regex text options => cases hcandidate
      | _ => rfl
    rw [hfound, ih hrest, List.any_cons]
    cases Matcher.equals actual candidate <;> rfl

theorem filter_equality (hfield : startsWithDollar field = false) {values : List Value}
    (plain : ∀ value ∈ values, value.isPattern = false) :
    Matcher.filter index d (equality field values) =
      .ok (equalsOne (d.lookupText field) values) := by
  match values with
  | [] => exact Matcher.filter_eq hfield .null
  | [only] =>
    show Matcher.filter index d (compare field "$eq" only) = _
    rw [Matcher.filter_eq hfield, equalsOne, List.any_cons, List.any_nil, Bool.or_false]
    exact List.cons_ne_nil only []
  | first :: second :: rest => exact (Matcher.filter_in hfield _).trans (inList_eq plain)

/-- A difference is asked as the negation of an equality. -/
theorem filter_inequality (hfield : startsWithDollar field = false) (values : List Value) :
    Matcher.filter index d (inequality field values) =
      (Matcher.filter index d (equality field values)).map not := by
  have hsingle : ∀ value, Matcher.filter index d (compare field "$ne" value) =
      (Matcher.filter index d (compare field "$eq" value)).map not := by
    intro value
    rw [Matcher.filter_ne hfield, Matcher.filter_eq hfield]
    rfl
  match values with
  | [] => exact hsingle .null
  | [only] => exact hsingle only
  | first :: second :: rest =>
    exact (Matcher.filter_nin hfield _).trans
      (congrArg (Except.map not) (Matcher.filter_in hfield _).symm)

/-- The pattern of a literal text on the value under a path. -/
theorem condition_likeSpec {actual : Option Value} {value : Value} {mode : LikeMode}
    (fits : (literalNode value.patternText mode).fits = true) :
    Matcher.condition actual (.document [("$regex", .string (likePattern value.patternText mode)),
      ("$options", .string "i")]) = .ok (findsLiteral actual value mode) := by
  have hlooked : Matcher.matchesPattern actual (likePattern value.patternText mode) "i" =
      .ok (findsLiteral actual value mode) := by
    rw [Matcher.matchesPattern, Matcher.pattern_likePattern fits]
    rfl
  rw [Matcher.condition_pair rfl, Matcher.operator, Matcher.operator]
  show (Matcher.matchesPattern actual (likePattern value.patternText mode) "i" >>= _) = _
  rw [hlooked, ok_bind]
  cases findsLiteral actual value mode <;> rfl

theorem filter_likeCondition (hfield : startsWithDollar field = false) {value : Value}
    {mode : LikeMode} (fits : (literalNode value.patternText mode).fits = true) :
    Matcher.filter index d (likeCondition field value mode) =
      .ok (findsLiteral (d.lookupText field) value mode) := by
  rw [likeCondition, Matcher.filter_field hfield, condition_likeSpec fits]

/-- A store refuses a text whose pattern is too large, whatever document it is looked for in. -/
theorem filter_likeCondition_too_large (hfield : startsWithDollar field = false) {value : Value}
    {mode : LikeMode} (large : (literalNode value.patternText mode).fits = false) :
    Matcher.filter index d (likeCondition field value mode) =
      .error (.malformedPattern (likePattern value.patternText mode) "i") := by
  rw [likeCondition, Matcher.filter_field hfield, Matcher.condition_pair rfl, Matcher.operator]
  show (Matcher.matchesPattern (d.lookupText field) (likePattern value.patternText mode) "i" >>=
    _) = _
  rw [Matcher.matchesPattern, Matcher.pattern_likePattern_too_large large]
  rfl

theorem filter_between (hfield : startsWithDollar field = false) (low high : Value) :
    Matcher.filter index d [(field, .document [("$gte", low), ("$lte", high)])] =
      .ok (liesWithin (d.lookupText field) low high) := by
  rw [Matcher.filter_field hfield, Matcher.condition_pair rfl, Matcher.operator, Matcher.operator,
    ok_bind, liesWithin]
  cases Matcher.compares (d.lookupText field) low Ordering.isGE <;> rfl

/-- By cases on the operator. -/
theorem filter_condition (hfield : startsWithDollar field = false) {operator : Option Operator}
    {values : List Value} (plain : ∀ value ∈ values, value.isPattern = false)
    (fits : ∀ mode, operator.bind Operator.likeMode? = some mode →
      (literalNode (values.headD .null).patternText mode).fits = true) :
    Matcher.filter index d (condition field operator values) =
      .ok (verdict operator values (d.lookupText field)) := by
  have hcompare : ∀ {name : String} (value : Value), startsWithDollar name = true →
      Matcher.filter index d (compare field name value) =
        Matcher.operator (d.lookupText field) [(name, value)] name value :=
    fun value hname => Matcher.filter_compare hfield hname value
  have heq : ∀ value, Matcher.filter index d (compare field "$eq" value) =
      .ok (Matcher.equals (d.lookupText field) value) := fun value => Matcher.filter_eq hfield value
  have hne : ∀ value, Matcher.filter index d (compare field "$ne" value) =
      .ok (!Matcher.equals (d.lookupText field) value) :=
    fun value => Matcher.filter_ne hfield value
  have hlte : ∀ value, Matcher.filter index d (compare field "$lte" value) =
      .ok (Matcher.compares (d.lookupText field) value Ordering.isLE) := fun value => by
    rw [hcompare value rfl, Matcher.operator]
  have hgte : ∀ value, Matcher.filter index d (compare field "$gte" value) =
      .ok (Matcher.compares (d.lookupText field) value Ordering.isGE) := fun value => by
    rw [hcompare value rfl, Matcher.operator]
  have hunequal : Matcher.filter index d (inequality field values) =
      .ok (!equalsOne (d.lookupText field) values) := by
    rw [filter_inequality hfield, filter_equality hfield plain]
    rfl
  rcases operator with _ | operator
  · exact heq _
  cases operator with
  | eq => exact filter_equality hfield plain
  | inList => exact filter_equality hfield plain
  | neq => exact hunequal
  | notInList => exact hunequal
  | gt =>
    refine (hcompare _ rfl).trans ?_
    rw [Matcher.operator, verdict]
  | gte => exact hgte _
  | lt =>
    refine (hcompare _ rfl).trans ?_
    rw [Matcher.operator, verdict]
  | lte => exact hlte _
  | notEmpty =>
    refine (Matcher.filter_and index d [_, _]).trans ?_
    rw [allM_pair (hne _) (hne _), ← Bool.not_or]
    rfl
  | empty =>
    refine (Matcher.filter_or index d [_, _]).trans ?_
    rw [anyM_pair (heq _) (heq _)]
    rfl
  | like => exact filter_likeCondition hfield (fits _ rfl)
  | starts => exact filter_likeCondition hfield (fits _ rfl)
  | ends => exact filter_likeCondition hfield (fits _ rfl)
  | between =>
    rcases values with _ | ⟨low, _ | ⟨high, rest⟩⟩
    · exact heq _
    · exact heq _
    · exact filter_between hfield low high
  | notBetween =>
    rcases values with _ | ⟨low, _ | ⟨high, rest⟩⟩
    · exact hne _
    · exact hne _
    · refine (Matcher.filter_or index d [_, _]).trans ?_
      rw [anyM_pair (hlte _) (hgte _)]
      rfl
  | exist =>
    refine (hcompare _ rfl).trans ?_
    rw [Matcher.operator, verdict]
    cases d.lookupText field <;> rfl
  | notExist =>
    refine (hcompare _ rfl).trans ?_
    rw [Matcher.operator, verdict]
    cases d.lookupText field <;> rfl
  | other name => exact heq _

end Compile
end DataGrid
