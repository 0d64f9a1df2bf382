import DataGrid.Proofs.Document.Lookup
import DataGrid.Proofs.Document.Nesting
import DataGrid.Proofs.Document.Order
import DataGrid.Proofs.Store.Reads

/-!
# DataGrid.Proofs.Store.Missing -- a missing field is null

No comparison tells a missing field from one that is null: equality, order, lists of candidates,
patterns and the text index all take the one for the other, each in its own way, and so does the
order of sorting. Only the operator `$exists` asks whether a field is there. Hence a filter in
which that key occurs nowhere answers, or fails, on a document as it does after a field that the
document lacks has been added as null, and sorting takes the two to the same place.
-/

namespace DataGrid

open Fallible Store

/-! ## A field that is null -/

namespace Document

variable {d filled : Document} {key : String}

/-- Every path leads to the same in two documents, but for paths that lead nowhere in the first
and to null in the second. -/
def NullsAdded (d filled : Document) : Prop :=
  ∀ path, lookup filled path = lookup d path ∨
    lookup d path = none ∧ lookup filled path = some .null

theorem nullsAdded_refl (d : Document) : NullsAdded d d := fun _ => .inl rfl

/-- A null leads no further than a field that is missing. -/
theorem nullsAdded_insert (h : key ∉ Keyed.keys d) :
    NullsAdded d (Keyed.insert d key .null) := by
  intro path
  cases path with
  | nil => exact .inl rfl
  | cons first rest =>
    by_cases hfirst : first = key
    · subst hfirst
      have hnone := Keyed.get?_eq_none_iff.mpr h
      cases rest with
      | nil => exact .inr ⟨hnone, Keyed.get?_insert_self d first .null⟩
      | cons next rest =>
        refine .inl ?_
        rw [lookup_deeper _ first (List.cons_ne_nil _ _),
          lookup_deeper _ first (List.cons_ne_nil _ _), inner, inner, Keyed.get?_insert_self, hnone]
    · exact .inl (lookup_congr (Keyed.get?_insert_of_ne d .null hfirst) rest)

end Document

/-! ## Comparisons -/

namespace Store.Matcher

theorem equals_missing (expected : Value) :
    equals none expected = equals (some .null) expected := by
  cases expected <;> rfl

theorem compares_missing (bound : Value) (accept : Ordering → Bool) :
    compares none bound accept = compares (some .null) bound accept := rfl

theorem matchesPattern_missing (text options : String) :
    matchesPattern none text options = matchesPattern (some .null) text options := by
  unfold matchesPattern
  cases pattern text options <;> rfl

theorem inList_missing (candidates : List Value) :
    inList none candidates = inList (some .null) candidates := by
  induction candidates with
  | nil => rfl
  | cons candidate rest ih =>
    cases candidate with
    | regex text options => rw [inList, inList, matchesPattern_missing, ih]
    | _ => simp only [inList, equals_missing, ih]

theorem inOperand_missing (name : String) (operand : Value) :
    inOperand none name operand = inOperand (some .null) name operand := by
  cases operand with
  | array candidates => exact inList_missing candidates
  | _ => rfl

/-! ## Conditions -/

/-- The key `$exists` is nowhere in a value. -/
def IgnoresPresence : Value → Prop := Value.Everywhere fun
  | .document fields => "$exists" ∉ Keyed.keys fields
  | _ => True

/-- One operator other than `$exists`; a condition under `$not` is a condition again. -/
theorem operator_missing {key : String} (hkey : key ≠ "$exists") (spec : Document)
    {operand : Value} (hoperand : condition none operand = condition (some .null) operand) :
    operator none spec key operand = operator (some .null) spec key operand := by
  unfold operator
  split
  case h_9 => exact absurd rfl hkey
  all_goals
    simp only [equals_missing, compares_missing, inOperand_missing, matchesPattern_missing,
      hoperand]

/-- By induction over what the condition is made of. -/
theorem condition_missing {spec : Value} (ignores : IgnoresPresence spec) :
    condition none spec = condition (some .null) spec := by
  induction spec using Value.nested_induction with
  | step spec ih =>
    cases spec with
    | document spec =>
      have hkeys : "$exists" ∉ Keyed.keys spec := ignores.self
      have hoperators : ∀ entries ⊆ spec,
          operators none spec entries = operators (some .null) spec entries := by
        intro entries hentries
        induction entries with
        | nil => rw [operators, operators]
        | cons entry rest ihrest =>
          obtain ⟨hentry, hrest⟩ := List.cons_subset.mp hentries
          have hchild := Value.mem_children_of_field hentry
          have hkey : entry.1 ≠ "$exists" := fun heq => hkeys (heq ▸ List.mem_map_of_mem hentry)
          rw [operators, operators, ihrest hrest,
            operator_missing hkey spec (ih entry.2 hchild (ignores.child hchild))]
      rw [condition, condition, hoperators spec (List.Subset.refl spec), equals_missing]
    | regex text options =>
      rw [condition, condition]
      exact matchesPattern_missing text options
    | _ => simp only [condition, equals_missing]

/-! ## Filters -/

variable {d filled : Document}

theorem filter_congr {index : TextIndex} {fields : Document}
    (h : ∀ entry ∈ fields, clause index filled entry.1 entry.2 = clause index d entry.1 entry.2) :
    filter index filled fields = filter index d fields := by
  induction fields with
  | nil => rw [filter, filter]
  | cons entry rest ih =>
    obtain ⟨hentry, hrest⟩ := List.forall_mem_cons.mp h
    rw [filter, filter, hentry, ih hrest]

theorem allHold_congr {index : TextIndex} {items : List Value}
    (h : ∀ item ∈ items, ∀ fields, item = .document fields →
      filter index filled fields = filter index d fields) :
    allHold index filled items = allHold index d items := by
  induction items with
  | nil => rw [allHold, allHold] <;> simp
  | cons item rest ih =>
    obtain ⟨hfirst, hrest⟩ := List.forall_mem_cons.mp h
    cases item with
    | document fields => rw [allHold, allHold, hfirst fields rfl, ih hrest]
    | _ => rw [allHold, allHold] <;> simp

theorem anyHolds_congr {index : TextIndex} {items : List Value}
    (h : ∀ item ∈ items, ∀ fields, item = .document fields →
      filter index filled fields = filter index d fields) :
    anyHolds index filled items = anyHolds index d items := by
  induction items with
  | nil => rw [anyHolds, anyHolds] <;> simp
  | cons item rest ih =>
    obtain ⟨hfirst, hrest⟩ := List.forall_mem_cons.mp h
    cases item with
    | document fields => rw [anyHolds, anyHolds, hfirst fields rfl, ih hrest]
    | _ => rw [anyHolds, anyHolds] <;> simp

section NullsAdded

variable (added : Document.NullsAdded d filled)
include added

theorem condition_nullsAdded {spec : Value} (ignores : IgnoresPresence spec) (path : String) :
    condition (filled.lookupText path) spec = condition (d.lookupText path) spec := by
  rcases added (Path.ofText path) with hsame | ⟨hnone, hnull⟩
  · exact congrArg (condition · spec) hsame
  · rw [Document.lookupText, Document.lookupText, hnone, hnull, condition_missing ignores]

theorem searchText_nullsAdded (index : TextIndex) (spec : Value) :
    searchText index filled spec = searchText index d spec := by
  have hlookup : ∀ field : String, filled.lookupText field = d.lookupText field ∨
      d.lookupText field = none ∧ filled.lookupText field = some .null :=
    fun field => added (Path.ofText field)
  unfold searchText
  split
  · rfl
  · next fields =>
    split
    · split
      · refine congrArg Except.ok (congrArg fields.any (funext fun field => ?_))
        obtain hsame | ⟨hnone, hnull⟩ := hlookup field
        · rw [hsame]
        · rw [hnone, hnull]
      · rfl
    · rfl

/-- By induction over what the filter is made of: documents are filters, and lists are the filters
under a logical operator. -/
theorem filter_nullsAdded (index : TextIndex) {spec : Value} (ignores : IgnoresPresence spec) :
    (∀ fields, spec = .document fields → filter index filled fields = filter index d fields) ∧
      ∀ key conjoin, clauses index filled key conjoin spec = clauses index d key conjoin spec := by
  induction spec using Value.nested_induction with
  | step spec ih =>
    refine ⟨?_, fun key conjoin => ?_⟩
    · rintro fields rfl
      refine filter_congr fun entry hentry => ?_
      have hchild := Value.mem_children_of_field hentry
      have hclauses := (ih entry.2 hchild (ignores.child hchild)).2
      unfold clause
      simp only [hclauses, searchText_nullsAdded added,
        condition_nullsAdded added (ignores.child hchild)]
    · cases spec with
      | array items =>
        have hfilters : ∀ item ∈ items, ∀ fields, item = .document fields →
            filter index filled fields = filter index d fields :=
          fun item hitem => (ih item hitem (ignores.child hitem)).1
        rw [clauses, clauses, allHold_congr hfilters, anyHolds_congr hfilters]
      | _ => rw [clauses, clauses] <;> simp

end NullsAdded
end Store.Matcher

/-! ## Sorting -/

theorem Value.sortOrder_missing (other : Option Value) :
    sortOrder none other = sortOrder (some .null) other := by
  cases other with
  | none => rfl
  | some v => cases v <;> rfl

namespace Store.Sorting

variable {d d' filled filled' : Document}

theorem compareBy_nullsAdded (added : Document.NullsAdded d filled)
    (added' : Document.NullsAdded d' filled') (key : Key) :
    compareBy key filled filled' = compareBy key d d' := by
  have hleft : ∀ other, Value.sortOrder (Document.lookup filled key.path) other =
      Value.sortOrder (Document.lookup d key.path) other := by
    intro other
    rcases added key.path with hsame | ⟨hnone, hnull⟩
    · rw [hsame]
    · rw [hnone, hnull, Value.sortOrder_missing]
  have hright : ∀ other, Value.sortOrder other (Document.lookup filled' key.path) =
      Value.sortOrder other (Document.lookup d' key.path) := by
    intro other
    rcases added' key.path with hsame | ⟨hnone, hnull⟩
    · rw [hsame]
    · rw [Value.sortOrder_swap, hnull, ← Value.sortOrder_missing, ← Value.sortOrder_swap, hnone]
  rw [compareBy, compareBy, hleft, hright]

theorem compareAll_nullsAdded (added : Document.NullsAdded d filled)
    (added' : Document.NullsAdded d' filled') (keys : List Key) :
    compareAll keys filled filled' = compareAll keys d d' := by
  induction keys with
  | nil => rfl
  | cons key rest ih => rw [compareAll, compareAll, compareBy_nullsAdded added added', ih]

/-- Lists of documents that differ in added nulls are sorted alike. -/
theorem sort_nullsAdded {pairs : List (Document × Document)}
    (added : ∀ pair ∈ pairs, Document.NullsAdded pair.1 pair.2) (spec : Document) :
    (∃ fault, sort spec (pairs.map Prod.fst) = .error fault ∧
      sort spec (pairs.map Prod.snd) = .error fault) ∨
    ∃ sorted : List (Document × Document), sorted.Perm pairs ∧
      sort spec (pairs.map Prod.fst) = .ok (sorted.map Prod.fst) ∧
      sort spec (pairs.map Prod.snd) = .ok (sorted.map Prod.snd) := by
  cases hkeys : keys spec with
  | error fault =>
    refine .inl ⟨fault, ?_, ?_⟩ <;> rw [sort_eq, hkeys] <;> rfl
  | ok keys =>
    have hagree : ∀ a b : { pair : Document × Document // pair ∈ pairs },
        compareAll keys a.val.1 b.val.1 = compareAll keys a.val.2 b.val.2 :=
      fun a b => (compareAll_nullsAdded (added _ a.property) (added _ b.property) keys).symm
    have hsorts := sort_map hkeys hagree pairs.attach
    rw [List.attach_map_val (f := Prod.fst), List.attach_map_val (f := Prod.snd)] at hsorts
    refine hsorts.imp_right fun ⟨sorted, hperm, hfst, hsnd⟩ => ?_
    refine ⟨sorted.map Subtype.val, ?_, ?_, ?_⟩
    · have hpairs := hperm.map Subtype.val
      rwa [List.attach_map_subtype_val] at hpairs
    · rw [List.map_map]
      exact hfst
    · rw [List.map_map]
      exact hsnd

end Store.Sorting

/-- A field that a document lacks may be there as null: filters without `$exists` answer or fail
alike, comparing by sort keys gives the same on either side, and sorting takes lists of documents
to the same order whichever of them have had the field added. -/
theorem missing_like_null (key : String) :
    (∀ d, key ∉ Keyed.keys d →
      (∀ index spec, Matcher.IgnoresPresence (.document spec) →
        Matcher.filter index (Keyed.insert d key .null) spec = Matcher.filter index d spec) ∧
      ∀ keys other,
        Sorting.compareAll keys (Keyed.insert d key .null) other = Sorting.compareAll keys d other ∧
        Sorting.compareAll keys other (Keyed.insert d key .null) =
          Sorting.compareAll keys other d) ∧
    ∀ (pairs : List (Document × Document)) (spec : Document),
      (∀ pair ∈ pairs, pair.2 = pair.1 ∨
        key ∉ Keyed.keys pair.1 ∧ pair.2 = Keyed.insert pair.1 key .null) →
      (∃ fault, Sorting.sort spec (pairs.map Prod.fst) = .error fault ∧
        Sorting.sort spec (pairs.map Prod.snd) = .error fault) ∨
      ∃ sorted : List (Document × Document), sorted.Perm pairs ∧
        Sorting.sort spec (pairs.map Prod.fst) = .ok (sorted.map Prod.fst) ∧
        Sorting.sort spec (pairs.map Prod.snd) = .ok (sorted.map Prod.snd) := by
  refine ⟨fun d hmissing => ?_, fun pairs spec hpairs => Sorting.sort_nullsAdded ?_ spec⟩
  · have added := Document.nullsAdded_insert hmissing
    refine ⟨fun index spec ignores => ?_, fun keys other => ⟨?_, ?_⟩⟩
    · exact (Matcher.filter_nullsAdded added index ignores).1 spec rfl
    · exact Sorting.compareAll_nullsAdded added (Document.nullsAdded_refl other) keys
    · exact Sorting.compareAll_nullsAdded (Document.nullsAdded_refl other) added keys
  · intro pair hpair
    rcases hpairs pair hpair with hsame | ⟨hmissing, hfilled⟩
    · rw [hsame]
      exact Document.nullsAdded_refl pair.1
    · rw [hfilled]
      exact Document.nullsAdded_insert hmissing

/-- A book that has not been rated, and two that have. -/
def unrated : Document := [("_id", .int32 1), ("title", .string "Emma")]

def rated : List Document :=
  [[("_id", .int32 2), ("rating", .int32 4)], [("_id", .int32 3), ("rating", .undefined)]]

/-- No rating of three or more, or none that is known. -/
def poorlyRated : Document :=
  [("$or", .array [
    .document [("rating", .document [("$not", .document [("$gte", .int32 3)])])],
    .document [("rating", .document [("$in", .array [.null, .regex "^un" "i"])])]])]

theorem missing_like_null_unrated :
    "rating" ∉ Keyed.keys unrated ∧ Matcher.IgnoresPresence (.document poorlyRated) ∧
    (∀ index, Matcher.filter index (Keyed.insert unrated "rating" .null) poorlyRated =
      Matcher.filter index unrated poorlyRated) ∧
    ∃ books, Sorting.sort [("rating", .int32 (-1))] (unrated :: rated) = .ok books ∧
      (Sorting.sort [("rating", .int32 (-1))]
        (Keyed.insert unrated "rating" .null :: rated)).map List.length = .ok books.length := by
  have hmissing : "rating" ∉ Keyed.keys unrated := by decide
  have ignores : Matcher.IgnoresPresence (.document poorlyRated) := by
    simp only [Matcher.IgnoresPresence, poorlyRated, Value.everywhere_document,
      Value.everywhere_array, List.forall_mem_singleton, List.forall_mem_cons]
    refine ⟨by decide, by decide, ⟨by decide, by decide, ?_⟩, by decide, by decide, trivial, ?_, ?_⟩
    all_goals
      rw [Value.everywhere_scalar rfl]
      trivial
  obtain ⟨hfilter, hsort⟩ := missing_like_null "rating"
  refine ⟨hmissing, ignores, fun index => (hfilter unrated hmissing).1 index _ ignores, ?_⟩
  rcases hsort ((unrated, Keyed.insert unrated "rating" .null) :: rated.map fun d => (d, d))
      [("rating", .int32 (-1))] (by simp [rated, hmissing]) with
    ⟨fault, hfault, -⟩ | ⟨sorted, -, hfst, hsnd⟩
  · cases hfault
  · refine ⟨_, hfst, ?_⟩
    rw [show Keyed.insert unrated "rating" .null :: rated = List.map Prod.snd
      ((unrated, Keyed.insert unrated "rating" .null) :: rated.map fun d => (d, d)) from rfl, hsnd]
    exact congrArg Except.ok (by rw [List.length_map, List.length_map])

end DataGrid
