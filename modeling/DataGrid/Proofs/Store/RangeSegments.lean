import DataGrid.Proofs.Compile.Operators
import DataGrid.Proofs.Store.Rows
import DataGrid.Proofs.Store.SortKeys

/-!
# DataGrid.Proofs.Store.RangeSegments -- a range is a piece of the sorted list

Range filters compare within a type and find nothing elsewhere; sorting ranks all values, a
missing one too. They are two functions, and they agree: in the list that is sorted by a field
the values of a type stand in one block, those from a bound on are the end of the block, those
up to a bound its beginning, and those between two bounds a piece of it. Sorted the other way
around, the list has these pieces in the mirror.
-/

namespace DataGrid

open Std Fallible Store

/-! ## Types of bounds -/

/-- The types in which a range can be asked for. -/
inductive Value.RangeType where
  | number
  | text
  | flag
  | moment
  | id
  deriving DecidableEq

namespace Value

/-- The type of a value in which ranges compare. Not-a-number is in no range. -/
def rangeType? : Value → Option RangeType
  | .int32 _ | .int64 _ => some .number
  | .double x => if x.isNaN then none else some .number
  | .string _ => some .text
  | .boolean _ => some .flag
  | .dateTime _ => some .moment
  | .objectId _ => some .id
  | _ => none

/-- The rank of a type among the kinds that sorting ranks. -/
def RangeType.rank : RangeType → Nat
  | .number => 2
  | .text => 3
  | .id => 7
  | .flag => 8
  | .moment => 9

theorem hasPlace_of_rangeType? {v : Value} {type : RangeType} (h : v.rangeType? = some type) :
    HasPlace (some v) := by
  cases v with
  | double x =>
    cases hnan : x.isNaN with
    | false => exact hnan
    | true => rw [rangeType?, hnan] at h; cases h
  | decimal128 x => cases h
  | symbol text => cases h
  | _ => trivial

/-- Among values with a place, a type is what has its rank. -/
theorem rangeType?_eq_some_iff {v : Value} (placed : HasPlace (some v)) {type : RangeType} :
    v.rangeType? = some type ↔ kindRank (some v) = type.rank := by
  cases v with
  | double x =>
    have hnan : x.isNaN = false := placed
    cases type <;> simp [rangeType?, hnan, kindRank, RangeType.rank]
  | decimal128 x => exact placed.elim
  | symbol text => exact placed.elim
  | _ => cases type <;> simp [rangeType?, kindRank, RangeType.rank]

theorem exists_numeric {v : Value} (h : v.rangeType? = some .number) :
    ∃ x, v.numeric? = some x ∧ x.isNaN = false := by
  have placed := hasPlace_of_rangeType? h
  obtain ⟨x, hx, hnan, -⟩ := exists_number placed ((rangeType?_eq_some_iff placed).mp h)
  exact ⟨x, hx, hnan⟩

/-- A bound compares with the values of its type, and with no others. -/
theorem isSome_compareWithin?_iff {bound : Value} {type : RangeType}
    (h : bound.rangeType? = some type) (v : Value) :
    (v.compareWithin? bound).isSome = true ↔ v.rangeType? = some type := by
  -- a number of any width compares as a double, and with what is one
  have hnumber : type = .number →
      ((v.compareWithin? bound).isSome = true ↔ v.rangeType? = some type) := by
    rintro rfl
    obtain ⟨y, hy, hnan⟩ := exists_numeric h
    rw [compareWithin?_swap, compareWithin?_of_number hy, Option.isSome_map]
    cases v <;> simp [numeric?, rangeType?, Binary64.compare?, hnan, Binary64.isNaN_ofInt]
  cases bound with
  | int32 n => exact hnumber (Option.some.inj h).symm
  | int64 n => exact hnumber (Option.some.inj h).symm
  | double y =>
    cases hnan : y.isNaN with
    | false => rw [rangeType?, hnan] at h; exact hnumber (Option.some.inj h).symm
    | true => rw [rangeType?, hnan] at h; cases h
  | string t => cases h; cases v <;> simp [compareWithin?, numeric?, rangeType?]
  | boolean g => cases h; cases v <;> simp [compareWithin?, numeric?, rangeType?]
  | dateTime t => cases h; cases v <;> simp [compareWithin?, numeric?, rangeType?]
  | objectId y => cases h; cases v <;> simp [compareWithin?, numeric?, rangeType?]
  | _ => cases h

/-- Within a type, a bound compares as it is sorted. -/
theorem compareWithin?_eq_sortOrder {v bound : Value} {type : RangeType}
    (hv : v.rangeType? = some type) (h : bound.rangeType? = some type) :
    v.compareWithin? bound = some (sortOrder (some v) (some bound)) := by
  have hrank : kindRank (some v) = kindRank (some bound) := by
    rw [(rangeType?_eq_some_iff (hasPlace_of_rangeType? hv)).mp hv,
      (rangeType?_eq_some_iff (hasPlace_of_rangeType? h)).mp h]
  obtain ⟨order, horder⟩ := Option.isSome_iff_exists.mp ((isSome_compareWithin?_iff h v).mpr hv)
  rw [sortOrder_of_rank_eq hrank, horder, Option.getD_some]

theorem comparesAs_iff {v bound : Value} {type : RangeType} (h : bound.rangeType? = some type)
    {accept : Ordering → Bool} : v.ComparesAs accept bound ↔
      v.rangeType? = some type ∧ accept (sortOrder (some v) (some bound)) = true := by
  constructor
  · rintro ⟨order, horder, haccept⟩
    have hv := (isSome_compareWithin?_iff h v).mp (by rw [horder]; rfl)
    obtain rfl := Option.some.inj ((compareWithin?_eq_sortOrder hv h).symm.trans horder)
    exact ⟨hv, haccept⟩
  · rintro ⟨hv, haccept⟩
    exact ⟨_, compareWithin?_eq_sortOrder hv h, haccept⟩

/-- What comes behind a value from a bound on is from the bound on. -/
theorem isGE_sortOrder_of_behind {a b bound : Option Value} (ha : HasPlace a)
    (hab : sortOrder a b ≠ .gt) (h : (sortOrder a bound).isGE = true) :
    (sortOrder b bound).isGE = true := by
  have hge : ∀ order : Ordering, order.swap.isGE = true ↔ order ≠ .gt := by decide
  rw [sortOrder_swap, hge] at h ⊢
  exact sortOrder_trans ha h hab

theorem isLE_sortOrder_of_before {a b bound : Option Value} (hb : HasPlace b)
    (hab : sortOrder a b ≠ .gt) (h : (sortOrder b bound).isLE = true) :
    (sortOrder a bound).isLE = true := by
  have hle : ∀ order : Ordering, order.isLE = true ↔ order ≠ .gt := by decide
  rw [hle] at h ⊢
  exact sortOrder_trans hb hab h

end Value

/-! ## Pieces of a list -/

section Pieces

variable {α : Type} {xs : List α} {p q : α → Bool}

/-- What holds of everything in front of where it holds, holds of a beginning. -/
theorem filter_isPrefix (h : xs.Pairwise fun a b => p b = true → p a = true) :
    xs.filter p <+: xs := by
  induction xs with
  | nil => exact List.prefix_refl _
  | cons x xs ih =>
    obtain ⟨hx, hxs⟩ := List.pairwise_cons.mp h
    cases hp : p x with
    | true =>
      rw [List.filter_cons_of_pos hp]
      exact (List.prefix_cons_inj x).mpr (ih hxs)
    | false =>
      have hnone : xs.filter p = [] := List.filter_eq_nil_iff.mpr fun y hy hpy => by
        rw [hx y hy hpy] at hp
        cases hp
      rw [List.filter_cons_of_neg (by simp [hp]), hnone]
      exact List.nil_prefix

theorem filter_isSuffix (h : xs.Pairwise fun a b => p a = true → p b = true) :
    xs.filter p <:+ xs := by
  rw [← List.reverse_prefix, ← List.filter_reverse]
  exact filter_isPrefix (List.pairwise_reverse.mpr h)

theorem filter_isInfix (hp : xs.Pairwise fun a b => p a = true → p b = true)
    (hq : xs.Pairwise fun a b => q b = true → q a = true) :
    xs.filter (fun x => q x && p x) <:+: xs := by
  rw [← List.filter_filter]
  have hfront := filter_isPrefix (hq.sublist (List.filter_sublist (p := p)))
  exact hfront.isInfix.trans (filter_isSuffix hp).isInfix

end Pieces

/-! ## Documents of a type, and in a range -/

/-- What the document has in the field is of the type. -/
def ofType (field : String) (type : Value.RangeType) (d : Document) : Bool :=
  decide ((d.lookupText field).bind Value.rangeType? = some type)

/-- The filter of a condition holds of the document. -/
def matching (index : TextIndex) (field : String) (operator : Operator) (values : List Value)
    (d : Document) : Bool :=
  Matcher.accepts index (Compile.condition field (some operator) values) d

/-- The value has a place in the order of sorting, and is no list. -/
def Rangeable (actual : Option Value) : Prop :=
  Value.HasPlace actual ∧ ∀ items, actual ≠ some (.array items)

section Matching

variable {index : TextIndex} {field : String} {d : Document} {type : Value.RangeType}
  {bound : Value}

theorem ofType_iff (placed : Value.HasPlace (d.lookupText field)) :
    ofType field type d = true ↔ Value.kindRank (d.lookupText field) = type.rank := by
  rw [ofType, decide_eq_true_iff]
  cases h : d.lookupText field with
  | none => cases type <;> simp [Value.kindRank, Value.RangeType.rank]
  | some v =>
    rw [h] at placed
    exact Value.rangeType?_eq_some_iff placed

/-- What comparing with a bound finds: the values of its type that stand to it as accepted. -/
theorem compares_iff (hbound : bound.rangeType? = some type)
    (scalar : ∀ items, d.lookupText field ≠ some (.array items)) {accept : Ordering → Bool} :
    Matcher.compares (d.lookupText field) bound accept = true ↔
      ofType field type d = true ∧
        accept (Value.sortOrder (d.lookupText field) (some bound)) = true := by
  rw [Compile.compares_of_scalar scalar, Value.comparesAs_iff hbound, ofType, decide_eq_true_iff]
  cases d.lookupText field with
  | none => simp [Value.rangeType?]
  | some v => exact Iff.rfl

/-- A field whose name is an operator is looked up in no document. -/
theorem accepts_of_dollar (hfield : startsWithDollar field = true) {fields : Document}
    (hsearch : Keyed.get? fields "$search" = none) :
    Matcher.accepts index [(field, .document fields)] d = false := by
  have hclauses : ∀ key conjoin, Matcher.clauses index d key conjoin (.document fields) =
      .error (.clausesNotList key) := by
    intro key conjoin
    rw [Matcher.clauses]
    intro items hitems
    cases hitems
  have hfails : ∃ e, Matcher.filter index d [(field, .document fields)] = .error e := by
    rw [Matcher.filter_single]
    unfold Matcher.clause
    split
    · exact ⟨_, hclauses _ _⟩
    · exact ⟨_, hclauses _ _⟩
    · exact ⟨_, by rw [hclauses]; rfl⟩
    · cases index with
      | none => exact ⟨_, rfl⟩
      | some names => exact ⟨.searchTextRequired, by simp only [Matcher.searchText, hsearch]⟩
    · exact ⟨_, if_pos hfield⟩
  obtain ⟨e, he⟩ := hfails
  rw [Matcher.accepts, he]

theorem accepts_compare {name : String} {accept : Ordering → Bool}
    (hname : startsWithDollar name = true) (hsearch : Keyed.get? [(name, bound)] "$search" = none)
    (h : Matcher.operator (d.lookupText field) [(name, bound)] name bound =
      .ok (Matcher.compares (d.lookupText field) bound accept)) :
    Matcher.accepts index (Compile.compare field name bound) d =
      (!startsWithDollar field && Matcher.compares (d.lookupText field) bound accept) := by
  cases hfield : startsWithDollar field with
  | true => exact accepts_of_dollar hfield hsearch
  | false =>
    rw [Matcher.accepts, Matcher.filter_compare hfield hname, h]
    rfl

theorem matching_gte (low : Value) (more : List Value) :
    matching index field .gte (low :: more) d =
      (!startsWithDollar field && Matcher.compares (d.lookupText field) low Ordering.isGE) :=
  accepts_compare rfl rfl (by rw [Matcher.operator])

theorem matching_lte (high : Value) (more : List Value) :
    matching index field .lte (high :: more) d =
      (!startsWithDollar field && Matcher.compares (d.lookupText field) high Ordering.isLE) :=
  accepts_compare rfl rfl (by rw [Matcher.operator])

theorem matching_gte_iff {low : Value} (hlow : low.rangeType? = some type)
    (scalar : ∀ items, d.lookupText field ≠ some (.array items)) (more : List Value) :
    matching index field .gte (low :: more) d = true ↔
      startsWithDollar field = false ∧ ofType field type d = true ∧
        (Value.sortOrder (d.lookupText field) (some low)).isGE = true := by
  rw [matching_gte, Bool.and_eq_true, Bool.not_eq_true', compares_iff hlow scalar]

theorem matching_lte_iff {high : Value} (hhigh : high.rangeType? = some type)
    (scalar : ∀ items, d.lookupText field ≠ some (.array items)) (more : List Value) :
    matching index field .lte (high :: more) d = true ↔
      startsWithDollar field = false ∧ ofType field type d = true ∧
        (Value.sortOrder (d.lookupText field) (some high)).isLE = true := by
  rw [matching_lte, Bool.and_eq_true, Bool.not_eq_true', compares_iff hhigh scalar]

/-- Between two bounds is from the one on and up to the other. -/
theorem matching_between (low high : Value) (more : List Value) :
    matching index field .between (low :: high :: more) d =
      (matching index field .lte (high :: more) d &&
        matching index field .gte (low :: more) d) := by
  rw [matching_gte, matching_lte]
  show Matcher.accepts index [(field, .document [("$gte", low), ("$lte", high)])] d = _
  cases hfield : startsWithDollar field with
  | true => exact accepts_of_dollar hfield rfl
  | false =>
    rw [Matcher.accepts, Compile.filter_between hfield]
    exact Bool.and_comm _ _

/-- On a document the range filters say what the order of sorting says of its type. -/
structure FollowsOrder (index : TextIndex) (field : String) (type : Value.RangeType)
    (low high : Value) (more : List Value) (d : Document) : Prop where
  fromLow : matching index field .gte (low :: more) d = true ↔ ofType field type d = true ∧
    (Value.sortOrder (d.lookupText field) (some low)).isGE = true
  toHigh : matching index field .lte (high :: more) d = true ↔ ofType field type d = true ∧
    (Value.sortOrder (d.lookupText field) (some high)).isLE = true
  between : matching index field .between (low :: high :: more) d = true ↔
    matching index field .gte (low :: more) d = true ∧
      matching index field .lte (high :: more) d = true

theorem followsOrder {low high : Value} (hfield : startsWithDollar field = false)
    (hlow : low.rangeType? = some type) (hhigh : high.rangeType? = some type)
    (scalar : ∀ items, d.lookupText field ≠ some (.array items)) (more : List Value) :
    FollowsOrder index field type low high more d where
  fromLow := (matching_gte_iff hlow scalar more).trans (and_iff_right hfield)
  toHigh := (matching_lte_iff hhigh scalar more).trans (and_iff_right hfield)
  between := by rw [matching_between, Bool.and_eq_true, and_comm]

end Matching

/-! ## Pieces of a sorted list -/

/-- Where the documents of a type and those in a range stand in a list: the type has a block, from
the low bound on is the end of the block, up to the high one its beginning, and between the two a
piece of the list. -/
structure Sliced (index : TextIndex) (field : String) (type : Value.RangeType) (low high : Value)
    (more : List Value) (rows : List Document) : Prop where
  block : rows.filter (ofType field type) <:+: rows
  fromLow : rows.filter (matching index field .gte (low :: more)) <:+
    rows.filter (ofType field type)
  toHigh : rows.filter (matching index field .lte (high :: more)) <+:
    rows.filter (ofType field type)
  between : rows.filter (matching index field .between (low :: high :: more)) <:+: rows

section Sorted

variable {field : String} {type : Value.RangeType} {rows : List Document}

/-- What is selected within a type is selected from its block. -/
theorem filter_block {p : Document → Bool}
    (h : ∀ d ∈ rows, p d = true → ofType field type d = true) :
    (rows.filter (ofType field type)).filter p = rows.filter p := by
  rw [List.filter_filter]
  refine List.filter_congr fun d hd => ?_
  cases hp : p d with
  | false => rfl
  | true => rw [h d hd hp]; rfl

variable (rangeable : ∀ d ∈ rows, Rangeable (d.lookupText field))
  (sorted : rows.Pairwise fun a b => Sorting.orderIn field a b ≠ .gt)
include rangeable sorted

/-- Ranks grow along the list, so those of one type stand together. -/
theorem filter_ofType_isInfix : rows.filter (ofType field type) <:+: rows := by
  let rank := fun d : Document => Value.kindRank (d.lookupText field)
  have hranks : rows.Pairwise fun a b => rank a ≤ rank b := sorted.imp Value.kindRank_le
  have hblock : rows.filter (ofType field type) =
      rows.filter fun d => decide (rank d ≤ type.rank) && decide (type.rank ≤ rank d) := by
    refine List.filter_congr fun d hd => ?_
    rw [Bool.eq_iff_iff, ofType_iff (rangeable d hd).1, Bool.and_eq_true, decide_eq_true_iff,
      decide_eq_true_iff]
    exact Nat.eq_iff_le_and_ge
  rw [hblock]
  refine filter_isInfix (hranks.imp fun hab h => ?_) (hranks.imp fun hab h => ?_)
  · rw [decide_eq_true_iff] at h ⊢
    exact Nat.le_trans h hab
  · rw [decide_eq_true_iff] at h ⊢
    exact Nat.le_trans hab h

variable {index : TextIndex} {low high : Value} {more : List Value}

/-- Within the block, what is behind a document from the low bound on is from the low bound on. -/
theorem pairwise_matching_gte (hlow : low.rangeType? = some type) :
    (rows.filter (ofType field type)).Pairwise fun a b =>
      matching index field .gte (low :: more) a = true →
        matching index field .gte (low :: more) b = true := by
  refine (sorted.sublist List.filter_sublist).imp_of_mem fun {a b} ha hb hab h => ?_
  obtain ⟨ha, -⟩ := List.mem_filter.mp ha
  obtain ⟨hb, htype⟩ := List.mem_filter.mp hb
  obtain ⟨hfield, -, horder⟩ := (matching_gte_iff hlow (rangeable a ha).2 more).mp h
  exact (matching_gte_iff hlow (rangeable b hb).2 more).mpr
    ⟨hfield, htype, Value.isGE_sortOrder_of_behind (rangeable a ha).1 hab horder⟩

/-- Within the block, what is in front of a document up to the high bound is up to it. -/
theorem pairwise_matching_lte (hhigh : high.rangeType? = some type) :
    (rows.filter (ofType field type)).Pairwise fun a b =>
      matching index field .lte (high :: more) b = true →
        matching index field .lte (high :: more) a = true := by
  refine (sorted.sublist List.filter_sublist).imp_of_mem fun {a b} ha hb hab h => ?_
  obtain ⟨ha, htype⟩ := List.mem_filter.mp ha
  obtain ⟨hb, -⟩ := List.mem_filter.mp hb
  obtain ⟨hfield, -, horder⟩ := (matching_lte_iff hhigh (rangeable b hb).2 more).mp h
  exact (matching_lte_iff hhigh (rangeable a ha).2 more).mpr
    ⟨hfield, htype, Value.isLE_sortOrder_of_before (rangeable b hb).1 hab horder⟩

theorem sliced_of_pairwise (hlow : low.rangeType? = some type)
    (hhigh : high.rangeType? = some type) : Sliced index field type low high more rows := by
  have hblock : rows.filter (ofType field type) <:+: rows :=
    filter_ofType_isInfix rangeable sorted
  have hup : (rows.filter (ofType field type)).Pairwise fun a b =>
      matching index field .gte (low :: more) a = true →
        matching index field .gte (low :: more) b = true :=
    pairwise_matching_gte rangeable sorted hlow
  have hdown : (rows.filter (ofType field type)).Pairwise fun a b =>
      matching index field .lte (high :: more) b = true →
        matching index field .lte (high :: more) a = true :=
    pairwise_matching_lte rangeable sorted hhigh
  have hfrom : (rows.filter (ofType field type)).filter
      (matching index field .gte (low :: more)) =
        rows.filter (matching index field .gte (low :: more)) :=
    filter_block fun d hd h => ((matching_gte_iff hlow (rangeable d hd).2 more).mp h).2.1
  have hto : (rows.filter (ofType field type)).filter
      (matching index field .lte (high :: more)) =
        rows.filter (matching index field .lte (high :: more)) :=
    filter_block fun d hd h => ((matching_lte_iff hhigh (rangeable d hd).2 more).mp h).2.1
  have hbetween : rows.filter (matching index field .between (low :: high :: more)) =
      (rows.filter (ofType field type)).filter fun d =>
        matching index field .lte (high :: more) d &&
          matching index field .gte (low :: more) d := by
    rw [← List.filter_filter, hfrom, List.filter_filter]
    exact List.filter_congr fun d _ => matching_between low high more
  refine ⟨hblock, ?_, ?_, ?_⟩
  · rw [← hfrom]
    exact filter_isSuffix hup
  · rw [← hto]
    exact filter_isPrefix hdown
  · rw [hbetween]
    exact (filter_isInfix hup hdown).trans hblock

end Sorted

/-! ## Sorting by the field of the range -/

namespace Store.Sorting

/-- Sorting by one field puts the documents in its order, or in the opposite one. -/
theorem exists_sort_single {field : String} {direction : Value} {descending : Bool}
    (hdirected : Directed direction descending) {documents : List Document}
    (placed : ∀ d ∈ documents, Value.HasPlace (d.lookupText field)) :
    ∃ sorted, sort [(field, direction)] documents = .ok sorted ∧ sorted.Perm documents ∧
      sorted.Pairwise fun a b =>
        if descending then orderIn field b a ≠ .gt else orderIn field a b ≠ .gt := by
  have hreads : Reads [(field, direction)] [⟨Path.ofText field, descending⟩] :=
    .cons ⟨rfl, hdirected⟩ .nil
  have hplaced : ∀ d ∈ documents, Placed [(field, direction)] d := fun d hd =>
    List.forall_mem_singleton.mpr (placed d hd)
  refine ⟨_, hreads.sort_eq hplaced, sortBy_perm _ _, ?_⟩
  have hpairs : documents.Pairwise fun _ _ => True := List.pairwise_of_forall fun _ _ => trivial
  refine (pairwise_sortBy (placeAll _) hpairs).imp_of_mem fun {a b} ha hb hab => ?_
  have hplace := placed a ((sortBy_perm _ _).mem_iff.mp ha)
  have hplace' := placed b ((sortBy_perm _ _).mem_iff.mp hb)
  have hcompare : compareBy ⟨Path.ofText field, descending⟩ a b ≠ .gt := by
    rw [compareBy_eq_placeBy rfl hplace hplace', ← placeAll_singleton]
    rcases hab with h | ⟨h, -⟩ <;> rw [h] <;> decide
  rw [compareBy_eq rfl] at hcompare
  cases descending with
  | false => exact hcompare
  | true => rwa [orderIn, Value.sortOrder_swap]

end Store.Sorting

/-- Ranges agree with sorting. Of documents that have no list, not-a-number, decimal or symbol in
a field, a range finds those of its type that are sorted between its bounds. Sorted by the field,
those in the range are a piece of the list, those from the low bound on the end of the block of its
type, and those up to the high bound the beginning of it. Sorted the other way around they stand so
from the end of the list. -/
theorem ranges_are_slices (index : TextIndex) (field : String) {type : Value.RangeType}
    {low high : Value} (hlow : low.rangeType? = some type) (hhigh : high.rangeType? = some type)
    (more : List Value) {documents : List Document}
    (rangeable : ∀ d ∈ documents, Rangeable (d.lookupText field)) :
    (startsWithDollar field = false →
      ∀ d ∈ documents, FollowsOrder index field type low high more d) ∧
    (∀ direction, Sorting.Directed direction false →
      ∃ sorted, Sorting.sort [(field, direction)] documents = .ok sorted ∧
        sorted.Perm documents ∧ Sliced index field type low high more sorted) ∧
    (∀ direction, Sorting.Directed direction true →
      ∃ sorted, Sorting.sort [(field, direction)] documents = .ok sorted ∧
        sorted.Perm documents ∧ Sliced index field type low high more sorted.reverse) := by
  have hplaced : ∀ d ∈ documents, Value.HasPlace (d.lookupText field) := fun d hd =>
    (rangeable d hd).1
  refine ⟨fun hfield d hd => followsOrder hfield hlow hhigh (rangeable d hd).2 more,
    fun direction hdirected => ?_, fun direction hdirected => ?_⟩
  · obtain ⟨sorted, hsort, hperm, hpairs⟩ := Sorting.exists_sort_single hdirected hplaced
    exact ⟨sorted, hsort, hperm,
      sliced_of_pairwise (fun d hd => rangeable d (hperm.mem_iff.mp hd)) hpairs hlow hhigh⟩
  · obtain ⟨sorted, hsort, hperm, hpairs⟩ := Sorting.exists_sort_single hdirected hplaced
    -- turned around, the list is in the order of the field
    have hmirrored := List.pairwise_reverse.mpr hpairs
    exact ⟨sorted, hsort, hperm, sliced_of_pairwise
      (fun d hd => rangeable d (hperm.mem_iff.mp (List.mem_reverse.mp hd))) hmirrored hlow hhigh⟩

/-- Ratings of several types, and a book without one. -/
def mixedRatings : List Document :=
  [[("title", .string "Emma"), ("rating", .string "good")],
    [("title", .string "Persuasion"), ("rating", .int64 9)],
    [("title", .string "Evelina")],
    [("title", .string "Cecilia"), ("rating", .int32 5)],
    [("title", .string "Camilla"), ("rating", .boolean true)],
    [("title", .string "Belinda"), ("rating", .double (.ofInt 3))]]

theorem ranges_are_slices_mixed :
    (Value.int32 4).rangeType? = some .number ∧
    (Value.double (.ofInt 8)).rangeType? = some .number ∧
    (∀ d ∈ mixedRatings, Rangeable (d.lookupText "rating")) ∧
    (∀ d ∈ mixedRatings,
      FollowsOrder none "rating" .number (.int32 4) (.double (.ofInt 8)) [] d) ∧
    ∃ sorted, Sorting.sort [("rating", .int32 1)] mixedRatings = .ok sorted ∧
      Sliced none "rating" .number (.int32 4) (.double (.ofInt 8)) [] sorted ∧
      sorted.map (fun d => d.lookupText "title") =
        [some (.string "Evelina"), some (.string "Belinda"), some (.string "Cecilia"),
          some (.string "Persuasion"), some (.string "Emma"), some (.string "Camilla")] ∧
      sorted.map (matching none "rating" .between [.int32 4, .double (.ofInt 8)]) =
        [false, false, true, false, false, false] := by
  have hlow : (Value.int32 4).rangeType? = some .number := rfl
  have hhigh : (Value.double (.ofInt 8)).rangeType? = some .number := by
    rw [Value.rangeType?, Binary64.isNaN_ofInt]
    rfl
  have hrangeable : ∀ d ∈ mixedRatings, Rangeable (d.lookupText "rating") := by
    simp only [mixedRatings, List.forall_mem_cons, List.not_mem_nil, false_implies,
      implies_true, and_true]
    refine ⟨⟨trivial, nofun⟩, ⟨trivial, nofun⟩, ⟨trivial, nofun⟩, ⟨trivial, nofun⟩,
      ⟨trivial, nofun⟩, ⟨Binary64.isNaN_ofInt 3, nofun⟩⟩
  have hmatching : matching none "rating" .between [.int32 4, .double (.ofInt 8)] = fun d =>
      Matcher.compares (d.lookupText "rating") (.double (.ofInt 8)) Ordering.isLE &&
        Matcher.compares (d.lookupText "rating") (.int32 4) Ordering.isGE := by
    funext d
    rw [matching_between, matching_gte, matching_lte]
    rfl
  obtain ⟨hfollows, hascending, -⟩ := ranges_are_slices none "rating" hlow hhigh [] hrangeable
  obtain ⟨sorted, hsort, -, hsliced⟩ := hascending (.int32 1) (.inl rfl)
  refine ⟨hlow, hhigh, hrangeable, hfollows rfl, sorted, hsort, hsliced, ?_, ?_⟩
  · obtain rfl := Except.ok.inj (hsort.symm.trans rfl)
    rfl
  · obtain rfl := Except.ok.inj (hsort.symm.trans rfl)
    rw [hmatching]
    decide +kernel

end DataGrid
