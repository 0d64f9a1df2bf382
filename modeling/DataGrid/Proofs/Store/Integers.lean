import DataGrid.Store.Pipeline
import DataGrid.Proofs.Document.Order
import DataGrid.Proofs.Store.Grouping
import DataGrid.Proofs.Store.Matching

/-!
# DataGrid.Proofs.Store.Integers -- integers in comparisons

Wherever values are compared, in filters, in sorting, in groups and in joins, an integer counts
as the double nearest to it. Two integers of which one is below `2 ^ 53` are told apart and stand
in their order; beyond that those that become the same double are taken for one, and no two ever
change places.
-/

namespace DataGrid

open Fallible Store Binary64

/-- The integer that a value is, in either width. -/
def Value.integer? : Value → Option Int
  | .int32 n => some n.toInt
  | .int64 n => some n.toInt
  | _ => none

namespace Integers

/-! ## Two integers -/

theorem isWide_of_le {n : Int} (h : n.natAbs ≤ 0x8000000000000000) : IsWide n := by
  by_cases hzero : n.natAbs = 0
  · rw [IsWide, hzero]
    decide
  · have hlt : n.natAbs < Nat.pow 2 65 := Nat.lt_of_le_of_lt h (by decide)
    exact Nat.le_of_lt_succ ((Nat.log2_lt hzero).mpr hlt)

theorem numeric?_of_integer {v : Value} {n : Int} (h : v.integer? = some n) :
    v.numeric? = some (ofInt n) ∧ IsWide n := by
  cases v with
  | int32 k =>
    obtain rfl := Option.some.inj h
    have hlow := Int32.le_toInt k
    have hhigh := Int32.toInt_lt k
    exact ⟨rfl, isWide_of_le (by omega)⟩
  | int64 k =>
    obtain rfl := Option.some.inj h
    have hlow := Int64.le_toInt k
    have hhigh := Int64.toInt_lt k
    exact ⟨rfl, isWide_of_le (by omega)⟩
  | _ => cases h

section Pair

variable {x y : Value} {m n : Int} (hx : x.integer? = some m) (hy : y.integer? = some n)
include hx hy

theorem equals_integers : x.equals y = decide (nearest m = nearest n) := by
  obtain ⟨hxm, hm⟩ := numeric?_of_integer hx
  obtain ⟨hyn, hn⟩ := numeric?_of_integer hy
  rw [Value.equals, hxm, hyn]
  exact equals_ofInt hm hn

theorem compareWithin?_integers : x.compareWithin? y = some (compare (nearest m) (nearest n)) := by
  obtain ⟨hxm, hm⟩ := numeric?_of_integer hx
  obtain ⟨hyn, hn⟩ := numeric?_of_integer hy
  rw [Value.compareWithin?_numbers hxm hyn (isNaN_ofInt m) (isNaN_ofInt n),
    compare_rank_ofInt hm hn]

theorem sortOrder_integers :
    Value.sortOrder (some x) (some y) = compare (nearest m) (nearest n) := by
  have hrank : ∀ {v : Value} {k : Int}, v.integer? = some k → Value.kindRank (some v) = 2 := by
    intro v k h
    cases v with
    | int32 k => rfl
    | int64 k => rfl
    | _ => cases h
  rw [Value.sortOrder_of_rank_eq ((hrank hx).trans (hrank hy).symm), compareWithin?_integers hx hy]
  rfl

theorem matcher_equals_integers :
    Matcher.equals (some x) y = decide (nearest m = nearest n) := by
  rw [← equals_integers hx hy]
  cases x with
  | array items => cases hx
  | _ => rfl

theorem matcher_compares_integers (accept : Ordering → Bool) :
    Matcher.compares (some x) y accept = accept (compare (nearest m) (nearest n)) := by
  have horder := compareWithin?_integers hx hy
  cases x with
  | int32 k => simp only [Matcher.compares, Option.getD_some, Matcher.anyValue, horder]
  | int64 k => simp only [Matcher.compares, Option.getD_some, Matcher.anyValue, horder]
  | _ => cases hx

/-- The filter of an operator that compares, on a document that has an integer in the field. -/
theorem filter_integers {index : TextIndex} {d : Document} {field name : String}
    (hfield : startsWithDollar field = false) (hd : d.lookupText field = some x)
    (hname : startsWithDollar name = true) {accept : Ordering → Bool}
    (hoperator : Matcher.operator (some x) [(name, y)] name y =
      .ok (Matcher.compares (some x) y accept)) :
    Matcher.filter index d (Compile.compare field name y) =
      .ok (accept (compare (nearest m) (nearest n))) := by
  rw [Matcher.filter_compare hfield hname, hd, hoperator, matcher_compares_integers hx hy]

theorem joins_integers : Pipeline.joins (some x) y = decide (nearest m = nearest n) := by
  rw [← equals_integers hx hy]
  cases y with
  | array items => cases hy
  | _ => rfl

end Pair

/-! ## Documents with integers in a field -/

/-- The documents have integers in a field. -/
def Numbered (field : String) (id : Document → Int) (documents : List Document) : Prop :=
  ∀ d ∈ documents, ∃ v, d.lookupText field = some v ∧ v.integer? = some (id d)

variable {field : String} {id : Document → Int} {documents : List Document}

theorem join_integers (numbered : Numbered field id documents) {d : Document} {localPath : Path}
    {y : Value} {n : Int} (hd : Document.lookup d localPath = some y) (hy : y.integer? = some n)
    (target : Path) :
    Pipeline.join documents localPath (Path.ofText field) target d =
      Document.set d target (.array ((documents.filter fun other =>
        decide (nearest (id other) = nearest n)).map .document)) := by
  have hjoins : ∀ other ∈ documents,
      Pipeline.joins (Document.lookup other (Path.ofText field)) y =
        decide (nearest (id other) = nearest n) := by
    intro other hother
    obtain ⟨x, hlookup, hx⟩ := numbered other hother
    rw [← joins_integers hx hy, ← hlookup]
    rfl
  rw [← List.filter_congr hjoins, Pipeline.join, hd]
  rfl

/-- A reference to a field is the value in it. -/
theorem evaluate_reference (hfield : startsWithDollar field = false) (d : Document) :
    Expression.evaluate d (.string ("$" ++ field)) = .ok (d.lookupText field) := by
  have htext : ("$" ++ field).toList = '$' :: field.toList := by rw [String.toList_append]; rfl
  have href : Expression.reference? ("$" ++ field) = some (Path.ofText field) := by
    rw [Expression.reference?, htext]
    split
    · next heq =>
      rw [startsWithDollar, List.cons.inj heq |>.2] at hfield
      cases hfield
    · next rest _ heq =>
      rw [← (List.cons.inj heq).2, String.ofList_toList]
    · next hnone => exact absurd rfl (hnone _)
  rw [Expression.evaluate, href]
  rfl

theorem comparable_integers : Grouping.Comparable fun v => ∃ n, v.integer? = some n where
  refl := by
    rintro a ⟨m, ha⟩
    simp [equals_integers ha ha]
  symm := by
    rintro a b ⟨m, ha⟩ ⟨n, hb⟩ h
    rw [equals_integers ha hb, decide_eq_true_eq] at h
    simp [equals_integers hb ha, h]
  trans := by
    rintro a b c ⟨m, ha⟩ ⟨n, hb⟩ ⟨k, hc⟩ hab hbc
    rw [equals_integers ha hb, decide_eq_true_eq] at hab
    rw [equals_integers hb hc, decide_eq_true_eq] at hbc
    simp [equals_integers ha hc, hab, hbc]

theorem forall₂_congr {α β : Type} {R S : α → β → Prop} {as : List α}
    (h : ∀ a ∈ as, ∀ b, R a b ↔ S a b) (bs : List β) :
    List.Forall₂ R as bs ↔ List.Forall₂ S as bs := by
  induction as generalizing bs with
  | nil => cases bs <;> simp
  | cons a as ih =>
    cases bs with
    | nil => simp
    | cons b bs =>
      obtain ⟨ha, has⟩ := List.forall_mem_cons.mp h
      rw [List.forall₂_cons, List.forall₂_cons, ha, ih has]

theorem group_integers (hfield : startsWithDollar field = false)
    (numbered : Numbered field id documents) {spec : Document} {fs : List Grouping.Field}
    (hkey : Keyed.get? spec "_id" = some (.string ("$" ++ field)))
    (hfields : Grouping.fields spec = .ok fs) :
    ∃ ids : List Int, ids ⊆ documents.map id ∧
      ids.Pairwise (fun a b => nearest a ≠ nearest b) ∧
      (∀ d ∈ documents, ∃ first ∈ ids, nearest first = nearest (id d)) ∧
      ∀ rows, Grouping.group spec documents = .ok rows ↔
        List.Forall₂ (fun first row => Grouping.group spec (documents.filter fun d =>
          decide (nearest first = nearest (id d))) = .ok [row]) ids rows := by
  let key : Value := .string ("$" ++ field)
  -- the integer of a key
  let read : Value → Int := fun v => v.integer?.getD 0
  have hkeyOf : ∀ d ∈ documents, (Grouping.keyOf key d).integer? = some (id d) := by
    intro d hd
    obtain ⟨v, hlookup, hv⟩ := numbered d hd
    rw [Grouping.keyOf, evaluate_reference hfield, hlookup]
    exact hv
  have hfirst : ∀ first ∈ Grouping.firsts (documents.map (Grouping.keyOf key)),
      first.integer? = some (read first) ∧ read first ∈ documents.map id := by
    intro first hfirst
    obtain ⟨d, hd, rfl⟩ := List.mem_map.mp (Grouping.subset_firsts _ hfirst)
    have hread : read (Grouping.keyOf key d) = id d := by
      show Option.getD _ 0 = _
      rw [hkeyOf d hd]
      rfl
    rw [hread]
    exact ⟨hkeyOf d hd, List.mem_map_of_mem hd⟩
  have hequals : ∀ first ∈ Grouping.firsts (documents.map (Grouping.keyOf key)),
      ∀ d ∈ documents, first.equals (Grouping.keyOf key d) =
        decide (nearest (read first) = nearest (id d)) :=
    fun first hmem d hd => equals_integers (hfirst first hmem).1 (hkeyOf d hd)
  have hcomparable : ∀ d ∈ documents, ∃ n, (Grouping.keyOf key d).integer? = some n :=
    fun d hd => ⟨_, hkeyOf d hd⟩
  refine ⟨(Grouping.firsts (documents.map (Grouping.keyOf key))).map read, ?_, ?_, ?_, ?_⟩
  · exact List.forall_mem_map.mpr fun first hmem => (hfirst first hmem).2
  · refine List.pairwise_map.mpr ((Grouping.pairwise_firsts _).imp_of_mem ?_)
    intro a b ha hb hab
    rw [equals_integers (hfirst a ha).1 (hfirst b hb).1] at hab
    exact of_decide_eq_false hab
  · intro d hd
    obtain ⟨first, hmem, hfirsts⟩ := Grouping.exists_first comparable_integers
      (List.forall_mem_map.mpr hcomparable) (List.mem_map_of_mem hd)
    rw [hequals first hmem d hd, decide_eq_true_eq] at hfirsts
    exact ⟨read first, List.mem_map_of_mem hmem, hfirsts⟩
  · intro rows
    rw [Grouping.group_apart comparable_integers hkey hfields hcomparable,
      List.forall₂_map_left_iff]
    refine forall₂_congr (fun first hmem row => ?_) rows
    rw [List.filter_congr (hequals first hmem)]

/-! ## Integers as doubles -/

/-- How two integers, given as values, compare everywhere. -/
structure ComparesAsDoubles (x y : Value) (m n : Int) : Prop where
  equal : x.equals y = true ↔ nearest m = nearest n
  sorted : Value.sortOrder (some x) (some y) = compare (nearest m) (nearest n)
  filtered : ∀ index d field, startsWithDollar field = false → d.lookupText field = some x →
    Matcher.filter index d (Compile.condition field (some .eq) [y]) =
        .ok (decide (nearest m = nearest n)) ∧
      Matcher.filter index d (Compile.compare field "$gt" y) =
        .ok (compare (nearest m) (nearest n)).isGT ∧
      Matcher.filter index d (Compile.compare field "$gte" y) =
        .ok (compare (nearest m) (nearest n)).isGE ∧
      Matcher.filter index d (Compile.compare field "$lt" y) =
        .ok (compare (nearest m) (nearest n)).isLT ∧
      Matcher.filter index d (Compile.compare field "$lte" y) =
        .ok (compare (nearest m) (nearest n)).isLE
  ordered : m ≤ n → nearest m ≤ nearest n
  close : nearest m = nearest n → 2 * (m - n).natAbs ≤ spacing m.natAbs + spacing n.natAbs
  apart : Discernible m n →
    (nearest m = nearest n ↔ m = n) ∧ compare (nearest m) (nearest n) = compare m n

/-- A join on an integer finds the documents with the same double. -/
def JoinsAsDoubles (field : String) (id : Document → Int) (documents : List Document) : Prop :=
  ∀ d localPath target y n, Document.lookup d localPath = some y → y.integer? = some n →
    Pipeline.join documents localPath (Path.ofText field) target d =
      Document.set d target (.array
        ((documents.filter fun other => decide (nearest (id other) = nearest n)).map .document))

/-- Grouping by an integer gives one row for each double, and it is the row of the documents with
that double alone. -/
def GroupsAsDoubles (field : String) (id : Document → Int) (documents : List Document) : Prop :=
  ∀ spec fields, Keyed.get? spec "_id" = some (.string ("$" ++ field)) →
    Grouping.fields spec = .ok fields →
    ∃ ids : List Int, ids ⊆ documents.map id ∧
      ids.Pairwise (fun a b => nearest a ≠ nearest b) ∧
      (∀ d ∈ documents, ∃ first ∈ ids, nearest first = nearest (id d)) ∧
      ∀ rows, Grouping.group spec documents = .ok rows ↔
        List.Forall₂ (fun first row => Grouping.group spec (documents.filter fun d =>
          decide (nearest first = nearest (id d))) = .ok [row]) ids rows

/-- Integers of both widths are compared by the doubles that are nearest to them. They are told
apart and stand in order if one of them is below `2 ^ 53`; of larger ones those are taken for one
that become the same double, and no two change places. Filters, sorting, joins and groups follow
these comparisons. -/
theorem compared_as_doubles :
    (∀ x y m n, x.integer? = some m → y.integer? = some n → ComparesAsDoubles x y m n) ∧
    (∀ field id documents, startsWithDollar field = false → Numbered field id documents →
      JoinsAsDoubles field id documents ∧ GroupsAsDoubles field id documents) := by
  refine ⟨fun x y m n hx hy => ?_, fun field id documents hfield numbered => ⟨?_, ?_⟩⟩
  · exact {
      equal := by rw [equals_integers hx hy, decide_eq_true_eq]
      sorted := sortOrder_integers hx hy
      filtered := by
        intro index d field hfield hd
        have hequal := matcher_equals_integers hx hy
        rw [← hd] at hequal
        refine ⟨(Matcher.filter_eq hfield y).trans (congrArg Except.ok hequal),
          filter_integers hx hy hfield hd rfl ?_, filter_integers hx hy hfield hd rfl ?_,
          filter_integers hx hy hfield hd rfl ?_, filter_integers hx hy hfield hd rfl ?_⟩
        all_goals rw [Matcher.operator]
      ordered := nearest_mono
      close := distance_of_nearest_eq
      apart := fun h => ⟨by rw [← compare_eq_iff_eq, compare_nearest h, compare_eq_iff_eq],
        compare_nearest h⟩ }
  · exact fun d localPath target y n hd hy => join_integers numbered hd hy target
  · exact fun spec fields hkey hfields => group_integers hfield numbered hkey hfields

/-- Three loans, two of which have numbers that become one double. -/
def loans : List Document :=
  [[("number", .int64 9007199254740992)], [("number", .int64 9007199254740993)],
    [("number", .int32 7)]]

/-- The number of a loan. -/
def loanNumber (d : Document) : Int := ((d.lookupText "number").bind Value.integer?).getD 0

/-- How many loans have the same number. -/
def loansByNumber : Document :=
  [("_id", .string "$number"), ("loans", .document [("$sum", .int32 1)])]

theorem compared_as_doubles_loans :
    ComparesAsDoubles (.int32 7) (.int64 9007199254740993) 7 9007199254740993 ∧
    Discernible 7 9007199254740993 ∧
    Pipeline.join loans ["wanted"] (Path.ofText "number") ["found"] [("wanted", .int64 7)] =
      Document.set [("wanted", .int64 7)] ["found"] (.array
        ((loans.filter fun d => decide (nearest (loanNumber d) = nearest 7)).map .document)) ∧
    ∃ ids rows, Grouping.group loansByNumber loans = .ok rows ∧ rows.length = 2 ∧
      List.Forall₂ (fun first row => Grouping.group loansByNumber (loans.filter fun d =>
        decide (nearest first = nearest (loanNumber d))) = .ok [row]) ids rows := by
  obtain ⟨hcompares, hdocuments⟩ := compared_as_doubles
  have hnumbered : Numbered "number" loanNumber loans := by
    simp only [Numbered, loans, List.forall_mem_cons, List.not_mem_nil, false_implies,
      implies_true, and_true]
    exact ⟨⟨_, rfl, rfl⟩, ⟨_, rfl, rfl⟩, _, rfl, rfl⟩
  obtain ⟨hjoins, hgroups⟩ := hdocuments "number" loanNumber loans rfl hnumbered
  obtain ⟨ids, -, -, -, hgroup⟩ := hgroups loansByNumber _ rfl rfl
  refine ⟨hcompares _ _ _ _ rfl rfl, .inl (by decide),
    hjoins _ _ _ _ _ rfl rfl, ids, ?_⟩
  have hbrought : ∀ n, Grouping.contribution [⟨"loans", .sum 0 .zero false, .int32 1⟩]
      (.string "$number") [("number", n)] = .ok (n, [some (.int32 1)]) := by
    intro n
    have hkey : Expression.evaluate [("number", n)] (.string "$number") = .ok (some n) :=
      @evaluate_reference "number" rfl [("number", n)]
    rw [Grouping.contribution, hkey, Grouping.arguments, Expression.evaluate, Grouping.arguments]
    · rfl
    all_goals nofun
  have htwo : (Grouping.group loansByNumber loans).map List.length = .ok 2 := by
    rw [Grouping.group_eq rfl rfl]
    simp only [loans, List.mapM_cons, hbrought]
    decide +kernel
  obtain ⟨rows, hrows, hlength⟩ := map_eq_ok.mp htwo
  exact ⟨rows, hrows, hlength, (hgroup rows).mp hrows⟩

/-- Two numbers that differ, and yet are equal, tied, and found under one another. -/
theorem neighbours_taken_for_one :
    (9007199254740993 : Int64) ≠ 9007199254740992 ∧
    (Value.int64 9007199254740993).equals (.int64 9007199254740992) = true ∧
    Value.sortOrder (some (.int64 9007199254740993)) (some (.int64 9007199254740992)) = .eq ∧
    Matcher.filter none [("_id", .int64 9007199254740992)]
      (Compile.condition "_id" (some .eq) [.int64 9007199254740993]) = .ok true := by
  refine ⟨by decide, by decide +kernel, by decide +kernel, ?_⟩
  rw [Compile.condition]
  exact (Matcher.filter_eq rfl _).trans (congrArg Except.ok (by decide +kernel))

end Integers
end DataGrid
