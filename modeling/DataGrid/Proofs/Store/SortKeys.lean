import DataGrid.Proofs.Store.Sorting
import DataGrid.Proofs.Document.Order
import Mathlib.Data.List.Forall2

/-!
# DataGrid.Proofs.Store.SortKeys -- what a sort specification asks for

A specification names fields, the most important first, each with a direction. It puts one
document in front of another by the first field in which they are not tied; documents that tie
in all of them stay in order. This holds of values that have a place. A direction that is none
stops the sorting before it begins.
-/

namespace DataGrid.Store.Sorting

open Std Fallible Value

/-! ## What is asked for -/

/-- The value says ascending, as 1 of some width, or descending, as -1. -/
def Directed (direction : Value) (descending : Bool) : Prop :=
  let sign : Int := if descending then -1 else 1
  direction = .int32 (Int32.ofInt sign) ∨ direction = .int64 (Int64.ofInt sign) ∨
    direction = .double (Binary64.ofInt sign)

/-- Every field has a direction. -/
def AllDirected (spec : Document) : Prop :=
  ∀ entry ∈ spec, ∃ descending, Directed entry.2 descending

/-- The order of two documents by what they have in a field. -/
def orderIn (field : String) (a b : Document) : Ordering :=
  sortOrder (a.lookupText field) (b.lookupText field)

/-- No field of the specification tells the documents apart. -/
def Tied (spec : Document) (a b : Document) : Prop :=
  ∀ entry ∈ spec, orderIn entry.1 a b = .eq

/-- The first field that tells the documents apart puts the first one in front. -/
def Precedes (spec : Document) (a b : Document) : Prop :=
  ∃ earlier field direction later descending, spec = earlier ++ (field, direction) :: later ∧
    Tied earlier a b ∧ Directed direction descending ∧
    orderIn field a b = if descending then .gt else .lt

/-- The same fields in the opposite directions, of any width. -/
def Opposite (spec opposite : Document) : Prop :=
  List.Forall₂ (fun entry other => entry.1 = other.1 ∧
    ∃ descending, Directed entry.2 descending ∧ Directed other.2 (!descending)) spec opposite

/-! ## Keys -/

theorem sign_eq_some_iff {α : Type} [DecidableEq α] {x plus minus : α} (hne : plus ≠ minus)
    (descending : Bool) :
    (if x = plus then some false else if x = minus then some true else none) = some descending ↔
      x = if descending then minus else plus := by
  by_cases hplus : x = plus
  · subst hplus
    cases descending <;> simp [hne]
  · by_cases hminus : x = minus
    · subst hminus
      cases descending <;> simp [hne.symm]
    · cases descending <;> simp [hplus, hminus]

theorem direction?_double (x : Binary64) :
    direction? (.double x) =
      if x = Binary64.ofInt 1 then some false
      else if x = Binary64.ofInt (-1) then some true else none := by
  have hone : x.equals (Binary64.ofInt 1) = decide (x = Binary64.ofInt 1) :=
    Binary64.equals_eq_decide (Binary64.isNaN_ofInt 1) (by decide +kernel)
  have hminus : x.equals (Binary64.ofInt (-1)) = decide (x = Binary64.ofInt (-1)) :=
    Binary64.equals_eq_decide (Binary64.isNaN_ofInt (-1)) (by decide +kernel)
  simp only [direction?, hone, hminus, decide_eq_true_eq]

theorem direction?_eq_some_iff (direction : Value) (descending : Bool) :
    direction? direction = some descending ↔ Directed direction descending := by
  cases direction with
  | int32 n =>
    refine (sign_eq_some_iff (show (1 : Int32) ≠ -1 by decide) descending).trans ?_
    cases descending <;> simp [Directed]
  | int64 n =>
    refine (sign_eq_some_iff (show (1 : Int64) ≠ -1 by decide) descending).trans ?_
    cases descending <;> simp [Directed]
  | double x =>
    have hne : Binary64.ofInt 1 ≠ Binary64.ofInt (-1) := by decide +kernel
    rw [direction?_double]
    refine (sign_eq_some_iff hne descending).trans ?_
    cases descending <;> simp [Directed]
  | _ => simp [direction?, Directed]

/-- The keys are those that the specification asks for, one for each entry. -/
def Reads (spec : Document) (keys : List Key) : Prop :=
  List.Forall₂ (fun entry key => key.path = Path.ofText entry.1 ∧
    Directed entry.2 key.descending) spec keys

theorem exists_reads {spec : Document} (h : AllDirected spec) : ∃ keys, Reads spec keys := by
  induction spec with
  | nil => exact ⟨[], .nil⟩
  | cons entry rest ih =>
    obtain ⟨hentry, hrest⟩ := List.forall_mem_cons.mp h
    obtain ⟨descending, hdirected⟩ := hentry
    obtain ⟨keys, hkeys⟩ := ih hrest
    exact ⟨⟨Path.ofText entry.1, descending⟩ :: keys, .cons ⟨rfl, hdirected⟩ hkeys⟩

theorem Reads.keys_eq {spec : Document} {ks : List Key} (h : Reads spec ks) :
    keys spec = .ok ks := by
  induction h with
  | nil => rfl
  | cons hentry _ ih =>
    rw [keys, (direction?_eq_some_iff _ _).mpr hentry.2, ih, ← hentry.1]
    rfl

theorem exists_first_undirected {spec : Document} (h : ¬ AllDirected spec) :
    ∃ earlier field direction later, spec = earlier ++ (field, direction) :: later ∧
      AllDirected earlier ∧ ∀ descending, ¬ Directed direction descending := by
  induction spec with
  | nil => exact absurd (List.forall_mem_nil _) h
  | cons entry rest ih =>
    by_cases hentry : ∃ descending, Directed entry.2 descending
    · have hrest : ¬ AllDirected rest := fun hrest => h (List.forall_mem_cons.mpr ⟨hentry, hrest⟩)
      obtain ⟨earlier, field, direction, later, rfl, hearlier, hnone⟩ := ih hrest
      exact ⟨entry :: earlier, field, direction, later, rfl,
        List.forall_mem_cons.mpr ⟨hentry, hearlier⟩, hnone⟩
    · exact ⟨[], entry.1, entry.2, rest, rfl, List.forall_mem_nil _, not_exists.mp hentry⟩

/-- The first entry without a direction is the fault. -/
theorem keys_undirected {earlier later : Document} {field : String} {direction : Value}
    (hearlier : AllDirected earlier) (hnone : ∀ descending, ¬ Directed direction descending) :
    keys (earlier ++ (field, direction) :: later) = .error (.sortDirection field) := by
  induction earlier with
  | nil =>
    have hread : direction? direction = none := by
      cases h : direction? direction with
      | none => rfl
      | some descending => exact absurd ((direction?_eq_some_iff _ _).mp h) (hnone descending)
    rw [List.nil_append, keys, hread]
  | cons entry rest ih =>
    obtain ⟨hentry, hrest⟩ := List.forall_mem_cons.mp hearlier
    obtain ⟨descending, hdirected⟩ := hentry
    rw [List.cons_append, keys, (direction?_eq_some_iff _ _).mpr hdirected, ih hrest]
    rfl

/-! ## What the keys say of two documents -/

/-- A key orders as its field does, or the other way around. -/
theorem compareBy_eq {key : Key} {field : String} (h : key.path = Path.ofText field)
    (a b : Document) :
    compareBy key a b =
      if key.descending then (orderIn field a b).swap else orderIn field a b := by
  rw [compareBy, h]
  rfl

theorem compareBy_eq_eq_iff {key : Key} {field : String} (h : key.path = Path.ofText field)
    (a b : Document) : compareBy key a b = .eq ↔ orderIn field a b = .eq := by
  rw [compareBy_eq h]
  cases key.descending <;> simp

theorem compareBy_eq_lt_iff {key : Key} {field : String} (h : key.path = Path.ofText field)
    (a b : Document) : compareBy key a b = .lt ↔
      orderIn field a b = if key.descending then .gt else .lt := by
  rw [compareBy_eq h]
  cases key.descending <;> simp

theorem tied_cons (entry : String × Value) (rest a b : Document) :
    Tied (entry :: rest) a b ↔ orderIn entry.1 a b = .eq ∧ Tied rest a b := List.forall_mem_cons

section Meaning

variable {spec : Document} {ks : List Key} (h : Reads spec ks) {a b : Document}
include h

theorem Reads.compareAll_eq_iff : compareAll ks a b = .eq ↔ Tied spec a b := by
  induction h with
  | nil => simp [compareAll, Tied]
  | @cons entry key rest ks hentry _ ih =>
    rw [compareAll, Ordering.then_eq_eq, compareBy_eq_eq_iff hentry.1, ih, tied_cons]

/-- By induction on the fields: either the first one decides, or it ties and a later one does. -/
theorem Reads.precedes_of_lt (hlt : compareAll ks a b = .lt) : Precedes spec a b := by
  induction h with
  | nil => cases hlt
  | @cons entry key rest ks hentry _ ih =>
    rw [compareAll, Ordering.then_eq_lt, compareBy_eq_lt_iff hentry.1,
      compareBy_eq_eq_iff hentry.1] at hlt
    rcases hlt with hdecides | ⟨hties, hlt⟩
    · exact ⟨[], entry.1, entry.2, rest, key.descending, rfl, List.forall_mem_nil _, hentry.2,
        hdecides⟩
    · obtain ⟨earlier, field, direction, later, descending, rfl, htied, hdirected, horder⟩ := ih hlt
      exact ⟨entry :: earlier, field, direction, later, descending, rfl,
        (tied_cons entry earlier a b).mpr ⟨hties, htied⟩, hdirected, horder⟩

end Meaning

/-! ## Documents that have a place -/

/-- What the document has in the fields of the specification has a place. -/
def Placed (spec d : Document) : Prop := ∀ entry ∈ spec, HasPlace (d.lookupText entry.1)

/-- The order of places by one key. -/
def placeBy (key : Key) : Document → Document → Ordering :=
  let ahead := fun a b => placeOrder (Document.lookup a key.path) (Document.lookup b key.path)
  if key.descending then fun a b => ahead b a else ahead

/-- The order of places by several keys. -/
def placeAll : List Key → Document → Document → Ordering
  | [] => fun _ _ => .eq
  | key :: rest => compareLex (placeBy key) (placeAll rest)

instance (key : Key) : TransCmp (placeBy key) := by
  have hahead := transCmp_of placeOrder fun d => Document.lookup d key.path
  unfold placeBy
  split
  · exact TransCmp.opposite
  · exact hahead

instance instTransCmpPlaceAll : (ks : List Key) → TransCmp (placeAll ks)
  | [] => { eq_swap := rfl, isLE_trans := fun _ _ => rfl }
  | key :: rest =>
    have := instTransCmpPlaceAll rest
    inferInstanceAs (TransCmp (compareLex (placeBy key) (placeAll rest)))

theorem placeAll_singleton (key : Key) : placeAll [key] = placeBy key := by
  funext a b
  show (placeBy key a b).then .eq = placeBy key a b
  cases placeBy key a b <;> rfl

theorem compareBy_eq_placeBy {key : Key} {field : String} (h : key.path = Path.ofText field)
    {a b : Document} (ha : HasPlace (a.lookupText field)) (hb : HasPlace (b.lookupText field)) :
    compareBy key a b = placeBy key a b := by
  have hab : orderIn field a b =
      placeOrder (Document.lookup a key.path) (Document.lookup b key.path) := by
    rw [h]
    exact sortOrder_eq_placeOrder ha hb
  have hba : (orderIn field a b).swap =
      placeOrder (Document.lookup b key.path) (Document.lookup a key.path) := by
    rw [hab]
    exact (OrientedCmp.eq_swap).symm
  rw [compareBy_eq h, placeBy]
  cases key.descending with
  | false => exact hab
  | true => exact hba

section Sorted

variable {spec : Document} {ks : List Key} (h : Reads spec ks)
include h

theorem Reads.compareAll_eq_placeAll {a b : Document} (ha : Placed spec a) (hb : Placed spec b) :
    compareAll ks a b = placeAll ks a b := by
  induction h with
  | nil => rfl
  | @cons entry key rest ks hentry _ ih =>
    obtain ⟨hafirst, harest⟩ := List.forall_mem_cons.mp ha
    obtain ⟨hbfirst, hbrest⟩ := List.forall_mem_cons.mp hb
    rw [compareAll, compareBy_eq_placeBy hentry.1 hafirst hbfirst, ih harest hbrest]
    rfl

variable {documents : List Document} (hplaced : ∀ d ∈ documents, Placed spec d)
include hplaced

/-- Documents that have a place are in a consistent order. -/
theorem Reads.sortByKeys_eq :
    sortByKeys ks documents = .ok (sortBy (fun a b => (placeAll ks a b).isLT) documents) := by
  refine sortByKeys_eq_ok.mpr ((sortBy?_congr fun a ha b hb => ?_).trans
    (sortBy?_eq (placeAll ks) documents))
  rw [h.compareAll_eq_placeAll (hplaced a ha) (hplaced b hb)]

theorem Reads.run_sortInPlace :
    (sortInPlace spec).run.run documents =
      (.ok (), sortBy (fun a b => (placeAll ks a b).isLT) documents) := by
  rw [Sorting.run_sortInPlace, h.keys_eq, ok_bind, h.sortByKeys_eq hplaced]

theorem Reads.sort_eq :
    sort spec documents = .ok (sortBy (fun a b => (placeAll ks a b).isLT) documents) := by
  rw [sort, h.run_sortInPlace hplaced]

/-- By induction on the fields: the first one is sorted by last, behind all others. -/
theorem Reads.sort_successively :
    spec.reverse.foldlM (fun rows entry => sort [entry] rows) documents =
      .ok (sortBy (fun a b => (placeAll ks a b).isLT) documents) := by
  induction h with
  | nil => exact congrArg Except.ok (sortBy_tied documents).symm
  | @cons entry key rest ks hentry _ ih =>
    have hone : Reads [entry] [key] := .cons hentry .nil
    have hrest : ∀ d ∈ documents, Placed rest d := fun d hd =>
      (List.forall_mem_cons.mp (hplaced d hd)).2
    have hfirst : ∀ d ∈ sortBy (fun a b => (placeAll ks a b).isLT) documents, Placed [entry] d :=
      fun d hd => List.forall_mem_singleton.mpr
        (hplaced d ((sortBy_perm _ _).mem_iff.mp hd) entry (List.mem_cons_self))
    rw [List.reverse_cons, List.foldlM_append, ih hrest, ok_bind, List.foldlM_cons,
      hone.sort_eq hfirst, ok_bind, placeAll_singleton, sortBy_sortBy]
    rfl

end Sorted

/-! ## Specifications of directions -/

section Directed

variable {spec : Document} (directed : AllDirected spec) {documents : List Document}
include directed

/-- Where every field has a direction, nothing goes wrong but that the sort gives up. -/
theorem sort_eq_ok_or_inconsistent :
    (∃ sorted, sort spec documents = .ok sorted) ∨
      sort spec documents = .error .inconsistentOrder := by
  obtain ⟨ks, hreads⟩ := exists_reads directed
  rw [Sorting.sort_eq, hreads.keys_eq, ok_bind, sortByKeys]
  split
  · next sorted _ => exact .inl ⟨sorted, rfl⟩
  · exact .inr rfl

/-- It does not give up on twenty documents, nor on any number of them that have a place. -/
theorem exists_sort (h : documents.length ≤ 20 ∨ ∀ d ∈ documents, Placed spec d) :
    ∃ sorted, sort spec documents = .ok sorted := by
  obtain ⟨ks, hreads⟩ := exists_reads directed
  rcases h with few | placed
  · rw [Sorting.sort_eq, hreads.keys_eq, ok_bind]
    exact ⟨_, sortByKeys_eq_ok.mpr (sortBy?_of_few _ few)⟩
  · exact ⟨_, hreads.sort_eq placed⟩

end Directed

/-- Nothing is asked for, and nothing is moved. -/
theorem sort_nil (documents : List Document) : sort [] documents = .ok documents := by
  rw [Reads.sort_eq .nil fun _ _ => List.forall_mem_nil _]
  exact congrArg Except.ok (sortBy_tied documents)

/-! ## The opposite directions -/

/-- The key of the opposite direction. -/
def Key.opposite (key : Key) : Key := { key with descending := !key.descending }

theorem placeAll_opposite (ks : List Key) (a b : Document) :
    placeAll (ks.map Key.opposite) a b = placeAll ks b a := by
  induction ks with
  | nil => rfl
  | cons key rest ih =>
    have hfirst : placeBy key.opposite a b = placeBy key b a := by
      unfold placeBy Key.opposite
      cases key.descending <;> rfl
    rw [List.map_cons, placeAll, placeAll, compareLex, compareLex, hfirst, ih]

theorem Directed.unique {direction : Value} {descending other : Bool}
    (h : Directed direction descending) (h' : Directed direction other) : descending = other := by
  rw [← direction?_eq_some_iff] at h h'
  exact Option.some.inj (h.symm.trans h')

theorem Reads.opposite {spec opposite : Document} {ks : List Key} (h : Reads spec ks)
    (hopposite : Opposite spec opposite) : Reads opposite (ks.map Key.opposite) := by
  induction h generalizing opposite with
  | nil =>
    cases hopposite
    exact .nil
  | cons hentry _ ih =>
    cases hopposite with
    | cons hother hrest =>
      obtain ⟨hfield, descending, hdirected, hopposed⟩ := hother
      obtain rfl := hdirected.unique hentry.2
      exact .cons ⟨hentry.1.trans (congrArg Path.ofText hfield), hopposed⟩ (ih hrest)

theorem Opposite.placed {spec opposite : Document} (h : Opposite spec opposite) {d : Document}
    (hplaced : Placed spec d) : Placed opposite d := by
  induction h with
  | nil => exact hplaced
  | cons hother _ ih =>
    obtain ⟨hfirst, hrest⟩ := List.forall_mem_cons.mp hplaced
    exact List.forall_mem_cons.mpr ⟨hother.1 ▸ hfirst, ih hrest⟩

/-! ## The main result -/

/-- A specification of directions sorts documents that have a place: what comes out are the same
documents, of any two the first field that tells them apart decides, and those that tie stay in
order. Sorting by one field after the other, the last one first, gives the same list, and the
opposite directions turn it around when no two documents tie. A value that is no direction is
reported, and the documents stay as they are. -/
theorem sort_stable (spec : Document) (documents : List Document) :
    (AllDirected spec → (∀ d ∈ documents, Placed spec d) →
      ∃ sorted, (sortInPlace spec).run.run documents = (.ok (), sorted) ∧
        sorted.Perm documents ∧
        Arranged (fun a b => Precedes spec a.1 b.1 ∨ (Tied spec a.1 b.1 ∧ a.2 < b.2))
          documents sorted ∧
        spec.reverse.foldlM (fun rows entry => sort [entry] rows) documents = .ok sorted ∧
        (documents.Pairwise (fun a b => ¬ Tied spec a b) → ∀ opposite, Opposite spec opposite →
          (sortInPlace opposite).run.run documents = (.ok (), sorted.reverse))) ∧
    (¬ AllDirected spec → ∃ earlier field direction later,
      spec = earlier ++ (field, direction) :: later ∧ AllDirected earlier ∧
        (∀ descending, ¬ Directed direction descending) ∧
        (sortInPlace spec).run.run documents = (.error (.sortDirection field), documents)) := by
  refine ⟨fun hdirected hplaced => ?_, fun hundirected => ?_⟩
  · obtain ⟨ks, hks⟩ := exists_reads hdirected
    have hplace : ∀ a ∈ documents, ∀ b ∈ documents, placeAll ks a b = compareAll ks a b :=
      fun a ha b hb => (hks.compareAll_eq_placeAll (hplaced a ha) (hplaced b hb)).symm
    refine ⟨_, hks.run_sortInPlace hplaced, sortBy_perm _ _, ?_, hks.sort_successively hplaced, ?_⟩
    · refine (arranged_sortBy (placeAll ks) documents).imp fun a ha b hb hbehind => ?_
      rw [Behind, hplace a.1 (List.fst_mem_of_mem_zipIdx ha) b.1
        (List.fst_mem_of_mem_zipIdx hb), hks.compareAll_eq_iff] at hbehind
      exact hbehind.imp_left hks.precedes_of_lt
    · intro huntied opposite hopposite
      have hne : documents.Pairwise fun a b => placeAll ks a b ≠ .eq :=
        huntied.imp_of_mem fun {a b} ha hb hnot heq =>
          hnot (hks.compareAll_eq_iff.mp ((hplace a ha b hb).symm.trans heq))
      rw [(hks.opposite hopposite).run_sortInPlace fun d hd => hopposite.placed (hplaced d hd),
        ← sortBy_opposite hne]
      simp only [placeAll_opposite]
  · obtain ⟨earlier, field, direction, later, rfl, hearlier, hnone⟩ :=
      exists_first_undirected hundirected
    refine ⟨earlier, field, direction, later, rfl, hearlier, hnone, ?_⟩
    rw [run_sortInPlace, keys_undirected hearlier hnone]
    rfl

/-- By rating, and by title backwards among books of one rating. -/
def bestLast : Document := [("rating", .int32 1), ("title", .double (.ofInt (-1)))]

/-- The other way around, in other widths. -/
def bestFirst : Document := [("rating", .int64 (-1)), ("title", .int32 1)]

/-- Three ratings of different kinds, two of them the same number. -/
def rated : List Document :=
  [[("title", .string "Emma"), ("rating", .int32 3)],
    [("title", .string "Persuasion"), ("rating", .double (.ofInt 3))],
    [("title", .string "Sanditon")]]

theorem sort_stable_rated :
    (∃ sorted, (sortInPlace bestLast).run.run rated = (.ok (), sorted) ∧
      sorted.map (fun d => d.lookupText "title") =
        [some (.string "Sanditon"), some (.string "Persuasion"), some (.string "Emma")] ∧
      Arranged (fun a b => Precedes bestLast a.1 b.1 ∨ (Tied bestLast a.1 b.1 ∧ a.2 < b.2))
        rated sorted ∧
      bestLast.reverse.foldlM (fun rows entry => sort [entry] rows) rated = .ok sorted ∧
      (sortInPlace bestFirst).run.run rated = (.ok (), sorted.reverse)) ∧
    ∃ field, (sortInPlace [("rating", .string "up")]).run.run rated =
      (.error (.sortDirection field), rated) := by
  obtain ⟨hsorts, -⟩ := sort_stable bestLast rated
  obtain ⟨-, hrefuses⟩ := sort_stable [("rating", .string "up")] rated
  have hdirected : AllDirected bestLast :=
    List.forall_mem_cons.mpr ⟨⟨false, .inl rfl⟩,
      List.forall_mem_singleton.mpr ⟨true, .inr (.inr rfl)⟩⟩
  have hplaced : ∀ d ∈ rated, Placed bestLast d := by
    simp only [rated, bestLast, Placed, List.forall_mem_cons, List.not_mem_nil,
      false_implies, implies_true, and_true]
    exact ⟨⟨trivial, trivial⟩, ⟨Binary64.isNaN_ofInt 3, trivial⟩, trivial, trivial⟩
  have htitle : ("title", .double (.ofInt (-1))) ∈ bestLast := List.mem_cons_of_mem _ (.head _)
  have huntied : rated.Pairwise fun a b => ¬ Tied bestLast a b := by
    simp only [rated, List.pairwise_cons, List.forall_mem_cons, List.not_mem_nil,
      false_implies, implies_true, and_true]
    refine ⟨⟨fun h => ?_, fun h => ?_⟩, fun h => ?_, trivial, .nil⟩
    · exact absurd (h _ htitle) (by decide +kernel)
    · exact absurd (h _ htitle) (by decide +kernel)
    · exact absurd (h _ htitle) (by decide +kernel)
  have hopposite : Opposite bestLast bestFirst :=
    .cons ⟨rfl, false, .inl rfl, .inr (.inl rfl)⟩
      (.cons ⟨rfl, true, .inr (.inr rfl), .inl rfl⟩ .nil)
  obtain ⟨sorted, hrun, -, harranged, hsuccessive, hreversed⟩ := hsorts hdirected hplaced
  have htitles : sorted.map (fun d => d.lookupText "title") =
      [some (.string "Sanditon"), some (.string "Persuasion"), some (.string "Emma")] := by
    obtain rfl : sorted = ((sortInPlace bestLast).run.run rated).2 := by rw [hrun]
    rfl
  have hup : ¬ AllDirected [("rating", .string "up")] := by
    simp [AllDirected, Directed]
  obtain ⟨-, field, -, -, -, -, -, hrefused⟩ := hrefuses hup
  exact ⟨⟨sorted, hrun, htitles, harranged, hsuccessive, hreversed huntied bestFirst hopposite⟩,
    field, hrefused⟩

end DataGrid.Store.Sorting
