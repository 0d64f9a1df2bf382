import DataGrid.Store.Grouping
import DataGrid.Proofs.Fallible
import Mathlib.Data.List.Forall2
import Mathlib.Data.List.Induction

/-!
# DataGrid.Proofs.Store.Grouping -- grouping takes documents apart

Documents are put into groups one by one, yet what a group holds does not depend on the other
groups: each row is the row that grouping the documents of its key alone would give. This holds
wherever equality of keys is an equivalence, and then a key in front of all that are equal to it
stands for them.
-/

namespace DataGrid.Store.Grouping

open Fallible

/-! ## Keys -/

/-- Among these values equality is an equivalence. -/
structure Comparable (among : Value → Prop) : Prop where
  refl : ∀ {a}, among a → a.equals a = true
  symm : ∀ {a b}, among a → among b → a.equals b = true → b.equals a = true
  trans : ∀ {a b c}, among a → among b → among c → a.equals b = true → b.equals c = true →
    a.equals c = true

/-- The keys without those that are equal to one in front of them. -/
def firsts (keys : List Value) : List Value :=
  keys.foldl (fun seen key => if seen.any (·.equals key) then seen else seen ++ [key]) []

theorem firsts_concat (keys : List Value) (key : Value) :
    firsts (keys ++ [key]) =
      if (firsts keys).any (·.equals key) then firsts keys else firsts keys ++ [key] := by
  rw [firsts, List.foldl_append]
  rfl

theorem subset_firsts (keys : List Value) : firsts keys ⊆ keys := by
  induction keys using List.reverseRecOn with
  | nil => exact List.Subset.refl _
  | append_singleton keys key ih =>
    rw [firsts_concat]
    split
    · exact List.Subset.trans ih (List.subset_append_left _ _)
    · exact List.append_subset.mpr
        ⟨List.Subset.trans ih (List.subset_append_left _ _), List.subset_append_right _ _⟩

theorem pairwise_firsts (keys : List Value) :
    (firsts keys).Pairwise fun a b => a.equals b = false := by
  induction keys using List.reverseRecOn with
  | nil => exact .nil
  | append_singleton keys key ih =>
    rw [firsts_concat]
    split
    · exact ih
    · next hnone =>
      refine List.pairwise_append.mpr ⟨ih, List.pairwise_singleton _ _, fun a ha b hb => ?_⟩
      obtain rfl := List.mem_singleton.mp hb
      exact Bool.eq_false_iff.mpr fun h => hnone (List.any_eq_true.mpr ⟨a, ha, h⟩)

section Comparable

variable {among : Value → Prop} (comparable : Comparable among)
include comparable

/-- Every key is equal to one that stands for it. -/
theorem exists_first {keys : List Value} (h : ∀ key ∈ keys, among key) {key : Value}
    (hkey : key ∈ keys) : ∃ first ∈ firsts keys, first.equals key = true := by
  induction keys using List.reverseRecOn with
  | nil => cases hkey
  | append_singleton keys last ih =>
    have hkeys : ∀ key ∈ keys, among key := fun key hkey => h key (List.mem_append_left _ hkey)
    rw [firsts_concat]
    rcases List.mem_append.mp hkey with hkey | hlast
    · obtain ⟨first, hfirst, hequals⟩ := ih hkeys hkey
      refine ⟨first, ?_, hequals⟩
      split
      · exact hfirst
      · exact List.mem_append_left _ hfirst
    · obtain rfl := List.mem_singleton.mp hlast
      split
      · next hany => exact List.any_eq_true.mp hany
      · exact ⟨key, by simp, comparable.refl (h key (by simp))⟩

/-- A key that none of the firsts stands for is equal to no key in front of it. -/
theorem not_equals_of_new {keys : List Value} (h : ∀ key ∈ keys, among key) {key : Value}
    (hkey : among key) (hnew : ¬ (firsts keys).any (·.equals key) = true) :
    ∀ other ∈ keys, ¬ key.equals other = true := by
  intro other hother hequals
  obtain ⟨first, hfirst, hfirsts⟩ := exists_first comparable h hother
  have hback := comparable.symm hkey (h other hother) hequals
  exact hnew (List.any_eq_true.mpr ⟨first, hfirst, comparable.trans
    (h first (subset_firsts _ hfirst)) (h other hother) hkey hfirsts hback⟩)

/-- A first key is the first of all that are equal to it. -/
theorem firsts_filter {keys : List Value} (h : ∀ key ∈ keys, among key) {first : Value}
    (hfirst : first ∈ firsts keys) : firsts (keys.filter (first.equals ·)) = [first] := by
  induction keys using List.reverseRecOn with
  | nil => cases hfirst
  | append_singleton keys last ih =>
    have hkeys : ∀ key ∈ keys, among key := fun key hkey => h key (List.mem_append_left _ hkey)
    have hlast : among last := h last (by simp)
    have hold : first ∈ firsts keys →
        firsts ((keys ++ [last]).filter (first.equals ·)) = [first] := by
      intro hfirst
      rw [List.filter_append]
      cases hequals : first.equals last with
      | true => simp [hequals, firsts_concat, ih hkeys hfirst]
      | false => simp [hequals, ih hkeys hfirst]
    rw [firsts_concat] at hfirst
    split at hfirst
    · exact hold hfirst
    · next hnew =>
      rcases List.mem_append.mp hfirst with hfirst | hfirst
      · exact hold hfirst
      · obtain rfl := List.mem_singleton.mp hfirst
        rw [List.filter_append,
          List.filter_eq_nil_iff.mpr (not_equals_of_new comparable hkeys hlast hnew)]
        simp [comparable.refl hlast, firsts]

end Comparable

/-! ## Contributions -/

/-- The key of a document, where it has one; a missing one is null. -/
def keyOf (key : Value) (d : Document) : Value :=
  match Expression.evaluate d key with
  | .ok value => value.getD .null
  | .error _ => .null

/-- What a document brings to its group: the key, and a value for each field. -/
def contribution (fields : List Field) (key : Value) (d : Document) :
    Except StoreError (Value × List (Option Value)) := do
  let value ← Expression.evaluate d key
  let values ← arguments d fields
  return (value.getD .null, values)

theorem fst_of_contribution {fields : List Field} {key : Value} {d : Document}
    {brought : Value × List (Option Value)} (h : contribution fields key d = .ok brought) :
    brought.1 = keyOf key d := by
  obtain ⟨value, hvalue, h⟩ := bind_eq_ok.mp h
  obtain ⟨values, -, h⟩ := bind_eq_ok.mp h
  obtain rfl := Except.ok.inj h
  rw [keyOf, hvalue]

/-- Groups after some contributions. -/
def fill (fields : List Field) (groups : List Group)
    (brought : List (Value × List (Option Value))) : List Group :=
  brought.foldl (fun groups one => addTo fields one.1 one.2 groups) groups

theorem collect_eq (fields : List Field) (key : Value) (groups : List Group)
    (documents : List Document) :
    collect fields key groups documents =
      (documents.mapM (contribution fields key)).map (fill fields groups) := by
  induction documents generalizing groups with
  | nil => rfl
  | cons d rest ih =>
    rw [collect, List.mapM_cons, contribution]
    cases Expression.evaluate d key with
    | error fault => rfl
    | ok value =>
      cases arguments d fields with
      | error fault => rfl
      | ok values =>
        show collect fields key (addTo fields (value.getD .null) values groups) rest = _
        rw [ih]
        cases rest.mapM (contribution fields key) <;> rfl

theorem group_eq {spec : Document} {key : Value} {fs : List Field}
    (hkey : Keyed.get? spec "_id" = some key) (hfields : fields spec = .ok fs)
    (documents : List Document) :
    group spec documents = (documents.mapM (contribution fs key)).map
      fun brought => (fill fs [] brought).map (row fs) := by
  rw [group, hkey]
  show (fields spec >>= _) = _
  rw [hfields, ok_bind, collect_eq]
  cases documents.mapM (contribution fs key) <;> rfl

/-! ## What a group holds -/

/-- What fresh accumulators hold after some contributions. -/
def feed (fields : List Field) (brought : List (Value × List (Option Value))) : List Accumulator :=
  brought.foldl (fun states one => List.zipWith Accumulator.add states one.2)
    (fields.map Field.fresh)

theorem feed_concat (fields : List Field) (brought : List (Value × List (Option Value)))
    (one : Value × List (Option Value)) :
    feed fields (brought ++ [one]) = List.zipWith Accumulator.add (feed fields brought) one.2 := by
  rw [feed, List.foldl_append]
  rfl

/-- The group of a key when only the contributions under that key are there. -/
def groupOf (fields : List Field) (brought : List (Value × List (Option Value))) (key : Value) :
    Group :=
  ⟨key, feed fields (brought.filter fun one => key.equals one.1)⟩

theorem groupOf_concat (fields : List Field) (brought : List (Value × List (Option Value)))
    (one : Value × List (Option Value)) (key : Value) :
    groupOf fields (brought ++ [one]) key =
      if key.equals one.1 then
        ⟨key, List.zipWith Accumulator.add (groupOf fields brought key).states one.2⟩
      else groupOf fields brought key := by
  unfold groupOf
  cases hequals : key.equals one.1 with
  | true => simp [List.filter_append, hequals, feed_concat]
  | false => simp [List.filter_append, hequals]

section Comparable

variable {among : Value → Prop} (comparable : Comparable among)
include comparable

/-- Keys of which no two are equal: a contribution goes to the one group whose key is equal to its
own, or opens a group behind them. -/
theorem addTo_map (fields : List Field) {keys : List Value} (h : ∀ key ∈ keys, among key)
    (distinct : keys.Pairwise fun a b => a.equals b = false) {key : Value} (hkey : among key)
    (values : List (Option Value)) (states : Value → List Accumulator) :
    addTo fields key values (keys.map fun other => ⟨other, states other⟩) =
      if keys.any (·.equals key) then
        keys.map fun other => if other.equals key
          then ⟨other, List.zipWith Accumulator.add (states other) values⟩
          else ⟨other, states other⟩
      else (keys.map fun other => ⟨other, states other⟩) ++
        [⟨key, List.zipWith Accumulator.add (fields.map Field.fresh) values⟩] := by
  induction keys with
  | nil => rfl
  | cons first rest ih =>
    obtain ⟨hfirst, hrest⟩ := List.forall_mem_cons.mp h
    obtain ⟨hapart, hdistinct⟩ := List.pairwise_cons.mp distinct
    rw [List.map_cons, addTo, List.any_cons, List.map_cons]
    cases hequals : first.equals key with
    | true =>
      -- no key behind is equal too, because then it would be equal to the first one
      have hothers : ∀ other ∈ rest, other.equals key = false := by
        intro other hother
        refine Bool.eq_false_iff.mpr fun hother' => ?_
        have hback := comparable.symm (hrest other hother) hkey hother'
        have := comparable.trans hfirst hkey (hrest other hother) hequals hback
        rw [hapart other hother] at this
        cases this
      have hsame : (rest.map fun other => if other.equals key
          then (⟨other, List.zipWith Accumulator.add (states other) values⟩ : Group)
          else ⟨other, states other⟩) = rest.map fun other => ⟨other, states other⟩ :=
        List.map_congr_left fun other hother => by rw [hothers other hother]; rfl
      rw [if_pos rfl, Bool.true_or, if_pos rfl, if_pos rfl, hsame]
    | false =>
      rw [ih hrest hdistinct, Bool.false_or]
      cases rest.any (·.equals key) <;> rfl

/-- By induction on the contributions: the last one either changes the group of its key alone, or
its key is new. -/
theorem fill_eq {fields : List Field} {brought : List (Value × List (Option Value))}
    (h : ∀ one ∈ brought, among one.1) :
    fill fields [] brought = (firsts (brought.map Prod.fst)).map (groupOf fields brought) := by
  induction brought using List.reverseRecOn with
  | nil => rfl
  | append_singleton brought one ih =>
    have hbrought : ∀ other ∈ brought, among other.1 := fun other hother =>
      h other (List.mem_append_left _ hother)
    have hkeys : ∀ key ∈ brought.map Prod.fst, among key := List.forall_mem_map.mpr hbrought
    have hone : among one.1 := h one (by simp)
    have hfill : fill fields [] (brought ++ [one]) =
        addTo fields one.1 one.2 (fill fields [] brought) := by
      rw [fill, List.foldl_append]
      rfl
    have hadded := addTo_map comparable fields
      (fun key hkey => hkeys key (subset_firsts _ hkey)) (pairwise_firsts _) hone one.2
      fun key => (groupOf fields brought key).states
    have hstates : (firsts (brought.map Prod.fst)).map (groupOf fields brought) =
        (firsts (brought.map Prod.fst)).map
          fun key => ⟨key, (groupOf fields brought key).states⟩ := rfl
    rw [hfill, ih hbrought, hstates, hadded, List.map_append, List.map_singleton, firsts_concat]
    split
    · exact List.map_congr_left fun key _ => (groupOf_concat fields brought one key).symm
    · next hnew =>
      have hothers : ∀ key ∈ firsts (brought.map Prod.fst),
          groupOf fields (brought ++ [one]) key = groupOf fields brought key := by
        intro key hkey
        rw [groupOf_concat, if_neg fun hequals => hnew (List.any_eq_true.mpr ⟨key, hkey, hequals⟩)]
      have hnone : brought.filter (fun other => one.1.equals other.1) = [] :=
        List.filter_eq_nil_iff.mpr fun other hother =>
          not_equals_of_new comparable hkeys hone hnew other.1 (List.mem_map_of_mem hother)
      have hopened : groupOf fields (brought ++ [one]) one.1 =
          ⟨one.1, List.zipWith Accumulator.add (fields.map Field.fresh) one.2⟩ := by
        rw [groupOf_concat, if_pos (comparable.refl hone), groupOf, hnone]
        rfl
      rw [List.map_append, List.map_singleton, hopened, List.map_congr_left hothers]
      rfl

/-! ## Rows -/

variable {spec : Document} {key : Value} {fs : List Field}

/-- What documents bring that group without fault. -/
theorem group_eq_ok (hkey : Keyed.get? spec "_id" = some key) (hfields : fields spec = .ok fs)
    {documents : List Document} (h : ∀ d ∈ documents, among (keyOf key d))
    {brought : List (Value × List (Option Value))}
    (hbrought : documents.mapM (contribution fs key) = .ok brought) :
    group spec documents = .ok ((firsts (documents.map (keyOf key))).map
      fun first => row fs (groupOf fs brought first)) := by
  have hkeys : brought.map Prod.fst = documents.map (keyOf key) :=
    map_eq_of_mapM (fun _ _ => fst_of_contribution) hbrought
  have hamong : ∀ one ∈ brought, among one.1 := by
    intro one hone
    obtain ⟨d, hd, hcontribution⟩ := (mem_mapM_iff hbrought).mp hone
    rw [fst_of_contribution hcontribution]
    exact h d hd
  rw [group_eq hkey hfields, hbrought, map_ok, fill_eq comparable hamong, hkeys, List.map_map]
  rfl

/-- Documents under one key give one row, and it is the row that they have among others. -/
theorem group_alone (hkey : Keyed.get? spec "_id" = some key) (hfields : fields spec = .ok fs)
    {documents : List Document} (h : ∀ d ∈ documents, among (keyOf key d))
    {brought : List (Value × List (Option Value))}
    (hbrought : documents.mapM (contribution fs key) = .ok brought) {first : Value}
    (hfirst : first ∈ firsts (documents.map (keyOf key))) :
    group spec (documents.filter fun d => first.equals (keyOf key d)) =
      .ok [row fs (groupOf fs brought first)] := by
  have hfiltered := mapM_filter (p := fun d => first.equals (keyOf key d))
    (q := fun one => first.equals one.1)
    (fun d one hone => by rw [fst_of_contribution hone]) hbrought
  have hkeys : (documents.filter fun d => first.equals (keyOf key d)).map (keyOf key) =
      (documents.map (keyOf key)).filter (first.equals ·) := by
    rw [List.filter_map]
    rfl
  have hsame : groupOf fs (brought.filter fun one => first.equals one.1) first =
      groupOf fs brought first := by
    rw [groupOf, List.filter_filter]
    simp only [Bool.and_self]
    rfl
  rw [group_eq_ok comparable hkey hfields (fun d hd => h d (List.mem_filter.mp hd).1) hfiltered,
    hkeys, firsts_filter comparable (List.forall_mem_map.mpr h) hfirst, List.map_singleton, hsame]

/-- Grouping takes documents apart by their keys: there is a row for each key that is the first of
those equal to it, and it is the row of the documents of that key alone. It fails where grouping
one of these parts does. -/
theorem group_apart (hkey : Keyed.get? spec "_id" = some key) (hfields : fields spec = .ok fs)
    {documents : List Document} (h : ∀ d ∈ documents, among (keyOf key d))
    (rows : List Document) :
    group spec documents = .ok rows ↔
      List.Forall₂ (fun first row => group spec (documents.filter fun d =>
        first.equals (keyOf key d)) = .ok [row]) (firsts (documents.map (keyOf key))) rows := by
  have hforward : ∀ rows, group spec documents = .ok rows →
      List.Forall₂ (fun first row => group spec (documents.filter fun d =>
        first.equals (keyOf key d)) = .ok [row]) (firsts (documents.map (keyOf key))) rows := by
    intro rows hrows
    obtain ⟨brought, hbrought, -⟩ :=
      map_eq_ok.mp ((group_eq hkey hfields documents).symm.trans hrows)
    rw [group_eq_ok comparable hkey hfields h hbrought] at hrows
    obtain rfl := Except.ok.inj hrows
    exact List.forall₂_map_right_iff.mpr (List.forall₂_same.mpr fun first hfirst =>
      group_alone comparable hkey hfields h hbrought hfirst)
  refine ⟨hforward rows, fun hparts => ?_⟩
  -- every document is in one of the parts, where its contribution has been computed
  obtain ⟨brought, hbrought⟩ : ∃ brought, documents.mapM (contribution fs key) = .ok brought := by
    refine exists_mapM_eq_ok fun d hd => ?_
    obtain ⟨first, hfirst, hequals⟩ :=
      exists_first comparable (List.forall_mem_map.mpr h) (List.mem_map_of_mem hd)
    obtain ⟨row, hrow⟩ : ∃ row, group spec (documents.filter fun d =>
        first.equals (keyOf key d)) = .ok [row] := by
      obtain ⟨i, hi, rfl⟩ := List.getElem_of_mem hfirst
      exact ⟨_, List.Forall₂.get hparts hi (hparts.length_eq ▸ hi)⟩
    obtain ⟨part, hpart, -⟩ := map_eq_ok.mp ((group_eq hkey hfields _).symm.trans hrow)
    obtain ⟨one, -, hone⟩ := exists_of_mapM hpart (List.mem_filter.mpr ⟨hd, hequals⟩)
    exact ⟨one, hone⟩
  have hgroup := group_eq_ok comparable hkey hfields h hbrought
  have hunique : Relator.RightUnique fun (first : Value) row =>
      group spec (documents.filter fun d => first.equals (keyOf key d)) = .ok [row] := by
    intro first row row' hrow hrow'
    exact List.head_eq_of_cons_eq (Except.ok.inj (hrow.symm.trans hrow'))
  rw [hgroup, List.right_unique_forall₂' hunique hparts (hforward _ hgroup)]

end Comparable

end DataGrid.Store.Grouping
