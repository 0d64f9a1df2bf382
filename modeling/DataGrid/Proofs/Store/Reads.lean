import DataGrid.Proofs.Store.Matching
import DataGrid.Proofs.Store.Sorting

/-!
# DataGrid.Proofs.Store.Reads -- what filters and sort keys see of a document

A filter reads some paths only when documents that agree on those paths satisfy it alike,
failures included. Filters for one field read that field, and conjunctions and disjunctions
read what their parts read. Two lists of documents whose members agree place by place then
keep the same places under selection and take the same order under sorting.
-/

namespace DataGrid

open Fallible Store

/-- Two documents have the same values under some paths. -/
def Document.AgreeOn (listed : String → Prop) (d d' : Document) : Prop :=
  ∀ path, listed path → d.lookupText path = d'.lookupText path

namespace Store.Matcher

/-- A filter sees nothing of a document but some paths. -/
def Reads (listed : String → Prop) (spec : Document) : Prop :=
  ∀ index d d', Document.AgreeOn listed d d' → filter index d spec = filter index d' spec

variable {listed : String → Prop}

theorem reads_nil (listed : String → Prop) : Reads listed [] := by
  intro index d d' _
  rw [filter_nil, filter_nil]

/-- A clause whose key is a field reads that field. One whose key is an operator fails before
it has seen the document. -/
theorem reads_field {field : String} {fields : Document} (hfield : listed field)
    (hsearch : Keyed.get? fields "$search" = none) :
    Reads listed [(field, .document fields)] := by
  intro index d d' h
  rw [filter_single, filter_single]
  unfold clause
  -- under the name of an operator the condition is no list of filters and no search, so it is
  -- refused without a look at the document
  split
  · simp only [clauses]
  · simp only [clauses]
  · simp only [clauses]
  · simp only [searchText, hsearch]
  · rw [h _ hfield]

theorem reads_and {filters : List Document} (h : ∀ filter ∈ filters, Reads listed filter) :
    Reads listed (Compile.combine "$and" filters) := by
  intro index d d' hd
  rw [filter_and, filter_and]
  exact allM_congr fun filter hfilter => h filter hfilter index d d' hd

theorem reads_or {filters : List Document} (h : ∀ filter ∈ filters, Reads listed filter) :
    Reads listed (Compile.combine "$or" filters) := by
  intro index d d' hd
  rw [filter_or, filter_or]
  exact anyM_congr fun filter hfilter => h filter hfilter index d d' hd

/-! ## Compiled conditions -/

theorem reads_compare {field operator : String} (hfield : listed field)
    (hoperator : "$search" ≠ operator) (value : Value) :
    Reads listed (Compile.compare field operator value) := by
  refine reads_field hfield ?_
  rw [Keyed.get?_cons, if_neg hoperator]
  rfl

theorem reads_likeCondition {field : String} (hfield : listed field) (value : Value)
    (mode : Compile.LikeMode) : Reads listed (Compile.likeCondition field value mode) :=
  reads_field hfield rfl

theorem reads_equality {field : String} (hfield : listed field) (values : List Value) :
    Reads listed (Compile.equality field values) := by
  unfold Compile.equality
  split
  · exact reads_compare hfield (by decide) _
  · exact reads_compare hfield (by decide) _
  · exact reads_compare hfield (by decide) _

theorem reads_inequality {field : String} (hfield : listed field) (values : List Value) :
    Reads listed (Compile.inequality field values) := by
  unfold Compile.inequality
  split
  · exact reads_compare hfield (by decide) _
  · exact reads_compare hfield (by decide) _
  · exact reads_compare hfield (by decide) _

/-- By cases on the operator: every condition reads its field. -/
theorem reads_condition {field : String} (hfield : listed field) (operator : Option Operator)
    (values : List Value) : Reads listed (Compile.condition field operator values) := by
  have hcompare : ∀ operator, "$search" ≠ operator → ∀ value,
      Reads listed (Compile.compare field operator value) :=
    fun _ hoperator value => reads_compare hfield hoperator value
  have hpair : ∀ first second : Document, Reads listed first → Reads listed second →
      ∀ filter ∈ [first, second], Reads listed filter := by
    intro first second hfirst hsecond filter hfilter
    rcases List.mem_cons.mp hfilter with rfl | hfilter
    · exact hfirst
    · rwa [List.mem_singleton.mp hfilter]
  unfold Compile.condition
  rcases operator with _ | operator
  · exact hcompare _ (by decide) _
  cases operator with
  | eq => exact reads_equality hfield values
  | inList => exact reads_equality hfield values
  | neq => exact reads_inequality hfield values
  | notInList => exact reads_inequality hfield values
  | gt => exact hcompare _ (by decide) _
  | gte => exact hcompare _ (by decide) _
  | lt => exact hcompare _ (by decide) _
  | lte => exact hcompare _ (by decide) _
  | notEmpty =>
    exact reads_and (hpair _ _ (hcompare _ (by decide) _) (hcompare _ (by decide) _))
  | empty =>
    exact reads_or (hpair _ _ (hcompare _ (by decide) _) (hcompare _ (by decide) _))
  | like => exact reads_likeCondition hfield _ _
  | starts => exact reads_likeCondition hfield _ _
  | ends => exact reads_likeCondition hfield _ _
  | between =>
    dsimp only
    split
    · exact reads_field hfield rfl
    · exact hcompare _ (by decide) _
  | notBetween =>
    dsimp only
    split
    · exact reads_or (hpair _ _ (hcompare _ (by decide) _) (hcompare _ (by decide) _))
    · exact hcompare _ (by decide) _
  | exist => exact hcompare _ (by decide) _
  | notExist => exact hcompare _ (by decide) _
  | other => exact hcompare _ (by decide) _

end Store.Matcher

/-! ## Places -/

section Places

variable {α : Type} {f g : α → Document}

/-- Selecting from two lists that a filter cannot tell apart keeps the same places. -/
theorem Store.Matcher.select_map (index : TextIndex) {spec : Document}
    (agree : ∀ a, filter index (f a) spec = filter index (g a) spec) (items : List α) :
    (∃ e, select index spec (items.map f) = .error e ∧
      select index spec (items.map g) = .error e) ∨
    ∃ kept : List α, kept.Sublist items ∧ select index spec (items.map f) = .ok (kept.map f) ∧
      select index spec (items.map g) = .ok (kept.map g) := by
  induction items with
  | nil => exact .inr ⟨[], List.Sublist.refl _, rfl, rfl⟩
  | cons a rest ih =>
    -- a failure at this place comes before any failure of the rest, in both lists
    rw [List.map_cons, List.map_cons, select, select, agree a]
    rcases filter index (g a) spec with e | holds
    · exact .inl ⟨e, rfl, rfl⟩
    rcases ih with ⟨e, hf, hg⟩ | ⟨kept, hkept, hf, hg⟩
    · rw [hf, hg]
      exact .inl ⟨e, rfl, rfl⟩
    · rw [hf, hg]
      cases holds with
      | true => exact .inr ⟨a :: kept, hkept.cons_cons a, rfl, rfl⟩
      | false => exact .inr ⟨kept, hkept.cons a, rfl, rfl⟩

/-- Keys on some paths order documents alike when they agree on those paths. -/
theorem Store.Sorting.compareAll_congr {listed : String → Prop} {keys : List Sorting.Key}
    (hkeys : ∀ key ∈ keys, ∃ path, listed path ∧ key.path = Path.ofText path)
    {a a' b b' : Document} (ha : Document.AgreeOn listed a a')
    (hb : Document.AgreeOn listed b b') :
    Sorting.compareAll keys a b = Sorting.compareAll keys a' b' := by
  induction keys with
  | nil => rfl
  | cons key rest ih =>
    obtain ⟨⟨path, hpath, hkey⟩, hrest⟩ := List.forall_mem_cons.mp hkeys
    have hfirst : Sorting.compareBy key a b = Sorting.compareBy key a' b' := by
      have hla : Document.lookup a key.path = Document.lookup a' key.path := by
        rw [hkey]
        exact ha path hpath
      have hlb : Document.lookup b key.path = Document.lookup b' key.path := by
        rw [hkey]
        exact hb path hpath
      rw [Sorting.compareBy, Sorting.compareBy, hla, hlb]
    rw [Sorting.compareAll, Sorting.compareAll, hfirst, ih hrest]

/-- Sorting two lists that the keys cannot tell apart takes the same order, or gives up on both. -/
theorem Store.Sorting.sort_map {spec : Document} {keys : List Sorting.Key}
    (hkeys : Sorting.keys spec = .ok keys)
    (agree : ∀ a b, Sorting.compareAll keys (f a) (f b) = Sorting.compareAll keys (g a) (g b))
    (items : List α) :
    (∃ e, Sorting.sort spec (items.map f) = .error e ∧
      Sorting.sort spec (items.map g) = .error e) ∨
    ∃ sorted : List α, sorted.Perm items ∧
      Sorting.sort spec (items.map f) = .ok (sorted.map f) ∧
      Sorting.sort spec (items.map g) = .ok (sorted.map g) := by
  simp only [Sorting.sort_eq, hkeys, ok_bind, Sorting.sortByKeys, Sorting.sortBy?_map, agree]
  cases h : Sorting.sortBy? (fun a b => (Sorting.compareAll keys (g a) (g b)).isLT) items with
  | none => exact .inl ⟨.inconsistentOrder, rfl, rfl⟩
  | some sorted => exact .inr ⟨sorted, Sorting.sortBy?_perm h, rfl, rfl⟩

end Places

end DataGrid
