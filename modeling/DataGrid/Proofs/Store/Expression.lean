import DataGrid.Store.Expression
import DataGrid.Proofs.Document.Lookup
import DataGrid.Proofs.Document.Sameness
import DataGrid.Proofs.Fallible

/-!
# DataGrid.Proofs.Store.Expression -- computed values are well formed

What an expression computes is a part of the document or of the expression, or is put together
from such parts, and a document that is put together has every key once. So the keys of a computed
value are distinct at every depth if those of the document and of the expression are.
-/

namespace DataGrid

open Fallible

/-! ## What a path finds -/

theorem Document.within_of_lookup {d : Document} {path : Path} {v : Value}
    (h : lookup d path = some v) : Value.Within v (.document d) := by
  fun_induction lookup d path with
  | case1 => cases h
  | case2 d key => exact .deeper (Value.mem_children_of_field (Keyed.mem_of_get? h)) (.refl v)
  | case3 d key rest _ fields hfields ih =>
    exact .deeper (Value.mem_children_of_field (Keyed.mem_of_get? hfields)) (ih h)
  | case4 => cases h

namespace Store.Expression

open Value

/-! ## Parts of an expression -/

section Parts

variable {d : Document}

theorem wellKeyed_of_fields {entries : List (String × Value)}
    (h : ∀ entry ∈ entries, ∀ v, evaluate d entry.2 = .ok (some v) → WellKeyed v)
    {computed : List (String × Value)} (hcomputed : fields d entries = .ok computed) :
    ∀ entry ∈ computed, WellKeyed entry.2 := by
  induction entries generalizing computed with
  | nil =>
    rw [fields] at hcomputed
    obtain rfl := Except.ok.inj hcomputed
    exact List.forall_mem_nil _
  | cons entry rest ih =>
    obtain ⟨hentry, hrest⟩ := List.forall_mem_cons.mp h
    rw [fields] at hcomputed
    obtain ⟨first, hfirst, hcomputed⟩ := bind_eq_ok.mp hcomputed
    obtain ⟨others, hothers, hcomputed⟩ := bind_eq_ok.mp hcomputed
    obtain rfl := Except.ok.inj hcomputed
    cases first with
    | none => exact ih hrest hothers
    | some v => exact List.forall_mem_cons.mpr ⟨hentry v hfirst, ih hrest hothers⟩

theorem wellKeyed_getD {first : Option Value} (h : ∀ v, first = some v → WellKeyed v) :
    WellKeyed (first.getD .null) := by
  cases first with
  | none => exact (everywhere_scalar rfl).mpr trivial
  | some v => exact h v rfl

theorem wellKeyed_of_evaluateItems {items : List Value}
    (h : ∀ item ∈ items, ∀ v, evaluate d item = .ok (some v) → WellKeyed v)
    {computed : List Value} (hcomputed : evaluateItems d items = .ok computed) :
    ∀ item ∈ computed, WellKeyed item := by
  induction items generalizing computed with
  | nil =>
    rw [evaluateItems] at hcomputed
    obtain rfl := Except.ok.inj hcomputed
    exact List.forall_mem_nil _
  | cons item rest ih =>
    obtain ⟨hitem, hrest⟩ := List.forall_mem_cons.mp h
    rw [evaluateItems] at hcomputed
    obtain ⟨first, hfirst, hcomputed⟩ := bind_eq_ok.mp hcomputed
    obtain ⟨others, hothers, hcomputed⟩ := bind_eq_ok.mp hcomputed
    obtain rfl := Except.ok.inj hcomputed
    exact List.forall_mem_cons.mpr
      ⟨wellKeyed_getD fun v hv => hitem v (hv ▸ hfirst), ih hrest hothers⟩

theorem wellKeyed_of_firstPresent {items : List Value}
    (h : ∀ item ∈ items, ∀ v, evaluate d item = .ok (some v) → WellKeyed v)
    {v : Value} (hv : firstPresent d items = .ok v) : WellKeyed v := by
  induction items with
  | nil =>
    rw [firstPresent] at hv
    obtain rfl := Except.ok.inj hv
    exact (everywhere_scalar rfl).mpr trivial
  | cons item rest ih =>
    obtain ⟨hitem, hrest⟩ := List.forall_mem_cons.mp h
    rw [firstPresent] at hv
    obtain ⟨first, hfirst, hv⟩ := bind_eq_ok.mp hv
    split at hv
    · exact ih hrest hv
    · exact ih hrest hv
    · obtain rfl := Except.ok.inj hv
      exact hitem _ hfirst

theorem concat_cases {items : List Value} {joined : String} {v : Value}
    (hv : concat d joined items = .ok v) : v = .null ∨ ∃ text, v = .string text := by
  induction items generalizing joined with
  | nil =>
    rw [concat] at hv
    exact .inr ⟨joined, (Except.ok.inj hv).symm⟩
  | cons item rest ih =>
    rw [concat] at hv
    obtain ⟨first, -, hv⟩ := bind_eq_ok.mp hv
    split at hv
    · exact ih hv
    · exact .inl (Except.ok.inj hv).symm
    · exact .inl (Except.ok.inj hv).symm
    · cases hv

theorem wellKeyed_of_apply {e : Value} (he : WellKeyed e)
    (h : ∀ items, e = .array items →
      ∀ item ∈ items, ∀ v, evaluate d item = .ok (some v) → WellKeyed v)
    {operator : String} {v : Value} (hv : apply d operator e = .ok v) : WellKeyed v := by
  unfold apply at hv
  split at hv
  · obtain rfl := Except.ok.inj hv
    exact he
  · obtain ⟨text, -, hv⟩ := bind_eq_ok.mp hv
    obtain rfl := Except.ok.inj hv
    exact (everywhere_scalar rfl).mpr trivial
  · obtain ⟨text, -, hv⟩ := bind_eq_ok.mp hv
    obtain rfl := Except.ok.inj hv
    exact (everywhere_scalar rfl).mpr trivial
  · split at hv
    · next items => exact wellKeyed_of_firstPresent (h items rfl) hv
    · cases hv
  · split at hv
    · rcases concat_cases hv with rfl | ⟨text, rfl⟩ <;> exact (everywhere_scalar rfl).mpr trivial
    · cases hv
  · cases hv

end Parts

/-! ## Expressions -/

/-- By induction over what the expression is made of; an operator looks at the items of its
argument, so it goes along with expressions. -/
theorem wellKeyed_of_computed {d : Document} (hd : WellKeyed (.document d)) {e : Value}
    (he : WellKeyed e) :
    (∀ v, evaluate d e = .ok (some v) → WellKeyed v) ∧
      ∀ operator v, apply d operator e = .ok v → WellKeyed v := by
  induction e using nested_induction with
  | step e ih =>
    have hparts : ∀ part ∈ e.children, ∀ v, evaluate d part = .ok (some v) → WellKeyed v :=
      fun part hpart => (ih part hpart (he.child hpart)).1
    constructor
    · intro v hv
      unfold evaluate at hv
      split at hv
      · split at hv
        · exact hd.of_within (Document.within_of_lookup (Except.ok.inj hv))
        · obtain rfl := Option.some.inj (Except.ok.inj hv)
          exact he
      · obtain rfl := Option.some.inj (Except.ok.inj hv)
        exact he
      · next key argument rest =>
        split at hv
        · obtain ⟨result, hresult, hv⟩ := map_eq_ok.mp hv
          obtain rfl := Option.some.inj hv
          have hargument : argument ∈ (Value.document ((key, argument) :: rest)).children :=
            List.mem_cons_self
          exact (ih argument hargument (he.child hargument)).2 key _ hresult
        · obtain ⟨first, hfirst, hv⟩ := bind_eq_ok.mp hv
          obtain ⟨others, hothers, hv⟩ := bind_eq_ok.mp hv
          obtain rfl := Option.some.inj (Except.ok.inj hv)
          obtain ⟨hargument, hrest⟩ := List.forall_mem_cons.mp (List.forall_mem_map.mp hparts)
          have hentries := wellKeyed_of_fields hrest hothers
          refine wellKeyed_ofEntries ?_
          cases first with
          | none => exact hentries
          | some v => exact List.forall_mem_cons.mpr ⟨hargument v hfirst, hentries⟩
      · obtain ⟨items, hitems, hv⟩ := bind_eq_ok.mp hv
        obtain rfl := Option.some.inj (Except.ok.inj hv)
        exact wellKeyed_array.mpr (wellKeyed_of_evaluateItems hparts hitems)
      · obtain rfl := Option.some.inj (Except.ok.inj hv)
        exact he
    · intro operator v hv
      refine wellKeyed_of_apply he ?_ hv
      rintro items rfl
      exact hparts

theorem wellKeyed_of_evaluate {d : Document} (hd : WellKeyed (.document d)) {e : Value}
    (he : WellKeyed e) {v : Value} (hv : evaluate d e = .ok (some v)) : WellKeyed v :=
  (wellKeyed_of_computed hd he).1 v hv

end Store.Expression
end DataGrid
