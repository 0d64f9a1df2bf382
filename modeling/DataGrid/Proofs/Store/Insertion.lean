import DataGrid.Store.StableSort

/-!
# DataGrid.Proofs.Store.Insertion -- inserting rearranges and looks at nothing else

Inserting one by one rearranges: no item is lost and none is doubled. Which place an
item takes depends on comparisons alone, so sorting what a map gives is sorting by the
comparison of what it gives.
-/

namespace DataGrid.Store.Sorting

variable {α β : Type}

/-! ## Nothing is lost -/

theorem insertBehind_perm (precedes : α → α → Bool) (item : α) (items : List α) :
    (insertBehind precedes item items).Perm (item :: items) := by
  induction items with
  | nil => exact List.Perm.refl _
  | cons last before ih =>
    rw [insertBehind]
    split
    · exact (ih.cons last).trans (List.Perm.swap item last before)
    · exact List.Perm.refl _

/-- Items are inserted into what is sorted so far. -/
theorem foldl_insertBehind_perm (precedes : α → α → Bool) (items sorted : List α) :
    (items.foldl (fun sorted item => insertBehind precedes item sorted) sorted).Perm
      (items ++ sorted) := by
  induction items generalizing sorted with
  | nil => exact List.Perm.refl _
  | cons item rest ih =>
    rw [List.foldl_cons, List.cons_append]
    refine (ih _).trans ?_
    refine ((insertBehind_perm precedes item sorted).append_left rest).trans ?_
    exact List.perm_middle

theorem sortBy_perm (precedes : α → α → Bool) (items : List α) :
    (sortBy precedes items).Perm items := by
  have h := foldl_insertBehind_perm precedes items []
  rw [List.append_nil] at h
  exact (List.reverse_perm _).trans h

/-! ## Only comparisons count -/

theorem insertBehind_map (precedes : β → β → Bool) (f : α → β) (item : α) (items : List α) :
    insertBehind precedes (f item) (items.map f) =
      (insertBehind (fun a b => precedes (f a) (f b)) item items).map f := by
  induction items with
  | nil => rfl
  | cons last before ih =>
    rw [List.map_cons, insertBehind, insertBehind, ih]
    split <;> rfl

theorem sortBy_map (precedes : β → β → Bool) (f : α → β) (items : List α) :
    sortBy precedes (items.map f) =
      (sortBy (fun a b => precedes (f a) (f b)) items).map f := by
  -- what is sorted so far is an image too, which the induction carries along
  have step : ∀ sorted : List α,
      (items.map f).foldl (fun sorted item => insertBehind precedes item sorted) (sorted.map f) =
        (items.foldl (fun sorted item =>
          insertBehind (fun a b => precedes (f a) (f b)) item sorted) sorted).map f := by
    induction items with
    | nil => exact fun _ => rfl
    | cons item rest ih =>
      intro sorted
      rw [List.map_cons, List.foldl_cons, List.foldl_cons, insertBehind_map, ih]
  rw [sortBy, sortBy, List.map_reverse]
  exact congrArg List.reverse (step [])

end DataGrid.Store.Sorting
