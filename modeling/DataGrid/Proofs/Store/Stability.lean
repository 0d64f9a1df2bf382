import DataGrid.Proofs.Store.Insertion
import Mathlib.Order.Compare

/-!
# DataGrid.Proofs.Store.Stability -- sorting is stable

For a comparison that is a total order up to ties, items that are inserted one by one stand
sorted, and of two that tie the one that was in front stays in front. Marked with its position
an item has no double, so this says which list comes out: there is only one. That sorting by
several keys is sorting by one after the other, the last first, and that the opposite order
turns the list around are two readings of it.
-/

namespace DataGrid.Store.Sorting

open Std

variable {α : Type}

/-- Of two items the first belongs in front: it precedes, or both tie and it was in front. -/
def Before (cmp : α → α → Ordering) (first : α → α → Prop) (a b : α) : Prop :=
  cmp a b = .lt ∨ (cmp a b = .eq ∧ first a b)

/-! ## Insertion keeps the order -/

section Insertion

variable {cmp : α → α → Ordering} [TransCmp cmp] {first : α → α → Prop}

/-- Inserts into a sorted list, in reverse, an item that comes after all of its items. -/
theorem pairwise_insertBehind {item : α} {sorted : List α}
    (hsorted : sorted.Pairwise fun b a => Before cmp first a b)
    (hfirst : ∀ a ∈ sorted, first a item) :
    (insertBehind (fun a b => (cmp a b).isLT) item sorted).Pairwise
      fun b a => Before cmp first a b := by
  induction sorted with
  | nil => exact List.pairwise_singleton _ item
  | cons last before ih =>
    obtain ⟨hlast, hbefore⟩ := List.pairwise_cons.mp hsorted
    rw [insertBehind]
    split
    · next hlt =>
      -- the item goes further to the front, and all that it meets there is in front of `last`
      refine List.pairwise_cons.mpr ⟨fun a ha => ?_, ih hbefore fun a ha =>
        hfirst a (List.mem_cons_of_mem _ ha)⟩
      rcases List.mem_cons.mp ((insertBehind_perm _ item before).mem_iff.mp ha) with rfl | ha
      · exact .inl (Ordering.isLT_iff_eq_lt.mp hlt)
      · exact hlast a ha
    · next hnot =>
      have hswap : cmp last item = (cmp item last).swap := OrientedCmp.eq_swap
      have hle : (cmp last item).isLE = true := by
        rw [hswap]
        cases hcmp : cmp item last with
        | lt => rw [hcmp] at hnot; exact absurd rfl hnot
        | eq => rfl
        | gt => rfl
      refine List.pairwise_cons.mpr ⟨fun a ha => ?_, hsorted⟩
      have hale : (cmp a item).isLE = true := by
        rcases List.mem_cons.mp ha with rfl | hbefore
        · exact hle
        · refine TransCmp.isLE_trans ?_ hle
          rcases hlast a hbefore with h | ⟨h, -⟩ <;> rw [h] <;> rfl
      rcases Ordering.isLE_iff_eq_lt_or_eq_eq.mp hale with hlt | heq
      · exact .inl hlt
      · exact .inr ⟨heq, hfirst a ha⟩

/-- Inserts item after item; the items that wait come after those that are sorted. -/
theorem pairwise_foldl_insertBehind {items sorted : List α} (hitems : items.Pairwise first)
    (hsorted : sorted.Pairwise fun b a => Before cmp first a b)
    (hfirst : ∀ a ∈ sorted, ∀ b ∈ items, first a b) :
    (items.foldl (fun sorted item => insertBehind (fun a b => (cmp a b).isLT) item sorted)
      sorted).Pairwise fun b a => Before cmp first a b := by
  induction items generalizing sorted with
  | nil => exact hsorted
  | cons item rest ih =>
    obtain ⟨hitem, hrest⟩ := List.pairwise_cons.mp hitems
    refine ih hrest (pairwise_insertBehind hsorted fun a ha => hfirst a ha item (by simp)) ?_
    intro a ha b hb
    rcases List.mem_cons.mp ((insertBehind_perm _ item sorted).mem_iff.mp ha) with rfl | ha
    · exact hitem b hb
    · exact hfirst a ha b (List.mem_cons_of_mem _ hb)

variable (cmp) in
theorem pairwise_sortBy {items : List α} (h : items.Pairwise first) :
    (sortBy (fun a b => (cmp a b).isLT) items).Pairwise (Before cmp first) :=
  List.pairwise_reverse.mpr (pairwise_foldl_insertBehind h .nil fun _ ha => nomatch ha)

end Insertion

/-! ## Items with their positions -/

/-- The list has the items in another order, and any two of them, with the positions that they
had, are related. -/
def Arranged (related : α × Nat → α × Nat → Prop) (items arranged : List α) : Prop :=
  ∃ marked : List (α × Nat), marked.Perm items.zipIdx ∧ marked.map Prod.fst = arranged ∧
    marked.Pairwise related

theorem Arranged.imp {related other : α × Nat → α × Nat → Prop} {items arranged : List α}
    (h : Arranged related items arranged)
    (himp : ∀ a ∈ items.zipIdx, ∀ b ∈ items.zipIdx, related a b → other a b) :
    Arranged other items arranged := by
  obtain ⟨marked, hperm, hmap, hpair⟩ := h
  exact ⟨marked, hperm, hmap, hpair.imp_of_mem fun ha hb =>
    himp _ (hperm.mem_iff.mp ha) _ (hperm.mem_iff.mp hb)⟩

theorem pairwise_zipIdx (items : List α) : items.zipIdx.Pairwise fun a b => a.2 < b.2 := by
  have h : (items.zipIdx.map Prod.snd).Pairwise (· < ·) := by
    rw [List.zipIdx_map_snd]
    exact List.pairwise_lt_range'
  exact List.pairwise_map.mp h

section Positions

/-- The order of marked items: by comparison, and by position where that ties. -/
def Behind (cmp : α → α → Ordering) (a b : α × Nat) : Prop :=
  cmp a.1 b.1 = .lt ∨ (cmp a.1 b.1 = .eq ∧ a.2 < b.2)

variable (cmp : α → α → Ordering) [TransCmp cmp]

theorem transCmp_of {β : Type} (f : β → α) : TransCmp fun a b => cmp (f a) (f b) where
  eq_swap {a b} := @OrientedCmp.eq_swap α cmp _ (f a) (f b)
  isLE_trans {a b c} := @TransCmp.isLE_trans α cmp _ (f a) (f b) (f c)

instance instTransCmpMarked : TransCmp fun a b : α × Nat => cmp a.1 b.1 := transCmp_of cmp Prod.fst

theorem arranged_sortBy (items : List α) :
    Arranged (Behind cmp) items (sortBy (fun a b => (cmp a b).isLT) items) := by
  have hpair := pairwise_sortBy (fun a b : α × Nat => cmp a.1 b.1) (pairwise_zipIdx items)
  refine ⟨_, sortBy_perm _ _, ?_, hpair⟩
  rw [← sortBy_map (fun a b => (cmp a b).isLT), List.zipIdx_map_fst]

variable {cmp}

theorem not_behind_behind {a b : α × Nat} (hab : Behind cmp a b) : ¬ Behind cmp b a := by
  have hswap : cmp b.1 a.1 = (cmp a.1 b.1).swap := OrientedCmp.eq_swap
  rintro (hba | ⟨hba, hlt'⟩)
  · rcases hab with h | ⟨h, -⟩ <;> rw [hba, h] at hswap <;> cases hswap
  · rcases hab with h | ⟨-, hlt⟩
    · rw [hba, h] at hswap
      cases hswap
    · exact Nat.lt_asymm hlt hlt'

/-- There is one list in which the items are sorted and stay in order where they tie. -/
theorem Arranged.eq_sortBy {items arranged : List α} (h : Arranged (Behind cmp) items arranged) :
    arranged = sortBy (fun a b => (cmp a b).isLT) items := by
  obtain ⟨marked, hperm, rfl, hpair⟩ := h
  obtain ⟨marked', hperm', hmap', hpair'⟩ := arranged_sortBy cmp items
  rw [← hmap', (hperm.trans hperm'.symm).eq_of_pairwise
    (fun _ _ _ _ hab hba => absurd hba (not_behind_behind hab)) hpair hpair']

/-! ## No key, several keys, and the opposite order -/

/-- Where all items tie, nothing moves. -/
theorem sortBy_tied (items : List α) : sortBy (fun _ _ => false) items = items := by
  have htrans : TransCmp fun _ _ : α => Ordering.eq :=
    { eq_swap := rfl, isLE_trans := fun _ _ => rfl }
  have harranged : Arranged (Behind fun _ _ => .eq) items items :=
    ⟨items.zipIdx, .refl _, List.zipIdx_map_fst 0 items,
      (pairwise_zipIdx items).imp fun h => .inr ⟨rfl, h⟩⟩
  exact harranged.eq_sortBy.symm

/-- Sorting by two keys is sorting by the second one and then by the first. -/
theorem sortBy_sortBy {cmp' : α → α → Ordering} [TransCmp cmp'] (items : List α) :
    sortBy (fun a b => (cmp a b).isLT) (sortBy (fun a b => (cmp' a b).isLT) items) =
      sortBy (fun a b => (compareLex cmp cmp' a b).isLT) items := by
  obtain ⟨marked, hperm, hmap, hpair⟩ := arranged_sortBy cmp' items
  refine Arranged.eq_sortBy ⟨sortBy (fun a b => (cmp a.1 b.1).isLT) marked,
    (sortBy_perm _ _).trans hperm, ?_, ?_⟩
  · rw [← sortBy_map (fun a b => (cmp a b).isLT), hmap]
  · refine (pairwise_sortBy (fun a b => cmp a.1 b.1) hpair).imp ?_
    rintro a b (h | ⟨h, hbehind⟩)
    · have hlt : cmp a.1 b.1 = .lt := h
      exact .inl (by rw [compareLex, hlt]; rfl)
    · have heq : cmp a.1 b.1 = .eq := h
      rw [Behind, compareLex, heq]
      exact hbehind

/-- Without ties the opposite order turns the list around. -/
theorem sortBy_opposite {items : List α} (h : items.Pairwise fun a b => cmp a b ≠ .eq) :
    sortBy (fun a b => (cmp b a).isLT) items =
      (sortBy (fun a b => (cmp a b).isLT) items).reverse := by
  have hsymm : ∀ {a b}, cmp a b ≠ .eq → cmp b a ≠ .eq := fun hab hba =>
    hab (OrientedCmp.eq_comm.mp hba)
  -- both lists are strictly sorted
  have hstrict : ∀ (order : α → α → Ordering) [TransCmp order],
      items.Pairwise (fun a b => order a b ≠ .eq) →
      (sortBy (fun a b => (order a b).isLT) items).Pairwise fun a b => order a b = .lt := by
    intro order _ hne
    refine (pairwise_sortBy order hne).imp ?_
    rintro a b (hlt | ⟨heq, hab⟩)
    · exact hlt
    · exact absurd heq hab
  have hopposite := hstrict (fun a b => cmp b a) (h.imp hsymm)
  have hreverse := List.pairwise_reverse.mpr (hstrict cmp h)
  refine List.Perm.eq_of_pairwise (fun a b _ _ hba hab => ?_) hopposite hreverse ?_
  · have hswap : cmp a b = (cmp b a).swap := OrientedCmp.eq_swap
    rw [hab, hba] at hswap
    cases hswap
  · exact (sortBy_perm _ _).trans ((sortBy_perm _ _).symm.trans (List.reverse_perm _).symm)

end Positions

end DataGrid.Store.Sorting
