import DataGrid.Proofs.Store.Stability

/-!
# DataGrid.Proofs.Store.Merging -- merging and sorting few items

Positions are in order when of any two the one whose item precedes is in front, and the smaller
one where the items tie. If the comparison is consistent this is a strict total order, so a list
of positions that is in order is determined by its members.

A merge takes the front of what is left until one side is used up. Merging from both sides takes
the front half and the back half of the same list, so the two sides meet; if they do not, the
comparison has contradicted itself.
-/

namespace DataGrid.Store.Sorting

open Std

/-! ## Order of positions -/

section Order

variable (less : Nat → Nat → Bool)

/-- The comparison is that of a total order up to ties. -/
def Consistent : Prop :=
  ∃ cmp : Nat → Nat → Ordering, TransCmp cmp ∧ ∀ i j, less i j = (cmp i j).isLT

/-- The first position belongs in front: its item precedes, or neither does and it is smaller. -/
def InFront (i j : Nat) : Prop := less i j = true ∨ (less j i = false ∧ i < j)

/-- The positions are in order. -/
def InOrder (positions : List Nat) : Prop := positions.Pairwise (InFront less)

variable {less}

theorem Consistent.not_less (h : Consistent less) {i j : Nat} (hij : less i j = true) :
    less j i = false := by
  obtain ⟨cmp, htrans, hless⟩ := h
  have hswap : cmp j i = (cmp i j).swap := OrientedCmp.eq_swap
  rw [hless] at hij ⊢
  rw [hswap, Ordering.isLT_iff_eq_lt.mp hij]
  rfl

theorem Consistent.irrefl (h : Consistent less) (i : Nat) : less i i = false := by
  cases hii : less i i with
  | false => rfl
  | true => exact hii.symm.trans (h.not_less hii)

theorem Consistent.not_less_trans (h : Consistent less) {i j k : Nat} (hji : less j i = false)
    (hkj : less k j = false) : less k i = false := by
  obtain ⟨cmp, htrans, hless⟩ := h
  have hnot : ∀ {a b}, (cmp b a).isLT = false ↔ (cmp a b).isLE = true := by
    intro a b
    have hswap : cmp b a = (cmp a b).swap := OrientedCmp.eq_swap
    rw [hswap]
    cases cmp a b <;> simp
  rw [hless, hnot] at hji hkj ⊢
  exact TransCmp.isLE_trans hji hkj

theorem InFront.asymm (h : Consistent less) {i j : Nat} (hij : InFront less i j) :
    ¬ InFront less j i := by
  rintro (hji | ⟨hij', hlt'⟩)
  · rcases hij with hij | ⟨hji', -⟩
    · exact absurd hji (by simp [h.not_less hij])
    · exact absurd hji (by simp [hji'])
  · rcases hij with hij | ⟨-, hlt⟩
    · exact absurd hij (by simp [hij'])
    · omega

theorem InFront.not_less (h : Consistent less) {i j : Nat} (hij : InFront less i j) :
    less j i = false := by
  rcases hij with hij | ⟨hji, -⟩
  · exact h.not_less hij
  · exact hji

theorem InFront.trans (h : Consistent less) {i j k : Nat} (hij : InFront less i j)
    (hjk : InFront less j k) : InFront less i k := by
  cases hik : less i k with
  | true => exact .inl hik
  | false =>
    -- all three tie, and the positions decide
    rcases hij with hij | ⟨hji, hlt⟩
    · exact absurd hij (by simp [h.not_less_trans (hjk.not_less h) hik])
    · rcases hjk with hjk | ⟨hkj, hlt'⟩
      · exact absurd hjk (by simp [h.not_less_trans hik hji])
      · exact .inr ⟨h.not_less_trans hji hkj, Nat.lt_trans hlt hlt'⟩

theorem inFront_iff_before (cmp : Nat → Nat → Ordering) [TransCmp cmp] {i j : Nat} :
    InFront (fun i j => (cmp i j).isLT) i j ↔ Before cmp (· < ·) i j := by
  have hswap : cmp j i = (cmp i j).swap := OrientedCmp.eq_swap
  simp only [InFront, Before, hswap]
  cases cmp i j <;> simp

end Order

/-! ## What is asked of a sort -/

section Sorts

variable (less : Nat → Nat → Bool)

/-- The same positions, and in order if the comparison is consistent. -/
structure Sorts (positions sorted : List Nat) : Prop where
  perm : sorted.Perm positions
  inOrder : Consistent less → InOrder less sorted

/-- Whatever comes out is as wanted, and something comes out if the comparison is consistent. -/
structure Yields {α : Type} (wanted : α → Prop) (result : Option α) : Prop where
  wanted : ∀ a, result = some a → wanted a
  total : Consistent less → result.isSome = true

variable {less} {α β : Type} {wanted : α → Prop} {wanted' : β → Prop}

theorem Yields.pure {a : α} (h : wanted a) : Yields less wanted (some a) :=
  ⟨fun _ heq => Option.some.inj heq ▸ h, fun _ => rfl⟩

theorem Yields.bind {result : Option α} {next : α → Option β} (h : Yields less wanted result)
    (hnext : ∀ a, wanted a → Yields less wanted' (next a)) :
    Yields less wanted' (result >>= next) := by
  refine ⟨fun b hb => ?_, fun consistent => ?_⟩
  · obtain ⟨a, ha, hb⟩ := Option.bind_eq_some_iff.mp hb
    exact (hnext a (h.wanted a ha)).wanted b hb
  · obtain ⟨a, ha⟩ := Option.isSome_iff_exists.mp (h.total consistent)
    rw [ha]
    exact (hnext a (h.wanted a ha)).total consistent

theorem Yields.map {result : Option α} {f : α → β} (h : Yields less wanted result)
    (hf : ∀ a, wanted a → wanted' (f a)) : Yields less wanted' (result.map f) := by
  rw [Option.map_eq_bind]
  exact h.bind fun a ha => .pure (hf a ha)

end Sorts

/-! ## Merging from one end -/

section Merge

variable {left right : List Nat}

/-- Merges two ordered lists by comparing their first items. -/
theorem pairwise_merge (rel : Nat → Nat → Prop) {le : Nat → Nat → Bool}
    (trans : ∀ {a b c}, rel a b → rel b c → rel a c)
    (hleft : left.Pairwise rel) (hright : right.Pairwise rel)
    (hle : ∀ l ∈ left, ∀ r ∈ right, if le l r then rel l r else rel r l) :
    (left.merge right le).Pairwise rel := by
  fun_induction List.merge left right le with
  | case1 right => exact hright
  | case2 left => exact hleft
  | case3 l left r right hlr ih =>
    obtain ⟨hl, hleft'⟩ := List.pairwise_cons.mp hleft
    obtain ⟨hr, -⟩ := List.pairwise_cons.mp hright
    have hfirst : rel l r := by simpa [hlr] using hle l (by simp) r (by simp)
    refine List.pairwise_cons.mpr ⟨fun a ha => ?_, ih hleft' hright fun l' hl' =>
      hle l' (List.mem_cons_of_mem l hl')⟩
    rcases List.mem_append.mp ((List.merge_perm_append le).mem_iff.mp ha) with ha | ha
    · exact hl a ha
    · rcases List.mem_cons.mp ha with rfl | ha
      · exact hfirst
      · exact trans hfirst (hr a ha)
  | case4 l left r right hlr ih =>
    obtain ⟨hl, -⟩ := List.pairwise_cons.mp hleft
    obtain ⟨hr, hright'⟩ := List.pairwise_cons.mp hright
    have hfirst : rel r l := by simpa [hlr] using hle l (by simp) r (by simp)
    refine List.pairwise_cons.mpr ⟨fun a ha => ?_, ih hleft hright' fun l' hl' r' hr' =>
      hle l' hl' r' (List.mem_cons_of_mem r hr')⟩
    rcases List.mem_append.mp ((List.merge_perm_append le).mem_iff.mp ha) with ha | ha
    · rcases List.mem_cons.mp ha with rfl | ha
      · exact hfirst
      · exact trans hfirst (hl a ha)
    · exact hr a ha

/-! ## The first items of a merge -/

variable (fromRight : Nat → Nat → Bool)

/-- They come from the fronts of both lists. -/
theorem mergeFirst_splits (count : Nat) (left right : List Nat) :
    ∃ fromL fromR, left = fromL ++ (mergeFirst fromRight count left right).2.1 ∧
      right = fromR ++ (mergeFirst fromRight count left right).2.2 ∧
      (mergeFirst fromRight count left right).1.Perm (fromL ++ fromR) := by
  fun_induction mergeFirst fromRight count left right with
  | case1 count l left r right hlr merged rest hrec ih =>
    obtain ⟨fromL, fromR, hleft, hright, hperm⟩ := ih
    rw [hrec] at hleft hright hperm
    exact ⟨fromL, r :: fromR, hleft, congrArg (r :: ·) hright,
      (hperm.cons r).trans List.perm_middle.symm⟩
  | case2 count l left r right hlr merged rest hrec ih =>
    obtain ⟨fromL, fromR, hleft, hright, hperm⟩ := ih
    rw [hrec] at hleft hright hperm
    exact ⟨l :: fromL, fromR, congrArg (l :: ·) hleft, hright, hperm.cons l⟩
  | case3 count left right => exact ⟨[], [], rfl, rfl, .refl []⟩

/-- There are as many as were asked for, if each of the lists is that long. -/
theorem length_mergeFirst {count : Nat} {left right : List Nat} (hleft : count ≤ left.length)
    (hright : count ≤ right.length) :
    (mergeFirst fromRight count left right).1.length = count := by
  fun_induction mergeFirst fromRight count left right with
  | case1 count l left r right hlr merged rest hrec ih =>
    rw [hrec] at ih
    simp only [List.length_cons] at hleft hright ih ⊢
    rw [ih (by omega) (by omega)]
  | case2 count l left r right hlr merged rest hrec ih =>
    rw [hrec] at ih
    simp only [List.length_cons] at hleft hright ih ⊢
    rw [ih (by omega) (by omega)]
  | case3 count left right hmore =>
    cases count with
    | zero => rfl
    | succ count =>
      cases left with
      | nil => simp at hleft
      | cons l left =>
        cases right with
        | nil => simp at hright
        | cons r right => exact (hmore count l left r right rfl rfl rfl).elim

/-- The rest of the merge is that of what is left. -/
theorem merge_eq_mergeFirst (count : Nat) (left right : List Nat) :
    left.merge right (fun l r => !fromRight l r) =
      (mergeFirst fromRight count left right).1 ++
        (mergeFirst fromRight count left right).2.1.merge
          (mergeFirst fromRight count left right).2.2 fun l r => !fromRight l r := by
  fun_induction mergeFirst fromRight count left right with
  | case1 count l left r right hlr merged rest hrec ih =>
    rw [hrec] at ih
    rw [List.cons_merge_cons_neg _ _ _ (by simpa using hlr), ih]
    rfl
  | case2 count l left r right hlr merged rest hrec ih =>
    rw [hrec] at ih
    rw [List.cons_merge_cons_pos _ _ _ (by simpa using hlr), ih]
    rfl
  | case3 count left right => rfl

/-- They are ordered, and in front of all that is left. -/
theorem pairwise_mergeFirst (rel : Nat → Nat → Prop)
    (trans : ∀ {a b c}, rel a b → rel b c → rel a c) (count : Nat)
    (hleft : left.Pairwise rel) (hright : right.Pairwise rel)
    (hfrom : ∀ l ∈ left, ∀ r ∈ right, if fromRight l r then rel r l else rel l r) :
    (mergeFirst fromRight count left right).1.Pairwise rel ∧
      ∀ a ∈ (mergeFirst fromRight count left right).1,
        ∀ b ∈ (mergeFirst fromRight count left right).2.1 ++
          (mergeFirst fromRight count left right).2.2, rel a b := by
  have hmerge : (left.merge right fun l r => !fromRight l r).Pairwise rel :=
    pairwise_merge rel trans hleft hright fun l hl r hr => by
      have h := hfrom l hl r hr
      cases hlr : fromRight l r <;> simpa [hlr] using h
  rw [merge_eq_mergeFirst fromRight count] at hmerge
  obtain ⟨hfirst, -, hrest⟩ := List.pairwise_append.mp hmerge
  exact ⟨hfirst, fun a ha b hb => hrest a ha b ((List.merge_perm_append _).mem_iff.mpr hb)⟩

end Merge

section MergeRuns

variable {less : Nat → Nat → Bool} {ls rs left right : List Nat}

/-- Of two positions in their order, the comparison says which one belongs in front. -/
theorem inFront_of_lt (less : Nat → Nat → Bool) {i j : Nat} (hlt : i < j) :
    if less j i then InFront less j i else InFront less i j := by
  cases h : less j i with
  | true => exact .inl h
  | false => exact .inr ⟨h, hlt⟩

variable (hleft : Sorts less ls left) (hright : Sorts less rs right)
  (hlt : ∀ i ∈ ls, ∀ j ∈ rs, i < j)
include hleft hright hlt

theorem merge_sorts : Sorts less (ls ++ rs) (merge less left right) := by
  have hdecides : ∀ l ∈ left, ∀ r ∈ right,
      if less r l then InFront less r l else InFront less l r := fun l hl r hr =>
    inFront_of_lt less (hlt l (hleft.perm.mem_iff.mp hl) r (hright.perm.mem_iff.mp hr))
  unfold merge
  split
  · refine ⟨(List.merge_perm_append _).trans (hleft.perm.append hright.perm), fun h => ?_⟩
    refine pairwise_merge (InFront less) (InFront.trans h) (hleft.inOrder h) (hright.inOrder h) ?_
    intro l hl r hr
    have := hdecides l hl r hr
    cases hrl : less r l <;> simpa [hrl] using this
  · refine ⟨?_, fun h => List.pairwise_reverse.mpr ?_⟩
    · refine (List.reverse_perm _).trans ((List.merge_perm_append _).trans ?_)
      refine List.perm_append_comm.trans ?_
      exact ((List.reverse_perm _).trans hleft.perm).append
        ((List.reverse_perm _).trans hright.perm)
    · refine pairwise_merge (fun a b => InFront less b a) (fun hab hbc => InFront.trans h hbc hab)
        (List.pairwise_reverse.mpr (hright.inOrder h))
        (List.pairwise_reverse.mpr (hleft.inOrder h)) ?_
      intro r hr l hl
      have := hdecides l (List.mem_reverse.mp hl) r (List.mem_reverse.mp hr)
      cases hrl : less r l <;> simpa [hrl] using this

end MergeRuns

/-! ## Merging from both ends -/

theorem exists_mem_of_longer {a b c d : List Nat} (h : a ++ b = c ++ d)
    (hlonger : c.length < a.length) : ∃ x, x ∈ a ∧ x ∈ d := by
  rcases List.append_eq_append_iff.mp h with ⟨e, rfl, -⟩ | ⟨e, rfl, rfl⟩
  · rw [List.length_append] at hlonger
    omega
  · cases e with
    | nil => simp at hlonger
    | cons x rest => exact ⟨x, by simp, by simp⟩

/-- What was taken from the front up to a point, and from the back down to it, is all there is. -/
theorem meet {whole front middle rest back rest' : List Nat}
    (h : whole = front ++ (middle ++ rest)) (h' : whole.reverse = back ++ rest')
    (hlength : rest.length + rest'.length = whole.length) :
    rest = back.reverse ∧ rest' = (front ++ middle).reverse := by
  have hwhole : (front ++ middle) ++ rest = rest'.reverse ++ back.reverse := by
    rw [← List.reverse_append, ← h', List.reverse_reverse, h, List.append_assoc]
  have hback := congrArg List.length h'
  simp only [List.length_reverse, List.length_append] at hback
  obtain ⟨hfront, hrest⟩ := List.append_inj' hwhole (by rw [List.length_reverse]; omega)
  exact ⟨hrest, by rw [hfront, List.reverse_reverse]⟩

/-- One list was taken from beyond the point where its two ends meet, and the other one not up
to it: then some item was taken at both ends, and another one at none. -/
theorem not_taken_twice {fromA restA fromA' restA' fromB restB fromB' restB' : List Nat}
    (hA : fromA ++ restA = restA'.reverse ++ fromA'.reverse)
    (hB : fromB ++ restB = restB'.reverse ++ fromB'.reverse)
    (hnot : ∀ i ∈ fromA, i ∈ fromA' → ∀ j ∈ restB, j ∉ restB') :
    ¬ (restA'.length < fromA.length ∧ fromB.length < restB'.length) := by
  rintro ⟨hmore, hless⟩
  obtain ⟨i, hi, hi'⟩ := exists_mem_of_longer hA (by rwa [List.length_reverse])
  obtain ⟨j, hj', hj⟩ := exists_mem_of_longer hB.symm (by rwa [List.length_reverse])
  exact hnot i hi (List.mem_reverse.mp hi') j hj (List.mem_reverse.mp hj')

/-- Both ends together have what was taken of both lists, and the item that was left over. -/
theorem perm_of_ends {front back fromL midL fromL' fromR midR fromR' : List Nat}
    (hfront : front.Perm (fromL ++ fromR)) (hback : back.Perm (fromL' ++ fromR')) :
    (front ++ (midL ++ midR) ++ back.reverse).Perm
      ((fromL ++ (midL ++ fromL'.reverse)) ++ (fromR ++ (midR ++ fromR'.reverse))) := by
  refine List.perm_iff_count.mpr fun a => ?_
  have hcounts := And.intro (hfront.count_eq a) (hback.count_eq a)
  simp only [List.count_append, List.count_reverse] at hcounts ⊢
  omega

theorem pairwise_of_ends {rel : Nat → Nat → Prop} {front middle back : List Nat}
    (hfront : front.Pairwise rel) (hback : back.reverse.Pairwise rel) (hone : middle.length ≤ 1)
    (hahead : ∀ i ∈ front, ∀ j, j ∈ middle ∨ j ∈ back → rel i j)
    (hbehind : ∀ i ∈ back, ∀ j ∈ middle, rel j i) :
    (front ++ middle ++ back.reverse).Pairwise rel := by
  have hmiddle : middle.Pairwise rel := by
    match middle, hone with
    | [], _ => exact .nil
    | [i], _ => exact List.pairwise_singleton _ i
  refine List.pairwise_append.mpr ⟨List.pairwise_append.mpr
    ⟨hfront, hmiddle, fun i hi j hj => hahead i hi j (.inl hj)⟩, hback, fun i hi j hj => ?_⟩
  rcases List.mem_append.mp hi with hi | hi
  · exact hahead i hi j (.inr (List.mem_reverse.mp hj))
  · exact hbehind j (List.mem_reverse.mp hj) i hi

theorem mergeMiddle_splits (odd fromLeft : Bool) (left right : List Nat) :
    ∃ fromL fromR, left = fromL ++ (mergeMiddle odd fromLeft left right).2.1 ∧
      right = fromR ++ (mergeMiddle odd fromLeft left right).2.2 ∧
      (mergeMiddle odd fromLeft left right).1 = fromL ++ fromR ∧
      (mergeMiddle odd fromLeft left right).1.length ≤ 1 := by
  unfold mergeMiddle
  split
  · exact ⟨[], [], rfl, rfl, rfl, Nat.zero_le 1⟩
  · split
    · exact ⟨left.take 1, [], (List.take_append_drop 1 left).symm, rfl,
        (List.append_nil _).symm, List.length_take_le 1 left⟩
    · exact ⟨[], right.take 1, rfl, (List.take_append_drop 1 right).symm, rfl,
        List.length_take_le 1 right⟩

/-- If one item is left over between the two ends, on whichever side, the middle takes it. -/
theorem mergeMiddle_meets (left right l r : List Nat) {l' r' : List Nat}
    (hl' : l'.length ≤ left.length) (hr' : r'.length ≤ right.length)
    (hover : l.length + l'.length = left.length ∧ r.length + r'.length = right.length ∧
        right.length = left.length ∨
      l.length + l'.length = left.length + 1 ∧ r.length + r'.length = right.length ∧
        right.length = left.length + 1 ∨
      l.length + l'.length = left.length ∧ r.length + r'.length = right.length + 1 ∧
        right.length = left.length + 1) :
    let middle := mergeMiddle (right.length != left.length)
      (decide (left.length < l.length + l'.length)) l r
    middle.2.1.length + l'.length = left.length ∧
      middle.2.2.length + r'.length = right.length := by
  rcases hover with ⟨hl, hr, heven⟩ | ⟨hl, hr, hodd⟩ | ⟨hl, hr, hodd⟩
  · simp [mergeMiddle, hl, hr, heven]
  all_goals
    have hodd' : (right.length != left.length) = true := by simp [hodd]
    simp only [mergeMiddle, hl, hodd', Bool.not_true, Bool.false_eq_true, Nat.lt_add_one,
      Nat.lt_irrefl, decide_true, decide_false, ↓reduceIte, List.length_drop, true_and]
    omega

section BothEnds

variable {less : Nat → Nat → Bool} {ls rs left right : List Nat}
  (hleft : Sorts less ls left) (hright : Sorts less rs right) (hlt : ∀ i ∈ ls, ∀ j ∈ rs, i < j)
include hleft hright hlt

/-- What is taken at the front is in order, and in front of all that is left there. -/
theorem inOrder_front (h : Consistent less) (count : Nat) :
    let merged := mergeFirst (fun l r => less r l) count left right
    InOrder less merged.1 ∧ ∀ i ∈ merged.1, ∀ j ∈ merged.2.1 ++ merged.2.2, InFront less i j :=
  pairwise_mergeFirst _ (InFront less) (InFront.trans h) count (hleft.inOrder h) (hright.inOrder h)
    fun l hl r hr =>
      inFront_of_lt less (hlt l (hleft.perm.mem_iff.mp hl) r (hright.perm.mem_iff.mp hr))

/-- What is taken at the back is in order when reversed, and behind all that is left there. -/
theorem inOrder_back (h : Consistent less) (count : Nat) :
    let merged := mergeFirst (fun l r => !less r l) count left.reverse right.reverse
    InOrder less merged.1.reverse ∧
      ∀ i ∈ merged.1, ∀ j ∈ merged.2.1 ++ merged.2.2, InFront less j i := by
  obtain ⟨hordered, hbehind⟩ := pairwise_mergeFirst (fun l r => !less r l)
    (fun a b => InFront less b a) (fun hab hbc => InFront.trans h hbc hab) count
    (List.pairwise_reverse.mpr (hleft.inOrder h)) (List.pairwise_reverse.mpr (hright.inOrder h))
    fun l hl r hr => by
      have hdecides := inFront_of_lt less
        (hlt l (hleft.perm.mem_iff.mp (List.mem_reverse.mp hl)) r
          (hright.perm.mem_iff.mp (List.mem_reverse.mp hr)))
      cases hrl : less r l <;> simpa [hrl] using hdecides
  exact ⟨List.pairwise_reverse.mpr hordered, hbehind⟩

/-- Where the two sides meet, the front and the back were taken from the same list. -/
theorem sorts_of_mergeBothEnds {merged : List Nat}
    (h : mergeBothEnds less left right = some merged) : Sorts less (ls ++ rs) merged := by
  have hfrontOrder := fun c => inOrder_front hleft hright hlt c left.length
  have hbackOrder := fun c => inOrder_back hleft hright hlt c left.length
  obtain ⟨fromL, fromR, hl, hr, hfront⟩ :=
    mergeFirst_splits (fun l r => less r l) left.length left right
  obtain ⟨fromL', fromR', hl', hr', hback⟩ :=
    mergeFirst_splits (fun l r => !less r l) left.length left.reverse right.reverse
  unfold mergeBothEnds at h
  rcases hfirst : mergeFirst (fun l r => less r l) left.length left right with ⟨front, l, r⟩
  rcases hlast : mergeFirst (fun l r => !less r l) left.length left.reverse right.reverse
    with ⟨back, l', r'⟩
  simp only [hfirst, hlast] at h hl hr hfront hl' hr' hback hfrontOrder hbackOrder
  obtain ⟨midL, midR, hmidL, hmidR, hmid, hone⟩ := mergeMiddle_splits
    (right.length != left.length) (decide (left.length < l.length + l'.length)) l r
  rcases hmiddle : mergeMiddle (right.length != left.length)
    (decide (left.length < l.length + l'.length)) l r with ⟨middle, l₁, r₁⟩
  simp only [hmiddle] at h hmidL hmidR hmid hone
  split at h
  · next hmeet =>
    obtain rfl := Option.some.inj h
    obtain ⟨hrestL, hl'⟩ := meet (hmidL ▸ hl) hl' hmeet.1
    obtain ⟨hrestR, hr'⟩ := meet (hmidR ▸ hr) hr' hmeet.2
    -- of each list: what the front took, what the middle took, and what the back took
    rw [hmidL, hrestL] at hl
    rw [hmidR, hrestR] at hr
    rw [hmid] at hone ⊢
    refine ⟨?_, fun c => ?_⟩
    · refine List.Perm.trans ?_ (hleft.perm.append hright.perm)
      rw [hl, hr]
      exact perm_of_ends hfront hback
    · obtain ⟨hfrontSorted, hfrontAll⟩ := hfrontOrder c
      obtain ⟨hbackSorted, hbackAll⟩ := hbackOrder c
      refine pairwise_of_ends hfrontSorted hbackSorted hone (fun i hi j hj => ?_)
        fun i hi j hj => ?_
      · refine hfrontAll i hi j ?_
        rw [hback.mem_iff] at hj
        rw [hmidL, hmidR, hrestL, hrestR]
        simp only [List.mem_append, List.mem_reverse] at hj ⊢
        rcases hj with (hj | hj) | hj | hj <;> simp [hj]
      · refine hbackAll i hi j ?_
        rw [hl', hr']
        rcases List.mem_append.mp hj with hj | hj <;> simp [hj]
  · cases h

/-- In a consistent order the two sides meet: else one item would be taken at both ends and
another one at none, each of them in front of the other. -/
theorem mergeBothEnds_isSome (h : Consistent less)
    (hlength : right.length = left.length ∨ right.length = left.length + 1) :
    (mergeBothEnds less left right).isSome = true := by
  obtain ⟨-, hfrontAll⟩ := inOrder_front hleft hright hlt h left.length
  obtain ⟨-, hbackAll⟩ := inOrder_back hleft hright hlt h left.length
  obtain ⟨fromL, fromR, hl, hr, hfront⟩ :=
    mergeFirst_splits (fun l r => less r l) left.length left right
  obtain ⟨fromL', fromR', hl', hr', hback⟩ :=
    mergeFirst_splits (fun l r => !less r l) left.length left.reverse right.reverse
  have hfrontLength := length_mergeFirst (fun l r => less r l) (Nat.le_refl left.length)
    (by omega : left.length ≤ right.length)
  have hbackLength := length_mergeFirst (fun l r => !less r l)
    (by simp : left.length ≤ left.reverse.length)
    (by rw [List.length_reverse]; omega : left.length ≤ right.reverse.length)
  unfold mergeBothEnds
  rcases hfirst : mergeFirst (fun l r => less r l) left.length left right with ⟨front, l, r⟩
  rcases hlast : mergeFirst (fun l r => !less r l) left.length left.reverse right.reverse
    with ⟨back, l', r'⟩
  simp only [hfirst] at hl hr hfront hfrontAll hfrontLength
  simp only [hlast] at hl' hr' hback hbackAll hbackLength
  have hnot : ∀ i ∈ front, i ∈ back → ∀ j ∈ l ++ r, j ∉ l' ++ r' :=
    fun i hi hi' j hj hj' => (hfrontAll i hi j hj).asymm h (hbackAll i hi' j hj')
  simp only [hfront.mem_iff, hback.mem_iff, List.mem_append] at hnot
  have hbackL : fromL ++ l = l'.reverse ++ fromL'.reverse := by
    rw [← hl, ← List.reverse_append, ← hl', List.reverse_reverse]
  have hbackR : fromR ++ r = r'.reverse ++ fromR'.reverse := by
    rw [← hr, ← List.reverse_append, ← hr', List.reverse_reverse]
  have hnotL := not_taken_twice hbackL hbackR fun i hi hi' j hj hj' =>
    hnot i (.inl hi) (.inl hi') j (.inr hj) (.inr hj')
  have hnotR := not_taken_twice hbackR hbackL fun i hi hi' j hj hj' =>
    hnot i (.inr hi) (.inr hi') j (.inl hj) (.inl hj')
  -- what is left in number: each side has taken as many as there are on the left
  have hcounts := And.intro hfront.length_eq hback.length_eq
  have hparts := And.intro (congrArg List.length hbackL) (congrArg List.length hbackR)
  have htotal := And.intro (congrArg List.length hl) (congrArg List.length hr)
  simp only [List.length_append, List.length_reverse, hfrontLength, hbackLength]
    at hcounts hparts htotal
  have hmeet := mergeMiddle_meets left right l r (by omega : l'.length ≤ left.length)
    (by omega : r'.length ≤ right.length) <| by
      rcases hlength with heven | hodd
      · exact .inl ⟨by omega, by omega, heven⟩
      · by_cases hmore : left.length < l.length + l'.length
        · exact .inr (.inl ⟨by omega, by omega, hodd⟩)
        · exact .inr (.inr ⟨by omega, by omega, hodd⟩)
  simp only [hfirst, hlast]
  rw [if_pos hmeet]
  rfl

theorem mergeBothEnds_yields
    (hlength : right.length = left.length ∨ right.length = left.length + 1) :
    Yields less (Sorts less (ls ++ rs)) (mergeBothEnds less left right) :=
  ⟨fun _ h => sorts_of_mergeBothEnds hleft hright hlt h,
    fun h => mergeBothEnds_isSome hleft hright hlt h hlength⟩

end BothEnds

/-! ## Few items -/

section Few

variable (less : Nat → Nat → Bool)

/-- By cases on the comparisons. The first and the last item are known after two of them, and of
the two between, the one that may have to be in front is compared with the other. -/
theorem mergePairs_sorts {a b c d : Nat} (hab : Consistent less → InFront less a b)
    (hcd : Consistent less → InFront less c d) (hac : a < c) (had : a < d) (hbc : b < c)
    (hbd : b < d) : Sorts less [a, b, c, d] (mergePairs less a b c d) := by
  have h₁ := inFront_of_lt less hac
  have h₂ := inFront_of_lt less had
  have h₃ := inFront_of_lt less hbc
  have h₄ := inFront_of_lt less hbd
  refine ⟨?_, fun h => ?_⟩
  · unfold mergePairs
    refine List.perm_iff_count.mpr fun i => ?_
    cases less c a <;> cases less d b <;> simp only [Bool.false_eq_true, if_false, if_true] <;>
      split <;> simp only [List.count_cons, List.count_nil] <;> omega
  · have four : ∀ {i j k l}, InFront less i j → InFront less j k → InFront less k l →
        InOrder less [i, j, k, l] := by
      intro i j k l hij hjk hkl
      have hik := hij.trans h hjk
      simp [InOrder, hij, hjk, hkl, hik, hjk.trans h hkl, hik.trans h hkl]
    have hab := hab h
    have hcd := hcd h
    unfold mergePairs
    cases hca : less c a <;> cases hdb : less d b <;>
      simp only [hca, hdb, Bool.false_eq_true, if_false, if_true] at h₁ h₄ ⊢
    · cases hcb : less c b <;> simp only [hcb, Bool.false_eq_true, if_false, if_true] at h₃ ⊢
      · exact four hab h₃ hcd
      · exact four h₁ h₃ h₄
    · cases hdc : less d c <;> simp only [Bool.false_eq_true, if_false, if_true]
      · exact four h₁ hcd h₄
      · exact absurd (.inl hdc) (hcd.asymm h)
    · cases hba : less b a <;> simp only [Bool.false_eq_true, if_false, if_true]
      · exact four h₁ hab h₄
      · exact absurd (.inl hba) (hab.asymm h)
    · cases hda : less d a <;> simp only [hda, Bool.false_eq_true, if_false, if_true] at h₂ ⊢
      · exact four h₁ h₂ h₄
      · exact four hcd h₂ hab

theorem sortFour_sorts {a b c d : Nat} (hab : a < b) (hbc : b < c) (hcd : c < d) :
    Sorts less [a, b, c, d] (sortFour less a b c d) := by
  have hswap : ∀ i j : Nat, i < j → less j i = false → Consistent less → InFront less i j :=
    fun _ _ hlt h _ => .inr ⟨h, hlt⟩
  unfold sortFour
  cases hba : less b a <;> cases hdc : less d c <;>
    simp only [Bool.false_eq_true, if_false, if_true]
  · exact mergePairs_sorts less (hswap a b hab hba) (hswap c d hcd hdc) (by omega) (by omega)
      (by omega) (by omega)
  · obtain ⟨hperm, hordered⟩ := mergePairs_sorts less (hswap a b hab hba) (fun _ => .inl hdc)
      (by omega) (by omega) (by omega) (by omega)
    exact ⟨hperm.trans (((List.Perm.swap c d []).cons b).cons a), hordered⟩
  · obtain ⟨hperm, hordered⟩ := mergePairs_sorts less (fun _ => .inl hba) (hswap c d hcd hdc)
      (by omega) (by omega) (by omega) (by omega)
    exact ⟨hperm.trans (List.Perm.swap a b [c, d]), hordered⟩
  · obtain ⟨hperm, hordered⟩ := mergePairs_sorts less (fun _ => .inl hba) (fun _ => .inl hdc)
      (by omega) (by omega) (by omega) (by omega)
    exact ⟨hperm.trans ((List.Perm.swap a b [d, c]).trans
      (((List.Perm.swap c d []).cons b).cons a)), hordered⟩

/-- Inserts positions that rise behind sorted ones that are smaller. -/
theorem inOrder_insert (h : Consistent less) {positions sorted : List Nat}
    (rises : positions.Pairwise (· < ·)) (hsorted : InOrder less sorted)
    (hlt : ∀ i ∈ sorted, ∀ j ∈ positions, i < j) :
    InOrder less (positions.foldl (fun sorted item => insertBehind less item sorted)
      sorted.reverse).reverse := by
  obtain ⟨cmp, _, hless⟩ := h
  obtain rfl : less = fun i j => (cmp i j).isLT := funext₂ hless
  have hbefore : sorted.reverse.Pairwise fun j i => Before cmp (· < ·) i j :=
    List.pairwise_reverse.mpr (hsorted.imp (inFront_iff_before cmp).mp)
  have hinserted := pairwise_foldl_insertBehind rises hbefore
    fun i hi => hlt i (List.mem_reverse.mp hi)
  exact List.pairwise_reverse.mpr (hinserted.imp (inFront_iff_before cmp).mpr)

/-- Positions that rise are sorted by inserting them. -/
theorem sortBy_sorts {positions : List Nat} (rises : positions.Pairwise (· < ·)) :
    Sorts less positions (sortBy less positions) :=
  ⟨sortBy_perm less positions, fun h => inOrder_insert less h rises .nil fun _ hi => nomatch hi⟩

theorem sortHalf_sorts (four : Bool) {positions : List Nat} (rises : positions.Pairwise (· < ·)) :
    Sorts less positions (sortHalf less four positions) := by
  unfold sortHalf
  split
  · next a b c d rest =>
    obtain ⟨hfour, hrest, hlt⟩ := List.pairwise_append.mp
      (show ([a, b, c, d] ++ rest).Pairwise (· < ·) from rises)
    simp only [List.pairwise_cons, List.mem_cons, List.not_mem_nil, forall_eq_or_imp] at hfour
    have hsorts := sortFour_sorts less hfour.1.1 hfour.2.1.1 hfour.2.2.1.1
    refine ⟨(List.reverse_perm _).trans ((foldl_insertBehind_perm less rest _).trans ?_),
      fun h => inOrder_insert less h hrest (hsorts.inOrder h)
        fun i hi => hlt i (hsorts.perm.mem_iff.mp hi)⟩
    refine List.perm_append_comm.trans ?_
    exact (((List.reverse_perm _).trans hsorts.perm).append_right rest)
  · exact sortBy_sorts less rises

theorem sortFew_yields {positions : List Nat} (rises : positions.Pairwise (· < ·)) :
    Yields less (Sorts less positions) (sortFew less positions) := by
  unfold sortFew
  split
  · next hshort =>
    refine .pure ⟨.refl _, fun _ => ?_⟩
    match positions, hshort with
    | [], _ => exact .nil
    | [i], _ => exact List.pairwise_singleton _ i
  · let half := positions.length / 2
    have hsplit := List.take_append_drop half positions
    have hsides : (positions.take half ++ positions.drop half).Pairwise (· < ·) := by
      rwa [hsplit]
    obtain ⟨hleft, hright, hlt⟩ := List.pairwise_append.mp hsides
    have hsortsLeft := sortHalf_sorts less (decide (8 ≤ positions.length)) hleft
    have hsortsRight := sortHalf_sorts less (decide (8 ≤ positions.length)) hright
    have hmerged := mergeBothEnds_yields hsortsLeft hsortsRight hlt (by
      rw [hsortsLeft.perm.length_eq, hsortsRight.perm.length_eq, List.length_take,
        List.length_drop]
      omega)
    rwa [hsplit] at hmerged

end Few

end DataGrid.Store.Sorting
