import DataGrid.Proofs.Store.Merging
import Mathlib.Data.List.Forall2

/-!
# DataGrid.Proofs.Store.StableSort -- the sort of many items

Whatever the comparison, what comes out are the items, none lost and none doubled. If it is
consistent, the sort does not give up, and the list that comes out is the one that inserting the
items one by one would give. Positions that have not been sorted yet stand in rising order all the
time, because runs are consecutive and partitions keep the order; so of two neighbours the one on
the right has the greater positions, and ties go to the left one.
-/

namespace DataGrid.Store.Sorting

open Std

section Positions

variable {less : Nat → Nat → Bool}

/-! ## Runs -/

variable (less) in
/-- The run has the positions: in order if it is a sorted one, and else as they were. -/
structure Run.Holds (positions : List Nat) (run : Run) : Prop where
  sorts : run.sorted = true → Sorts less positions run.items
  same : run.sorted = false → run.items = positions

theorem Run.Holds.perm {positions : List Nat} {run : Run} (h : run.Holds less positions) :
    run.items.Perm positions := by
  cases hsorted : run.sorted with
  | true => exact (h.sorts hsorted).perm
  | false => exact .of_eq (h.same hsorted)

/-- As far as rising positions go on in one direction, they are in order or in reverse. -/
theorem pairwise_continued (h : Consistent less) (descending : Bool) {last : Nat}
    {rest : List Nat} (rises : (last :: rest).Pairwise (· < ·)) :
    (last :: rest.take (continued less descending last rest)).Pairwise fun i j =>
      if descending then InFront less j i else InFront less i j := by
  induction rest generalizing last with
  | nil => exact List.pairwise_singleton _ last
  | cons next rest ih =>
    obtain ⟨hlast, hrest⟩ := List.pairwise_cons.mp rises
    rw [continued]
    by_cases hnext : less next last = descending
    · rw [if_pos hnext]
      have hstep : if descending then InFront less next last else InFront less last next :=
        hnext ▸ inFront_of_lt less (hlast next (by simp))
      have hgoes := ih hrest
      rw [List.take_succ_cons]
      refine List.pairwise_cons.mpr ⟨fun i hi => ?_, hgoes⟩
      rcases List.mem_cons.mp hi with rfl | hi
      · exact hstep
      · have hnexti := (List.pairwise_cons.mp hgoes).1 i hi
        cases descending with
        | true => exact InFront.trans h hnexti hstep
        | false => exact InFront.trans h hstep hnexti
    · rw [if_neg hnext]
      exact List.pairwise_singleton _ last

theorem pairwise_frontRun (h : Consistent less) {positions : List Nat}
    (rises : positions.Pairwise (· < ·)) :
    (positions.take (frontRun less positions).1).Pairwise fun i j =>
      if (frontRun less positions).2 then InFront less j i else InFront less i j := by
  match positions, rises with
  | [], _ => exact .nil
  | [i], _ => exact List.pairwise_singleton _ i
  | first :: second :: rest, rises =>
    have hgoes := pairwise_continued h (less second first) rises
    rw [continued, if_pos rfl, List.take_succ_cons] at hgoes
    exact hgoes

theorem nextRun_yields (eager : Bool) {longEnough : Nat} (hpos : 0 < longEnough)
    {positions : List Nat} (hne : positions ≠ []) (rises : positions.Pairwise (· < ·)) :
    Yields less (fun run => ∃ front rest, front ≠ [] ∧ positions = front ++ rest ∧
      run.Holds less front) (nextRun less eager longEnough positions) := by
  have hfront : ∀ count, 0 < count → positions.take count ≠ [] := by
    intro count hcount heq
    rcases List.take_eq_nil_iff.mp heq with hzero | hnil
    · omega
    · exact hne hnil
  have hgoes := fun h : Consistent less => pairwise_frontRun h rises
  have hsplit := fun count => (List.take_append_drop count positions).symm
  unfold nextRun
  rcases hrun : frontRun less positions with ⟨length, descending⟩
  simp only [hrun] at hgoes ⊢
  split
  · next hlong =>
    refine .pure ⟨_, _, hfront length (by omega), hsplit length, fun _ => ?_, nofun⟩
    cases descending with
    | true => exact ⟨List.reverse_perm _, fun h => List.pairwise_reverse.mpr (hgoes h)⟩
    | false => exact ⟨.refl _, hgoes⟩
  · split
    · have hrises : (positions.take fewItems).Pairwise (· < ·) :=
        rises.sublist (List.take_sublist _ _)
      exact (sortFew_yields less hrises).map fun sorted hsorted =>
        ⟨_, _, hfront fewItems (by decide), hsplit fewItems, fun _ => hsorted, nofun⟩
    · exact .pure ⟨_, _, hfront longEnough hpos, hsplit longEnough, nofun, fun _ => rfl⟩

/-- The runs have the positions, one after the other. By induction on how many there are. -/
theorem runs_yields (eager : Bool) {longEnough : Nat} (hpos : 0 < longEnough)
    {positions : List Nat} (rises : positions.Pairwise (· < ·)) :
    Yields less (fun found => ∃ parts, parts.flatten = positions ∧
      List.Forall₂ (Run.Holds less) parts found) (runs less eager longEnough positions) := by
  induction hlength : positions.length using Nat.strongRecOn generalizing positions with
  | _ length ih =>
    cases positions with
    | nil =>
      rw [runs]
      exact .pure ⟨[], rfl, .nil⟩
    | cons first rest =>
      rw [runs]
      refine (nextRun_yields eager hpos (List.cons_ne_nil first rest) rises).bind fun run hrun => ?_
      obtain ⟨front, rest', hne, hsplit, hholds⟩ := hrun
      obtain ⟨_, front, rfl⟩ := List.exists_cons_of_ne_nil hne
      obtain ⟨rfl, hrest⟩ : first = _ ∧ rest = front ++ rest' := List.cons.inj hsplit
      subst hrest
      have hdrop : (front ++ rest').drop (run.items.length - 1) = rest' := by
        rw [hholds.perm.length_eq, List.length_cons, Nat.add_sub_cancel, List.drop_left]
      have hrest : rest'.Pairwise (· < ·) := (List.pairwise_append.mp rises.tail).2.1
      rw [hdrop]
      refine (ih rest'.length ?_ hrest rfl).bind fun found hfound => ?_
      · simp only [List.length_cons, List.length_append] at hlength
        omega
      · obtain ⟨parts, rfl, hparts⟩ := hfound
        exact .pure ⟨(first :: front) :: parts, rfl, .cons hholds hparts⟩

/-! ## Joining runs -/

section Joining

variable {sortRun : List Nat → Option (List Nat)} (hsort : ∀ {positions : List Nat},
  positions.Pairwise (· < ·) → Yields less (Sorts less positions) (sortRun positions))
include hsort

theorem Run.Holds.inOrder_yields {positions : List Nat} {run : Run}
    (h : run.Holds less positions) (rises : positions.Pairwise (· < ·)) :
    Yields less (Sorts less positions) (run.inOrder sortRun) := by
  unfold Run.inOrder
  split
  · next hsorted => exact .pure (h.sorts hsorted)
  · next hsorted =>
    rw [h.same (Bool.eq_false_iff.mpr hsorted)]
    exact hsort rises

theorem join_yields (room : Nat) {ls rs : List Nat} {left right : Run}
    (hleft : left.Holds less ls) (hright : right.Holds less rs)
    (rises : (ls ++ rs).Pairwise (· < ·)) :
    Yields less (Run.Holds less (ls ++ rs)) (join less sortRun room left right) := by
  obtain ⟨hls, hrs, hlt⟩ := List.pairwise_append.mp rises
  unfold join
  split
  · refine (hleft.inOrder_yields hsort hls).bind fun l hl => ?_
    refine (hright.inOrder_yields hsort hrs).bind fun r hr => ?_
    exact .pure ⟨fun _ => merge_sorts hl hr hlt, nofun⟩
  · next hkeep =>
    obtain ⟨-, hunsorted⟩ := not_or.mp hkeep
    obtain ⟨hl, hr⟩ := not_or.mp hunsorted
    refine .pure ⟨nofun, fun _ => ?_⟩
    rw [hleft.same (Bool.eq_false_iff.mpr hl), hright.same (Bool.eq_false_iff.mpr hr)]

omit hsort

variable (less) in
/-- The runs of a stack have the positions, the last one on top. -/
inductive Stacked : List (Run × Nat) → List Nat → Prop
  | nil : Stacked [] []
  | cons {below : List (Run × Nat)} {front positions : List Nat} {run : Run} (depth : Nat) :
      Stacked below front → run.Holds less positions →
      Stacked ((run, depth) :: below) (front ++ positions)

include hsort

/-- Joining a run to some on the stack; at the root it is joined to all of them. By induction on
the stack. -/
theorem collapse_yields (room depth : Nat) {stack : List (Run × Nat)} {front positions : List Nat}
    {run : Run} (hstack : Stacked less stack front) (hrun : run.Holds less positions)
    (rises : (front ++ positions).Pairwise (· < ·)) :
    Yields less (fun joined : Run × List (Run × Nat) => ∃ front' positions',
      Stacked less joined.2 front' ∧ joined.1.Holds less positions' ∧
      front' ++ positions' = front ++ positions ∧ (depth = 0 → front' = []))
      (collapse less sortRun room depth run stack) := by
  induction hstack generalizing run positions with
  | nil => exact .pure ⟨[], positions, .nil, hrun, rfl, fun _ => rfl⟩
  | @cons below front top left leftDepth hbelow hleft ih =>
    rw [collapse]
    split
    · have htop : (top ++ positions).Pairwise (· < ·) := by
        rw [List.append_assoc] at rises
        exact (List.pairwise_append.mp rises).2.1
      refine (join_yields hsort room hleft hrun htop).bind fun joined hjoined => ?_
      rw [List.append_assoc] at rises ⊢
      exact ih hjoined rises
    · next hstays =>
      exact .pure ⟨_, positions, .cons leftDepth hbelow hleft, hrun, rfl, fun hzero =>
        absurd (hzero ▸ Nat.zero_le leftDepth) hstays⟩

/-- By induction on the runs that are still to come. -/
theorem joinAll_yields (room scale start : Nat) {stack : List (Run × Nat)}
    {front positions : List Nat} {last : Run} {parts : List (List Nat)} {rest : List Run}
    (hstack : Stacked less stack front) (hlast : last.Holds less positions)
    (hrest : List.Forall₂ (Run.Holds less) parts rest)
    (rises : (front ++ positions ++ parts.flatten).Pairwise (· < ·)) :
    Yields less (Run.Holds less (front ++ positions ++ parts.flatten))
      (joinAll less sortRun room scale start stack last rest) := by
  induction hrest generalizing start stack front positions last with
  | nil =>
    rw [List.flatten_nil, List.append_nil] at rises ⊢
    refine (collapse_yields hsort room 0 hstack hlast rises).map fun joined hjoined => ?_
    obtain ⟨front', positions', -, hholds, heq, hroot⟩ := hjoined
    rw [← heq, hroot rfl, List.nil_append]
    exact hholds
  | @cons part next parts rest hnext _ ih =>
    have hfront := (List.pairwise_append.mp rises).1
    refine (collapse_yields hsort room _ hstack hlast hfront).bind fun joined hjoined => ?_
    obtain ⟨front', positions', hbelow, hholds, heq, -⟩ := hjoined
    rw [List.flatten_cons, ← heq, ← List.append_assoc] at rises ⊢
    exact ih _ (.cons _ hbelow hholds) hnext rises

omit hsort

theorem goodLength_pos {length : Nat} (h : 0 < length) : 0 < goodLength length := by
  unfold goodLength
  split
  · omega
  · next hlong =>
    -- the shift is at least one, and the length stays
    have hlog : 1 ≤ length.log2 := (Nat.le_log2 (by omega)).mpr (by omega)
    have hshift : 1 ≤ (1 + length.log2) / 2 := by omega
    have hpower : 2 ≤ 1 <<< ((1 + length.log2) / 2) := by
      rw [Nat.shiftLeft_eq, Nat.one_mul]
      exact Nat.pow_le_pow_right Nat.two_pos hshift
    exact Nat.div_pos (Nat.le_add_right_of_le hpower) Nat.two_pos

include hsort

theorem sortRuns_yields (eager : Bool) (room : Nat) {positions : List Nat}
    (rises : positions.Pairwise (· < ·)) :
    Yields less (Sorts less positions) (sortRuns less sortRun eager room positions) := by
  unfold sortRuns
  cases positions with
  | nil =>
    simp only [runs]
    exact .pure ⟨.refl _, fun _ => .nil⟩
  | cons first rest =>
    refine (runs_yields eager (goodLength_pos (Nat.succ_pos rest.length)) rises).bind
      fun found hfound => ?_
    obtain ⟨parts, hparts, hholds⟩ := hfound
    cases hholds with
    | nil => cases hparts
    | @cons part run parts found hrun hfound =>
      rw [← hparts, List.flatten_cons, ← List.nil_append part] at rises ⊢
      refine (joinAll_yields hsort room _ 0 .nil hrun hfound rises).bind fun last hlast => ?_
      exact hlast.inOrder_yields hsort rises

end Joining

/-! ## Partition -/

section Parts

variable {positions : List Nat}

/-- Parts a list in two, and sorts both parts on their own. -/
theorem sorts_parts {low high : Nat → Bool} (hparts : ∀ i, high i = !low i)
    {sortedLow sortedHigh : List Nat} (hlow : Sorts less (positions.filter low) sortedLow)
    (hhigh : Sorts less (positions.filter high) sortedHigh)
    (hless : Consistent less → ∀ i ∈ positions, ∀ j ∈ positions, low i = true → low j = false →
      less i j = true) : Sorts less positions (sortedLow ++ sortedHigh) := by
  have hhigh' : positions.filter high = positions.filter fun i => !low i :=
    congrArg (positions.filter ·) (funext hparts)
  refine ⟨(hlow.perm.append hhigh.perm).trans ?_, fun h => ?_⟩
  · rw [hhigh']
    exact List.filter_append_perm low positions
  · refine List.pairwise_append.mpr ⟨hlow.inOrder h, hhigh.inOrder h, fun i hi j hj => .inl ?_⟩
    obtain ⟨hi, hilow⟩ := List.mem_filter.mp (hlow.perm.mem_iff.mp hi)
    rw [hhigh'] at hhigh
    obtain ⟨hj, hjhigh⟩ := List.mem_filter.mp (hhigh.perm.mem_iff.mp hj)
    exact hless h i hi j hj hilow (by simpa using hjhigh)

/-- Rising positions that all tie are in order. -/
theorem sorts_tied (rises : positions.Pairwise (· < ·))
    (htied : Consistent less → ∀ i ∈ positions, ∀ j ∈ positions, less j i = false) :
    Sorts less positions positions :=
  ⟨.refl _, fun h => rises.imp_of_mem fun hi hj hlt => .inr ⟨htied h _ hi _ hj, hlt⟩⟩

/-- What is the pivot, or does not compare so with it, does not compare so. -/
theorem of_pivot_or_not (compare : Nat → Bool) {pivot i : Nat} (hself : compare pivot = false)
    (h : (i == pivot || !compare i) = true) : compare i = false := by
  rcases Bool.or_eq_true_iff.mp h with heq | hnot
  · exact beq_iff_eq.mp heq ▸ hself
  · simpa using hnot

/-- Items that precede the pivot are in front of all others. -/
theorem sorts_by_pivot {pivot : Nat} {low high : List Nat}
    (hlow : Sorts less (positions.filter fun i => i != pivot && less i pivot) low)
    (hhigh : Sorts less (positions.filter fun i => i == pivot || !less i pivot) high) :
    Sorts less positions (low ++ high) := by
  refine sorts_parts (fun i => by simp [bne]) hlow hhigh fun h i _ j _ hi hj => ?_
  have hip : less i pivot = true := (Bool.and_eq_true_iff.mp hi).2
  have hjp : less j pivot = false := of_pivot_or_not (less · pivot) (h.irrefl pivot)
    (by simpa [or_iff_not_imp_left] using hj)
  cases hij : less i j with
  | true => rfl
  | false => exact absurd hip (by simp [h.not_less_trans hjp hij])

/-- Where no item precedes the pivot, those that it does not precede all tie. -/
theorem sorts_by_least {pivot : Nat} {high : List Nat} (rises : positions.Pairwise (· < ·))
    (hleast : Consistent less → ∀ i ∈ positions, less i pivot = false)
    (hhigh : Sorts less (positions.filter fun i => i != pivot && less pivot i) high) :
    Sorts less positions
      (positions.filter (fun i => i == pivot || !less pivot i) ++ high) := by
  have hties : Consistent less → ∀ i, (i == pivot || !less pivot i) = true →
      less pivot i = false := fun h i hi => of_pivot_or_not (less pivot) (h.irrefl pivot) hi
  have htied := sorts_tied (rises.sublist List.filter_sublist) fun h i hi j hj =>
    h.not_less_trans (hties h i (List.mem_filter.mp hi).2) (hleast h j (List.mem_filter.mp hj).1)
  refine sorts_parts (fun i => by simp [bne]) htied hhigh fun h i _ j _ hi hj => ?_
  have hpj : less pivot j = true := by simp at hj; exact hj.2
  cases hij : less i j with
  | true => rfl
  | false => exact absurd hpj (by simp [h.not_less_trans hij (hties h i hi)])

/-- None of the positions is in front of the bound. -/
def Bounded (less : Nat → Nat → Bool) (bound : Option Nat) (positions : List Nat) : Prop :=
  ∀ b ∈ bound, ∀ i ∈ positions, less i b = false

/-- No item precedes the pivot if the pivot ties with the bound, or if none is found that does. -/
theorem Bounded.least {bound : Option Nat} {pivot : Nat} (h : Consistent less)
    (hbound : Bounded less bound positions)
    (hequal : (bound.any (fun bound => !less bound pivot) ||
      (positions.filter fun i => i != pivot && less i pivot).isEmpty) = true) :
    ∀ i ∈ positions, less i pivot = false := by
  intro i hi
  rcases Bool.or_eq_true_iff.mp hequal with hany | hempty
  · obtain ⟨b, hb, hbp⟩ := (Option.any_eq_true _ _).mp hany
    exact h.not_less_trans (by simpa using hbp) (hbound b hb i hi)
  · have hnone := List.isEmpty_iff.mp hempty ▸ List.not_mem_nil (a := i)
    by_cases hip : i = pivot
    · exact hip ▸ h.irrefl pivot
    · simpa [hi, hip] using hnone

/-- By induction on the partitions that are allowed. -/
theorem sortParts_yields (room limit : Nat) {bound : Option Nat}
    (rises : positions.Pairwise (· < ·)) (hbound : Consistent less → Bounded less bound positions) :
    Yields less (Sorts less positions) (sortParts less room limit bound positions) := by
  induction limit generalizing bound positions with
  | zero =>
    unfold sortParts
    split
    · exact sortFew_yields less rises
    · exact sortRuns_yields (sortFew_yields less) true room rises
  | succ limit ih =>
    unfold sortParts
    split
    · exact sortFew_yields less rises
    generalize pivot less positions = p
    have hfilter : ∀ keep : Nat → Bool, (positions.filter keep).Pairwise (· < ·) := fun keep =>
      rises.sublist List.filter_sublist
    dsimp only
    split
    · next hequal =>
      refine (ih (hfilter _) fun _ _ hb => absurd hb (Option.not_mem_none _)).bind
        fun high hhigh => ?_
      exact .pure (sorts_by_least rises (fun h => (hbound h).least h hequal) hhigh)
    · refine (ih (hfilter _) fun h b hb i hi => hbound h b hb i (List.mem_filter.mp hi).1).bind
        fun low hlow => ?_
      -- the pivot bounds what does not precede it
      refine (ih (hfilter fun i => i == p || !less i p) fun h b hb i hi => ?_).bind
        fun high hhigh => .pure (sorts_by_pivot hlow hhigh)
      obtain rfl := Option.some.inj hb
      exact of_pivot_or_not (less · p) (h.irrefl p) (List.mem_filter.mp hi).2

end Parts

theorem sortMany_yields {positions : List Nat} (rises : positions.Pairwise (· < ·)) :
    Yields less (Sorts less positions) (sortMany less positions) :=
  sortRuns_yields (fun rises => sortParts_yields _ _ rises fun _ _ hb =>
    absurd hb (Option.not_mem_none _)) _ _ rises

/-- Where the first run cannot be made, the sort of up to sixty-four positions gives up. -/
theorem sortMany_eq_none (hne : positions ≠ []) (few : positions.length ≤ 2 * fewItems)
    (h : nextRun less true (goodLength positions.length) positions = none) :
    sortMany less positions = none := by
  obtain ⟨first, rest, rfl⟩ := List.exists_cons_of_ne_nil hne
  have hruns : runs less true (goodLength (first :: rest).length) (first :: rest) = none := by
    rw [runs, h]
    rfl
  simp only [sortMany, sortRuns, decide_eq_true few, hruns]
  rfl

/-- In a consistent order there is one way in which positions are sorted. -/
theorem Sorts.unique (h : Consistent less) {positions sorted sorted' : List Nat}
    (hs : Sorts less positions sorted) (hs' : Sorts less positions sorted') : sorted = sorted' :=
  (hs.perm.trans hs'.perm.symm).eq_of_pairwise
    (fun _ _ _ _ hab hba => absurd hba (hab.asymm h)) (hs.inOrder h) (hs'.inOrder h)

end Positions

/-! ## The whole sort -/

section Items

variable {α β : Type}

/-- The item at a position; behind the last position it is the first one. -/
def itemAt (first : α) (items : List α) (position : Nat) : α := items.toArray.getD position first

theorem map_itemAt (first : α) (items : List α) :
    (List.range items.length).map (itemAt first items) = items := by
  refine List.ext_getElem (by simp) fun i h _ => ?_
  have hlt : i < items.length := by simpa using h
  simp [itemAt, hlt]

theorem itemAt_map (f : α → β) (first : α) (items : List α) (position : Nat) :
    itemAt (f first) (items.map f) position = f (itemAt first items position) := by
  simp only [itemAt, Array.getD_eq_getD_getElem?, List.getElem?_toArray, List.getElem?_map]
  cases items[position]? <;> rfl

/-- Many items are sorted by their positions. -/
theorem sortBy?_of_many (precedes : α → α → Bool) {first : α} {rest : List α}
    (h : ¬ (first :: rest).length ≤ 20) :
    sortBy? precedes (first :: rest) =
      (sortMany (fun i j => precedes (itemAt first (first :: rest) i)
        (itemAt first (first :: rest) j)) (List.range (first :: rest).length)).map
          (List.map (itemAt first (first :: rest))) := by
  rw [sortBy?, if_neg h]
  rfl

theorem sortBy?_of_few (precedes : α → α → Bool) {items : List α} (h : items.length ≤ 20) :
    sortBy? precedes items = some (sortBy precedes items) := if_pos h

theorem sortBy?_eq_none (precedes : α → α → Bool) (items : List α) {first : α} {rest : List α}
    (hitems : items = first :: rest) (many : 20 < items.length)
    (few : items.length ≤ 2 * fewItems)
    (h : nextRun (fun i j => precedes (itemAt first items i) (itemAt first items j)) true
      (goodLength items.length) (List.range items.length) = none) :
    sortBy? precedes items = none := by
  subst hitems
  have hne : List.range (first :: rest).length ≠ [] := by simp
  have hsort := sortMany_eq_none hne (by rwa [List.length_range]) (by rwa [List.length_range])
  rw [sortBy?_of_many precedes (Nat.not_le_of_gt many), hsort]
  rfl

/-- No item is lost and none is doubled. -/
theorem sortBy?_perm {precedes : α → α → Bool} {items sorted : List α}
    (h : sortBy? precedes items = some sorted) : sorted.Perm items := by
  by_cases hfew : items.length ≤ 20
  · rw [sortBy?_of_few precedes hfew] at h
    exact Option.some.inj h ▸ sortBy_perm precedes items
  · cases items with
    | nil => simp at hfew
    | cons first rest =>
      rw [sortBy?_of_many precedes hfew] at h
      obtain ⟨positions, hpositions, rfl⟩ := Option.map_eq_some_iff.mp h
      have hsorts := (sortMany_yields List.pairwise_lt_range).wanted positions hpositions
      have hperm := hsorts.perm.map (itemAt first (first :: rest))
      rwa [map_itemAt] at hperm

/-- In a consistent order the sort does not give up, and gives what inserting the items one by
one would give. -/
theorem sortBy?_eq (cmp : α → α → Ordering) [TransCmp cmp] (items : List α) :
    sortBy? (fun a b => (cmp a b).isLT) items =
      some (sortBy (fun a b => (cmp a b).isLT) items) := by
  by_cases hfew : items.length ≤ 20
  · exact sortBy?_of_few _ hfew
  · cases items with
    | nil => rfl
    | cons first rest =>
      let item := itemAt first (first :: rest)
      let less (i j : Nat) := (cmp (item i) (item j)).isLT
      have consistent : Consistent less :=
        ⟨fun i j => cmp (item i) (item j), transCmp_of cmp item, fun _ _ => rfl⟩
      have hyields : Yields less (Sorts less (List.range (first :: rest).length)) _ :=
        sortMany_yields List.pairwise_lt_range
      obtain ⟨positions, hpositions⟩ := Option.isSome_iff_exists.mp (hyields.total consistent)
      have hinserted := (hyields.wanted positions hpositions).unique consistent
        (sortBy_sorts less List.pairwise_lt_range)
      have hmap := sortBy_map (fun a b => (cmp a b).isLT) item (List.range (first :: rest).length)
      rw [map_itemAt] at hmap
      rw [sortBy?_of_many _ hfew, hpositions, hinserted, hmap]
      rfl

/-! ## Only comparisons count -/

theorem sortBy?_map (precedes : β → β → Bool) (f : α → β) (items : List α) :
    sortBy? precedes (items.map f) =
      (sortBy? (fun a b => precedes (f a) (f b)) items).map (List.map f) := by
  by_cases hfew : items.length ≤ 20
  · rw [sortBy?_of_few _ hfew, sortBy?_of_few _ (by rwa [List.length_map]), sortBy_map]
    rfl
  · cases items with
    | nil => rfl
    | cons first rest =>
      have hitem := funext (itemAt_map f first (first :: rest))
      have hmany : ¬ (f first :: rest.map f).length ≤ 20 := by
        rwa [List.length_cons, List.length_map, ← List.length_cons (a := first)]
      rw [List.map_cons, sortBy?_of_many _ hmany, sortBy?_of_many _ hfew, ← List.map_cons, hitem,
        List.length_map, Option.map_map]
      refine congrArg (Option.map · _) (funext fun positions => ?_)
      rw [Function.comp_apply, List.map_map]
      rfl

theorem sortBy?_congr {precedes precedes' : α → α → Bool} {items : List α}
    (h : ∀ a ∈ items, ∀ b ∈ items, precedes a b = precedes' a b) :
    sortBy? precedes items = sortBy? precedes' items := by
  have hattached : (fun a b : { x // x ∈ items } => precedes a.1 b.1) =
      fun a b => precedes' a.1 b.1 :=
    funext₂ fun a b => h a.1 a.2 b.1 b.2
  rw [← List.attach_map_subtype_val items, sortBy?_map, sortBy?_map, hattached]

end Items

end DataGrid.Store.Sorting
