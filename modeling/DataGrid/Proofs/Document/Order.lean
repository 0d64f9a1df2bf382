import DataGrid.Document.Order
import DataGrid.Proofs.Number.Binary64

/-!
# DataGrid.Proofs.Document.Order -- the order of sorting

Sorting compares kinds first, and then what a value is within its kind. For values that have a
place of their own this is the order of three keys one behind the other, and so a total order up
to ties. Not-a-number, decimals and symbols have none: they compare with nothing and tie with
all of their rank, with numbers or texts that differ among each other. Across them neither the
order nor being tied is transitive, and they are the only values of which that holds.
-/

namespace DataGrid.Value

open Std

/-! ## The other way around -/

theorem compare?_swap (x y : Binary64) : x.compare? y = (y.compare? x).map Ordering.swap := by
  unfold Binary64.compare?
  rw [Bool.or_comm]
  split
  · rfl
  · exact congrArg some OrientedOrd.eq_swap

/-- A number compares with numbers. -/
theorem compareWithin?_of_number {a : Value} {x : Binary64} (ha : a.numeric? = some x)
    (b : Value) : a.compareWithin? b = b.numeric?.bind x.compare? := by
  unfold compareWithin?
  rw [ha]
  cases b.numeric? with
  | some y => rfl
  | none => cases a with
    | int32 n => rfl
    | int64 n => rfl
    | double y => rfl
    | _ => cases ha

theorem compareWithin?_swap_of_number {a : Value} {x : Binary64} (ha : a.numeric? = some x)
    (b : Value) : a.compareWithin? b = (b.compareWithin? a).map Ordering.swap := by
  rw [compareWithin?_of_number ha]
  cases hb : b.numeric? with
  | some y =>
    rw [compareWithin?_of_number hb, ha]
    exact compare?_swap x y
  | none =>
    unfold compareWithin?
    rw [ha, hb]
    cases a with
    | int32 n => cases b <;> rfl
    | int64 n => cases b <;> rfl
    | double y => cases b <;> rfl
    | _ => cases ha

/-- By cases on the first value; a second one of another kind does not compare either way. -/
theorem compareWithin?_swap (a b : Value) :
    a.compareWithin? b = (b.compareWithin? a).map Ordering.swap := by
  have hcompare : ∀ {α : Type} [Ord α] [OrientedOrd α] (x y : α),
      some (compare x y) = (some (compare y x)).map Ordering.swap :=
    fun _ _ => congrArg some OrientedOrd.eq_swap
  cases a with
  | int32 m => exact compareWithin?_swap_of_number rfl b
  | int64 m => exact compareWithin?_swap_of_number rfl b
  | double x => exact compareWithin?_swap_of_number rfl b
  | string s => cases b with
    | string t => exact hcompare s t
    | _ => rfl
  | dateTime s => cases b with
    | dateTime t => exact hcompare s.toInt t.toInt
    | _ => rfl
  | boolean f => cases b with
    | boolean g => exact hcompare f.toNat g.toNat
    | _ => rfl
  | objectId x => cases b with
    | objectId y => exact hcompare x.value.toNat y.value.toNat
    | _ => rfl
  | _ => cases b <;> rfl

/-- Of two values of different ranks, the ranks decide. -/
theorem sortOrder_of_rank_ne {a b : Option Value} (h : kindRank a ≠ kindRank b) :
    sortOrder a b = compare (kindRank a) (kindRank b) := by
  unfold sortOrder
  split
  · next heq => exact absurd (Nat.compare_eq_eq.mp heq) h
  · rfl

/-- Of two values of one rank, what they are within their kind decides. -/
theorem sortOrder_of_rank_eq {a b : Value} (h : kindRank (some a) = kindRank (some b)) :
    sortOrder (some a) (some b) = (a.compareWithin? b).getD .eq := by
  unfold sortOrder
  rw [h, ReflOrd.compare_self]

theorem sortOrder_swap (a b : Option Value) : sortOrder a b = (sortOrder b a).swap := by
  have hrank : compare (kindRank a) (kindRank b) = (compare (kindRank b) (kindRank a)).swap :=
    OrientedOrd.eq_swap
  unfold sortOrder
  rw [hrank]
  cases compare (kindRank b) (kindRank a) with
  | lt => rfl
  | gt => rfl
  | eq =>
    rcases a with _ | a
    · cases b <;> rfl
    · cases b with
      | none => rfl
      | some b =>
        show (a.compareWithin? b).getD .eq = ((b.compareWithin? a).getD .eq).swap
        rw [compareWithin?_swap a b]
        cases b.compareWithin? a <;> rfl

/-! ## Values with a place -/

/-- The value has a place of its own among those of its rank. -/
def HasPlace : Option Value → Prop
  | some (.double x) => x.isNaN = false
  | some (.decimal128 _) | some (.symbol _) => False
  | _ => True

/-- The number by which a value is placed within its rank. -/
def weight : Option Value → Int
  | some (.boolean flag) => flag.toNat
  | some (.objectId id) => id.value.toNat
  | some (.dateTime millis) => millis.toInt
  | some v => (v.numeric?.map Binary64.rank).getD 0
  | none => 0

/-- The text by which a value is placed within its rank. -/
def wording : Option Value → String
  | some (.string text) => text
  | _ => ""

theorem compare_natCast (m n : Nat) : compare (m : Int) (n : Int) = compare m n := by
  rcases Nat.lt_trichotomy m n with h | rfl | h
  · rw [compare_lt_iff_lt.mpr h, compare_lt_iff_lt.mpr (Int.ofNat_lt.mpr h)]
  · rw [ReflOrd.compare_self, ReflOrd.compare_self]
  · rw [compare_gt_iff_gt.mpr h, compare_gt_iff_gt.mpr (Int.ofNat_lt.mpr h)]

/-- Numbers with a place compare by their ranks. -/
theorem compareWithin?_numbers {a b : Value} {x y : Binary64} (ha : a.numeric? = some x)
    (hb : b.numeric? = some y) (hx : x.isNaN = false) (hy : y.isNaN = false) :
    a.compareWithin? b = some (compare x.rank y.rank) := by
  rw [compareWithin?_of_number ha, hb, Option.bind_some, Binary64.compare?, hx, hy]
  rfl

section Ranks

variable {v : Value} (placed : HasPlace (some v))
include placed

theorem exists_number (h : kindRank (some v) = 2) :
    ∃ x, v.numeric? = some x ∧ x.isNaN = false ∧ weight (some v) = x.rank ∧
      wording (some v) = "" := by
  cases v with
  | int32 n => exact ⟨_, rfl, Binary64.isNaN_ofInt _, rfl, rfl⟩
  | int64 n => exact ⟨_, rfl, Binary64.isNaN_ofInt _, rfl, rfl⟩
  | double x => exact ⟨x, rfl, placed, rfl, rfl⟩
  | decimal128 x => exact placed.elim
  | _ => cases h

theorem exists_text (h : kindRank (some v) = 3) : ∃ text, v = .string text := by
  cases v with
  | string text => exact ⟨text, rfl⟩
  | symbol text => exact placed.elim
  | _ => cases h

end Ranks

/-- Within a rank, values with a place stand by weight and wording. -/
theorem sortOrder_within {a b : Option Value} (ha : HasPlace a) (hb : HasPlace b)
    (h : kindRank a = kindRank b) :
    sortOrder a b = (compare (weight a) (weight b)).then (compare (wording a) (wording b)) := by
  have hthen : ∀ order : Ordering, order = order.then .eq := fun order => by cases order <;> rfl
  -- ranks without an order of their own: all of their values are tied
  rcases a with _ | a
  · cases b with
    | none => rfl
    | some b => cases b <;> first | rfl | cases h
  rcases b with _ | b
  · cases a <;> first | rfl | cases h
  rw [sortOrder_of_rank_eq h]
  have hnumbers : kindRank (some a) = 2 → (a.compareWithin? b).getD .eq =
      (compare (weight (some a)) (weight (some b))).then
        (compare (wording (some a)) (wording (some b))) := by
    intro hrank
    obtain ⟨x, hax, hx, hweight, hwording⟩ := exists_number ha hrank
    obtain ⟨y, hby, hy, hweight', hwording'⟩ := exists_number hb (h ▸ hrank)
    rw [compareWithin?_numbers hax hby hx hy, hweight, hweight', hwording, hwording']
    exact hthen _
  cases a with
  | int32 n => exact hnumbers rfl
  | int64 n => exact hnumbers rfl
  | double x => exact hnumbers rfl
  | decimal128 x => exact ha.elim
  | symbol text => exact ha.elim
  | string s =>
    obtain ⟨t, rfl⟩ := exists_text hb h.symm
    rfl
  | boolean f => cases b with
    | boolean g => exact (compare_natCast f.toNat g.toNat).symm.trans (hthen _)
    | _ => cases h
  | objectId x => cases b with
    | objectId y => exact (compare_natCast x.value.toNat y.value.toNat).symm.trans (hthen _)
    | _ => cases h
  | dateTime s => cases b with
    | dateTime t => exact hthen _
    | _ => cases h
  | _ => cases b <;> first | rfl | cases h

/-- The order by rank, weight and wording. -/
def placeOrder : Option Value → Option Value → Ordering :=
  compareLex (compareOn kindRank) (compareLex (compareOn weight) (compareOn wording))

instance : TransCmp placeOrder :=
  inferInstanceAs
    (TransCmp (compareLex (compareOn kindRank) (compareLex (compareOn weight) (compareOn wording))))

/-- Values with a place are sorted by it. -/
theorem sortOrder_eq_placeOrder {a b : Option Value} (ha : HasPlace a) (hb : HasPlace b) :
    sortOrder a b = placeOrder a b := by
  unfold placeOrder compareLex compareOn
  by_cases h : kindRank a = kindRank b
  · rw [sortOrder_within ha hb h, Nat.compare_eq_eq.mpr h]
    rfl
  · have hne : compare (kindRank a) (kindRank b) ≠ .eq := mt Nat.compare_eq_eq.mp h
    rw [sortOrder_of_rank_ne h]
    cases hrank : compare (kindRank a) (kindRank b) with
    | lt => rfl
    | gt => rfl
    | eq => exact absurd hrank hne

/-! ## Values without a place -/

theorem kindRank_le {a b : Option Value} (h : sortOrder a b ≠ .gt) :
    kindRank a ≤ kindRank b := by
  by_contra hlt
  have hgt := Nat.lt_of_not_le hlt
  rw [sortOrder_of_rank_ne (Nat.ne_of_gt hgt)] at h
  exact h (Nat.compare_eq_gt.mpr hgt)

/-- A value without a place compares with nothing. -/
theorem compareWithin?_of_not_placed {a : Value} (h : ¬ HasPlace (some a)) (b : Value) :
    a.compareWithin? b = none := by
  cases a with
  | double x =>
    have hnan : x.isNaN = true := Bool.eq_true_of_not_eq_false h
    have hnone : x.compare? = fun _ => none := funext fun y => by
      rw [Binary64.compare?, hnan]
      rfl
    rw [compareWithin?_of_number rfl, hnone]
    cases b.numeric? <;> rfl
  | decimal128 x => cases b <;> rfl
  | symbol text => cases b <;> rfl
  | _ => exact absurd trivial h

/-- Only its rank decides on a value without a place. -/
theorem sortOrder_of_not_placed {a : Option Value} (h : ¬ HasPlace a) (b : Option Value) :
    sortOrder a b = compare (kindRank a) (kindRank b) := by
  by_cases hrank : kindRank a = kindRank b
  · rw [Nat.compare_eq_eq.mpr hrank]
    rcases a with _ | a
    · exact absurd trivial h
    · cases b with
      | none => cases a <;> first | exact absurd trivial h | cases hrank
      | some b => rw [sortOrder_of_rank_eq hrank, compareWithin?_of_not_placed h b]; rfl
  · exact sortOrder_of_rank_ne hrank

/-- A value without a place ties with two that are not tied. -/
theorem exists_untied {b : Option Value} (h : ¬ HasPlace b) :
    ∃ a c, sortOrder a b = .eq ∧ sortOrder b c = .eq ∧ sortOrder a c = .gt := by
  have htied : ∀ {v : Option Value}, kindRank v = kindRank b →
      sortOrder v b = .eq ∧ sortOrder b v = .eq := by
    intro v hv
    have hbv : sortOrder b v = .eq := by
      rw [sortOrder_of_not_placed h, Nat.compare_eq_eq.mpr hv.symm]
    exact ⟨by rw [sortOrder_swap, hbv]; rfl, hbv⟩
  have hnumbers : kindRank b = 2 →
      ∃ a c, sortOrder a b = .eq ∧ sortOrder b c = .eq ∧ sortOrder a c = .gt := fun hrank =>
    ⟨some (.int32 1), some (.int32 0), (htied (v := some (.int32 1)) hrank.symm).1,
      (htied (v := some (.int32 0)) hrank.symm).2, by decide +kernel⟩
  rcases b with _ | b
  · exact absurd trivial h
  cases b with
  | double x => exact hnumbers rfl
  | decimal128 x => exact hnumbers rfl
  | symbol text =>
    exact ⟨some (.string "b"), some (.string "a"), (htied rfl).1, (htied rfl).2,
      by decide +kernel⟩
  | _ => exact absurd trivial h

/-! ## How far the order is total -/

/-- Across a value with a place the order is transitive, whatever stands on the sides. -/
theorem sortOrder_trans {a b c : Option Value} (hb : HasPlace b) (hab : sortOrder a b ≠ .gt)
    (hbc : sortOrder b c ≠ .gt) : sortOrder a c ≠ .gt := by
  have hranks := Nat.le_trans (kindRank_le hab) (kindRank_le hbc)
  have hcompare : compare (kindRank a) (kindRank c) ≠ .gt :=
    mt Nat.compare_eq_gt.mp (Nat.not_lt.mpr hranks)
  by_cases ha : HasPlace a
  · by_cases hc : HasPlace c
    · have hle : ∀ order : Ordering, order.isLE = true ↔ order ≠ .gt := by decide
      rw [sortOrder_eq_placeOrder ha hb, ← hle] at hab
      rw [sortOrder_eq_placeOrder hb hc, ← hle] at hbc
      rw [sortOrder_eq_placeOrder ha hc, ← hle]
      exact TransCmp.isLE_trans hab hbc
    · have hca : compare (kindRank c) (kindRank a) ≠ .lt := by
        rw [OrientedOrd.eq_swap (a := kindRank c)]
        exact fun h => hcompare (Ordering.swap_eq_lt.mp h)
      rw [sortOrder_swap, sortOrder_of_not_placed hc]
      exact fun h => hca (Ordering.swap_eq_gt.mp h)
  · rwa [sortOrder_of_not_placed ha]

theorem tied_trans {a b c : Option Value} (hb : HasPlace b) (hab : sortOrder a b = .eq)
    (hbc : sortOrder b c = .eq) : sortOrder a c = .eq := by
  have hne : ∀ {x y : Option Value}, sortOrder x y = .eq → sortOrder x y ≠ .gt := by
    intro x y h
    rw [h]
    decide
  have hba : sortOrder b a = .eq := by rw [sortOrder_swap, hab]; rfl
  have hcb : sortOrder c b = .eq := by rw [sortOrder_swap, hbc]; rfl
  have hac := sortOrder_trans hb (hne hab) (hne hbc)
  have hca := sortOrder_trans hb (hne hcb) (hne hba)
  rw [sortOrder_swap c a] at hca
  cases h : sortOrder a c with
  | lt => rw [h] at hca; exact absurd rfl hca
  | eq => rfl
  | gt => exact absurd h hac

/-- Comparing the other way around always gives the opposite. The order, and being tied, are
transitive across the values that have a place, and across no others. -/
theorem sortOrder_total_across (b : Option Value) :
    (∀ a c, sortOrder a c = (sortOrder c a).swap) ∧
    ((∀ a c, sortOrder a b ≠ .gt → sortOrder b c ≠ .gt → sortOrder a c ≠ .gt) ↔ HasPlace b) ∧
    ((∀ a c, sortOrder a b = .eq → sortOrder b c = .eq → sortOrder a c = .eq) ↔ HasPlace b) := by
  refine ⟨sortOrder_swap, ⟨fun htrans => ?_, fun hb a c => sortOrder_trans hb⟩,
    ⟨fun htied => ?_, fun hb a c => tied_trans hb⟩⟩
  · by_contra hb
    obtain ⟨a, c, hab, hbc, hac⟩ := exists_untied hb
    exact htrans a c (by rw [hab]; decide) (by rw [hbc]; decide) hac
  · by_contra hb
    obtain ⟨a, c, hab, hbc, hac⟩ := exists_untied hb
    rw [htied a c hab hbc] at hac
    cases hac

/-- One is tied with not-a-number and that with zero, yet one comes after zero. -/
theorem sortOrder_around_nan :
    sortOrder (some (.int32 1)) (some (.double .nan)) = .eq ∧
    sortOrder (some (.double .nan)) (some (.int32 0)) = .eq ∧
    sortOrder (some (.int32 1)) (some (.int32 0)) = .gt := by
  decide +kernel

end DataGrid.Value
