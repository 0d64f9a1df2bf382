import DataGrid.Number.Binary64
import Mathlib.Algebra.Order.Ring.Nat
import Mathlib.Order.Monotone.Basic
import Mathlib.Order.Compare
import Mathlib.Tactic.Ring
import Mathlib.Tactic.SplitIfs

/-!
# DataGrid.Proofs.Number.Binary64 -- the order of doubles and the integers among them

The magnitude bits of a double grow with its size, so ranks compare as the numbers do that
they stand for. An integer becomes the double of `nearest`: a multiple of the spacing that
doubles have at its size, at most half a spacing away. Integers below `2 ^ 53` stand for
themselves; of larger ones several share a double, but none ever changes sides.
-/

namespace DataGrid.Binary64

/-! ## Sizes in order -/

/-- The size that magnitude bits stand for. -/
def sizeAt (magnitude : Nat) : Nat :=
  (if magnitude / exponentWeight = 0 then magnitude
    else exponentWeight + magnitude % exponentWeight) *
      Nat.pow 2 (magnitude / exponentWeight - 1)

theorem size_eq (x : Binary64) : x.size = sizeAt x.magnitude := rfl

/-- A significand of fifty-three bits at its exponent, or one more than fits, which is the first
of the next exponent. -/
theorem sizeAt_normal {exponent significand : Nat} (hlow : exponentWeight ≤ significand)
    (hhigh : significand ≤ 2 * exponentWeight) :
    sizeAt (exponent * exponentWeight + significand) = significand * Nat.pow 2 exponent := by
  unfold sizeAt exponentWeight at *
  rcases Nat.lt_or_eq_of_le hhigh with hlt | rfl
  · have hdiv : (exponent * 0x10000000000000 + significand) / 0x10000000000000 =
        exponent + 1 := by omega
    have hmod : (exponent * 0x10000000000000 + significand) % 0x10000000000000 =
        significand - 0x10000000000000 := by omega
    rw [hdiv, hmod, if_neg (Nat.succ_ne_zero exponent), Nat.add_sub_cancel,
      Nat.add_sub_cancel' hlow]
  · have hdiv : (exponent * 0x10000000000000 + 2 * 0x10000000000000) / 0x10000000000000 =
        exponent + 2 := by omega
    have hmod : (exponent * 0x10000000000000 + 2 * 0x10000000000000) % 0x10000000000000 = 0 := by
      omega
    rw [hdiv, hmod, if_neg (Nat.succ_ne_zero _), Nat.add_zero, Nat.add_sub_assoc (by decide)]
    show _ * 2 ^ (exponent + 1) = _ * 2 ^ exponent
    ring

theorem sizeAt_subnormal {magnitude : Nat} (h : magnitude ≤ exponentWeight) :
    sizeAt magnitude = magnitude := by
  rcases Nat.lt_or_eq_of_le h with hlt | rfl
  · rw [sizeAt, Nat.div_eq_of_lt hlt]
    exact Nat.mul_one magnitude
  · decide

/-- One step up either stays within an exponent or enters the next one. -/
theorem sizeAt_lt_succ (magnitude : Nat) : sizeAt magnitude < sizeAt (magnitude + 1) := by
  rcases Nat.lt_or_ge magnitude exponentWeight with hsmall | hlarge
  · rw [sizeAt_subnormal hsmall.le, sizeAt_subnormal hsmall]
    exact Nat.lt_succ_self magnitude
  · obtain ⟨exponent, significand, rfl, hlow, hhigh⟩ : ∃ exponent significand,
        magnitude = exponent * exponentWeight + significand ∧ exponentWeight ≤ significand ∧
          significand < 2 * exponentWeight := by
      refine ⟨magnitude / exponentWeight - 1, exponentWeight + magnitude % exponentWeight, ?_⟩
      unfold exponentWeight at *
      omega
    rw [Nat.add_assoc, sizeAt_normal hlow hhigh.le, sizeAt_normal (Nat.le_succ_of_le hlow) hhigh]
    exact Nat.mul_lt_mul_of_pos_right (Nat.lt_succ_self _) (Nat.two_pow_pos exponent)

theorem strictMono_sizeAt : StrictMono sizeAt := strictMono_nat_of_lt_succ sizeAt_lt_succ

/-- Integers that lie to each other as two others do compare alike. -/
theorem compare_congr {a b c d : Int} (hlt : a < b ↔ c < d) (hgt : b < a ↔ d < c) :
    compare a b = compare c d := by
  rcases lt_trichotomy a b with h | h | h
  · rw [compare_lt_iff_lt.mpr h, compare_lt_iff_lt.mpr (hlt.mp h)]
  · have hcd : c = d := by omega
    rw [compare_eq_iff_eq.mpr h, compare_eq_iff_eq.mpr hcd]
  · rw [compare_gt_iff_gt.mpr h, compare_gt_iff_gt.mpr (hgt.mp h)]

theorem rank_lt_rank_iff (x y : Binary64) : x.rank < y.rank ↔ x.scaled < y.scaled := by
  have hzero : sizeAt 0 = 0 := by decide
  have hxy := strictMono_sizeAt.lt_iff_lt (a := x.magnitude) (b := y.magnitude)
  have hyx := strictMono_sizeAt.lt_iff_lt (a := y.magnitude) (b := x.magnitude)
  have hx := strictMono_sizeAt.lt_iff_lt (a := 0) (b := x.magnitude)
  have hy := strictMono_sizeAt.lt_iff_lt (a := 0) (b := y.magnitude)
  unfold rank scaled
  rw [size_eq, size_eq]
  split <;> split <;> omega

/-- Ranks compare as the numbers that they stand for. -/
theorem compare_rank (x y : Binary64) : compare x.rank y.rank = compare x.scaled y.scaled :=
  compare_congr (rank_lt_rank_iff x y) (rank_lt_rank_iff y x)

/-- Away from the two zeros a rank belongs to one double. -/
theorem eq_of_rank_eq {x y : Binary64} (h : x.rank = y.rank) (hy : y.rank ≠ 0) : x = y := by
  have hxlt := x.bits.toNat_lt
  have hylt := y.bits.toNat_lt
  have hbits : x.bits.toNat = y.bits.toNat := by
    unfold rank at h hy
    unfold negative magnitude signWeight at h hy
    split at h <;> split at h <;> simp only [decide_eq_true_eq] at * <;> split at hy <;> omega
  rw [Binary64.mk.injEq]
  exact UInt64.toNat.inj hbits

/-- Apart from the zeros a number equals no other double. -/
theorem equals_eq_decide {x y : Binary64} (hnan : y.isNaN = false) (hy : y.rank ≠ 0) :
    x.equals y = decide (x = y) := by
  by_cases h : x = y
  · rw [h, equals, hnan]
    simp
  · have hrank : x.rank ≠ y.rank := fun hrank => h (eq_of_rank_eq hrank hy)
    rw [equals, decide_eq_false hrank, decide_eq_false h, Bool.and_false]

theorem equals_iff {x y : Binary64} :
    x.equals y = true ↔ x.isNaN = false ∧ y.isNaN = false ∧ x.rank = y.rank := by
  simp [equals, and_assoc]

theorem equals_self {x : Binary64} (h : x.isNaN = false) : x.equals x = true :=
  equals_iff.mpr ⟨h, h, rfl⟩

theorem equals_symm {x y : Binary64} (h : x.equals y = true) : y.equals x = true := by
  obtain ⟨hx, hy, hrank⟩ := equals_iff.mp h
  exact equals_iff.mpr ⟨hy, hx, hrank.symm⟩

theorem equals_trans {x y z : Binary64} (hxy : x.equals y = true) (hyz : y.equals z = true) :
    x.equals z = true := by
  obtain ⟨hx, -, hrank⟩ := equals_iff.mp hxy
  obtain ⟨-, hz, hrank'⟩ := equals_iff.mp hyz
  exact equals_iff.mpr ⟨hx, hz, hrank.trans hrank'⟩

/-! ## Rounding to a neighbour -/

/-- Rounding goes to one of the two neighbours, and to the nearer one. -/
theorem roundHalfEven_cases (num den : Nat) :
    (roundHalfEven num den = num / den ∧ 2 * (num % den) ≤ den) ∨
      (roundHalfEven num den = num / den + 1 ∧ den ≤ 2 * (num % den)) := by
  unfold roundHalfEven
  dsimp only
  split
  · next h => exact .inl ⟨rfl, h.le⟩
  · next hlow =>
    split
    · next h => exact .inr ⟨rfl, h.le⟩
    · next hhigh =>
      split
      · exact .inl ⟨rfl, Nat.le_of_not_lt hhigh⟩
      · exact .inr ⟨rfl, Nat.le_of_not_lt hlow⟩

theorem roundHalfEven_one (num : Nat) : roundHalfEven num 1 = num := by
  unfold roundHalfEven
  simp [Nat.mod_one]

theorem roundHalfEven_mono {a b : Nat} (h : a ≤ b) (den : Nat) :
    roundHalfEven a den ≤ roundHalfEven b den := by
  rcases Nat.lt_or_eq_of_le (Nat.div_le_div_right (c := den) h) with hlt | heq
  · have ha := roundHalfEven_cases a den
    have hb := roundHalfEven_cases b den
    omega
  · -- the same neighbours: the larger number is the farther one from the lower neighbour
    have hmod : a % den ≤ b % den := by
      have ha := Nat.div_add_mod a den
      have hb := Nat.div_add_mod b den
      rw [heq] at ha
      omega
    unfold roundHalfEven
    rw [heq]
    dsimp only
    split_ifs <;> omega

/-! ## Integers as doubles -/

/-- The distance of the doubles around a number. -/
def spacing (n : Nat) : Nat := Nat.pow 2 (Nat.log2 n - 52)

theorem pow_mul_pow (m n : Nat) : Nat.pow 2 m * Nat.pow 2 n = Nat.pow 2 (m + n) :=
  (Nat.pow_add 2 m n).symm

theorem pow_two_pos (n : Nat) : 0 < Nat.pow 2 n := Nat.two_pow_pos n

theorem spacing_pos (n : Nat) : 0 < spacing n := pow_two_pos _

theorem unitsInOne_eq : unitsInOne = Nat.pow 2 1074 := by decide +kernel

theorem unitsInOne_pos : (0 : Int) < unitsInOne := by decide +kernel

/-- The multiple of the spacing that is nearest to a number, a half going to the even one. -/
def nearestNat (n : Nat) : Nat := roundHalfEven n (spacing n) * spacing n

/-- The integer that the double of an integer stands for. -/
def nearest (n : Int) : Int :=
  if n < 0 then -(nearestNat n.natAbs : Int) else (nearestNat n.natAbs : Int)

/-- The integers below `2 ^ 53`. All of them are doubles, and so are the two ends. -/
def exactBound : Nat := 2 * exponentWeight

theorem log2_lt_of_lt {n : Nat} (h : n < exactBound) : Nat.log2 n ≤ 52 := by
  rcases Nat.eq_zero_or_pos n with rfl | hpos
  · decide
  · have : Nat.log2 n < 53 := (Nat.log2_lt hpos.ne').mpr h
    omega

theorem nearestNat_of_log2_le {n : Nat} (h : Nat.log2 n ≤ 52) : nearestNat n = n := by
  have hspacing : spacing n = 1 := by
    rw [spacing, Nat.sub_eq_zero_of_le h]
  rw [nearestNat, hspacing, roundHalfEven_one, Nat.mul_one]

/-- Division by the spacing leaves a significand of fifty-three bits. -/
theorem div_spacing_bounds {n : Nat} (h : 52 ≤ Nat.log2 n) :
    exponentWeight ≤ n / spacing n ∧ n / spacing n < 2 * exponentWeight := by
  have hne : n ≠ 0 := by
    rintro rfl
    simp at h
  have hpos := spacing_pos n
  have hbelow : exponentWeight * spacing n = 2 ^ Nat.log2 n := by
    show 2 ^ 52 * 2 ^ (Nat.log2 n - 52) = 2 ^ Nat.log2 n
    rw [← Nat.pow_add, Nat.add_sub_cancel' h]
  constructor
  · rw [Nat.le_div_iff_mul_le hpos, hbelow]
    exact Nat.log2_self_le hne
  · rw [Nat.div_lt_iff_lt_mul hpos, Nat.mul_assoc, hbelow, ← Nat.pow_succ']
    exact Nat.lt_log2_self

theorem roundHalfEven_spacing_bounds {n : Nat} (h : 52 ≤ Nat.log2 n) :
    exponentWeight ≤ roundHalfEven n (spacing n) ∧
      roundHalfEven n (spacing n) ≤ 2 * exponentWeight := by
  have hdiv := div_spacing_bounds h
  have hcases := roundHalfEven_cases n (spacing n)
  omega

theorem shifted_bounds {n : Nat} (hpos : n ≠ 0) (h : Nat.log2 n < 52) :
    exponentWeight ≤ n * Nat.pow 2 (52 - Nat.log2 n) ∧
      n * Nat.pow 2 (52 - Nat.log2 n) ≤ 2 * exponentWeight := by
  have hlow : 2 ^ Nat.log2 n * 2 ^ (52 - Nat.log2 n) ≤ n * 2 ^ (52 - Nat.log2 n) :=
    Nat.mul_le_mul_right _ (Nat.log2_self_le hpos)
  have hhigh : n * 2 ^ (52 - Nat.log2 n) ≤ 2 ^ (Nat.log2 n + 1) * 2 ^ (52 - Nat.log2 n) :=
    Nat.mul_le_mul_right _ Nat.lt_log2_self.le
  rw [← Nat.pow_add, show Nat.log2 n + (52 - Nat.log2 n) = 52 by omega] at hlow
  rw [← Nat.pow_add, show Nat.log2 n + 1 + (52 - Nat.log2 n) = 53 by omega] at hhigh
  exact ⟨hlow, hhigh⟩

/-- The rounding of an integer that has more than fifty-two bits. -/
theorem roundMagnitude_large {n : Nat} (h : 52 ≤ Nat.log2 n) (hfits : Nat.log2 n ≤ 64) :
    roundMagnitude n 1 =
      (Nat.log2 n + 1022) * exponentWeight + roundHalfEven n (spacing n) := by
  have hne : n ≠ 0 := by
    rintro rfl
    simp at h
  have hlog : Nat.log2 1 = 0 := by decide
  have hestimate : (Nat.log2 n : Int) - (0 : Nat) - 52 = ((Nat.log2 n - 52 : Nat) : Int) := by
    omega
  have hmax : max ((Nat.log2 n - 52 : Nat) : Int) (-1074) = ((Nat.log2 n - 52 : Nat) : Int) := by
    omega
  obtain ⟨hlow, hhigh⟩ := roundHalfEven_spacing_bounds h
  have hdiv : ¬ n / (1 * Nat.pow 2 (Nat.log2 n - 52)) < exponentWeight := by
    rw [Nat.one_mul]
    exact Nat.not_lt.mpr (div_spacing_bounds h).1
  unfold roundMagnitude
  simp only [if_neg hne, hlog, hestimate, Int.natCast_nonneg, ge_iff_le, if_true, Int.toNat_natCast,
    if_neg hdiv, hmax]
  have hunit : 1 * Nat.pow 2 (Nat.log2 n - 52) = spacing n := Nat.one_mul _
  rw [hunit, if_neg (Nat.not_lt.mpr hlow)]
  unfold infiniteMagnitude exponentWeight at *
  omega

/-- An integer with fewer bits is moved up to fifty-three of them. -/
theorem roundMagnitude_small {n : Nat} (hpos : n ≠ 0) (h : Nat.log2 n < 52) :
    roundMagnitude n 1 =
      (Nat.log2 n + 1022) * exponentWeight + n * Nat.pow 2 (52 - Nat.log2 n) := by
  have hlog : Nat.log2 1 = 0 := by decide
  have hestimate : (Nat.log2 n : Int) - (0 : Nat) - 52 = -((52 - Nat.log2 n : Nat) : Int) := by
    omega
  have hnegative : ¬ 0 ≤ -((52 - Nat.log2 n : Nat) : Int) := by omega
  have hmax :
      max (-((52 - Nat.log2 n : Nat) : Int)) (-1074) = -((52 - Nat.log2 n : Nat) : Int) := by
    omega
  obtain ⟨hlow, hhigh⟩ := shifted_bounds hpos h
  have hdiv : ¬ n * Nat.pow 2 (52 - Nat.log2 n) / 1 < exponentWeight := by
    rw [Nat.div_one]
    exact Nat.not_lt.mpr hlow
  unfold roundMagnitude
  simp only [if_neg hpos, hlog, hestimate, ge_iff_le, if_neg hnegative, Int.neg_neg,
    Int.toNat_natCast, if_neg hdiv, hmax, roundHalfEven_one, if_neg (Nat.not_lt.mpr hlow)]
  unfold infiniteMagnitude exponentWeight at *
  omega

/-- The double of an integer of up to sixty-five bits stands for the nearest one. -/
theorem sizeAt_roundMagnitude {n : Nat} (hfits : Nat.log2 n ≤ 64) :
    sizeAt (roundMagnitude n 1) = nearestNat n * unitsInOne := by
  rcases Nat.eq_zero_or_pos n with rfl | hpos
  · rw [nearestNat_of_log2_le (by decide), Nat.zero_mul]
    rfl
  -- a name for the exponent keeps the power from being computed
  obtain ⟨total, htotal⟩ : ∃ total, total = 1074 := ⟨_, rfl⟩
  rw [unitsInOne_eq, ← htotal]
  rcases Nat.lt_or_ge (Nat.log2 n) 52 with hsmall | hlarge
  · obtain ⟨hlow, hhigh⟩ := shifted_bounds hpos.ne' hsmall
    have hexponent : 52 - Nat.log2 n + (Nat.log2 n + 1022) = total := by omega
    rw [roundMagnitude_small hpos.ne' hsmall, sizeAt_normal hlow hhigh,
      nearestNat_of_log2_le hsmall.le, Nat.mul_assoc, pow_mul_pow, hexponent]
  · obtain ⟨hlow, hhigh⟩ := roundHalfEven_spacing_bounds hlarge
    have hexponent : Nat.log2 n - 52 + total = Nat.log2 n + 1022 := by omega
    rw [roundMagnitude_large hlarge hfits, sizeAt_normal hlow hhigh, nearestNat, Nat.mul_assoc,
      spacing, pow_mul_pow, hexponent]

/-! ### With a sign -/

theorem toNat_ofMagnitude (negative : Bool) {magnitude : Nat} (h : magnitude < signWeight) :
    (ofMagnitude negative magnitude).bits.toNat =
      (if negative then signWeight else 0) + magnitude := by
  unfold ofMagnitude
  rw [Nat.mod_eq_of_lt h, UInt64.toNat_ofNat']
  refine Nat.mod_eq_of_lt ?_
  unfold signWeight at *
  split <;> omega

theorem magnitude_ofMagnitude (negative : Bool) {magnitude : Nat} (h : magnitude < signWeight) :
    (ofMagnitude negative magnitude).magnitude = magnitude := by
  rw [Binary64.magnitude, toNat_ofMagnitude negative h]
  cases negative
  · rw [if_neg Bool.false_ne_true, Nat.zero_add, Nat.mod_eq_of_lt h]
  · rw [if_pos rfl, Nat.add_mod_left, Nat.mod_eq_of_lt h]

theorem negative_ofMagnitude (negative : Bool) {magnitude : Nat} (h : magnitude < signWeight) :
    (ofMagnitude negative magnitude).negative = negative := by
  rw [Binary64.negative, toNat_ofMagnitude negative h]
  cases negative
  · simpa using h
  · simp

theorem roundMagnitude_le (num den : Nat) : roundMagnitude num den ≤ infiniteMagnitude := by
  unfold roundMagnitude
  split
  · exact Nat.zero_le _
  · exact Nat.min_le_right _ _

theorem roundMagnitude_lt (num den : Nat) : roundMagnitude num den < signWeight :=
  Nat.lt_of_le_of_lt (roundMagnitude_le num den) (by decide)

/-- What rounding gives is a number. -/
theorem isNaN_ofRatio (negative : Bool) (num den : Nat) :
    (ofRatio negative num den).isNaN = false := by
  rw [isNaN, ofRatio, magnitude_ofMagnitude negative (roundMagnitude_lt num den)]
  exact decide_eq_false (Nat.not_lt.mpr (roundMagnitude_le num den))

theorem isNaN_ofInt (n : Int) : (ofInt n).isNaN = false := isNaN_ofRatio _ _ _

/-- The integers of up to sixty-four bits and a sign. -/
def IsWide (n : Int) : Prop := Nat.log2 n.natAbs ≤ 64

theorem scaled_ofInt {n : Int} (h : IsWide n) : (ofInt n).scaled = nearest n * unitsInOne := by
  have hlt := roundMagnitude_lt n.natAbs 1
  have hsize : (ofInt n).size = nearestNat n.natAbs * unitsInOne := by
    rw [size_eq, ofInt, ofRatio, magnitude_ofMagnitude _ hlt, sizeAt_roundMagnitude h]
  have hnegative : (ofInt n).negative = decide (n < 0) := by
    rw [ofInt, ofRatio, negative_ofMagnitude _ hlt]
  rw [scaled, hsize, hnegative, nearest, Int.natCast_mul]
  by_cases hn : n < 0
  · rw [decide_eq_true hn, if_pos rfl, if_pos hn, Int.neg_mul]
  · rw [decide_eq_false hn, if_neg Bool.false_ne_true, if_neg hn]

/-- Integers compare as doubles like the integers that these stand for. -/
theorem compare_rank_ofInt {m n : Int} (hm : IsWide m) (hn : IsWide n) :
    compare (ofInt m).rank (ofInt n).rank = compare (nearest m) (nearest n) := by
  rw [compare_rank, scaled_ofInt hm, scaled_ofInt hn]
  exact compare_congr (Int.mul_lt_mul_right unitsInOne_pos) (Int.mul_lt_mul_right unitsInOne_pos)

theorem equals_ofInt {m n : Int} (hm : IsWide m) (hn : IsWide n) :
    (ofInt m).equals (ofInt n) = decide (nearest m = nearest n) := by
  have hrank : (ofInt m).rank = (ofInt n).rank ↔ nearest m = nearest n := by
    rw [← compare_eq_iff_eq, compare_rank_ofInt hm hn, compare_eq_iff_eq]
  rw [equals, isNaN_ofInt, isNaN_ofInt]
  exact decide_eq_decide.mpr hrank

/-! ### What rounding keeps -/

theorem nearestNat_of_le {n : Nat} (h : n ≤ exactBound) : nearestNat n = n := by
  rcases Nat.lt_or_eq_of_le h with hlt | rfl
  · exact nearestNat_of_log2_le (log2_lt_of_lt hlt)
  · decide +kernel

/-- Integers up to `2 ^ 53` stand for themselves. -/
theorem nearest_of_le {n : Int} (h : n.natAbs ≤ exactBound) : nearest n = n := by
  rw [nearest, nearestNat_of_le h]
  split <;> omega

theorem nearestNat_bounds {n : Nat} (hne : n ≠ 0) :
    2 ^ Nat.log2 n ≤ nearestNat n ∧ nearestNat n ≤ 2 ^ (Nat.log2 n + 1) := by
  rcases Nat.lt_or_ge (Nat.log2 n) 52 with hsmall | hlarge
  · rw [nearestNat_of_log2_le hsmall.le]
    exact ⟨Nat.log2_self_le hne, Nat.lt_log2_self.le⟩
  · obtain ⟨hlow, hhigh⟩ := roundHalfEven_spacing_bounds hlarge
    have hbelow : exponentWeight * spacing n = 2 ^ Nat.log2 n := by
      show 2 ^ 52 * 2 ^ (Nat.log2 n - 52) = 2 ^ Nat.log2 n
      rw [← Nat.pow_add, Nat.add_sub_cancel' hlarge]
    constructor
    · rw [← hbelow]
      exact Nat.mul_le_mul_right _ hlow
    · rw [Nat.pow_succ', ← hbelow, ← Nat.mul_assoc]
      exact Nat.mul_le_mul_right _ hhigh

/-- By the number of bits: within one number the multiples are the same, and each number of bits
ends where the next one begins. -/
theorem nearestNat_mono {m n : Nat} (h : m ≤ n) : nearestNat m ≤ nearestNat n := by
  rcases Nat.eq_zero_or_pos m with rfl | hpos
  · rw [nearestNat_of_le (Nat.zero_le _)]
    exact Nat.zero_le _
  have hm : m ≠ 0 := hpos.ne'
  have hn : n ≠ 0 := by omega
  have hlog : Nat.log2 m ≤ Nat.log2 n :=
    (Nat.le_log2 hn).mpr (Nat.le_trans (Nat.log2_self_le hm) h)
  rcases Nat.lt_or_eq_of_le hlog with hlt | heq
  · calc nearestNat m ≤ 2 ^ (Nat.log2 m + 1) := (nearestNat_bounds hm).2
      _ ≤ 2 ^ Nat.log2 n := Nat.pow_le_pow_right Nat.two_pos hlt
      _ ≤ nearestNat n := (nearestNat_bounds hn).1
  · have hspacing : spacing m = spacing n := by rw [spacing, spacing, heq]
    rw [nearestNat, nearestNat, hspacing]
    exact Nat.mul_le_mul_right _ (roundHalfEven_mono h _)

/-- No integer is rounded past another. -/
theorem nearest_mono {m n : Int} (h : m ≤ n) : nearest m ≤ nearest n := by
  unfold nearest
  split
  · split
    · have := nearestNat_mono (show n.natAbs ≤ m.natAbs by omega)
      omega
    · omega
  · rw [if_neg (by omega)]
    exact Int.ofNat_le.mpr (nearestNat_mono (by omega))

/-- Rounding moves a number by half a spacing at most. -/
theorem nearestNat_error (n : Nat) :
    2 * nearestNat n ≤ 2 * n + spacing n ∧ 2 * n ≤ 2 * nearestNat n + spacing n := by
  have hdiv := Nat.div_add_mod' n (spacing n)
  unfold nearestNat
  rcases roundHalfEven_cases n (spacing n) with ⟨heq, hmod⟩ | ⟨heq, hmod⟩
  · rw [heq]
    omega
  · rw [heq, Nat.add_mul, Nat.one_mul]
    have := Nat.mod_lt n (spacing_pos n)
    omega

theorem nearest_error (n : Int) : 2 * (nearest n - n).natAbs ≤ spacing n.natAbs := by
  have := nearestNat_error n.natAbs
  unfold nearest
  split <;> omega

/-- Integers that become one double are no farther apart than doubles are around there. -/
theorem distance_of_nearest_eq {m n : Int} (h : nearest m = nearest n) :
    2 * (m - n).natAbs ≤ spacing m.natAbs + spacing n.natAbs := by
  have hm := nearest_error m
  have hn := nearest_error n
  omega

/-- The two integers are never taken for one another: one of them is below `2 ^ 53`, or both are
at its ends. -/
def Discernible (m n : Int) : Prop :=
  m.natAbs < exactBound ∨ n.natAbs < exactBound ∨
    (m.natAbs ≤ exactBound ∧ n.natAbs ≤ exactBound)

/-- Up to `2 ^ 53` nothing is rounded, and what is beyond stays there. -/
theorem nearest_cases (n : Int) :
    (n.natAbs ≤ exactBound ∧ nearest n = n) ∨
      ((exactBound : Int) < n ∧ (exactBound : Int) ≤ nearest n) ∨
      (n < -(exactBound : Int) ∧ nearest n ≤ -(exactBound : Int)) := by
  have hup : nearest exactBound = exactBound := nearest_of_le (by decide)
  have hdown : nearest (-(exactBound : Int)) = -(exactBound : Int) := nearest_of_le (by decide)
  rcases Nat.lt_or_ge exactBound n.natAbs with hbeyond | hwithin
  · rcases lt_or_ge n 0 with hneg | hpos
    · have hle := nearest_mono (show n ≤ -(exactBound : Int) by omega)
      exact .inr (.inr ⟨by omega, hdown ▸ hle⟩)
    · have hle := nearest_mono (show (exactBound : Int) ≤ n by omega)
      exact .inr (.inl ⟨by omega, hup ▸ hle⟩)
  · exact .inl ⟨hwithin, nearest_of_le hwithin⟩

theorem nearest_lt_iff {m n : Int} (h : Discernible m n) : nearest m < nearest n ↔ m < n := by
  have hm := nearest_cases m
  have hn := nearest_cases n
  unfold Discernible at h
  omega

theorem Discernible.symm {m n : Int} (h : Discernible m n) : Discernible n m := by
  unfold Discernible at *
  omega

/-- Integers that can be told apart stand in the order of their doubles. -/
theorem compare_nearest {m n : Int} (h : Discernible m n) :
    compare (nearest m) (nearest n) = compare m n :=
  compare_congr (nearest_lt_iff h) (nearest_lt_iff h.symm)

end DataGrid.Binary64
