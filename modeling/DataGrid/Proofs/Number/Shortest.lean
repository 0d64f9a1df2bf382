import DataGrid.Number.Shortest
import DataGrid.Proofs.Number.Binary64

/-!
# DataGrid.Proofs.Number.Shortest -- shortest decimals are positive

A number other than zero is written with digits other than zero. Whatever point of a grid is
found lies in the interval of the number, which is above zero. If none were found, the digits
would be those of the number itself on the last grid; its step is not larger than the number,
because the estimate of the decimal position is too large by a few places at most.
-/

namespace DataGrid

theorem Decimal.stripZeros_pos {d : Decimal} (h : 0 < d.digits) (fuel : Nat) :
    0 < (stripZeros fuel d).digits := by
  induction fuel generalizing d with
  | zero => exact h
  | succ fuel ih =>
    rw [stripZeros]
    split
    · next hzero => exact ih (show 0 < d.digits / 10 by omega)
    · exact h

namespace Binary64

/-! ## Powers of two and of ten -/

theorem pow_two_mono {m n : Nat} (h : m ≤ n) : Nat.pow 2 m ≤ Nat.pow 2 n :=
  Nat.pow_le_pow_right Nat.two_pos h

/-- Three decimal places are less than ten binary ones. -/
theorem pow_ten_le {e b : Nat} (h : 10 * e ≤ 3 * b) : Nat.pow 10 e ≤ Nat.pow 2 b := by
  refine (Nat.pow_le_pow_iff_left (n := 3) (by decide)).mp ?_
  calc (10 ^ e) ^ 3 = (10 ^ 3) ^ e := by rw [← Nat.pow_mul, Nat.mul_comm, Nat.pow_mul]
    _ ≤ (2 ^ 10) ^ e := Nat.pow_le_pow_left (by decide) e
    _ = 2 ^ (10 * e) := (Nat.pow_mul ..).symm
    _ ≤ 2 ^ (b * 3) := Nat.pow_le_pow_right (by decide) (by omega)
    _ = (2 ^ b) ^ 3 := Nat.pow_mul ..

/-- Four decimal places are more than thirteen binary ones. -/
theorem le_pow_ten {m k : Nat} (h : 4 * m ≤ 13 * k) : Nat.pow 2 m ≤ Nat.pow 10 k := by
  refine (Nat.pow_le_pow_iff_left (n := 4) (by decide)).mp ?_
  calc (2 ^ m) ^ 4 = 2 ^ (m * 4) := (Nat.pow_mul ..).symm
    _ ≤ 2 ^ (13 * k) := Nat.pow_le_pow_right (by decide) (by omega)
    _ = (2 ^ 13) ^ k := Nat.pow_mul ..
    _ ≤ (10 ^ 4) ^ k := Nat.pow_le_pow_left (by decide) k
    _ = (10 ^ k) ^ 4 := by rw [← Nat.pow_mul, Nat.mul_comm, Nat.pow_mul]

/-- The place of the common denominator among the binary ones. -/
def denominatorPlace : Nat := 1076

theorem intervalDenominator_eq : intervalDenominator = Nat.pow 2 denominatorPlace := by
  decide +kernel

/-! ## Grids -/

theorem gridScale_pos (exponent : Int) :
    0 < (gridScale exponent).1 ∧ 0 < (gridScale exponent).2 := by
  have hdenominator : 0 < intervalDenominator := by decide +kernel
  unfold gridScale
  split
  · exact ⟨Nat.one_pos, Nat.mul_pos hdenominator (Nat.pow_pos (by decide))⟩
  · exact ⟨Nat.pow_pos (by decide), hdenominator⟩

/-- A grid that is coarser by twelve places less than the logarithm tells is not coarser than
the number. -/
theorem gridScale_le {value : Nat} (hpos : value ≠ 0) (hfits : value.log2 ≤ 2100) {exponent : Int}
    (h : exponent ≤ ((value.log2 : Int) - 1076) * 30103 / 100000 - 12) :
    (gridScale exponent).2 ≤ value * (gridScale exponent).1 := by
  have hplace : denominatorPlace = 1076 := rfl
  have hvalue : Nat.pow 2 value.log2 ≤ value := Nat.log2_self_le hpos
  unfold gridScale
  rw [intervalDenominator_eq]
  split
  · -- places above the denominator: the power of ten stands against those of the number
    obtain ⟨above, habove⟩ : ∃ above, value.log2 = denominatorPlace + above :=
      ⟨value.log2 - denominatorPlace, by omega⟩
    have hplaces : 10 * exponent.toNat ≤ 3 * above := by omega
    calc Nat.pow 2 denominatorPlace * Nat.pow 10 exponent.toNat
        ≤ Nat.pow 2 denominatorPlace * Nat.pow 2 above :=
          Nat.mul_le_mul_left _ (pow_ten_le hplaces)
      _ = Nat.pow 2 (denominatorPlace + above) := pow_mul_pow _ _
      _ ≤ value := habove ▸ hvalue
      _ = value * 1 := (Nat.mul_one value).symm
  · -- places below it: the power of ten makes up for those that the number lacks
    have hplaces : 4 * (denominatorPlace - value.log2) ≤ 13 * (-exponent).toNat := by omega
    dsimp only
    calc Nat.pow 2 denominatorPlace
        ≤ Nat.pow 2 (value.log2 + (denominatorPlace - value.log2)) :=
          pow_two_mono (by omega)
      _ = Nat.pow 2 value.log2 * Nat.pow 2 (denominatorPlace - value.log2) :=
          (pow_mul_pow _ _).symm
      _ ≤ value * Nat.pow 10 (-exponent).toNat := Nat.mul_le_mul hvalue (le_pow_ten hplaces)

/-- A point that is found is not below the interval. -/
theorem le_of_gridPoint? {interval : RoundingInterval} {tie : Tie} {exponent : Int} {point : Nat}
    (h : gridPoint? interval tie exponent = some point) :
    interval.low * (gridScale exponent).1 ≤ point * (gridScale exponent).2 := by
  unfold gridPoint? at h
  -- whichever of the two neighbours is taken, it was found inside
  have hinside : ∀ place scale, (if interval.closed then
      decide (interval.low * scale ≤ place) && decide (place ≤ interval.high * scale)
    else decide (interval.low * scale < place) && decide (place < interval.high * scale)) = true →
      interval.low * scale ≤ place := by
    intro place scale hplace
    split at hplace <;> simp at hplace <;> omega
  dsimp only at h
  split at h
  · cases h
  · next hlower _ =>
    obtain rfl := Option.some.inj h
    exact hinside _ _ hlower
  · next _ hupper =>
    obtain rfl := Option.some.inj h
    exact hinside _ _ hupper
  · next hlower hupper =>
    have hneighbour : point = interval.value * (gridScale exponent).1 / (gridScale exponent).2 ∨
        point = interval.value * (gridScale exponent).1 / (gridScale exponent).2 + 1 := by
      split at h
      · exact .inl (Option.some.inj h).symm
      · split at h
        · exact .inr (Option.some.inj h).symm
        · split at h
          · exact .inr (Option.some.inj h).symm
          · split at h
            · exact .inl (Option.some.inj h).symm
            · exact .inr (Option.some.inj h).symm
    rcases hneighbour with rfl | rfl
    · exact hinside _ _ hlower
    · exact hinside _ _ hupper

/-- A point of an interval above zero is above zero. -/
theorem gridPoint?_pos {interval : RoundingInterval} (hlow : 0 < interval.low) {tie : Tie}
    {exponent : Int} {point : Nat} (h : gridPoint? interval tie exponent = some point) :
    0 < point := by
  have hle := le_of_gridPoint? h
  have hscale : 0 < interval.low * (gridScale exponent).1 :=
    Nat.mul_pos hlow (gridScale_pos exponent).1
  exact Nat.pos_of_mul_pos_right (Nat.lt_of_lt_of_le hscale hle)

theorem decimalPosition_le (value fuel : Nat) (position : Int) :
    decimalPosition value fuel position ≤ position + fuel := by
  induction fuel generalizing position with
  | zero => exact Int.le_of_eq (Int.add_zero _).symm
  | succ fuel ih =>
    rw [decimalPosition]
    dsimp only
    split
    · omega
    · have := ih (position + 1)
      omega

theorem firstGridPoint_pos {interval : RoundingInterval} (hlow : 0 < interval.low) (tie : Tie)
    (position : Int) {fuel count : Nat}
    (hlast : (gridScale (position - (count + fuel : Nat))).2 ≤
      interval.value * (gridScale (position - (count + fuel : Nat))).1) :
    0 < (firstGridPoint interval tie position fuel count).digits := by
  induction fuel generalizing count with
  | zero =>
    exact Nat.div_pos hlast (gridScale_pos _).2
  | succ fuel ih =>
    rw [firstGridPoint]
    split
    · next point hpoint => exact gridPoint?_pos hlow hpoint
    · refine ih ?_
      rwa [Nat.add_right_comm, Nat.add_assoc]

/-! ## The interval of a number -/

section Interval

variable {x : Binary64}

theorem significand_pos (h : x.isZero = false) : 0 < x.significand := by
  have hmagnitude : x.magnitude ≠ 0 := by simpa [isZero] using h
  unfold significand
  split
  · exact Nat.pos_of_ne_zero hmagnitude
  · exact Nat.lt_of_lt_of_le (by decide) (Nat.le_add_right exponentWeight _)

theorem significand_lt (x : Binary64) : x.significand < 2 * exponentWeight := by
  have hmod := Nat.mod_lt x.magnitude (show 0 < exponentWeight by decide)
  unfold significand
  split
  · next hdiv =>
    have := (Nat.div_eq_zero_iff_lt (by decide)).mp hdiv
    omega
  · omega

theorem unitExponent_le (h : x.isFinite = true) : x.unitExponent ≤ 2045 := by
  have hmagnitude : x.magnitude < 2047 * exponentWeight := of_decide_eq_true h
  have hdiv : x.magnitude / exponentWeight < 2047 :=
    (Nat.div_lt_iff_lt_mul (by decide)).mpr hmagnitude
  unfold unitExponent
  omega

/-- The interval ends below at more than half of the number. -/
theorem low_pos (h : x.isZero = false) : 0 < x.roundingInterval.low := by
  have hunit : 0 < Nat.pow 2 x.unitExponent := Nat.pow_pos (by decide)
  have hvalue : 4 * Nat.pow 2 x.unitExponent ≤ 4 * x.significand * Nat.pow 2 x.unitExponent :=
    Nat.mul_le_mul_right _ (Nat.mul_le_mul_left 4 (significand_pos h))
  show 0 < 4 * x.significand * Nat.pow 2 x.unitExponent -
    (if x.significand = exponentWeight ∧ 0 < x.unitExponent then Nat.pow 2 x.unitExponent
      else 2 * Nat.pow 2 x.unitExponent)
  split <;> omega

theorem value_ne_zero (h : x.isZero = false) : x.roundingInterval.value ≠ 0 :=
  Nat.ne_of_gt (Nat.mul_pos (Nat.mul_pos (by decide) (significand_pos h))
    (Nat.pow_pos (by decide)))

theorem log2_value_le (hfinite : x.isFinite = true) (hzero : x.isZero = false) :
    x.roundingInterval.value.log2 ≤ 2100 := by
  have hsignificand : 4 * x.significand < 2 ^ 55 := by
    have := x.significand_lt
    unfold exponentWeight at this
    omega
  have hvalue : x.roundingInterval.value < 2 ^ (55 + x.unitExponent) := by
    rw [Nat.pow_add]
    exact Nat.mul_lt_mul_of_pos_right hsignificand (Nat.pow_pos (by decide))
  have hlog := (Nat.log2_lt (value_ne_zero hzero)).mpr hvalue
  have hexponent := unitExponent_le hfinite
  omega

/-- A finite number other than zero is written with digits other than zero. -/
theorem shortest_digits_pos (hfinite : x.isFinite = true) (hzero : x.isZero = false) (tie : Tie) :
    0 < (x.shortest tie).digits := by
  refine Decimal.stripZeros_pos (firstGridPoint_pos (low_pos hzero) tie _ ?_) 20
  refine gridScale_le (value_ne_zero hzero) (log2_value_le hfinite hzero) ?_
  have hposition := decimalPosition_le x.roundingInterval.value 8
    (((x.roundingInterval.value.log2 : Int) - 1076) * 30103 / 100000 - 2)
  omega

end Interval

end Binary64
end DataGrid
