import DataGrid.Text.Blank
import DataGrid.Text.Digits
import Mathlib.Algebra.Group.Nat.Defs

/-!
# DataGrid.Proofs.Text.Digits -- numbers in decimal digits

The value of the digits of a number is the number, also with zeros in front. Digits have a value
below the power of ten of which they are as many.
-/

namespace DataGrid.Text

/-! ## Digits among the characters -/

theorem toNat_of_isDigit {c : Char} (h : c.isDigit = true) : 48 ≤ c.toNat ∧ c.toNat ≤ 57 := by
  simpa [Char.isDigit, UInt32.le_iff_toNat_le] using h

theorem isBlank_of_isDigit {c : Char} (h : c.isDigit = true) : isBlank c = false := by
  have hrange := toNat_of_isDigit h
  simp only [isBlank, blankRanges, List.any_cons, List.any_nil, Bool.or_false, Bool.or_eq_false_iff,
    Bool.and_eq_false_iff, decide_eq_false_iff_not]
  omega

/-- Characters of one kind are cut off where something else begins. -/
theorem span_append {p : Char → Bool} {before after : List Char}
    (hbefore : ∀ c ∈ before, p c = true) (ends : after.takeWhile p = []) :
    (before ++ after).takeWhile p = before ∧ (before ++ after).dropWhile p = after := by
  have hafter : after.dropWhile p = after := by
    have hsplit := List.takeWhile_append_dropWhile (p := p) (l := after)
    rwa [ends, List.nil_append] at hsplit
  rw [List.takeWhile_append_of_pos hbefore, List.dropWhile_append_of_pos hbefore, ends, hafter]
  exact ⟨List.append_nil before, rfl⟩

/-! ## Written numbers -/

theorem digitsValue_eq_ofDigitChars (digits : List Char) :
    digitsValue digits = Nat.ofDigitChars 10 digits 0 := by
  have hstep : (fun (value : Nat) c => value * 10 + digitValue c) =
      fun value c => 10 * value + (c.toNat - '0'.toNat) := by
    funext value c
    rw [Nat.mul_comm, digitValue]
  rw [digitsValue, hstep]
  rfl

theorem toList_toString (n : Nat) : (toString n).toList = Nat.toDigits 10 n := by
  rw [Nat.toString_eq_repr, Nat.toList_repr]

theorem isDigit_of_mem_toString {n : Nat} {c : Char} (h : c ∈ (toString n).toList) :
    c.isDigit = true := by
  rw [toList_toString] at h
  exact Nat.isDigit_of_mem_toDigits (by decide) (by decide) h

theorem digitsValue_toString (n : Nat) : digitsValue (toString n).toList = n := by
  rw [digitsValue_eq_ofDigitChars, toList_toString]
  exact Nat.ofDigitChars_toDigits (by decide) (by decide)

/-- Zeros in front do not count. -/
theorem digitsValue_replicate_zero (width n : Nat) :
    digitsValue (List.replicate width '0' ++ (toString n).toList) = n := by
  rw [digitsValue_eq_ofDigitChars, Nat.ofDigitChars_append, Nat.ofDigitChars_replicate_zero,
    Nat.mul_zero, ← digitsValue_eq_ofDigitChars]
  exact digitsValue_toString n

/-- So many digits make less than the power of ten. By induction on the digits, of which each
leaves room for the next. -/
theorem digitsValue_lt {digits : List Char} (h : ∀ c ∈ digits, c.isDigit = true) :
    digitsValue digits < 10 ^ digits.length := by
  have hgrow : ∀ value, digits.foldl (fun value c => value * 10 + digitValue c) value <
      (value + 1) * 10 ^ digits.length := by
    induction digits with
    | nil =>
      intro value
      rw [List.foldl_nil, List.length_nil, Nat.pow_zero, Nat.mul_one]
      exact Nat.lt_succ_self value
    | cons c digits ih =>
      intro value
      obtain ⟨hc, hdigits⟩ := List.forall_mem_cons.mp h
      have hdigit : digitValue c ≤ 9 := by
        have hrange := toNat_of_isDigit hc
        have hzero : '0'.toNat = 48 := rfl
        rw [digitValue, hzero]
        omega
      refine Nat.lt_of_lt_of_le (ih hdigits _) ?_
      rw [List.length_cons, Nat.pow_succ, Nat.mul_comm (10 ^ _) 10, ← Nat.mul_assoc]
      refine Nat.mul_le_mul_right _ ?_
      show value * 10 + digitValue c + 1 ≤ (value + 1) * 10
      omega
  have hzero := hgrow 0
  rwa [Nat.zero_add, Nat.one_mul] at hzero

end DataGrid.Text
