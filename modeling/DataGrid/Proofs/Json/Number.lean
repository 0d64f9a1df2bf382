import DataGrid.Json.Basic
import DataGrid.Proofs.Text.Digits

/-!
# DataGrid.Proofs.Json.Number -- integers are read back

The digits of a number are a literal: they begin with a zero only if that is all. Without fraction
and exponent a literal stands for its integer as long as 64 bits hold it, so an integer is read
back from its digits.
-/

namespace DataGrid.Json

open Text (digitsValue)

/-! ## Digits as literals -/

namespace Literal

/-- Only zero begins with a zero. By induction on the number, a digit at a time from behind. -/
theorem exists_cons_toDigits (n : Nat) :
    ∃ c cs, Nat.toDigits 10 n = c :: cs ∧ (c = '0' → n = 0) := by
  induction n using Nat.strongRecOn with
  | ind n ih =>
    by_cases hsmall : n < 10
    · rw [Nat.toDigits_of_lt_base hsmall]
      exact ⟨_, [], rfl, Nat.digitChar_eq_zero.mp⟩
    · obtain ⟨c, cs, hfront, hzero⟩ := ih (n / 10) (by omega)
      rw [Nat.toDigits_of_base_le (by decide) (Nat.le_of_not_lt hsmall), hfront]
      refine ⟨c, _, rfl, fun hc => ?_⟩
      have := hzero hc
      omega

theorem isWhole_cons {c : Char} (h : c ≠ '0') (cs : List Char) : isWhole (c :: cs) = true := by
  unfold isWhole
  split <;> simp_all

theorem isWhole_toString (n : Nat) : isWhole (toString n).toList = true := by
  rw [Text.toList_toString]
  obtain ⟨c, cs, hdigits, hzero⟩ := exists_cons_toDigits n
  by_cases hc : c = '0'
  · rw [hzero hc]
    rfl
  · rw [hdigits]
    exact isWhole_cons hc cs

variable {digits : List Char}

/-- The sign of a literal as it is written. -/
def sign (negative : Bool) : List Char := if negative then ['-'] else []

/-- A literal goes on behind its whole part. -/
def ofTail? (negative : Bool) (whole : List Char) (tail : List Char) : Option Literal := do
  match tail with
  | '.' :: rest =>
    let fraction := rest.takeWhile Char.isDigit
    if fraction.isEmpty then none
    return ⟨negative, whole, fraction, ← exponent? (rest.dropWhile Char.isDigit)⟩
  | rest => return ⟨negative, whole, [], ← exponent? rest⟩

/-- The sign and the whole part are read, up to where the digits end. -/
theorem ofChars?_whole (negative : Bool) {tail : List Char} (h : ∀ c ∈ digits, c.isDigit = true)
    (whole : isWhole digits = true) (ends : tail.takeWhile Char.isDigit = []) :
    ofChars? (sign negative ++ (digits ++ tail)) = ofTail? negative digits tail := by
  obtain ⟨htake, hdrop⟩ := Text.span_append h ends
  have hread : (if !isWhole ((digits ++ tail).takeWhile Char.isDigit) then none
      else ofTail? negative ((digits ++ tail).takeWhile Char.isDigit)
        ((digits ++ tail).dropWhile Char.isDigit)) = ofTail? negative digits tail := by
    rw [htake, hdrop, whole]
    rfl
  cases negative with
  | true => exact hread
  | false =>
    unfold ofChars?
    split
    next negative cs heq =>
      split at heq
      · -- no digit is taken for the sign
        next hsign =>
          have hnone : digits = [] := by
            rw [← htake, show digits ++ tail = _ from hsign]
            rfl
          rw [hnone] at whole
          cases whole
      · obtain ⟨rfl, rfl⟩ := Prod.mk.inj heq
        exact hread

theorem ofChars?_negative (h : ∀ c ∈ digits, c.isDigit = true) (whole : isWhole digits = true) :
    ofChars? ('-' :: digits) = some ⟨true, digits, [], none⟩ := by
  have hread : ofChars? (sign true ++ (digits ++ [])) = _ := ofChars?_whole true h whole rfl
  rwa [List.append_nil] at hread

theorem ofChars?_natural (h : ∀ c ∈ digits, c.isDigit = true) (whole : isWhole digits = true) :
    ofChars? digits = some ⟨false, digits, [], none⟩ := by
  have hread : ofChars? (sign false ++ (digits ++ [])) = _ := ofChars?_whole false h whole rfl
  rwa [List.append_nil] at hread

end Literal

/-! ## Integers -/

namespace Number

/-- A natural number of 64 bits is read back from its digits. -/
theorem ofLiteral?_natural {n : Nat} (h : n < UInt64.size) :
    ofLiteral? (toString n).toList = some (.natural (UInt64.ofNat n)) := by
  have hinteger : Literal.integer? ⟨false, (toString n).toList, [], none⟩ =
      some (.natural (UInt64.ofNat n)) := by
    rw [Literal.integer?]
    simp only [Text.digitsValue_toString, h]
    rfl
  rw [ofLiteral?, Literal.ofChars?_natural (fun c => Text.isDigit_of_mem_toString)
    (Literal.isWhole_toString n), Option.bind_eq_bind, Option.bind_some]
  simp only [hinteger]

/-- A negative number of 64 bits is read back from its sign and digits. -/
theorem ofLiteral?_negative {n : Nat} (hpos : 0 < n) (h : n ≤ 0x8000000000000000) :
    ofLiteral? ('-' :: (toString n).toList) = some (.negative (Int64.ofInt (-(n : Int)))) := by
  have hmin : Int64.minValue.toInt = -0x8000000000000000 := by decide
  have hinteger : Literal.integer? ⟨true, (toString n).toList, [], none⟩ =
      some (.negative (Int64.ofInt (-(n : Int)))) := by
    rw [Literal.integer?]
    have hrange : 0 < n ∧ -0x8000000000000000 ≤ -(n : Int) := ⟨hpos, by omega⟩
    simp only [Text.digitsValue_toString, hmin, if_pos hrange]
    rfl
  rw [ofLiteral?, Literal.ofChars?_negative (fun c => Text.isDigit_of_mem_toString)
    (Literal.isWhole_toString n), Option.bind_eq_bind, Option.bind_some]
  simp only [hinteger]

end Number

theorem toList_toString_int (n : Int) : (toString n).toList =
    if 0 ≤ n then (toString n.toNat).toList else '-' :: (toString (-n).toNat).toList := by
  rw [Int.toString_eq_repr, Int.repr_eq_if]
  split
  · rfl
  · rw [String.toList_append]
    rfl

@[simp] theorem number?_ofNat {n : Nat} (h : n < UInt64.size) :
    (ofNat n).number? = some (.natural (UInt64.ofNat n)) := Number.ofLiteral?_natural h

end DataGrid.Json
