import DataGrid.Document.ObjectId

/-!
# DataGrid.Proofs.Document.ObjectId -- the text of an identifier names it

The twenty-four digits of an identifier are read back as the identifier that they were written
from, so different identifiers have different texts.
-/

namespace DataGrid

namespace Hex

theorem digitValue?_digit {value : Nat} (h : value < 16) :
    digitValue? (digit value) = some value := by
  have hall : ∀ value < 16, digitValue? (digit value) = some value := by decide
  exact hall value h

/-- As many digits as are written hold the number up to that power of sixteen. -/
theorem toNat?_ofNat (width value : Nat) :
    toNat? (ofNat width value) = some (value % Nat.pow 16 width) := by
  induction width generalizing value with
  | zero => exact congrArg some (Nat.mod_one value).symm
  | succ width ih =>
    -- the digits in front hold the quotient, the last one the rest
    have hlast := digitValue?_digit (Nat.mod_lt value (by decide : 16 > 0))
    have hsplit : value % Nat.pow 16 (width + 1) =
        value / 16 % Nat.pow 16 width * 16 + value % 16 := by
      rw [show Nat.pow 16 (width + 1) = 16 * Nat.pow 16 width from Nat.mul_comm _ _,
        Nat.mod_mul, Nat.mul_comm, Nat.add_comm]
    have hfront : (ofNat width (value / 16)).foldlM
        (fun value c => (digitValue? c).map (value * 16 + ·)) 0 =
          some (value / 16 % Nat.pow 16 width) := ih (value / 16)
    rw [toNat?, ofNat, List.foldlM_append, hfront, hsplit]
    simp [hlast]

theorem length_ofNat (width value : Nat) : (ofNat width value).length = width := by
  induction width generalizing value with
  | zero => rfl
  | succ width ih => rw [ofNat, List.length_append, ih, List.length_singleton]

end Hex

namespace ObjectId

theorem ofHex?_toHex (id : ObjectId) : ofHex? id.toHex = some id := by
  have hbound : id.value.toNat % Nat.pow 16 24 = id.value.toNat :=
    Nat.mod_eq_of_lt id.value.isLt
  rw [ofHex?, toHex, String.toList_ofList]
  simp only [Hex.length_ofNat, if_true, Hex.toNat?_ofNat, hbound]
  simp

theorem toHex_inj {a b : ObjectId} : a.toHex = b.toHex ↔ a = b := by
  constructor
  · intro h
    have hread := ofHex?_toHex a
    rw [h, ofHex?_toHex] at hread
    exact (Option.some.inj hread).symm
  · rintro rfl
    rfl

end ObjectId
end DataGrid
