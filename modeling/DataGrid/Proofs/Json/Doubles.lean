import DataGrid.Document.ToJson
import DataGrid.Proofs.Json.RoundTrip
import DataGrid.Proofs.Number.Shortest

/-!
# DataGrid.Proofs.Json.Doubles -- doubles are written as literals

Whatever double is written into a JSON text, what stands there is a number literal, or null.
A literal is made of a sign, a whole part, a fraction and an exponent; each form of writing
a double is such a sequence. That the whole part has no zero in front that does not count rests
on the digits of the number being those of a number other than zero.
-/

namespace DataGrid.Json

/-! ## Literals from their parts -/

/-- Characters that are all digits. -/
def Digits (cs : List Char) : Prop := ∀ c ∈ cs, c.isDigit = true

theorem Digits.append {before after : List Char} (hbefore : Digits before)
    (hafter : Digits after) : Digits (before ++ after) :=
  fun c hc => (List.mem_append.mp hc).elim (hbefore c) (hafter c)

theorem Digits.isNumeric {cs : List Char} (h : Digits cs) : ∀ c ∈ cs, Reader.isNumeric c = true :=
  fun c hc => isNumeric_of_isDigit (h c hc)

theorem digits_toString (n : Nat) : Digits (toString n).toList :=
  fun _ => Text.isDigit_of_mem_toString

theorem digits_zero : Digits ['0'] := List.forall_mem_singleton.mpr rfl

theorem digits_replicate (count : Nat) : Digits (List.replicate count '0') := by
  intro c hc
  rw [List.eq_of_mem_replicate hc]
  rfl

/-- An exponent that may be missing: a letter, a sign and digits. -/
inductive IsExponent : List Char → Prop where
  | none : IsExponent []
  | signed {sign : Char} {cs : List Char} (hsign : sign = '-' ∨ sign = '+')
      (hdigits : Digits cs) (nonempty : cs ≠ []) : IsExponent ('e' :: sign :: cs)

theorem IsExponent.isNumeric {cs : List Char} (h : IsExponent cs) :
    ∀ c ∈ cs, Reader.isNumeric c = true := by
  cases h with
  | none => exact fun c hc => absurd hc List.not_mem_nil
  | signed hsign hdigits =>
    refine List.forall_mem_cons.mpr ⟨rfl, List.forall_mem_cons.mpr ⟨?_, hdigits.isNumeric⟩⟩
    rcases hsign with rfl | rfl <;> rfl

theorem IsExponent.takeWhile {cs : List Char} (h : IsExponent cs) :
    cs.takeWhile Char.isDigit = [] := by
  cases h <;> rfl

theorem IsExponent.exists_exponent {cs : List Char} (h : IsExponent cs) :
    ∃ exponent, Literal.exponent? cs = some exponent := by
  cases h with
  | none => exact ⟨_, rfl⟩
  | signed hsign hdigits nonempty =>
    have hall : List.all _ Char.isDigit = true := List.all_eq_true.mpr hdigits
    rcases hsign with rfl | rfl
    · simp [Literal.exponent?, nonempty, hall]
    · simp [Literal.exponent?, nonempty, hall]

theorem isNumeric_sign (negative : Bool) :
    ∀ c ∈ Literal.sign negative, Reader.isNumeric c = true := by
  cases negative with
  | true => exact List.forall_mem_singleton.mpr rfl
  | false => exact fun c hc => absurd hc List.not_mem_nil

section Parts

variable {whole fraction exponent : List Char} (negative : Bool)

/-- A literal with a fraction. -/
theorem isLiteral_fraction (hwhole : Digits whole) (isWhole : Literal.isWhole whole = true)
    (hfraction : Digits fraction) (nonempty : fraction ≠ []) (hexponent : IsExponent exponent) :
    IsLiteral (Literal.sign negative ++ (whole ++ '.' :: (fraction ++ exponent))) := by
  constructor
  · simp only [List.forall_mem_append, List.forall_mem_cons]
    exact ⟨isNumeric_sign negative, hwhole.isNumeric, rfl, hfraction.isNumeric,
      hexponent.isNumeric⟩
  · obtain ⟨value, hvalue⟩ := hexponent.exists_exponent
    obtain ⟨htake, hdrop⟩ := Text.span_append hfraction hexponent.takeWhile
    rw [Literal.ofChars?_whole negative hwhole isWhole rfl, Literal.ofTail?]
    simp [htake, hdrop, hvalue, nonempty]

/-- A literal without a fraction. -/
theorem isLiteral_exponent (hwhole : Digits whole) (isWhole : Literal.isWhole whole = true)
    (hexponent : IsExponent exponent) :
    IsLiteral (Literal.sign negative ++ (whole ++ exponent)) := by
  constructor
  · simp only [List.forall_mem_append]
    exact ⟨isNumeric_sign negative, hwhole.isNumeric, hexponent.isNumeric⟩
  · obtain ⟨value, hvalue⟩ := hexponent.exists_exponent
    rw [Literal.ofChars?_whole negative hwhole isWhole hexponent.takeWhile]
    unfold Literal.ofTail?
    split
    · -- an exponent does not begin with a point
      cases hexponent
    · simp [hvalue]

end Parts

/-! ## The two notations -/

open Layout

/-- The digits of a number other than zero begin with one that counts. -/
theorem exists_cons_toString {n : Nat} (h : 0 < n) :
    ∃ c cs, (toString n).toList = c :: cs ∧ c ≠ '0' ∧ Digits (c :: cs) := by
  obtain ⟨c, cs, hdigits, hzero⟩ := Literal.exists_cons_toDigits n
  have hlist : (toString n).toList = c :: cs := (Text.toList_toString n).trans hdigits
  refine ⟨c, cs, hlist, ?_, hlist ▸ digits_toString n⟩
  intro hc
  have := hzero hc
  omega

theorem isLiteral_positionalText (negative : Bool) {n : Nat} (h : 0 < n) (position : Int) :
    IsLiteral
      (Literal.sign negative ++ (positionalText true (toString n).toList position).toList) := by
  obtain ⟨c, cs, hdigits, hc, hall⟩ := exists_cons_toString h
  rw [hdigits]
  unfold positionalText
  split
  · -- the point stands before all digits
    simp only [zeros, String.toList_append, String.toList_ofList]
    have hliteral := isLiteral_fraction negative digits_zero rfl
      ((digits_replicate (-position).toNat).append hall) (by simp) .none
    simpa using hliteral
  · split
    · -- the point stands behind all digits
      simp only [zeros, String.toList_append, String.toList_ofList]
      have hwhole := hall.append (digits_replicate (position.toNat - (c :: cs).length))
      have hliteral := isLiteral_fraction negative hwhole (Literal.isWhole_cons hc _)
        digits_zero (List.cons_ne_nil _ _) .none
      simpa using hliteral
    · -- the point stands among the digits
      next hpos hlen =>
      obtain ⟨before, hbefore⟩ : ∃ before, position.toNat = before + 1 :=
        ⟨position.toNat - 1, by omega⟩
      have hmore : before < cs.length := by
        rw [List.length_cons] at hlen
        omega
      have hwhole : Digits (c :: cs.take before) :=
        fun d hd => hall d (List.take_subset (before + 1) _ hd)
      have hfraction : Digits (cs.drop before) :=
        fun d hd => hall d (List.drop_subset (before + 1) (c :: cs) hd)
      simp only [String.toList_append, String.toList_ofList, hbefore]
      have hliteral := isLiteral_fraction negative hwhole (Literal.isWhole_cons hc _) hfraction
        (by simpa using hmore) .none
      simpa using hliteral

theorem isLiteral_scientificText (negative : Bool) (n : Nat) (exponent : Int) :
    IsLiteral (Literal.sign negative ++ (scientificText (toString n).toList exponent).toList) := by
  obtain ⟨c, cs, hdigits, -⟩ := Literal.exists_cons_toDigits n
  have hlist : (toString n).toList = c :: cs := (Text.toList_toString n).trans hdigits
  have hall : Digits (c :: cs) := hlist ▸ digits_toString n
  obtain ⟨hfirst, hrest⟩ := List.forall_mem_cons.mp hall
  -- one digit is a whole part, whatever it is
  have hwhole : Digits [c] := List.forall_mem_singleton.mpr hfirst
  have hisWhole : Literal.isWhole [c] = true := by
    unfold Literal.isWhole
    split <;> simp_all
  have hexponent : IsExponent ('e' :: (if exponent < 0 then '-' else '+') ::
      (toString exponent.natAbs).toList) := by
    refine .signed ?_ (digits_toString _) ?_
    · split
      · exact .inl rfl
      · exact .inr rfl
    · obtain ⟨d, ds, hdigits, -⟩ := Literal.exists_cons_toDigits exponent.natAbs
      rw [Text.toList_toString, hdigits]
      exact List.cons_ne_nil d ds
  have htext : (if exponent < 0 then "-" else "+").toList =
      [if exponent < 0 then '-' else '+'] := by
    split <;> rfl
  rw [hlist]
  unfold scientificText
  simp only [String.toList_append, htext]
  cases cs with
  | nil =>
    have hliteral := isLiteral_exponent negative hwhole hisWhole hexponent
    simpa using hliteral
  | cons second rest =>
    have hliteral := isLiteral_fraction negative hwhole hisWhole hrest (List.cons_ne_nil _ _)
      hexponent
    simpa using hliteral

/-- A finite double is written as a literal. -/
theorem isLiteral_write {x : Binary64} (h : x.isFinite = true) :
    IsLiteral (Layout.json.write x).toList := by
  have hmagnitude : x.magnitude < Binary64.infiniteMagnitude := of_decide_eq_true h
  have hnumber : x.isNaN = false ∧ x.isInfinite = false :=
    ⟨decide_eq_false (Nat.not_lt_of_lt hmagnitude), decide_eq_false (Nat.ne_of_lt hmagnitude)⟩
  have hsign : (if x.negative then "-" else "").toList = Literal.sign x.negative := by
    cases x.negative <;> rfl
  unfold Layout.write
  simp only [hnumber, Bool.false_eq_true, if_false]
  split
  · rw [String.toList_append, hsign]
    exact isLiteral_fraction x.negative digits_zero rfl digits_zero (List.cons_ne_nil _ _) .none
  · next hzero =>
    rw [String.toList_append, hsign]
    have hpos := Binary64.shortest_digits_pos h (Bool.eq_false_iff.mpr hzero) Layout.json.tie
    -- the size of the number decides on the notation, but either is a literal
    have heither : ∀ (positional : Bool) (position exponent : Int),
        IsLiteral (Literal.sign x.negative ++ (if positional then
          positionalText true (toString (x.shortest Layout.json.tie).digits).toList position
        else scientificText (toString (x.shortest Layout.json.tie).digits).toList
          exponent).toList) := by
      intro positional position exponent
      cases positional with
      | true => exact isLiteral_positionalText x.negative hpos position
      | false => exact isLiteral_scientificText x.negative _ exponent
    exact heither _ _ _

theorem readable_ofBinary64 (x : Binary64) : (ofBinary64 x).Readable := by
  unfold ofBinary64
  split
  · next hfinite => exact isLiteral_write hfinite
  · trivial

end DataGrid.Json
