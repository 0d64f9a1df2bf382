import DataGrid.Json.Basic
import DataGrid.Proofs.Document.ObjectId

/-!
# DataGrid.Proofs.Json.Quoted -- text between quotes is read back

A character is written as itself, behind a backslash, or as the four digits of its number. In
each form it is passed over when the closing quote is looked for, and decoded to itself, whatever
follows. So a written text ends at its own closing quote and is decoded to the text.
-/

namespace DataGrid.Json.Quoted

/-- The forms in which a character is written. -/
inductive Form (c : Char) : List Char → Prop where
  /-- An escape of one letter. -/
  | short {letter : Char} (meant : shortEscape? letter = some c) : Form c ['\\', letter]
  /-- The number of a control, in four digits. -/
  | unit {k l m n : Char} (value : Hex.toNat? [k, l, m, n] = some c.toNat)
      (control : c.toNat < 0x20) : Form c ['\\', 'u', k, l, m, n]
  | plain (notQuote : c ≠ '"') (notBackslash : c ≠ '\\') (printable : ¬ c.toNat < 0x20) :
      Form c [c]

theorem form_encodeChar (c : Char) : Form c (encodeChar c) := by
  unfold encodeChar
  split
  case h_1 => exact .short rfl
  case h_2 => exact .short rfl
  case h_3 => exact .short rfl
  case h_4 => exact .short rfl
  case h_5 => exact .short rfl
  case h_6 notQuote notBackslash _ _ _ =>
    split
    · next hvalue =>
      obtain rfl : c = '\x08' := Char.toNat_inj.mp hvalue
      exact .short rfl
    · split
      · next hvalue =>
        obtain rfl : c = '\x0c' := Char.toNat_inj.mp hvalue
        exact .short rfl
      · split
        · next hcontrol =>
          refine .unit ?_ hcontrol
          refine (Hex.toNat?_ofNat 4 c.toNat).trans (congrArg some (Nat.mod_eq_of_lt ?_))
          exact Nat.lt_trans hcontrol (by decide)
        · next hprintable => exact .plain notQuote notBackslash hprintable

variable {c : Char} {written : List Char}

theorem isSome_shortEscape? {letter : Char} (h : shortEscape? letter = some c) :
    letter ≠ 'u' ∧ (shortEscape? letter).isSome = true := by
  rw [h]
  refine ⟨?_, rfl⟩
  rintro rfl
  cases h

/-- No form of a character holds a closing quote. -/
theorem scan?_form (form : Form c written) (tail : List Char) :
    scan? (written ++ tail) =
      (scan? tail).map fun (body, rest) => (written ++ body, rest) := by
  cases form with
  | @short letter meant =>
    obtain ⟨hletter, hsome⟩ := isSome_shortEscape? meant
    show scan? ('\\' :: letter :: tail) = _
    rw [scan?]
    · rw [if_pos hsome]
      rfl
    · exact fun _ _ _ _ _ hu _ => hletter hu
  | @unit k l m n value control =>
    show scan? ('\\' :: 'u' :: k :: l :: m :: n :: tail) = _
    rw [scan?, value]
    rfl
  | plain notQuote notBackslash printable =>
    show scan? (c :: tail) = _
    rw [scan?, if_neg (not_or.mpr ⟨notBackslash, printable⟩)]
    · rfl
    · exact notQuote
    all_goals
      intros
      simp_all

/-- A written text ends at its own closing quote. -/
theorem scan?_encode (text rest : List Char) :
    scan? (encode text ++ '"' :: rest) = some (encode text, rest) := by
  induction text with
  | nil => rfl
  | cons c text ih =>
    show scan? (encodeChar c ++ encode text ++ '"' :: rest) = _
    rw [List.append_assoc, scan?_form (form_encodeChar c), ih]
    rfl

/-- Every form of a character is decoded to it. -/
theorem decode?_form (form : Form c written) (tail : List Char) :
    decode? (written ++ tail) = (decode? tail).map (c :: ·) := by
  unfold decode?
  cases form with
  | @short letter meant =>
    obtain ⟨hletter, -⟩ := isSome_shortEscape? meant
    have hpieces : pieces? ('\\' :: letter :: tail) = (pieces? tail).map (.char c :: ·) := by
      rw [pieces?]
      · rw [meant]
        cases pieces? tail <;> rfl
      · exact fun _ _ _ _ _ hu _ => hletter hu
    show (pieces? ('\\' :: letter :: tail)).bind join? = _
    rw [hpieces]
    cases pieces? tail <;> rfl
  | @unit k l m n value control =>
    have hpieces : pieces? ('\\' :: 'u' :: k :: l :: m :: n :: tail) =
        (pieces? tail).map (.unit c.toNat :: ·) := by
      rw [pieces?, value]
      cases pieces? tail <;> rfl
    show (pieces? ('\\' :: 'u' :: k :: l :: m :: n :: tail)).bind join? = _
    rw [hpieces]
    cases pieces? tail with
    | none => rfl
    | some pieces =>
      -- a control is no half of a pair, whatever comes behind it
      have hhigh : isHighSurrogate c.toNat = false := by simp [isHighSurrogate]; omega
      have hlow : isLowSurrogate c.toNat = false := by simp [isLowSurrogate]; omega
      show join? (.unit c.toNat :: pieces) = (join? pieces).map (c :: ·)
      match pieces with
      | .unit low :: rest => simp [join?, hhigh, hlow, Char.ofNat_toNat]
      | .char d :: rest => simp [join?, hhigh, hlow, Char.ofNat_toNat]
      | [] => simp [join?, hhigh, hlow, Char.ofNat_toNat]
  | plain notQuote notBackslash printable =>
    have hpieces : pieces? (c :: tail) = (pieces? tail).map (.char c :: ·) := by
      rw [pieces?, if_neg notBackslash]
      all_goals
        intros
        simp_all
    show (pieces? (c :: tail)).bind join? = _
    rw [hpieces]
    cases pieces? tail <;> rfl

/-- A written text is decoded to the text. -/
theorem decode?_encode (text : List Char) : decode? (encode text) = some text := by
  induction text with
  | nil => rfl
  | cons c text ih =>
    show decode? (encodeChar c ++ encode text) = _
    rw [decode?_form (form_encodeChar c), ih]
    rfl

end Quoted

@[simp] theorem text?_ofText (text : String) : (ofText text).text? = some text := by
  rw [ofText, text?, Quoted.decode?_encode, Option.map_some, String.ofList_toList]

end DataGrid.Json
