import DataGrid.Compile.Values
import DataGrid.Proofs.Text.Digits

/-!
# DataGrid.Proofs.Calendar.Unread -- no date-time has a bracket

Readers of date-times take digits, white space, signs and a few letters and marks. None of them
takes an opening bracket: whatever a reader leaves over still has the bracket that was there
before, and in the end something is left over, so that nothing is read. It is the bracket by which
a date-time in its text form can be told from every text that is read as one.
-/

namespace DataGrid.Calendar.Reading

open Text (isBlank trimStart trimEnd trim)

variable {cs rest : List Char}

/-! ## Characters that are passed over -/

/-- Dropping characters that are none keeps it. -/
theorem bracket_mem_dropWhile {p : Char → Bool} (h : p '(' = false) (hcs : '(' ∈ cs) :
    '(' ∈ cs.dropWhile p := by
  rw [← List.takeWhile_append_dropWhile (p := p) (l := cs)] at hcs
  rcases List.mem_append.mp hcs with htake | hdrop
  · cases h.symm.trans (List.all_eq_true.mp List.all_takeWhile _ htake)
  · exact hdrop

/-- Dropping a number of characters keeps it if it is not one of them. -/
theorem bracket_mem_drop {n : Nat} (h : '(' ∉ cs.take n) (hcs : '(' ∈ cs) : '(' ∈ cs.drop n := by
  rw [← List.take_append_drop n cs] at hcs
  exact (List.mem_append.mp hcs).resolve_left h

theorem bracket_mem_tail {c : Char} (h : c ≠ '(') (hcs : '(' ∈ c :: rest) : '(' ∈ rest :=
  (List.mem_cons.mp hcs).resolve_left (Ne.symm h)

/-- White space can be trimmed, since a bracket is none. -/
theorem bracket_mem_trimStart (hcs : '(' ∈ cs) : '(' ∈ trimStart cs :=
  bracket_mem_dropWhile rfl hcs

theorem bracket_mem_trimEnd (hcs : '(' ∈ cs) : '(' ∈ trimEnd cs :=
  List.mem_reverse.mpr (bracket_mem_dropWhile rfl (List.mem_reverse.mpr hcs))

/-- Digits at the beginning are no bracket. -/
theorem bracket_not_mem_digits {digits : List Char} (h : digits.takeWhile Char.isDigit <+: cs) :
    '(' ∉ cs.take (digits.takeWhile Char.isDigit).length := by
  rw [← List.prefix_iff_eq_take.mp h]
  intro hmem
  cases List.all_eq_true.mp List.all_takeWhile _ hmem

/-! ## Readers -/

/-- A number takes digits, as many as it may have, and nothing else. -/
theorem bracket_of_number {least most n : Nat} (hcs : '(' ∈ cs)
    (h : number least most cs = some (n, rest)) : '(' ∈ rest := by
  unfold number at h
  dsimp only at h
  split at h
  · cases h
  · obtain ⟨-, rfl⟩ := Prod.mk.inj (Option.some.inj h)
    exact bracket_mem_drop (bracket_not_mem_digits
      ((List.takeWhile_prefix _).trans (List.take_prefix _ _))) hcs

/-- A year with a sign may have any number of digits. -/
theorem bracket_of_longNumber {n : Nat} (hcs : '(' ∈ cs)
    (h : longNumber cs = some (n, rest)) : '(' ∈ rest := by
  unfold longNumber at h
  dsimp only at h
  split at h
  · cases h
  · obtain ⟨-, rfl⟩ := Prod.mk.inj (Option.some.inj h)
    exact bracket_mem_drop (bracket_not_mem_digits (List.takeWhile_prefix _)) hcs

/-- A reader of one character takes that one. -/
theorem bracket_of_char {expected : Char} (hexpected : expected ≠ '(') (hcs : '(' ∈ cs)
    (h : char expected cs = some rest) : '(' ∈ rest := by
  unfold char at h
  split at h
  · split at h
    · next heq =>
      obtain rfl := Option.some.inj h
      exact bracket_mem_tail (heq ▸ hexpected) hcs
    · cases h
  · cases h

/-- Without a full stop there is no fraction and nothing is taken; behind it digits are. -/
theorem bracket_of_fraction {n : Nat} (hcs : '(' ∈ cs) (h : fraction cs = some (n, rest)) :
    '(' ∈ rest := by
  unfold fraction at h
  split at h
  · dsimp only at h
    split at h
    · cases h
    · obtain ⟨-, rfl⟩ := Prod.mk.inj (Option.some.inj h)
      exact bracket_mem_dropWhile rfl (bracket_mem_tail (by decide) hcs)
  · obtain ⟨-, rfl⟩ := Prod.mk.inj (Option.some.inj h)
    exact hcs

/-- There are three signs, two of them minus, and none is a bracket. -/
theorem bracket_of_sign {negative : Bool} (hcs : '(' ∈ cs) (h : sign cs = some (negative, rest)) :
    '(' ∈ rest := by
  unfold sign at h
  split at h
  · obtain ⟨-, rfl⟩ := Prod.mk.inj (Option.some.inj h)
    exact bracket_mem_tail (by decide) hcs
  · obtain ⟨-, rfl⟩ := Prod.mk.inj (Option.some.inj h)
    exact bracket_mem_tail (by decide) hcs
  · split at h
    · next heq =>
      obtain ⟨-, rfl⟩ := Prod.mk.inj (Option.some.inj h)
      refine bracket_mem_tail ?_ hcs
      rintro rfl
      cases heq
    · cases h
  · cases h

/-- What stands between two parts has no bracket. -/
def Spares (separator : List Char → Option (List Char)) : Prop :=
  ∀ {cs rest : List Char}, '(' ∈ cs → separator cs = some rest → '(' ∈ rest

theorem spares_char {expected : Char} (h : expected ≠ '(') : Spares (char expected) :=
  bracket_of_char h

theorem spares_anySpace : Spares anySpace := by
  intro cs rest hcs h
  obtain rfl := Option.some.inj h
  exact bracket_mem_trimStart hcs

theorem spares_colonOrSpace : Spares colonOrSpace := by
  intro cs rest hcs h
  obtain rfl := Option.some.inj h
  exact bracket_mem_dropWhile rfl hcs

/-- Date and time are parted by a letter or a space. -/
theorem spares_dateTimeSeparator : Spares dateTimeSeparator := by
  intro cs rest hcs h
  unfold dateTimeSeparator at h
  split at h
  case h_4 => cases h
  all_goals
    obtain rfl := Option.some.inj h
    exact bracket_mem_tail (by decide) hcs

/-- An offset spares the bracket if what stands between its hours and minutes does. -/
theorem bracket_of_offset {separator : List Char → Option (List Char)} (spares : Spares separator)
    {n : Int} (hcs : '(' ∈ cs) (h : offset separator cs = some (n, rest)) : '(' ∈ rest := by
  unfold offset at h
  obtain ⟨⟨negative, afterSign⟩, hsign, h⟩ := Option.bind_eq_some_iff.mp h
  obtain ⟨⟨hours, afterHours⟩, hhours, h⟩ := Option.bind_eq_some_iff.mp h
  obtain ⟨afterSeparator, hseparator, h⟩ := Option.bind_eq_some_iff.mp h
  obtain ⟨⟨minutes, afterMinutes⟩, hminutes, h⟩ := Option.bind_eq_some_iff.mp h
  dsimp only at h
  split at h
  · cases h
  · obtain ⟨-, rfl⟩ := Prod.mk.inj (Option.some.inj h)
    exact bracket_of_number
      (spares (bracket_of_number (bracket_of_sign hcs hsign) hhours) hseparator) hminutes

/-- A zone is named by a letter or given as an offset. -/
theorem bracket_of_zone {n : Int} (hcs : '(' ∈ cs) (h : zone cs = some (n, rest)) :
    '(' ∈ rest := by
  unfold zone at h
  split at h
  case h_3 => exact bracket_of_offset (spares_char (by decide)) hcs h
  all_goals
    obtain ⟨-, rfl⟩ := Prod.mk.inj (Option.some.inj h)
    exact bracket_mem_tail (by decide) hcs

theorem bracket_of_field {n : Nat} (hcs : '(' ∈ cs) (h : field cs = some (n, rest)) :
    '(' ∈ rest := bracket_of_number (bracket_mem_trimStart hcs) h

/-- By cases on the sign, behind which the number may be long. -/
theorem bracket_of_year {n : Int} (hcs : '(' ∈ cs) (h : year cs = some (n, rest)) :
    '(' ∈ rest := by
  have htrim := bracket_mem_trimStart hcs
  unfold year at h
  split at h
  · next after hafter =>
    obtain ⟨⟨m, left⟩, hnumber, h⟩ := Option.map_eq_some_iff.mp h
    obtain ⟨-, rfl⟩ := Prod.mk.inj h
    exact bracket_of_longNumber (bracket_mem_tail (by decide) (hafter ▸ htrim)) hnumber
  · next after hafter =>
    obtain ⟨⟨m, left⟩, hnumber, h⟩ := Option.map_eq_some_iff.mp h
    obtain ⟨-, rfl⟩ := Prod.mk.inj h
    exact bracket_of_longNumber (bracket_mem_tail (by decide) (hafter ▸ htrim)) hnumber
  · obtain ⟨⟨m, left⟩, hnumber, h⟩ := Option.map_eq_some_iff.mp h
    obtain ⟨-, rfl⟩ := Prod.mk.inj h
    exact bracket_of_number htrim hnumber

/-- The readers of the fields follow each other, and each hands the bracket on to the next. -/
theorem bracket_of_fields {separator : List Char → Option (List Char)} (spares : Spares separator)
    {read : Fields} (hcs : '(' ∈ cs) (h : fields separator cs = some (read, rest)) :
    '(' ∈ rest := by
  unfold fields at h
  obtain ⟨⟨year, cs⟩, hyear, h⟩ := Option.bind_eq_some_iff.mp h
  obtain ⟨_, hhyphen, h⟩ := Option.bind_eq_some_iff.mp h
  obtain ⟨⟨month, cs⟩, hmonth, h⟩ := Option.bind_eq_some_iff.mp h
  obtain ⟨_, hhyphen', h⟩ := Option.bind_eq_some_iff.mp h
  obtain ⟨⟨day, cs⟩, hday, h⟩ := Option.bind_eq_some_iff.mp h
  obtain ⟨_, hseparator, h⟩ := Option.bind_eq_some_iff.mp h
  obtain ⟨⟨hour, cs⟩, hhour, h⟩ := Option.bind_eq_some_iff.mp h
  obtain ⟨_, hcolon, h⟩ := Option.bind_eq_some_iff.mp h
  obtain ⟨⟨minute, cs⟩, hminute, h⟩ := Option.bind_eq_some_iff.mp h
  obtain ⟨_, hcolon', h⟩ := Option.bind_eq_some_iff.mp h
  obtain ⟨⟨second, cs⟩, hsecond, h⟩ := Option.bind_eq_some_iff.mp h
  obtain ⟨⟨nanos, cs⟩, hnanos, h⟩ := Option.bind_eq_some_iff.mp h
  obtain ⟨-, rfl⟩ := Prod.mk.inj (Option.some.inj h)
  have hdate := bracket_of_field (bracket_of_char (by decide) (bracket_of_field
    (bracket_of_char (by decide) (bracket_of_year hcs hyear) hhyphen) hmonth) hhyphen') hday
  have htime := bracket_of_field (bracket_of_char (by decide) (bracket_of_field
    (bracket_of_char (by decide) (bracket_of_field (spares hdate hseparator) hhour) hcolon)
      hminute) hcolon') hsecond
  exact bracket_of_fraction htime hnanos

/-! ## Whole texts -/

/-- Something is left over. -/
theorem isEmpty_of_bracket (hcs : '(' ∈ cs) : cs.isEmpty = false :=
  List.isEmpty_eq_false_iff.mpr (List.ne_nil_of_mem hcs)

/-- Had the text been read, every reader would have handed the bracket on, and the rest behind
the zone would not be empty. -/
theorem internet?_of_bracket (hcs : '(' ∈ cs) : internet? cs = none := by
  refine Option.eq_none_iff_forall_ne_some.mpr fun t h => ?_
  unfold internet? at h
  obtain ⟨⟨year, _⟩, hyear, h⟩ := Option.bind_eq_some_iff.mp h
  obtain ⟨_, hhyphen, h⟩ := Option.bind_eq_some_iff.mp h
  obtain ⟨⟨month, _⟩, hmonth, h⟩ := Option.bind_eq_some_iff.mp h
  obtain ⟨_, hhyphen', h⟩ := Option.bind_eq_some_iff.mp h
  obtain ⟨⟨day, _⟩, hday, h⟩ := Option.bind_eq_some_iff.mp h
  obtain ⟨_, hseparator, h⟩ := Option.bind_eq_some_iff.mp h
  obtain ⟨⟨hour, _⟩, hhour, h⟩ := Option.bind_eq_some_iff.mp h
  obtain ⟨_, hcolon, h⟩ := Option.bind_eq_some_iff.mp h
  obtain ⟨⟨minute, _⟩, hminute, h⟩ := Option.bind_eq_some_iff.mp h
  obtain ⟨_, hcolon', h⟩ := Option.bind_eq_some_iff.mp h
  obtain ⟨⟨second, _⟩, hsecond, h⟩ := Option.bind_eq_some_iff.mp h
  obtain ⟨⟨nanos, _⟩, hnanos, h⟩ := Option.bind_eq_some_iff.mp h
  obtain ⟨⟨zoneOffset, _⟩, hzone, h⟩ := Option.bind_eq_some_iff.mp h
  have hdate := bracket_of_number (bracket_of_char (by decide) (bracket_of_number
    (bracket_of_char (by decide) (bracket_of_number hcs hyear) hhyphen) hmonth) hhyphen') hday
  have htime := bracket_of_number (bracket_of_char (by decide) (bracket_of_number
    (bracket_of_char (by decide) (bracket_of_number (spares_dateTimeSeparator hdate hseparator)
      hhour) hcolon) hminute) hcolon') hsecond
  have hleft := bracket_of_zone (bracket_of_fraction htime hnanos) hzone
  simp only [isEmpty_of_bracket hleft] at h
  cases h

/-- The offset stands last, and behind it the bracket is left. -/
theorem withOffset?_of_bracket {separator : List Char → Option (List Char)}
    (spares : Spares separator) (hcs : '(' ∈ cs) : withOffset? separator cs = none := by
  refine Option.eq_none_iff_forall_ne_some.mpr fun t h => ?_
  unfold withOffset? at h
  obtain ⟨⟨read, _⟩, hread, h⟩ := Option.bind_eq_some_iff.mp h
  obtain ⟨⟨zoneOffset, _⟩, hoffset, h⟩ := Option.bind_eq_some_iff.mp h
  have hleft := bracket_of_offset spares_colonOrSpace
    (bracket_mem_trimStart (bracket_of_fields spares hcs hread)) hoffset
  simp only [isEmpty_of_bracket hleft] at h
  cases h

/-- The fields stand alone, and behind them the bracket is left. -/
theorem withoutOffset?_of_bracket {separator : List Char → Option (List Char)}
    (spares : Spares separator) (hcs : '(' ∈ cs) : withoutOffset? separator cs = none := by
  refine Option.eq_none_iff_forall_ne_some.mpr fun t h => ?_
  unfold withoutOffset? at h
  obtain ⟨⟨read, _⟩, hread, h⟩ := Option.bind_eq_some_iff.mp h
  simp only [isEmpty_of_bracket (bracket_of_fields spares hcs hread)] at h
  cases h

/-- A suffix without a bracket is not where it was. -/
theorem bracket_of_stripSuffix? {suffix : List Char} (hsuffix : '(' ∉ suffix) (hcs : '(' ∈ cs)
    (h : stripSuffix? suffix cs = some rest) : '(' ∈ rest := by
  unfold stripSuffix? at h
  split at h
  · next hends =>
    obtain ⟨before, rfl⟩ := List.isSuffixOf_iff_suffix.mp hends
    obtain rfl := Option.some.inj h
    rw [List.length_append, Nat.add_sub_cancel, List.take_left]
    exact (List.mem_append.mp hcs).resolve_right hsuffix
  · cases h

/-- The names that are taken off the end have no bracket. -/
theorem bracket_of_withoutZoneName (hcs : '(' ∈ cs) : '(' ∈ withoutZoneName cs := by
  refine bracket_mem_trimEnd ?_
  cases hutc : stripSuffix? " UTC".toList cs with
  | some rest => exact bracket_of_stripSuffix? (by decide) hcs hutc
  | none =>
    cases hz : stripSuffix? ['Z'] cs with
    | some rest => exact bracket_of_stripSuffix? (by decide) hcs hz
    | none => exact hcs

/-- A text with a bracket names no instant. -/
theorem instant?_of_bracket {text : String} (h : '(' ∈ text.toList) : instant? text = none := by
  have htrim : '(' ∈ trim text.toList := bracket_mem_trimEnd (bracket_mem_trimStart h)
  have hname := bracket_of_withoutZoneName htrim
  unfold instant? trimmed?
  rw [internet?_of_bracket htrim, withOffset?_of_bracket (spares_char (by decide)) htrim,
    withOffset?_of_bracket spares_anySpace htrim,
    withoutOffset?_of_bracket spares_anySpace hname,
    withoutOffset?_of_bracket (spares_char (by decide)) hname]
  rfl

end DataGrid.Calendar.Reading

namespace DataGrid.Compile

/-- A value with a bracket in it is no date-time. -/
theorem dateTime?_of_bracket {text : String} (h : '(' ∈ text.toList) : dateTime? text = none := by
  unfold dateTime?
  split
  · rw [Calendar.Reading.instant?_of_bracket h, Option.map_none]
  · rfl

end DataGrid.Compile
