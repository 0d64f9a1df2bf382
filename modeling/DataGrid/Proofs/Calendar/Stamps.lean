import DataGrid.Calendar.Reading
import DataGrid.Proofs.Calendar.Days
import DataGrid.Proofs.Text.Digits

/-!
# DataGrid.Proofs.Calendar.Stamps -- date-times in text name their instant

People write date-times with a `T` or a space in the middle, with or without a fraction, and leave
the zone out, name it, or give an offset with or without a colon. The readers that are tried one
after the other overlap on these texts, but they do not disagree: each either misses a text or
reads the same fields and the same offset from it, and one of them does read it. So what comes
out depends on the fields and the offset alone. It is the instant that a calendar and a clock
tell, or nothing if they never show these fields.
-/

namespace DataGrid.Calendar

open Text (digitsValue isBlank trimStart trimEnd trim)
open Rendering (twoPlaces)

/-! ## Endings -/

/-- What stands behind the time of day: nothing, a name of UTC, or an offset. -/
inductive Ending where
  | bare
  | zulu
  | utc
  | offset (behind colon : Bool) (hours minutes : Nat)

namespace Ending

/-- Hours and minutes behind a sign. -/
def offsetText (behind : Bool) (hours minutes : Nat) (between : List Char) : List Char :=
  (if behind then '-' else '+') ::
    ((twoPlaces .zero hours).toList ++ (between ++ (twoPlaces .zero minutes).toList))

def text : Ending → List Char
  | bare => []
  | zulu => ['Z']
  | utc => " UTC".toList
  | offset behind colon hours minutes =>
    offsetText behind hours minutes (if colon then [':'] else [])

/-- The seconds that hours and minutes are, with their sign. -/
def offsetSeconds (behind : Bool) (hours minutes : Nat) : Int :=
  if behind then -(hours * 3600 + minutes * 60 : Nat) else (hours * 3600 + minutes * 60 : Nat)

/-- By how many seconds the clock is ahead. -/
def seconds : Ending → Int
  | offset behind _ hours minutes => offsetSeconds behind hours minutes
  | _ => 0

/-- An offset is less than a day, and its minutes are less than an hour. -/
def Fits : Ending → Prop
  | offset _ _ hours minutes => hours ≤ 23 ∧ minutes ≤ 59
  | _ => True

section Offset

variable {behind : Bool} {hours minutes : Nat}

/-- The offset is read by whatever passes over what stands between hours and minutes, and nothing
is read by what misses it. -/
theorem offset_offsetText (hhours : hours ≤ 23) (hminutes : minutes ≤ 59) {between : List Char}
    {cut : List Char → Option (List Char)}
    (hcut : cut (between ++ (twoPlaces .zero minutes).toList) = none ∨
      cut (between ++ (twoPlaces .zero minutes).toList) = some (twoPlaces .zero minutes).toList) :
    Reading.offset cut (offsetText behind hours minutes between) =
      (cut (between ++ (twoPlaces .zero minutes).toList)).map
        fun _ => (offsetSeconds behind hours minutes, []) := by
  have hsign : ∀ rest, Reading.sign ((if behind then '-' else '+') :: rest) =
      some (behind, rest) := by
    intro rest
    cases behind <;> rfl
  have hhour := (places_twoPlaces (Nat.lt_of_le_of_lt hhours (by decide))).number (Nat.le_refl 2)
    (between ++ (twoPlaces .zero minutes).toList)
  have hminute :=
    (places_twoPlaces (Nat.lt_of_le_of_lt hminutes (by decide))).number (Nat.le_refl 2) []
  rw [List.append_nil] at hminute
  have hday : ¬ (59 < minutes ∨ 86400 ≤ hours * 3600 + minutes * 60) := by omega
  simp only [Reading.offset, offsetText, hsign, hhour, Option.bind_eq_bind, Option.bind_some,
    gt_iff_lt, ge_iff_le]
  rcases hcut with hcut | hcut
  · rw [hcut]
    rfl
  · rw [hcut, Option.bind_some, hminute, Option.bind_some, if_neg hday]
    rfl

/-- There is a digit behind the colon, or right behind the hours. -/
theorem cut_minutes (hminutes : minutes ≤ 59) (colon : Bool) :
    let rest := (if colon then [':'] else []) ++ (twoPlaces .zero minutes).toList
    Reading.char ':' rest = (if colon then some (twoPlaces .zero minutes).toList else none) ∧
      Reading.colonOrSpace rest = some (twoPlaces .zero minutes).toList := by
  obtain ⟨c, cs, htext, hc⟩ :=
    (places_twoPlaces (Nat.lt_of_le_of_lt hminutes (by decide))).exists_cons
  have hcolon : c ≠ ':' := by
    rintro rfl
    cases hc
  have hkept : (c == ':' || isBlank c) = false := by
    rw [Text.isBlank_of_isDigit hc, beq_eq_false_iff_ne.mpr hcolon]
    rfl
  rw [htext]
  cases colon <;> simp [Reading.char, Reading.colonOrSpace, hcolon, hkept]

/-- The internet shape reads an offset with a colon, and misses one without. -/
theorem zone_offset (hhours : hours ≤ 23) (hminutes : minutes ≤ 59) (colon : Bool) :
    Reading.zone (offset behind colon hours minutes).text =
      if colon then some (offsetSeconds behind hours minutes, []) else none := by
  have hsign : ∀ between, Reading.zone (offsetText behind hours minutes between) =
      Reading.offset (Reading.char ':') (offsetText behind hours minutes between) := by
    intro between
    cases behind <;> rfl
  have hcut := (cut_minutes hminutes colon).1
  rw [text, hsign, offset_offsetText hhours hminutes, hcut]
  · cases colon <;> rfl
  · rw [hcut]
    cases colon
    · exact .inl rfl
    · exact .inr rfl

/-- The lenient shapes read either. -/
theorem lenient_offset (hhours : hours ≤ 23) (hminutes : minutes ≤ 59) (colon : Bool) :
    Reading.offset Reading.colonOrSpace (trimStart (offset behind colon hours minutes).text) =
      some (offsetSeconds behind hours minutes, []) := by
  have hpassed := (cut_minutes hminutes colon).2
  have htrim : trimStart (offset behind colon hours minutes).text =
      (offset behind colon hours minutes).text := by
    cases behind <;> exact Text.trimStart_cons_of_not_blank rfl _
  rw [htrim, text, offset_offsetText hhours hminutes (.inr hpassed), hpassed]
  rfl

/-- An offset ends in a digit. -/
theorem offsetText_eq_concat (hminutes : minutes ≤ 59) (between : List Char) :
    ∃ front c, c.isDigit = true ∧ offsetText behind hours minutes between = front ++ [c] := by
  obtain ⟨cs, c, htext, hc⟩ :=
    (places_twoPlaces (Nat.lt_of_le_of_lt hminutes (by decide))).exists_concat
  refine ⟨(if behind then '-' else '+') :: ((twoPlaces .zero hours).toList ++ (between ++ cs)),
    c, hc, ?_⟩
  rw [offsetText, htext]
  simp

end Offset

end Ending

/-! ## Date-times in text -/

/-- A date-time as people write it. -/
structure Stamp where
  date : Date
  hour : Nat
  minute : Nat
  second : Nat
  /-- A space stands in the middle, and not a `T`. -/
  spaced : Bool
  /-- The digits of the fraction; without any there is no point either. -/
  digits : List Char
  ending : Ending

namespace Stamp

/-- The fraction in nanoseconds. -/
def nanos (s : Stamp) : Nat := digitsValue s.digits * 10 ^ (9 - s.digits.length)

def fields (s : Stamp) : Fields := ⟨s.date, s.hour, s.minute, s.second, s.nanos⟩

def separator (s : Stamp) : Char := if s.spaced then ' ' else 'T'

def fractionText (s : Stamp) : List Char := if s.digits = [] then [] else '.' :: s.digits

/-- Date, time and fraction, with text behind them. -/
def stem (s : Stamp) (rest : List Char) : List Char :=
  s.fields.written s.separator (s.fractionText ++ rest)

def text (s : Stamp) : List Char := s.stem s.ending.text

/-- Four digits for the year and two for every other number, at most nine for the fraction, and an
offset of less than a day. -/
structure Fits (s : Stamp) : Prop where
  fields : s.fields.Fits
  digits : ∀ c ∈ s.digits, c.isDigit = true
  few : s.digits.length ≤ 9
  ending : s.ending.Fits

/-- The text does not go on with what a fraction could be or be part of. -/
def EndsFraction (rest : List Char) : Prop :=
  ∀ c ∈ rest.head?, c.isDigit = false ∧ c ≠ '.'

theorem endsFraction_ending (ending : Ending) : EndsFraction ending.text := by
  cases ending with
  | bare => exact fun c hc => nomatch hc
  | zulu =>
    intro c hc
    obtain rfl := Option.some.inj hc
    decide
  | utc =>
    intro c hc
    obtain rfl := Option.some.inj hc
    decide
  | offset behind colon hours minutes =>
    intro c hc
    obtain rfl := Option.some.inj hc
    cases behind <;> decide

variable {s : Stamp}

theorem takeWhile_digits {digits rest : List Char} (hdigits : ∀ c ∈ digits, c.isDigit = true)
    (hrest : ∀ c ∈ rest.head?, c.isDigit = false) :
    (digits ++ rest).takeWhile Char.isDigit = digits ∧
      (digits ++ rest).dropWhile Char.isDigit = rest := by
  refine Text.span_append hdigits ?_
  cases rest with
  | nil => rfl
  | cons c rest => exact List.takeWhile_cons_of_neg (Bool.eq_false_iff.mp (hrest c rfl))

theorem fraction_fractionText (h : s.Fits) {rest : List Char} (hrest : EndsFraction rest) :
    Reading.fraction (s.fractionText ++ rest) = some (s.nanos, rest) := by
  rw [fractionText, nanos]
  split
  · next hnone =>
    rw [hnone]
    unfold Reading.fraction
    split
    · next heq =>
      obtain rfl : rest = _ := heq
      exact absurd rfl (hrest '.' rfl).2
    · rfl
  · next hsome =>
    have hfirst : (s.digits ++ rest).take 9 = s.digits ++ rest.take (9 - s.digits.length) := by
      rw [List.take_append, List.take_of_length_le h.few]
    have hdigits := takeWhile_digits h.digits fun c hc => (hrest c hc).1
    have hdigits' : ((s.digits ++ rest).take 9).takeWhile Char.isDigit = s.digits := by
      rw [hfirst]
      refine (takeWhile_digits h.digits fun c hc => (hrest c ?_).1).1
      rw [List.head?_take] at hc
      split at hc
      · cases hc
      · exact hc
    rw [List.cons_append, Reading.fraction]
    simp only [hdigits', hdigits.2, List.isEmpty_eq_false_iff.mpr hsome]
    rfl

/-! ## What each reader finds -/

/-- The internet shape takes either character in the middle, and needs a zone. -/
theorem internet?_text (h : s.Fits) : Reading.internet? s.text =
    (Reading.zone s.ending.text).bind fun (offset, rest) =>
      if rest.isEmpty then s.fields.toInstant? offset else none := by
  have hseparator : ∀ cs, Reading.dateTimeSeparator (s.separator :: cs) = some cs := by
    intro cs
    unfold separator
    cases s.spaced <;> rfl
  rw [text, stem, Fields.internet?_written h.fields hseparator,
    fraction_fractionText h (endsFraction_ending _)]
  rfl

/-- Of the two lenient shapes one takes the character in the middle, and the other does not. -/
theorem fields_stem (h : s.Fits) {rest : List Char} (hrest : EndsFraction rest) :
    Reading.fields (Reading.char 'T') (s.stem rest) = none ∧
        Reading.fields Reading.anySpace (s.stem rest) = some (s.fields, rest) ∨
      Reading.fields (Reading.char 'T') (s.stem rest) = some (s.fields, rest) ∧
        Reading.fields Reading.anySpace (s.stem rest) = none := by
  have hfraction := fraction_fractionText h hrest
  unfold stem separator
  cases s.spaced with
  | true =>
    refine .inl ⟨Fields.fields_letter_space h.fields _,
      Fields.fields_written h.fields (fun rest => ?_) hfraction⟩
    show Reading.anySpace (' ' :: _) = _
    rw [Reading.anySpace, Text.trimStart_cons_of_blank rfl,
      (places_twoPlaces h.fields.hour).trimStart]
  | false =>
    exact .inr ⟨Fields.fields_written h.fields (fun _ => rfl) hfraction,
      Fields.fields_anySpace_letter h.fields _⟩

theorem withOffset?_text (h : s.Fits) :
    (Reading.withOffset? (Reading.char 'T') s.text).or
        (Reading.withOffset? Reading.anySpace s.text) =
      (Reading.offset Reading.colonOrSpace (trimStart s.ending.text)).bind fun (offset, rest) =>
        if rest.isEmpty then s.fields.toInstant? offset else none := by
  unfold Reading.withOffset? text
  rcases fields_stem h (endsFraction_ending s.ending) with ⟨hletter, hspace⟩ | ⟨hletter, hspace⟩
  · rw [hletter, hspace]
    rfl
  · rw [hletter, hspace]
    exact Option.or_none

theorem withoutOffset?_stem (h : s.Fits) {rest : List Char} (hrest : EndsFraction rest) :
    (Reading.withoutOffset? Reading.anySpace (s.stem rest)).or
        (Reading.withoutOffset? (Reading.char 'T') (s.stem rest)) =
      if rest.isEmpty then s.fields.toInstant? 0 else none := by
  unfold Reading.withoutOffset?
  rcases fields_stem h hrest with ⟨hletter, hspace⟩ | ⟨hletter, hspace⟩
  · rw [hletter, hspace]
    exact Option.or_none
  · rw [hletter, hspace]
    rfl

/-! ## Names of UTC -/

/-- Date, time and fraction end in a digit. -/
theorem stem_eq_concat (h : s.Fits) :
    ∃ front c, c.isDigit = true ∧ s.stem [] = front ++ [c] := by
  unfold stem fractionText
  split
  · exact Fields.written_eq_concat h.fields s.separator
  · next hsome =>
    rcases List.eq_nil_or_concat s.digits with hnil | ⟨cs, c, hdigits⟩
    · exact absurd hnil hsome
    · rw [List.concat_eq_append] at hdigits
      refine ⟨s.fields.written s.separator [] ++ '.' :: cs, c,
        h.digits c (hdigits ▸ List.mem_append_right cs (List.mem_singleton_self c)), ?_⟩
      rw [Fields.written_append, hdigits]
      simp

theorem stem_append (s : Stamp) (rest : List Char) : s.stem rest = s.stem [] ++ rest := by
  unfold stem
  rw [Fields.written_append, Fields.written_append s.fields s.separator (s.fractionText ++ [])]
  simp

end Stamp

namespace Reading

theorem trimEnd_concat {c : Char} (h : isBlank c = false) (cs : List Char) :
    trimEnd (cs ++ [c]) = cs ++ [c] := by
  simp [trimEnd, h]

theorem stripSuffix?_append (cs suffix : List Char) :
    stripSuffix? suffix (cs ++ suffix) = some cs := by
  rw [stripSuffix?, if_pos (List.isSuffixOf_iff_suffix.mpr (List.suffix_append cs suffix)),
    List.length_append, Nat.add_sub_cancel, List.take_left]

theorem stripSuffix?_of_ne {last c : Char} (h : last ≠ c) (before cs : List Char) :
    stripSuffix? (before ++ [last]) (cs ++ [c]) = none := by
  rw [stripSuffix?, if_neg (by simp [List.isSuffixOf, h])]

/-- A digit at the end is no name of a zone. -/
theorem withoutZoneName_concat {c : Char} (h : c.isDigit = true) (front : List Char) :
    withoutZoneName (front ++ [c]) = front ++ [c] := by
  have hletter : ∀ letter : Char, letter.isDigit = false → letter ≠ c := by
    rintro letter hletter rfl
    cases h.symm.trans hletter
  have hutc := stripSuffix?_of_ne (hletter 'C' rfl) [' ', 'U', 'T'] front
  have hzulu := stripSuffix?_of_ne (hletter 'Z' rfl) [] front
  rw [withoutZoneName, show " UTC".toList = [' ', 'U', 'T'] ++ ['C'] from rfl, hutc]
  rw [List.nil_append] at hzulu
  rw [hzulu]
  exact trimEnd_concat (Text.isBlank_of_isDigit h) front

/-- Behind a digit, `Z` is cut off. -/
theorem withoutZoneName_zulu {c : Char} (h : c.isDigit = true) (front : List Char) :
    withoutZoneName (front ++ [c] ++ ['Z']) = front ++ [c] := by
  have hutc := stripSuffix?_of_ne (show 'C' ≠ 'Z' by decide) [' ', 'U', 'T'] (front ++ [c])
  rw [withoutZoneName, show " UTC".toList = [' ', 'U', 'T'] ++ ['C'] from rfl, hutc,
    stripSuffix?_append]
  exact trimEnd_concat (Text.isBlank_of_isDigit h) front

theorem withoutZoneName_utc {c : Char} (h : c.isDigit = true) (front : List Char) :
    withoutZoneName (front ++ [c] ++ " UTC".toList) = front ++ [c] := by
  rw [withoutZoneName, stripSuffix?_append]
  exact trimEnd_concat (Text.isBlank_of_isDigit h) front

end Reading

namespace Stamp

variable {s : Stamp}

theorem trimmed?_eq (cs : List Char) : Reading.trimmed? cs =
    (Reading.internet? cs).or
      (((Reading.withOffset? (Reading.char 'T') cs).or
          (Reading.withOffset? Reading.anySpace cs)).or
        ((Reading.withoutOffset? Reading.anySpace (Reading.withoutZoneName cs)).or
          (Reading.withoutOffset? (Reading.char 'T') (Reading.withoutZoneName cs)))) := by
  rw [Reading.trimmed?, Option.or_assoc]

/-- By cases on the ending: the readers that do not miss the text all give the instant of its
fields and its offset. -/
theorem trimmed?_text (h : s.Fits) :
    Reading.trimmed? s.text = s.fields.toInstant? s.ending.seconds := by
  have hnil : EndsFraction [] := fun c hc => nomatch hc
  obtain ⟨front, c, hc, hstem⟩ := stem_eq_concat h
  have hbare : (Reading.withoutOffset? Reading.anySpace (front ++ [c])).or
      (Reading.withoutOffset? (Reading.char 'T') (front ++ [c])) = s.fields.toInstant? 0 := by
    rw [← hstem]
    exact withoutOffset?_stem h hnil
  have hplain := withoutOffset?_stem h (endsFraction_ending s.ending)
  have hfits := h.ending
  have htext : s.text = front ++ [c] ++ s.ending.text := by
    rw [text, stem_append, hstem]
  rw [trimmed?_eq, internet?_text h, withOffset?_text h]
  cases hending : s.ending with
  | bare =>
    rw [hending] at htext
    rw [htext, show Ending.bare.text = [] from rfl, List.append_nil,
      Reading.withoutZoneName_concat hc, hbare]
    rfl
  | zulu =>
    rw [hending] at htext
    rw [htext, show Ending.zulu.text = ['Z'] from rfl, Reading.withoutZoneName_zulu hc, hbare]
    exact Option.or_self
  | utc =>
    rw [hending] at htext
    rw [htext, show Ending.utc.text = " UTC".toList from rfl, Reading.withoutZoneName_utc hc, hbare]
    rfl
  | offset behind colon hours minutes =>
    rw [hending] at htext hplain hfits
    obtain ⟨hhours, hminutes⟩ := hfits
    -- the text ends in a digit, so that no name is cut off and the offset is left over
    obtain ⟨front', c', hc', hends⟩ : ∃ front c, c.isDigit = true ∧
        (Ending.offset behind colon hours minutes).text = front ++ [c] :=
      Ending.offsetText_eq_concat hminutes _
    have hname : Reading.withoutZoneName s.text = s.text := by
      rw [htext, hends, ← List.append_assoc]
      exact Reading.withoutZoneName_concat hc' _
    have hleft : (Ending.offset behind colon hours minutes).text.isEmpty = false := by
      rw [hends]
      simp
    have hplain' : (Reading.withoutOffset? Reading.anySpace s.text).or
        (Reading.withoutOffset? (Reading.char 'T') s.text) = none := by
      rw [text, hending, hplain, hleft]
      rfl
    rw [hname, hplain', Option.or_none, Ending.zone_offset hhours hminutes,
      Ending.lenient_offset hhours hminutes]
    cases colon with
    | true => exact Option.or_self
    | false => rfl

/-! ## Surrounding white space -/

/-- No date-time ends in white space. -/
theorem text_eq_concat (h : s.Fits) :
    ∃ front c, isBlank c = false ∧ s.text = front ++ [c] := by
  obtain ⟨front, c, hc, hstem⟩ := stem_eq_concat h
  have hfits := h.ending
  rw [text, stem_append, hstem]
  cases hending : s.ending with
  | bare => exact ⟨front, c, Text.isBlank_of_isDigit hc, List.append_nil _⟩
  | zulu => exact ⟨front ++ [c], 'Z', rfl, rfl⟩
  | utc =>
    exact ⟨front ++ [c] ++ [' ', 'U', 'T'], 'C', rfl, (List.append_assoc _ [' ', 'U', 'T'] _).symm⟩
  | offset behind colon hours minutes =>
    rw [hending] at hfits
    obtain ⟨front', c', hc', hends⟩ : ∃ front c, c.isDigit = true ∧
        (Ending.offset behind colon hours minutes).text = front ++ [c] :=
      Ending.offsetText_eq_concat hfits.2 _
    rw [hends]
    exact ⟨front ++ [c] ++ front', c', Text.isBlank_of_isDigit hc',
      (List.append_assoc _ _ [c']).symm⟩

theorem trim_surrounded (h : s.Fits) {front back : List Char}
    (hfront : ∀ c ∈ front, isBlank c = true) (hback : ∀ c ∈ back, isBlank c = true) :
    trim (front ++ s.text ++ back) = s.text := by
  obtain ⟨before, c, hc, htext⟩ := text_eq_concat h
  have hstart : trimStart (front ++ s.text ++ back) = s.text ++ back := by
    rw [List.append_assoc, trimStart, List.dropWhile_append_of_pos hfront, text, stem,
      Fields.written_append, List.append_assoc, ← Fields.written_append]
    exact Fields.trimStart_written h.fields _ _
  have hend : trimEnd (s.text ++ back) = trimEnd s.text := by
    have hblank : ∀ c ∈ back.reverse, isBlank c = true :=
      fun c hc => hback c (List.mem_reverse.mp hc)
    rw [trimEnd, List.reverse_append, List.dropWhile_append_of_pos hblank, trimEnd]
  rw [trim, hstart, hend, htext]
  exact Reading.trimEnd_concat hc before

theorem instant?_surrounded (h : s.Fits) {front back : List Char}
    (hfront : ∀ c ∈ front, isBlank c = true) (hback : ∀ c ∈ back, isBlank c = true) :
    Reading.instant? (String.ofList (front ++ s.text ++ back)) =
      s.fields.toInstant? s.ending.seconds := by
  rw [Reading.instant?, String.toList_ofList, trim_surrounded h hfront hback, trimmed?_text h]

/-! ## Instants -/

/-- An offset is less than a day. -/
theorem seconds_bounds {ending : Ending} (h : ending.Fits) :
    -86400 < ending.seconds ∧ ending.seconds < 86400 := by
  cases ending with
  | offset behind colon hours minutes =>
    obtain ⟨hhours, hminutes⟩ := h
    rw [Ending.seconds, Ending.offsetSeconds]
    split <;> omega
  | _ => decide

/-- The digits are the nanoseconds with the zeros that are left out. -/
theorem nanos_mul (h : s.Fits) :
    s.nanos * 10 ^ s.digits.length = digitsValue s.digits * 10 ^ 9 := by
  rw [nanos, Nat.mul_assoc, ← Nat.pow_add, Nat.sub_add_cancel h.few]

theorem nanos_lt (h : s.Fits) : s.nanos < 1000000000 := by
  have hvalue := Nat.mul_lt_mul_of_pos_right (Text.digitsValue_lt h.digits)
    (Nat.pow_pos (n := 9 - s.digits.length) (show 0 < 10 by decide))
  rwa [← Nat.pow_add, Nat.add_sub_cancel' h.few] at hvalue

theorem isValid_fields : s.fields.isValid = true ↔ s.date.isValid = true ∧
    firstYear ≤ s.date.year ∧ s.date.year ≤ lastYear ∧ s.hour ≤ 23 ∧ s.minute ≤ 59 ∧
      s.second ≤ 60 ∧ s.nanos < 1000000000 := by
  have hfields : s.fields = ⟨s.date, s.hour, s.minute, s.second, s.nanos⟩ := rfl
  rw [hfields]
  simp only [Fields.isValid, Bool.and_eq_true, decide_eq_true_eq, and_assoc]

/-- The years 0 to 9999 are supported, whatever the offset. -/
theorem toInstant?_fields (h : s.Fits) (hdate : s.date.isValid = true) (hhour : s.hour ≤ 23)
    (hminute : s.minute ≤ 59) (hsecond : s.second < 60) :
    s.fields.toInstant? s.ending.seconds =
      some ⟨s.date.toDays * 86400 + (s.hour * 3600 + s.minute * 60 + s.second : Nat) -
        s.ending.seconds, s.nanos⟩ := by
  have hnanos := nanos_lt h
  obtain ⟨hfirst, hlast⟩ := h.fields.year
  obtain ⟨hlow, hhigh⟩ := Date.toDays_bounds hdate
  obtain ⟨hbehind, hahead⟩ := seconds_bounds h.ending
  have hsupported : firstDay ≤ -719529 ∧ 2932897 ≤ lastDay := by decide
  have hyears : firstYear ≤ 0 ∧ 9999 ≤ lastYear := by decide
  have hbegin : 0 ≤ daysBeforeYear s.date.year := daysBeforeYear_mono hfirst
  have hend : daysBeforeYear (s.date.year + 1) ≤ 3652425 :=
    daysBeforeYear_mono (Int.add_le_add_right hlast 1)
  have hepoch : epochDays = 719528 := rfl
  change 0 ≤ s.date.year at hfirst
  change s.date.year ≤ 9999 at hlast
  have hvalid : s.fields.isValid = true := isValid_fields.mpr ⟨hdate, by omega⟩
  have hordinary : ¬ s.second = 60 := by omega
  rw [Fields.toInstant?, if_pos hvalid]
  simp only [fields, hordinary, if_false, secondsPerDay]
  rw [if_pos (by omega)]

theorem toInstant?_fields_none
    (h : s.date.isValid = false ∨ 23 < s.hour ∨ 59 < s.minute ∨ 60 < s.second) :
    s.fields.toInstant? s.ending.seconds = none := by
  have hinvalid : ¬ s.fields.isValid = true := by
    intro hvalid
    obtain ⟨hdate, hclock⟩ := isValid_fields.mp hvalid
    rcases h with hmissing | hbeyond
    · cases hmissing.symm.trans hdate
    · omega
  rw [Fields.toInstant?, if_neg hinvalid]

end Stamp

/-- A moment to the second is read with any ending. -/
theorem Reading.instant?_written {f : Fields} (h : f.Fits) (spaced : Bool) (ending : Ending)
    (hending : ending.Fits) :
    instant? (String.ofList (f.written (if spaced then ' ' else 'T') ending.text)) =
      Fields.toInstant? { f with nanos := 0 } ending.seconds := by
  let s : Stamp := ⟨f.date, f.hour, f.minute, f.second, spaced, [], ending⟩
  have hfields : s.fields = { f with nanos := 0 } :=
    congrArg (Fields.mk f.date f.hour f.minute f.second) (Nat.zero_mul _)
  have fits : s.Fits := by
    refine ⟨?_, List.forall_mem_nil _, Nat.zero_le 9, hending⟩
    rw [hfields]
    exact ⟨h.year, h.month, h.day, h.hour, h.minute, h.second⟩
  have hread := Stamp.instant?_surrounded fits (List.forall_mem_nil _) (List.forall_mem_nil _)
  rw [hfields, List.nil_append, List.append_nil, Stamp.text, Stamp.stem, hfields] at hread
  exact hread

/-- A date-time in text, whatever white space is around it, names the instant that its fields tell:
the seconds are those of the days counted from the beginning of 1970 and of the time of day, less
the offset, and the nanoseconds are the fraction. A text whose month, day, hour, minute or second
does not exist names none. -/
theorem stamp_names_instant {s : Stamp} (h : s.Fits) {front back : List Char}
    (hfront : ∀ c ∈ front, isBlank c = true) (hback : ∀ c ∈ back, isBlank c = true) :
    (s.date.isValid = true → s.hour ≤ 23 → s.minute ≤ 59 → s.second < 60 →
      (∃ days, Date.CountsFromEpoch days s.date) ∧
      ∀ days, Date.CountsFromEpoch days s.date → ∃ nanos,
        nanos * 10 ^ s.digits.length = digitsValue s.digits * 10 ^ 9 ∧
        Reading.instant? (String.ofList (front ++ s.text ++ back)) =
          some ⟨days * 86400 + (s.hour * 3600 + s.minute * 60 + s.second : Nat) -
            s.ending.seconds, nanos⟩) ∧
    (s.date.isValid = false ∨ 23 < s.hour ∨ 59 < s.minute ∨ 60 < s.second →
      Reading.instant? (String.ofList (front ++ s.text ++ back)) = none) := by
  rw [Stamp.instant?_surrounded h hfront hback]
  refine ⟨fun hdate hhour hminute hsecond => ⟨?_, fun days hdays => ?_⟩,
    Stamp.toInstant?_fields_none⟩
  · exact ⟨s.date.toDays, (Date.countsFromEpoch_iff hdate).mpr rfl⟩
  · refine ⟨s.nanos, Stamp.nanos_mul h, ?_⟩
    rw [Stamp.toInstant?_fields h hdate hhour hminute hsecond,
      (Date.countsFromEpoch_iff hdate).mp hdays]

/-- The last quarter of a second of a leap day, on a clock that is two hours behind. -/
def leapDay : Stamp :=
  ⟨⟨2024, 2, 29⟩, 23, 59, 59, true, ['7', '5'], .offset true false 2 0⟩

/-- The same of a common year, in which there is no such day. -/
def missingDay : Stamp := { leapDay with date := ⟨2023, 2, 29⟩ }

theorem stamp_names_instant_leapDay :
    (∃ days nanos, Date.CountsFromEpoch days ⟨2024, 2, 29⟩ ∧ nanos * 10 ^ 2 = 75 * 10 ^ 9 ∧
      Reading.instant? " 2024-02-29 23:59:59.75-0200\n" =
        some ⟨days * 86400 + 86399 - -7200, nanos⟩) ∧
    Reading.instant? "2023-02-29 23:59:59.75-0200" = none := by
  have fits : leapDay.Fits :=
    ⟨⟨by decide, by decide, by decide, by decide, by decide, by decide⟩,
      List.forall_mem_cons.mpr ⟨rfl, List.forall_mem_singleton.mpr rfl⟩, by decide,
      ⟨by decide, by decide⟩⟩
  have fits' : missingDay.Fits :=
    ⟨⟨by decide, fits.fields.month, fits.fields.day, fits.fields.hour, fits.fields.minute,
      fits.fields.second⟩, fits.digits, fits.few, fits.ending⟩
  have htext : " 2024-02-29 23:59:59.75-0200\n" =
      String.ofList ([' '] ++ leapDay.text ++ ['\n']) := by decide +kernel
  have htext' : "2023-02-29 23:59:59.75-0200" = String.ofList ([] ++ missingDay.text ++ []) := by
    decide +kernel
  have hread := (stamp_names_instant fits
    (List.forall_mem_singleton.mpr (show Text.isBlank ' ' = true from rfl))
    (List.forall_mem_singleton.mpr (show Text.isBlank '\n' = true from rfl))).1
    (by decide) (by decide) (by decide) (by decide)
  have hmissing := (stamp_names_instant fits' (List.forall_mem_nil _) (List.forall_mem_nil _)).2
    (.inl (by decide))
  obtain ⟨⟨days, hdays⟩, hread⟩ := hread
  obtain ⟨nanos, hnanos, hread⟩ := hread days hdays
  rw [htext, htext']
  exact ⟨⟨days, nanos, hdays, hnanos, hread⟩, hmissing⟩

end DataGrid.Calendar
