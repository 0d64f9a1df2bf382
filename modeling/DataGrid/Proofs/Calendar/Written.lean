import DataGrid.Calendar.Reading
import DataGrid.Calendar.Rendering
import DataGrid.Calendar.Shape
import DataGrid.Proofs.Text.Digits

/-!
# DataGrid.Proofs.Calendar.Written -- moments as they are written

A moment of the years 0 to 9999 is written with four digits for the year and two for every
other number. A number in a fixed number of digits (`Places`) is taken by every reader that
allows as many, whatever follows, so the fields are read back up to the second by all readers
that take what stands between date and time. What is written looks like a date-time.
-/

namespace DataGrid.Calendar

open Text (digitsValue)

/-! ## One reader after the other -/

namespace Reading

/-- What is read is handed on. The readers of a moment are rewritten with this equation from the
outside in, as those that wait for the text behind them cannot be simplified yet. -/
theorem bind_of_eq_some {α β : Type} {o : Option α} {a : α} (h : o = some a) (f : α → Option β) :
    o.bind f = f a := by
  rw [h, Option.bind_some]

theorem char_self (c : Char) (rest : List Char) : char c (c :: rest) = some rest :=
  if_pos rfl

end Reading

/-! ## Numbers in a fixed number of digits -/

/-- The text is a number in exactly so many digits. -/
structure Places (width n : Nat) (text : String) : Prop where
  length : text.toList.length = width
  digits : ∀ c ∈ text.toList, c.isDigit = true
  value : digitsValue text.toList = n

namespace Places

variable {width n : Nat} {text : String}

theorem number (h : Places width n text) {least : Nat} (hleast : least ≤ width)
    (rest : List Char) :
    Reading.number least width (text.toList ++ rest) = some (n, rest) := by
  have htake : (text.toList ++ rest).take width = text.toList := by
    rw [← h.length, List.take_left]
  have hdigits : text.toList.takeWhile Char.isDigit = text.toList := by
    have hall : (text.toList ++ []).takeWhile Char.isDigit = text.toList ++ [] :=
      List.takeWhile_append_of_pos h.digits
    rwa [List.append_nil] at hall
  rw [Reading.number]
  simp only [htake, hdigits, h.length, h.value]
  rw [if_neg (Nat.not_lt.mpr hleast), ← h.length, List.drop_left]

theorem exists_cons (h : Places (width + 1) n text) :
    ∃ c cs, text.toList = c :: cs ∧ c.isDigit = true := by
  have hdigits := h.digits
  have hlength := h.length
  cases htext : text.toList with
  | nil =>
    rw [htext] at hlength
    cases hlength
  | cons c cs =>
    rw [htext] at hdigits
    exact ⟨c, cs, rfl, hdigits c List.mem_cons_self⟩

theorem exists_concat (h : Places (width + 1) n text) :
    ∃ cs c, text.toList = cs ++ [c] ∧ c.isDigit = true := by
  rcases List.eq_nil_or_concat text.toList with hnil | ⟨cs, c, htext⟩
  · have hlength := h.length
    rw [hnil] at hlength
    cases hlength
  · rw [List.concat_eq_append] at htext
    exact ⟨cs, c, htext, h.digits c (htext ▸ List.mem_append_right cs (List.mem_singleton_self c))⟩

/-- Nothing is trimmed in front of digits. -/
theorem trimStart (h : Places (width + 1) n text) (rest : List Char) :
    Text.trimStart (text.toList ++ rest) = text.toList ++ rest := by
  obtain ⟨c, cs, htext, hc⟩ := h.exists_cons
  rw [htext]
  exact Text.trimStart_cons_of_not_blank (Text.isBlank_of_isDigit hc) _

theorem field (h : Places 2 n text) (rest : List Char) :
    Reading.field (text.toList ++ rest) = some (n, rest) := by
  rw [Reading.field, h.trimStart]
  exact h.number (by decide) rest

/-- A year without a sign. -/
theorem year (h : Places 4 n text) (rest : List Char) :
    Reading.year (text.toList ++ rest) = some ((n : Int), rest) := by
  have hnumber : Reading.number 1 4 (text.toList ++ rest) = some (n, rest) :=
    h.number (by decide) rest
  obtain ⟨c, cs, htext, hc⟩ := h.exists_cons
  rw [Reading.year, h.trimStart]
  rw [htext, List.cons_append] at hnumber ⊢
  -- a digit is neither of the signs
  split
  · next heq =>
    cases heq
    cases hc
  · next heq =>
    cases heq
    cases hc
  · rw [hnumber]
    rfl

end Places

theorem places_twoPlaces {value : Nat} (h : value < 100) :
    Places 2 value (Rendering.twoPlaces .zero value) := by
  have hdigit : ∀ d < 10, (Char.ofNat ('0'.toNat + d)).isDigit = true ∧
      Text.digitValue (Char.ofNat ('0'.toNat + d)) = d := by decide
  obtain ⟨htens, htensValue⟩ := hdigit (value / 10) (by omega)
  obtain ⟨hones, honesValue⟩ := hdigit (value % 10) (by omega)
  have htext : (Rendering.twoPlaces .zero value).toList =
      [Char.ofNat ('0'.toNat + value / 10), Char.ofNat ('0'.toNat + value % 10)] := by
    unfold Rendering.twoPlaces
    dsimp only
    split <;> simp_all
  refine ⟨congrArg List.length htext, ?_, ?_⟩
  · rw [htext]
    exact List.forall_mem_cons.mpr ⟨htens, List.forall_mem_singleton.mpr hones⟩
  · rw [htext, digitsValue, List.foldl_cons, List.foldl_cons, List.foldl_nil, htensValue,
      honesValue]
    omega

theorem places_year {year : Int} (hlow : 0 ≤ year) (hhigh : year ≤ 9999) :
    Places 4 year.toNat (Rendering.year .zero year) := by
  have hunsigned : (decide (year < 0) || decide (9999 < year)) = false := by
    simp only [Bool.or_eq_false_iff, decide_eq_false_iff_not]
    omega
  have hbody : year.natAbs = year.toNat := by omega
  have htext : (Rendering.year .zero year).toList =
      List.replicate (4 - (toString year.toNat).length) '0' ++ (toString year.toNat).toList := by
    rw [Rendering.year, hunsigned, Rendering.wide, if_neg (Int.not_lt.mpr hlow), hbody]
    simp only [Rendering.padLeft, Bool.false_eq_true, if_false, String.empty_append,
      String.length_empty, Nat.sub_zero, String.toList_append, String.toList_ofList]
  have hshort : (toString year.toNat).length ≤ 4 :=
    (Nat.length_repr_le_iff (by decide)).mpr (by omega)
  refine ⟨?_, ?_, ?_⟩
  · rw [htext, List.length_append, List.length_replicate, String.length_toList]
    omega
  · rw [htext]
    refine List.forall_mem_append.mpr ⟨fun c hc => ?_, fun c => Text.isDigit_of_mem_toString⟩
    rw [List.eq_of_mem_replicate hc]
    rfl
  · rw [htext]
    exact Text.digitsValue_replicate_zero _ _

/-! ## Moments -/

namespace Fields

/-- The year has four places, and every other number two. -/
structure Fits (f : Fields) : Prop where
  year : 0 ≤ f.date.year ∧ f.date.year ≤ 9999
  month : f.date.month < 100
  day : f.date.day < 100
  hour : f.hour < 100
  minute : f.minute < 100
  second : f.second < 100

/-- A moment to the second, with a character between date and time and text behind it. -/
def written (separator : Char) (f : Fields) (rest : List Char) : List Char :=
  (Rendering.year .zero f.date.year).toList ++ '-' ::
    ((Rendering.twoPlaces .zero f.date.month).toList ++ '-' ::
    ((Rendering.twoPlaces .zero f.date.day).toList ++ separator ::
    ((Rendering.twoPlaces .zero f.hour).toList ++ ':' ::
    ((Rendering.twoPlaces .zero f.minute).toList ++ ':' ::
    ((Rendering.twoPlaces .zero f.second).toList ++ rest)))))

/-- The items of such a moment. -/
def writtenItems (separator : Char) (rest : List Char) : List FormatItem :=
  [.number .year .zero, .literal '-', .number .month .zero, .literal '-', .number .day .zero,
    .literal separator, .number .hour .zero, .literal ':', .number .minute .zero, .literal ':',
    .number .second .zero] ++ rest.map .literal

theorem render?_literals (f : Fields) (cs : List Char) :
    render? f (cs.map .literal) = some (String.ofList cs) := by
  induction cs with
  | nil => rfl
  | cons c cs ih =>
    rw [List.map_cons, render?, ih]
    simp only [Rendering.item?, Option.bind_eq_bind, Option.bind_some, Option.pure_def,
      ← String.ofList_append, List.singleton_append]

theorem render?_writtenItems (f : Fields) (separator : Char) (rest : List Char) :
    render? f (writtenItems separator rest) = some (String.ofList (f.written separator rest)) := by
  simp only [writtenItems, List.cons_append, List.nil_append, render?, Rendering.item?,
    Rendering.number, render?_literals, Option.pure_def, Option.bind_eq_bind, Option.bind_some]
  simp only [written, String.ofList_cons, String.ofList_append, String.ofList_toList,
    String.reduceSingleton, String.ofList_nil, String.append_empty]

theorem written_append (f : Fields) (separator : Char) (rest : List Char) :
    f.written separator rest = f.written separator [] ++ rest := by
  simp only [written, List.append_assoc, List.cons_append, List.append_nil]

variable {f : Fields}

theorem trimStart_written (h : f.Fits) (separator : Char) (rest : List Char) :
    Text.trimStart (f.written separator rest) = f.written separator rest :=
  (places_year h.year.1 h.year.2).trimStart _

/-- What is written ends in a digit. -/
theorem written_eq_concat (h : f.Fits) (separator : Char) :
    ∃ front c, c.isDigit = true ∧ f.written separator [] = front ++ [c] := by
  obtain ⟨cs, c, hsecond, hc⟩ := (places_twoPlaces h.second).exists_concat
  have hlast : (f.written separator []).getLast? = some c := by
    simp only [written, hsecond, List.append_nil, List.getLast?_append, List.getLast?_cons,
      List.getLast?_nil, Option.getD_none, Option.some_or, Option.getD_some]
  obtain ⟨front, hfront⟩ := List.getLast?_eq_some_iff.mp hlast
  exact ⟨front, c, hc, hfront⟩

/-! ## Reading -/

open Reading (bind_of_eq_some char_self)

theorem internet?_written (h : f.Fits) {separator : Char}
    (hseparator : ∀ cs, Reading.dateTimeSeparator (separator :: cs) = some cs)
    (rest : List Char) :
    Reading.internet? (f.written separator rest) =
      (Reading.fraction rest).bind fun (nanos, rest) =>
        (Reading.zone rest).bind fun (offset, rest) =>
          if rest.isEmpty then toInstant? { f with nanos := nanos } offset else none := by
  have hyear : ((f.date.year.toNat : Nat) : Int) = f.date.year := Int.toNat_of_nonneg h.year.1
  rw [Reading.internet?, written]
  simp only [↓Option.bind_eq_bind, ↓bind_of_eq_some (char_self _ _),
    ↓bind_of_eq_some (hseparator _),
    ↓bind_of_eq_some ((places_year h.year.1 h.year.2).number (Nat.le_refl 4) _),
    ↓bind_of_eq_some ((places_twoPlaces h.month).number (Nat.le_refl 2) _),
    ↓bind_of_eq_some ((places_twoPlaces h.day).number (Nat.le_refl 2) _),
    ↓bind_of_eq_some ((places_twoPlaces h.hour).number (Nat.le_refl 2) _),
    ↓bind_of_eq_some ((places_twoPlaces h.minute).number (Nat.le_refl 2) _),
    ↓bind_of_eq_some ((places_twoPlaces h.second).number (Nat.le_refl 2) _), hyear]

/-- The lenient fields, up to what is left behind the fraction. -/
theorem fields_written (h : f.Fits) {separator : Char} {cut : List Char → Option (List Char)}
    {rest left : List Char} {nanos : Nat}
    (hcut : ∀ rest, cut (separator :: ((Rendering.twoPlaces .zero f.hour).toList ++ rest)) =
      some ((Rendering.twoPlaces .zero f.hour).toList ++ rest))
    (hrest : Reading.fraction rest = some (nanos, left)) :
    Reading.fields cut (f.written separator rest) = some ({ f with nanos := nanos }, left) := by
  have hyear : ((f.date.year.toNat : Nat) : Int) = f.date.year := Int.toNat_of_nonneg h.year.1
  rw [Reading.fields, written]
  simp only [↓Option.bind_eq_bind, ↓bind_of_eq_some (char_self _ _), ↓bind_of_eq_some (hcut _),
    ↓bind_of_eq_some ((places_year h.year.1 h.year.2).year _),
    ↓bind_of_eq_some ((places_twoPlaces h.month).field _),
    ↓bind_of_eq_some ((places_twoPlaces h.day).field _),
    ↓bind_of_eq_some ((places_twoPlaces h.hour).field _),
    ↓bind_of_eq_some ((places_twoPlaces h.minute).field _),
    ↓bind_of_eq_some ((places_twoPlaces h.second).field _), ↓bind_of_eq_some hrest, hyear]

/-- Without an hour behind what stands between date and time there are no fields. -/
theorem fields_of_no_hour (h : f.Fits) {separator : Char} {cut : List Char → Option (List Char)}
    (hcut : ∀ cs, (cut (separator :: cs)).bind Reading.field = none) (rest : List Char) :
    Reading.fields cut (f.written separator rest) = none := by
  rw [Reading.fields, written]
  simp only [↓Option.bind_eq_bind, ↓bind_of_eq_some (char_self _ _),
    ↓bind_of_eq_some ((places_year h.year.1 h.year.2).year _),
    ↓bind_of_eq_some ((places_twoPlaces h.month).field _),
    ↓bind_of_eq_some ((places_twoPlaces h.day).field _)]
  rw [← Option.bind_assoc, hcut, Option.bind_none]

/-- A `T` in the place of white space is no number. -/
theorem fields_anySpace_letter (h : f.Fits) (rest : List Char) :
    Reading.fields Reading.anySpace (f.written 'T' rest) = none :=
  fields_of_no_hour h (fun _ => rfl) rest

/-- A space is no `T`. -/
theorem fields_letter_space (h : f.Fits) (rest : List Char) :
    Reading.fields (Reading.char 'T') (f.written ' ' rest) = none :=
  fields_of_no_hour h (fun _ => rfl) rest

end Fields

/-! ## The shape of a date-time -/

namespace Shape

open Text (PointTest isDecimalDigit)

theorem begins_append {tests tests' : List PointTest} {cs cs' : List Char}
    (h : cs.length = tests.length) :
    begins (tests ++ tests') (cs ++ cs') = (begins tests cs && begins tests' cs') := by
  induction tests generalizing cs with
  | nil =>
    obtain rfl := List.eq_nil_of_length_eq_zero h
    rfl
  | cons test tests ih =>
    cases cs with
    | nil => cases h
    | cons c cs =>
      rw [List.cons_append, List.cons_append, begins, begins, ih (Nat.succ.inj h), Bool.and_assoc]

theorem begins_replicate {test : PointTest} {cs : List Char} (h : ∀ c ∈ cs, test c = true) :
    begins (List.replicate cs.length test) cs = true := by
  induction cs with
  | nil => rfl
  | cons c cs ih =>
    obtain ⟨hc, hcs⟩ := List.forall_mem_cons.mp h
    rw [List.length_cons, List.replicate_succ, begins, hc, ih hcs, Bool.true_and]

theorem begins_places {width n : Nat} {text : String} (h : Places width n text)
    (tests : List PointTest) (rest : List Char) :
    begins (List.replicate width isDecimalDigit ++ tests) (text.toList ++ rest) =
      begins tests rest := by
  have hdecimal : ∀ c ∈ text.toList, isDecimalDigit c = true := by
    intro c hc
    have hdigit := h.digits c hc
    have hascii : c.toNat < 0x80 := Nat.lt_of_le_of_lt (Text.toNat_of_isDigit hdigit).2 (by decide)
    rw [isDecimalDigit, if_pos hascii]
    exact hdigit
  rw [← h.length, begins_append List.length_replicate.symm, begins_replicate hdecimal,
    Bool.true_and]

/-- Whatever is between date and time, but for a line feed. -/
theorem occurs_written {f : Fields} (h : f.Fits) {separator : Char} (hline : separator ≠ '\n')
    (rest : List Char) : occurs dateTime (f.written separator rest) = true := by
  have hsecond := begins_places (places_twoPlaces h.second) [] rest
  rw [List.append_nil] at hsecond
  have hbegins : begins dateTime (f.written separator rest) = true := by
    simp only [dateTime, Fields.written, List.append_assoc, List.cons_append, List.nil_append]
    rw [begins_places (places_year h.year.1 h.year.2), begins,
      begins_places (places_twoPlaces h.month), begins, begins_places (places_twoPlaces h.day),
      begins, begins_places (places_twoPlaces h.hour), begins,
      begins_places (places_twoPlaces h.minute), begins, hsecond]
    simp [only, begins, hline]
  cases hcs : f.written separator rest with
  | nil =>
    rw [hcs] at hbegins
    cases hbegins
  | cons c cs => rw [occurs, ← hcs, hbegins, Bool.true_or]

end Shape
end DataGrid.Calendar
