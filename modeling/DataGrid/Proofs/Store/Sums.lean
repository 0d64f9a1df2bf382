import DataGrid.Proofs.Store.Integers

/-!
# DataGrid.Proofs.Store.Sums -- a sum loses nothing and counts nothing twice

A sum has an integer part of 64 bits and a double part. Every value that is fed to it has one
share: an integer goes to the integer part, or to the double part if the integer part has no room
for it at that point; a double goes to the double part; nothing else goes anywhere. The integer
part is the exact sum of what went there. So as long as there is no double and no running total
leaves 64 bits, the result is the exact sum of the integers, in the smaller width that holds it.
-/

namespace DataGrid.Store.Accumulator

/-! ## Shares -/

/-- What a value adds to a sum. -/
inductive Share where
  /-- An integer that goes to the integer part. -/
  | whole (n : Int)
  /-- An integer that goes to the double part. -/
  | overflow (n : Int)
  /-- A double. -/
  | fraction (x : Binary64)
  /-- Nothing at all. -/
  | nothing

namespace Share

/-- The integer that is added, in whichever part. -/
def number? : Share → Option Int
  | whole n | overflow n => some n
  | _ => none

/-- What is added to the integer part. -/
def integer : Share → Int
  | whole n => n
  | _ => 0

/-- What is added to the double part. -/
def double? : Share → Option Binary64
  | overflow n => some (.ofInt n)
  | fraction x => some x
  | _ => none

end Share

/-- What the integer part adds up to. -/
def wholes (shares : List Share) : Int := (shares.map Share.integer).sum

/-- What the double part adds up to, one rounding after the other. -/
def doubles (shares : List Share) : Binary64 :=
  (shares.filterMap Share.double?).foldl Binary64.add .zero

/-- The share of a value when the integer part is at a sum. -/
inductive Goes (sum : Int) : Option Value → Share → Prop
  | whole {v : Value} {n : Int} : v.integer? = some n → fits64 (sum + n) = true →
      Goes sum (some v) (.whole n)
  | overflow {v : Value} {n : Int} : v.integer? = some n → fits64 (sum + n) = false →
      Goes sum (some v) (.overflow n)
  | fraction {x : Binary64} : Goes sum (some (.double x)) (.fraction x)
  | nothing {value : Option Value} : value.bind Value.numeric? = none → Goes sum value .nothing

/-- Values one after the other have their shares, each at what the integer part has come to. -/
inductive Booked : List (Option Value) → List Share → Prop
  | nil : Booked [] []
  | snoc {values : List (Option Value)} {shares : List Share} {value : Option Value}
      {share : Share} :
      Booked values shares → Goes (wholes shares) value share →
      Booked (values ++ [value]) (shares ++ [share])

/-- The integers among values. -/
def integers (values : List (Option Value)) : List Int :=
  values.filterMap fun value => value.bind Value.integer?

/-- The accumulator of a sum holds what the shares add up to, and whether the double part has had
any. -/
def Holds (shares : List Share) (a : Accumulator) : Prop :=
  ∃ integer isFloat, a = .sum integer (doubles shares) isFloat ∧ integer.toInt = wholes shares ∧
    (isFloat = true ↔ ∃ share ∈ shares, share.double?.isSome = true)

theorem integer?_of_not_numeric {value : Option Value} (h : value.bind Value.numeric? = none) :
    value.bind Value.integer? = none := by
  cases value with
  | none => rfl
  | some v => cases v with
    | int32 n => cases h
    | int64 n => cases h
    | _ => rfl

theorem exists_goes (sum : Int) (value : Option Value) : ∃ share, Goes sum value share := by
  have hinteger : ∀ {v : Value} {n : Int}, v.integer? = some n →
      ∃ share, Goes sum (some v) share := by
    intro v n hv
    cases hfits : fits64 (sum + n) with
    | true => exact ⟨_, .whole hv hfits⟩
    | false => exact ⟨_, .overflow hv hfits⟩
  cases value with
  | none => exact ⟨.nothing, .nothing rfl⟩
  | some v =>
    cases v with
    | int32 n => exact hinteger rfl
    | int64 n => exact hinteger rfl
    | double x => exact ⟨_, .fraction⟩
    | _ => exact ⟨.nothing, .nothing rfl⟩

theorem exists_booked (values : List (Option Value)) : ∃ shares, Booked values shares := by
  induction values using List.reverseRecOn with
  | nil => exact ⟨[], .nil⟩
  | append_singleton values value ih =>
    obtain ⟨shares, hshares⟩ := ih
    obtain ⟨share, hshare⟩ := exists_goes (wholes shares) value
    exact ⟨_, hshares.snoc hshare⟩

/-- At every point there are the shares of the values so far. -/
theorem Booked.of_isPrefix {values before : List (Option Value)} {shares : List Share}
    (h : Booked values shares) (hbefore : before <+: values) :
    ∃ earlier, earlier <+: shares ∧ Booked before earlier := by
  induction h with
  | nil =>
    rw [List.prefix_nil.mp hbefore]
    exact ⟨[], List.prefix_rfl, .nil⟩
  | @snoc values shares value share hbooked hgoes ih =>
    rcases List.prefix_concat_iff.mp hbefore with rfl | hbefore
    · exact ⟨_, List.prefix_rfl, hbooked.snoc hgoes⟩
    · obtain ⟨earlier, hearlier, hbooked'⟩ := ih hbefore
      exact ⟨earlier, hearlier.trans (List.prefix_append shares [share]), hbooked'⟩

/-! ## What the accumulator holds -/

theorem wholes_concat (shares : List Share) (share : Share) :
    wholes (shares ++ [share]) = wholes shares + share.integer := by
  simp [wholes]

theorem doubles_concat (shares : List Share) (share : Share) :
    doubles (shares ++ [share]) =
      (share.double?.map (doubles shares).add).getD (doubles shares) := by
  unfold doubles
  rw [List.filterMap_append, List.foldl_append]
  cases hdouble : share.double? <;> simp [hdouble]

theorem fits64_iff {n : Int} :
    fits64 n = true ↔ Int64.minValue.toInt ≤ n ∧ n ≤ Int64.maxValue.toInt := by
  rw [fits64, Bool.and_eq_true, decide_eq_true_eq, decide_eq_true_eq]

theorem fits64_toInt (n : Int64) : fits64 n.toInt = true :=
  fits64_iff.mpr ⟨Int64.le_toInt n, Int.le_of_lt_add_one (Int64.toInt_lt n)⟩

theorem toInt_ofInt_of_fits64 {n : Int} (h : fits64 n = true) : (Int64.ofInt n).toInt = n := by
  obtain ⟨hlow, hhigh⟩ := fits64_iff.mp h
  exact Int64.toInt_ofInt_of_le hlow (Int.lt_add_one_of_le hhigh)

theorem toInt_ofInt_of_fits32 {n : Int} (h : fits32 n = true) : (Int32.ofInt n).toInt = n := by
  rw [fits32, Bool.and_eq_true, decide_eq_true_eq, decide_eq_true_eq] at h
  exact Int32.toInt_ofInt_of_le h.1 (Int.lt_add_one_of_le h.2)

theorem add_integer {v : Value} {n : Int} (hv : v.integer? = some n) (integer : Int64)
    (float : Binary64) (isFloat : Bool) :
    (Accumulator.sum integer float isFloat).add (some v) = addInteger integer float isFloat n := by
  cases v with
  | int32 k => rw [← Option.some.inj hv]; rfl
  | int64 k => rw [← Option.some.inj hv]; rfl
  | _ => cases hv

theorem add_not_numeric {value : Option Value} (h : value.bind Value.numeric? = none)
    (integer : Int64) (float : Binary64) (isFloat : Bool) :
    (Accumulator.sum integer float isFloat).add value = .sum integer float isFloat := by
  cases value with
  | none => rfl
  | some v => cases v with
    | int32 n => cases h
    | int64 n => cases h
    | double x => cases h
    | _ => rfl

/-- One value: its share is added to the part that it goes to. -/
theorem Holds.add {shares : List Share} {a : Accumulator} (h : Holds shares a)
    {value : Option Value} {share : Share} (hgoes : Goes (wholes shares) value share) :
    Holds (shares ++ [share]) (a.add value) := by
  obtain ⟨integer, isFloat, rfl, hinteger, hfloat⟩ := h
  have hany : (∃ s ∈ shares ++ [share], s.double?.isSome = true) ↔
      isFloat = true ∨ share.double?.isSome = true := by
    rw [hfloat]
    simp [or_and_right, exists_or]
  simp only [Holds, wholes_concat, doubles_concat, hany]
  cases hgoes with
  | @whole v n hv hfits =>
    rw [add_integer hv, addInteger, hinteger, if_pos hfits]
    exact ⟨_, _, rfl, toInt_ofInt_of_fits64 hfits, by simp [Share.double?]⟩
  | @overflow v n hv hfits =>
    rw [add_integer hv, addInteger, hinteger, if_neg (by simp [hfits])]
    exact ⟨_, _, rfl, hinteger.trans (Int.add_zero _).symm, by simp [Share.double?]⟩
  | fraction => exact ⟨_, _, rfl, hinteger.trans (Int.add_zero _).symm, by simp [Share.double?]⟩
  | nothing hvalue =>
    rw [add_not_numeric hvalue]
    exact ⟨_, _, rfl, hinteger.trans (Int.add_zero _).symm, by simp [Share.double?]⟩

theorem Booked.holds {values : List (Option Value)} {shares : List Share}
    (h : Booked values shares) : Holds shares (values.foldl add (.sum 0 .zero false)) := by
  induction h with
  | nil => exact ⟨0, false, rfl, rfl, by simp⟩
  | snoc _ hgoes ih =>
    rw [List.foldl_append]
    exact ih.add hgoes

/-! ## Nothing is lost and nothing counts twice -/

/-- The integers that were added are those that were fed, each of them once. -/
theorem Booked.numbers_eq {values : List (Option Value)} {shares : List Share}
    (h : Booked values shares) : shares.filterMap Share.number? = integers values := by
  induction h with
  | nil => rfl
  | @snoc values shares value share _ hgoes ih =>
    have hone : share.number? = value.bind Value.integer? := by
      cases hgoes with
      | whole hv _ => exact hv.symm
      | overflow hv _ => exact hv.symm
      | fraction => rfl
      | nothing hvalue => exact (integer?_of_not_numeric hvalue).symm
    rw [integers, List.filterMap_append, List.filterMap_append, ih, integers]
    congr 1
    simp [List.filterMap_cons, hone]

/-- Without an overflow the integer part is the sum of all integers. -/
theorem wholes_eq {shares : List Share} (h : ∀ n, Share.overflow n ∉ shares) :
    wholes shares = (shares.filterMap Share.number?).sum := by
  induction shares with
  | nil => rfl
  | cons share rest ih =>
    have hrest := ih fun n hn => h n (List.mem_cons_of_mem _ hn)
    rw [wholes] at hrest ⊢
    rw [List.map_cons, List.sum_cons, hrest]
    cases share with
    | whole n => rfl
    | overflow n => exact absurd List.mem_cons_self (h n)
    | fraction x => exact Int.zero_add _
    | nothing => exact Int.zero_add _

/-- The double part has what is a double, and what overflows. -/
theorem Booked.exists_double_iff {values : List (Option Value)} {shares : List Share}
    (h : Booked values shares) :
    (∃ share ∈ shares, share.double?.isSome = true) ↔
      (∃ x, some (.double x) ∈ values) ∨ ∃ n, Share.overflow n ∈ shares := by
  induction h with
  | nil => simp
  | @snoc values shares value share _ hgoes ih =>
    have hone : share.double?.isSome = true ↔
        (∃ x, some (Value.double x) = value) ∨ ∃ n, Share.overflow n = share := by
      cases hgoes with
      | @whole v n hv _ => cases v with
        | double x => cases hv
        | _ => simp [Share.double?]
      | overflow => simp [Share.double?]
      | fraction => simp [Share.double?]
      | nothing hvalue =>
        refine iff_of_false (by simp [Share.double?]) ?_
        rintro (⟨x, rfl⟩ | ⟨n, hn⟩)
        · cases hvalue
        · cases hn
    simp only [List.mem_append, List.mem_singleton, or_and_right, exists_or, exists_eq_left, ih,
      hone]
    exact or_or_or_comm

theorem sum_integers_concat (values : List (Option Value)) (value : Option Value) :
    (integers (values ++ [value])).sum =
      (integers values).sum + ((value.bind Value.integer?).getD 0) := by
  rw [integers, List.filterMap_append, List.sum_append]
  cases hvalue : value.bind Value.integer? <;> simp [integers, hvalue]

/-- By induction on the values: nothing overflows as long as the exact totals fit. -/
theorem Booked.no_overflow_iff {values : List (Option Value)} {shares : List Share}
    (h : Booked values shares) :
    (∀ n, Share.overflow n ∉ shares) ↔
      ∀ before, before <+: values → fits64 (integers before).sum = true := by
  induction h with
  | nil =>
    refine iff_of_true (fun _ => List.not_mem_nil) fun before hbefore => ?_
    rw [List.prefix_nil.mp hbefore]
    exact fits64_toInt 0
  | @snoc values shares value share hbooked hgoes ih =>
    simp only [List.mem_append, List.mem_singleton, not_or, forall_and, List.prefix_concat_iff,
      or_imp, forall_eq, ih]
    rw [and_comm]
    refine and_congr_left fun hfits => ?_
    -- nothing has overflowed so far, so the integer part is the running total
    have hwholes : (integers values).sum = wholes shares := by
      rw [wholes_eq (ih.mpr hfits), hbooked.numbers_eq]
    have hsofar : fits64 (wholes shares) = true := hwholes ▸ hfits values List.prefix_rfl
    rw [sum_integers_concat, hwholes]
    cases hgoes with
    | whole hv hroom => simpa [hv] using hroom
    | overflow hv hfull => simp [hv, hfull]
    | fraction => simpa [Value.integer?] using hsofar
    | nothing hvalue => simpa [integer?_of_not_numeric hvalue] using hsofar

/-- Only numbers count. -/
theorem foldl_add_filter (values : List (Option Value)) :
    (values.filter fun value => (value.bind Value.numeric?).isSome).foldl add
      (.sum 0 .zero false) = values.foldl add (.sum 0 .zero false) := by
  induction values using List.reverseRecOn with
  | nil => rfl
  | append_singleton values value ih =>
    rw [List.filter_append, List.foldl_append, List.foldl_append, ih]
    cases hvalue : value.bind Value.numeric? with
    | some x => simp [hvalue]
    | none =>
      -- what was fed so far has left a sum, which a value that is no number does not change
      obtain ⟨shares, hbooked⟩ := exists_booked values
      obtain ⟨integer, isFloat, hheld, -, -⟩ := hbooked.holds
      rw [hheld]
      simp [hvalue, add_not_numeric]

/-! ## The result -/

/-- Without a double part, the result is the integer part in whichever width. -/
theorem integer?_result (integer : Int64) (float : Binary64) :
    (Accumulator.sum integer float false).result.integer? = some integer.toInt := by
  rw [result, if_neg Bool.false_ne_true]
  split
  · next hfits => exact congrArg some (toInt_ofInt_of_fits32 hfits)
  · rfl

/-- No double was fed to the sum, and no integer has overflowed. -/
def AllWhole (values : List (Option Value)) (shares : List Share) : Prop :=
  (∀ x, some (.double x) ∉ values) ∧ ∀ n, Share.overflow n ∉ shares

/-- A sum adds up. Whatever values it is fed, each has its share, and so at every point: every
integer so far was added once, to the integer part or, if that had no room for it, to the double
part, and the accumulator holds what the shares come to. No integer overflows if and only if no
running total leaves 64 bits. Only numbers count. The result is an integer if and only if there was
no double and no overflow; then it is the exact total, in 32 bits if they hold it and else in 64,
and in all other cases it is the sum of the two parts as a double. -/
theorem sum_adds_up (values : List (Option Value)) :
    ∃ fresh shares, new "$sum" = .ok fresh ∧ Booked values shares ∧
      (∀ before, before <+: values → ∃ earlier, earlier <+: shares ∧ Booked before earlier ∧
        earlier.filterMap Share.number? = integers before ∧
        Holds earlier (before.foldl add fresh)) ∧
      ((∀ n, Share.overflow n ∉ shares) ↔
        ∀ before, before <+: values → fits64 (integers before).sum = true) ∧
      (values.filter fun value => (value.bind Value.numeric?).isSome).foldl add fresh =
        values.foldl add fresh ∧
      let result := (values.foldl add fresh).result
      let total := (integers values).sum
      ((∃ n, result.integer? = some n) ↔ AllWhole values shares) ∧
      (AllWhole values shares → result.integer? = some total ∧
        result = if fits32 total then .int32 (Int32.ofInt total) else .int64 (Int64.ofInt total)) ∧
      (¬ AllWhole values shares →
        result = .double ((Binary64.ofInt (wholes shares)).add (doubles shares))) := by
  obtain ⟨shares, hbooked⟩ := exists_booked values
  obtain ⟨integer, isFloat, hheld, hinteger, hfloat⟩ := hbooked.holds
  have hwhole : AllWhole values shares ↔ isFloat = false := by
    rw [AllWhole, ← Bool.not_eq_true, hfloat, hbooked.exists_double_iff, not_or, not_exists,
      not_exists]
  have hexact : AllWhole values shares →
      (Accumulator.sum integer (doubles shares) isFloat).result.integer? =
        some (integers values).sum ∧
      (Accumulator.sum integer (doubles shares) isFloat).result =
        if fits32 (integers values).sum then .int32 (Int32.ofInt (integers values).sum)
        else .int64 (Int64.ofInt (integers values).sum) := by
    intro h
    have htotal : integer.toInt = (integers values).sum := by
      rw [hinteger, wholes_eq h.2, hbooked.numbers_eq]
    rw [hwhole.mp h, ← htotal]
    refine ⟨integer?_result _ _, ?_⟩
    rw [result, if_neg Bool.false_ne_true, Int64.ofInt_toInt]
  have hrounded : ¬ AllWhole values shares →
      (Accumulator.sum integer (doubles shares) isFloat).result =
        .double ((Binary64.ofInt (wholes shares)).add (doubles shares)) := by
    intro h
    rw [hwhole, Bool.not_eq_false] at h
    rw [h, result, if_pos rfl, hinteger]
  refine ⟨_, shares, rfl, hbooked, fun before hbefore => ?_, hbooked.no_overflow_iff,
    foldl_add_filter values, ?_⟩
  · obtain ⟨earlier, hearlier, hbooked'⟩ := hbooked.of_isPrefix hbefore
    exact ⟨earlier, hearlier, hbooked', hbooked'.numbers_eq, hbooked'.holds⟩
  · rw [hheld]
    refine ⟨⟨fun ⟨n, hn⟩ => ?_, fun h => ⟨_, (hexact h).1⟩⟩, hexact, hrounded⟩
    by_contra h
    rw [hrounded h] at hn
    cases hn

/-- Values that bring a sum to the end of 64 bits and back. -/
def turning : List (Option Value) :=
  [some (.int64 Int64.maxValue), none, some (.string "many"), some (.int32 (-1))]

/-- Values that take a sum beyond 64 bits. -/
def beyond : List (Option Value) := [some (.int64 Int64.maxValue), none, some (.int32 1)]

theorem sum_adds_up_at_the_end :
    (∃ shares, Booked turning shares ∧ AllWhole turning shares ∧
      (turning.foldl add (.sum 0 .zero false)).result = .int64 9223372036854775806) ∧
    ∃ shares, Booked beyond shares ∧ ¬ AllWhole beyond shares ∧
      (beyond.foldl add (.sum 0 .zero false)).result =
        .double ((Binary64.ofInt (wholes shares)).add (doubles shares)) := by
  constructor
  · obtain ⟨fresh, shares, hfresh, hbooked, -, -, -, hinteger, hexact, -⟩ := sum_adds_up turning
    obtain rfl := Except.ok.inj hfresh
    have hwhole := hinteger.mp ⟨9223372036854775806, by decide +kernel⟩
    refine ⟨shares, hbooked, hwhole, (hexact hwhole).2.trans ?_⟩
    rfl
  · obtain ⟨fresh, shares, hfresh, hbooked, -, -, -, hinteger, -, hrounded⟩ := sum_adds_up beyond
    obtain rfl := Except.ok.inj hfresh
    have hnone : (beyond.foldl add (.sum 0 .zero false)).result.integer? = none := by
      decide +kernel
    have hwhole : ¬ AllWhole beyond shares := fun h => by
      obtain ⟨n, hn⟩ := hinteger.mpr h
      rw [hnone] at hn
      cases hn
    exact ⟨shares, hbooked, hwhole, hrounded hwhole⟩

end DataGrid.Store.Accumulator
