import DataGrid.Proofs.Calendar.Instant
import Mathlib.Logic.Function.Iterate

/-!
# DataGrid.Proofs.Calendar.Days -- counting days

Day numbers are computed, from the days before the year and before the month. They could as well
be counted, one day after the other: the day after a date is the next one of its month, or the
first of the next month, or of the next year. The number of a date is how often one has to go on
from the beginning of 1970 to come to it, or back. No two dates have one number.
-/

namespace DataGrid.Calendar

/-! ## Months -/

theorem daysOf_take_succ (lengths : List Nat) (i : Nat) :
    daysOf (lengths.take (i + 1)) = daysOf (lengths.take i) + lengths.getD i 0 := by
  induction lengths generalizing i with
  | nil => simp [daysOf]
  | cons length lengths ih =>
    cases i with
    | zero => simp [daysOf]
    | succ i =>
      rw [List.take_succ_cons, daysOf_cons, ih, List.take_succ_cons, daysOf_cons, Nat.add_assoc]
      rfl

/-- Months follow each other without a gap. -/
theorem daysBeforeMonth_succ (year : Int) {month : Nat} (h : 1 ≤ month) :
    daysBeforeMonth year (month + 1) = daysBeforeMonth year month + monthLength year month := by
  obtain ⟨index, rfl⟩ := Nat.exists_eq_add_of_le' h
  rw [monthLength, if_neg (Nat.succ_ne_zero index)]
  exact daysOf_take_succ (monthLengths year) index

theorem daysBeforeMonth_mono (year : Int) {month month' : Nat} (h : 1 ≤ month)
    (hle : month ≤ month') : daysBeforeMonth year month ≤ daysBeforeMonth year month' := by
  induction hle with
  | refl => exact Nat.le_refl _
  | step hle ih =>
    rw [Nat.succ_eq_add_one, daysBeforeMonth_succ year (Nat.le_trans h hle)]
    exact Nat.le_trans ih (Nat.le_add_right _ _)

/-- Behind the last month is the whole year. -/
theorem daysBeforeMonth_end (year : Int) :
    daysBeforeMonth year (12 + 1) = daysOf (monthLengths year) := rfl

theorem monthLength_pos (year : Int) {month : Nat} (h : 1 ≤ month) (hle : month ≤ 12) :
    1 ≤ monthLength year month := by
  have hlengths : ∀ length ∈ monthLengths year, 1 ≤ length := by
    unfold monthLengths februaryLength
    cases isLeapYear year <;> decide
  obtain ⟨index, rfl⟩ := Nat.exists_eq_add_of_le' h
  have hindex : index < (monthLengths year).length := Nat.lt_of_succ_le hle
  rw [monthLength, if_neg (Nat.succ_ne_zero index), Nat.add_sub_cancel,
    List.getD_eq_getElem?_getD, List.getElem?_eq_getElem hindex]
  exact hlengths _ (List.getElem_mem hindex)

/-! ## Years -/

theorem daysBeforeYear_mono {year year' : Int} (h : year ≤ year') :
    daysBeforeYear year ≤ daysBeforeYear year' := by
  obtain ⟨passed, rfl⟩ := Int.le.dest h
  clear h
  induction passed with
  | zero => exact Int.le_of_eq (congrArg daysBeforeYear (Int.add_zero year).symm)
  | succ passed ih =>
    rw [Int.natCast_succ, ← Int.add_assoc, daysBeforeYear_succ]
    omega

namespace Date

variable {d d' : Date}

theorem isValid_iff : d.isValid = true ↔ 1 ≤ d.day ∧ d.day ≤ monthLength d.year d.month := by
  rw [isValid, Bool.and_eq_true_iff, decide_eq_true_eq, decide_eq_true_eq]

theorem month_pos (h : d.isValid = true) : 1 ≤ d.month := by
  obtain ⟨hpos, hle⟩ := isValid_iff.mp h
  refine Nat.one_le_iff_ne_zero.mpr fun hzero => ?_
  rw [monthLength, if_pos hzero] at hle
  omega

/-- A date lies within its month. -/
theorem ordinal_bounds (h : d.isValid = true) :
    daysBeforeMonth d.year d.month < d.ordinal ∧
      d.ordinal ≤ daysBeforeMonth d.year (d.month + 1) := by
  obtain ⟨hpos, hle⟩ := isValid_iff.mp h
  rw [daysBeforeMonth_succ d.year (month_pos h), ordinal]
  omega

/-- And so within its year. -/
theorem toDays_bounds (h : d.isValid = true) :
    daysBeforeYear d.year ≤ d.toDays + epochDays ∧
      d.toDays + epochDays < daysBeforeYear (d.year + 1) := by
  obtain ⟨hlow, hhigh⟩ := ordinal_bounds h
  have hmono := daysBeforeMonth_mono d.year (Nat.le_add_left 1 d.month)
    (Nat.add_le_add_right (bounds h).1 1)
  rw [daysBeforeMonth_end] at hmono
  rw [daysBeforeYear_succ, toDays]
  omega

/-! ## One date for each number -/

theorem eq_of_toDays_eq (h : d.isValid = true) (h' : d'.isValid = true)
    (heq : d.toDays = d'.toDays) : d = d' := by
  have hyear : d.year = d'.year := by
    have hbounds := toDays_bounds h
    have hbounds' := toDays_bounds h'
    rw [heq] at hbounds
    rcases Int.lt_trichotomy d.year d'.year with hlt | hyear | hgt
    · have := daysBeforeYear_mono hlt
      omega
    · exact hyear
    · have := daysBeforeYear_mono hgt
      omega
  have hordinal : d.ordinal = d'.ordinal := by
    rw [toDays, toDays, hyear] at heq
    omega
  obtain ⟨hlow, hhigh⟩ := ordinal_bounds h
  obtain ⟨hlow', hhigh'⟩ := ordinal_bounds h'
  rw [hordinal, hyear] at hlow hhigh
  have hmonth : d.month = d'.month := by
    rcases Nat.lt_trichotomy d.month d'.month with hlt | hmonth | hgt
    · have := daysBeforeMonth_mono d'.year (Nat.le_add_left 1 d.month) hlt
      omega
    · exact hmonth
    · have := daysBeforeMonth_mono d'.year (Nat.le_add_left 1 d'.month) hgt
      omega
  have hday : d.day = d'.day := by
    rw [ordinal, ordinal, hyear, hmonth] at hordinal
    exact Nat.add_left_cancel hordinal
  cases d
  cases d'
  cases hyear
  cases hmonth
  cases hday
  rfl

/-! ## From day to day -/

/-- The day after a date. -/
def next (d : Date) : Date :=
  if d.day < monthLength d.year d.month then { d with day := d.day + 1 }
  else if d.month < 12 then ⟨d.year, d.month + 1, 1⟩
  else ⟨d.year + 1, 1, 1⟩

theorem next_spec (h : d.isValid = true) :
    d.next.isValid = true ∧ d.next.toDays = d.toDays + 1 := by
  obtain ⟨hpos, hle⟩ := isValid_iff.mp h
  have hmonth := month_pos h
  have hsucc := daysBeforeMonth_succ d.year hmonth
  unfold next
  split
  · next hday => exact ⟨isValid_iff.mpr ⟨Nat.le_add_left 1 d.day, hday⟩, by
      simp only [toDays, ordinal]
      omega⟩
  · next hlast =>
    split
    · next hbefore => exact ⟨isValid_iff.mpr ⟨Nat.le_refl 1,
          monthLength_pos d.year (Nat.le_add_left 1 d.month) hbefore⟩, by
        simp only [toDays, ordinal]
        omega⟩
    · next hdecember =>
      have htwelve : d.month = 12 := by
        have := (bounds h).1
        omega
      have hjanuary : daysBeforeMonth (d.year + 1) 1 = 0 := rfl
      rw [htwelve, daysBeforeMonth_end] at hsucc
      rw [htwelve] at hlast hle
      refine ⟨isValid_iff.mpr ⟨Nat.le_refl 1,
        monthLength_pos (d.year + 1) (Nat.le_refl 1) (Nat.le_add_left 1 11)⟩, ?_⟩
      simp only [toDays, ordinal, hjanuary, daysBeforeYear_succ, htwelve]
      omega

theorem iterate_next_spec (h : d.isValid = true) (n : Nat) :
    (next^[n] d).isValid = true ∧ (next^[n] d).toDays = d.toDays + n := by
  induction n with
  | zero => exact ⟨h, (Int.add_zero _).symm⟩
  | succ n ih =>
    obtain ⟨hvalid, hdays⟩ := next_spec ih.1
    rw [Function.iterate_succ_apply']
    refine ⟨hvalid, hdays.trans ?_⟩
    rw [ih.2]
    omega

/-- The first of January 1970. -/
def epoch : Date := ⟨1970, 1, 1⟩

/-- A date is so many days after the beginning of 1970, or before it if the number is negative. -/
def CountsFromEpoch (days : Int) (d : Date) : Prop :=
  next^[days.toNat] epoch = next^[(-days).toNat] d

/-- To compute day numbers is to count days. -/
theorem countsFromEpoch_iff (h : d.isValid = true) {days : Int} :
    CountsFromEpoch days d ↔ d.toDays = days := by
  have hepoch : epoch.isValid = true ∧ epoch.toDays = 0 := by decide
  obtain ⟨hvalid, hdays⟩ := iterate_next_spec hepoch.1 days.toNat
  obtain ⟨hvalid', hdays'⟩ := iterate_next_spec h (-days).toNat
  constructor
  · intro hcounts
    rw [hcounts] at hdays
    omega
  · intro hnumber
    refine eq_of_toDays_eq hvalid hvalid' ?_
    omega

end Date
end DataGrid.Calendar
