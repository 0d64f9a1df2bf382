import DataGrid.Calendar.Date

/-!
# DataGrid.Proofs.Calendar.Date -- day numbers and dates

A year has as many days as its months together, and the days before the next year are those
before the year and those of the year. So every day number lies in exactly one year, the
estimate finds it, and walking the months finds a day that the month has. The date of a day
number is a valid one whose day number it is.
-/

namespace DataGrid.Calendar

/-! ## Years -/

/-- The days of several months together. -/
def daysOf (lengths : List Nat) : Nat := lengths.foldl (· + ·) 0

theorem daysOf_cons (length : Nat) (lengths : List Nat) :
    daysOf (length :: lengths) = length + daysOf lengths := by
  have hassoc : lengths.foldl (· + ·) (length + 0) = length + lengths.foldl (· + ·) 0 :=
    List.foldl_assoc
  rw [daysOf, List.foldl_cons, Nat.zero_add]
  exact hassoc

theorem daysOf_monthLengths (year : Int) :
    daysOf (monthLengths year) = if isLeapYear year then 366 else 365 := by
  unfold monthLengths februaryLength
  cases isLeapYear year <;> rfl

/-- Years follow each other without a gap. -/
theorem daysBeforeYear_succ (year : Int) :
    daysBeforeYear (year + 1) = daysBeforeYear year + daysOf (monthLengths year) := by
  rw [daysOf_monthLengths]
  unfold daysBeforeYear isLeapYear
  split
  · next hleap =>
    simp at hleap
    omega
  · next hcommon =>
    simp at hcommon
    omega

namespace Date

/-- The estimate is off by a year at most, and then put right. -/
theorem yearOfDay_bounds (day : Int) :
    daysBeforeYear (yearOfDay day) ≤ day ∧ day < daysBeforeYear (yearOfDay day + 1) := by
  unfold yearOfDay
  simp only
  generalize hestimate : day * 400 / 146097 = estimate
  have hlow : daysBeforeYear (estimate - 1) ≤ day := by
    unfold daysBeforeYear
    omega
  have hhigh : day < daysBeforeYear (estimate + 2) := by
    unfold daysBeforeYear
    omega
  split
  · next hbefore =>
    rw [Int.sub_add_cancel]
    exact ⟨hlow, hbefore⟩
  · next hnotBefore =>
    split
    · next hbehind =>
      rw [Int.add_assoc]
      exact ⟨hbehind, hhigh⟩
    · next hnotBehind => exact ⟨Int.not_lt.mp hnotBefore, Int.not_le.mp hnotBehind⟩

/-! ## Months -/

/-- A day within the months is a day of one of them. By induction on the months. -/
theorem splitOrdinal_spec {lengths : List Nat} {rest : Nat} (h : rest < daysOf lengths)
    (month : Nat) :
    ∃ passed day, splitOrdinal lengths month rest = (month + passed, day) ∧ 1 ≤ day ∧
      day ≤ lengths.getD passed 0 ∧ daysOf (lengths.take passed) + day = rest + 1 := by
  induction lengths generalizing rest month with
  | nil => cases h
  | cons length lengths ih =>
    rw [daysOf_cons] at h
    rw [splitOrdinal]
    split
    · next hhere => exact ⟨0, rest + 1, rfl, Nat.le_add_left 1 rest, hhere, Nat.zero_add _⟩
    · next hlater =>
      have hrest : rest - length < daysOf lengths := by omega
      obtain ⟨passed, day, hsplit, hpos, hle, hsum⟩ := ih hrest (month + 1)
      refine ⟨passed + 1, day, ?_, hpos, hle, ?_⟩
      · rw [hsplit, Nat.add_assoc, Nat.add_comm 1]
      · rw [List.take_succ_cons, daysOf_cons]
        omega

/-! ## Dates -/

/-- The date of a day number exists, and its day number is the one that it came from. -/
theorem ofDays_spec (days : Int) : (ofDays days).isValid = true ∧ (ofDays days).toDays = days := by
  obtain ⟨hlow, hhigh⟩ := yearOfDay_bounds (days + epochDays)
  rw [daysBeforeYear_succ] at hhigh
  generalize hyear : yearOfDay (days + epochDays) = year at hlow hhigh
  have hrest : (days + epochDays - daysBeforeYear year).toNat < daysOf (monthLengths year) := by
    omega
  obtain ⟨passed, day, hsplit, hpos, hle, hsum⟩ := splitOrdinal_spec hrest 1
  have hdate : ofDays days = ⟨year, 1 + passed, day⟩ := by
    rw [ofDays]
    simp only [hyear, hsplit]
  rw [hdate]
  constructor
  · have hlength : monthLength year (1 + passed) = (monthLengths year).getD passed 0 := by
      rw [monthLength, if_neg (by omega), Nat.add_sub_cancel_left]
    simp only [isValid, hlength, Bool.and_eq_true, decide_eq_true_eq]
    exact ⟨hpos, hle⟩
  · have hmonths :
        daysBeforeMonth year (1 + passed) = daysOf ((monthLengths year).take passed) := by
      rw [daysBeforeMonth, Nat.add_sub_cancel_left]
      rfl
    simp only [toDays, ordinal, hmonths]
    omega

end Date
end DataGrid.Calendar
