import DataGrid.Calendar.Instant
import DataGrid.Proofs.Calendar.Date
import DataGrid.Proofs.Calendar.Written

/-!
# DataGrid.Proofs.Calendar.Instant -- the fields of a moment name its second

Within the years 0 to 9999 the fields of a millisecond count have their fixed numbers of digits,
and without the fraction they are the fields of the whole second at or before the moment. This
holds before 1970 too, where rounding down leads away from zero.
-/

namespace DataGrid.Calendar

/-- A date that exists has small numbers. -/
theorem Date.bounds {d : Date} (h : d.isValid = true) : d.month ≤ 12 ∧ d.day ≤ 31 := by
  obtain ⟨hpos, hday⟩ : 1 ≤ d.day ∧ d.day ≤ monthLength d.year d.month := by
    simpa [isValid] using h
  have hlengths : ∀ index, (monthLengths d.year).getD index 0 ≤ 31 ∧
      (12 ≤ index → (monthLengths d.year).getD index 0 = 0) := by
    intro index
    have htwelve : (monthLengths d.year).length = 12 := rfl
    have hshort : ∀ length ∈ monthLengths d.year, length ≤ 31 := by
      unfold monthLengths februaryLength
      cases isLeapYear d.year <;> decide
    rw [List.getD_eq_getElem?_getD]
    rcases Nat.lt_or_ge index 12 with hlt | hge
    · rw [List.getElem?_eq_getElem (htwelve ▸ hlt)]
      exact ⟨hshort _ (List.getElem_mem _), fun hge => absurd hlt (Nat.not_lt.mpr hge)⟩
    · rw [List.getElem?_eq_none (htwelve ▸ hge)]
      exact ⟨Nat.zero_le 31, fun _ => rfl⟩
  rw [monthLength] at hday
  split at hday
  · omega
  · have hlength := hlengths (d.month - 1)
    omega

/-- The days of the years 0 to 9999. -/
theorem day_bounds {day : Int} (hlow : 0 ≤ (Date.ofDays day).year)
    (hhigh : (Date.ofDays day).year ≤ 9999) : -719528 ≤ day ∧ day ≤ 2932896 := by
  obtain ⟨hfirst, hlast⟩ := Date.yearOfDay_bounds (day + epochDays)
  change 0 ≤ Date.yearOfDay (day + epochDays) at hlow
  change Date.yearOfDay (day + epochDays) ≤ 9999 at hhigh
  generalize Date.yearOfDay (day + epochDays) = year at hfirst hlast hlow hhigh
  have hbegin : 0 ≤ daysBeforeYear year := by
    unfold daysBeforeYear
    omega
  have hend : daysBeforeYear (year + 1) ≤ 3652425 := by
    unfold daysBeforeYear
    omega
  unfold epochDays at hfirst hlast
  omega

namespace Fields

variable {millis : Int}

/-- The years 0 to 9999 are supported. -/
theorem ofMillis_of_year (hlow : 0 ≤ (ofMillisUnbounded millis).date.year)
    (hhigh : (ofMillisUnbounded millis).date.year ≤ 9999) :
    ofMillis millis = ofMillisUnbounded millis := by
  obtain ⟨hfirst, hlast⟩ := day_bounds hlow hhigh
  have hsupported : firstDay ≤ -719528 ∧ 2932896 ≤ lastDay := by decide
  unfold ofMillis
  rw [if_neg (by omega), if_neg (by omega)]

theorem fits_ofMillisUnbounded (hlow : 0 ≤ (ofMillisUnbounded millis).date.year)
    (hhigh : (ofMillisUnbounded millis).date.year ≤ 9999) : (ofMillisUnbounded millis).Fits := by
  obtain ⟨hmonth, hday⟩ := Date.bounds (Date.ofDays_spec (millis / 86400000)).1
  refine ⟨⟨hlow, hhigh⟩, Nat.lt_of_le_of_lt hmonth (by decide),
    Nat.lt_of_le_of_lt hday (by decide), ?_, ?_, ?_⟩
  · simp only [ofMillisUnbounded, ofDay]
    omega
  · simp only [ofMillisUnbounded, ofDay]
    omega
  · simp only [ofMillisUnbounded, ofDay]
    omega

/-- Without their fraction, the fields are those of the second that the moment lies in. -/
theorem toInstant?_ofMillisUnbounded (hlow : 0 ≤ (ofMillisUnbounded millis).date.year)
    (hhigh : (ofMillisUnbounded millis).date.year ≤ 9999) :
    toInstant? { ofMillisUnbounded millis with nanos := 0 } 0 = some ⟨millis / 1000, 0⟩ := by
  obtain ⟨hfirst, hlast⟩ := day_bounds hlow hhigh
  obtain ⟨hexists, hdays⟩ := Date.ofDays_spec (millis / 86400000)
  have hsupported : firstDay ≤ -719528 ∧ 2932896 ≤ lastDay := by decide
  have hyears : firstYear ≤ 0 ∧ 9999 ≤ lastYear := by decide
  have hsecondsPerDay : secondsPerDay = 86400 := rfl
  generalize hsecond : (millis % 86400000).toNat * 1000000 / 1000000000 = second
  have hfields : ({ ofMillisUnbounded millis with nanos := 0 } : Fields) =
      ⟨Date.ofDays (millis / 86400000), second / 3600, second / 60 % 60, second % 60, 0⟩ := by
    rw [← hsecond]
    rfl
  have hvalid : ({ ofMillisUnbounded millis with nanos := 0 } : Fields).isValid = true := by
    have hlow : 0 ≤ (Date.ofDays (millis / 86400000)).year := hlow
    have hhigh : (Date.ofDays (millis / 86400000)).year ≤ 9999 := hhigh
    rw [hfields]
    simp only [isValid, hexists, Bool.true_and, Bool.and_eq_true, decide_eq_true_eq]
    omega
  have hordinary : ¬second % 60 = 60 := by omega
  rw [toInstant?, if_pos hvalid, hfields]
  simp only [hordinary, if_false, hdays, hsecondsPerDay]
  rw [if_pos (by omega)]
  refine congrArg (fun seconds => some (Instant.mk seconds 0)) ?_
  omega

end Fields
end DataGrid.Calendar
