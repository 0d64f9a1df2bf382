import DataGrid.Compile.Values
import DataGrid.Proofs.Calendar.Stamps
import DataGrid.Proofs.Response.Identity

/-!
# DataGrid.Proofs.Response.Dates -- dates that clients send back

A page shows a date-time under its own key as text. In both formats that come with the library
the text can be sent back as the value of a condition: it is taken for a date-time again, and it
is the one that was shown, cut down to the whole second (`dates_read_back`).
-/

namespace DataGrid

open Fallible

/-! ## What is shown under a key -/

namespace Shape

variable {items : List Calendar.FormatItem} {format key : String} {hasObjectId : Bool}

/-- A date-time is shown under its key as its text. No other field is shown under the key, also
if it is `id` and there are no identifiers. -/
theorem get?_addFields_dateTime {shaped fields result : Document} {millis : Int64}
    (own : key = "id" → hasObjectId = false ∧ Document.identifiers fields = [])
    (distinct : Keyed.DistinctKeys fields)
    (hdate : Keyed.get? fields key = some (.dateTime millis))
    (h : addFields items format hasObjectId shaped fields = .ok result) :
    ∃ text, dateText items format millis = .ok text ∧
      Keyed.get? result key = some (.string text) := by
  obtain ⟨shown, hshown, rfl⟩ := addFields_eq_ok_iff.mp h
  have hkept : keeps hasObjectId (key, .dateTime millis) = true := by
    rw [keeps_of_not_objectId _ _ rfl, Bool.not_eq_true', Bool.and_eq_false_iff]
    by_cases hid : key = "id"
    · exact .inl (own hid).1
    · exact .inr (beq_eq_false_iff_ne.mpr hid)
  obtain ⟨entry, hentry, hshows⟩ :=
    Shows.entry_mem hshown (List.mem_filter.mpr ⟨Keyed.mem_of_get? hdate, hkept⟩)
  obtain ⟨text, htext, rfl⟩ := (shows_dateTime_iff format).mp hshows
  -- a field that is shown under the key is no identifier, so the key is its own
  have unique : ∀ other ∈ shown.reverse, other.1 = key → other.2 = .string text := by
    intro other hother hkey
    obtain ⟨⟨name, value⟩, hfield, hshows'⟩ :=
      Shows.field_mem hshown (List.mem_reverse.mp hother)
    have hfield := List.mem_of_mem_filter hfield
    have hname : name = key := by
      rw [← hkey, hshows'.key_eq, shownKey]
      split
      · next hid =>
        obtain ⟨id, rfl⟩ := isObjectId_iff.mp hid
        obtain rfl := shows_objectId_iff.mp hshows'
        have hmem : id ∈ Document.identifiers fields :=
          List.mem_filterMap.mpr ⟨.objectId id, List.mem_map_of_mem hfield, rfl⟩
        rw [(own hkey.symm).2] at hmem
        cases hmem
      · rfl
    obtain rfl := hname
    have hvalue := (Keyed.get?_of_mem distinct hfield).symm.trans hdate
    obtain rfl : value = .dateTime millis := Option.some.inj hvalue
    obtain ⟨text', htext', rfl⟩ := (shows_dateTime_iff format).mp hshows'
    rw [Except.ok.inj (htext'.symm.trans htext)]
  refine ⟨text, htext, ?_⟩
  rw [Keyed.get?_foldl_insert,
    Keyed.get?_of_mem_of_unique (List.mem_reverse.mpr hentry) unique, Option.some_or]

/-! ## The text of a date-time -/

/-- The items of the two formats that come with the library. -/
theorem exists_written (provided : format = dateTimeUtc ∨ format = dateTime) :
    ∃ separator rest, Calendar.Format.items? format =
        some (Calendar.Fields.writtenItems separator rest) ∧ separator ≠ '\n' ∧
      ∀ (f : Calendar.Fields) (t : Calendar.Instant), f.Fits →
        Calendar.Fields.toInstant? { f with nanos := 0 } 0 = some t →
          Calendar.Reading.instant? (String.ofList (f.written separator rest)) = some t := by
  rcases provided with rfl | rfl
  · exact ⟨'T', ['Z'], rfl, by decide, fun _ _ fits hinstant =>
      (Calendar.Reading.instant?_written fits false .zulu trivial).trans hinstant⟩
  · exact ⟨' ', [], rfl, by decide, fun _ _ fits hinstant =>
      (Calendar.Reading.instant?_written fits true .bare trivial).trans hinstant⟩

/-- The text of a date-time names the second that the date-time lies in. -/
theorem dateTime?_dateText (provided : format = dateTimeUtc ∨ format = dateTime)
    (hitems : Calendar.Format.items? format = some items) {millis : Int64} {text : String}
    (hlow : 0 ≤ (Calendar.Fields.ofMillisUnbounded millis.toInt).date.year)
    (hhigh : (Calendar.Fields.ofMillisUnbounded millis.toInt).date.year ≤ 9999)
    (h : dateText items format millis = .ok text) :
    Compile.dateTime? text =
      some (.dateTime (Int64.ofInt (millis.toInt / 1000 * 1000))) := by
  obtain ⟨separator, rest, hwritten, hline, hread⟩ := exists_written provided
  obtain rfl := Option.some.inj (hitems.symm.trans hwritten)
  have fits := Calendar.Fields.fits_ofMillisUnbounded hlow hhigh
  have hinstant := hread _ _ fits (Calendar.Fields.toInstant?_ofMillisUnbounded hlow hhigh)
  rw [dateText, Calendar.Fields.ofMillis_of_year hlow hhigh,
    Calendar.Fields.render?_writtenItems] at h
  obtain rfl := Except.ok.inj h
  rw [Compile.dateTime?, String.toList_ofList, Calendar.Shape.occurs_written fits hline, if_pos rfl,
    hinstant, Option.map_some, Calendar.Instant.millis]
  simp

/-- Every page is shown in either of the formats that come with the library, and a date-time of
the years 0 to 9999 that a document of it has under a key is shown there as a text that, as the
value of a condition, is the date-time of the second it lies in. (A field `id` beside an
identifier is not shown at all.) -/
theorem dates_read_back (provided : format = dateTimeUtc ∨ format = dateTime)
    (page : List Document) :
    ∃ items, Shape.documents page format = .ok items ∧ items.length = page.length ∧
      ∀ d shaped key millis, (d, shaped) ∈ page.zip items → Keyed.DistinctKeys d →
        Keyed.get? d key = some (.dateTime millis) →
        (key = "id" → Document.identifiers d = []) →
        0 ≤ (Calendar.Fields.ofMillisUnbounded millis.toInt).date.year →
        (Calendar.Fields.ofMillisUnbounded millis.toInt).date.year ≤ 9999 →
          ∃ text second, Keyed.get? shaped key = some (.string text) ∧
            Compile.normalize (.string text) = [.dateTime second] ∧
            second.toInt = millis.toInt / 1000 * 1000 := by
  obtain ⟨separator, rest, hformat, -, -⟩ := exists_written provided
  have hwrites : .text .readOnlyOffset ∉ Calendar.Fields.writtenItems separator rest := by
    simp [Calendar.Fields.writtenItems]
  obtain ⟨items, hitems⟩ := exists_documents hformat hwrites page
  have hmapM : page.mapM (document (Calendar.Fields.writtenItems separator rest) format) =
      .ok items := by
    rw [← hitems, Shape.documents, hformat]
  refine ⟨items, hitems, length_of_mapM hmapM, ?_⟩
  intro d shaped key millis hmem distinct hdate hshown hlow hhigh
  have hown : key = "id" →
      (Keyed.values d).any isObjectId = false ∧ Document.identifiers d = [] := by
    intro hid
    refine ⟨List.any_eq_false.mpr fun value hvalue => ?_, hshown hid⟩
    have hnone := List.filterMap_eq_nil_iff.mp (hshown hid) value hvalue
    cases value with
    | objectId id => cases hnone
    | _ => exact Bool.false_ne_true
  obtain ⟨text, htext, hget⟩ :=
    get?_addFields_dateTime hown distinct hdate (eq_ok_of_mem_zip hmapM hmem)
  have hread := dateTime?_dateText provided hformat hlow hhigh htext
  refine ⟨text, Int64.ofInt (millis.toInt / 1000 * 1000), hget, ?_, ?_⟩
  · show [(Compile.dateTime? text).getD (.string text)] = _
    rw [hread, Option.getD_some]
  · -- rounding down to a second does not leave the range of the years
    obtain ⟨hfirst, hlast⟩ := Calendar.day_bounds hlow hhigh
    exact Int64.toInt_ofInt_of_le (by omega) (by omega)

/-- A book that was lent half a second before the end of a leap day, long before 1970. -/
def lentBook : Document :=
  [("_id", .objectId ⟨1⟩), ("title", .string "Emma"), ("lent", .dateTime (-57974400500))]

theorem dates_read_back_lentBook :
    Keyed.DistinctKeys lentBook ∧
      Keyed.get? lentBook "lent" = some (.dateTime (-57974400500)) ∧
      (Calendar.Fields.ofMillisUnbounded (-57974400500 : Int64).toInt).date = ⟨1968, 2, 29⟩ ∧
      ∃ items, Shape.documents [lentBook] dateTime = .ok items ∧ items.length = 1 ∧
        ∀ shaped ∈ items, ∃ text second, Keyed.get? shaped "lent" = some (.string text) ∧
          Compile.normalize (.string text) = [.dateTime second] ∧
          second.toInt = -57974401000 := by
  have hdistinct : Keyed.DistinctKeys lentBook := by
    show ["_id", "title", "lent"].Nodup
    decide
  have hdate : Keyed.get? lentBook "lent" = some (.dateTime (-57974400500)) := rfl
  have hday : (Calendar.Fields.ofMillisUnbounded (-57974400500 : Int64).toInt).date =
      ⟨1968, 2, 29⟩ := by decide
  obtain ⟨items, hitems, hlength, hback⟩ := dates_read_back (.inr rfl) [lentBook]
  refine ⟨hdistinct, hdate, hday, items, hitems, hlength, fun shaped hshaped => ?_⟩
  obtain ⟨only, rfl⟩ := List.length_eq_one_iff.mp hlength
  obtain rfl := List.mem_singleton.mp hshaped
  exact hback lentBook shaped "lent" _ List.mem_cons_self hdistinct hdate (by decide)
    (by rw [hday]; decide) (by rw [hday]; decide)

end Shape
end DataGrid
