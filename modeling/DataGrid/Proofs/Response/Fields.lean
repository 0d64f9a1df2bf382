import DataGrid.Proofs.Fallible
import DataGrid.Proofs.Keyed
import DataGrid.Response.Shape

/-!
# DataGrid.Proofs.Response.Fields -- what is shown of a field

Shaping is described field by field, without the order in which the shaped document is built up
(`Shows`): an identifier is shown as its text under `id`, a date-time as its text under its own
key, and everything else as it is, also when identifiers and date-times lie deeper in it. A field
`id` beside an identifier is not shown (`keeps`).

A document is shaped by inserting field after field under keys that may meet. The run of
insertions is put into a closed form here (`addFields_eq_ok_iff`), which is all that later proofs
know of it.
-/

namespace DataGrid.Shape

open Fallible

variable {items : List Calendar.FormatItem} {format : String} {hasObjectId : Bool}

/-! ## One field -/

def isDateTime : Value → Bool
  | .dateTime _ => true
  | _ => false

/-- A field and what is shown of it in a date format. -/
inductive Shows (items : List Calendar.FormatItem) : String × Value → String × Value → Prop
  | identifier (key : String) (id : ObjectId) :
    Shows items (key, .objectId id) ("id", .string id.toHex)
  | date (key : String) {millis : Int64} {text : String}
    (h : Calendar.render? (Calendar.Fields.ofMillis millis.toInt) items = some text) :
    Shows items (key, .dateTime millis) (key, .string text)
  | other (key : String) {value : Value} (hid : isObjectId value = false)
    (hdate : isDateTime value = false) : Shows items (key, value) (key, value)

/-- A field is shown unless it is an `id` that gives way to an identifier. -/
def keeps (hasObjectId : Bool) (field : String × Value) : Bool :=
  isObjectId field.2 || !(hasObjectId && field.1 == "id")

/-- The key that a field is shown under. -/
def shownKey (field : String × Value) : String := if isObjectId field.2 then "id" else field.1

theorem isObjectId_iff {value : Value} : isObjectId value = true ↔ ∃ id, value = .objectId id := by
  cases value <;> simp [isObjectId]

theorem isObjectId_eq_false {value : Value} (h : ∀ id, value ≠ .objectId id) :
    isObjectId value = false :=
  Bool.eq_false_iff.mpr fun hid => (isObjectId_iff.mp hid).elim h

theorem isDateTime_eq_false {value : Value} (h : ∀ millis, value ≠ .dateTime millis) :
    isDateTime value = false := by
  cases value with
  | dateTime millis => exact absurd rfl (h millis)
  | _ => rfl

theorem dateText_eq_ok_iff {millis : Int64} {text : String} :
    dateText items format millis = .ok text ↔
      Calendar.render? (Calendar.Fields.ofMillis millis.toInt) items = some text := by
  unfold dateText
  split <;> simp [*]

theorem keeps_of_not_objectId (hasObjectId : Bool) (key : String) {value : Value}
    (hid : isObjectId value = false) :
    keeps hasObjectId (key, value) = !(hasObjectId && key == "id") := by
  rw [keeps, hid, Bool.false_or]

theorem shows_objectId_iff {key : String} {id : ObjectId} {entry : String × Value} :
    Shows items (key, .objectId id) entry ↔ entry = ("id", .string id.toHex) := by
  constructor
  · intro h
    cases h with
    | identifier => rfl
    | other _ hid => cases hid
  · rintro rfl
    exact .identifier key id

theorem shows_dateTime_iff (format : String) {key : String} {millis : Int64}
    {entry : String × Value} :
    Shows items (key, .dateTime millis) entry ↔
      ∃ text, dateText items format millis = .ok text ∧ entry = (key, .string text) := by
  constructor
  · intro h
    cases h with
    | date _ h => exact ⟨_, dateText_eq_ok_iff.mpr h, rfl⟩
    | other _ _ hdate => cases hdate
  · rintro ⟨text, htext, rfl⟩
    exact .date key (dateText_eq_ok_iff.mp htext)

theorem shows_other_iff {key : String} {value : Value} {entry : String × Value}
    (hid : isObjectId value = false) (hdate : isDateTime value = false) :
    Shows items (key, value) entry ↔ entry = (key, value) := by
  constructor
  · intro h
    cases h with
    | identifier => cases hid
    | date => cases hdate
    | other => rfl
  · rintro rfl
    exact .other key hid hdate

theorem Shows.key_eq {field entry : String × Value} (h : Shows items field entry) :
    entry.1 = shownKey field := by
  cases h with
  | identifier => rfl
  | date => rfl
  | other _ hid => simp [shownKey, hid]

/-- Nothing that is shown needs shaping again. -/
theorem Shows.plain {field entry : String × Value} (h : Shows items field entry) :
    isObjectId entry.2 = false ∧ isDateTime entry.2 = false := by
  cases h with
  | identifier => exact ⟨rfl, rfl⟩
  | date => exact ⟨rfl, rfl⟩
  | other _ hid hdate => exact ⟨hid, hdate⟩

theorem Shows.field_mem {fields shown : Document} (h : List.Forall₂ (Shows items) fields shown)
    {entry : String × Value} (hentry : entry ∈ shown) :
    ∃ field ∈ fields, Shows items field entry :=
  exists_of_forall₂ (List.Forall₂.flip h : List.Forall₂ (flip (Shows items)) shown fields) hentry

theorem Shows.entry_mem {fields shown : Document} (h : List.Forall₂ (Shows items) fields shown)
    {field : String × Value} (hfield : field ∈ fields) :
    ∃ entry ∈ shown, Shows items field entry :=
  exists_of_forall₂ h hfield

/-! ## The run of insertions -/

/-- What is shown of fields, inserted field by field, begins with the first field that is kept. -/
theorem exists_shown_cons {field : String × Value} (hkeeps : keeps hasObjectId field = true)
    {rest : Document} {shaped result : Document} :
    (∃ shown, List.Forall₂ (Shows items) ((field :: rest).filter (keeps hasObjectId)) shown ∧
        shown.foldl (fun done entry => Keyed.insert done entry.1 entry.2) shaped = result) ↔
      ∃ entry, Shows items field entry ∧
        ∃ shown, List.Forall₂ (Shows items) (rest.filter (keeps hasObjectId)) shown ∧
          shown.foldl (fun done entry => Keyed.insert done entry.1 entry.2)
            (Keyed.insert shaped entry.1 entry.2) = result := by
  rw [List.filter_cons_of_pos hkeeps]
  constructor
  · rintro ⟨shown, hshown, hresult⟩
    obtain ⟨entry, later, hentry, hlater, rfl⟩ := List.forall₂_cons_left_iff.mp hshown
    exact ⟨entry, hentry, later, hlater, hresult⟩
  · rintro ⟨entry, hentry, later, hlater, hresult⟩
    exact ⟨entry :: later, .cons hentry hlater, hresult⟩

/-- Shaping inserts what is shown of the fields that are kept, in their order. By the recursion
over the fields, whatever is shaped so far. -/
theorem addFields_eq_ok_iff {shaped fields result : Document} :
    addFields items format hasObjectId shaped fields = .ok result ↔
      ∃ shown, List.Forall₂ (Shows items) (fields.filter (keeps hasObjectId)) shown ∧
        shown.foldl (fun done entry => Keyed.insert done entry.1 entry.2) shaped = result := by
  fun_induction addFields items format hasObjectId shaped fields with
  | case1 => simp
  | case2 shaped key rest id ih =>
    have hkeeps : keeps hasObjectId (key, .objectId id) = true := rfl
    rw [ih, exists_shown_cons hkeeps]
    simp only [shows_objectId_iff, exists_eq_left]
  | case3 shaped key rest millis hdropped ih =>
    have hkeeps : ¬keeps hasObjectId (key, .dateTime millis) = true := by
      rw [keeps_of_not_objectId _ _ rfl, hdropped]
      exact Bool.false_ne_true
    rw [ih, List.filter_cons_of_neg hkeeps]
  | case4 shaped key rest millis hkept ih =>
    have hkeeps : keeps hasObjectId (key, .dateTime millis) = true := by
      rw [keeps_of_not_objectId _ _ rfl, Bool.eq_false_iff.mpr hkept, Bool.not_false]
    rw [bind_eq_ok, exists_shown_cons hkeeps]
    simp only [shows_dateTime_iff format, ih]
    constructor
    · rintro ⟨text, htext, hrest⟩
      exact ⟨_, ⟨text, htext, rfl⟩, hrest⟩
    · rintro ⟨_, ⟨text, htext, rfl⟩, hrest⟩
      exact ⟨text, htext, hrest⟩
  | case5 shaped key rest value hobject hdate hdropped ih =>
    have hid : isObjectId value = false := isObjectId_eq_false hobject
    have hkeeps : ¬keeps hasObjectId (key, value) = true := by
      rw [keeps_of_not_objectId _ _ hid, hdropped]
      exact Bool.false_ne_true
    rw [ih, List.filter_cons_of_neg hkeeps]
  | case6 shaped key rest value hobject hdate hkept ih =>
    have hid : isObjectId value = false := isObjectId_eq_false hobject
    have hkeeps : keeps hasObjectId (key, value) = true := by
      rw [keeps_of_not_objectId _ _ hid, Bool.eq_false_iff.mpr hkept, Bool.not_false]
    rw [ih, exists_shown_cons hkeeps]
    simp only [shows_other_iff hid (isDateTime_eq_false hdate), exists_eq_left]

end DataGrid.Shape
