import DataGrid.Proofs.Response.Fields

/-!
# DataGrid.Proofs.Response.Shape -- shaping that cannot fail

Shaping fails on account of the date format alone. A format without the item that is meant
for reading writes every moment, so documents of any content can be shaped in it; the
format that resources have by default is one.
-/

namespace DataGrid

open Fallible

/-! ## Rendering -/

theorem Calendar.Rendering.exists_text {field : TextField} (h : field ≠ .readOnlyOffset)
    (f : Fields) : ∃ text, text? f field = some text := by
  cases field with
  | readOnlyOffset => exact absurd rfl h
  | offset style => cases style <;> exact ⟨_, rfl⟩
  | _ => exact ⟨_, rfl⟩

/-- A format that is meant for writing writes every moment. -/
theorem Calendar.exists_render {items : List FormatItem}
    (h : .text .readOnlyOffset ∉ items) (f : Fields) : ∃ text, render? f items = some text := by
  induction items with
  | nil => exact ⟨"", rfl⟩
  | cons item rest ih =>
    obtain ⟨hitem, hrest⟩ := not_or.mp (mt List.mem_cons.mpr h)
    obtain ⟨tail, htail⟩ := ih hrest
    have hhead : ∃ head, Rendering.item? f item = some head := by
      cases item with
      | literal c => exact ⟨_, rfl⟩
      | number field padding => exact ⟨_, rfl⟩
      | text field => exact Rendering.exists_text (fun heq => hitem (heq ▸ rfl)) f
    obtain ⟨head, hhead⟩ := hhead
    exact ⟨head ++ tail, by rw [render?, hhead, htail]; rfl⟩

/-! ## Shaping -/

namespace Shape

/-- Shapes one document in a format that may be malformed. -/
def one (format : String) (d : Document) : Except GridError Document :=
  match Calendar.Format.items? format with
  | none => .error (.invalidDateFormat format)
  | some items => document items format d

theorem mapM_one {documents items : List Document} {format : String}
    (h : Shape.documents documents format = .ok items) :
    documents.mapM (one format) = .ok items := by
  cases hformat : Calendar.Format.items? format with
  | none =>
    rw [Shape.documents, hformat] at h
    cases h
  | some parts =>
    have hone : one format = document parts format := by
      funext d
      rw [one, hformat]
    rw [Shape.documents, hformat] at h
    rw [hone]
    exact h

variable {items : List Calendar.FormatItem} {format : String}

theorem exists_shows (h : .text .readOnlyOffset ∉ items) (field : String × Value) :
    ∃ entry, Shows items field entry := by
  obtain ⟨key, value⟩ := field
  cases value with
  | objectId id => exact ⟨_, .identifier key id⟩
  | dateTime millis =>
    obtain ⟨text, htext⟩ := Calendar.exists_render h (Calendar.Fields.ofMillis millis.toInt)
    exact ⟨_, .date key htext⟩
  | _ => exact ⟨_, .other key rfl rfl⟩

theorem exists_addFields (h : .text .readOnlyOffset ∉ items) (hasObjectId : Bool)
    (shaped fields : Document) :
    ∃ result, addFields items format hasObjectId shaped fields = .ok result := by
  have hshown : ∀ fields : Document, ∃ shown, List.Forall₂ (Shows items) fields shown := by
    intro fields
    induction fields with
    | nil => exact ⟨[], .nil⟩
    | cons field rest ih =>
      obtain ⟨entry, hentry⟩ := exists_shows h field
      obtain ⟨shown, hshown⟩ := ih
      exact ⟨entry :: shown, .cons hentry hshown⟩
  obtain ⟨shown, hshown⟩ := hshown (fields.filter (keeps hasObjectId))
  exact ⟨_, addFields_eq_ok_iff.mpr ⟨shown, hshown, rfl⟩⟩

theorem exists_documents (hitems : Calendar.Format.items? format = some items)
    (h : .text .readOnlyOffset ∉ items) (documents : List Document) :
    ∃ shaped, Shape.documents documents format = .ok shaped := by
  unfold Shape.documents
  rw [hitems]
  exact exists_mapM_eq_ok fun d _ => exists_addFields h _ _ _

/-- The default format shapes all documents. -/
theorem exists_documents_dateTimeUtc (documents : List Document) :
    ∃ shaped, Shape.documents documents dateTimeUtc = .ok shaped := by
  have hitems : Calendar.Format.items? dateTimeUtc = some [.number .year .zero, .literal '-',
      .number .month .zero, .literal '-', .number .day .zero, .literal 'T', .number .hour .zero,
      .literal ':', .number .minute .zero, .literal ':', .number .second .zero,
      .literal 'Z'] := rfl
  exact exists_documents hitems (by decide) documents

end Shape
end DataGrid
