import DataGrid.Proofs.Document.ObjectId
import DataGrid.Proofs.Response.Shape

/-!
# DataGrid.Proofs.Response.Identity -- which identifier a shaped document shows

Every top-level identifier of a document is written into the one field `id`, in the order of the
fields, so the last of them is the one that is shown. A document is shown under its own
identifier when no other one stands behind it, and then different documents stay apart.

A reference to another document that stands behind `_id` takes its place, and documents that
refer to the same one come out alike (`reference_hides_own_identifier`).
-/

namespace DataGrid

open Fallible

namespace Document

def objectId? : Value → Option ObjectId
  | .objectId id => some id
  | _ => none

/-- The identifiers among the values of a document, in order. -/
def identifiers (d : Document) : List ObjectId := (Keyed.values d).filterMap objectId?

theorem identifiers_cons_objectId (key : String) (id : ObjectId) (rest : Document) :
    identifiers ((key, .objectId id) :: rest) = id :: identifiers rest := rfl

theorem identifiers_cons_of_none {value : Value} (h : objectId? value = none) (key : String)
    (rest : Document) : identifiers ((key, value) :: rest) = identifiers rest :=
  List.filterMap_cons_none h

theorem exists_last_identifier {d : Document} {key : String} {id : ObjectId}
    (h : Keyed.get? d key = some (.objectId id)) :
    ∃ last, (identifiers d).getLast? = some last := by
  have hvalue : .objectId id ∈ Keyed.values d :=
    List.mem_map.mpr ⟨(key, .objectId id), Keyed.mem_of_get? h, rfl⟩
  have hmem : id ∈ identifiers d := List.mem_filterMap.mpr ⟨.objectId id, hvalue, rfl⟩
  exact ⟨_, List.getLast?_eq_some_getLast (List.ne_nil_of_mem hmem)⟩

end Document

namespace Shape

open Document

variable {items : List Calendar.FormatItem} {format : String}

theorem objectId?_of_not_isObjectId {value : Value} (h : isObjectId value = false) :
    objectId? value = none := by
  cases value with
  | objectId id => cases h
  | _ => rfl

/-- A field that is not shown is no identifier. -/
theorem identifiers_keeps (hasObjectId : Bool) (fields : Document) :
    identifiers (fields.filter (keeps hasObjectId)) = identifiers fields := by
  induction fields with
  | nil => rfl
  | cons field rest ih =>
    obtain ⟨key, value⟩ := field
    by_cases hid : isObjectId value = true
    · obtain ⟨id, rfl⟩ := isObjectId_iff.mp hid
      rw [List.filter_cons_of_pos rfl, identifiers_cons_objectId, identifiers_cons_objectId, ih]
    · have hnone := objectId?_of_not_isObjectId (Bool.eq_false_iff.mpr hid)
      rw [identifiers_cons_of_none hnone, List.filter_cons]
      split
      · rw [identifiers_cons_of_none hnone, ih]
      · exact ih

/-- Among what is shown, the last entry under `id` is that of the last identifier, if nothing else
has that key. -/
theorem get?_id_shown {fields shown : Document} (h : List.Forall₂ (Shows items) fields shown)
    (own : ∀ field ∈ fields, isObjectId field.2 = false → field.1 ≠ "id") :
    Keyed.get? shown.reverse "id" =
      (identifiers fields).getLast?.map fun id => .string id.toHex := by
  induction h with
  | nil => rfl
  | @cons field entry rest shown hfirst _ ih =>
    obtain ⟨hown, hrest⟩ := List.forall_mem_cons.mp own
    rw [List.reverse_cons, Keyed.get?_append, ih hrest]
    obtain ⟨key, value⟩ := field
    by_cases hid : isObjectId value = true
    · obtain ⟨id, rfl⟩ := isObjectId_iff.mp hid
      obtain rfl := shows_objectId_iff.mp hfirst
      rw [Keyed.get?_cons, if_pos rfl, identifiers_cons_objectId, List.getLast?_cons]
      cases (identifiers rest).getLast? <;> rfl
    · have hnot := Bool.eq_false_iff.mpr hid
      rw [identifiers_cons_of_none (objectId?_of_not_isObjectId hnot), Keyed.get?_cons,
        hfirst.key_eq, shownKey, if_neg hid, if_neg (hown hnot).symm, Keyed.get?_nil,
        Option.or_none]

/-- Shaping the fields of a document with an identifier leaves the last identifier among them
under `id`, and what was there before if there is none. -/
theorem get?_id_addFields {hasObjectId : Bool} (present : hasObjectId = true)
    {shaped fields result : Document}
    (h : addFields items format hasObjectId shaped fields = .ok result) :
    Keyed.get? result "id" = ((identifiers fields).getLast?.map fun id => .string id.toHex).or
      (Keyed.get? shaped "id") := by
  obtain ⟨shown, hshown, rfl⟩ := addFields_eq_ok_iff.mp h
  have hown : ∀ field ∈ fields.filter (keeps hasObjectId),
      isObjectId field.2 = false → field.1 ≠ "id" := by
    intro field hfield hid hkey
    have hkept := (List.mem_filter.mp hfield).2
    rw [keeps, hid, present, hkey] at hkept
    exact absurd hkept (by decide)
  rw [Keyed.get?_foldl_insert, get?_id_shown hshown hown, identifiers_keeps]

/-- A document with an identifier is shown under the last one that it has. -/
theorem get?_id_document {d shaped : Document} {last : ObjectId}
    (hlast : (identifiers d).getLast? = some last)
    (h : document items format d = .ok shaped) :
    Keyed.get? shaped "id" = some (.string last.toHex) := by
  have hpresent : (Keyed.values d).any isObjectId = true := by
    obtain ⟨value, hvalue, hid⟩ := List.mem_filterMap.mp (List.mem_of_getLast? hlast)
    refine List.any_eq_true.mpr ⟨value, hvalue, ?_⟩
    cases value <;> first | rfl | cases hid
  rw [get?_id_addFields hpresent h, hlast]
  rfl

/-- A page shows every document with an identifier under the last one that it has: under its own
exactly when that is the last. Documents that differ in the last one are shown under different
ones. A format that is valid for writing shapes every page. -/
theorem id_of_last_identifier {format : String} {parts : List Calendar.FormatItem}
    (valid : Calendar.Format.items? format = some parts) (page : List Document) :
    (.text .readOnlyOffset ∉ parts → ∃ items, Shape.documents page format = .ok items) ∧
    ∀ items, Shape.documents page format = .ok items → items.length = page.length ∧
      (∀ d shaped own, (d, shaped) ∈ page.zip items →
        Keyed.get? d "_id" = some (.objectId own) →
          ∃ last, (identifiers d).getLast? = some last ∧
            Keyed.get? shaped "id" = some (.string last.toHex) ∧
            (Keyed.get? shaped "id" = some (.string own.toHex) ↔ last = own)) ∧
      ∀ d shaped last d' shaped' last', (d, shaped) ∈ page.zip items →
        (d', shaped') ∈ page.zip items → (identifiers d).getLast? = some last →
          (identifiers d').getLast? = some last' → last ≠ last' →
            Keyed.get? shaped "id" ≠ Keyed.get? shaped' "id" := by
  refine ⟨fun writes => Shape.exists_documents valid writes page, ?_⟩
  intro items hitems
  have hmapM : page.mapM (document parts format) = .ok items := by
    rw [← hitems, Shape.documents, valid]
  have hshown : ∀ d shaped last, (d, shaped) ∈ page.zip items →
      (identifiers d).getLast? = some last →
        Keyed.get? shaped "id" = some (.string last.toHex) :=
    fun d shaped last hmem hlast => get?_id_document hlast (eq_ok_of_mem_zip hmapM hmem)
  have hsame : ∀ a b : ObjectId,
      some (Value.string a.toHex) = some (Value.string b.toHex) ↔ a = b := by
    intro a b
    rw [Option.some_inj, Value.string.injEq, ObjectId.toHex_inj]
  refine ⟨length_of_mapM hmapM, ?_, ?_⟩
  · intro d shaped own hmem hown
    obtain ⟨last, hlast⟩ := exists_last_identifier hown
    have hid := hshown d shaped last hmem hlast
    exact ⟨last, hlast, hid, by rw [hid, hsame]⟩
  · intro d shaped last d' shaped' last' hmem hmem' hlast hlast' hne
    rw [hshown d shaped last hmem hlast, hshown d' shaped' last' hmem' hlast', ne_eq, hsame]
    exact hne

/-- A book that refers to its author behind its own identifier. -/
def book (own author : BitVec 96) : Document :=
  [("_id", .objectId ⟨own⟩), ("author", .objectId ⟨author⟩)]

/-- The same book with the reference in front. -/
def bookByAuthor (own author : BitVec 96) : Document :=
  [("author", .objectId ⟨author⟩), ("_id", .objectId ⟨own⟩)]

theorem id_of_last_identifier_books :
    ∃ parts items, Calendar.Format.items? dateTimeUtc = some parts ∧
      Shape.documents [bookByAuthor 1 7, bookByAuthor 2 7] dateTimeUtc = .ok items ∧
      ∀ d shaped own, (d, shaped) ∈ [bookByAuthor 1 7, bookByAuthor 2 7].zip items →
        Keyed.get? d "_id" = some (.objectId own) →
          ∃ last, (identifiers d).getLast? = some last ∧
            Keyed.get? shaped "id" = some (.string last.toHex) := by
  obtain ⟨parts, hparts⟩ : ∃ parts, Calendar.Format.items? dateTimeUtc = some parts := ⟨_, rfl⟩
  obtain ⟨-, hpage⟩ := id_of_last_identifier hparts [bookByAuthor 1 7, bookByAuthor 2 7]
  have hitems : Shape.documents [bookByAuthor 1 7, bookByAuthor 2 7] dateTimeUtc = .ok _ := rfl
  obtain ⟨-, hshown, -⟩ := hpage _ hitems
  refine ⟨parts, _, hparts, hitems, fun d shaped own hmem hown => ?_⟩
  obtain ⟨last, hlast, hid, -⟩ := hshown d shaped own hmem hown
  exact ⟨last, hlast, hid⟩

/-- Behind `_id`, the reference to the author takes the place of the identifier: two books come
out with one and the same `id`, which is that of neither. -/
theorem reference_hides_own_identifier :
    Shape.documents [book 1 7, book 2 7] dateTimeUtc =
      .ok [[("id", .string "000000000000000000000007")],
        [("id", .string "000000000000000000000007")]] ∧
    Keyed.get? (book 1 7) "_id" = some (.objectId ⟨1⟩) ∧
    (ObjectId.toHex ⟨1⟩) = "000000000000000000000001" ∧
    Keyed.get? (book 2 7) "_id" = some (.objectId ⟨2⟩) ∧
    (ObjectId.toHex ⟨2⟩) = "000000000000000000000002" :=
  ⟨rfl, rfl, rfl, rfl, rfl⟩

end Shape
end DataGrid
