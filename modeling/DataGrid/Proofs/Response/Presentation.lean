import DataGrid.Proofs.Response.Identity

/-!
# DataGrid.Proofs.Response.Presentation -- what shaping changes, and what it leaves alone

Where a document has one identifier at most, no two of the keys that its fields are shown under
meet. The shaped document is then the list of what is shown, in the order of the fields
(`document_eq_ok_iff`). A page shows its documents in their order, nothing on it needs shaping
again, and shaping it again changes nothing (`page_shows_documents`).
-/

namespace DataGrid.Shape

open Fallible Document

variable {items : List Calendar.FormatItem} {format : String}

/-! ## Keys that do not meet -/

/-- Two fields of a document with distinct keys and one identifier at most have different keys and
are not both identifiers. -/
theorem pairwise_apart {d : Document} (distinct : Keyed.DistinctKeys d)
    (single : (identifiers d).length ≤ 1) :
    d.Pairwise fun a b => a.1 ≠ b.1 ∧ ¬(isObjectId a.2 = true ∧ isObjectId b.2 = true) := by
  have hnone : (identifiers d).Pairwise fun _ _ => False := by
    match h : identifiers d with
    | [] => exact List.Pairwise.nil
    | [_] => exact List.pairwise_singleton _ _
    | _ :: _ :: _ =>
      rw [h] at single
      exact absurd single (by simp)
  have hkeys : d.Pairwise fun a b => a.1 ≠ b.1 := List.pairwise_map.mp distinct
  rw [identifiers, List.pairwise_filterMap, Keyed.values, List.pairwise_map] at hnone
  refine hkeys.and (hnone.imp fun h hboth => ?_)
  obtain ⟨id, hid⟩ := isObjectId_iff.mp hboth.1
  obtain ⟨id', hid'⟩ := isObjectId_iff.mp hboth.2
  exact h id (by rw [hid]; rfl) id' (by rw [hid']; rfl)

theorem keys_of_shows {fields shown : Document} (h : List.Forall₂ (Shows items) fields shown) :
    Keyed.keys shown = fields.map shownKey := by
  induction h with
  | nil => rfl
  | cons hentry _ ih => exact congrArg₂ List.cons hentry.key_eq ih

/-- What is shown has distinct keys. An identifier takes the key `id`, and the only field that has
that key otherwise is not shown beside it. -/
theorem distinctKeys_shown {d shown : Document} (distinct : Keyed.DistinctKeys d)
    (single : (identifiers d).length ≤ 1)
    (h : List.Forall₂ (Shows items) (d.filter (keeps ((Keyed.values d).any isObjectId))) shown) :
    Keyed.DistinctKeys shown := by
  -- beside an identifier no kept field that is none has the key `id`
  have hfree : ∀ a b : String × Value, a ∈ d → isObjectId a.2 = true → isObjectId b.2 = false →
      keeps ((Keyed.values d).any isObjectId) b = true → b.1 ≠ "id" := by
    intro a b ha hid hother hkept hkey
    have hpresent : (Keyed.values d).any isObjectId = true :=
      List.any_eq_true.mpr ⟨a.2, List.mem_map_of_mem ha, hid⟩
    rw [keeps, hother, hpresent, hkey] at hkept
    exact absurd hkept (by decide)
  rw [Keyed.DistinctKeys, keys_of_shows h]
  refine List.pairwise_map.mpr (((pairwise_apart distinct single).filter _).imp_of_mem ?_)
  rintro a b ha hb ⟨hne, hboth⟩
  obtain ⟨ha, hakept⟩ := List.mem_filter.mp ha
  obtain ⟨hb, hbkept⟩ := List.mem_filter.mp hb
  unfold shownKey
  by_cases hida : isObjectId a.2 = true
  · have hidb : isObjectId b.2 = false := Bool.eq_false_iff.mpr fun hidb => hboth ⟨hida, hidb⟩
    rw [if_pos hida, hidb, if_neg Bool.false_ne_true]
    exact (hfree a b ha hida hidb hbkept).symm
  · rw [if_neg hida]
    split
    · next hidb => exact hfree b a hb hidb (Bool.eq_false_iff.mpr hida) hakept
    · exact hne

/-! ## Documents and pages -/

/-- A document and what is shown of it: its fields in their order, each as it is shown. -/
def ShowsDocument (items : List Calendar.FormatItem) (d shaped : Document) : Prop :=
  List.Forall₂ (Shows items) (d.filter (keeps ((Keyed.values d).any isObjectId))) shaped

/-- A document with one identifier at most is shaped into what is shown of it, and into nothing
else. -/
theorem document_eq_ok_iff {d shaped : Document} (distinct : Keyed.DistinctKeys d)
    (single : (identifiers d).length ≤ 1) :
    document items format d = .ok shaped ↔ ShowsDocument items d shaped := by
  rw [document, addFields_eq_ok_iff]
  constructor
  · rintro ⟨shown, hshown, rfl⟩
    have hdistinct := distinctKeys_shown distinct single hshown
    rw [Keyed.foldl_insert [] hdistinct]
    exact hshown
  · intro hshown
    exact ⟨shaped, hshown, Keyed.foldl_insert [] (distinctKeys_shown distinct single hshown)⟩

/-- A document without identifiers and date-times at its top level. -/
def IsPlain (d : Document) : Prop :=
  ∀ value ∈ Keyed.values d, isObjectId value = false ∧ isDateTime value = false

theorem ShowsDocument.isPlain {d shaped : Document} (h : ShowsDocument items d shaped) :
    IsPlain shaped := by
  intro value hvalue
  obtain ⟨entry, hentry, rfl⟩ := List.mem_map.mp hvalue
  obtain ⟨field, -, hshows⟩ := Shows.field_mem h hentry
  exact hshows.plain

/-- A plain document is shown as it is, in any format. -/
theorem showsDocument_self {d : Document} (plain : IsPlain d) : ShowsDocument items d d := by
  have hnone : (Keyed.values d).any isObjectId = false := by
    refine List.any_eq_false.mpr fun value hvalue => ?_
    rw [(plain value hvalue).1]
    exact Bool.false_ne_true
  have hall : ∀ field ∈ d, keeps false field = true := fun field _ => Bool.or_true _
  rw [ShowsDocument, hnone, List.filter_eq_self.mpr hall]
  refine List.forall₂_same.mpr fun field hfield => ?_
  obtain ⟨hid, hdate⟩ := plain field.2 (List.mem_map_of_mem hfield)
  exact .other field.1 hid hdate

theorem identifiers_of_isPlain {d : Document} (plain : IsPlain d) : identifiers d = [] := by
  refine List.filterMap_eq_nil_iff.mpr fun value hvalue => ?_
  have hid := (plain value hvalue).1
  cases value with
  | objectId id => cases hid
  | _ => rfl

/-- A page of documents with one identifier at most is shown document by document, in every format
that is valid for writing. Each shows its fields in their order: an identifier under `id`,
date-times as text, and all else unchanged. There are no identifiers and date-times left at the top
level, and to shape the page again changes nothing, in whatever format. -/
theorem page_shows_documents {parts : List Calendar.FormatItem}
    (valid : Calendar.Format.items? format = some parts) {page : List Document}
    (single : ∀ d ∈ page, Keyed.DistinctKeys d ∧ (identifiers d).length ≤ 1) :
    (.text .readOnlyOffset ∉ parts → ∃ shaped, documents page format = .ok shaped) ∧
    ∀ shaped, documents page format = .ok shaped →
      List.Forall₂ (ShowsDocument parts) page shaped ∧
      (∀ d ∈ shaped, IsPlain d) ∧
      ∀ again, (Calendar.Format.items? again).isSome = true →
        documents shaped again = .ok shaped := by
  refine ⟨fun writes => exists_documents valid writes page, fun shaped hshaped => ?_⟩
  have hmapM : page.mapM (document parts format) = .ok shaped := by
    rw [← hshaped, documents, valid]
  have hone : ∀ d ∈ page, ∀ s, document parts format d = .ok s →
      ShowsDocument parts d s ∧ Keyed.DistinctKeys s := by
    intro d hd s hs
    obtain ⟨hdistinct, hsingle⟩ := single d hd
    have hshows := (document_eq_ok_iff hdistinct hsingle).mp hs
    exact ⟨hshows, distinctKeys_shown hdistinct hsingle hshows⟩
  have hshown : ∀ s ∈ shaped, IsPlain s ∧ Keyed.DistinctKeys s := by
    intro s hs
    obtain ⟨d, hd, hds⟩ := (mem_mapM_iff hmapM).mp hs
    obtain ⟨hshows, hdistinct⟩ := hone d hd s hds
    exact ⟨hshows.isPlain, hdistinct⟩
  refine ⟨List.forall₂_iff_zip.mpr ⟨(length_of_mapM hmapM).symm, fun hmem => ?_⟩,
    fun s hs => (hshown s hs).1, fun again hagain => ?_⟩
  · exact (hone _ (List.of_mem_zip hmem).1 _ (eq_ok_of_mem_zip hmapM hmem)).1
  · obtain ⟨parts', hparts'⟩ := Option.isSome_iff_exists.mp hagain
    have hsame : shaped.mapM (document parts' again) = .ok (shaped.map id) := by
      refine mapM_eq_ok_map fun s hs => ?_
      obtain ⟨hplain, hdistinct⟩ := hshown s hs
      have hnone : (identifiers s).length ≤ 1 := by
        rw [identifiers_of_isPlain hplain]
        exact Nat.zero_le 1
      exact (document_eq_ok_iff hdistinct hnone).mpr (showsDocument_self hplain)
    rw [List.map_id] at hsame
    rw [documents, hparts']
    exact hsame

/-- A loan with a number of its own in front of its identifier. The reader and the marks have
identifiers and date-times deeper in them. -/
def loan : Document :=
  [("lent", .dateTime (-57974400500)), ("id", .int32 5), ("_id", .objectId ⟨1⟩),
    ("reader", .document [("_id", .objectId ⟨7⟩), ("since", .dateTime 0)]),
    ("marks", .array [.dateTime 0])]

/-- What is shown of the loan: its own number gives way, its reader and its marks stay. -/
def loanShown : Document :=
  [("lent", .string "1968-02-29 23:59:59"), ("id", .string "000000000000000000000001"),
    ("reader", .document [("_id", .objectId ⟨7⟩), ("since", .dateTime 0)]),
    ("marks", .array [.dateTime 0])]

/-- A document without an identifier keeps its number. -/
def numbered : Document := [("id", .int32 5)]

theorem page_shows_documents_loan :
    ∃ parts, Calendar.Format.items? dateTime = some parts ∧ .text .readOnlyOffset ∉ parts ∧
      (∀ d ∈ [loan, numbered], Keyed.DistinctKeys d ∧ (identifiers d).length ≤ 1) ∧
      documents [loan, numbered] dateTime = .ok [loanShown, numbered] ∧
      List.Forall₂ (ShowsDocument parts) [loan, numbered] [loanShown, numbered] ∧
      (∀ d ∈ [loanShown, numbered], IsPlain d) ∧
      documents [loanShown, numbered] dateTimeUtc = .ok [loanShown, numbered] := by
  have single : ∀ d ∈ [loan, numbered],
      Keyed.DistinctKeys d ∧ (identifiers d).length ≤ 1 := by
    intro d hd
    rcases List.mem_pair.mp hd with rfl | rfl
    · exact ⟨by decide, by decide⟩
    · exact ⟨by decide, by decide⟩
  have hshaped : documents [loan, numbered] dateTime = .ok [loanShown, numbered] := rfl
  have hformat : Calendar.Format.items? dateTime = some _ := rfl
  obtain ⟨-, hpage⟩ := page_shows_documents hformat single
  obtain ⟨hshows, hplain, hagain⟩ := hpage _ hshaped
  exact ⟨_, hformat, by decide, single, hshaped, hshows, hplain, hagain dateTimeUtc rfl⟩

end DataGrid.Shape
