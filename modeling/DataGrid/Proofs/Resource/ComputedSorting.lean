import DataGrid.Proofs.Resource.Agreement
import DataGrid.Proofs.Store.ComputedFields

/-!
# DataGrid.Proofs.Resource.ComputedSorting -- sorting by computed fields leaves no trace

A sort callback computes fields to sort by and names them, to be removed when the sorting is
done. If the names are new to the documents, the rows of a request are the selected documents
themselves, in another order: a page shows documents as they are stored, and how a request
sorts has no part in its total.
-/

namespace DataGrid

open Fallible Store Compiler

/-! ## Callbacks that tidy up -/

/-- A callback that computes fields and names just these, under names without dots that are
new to the documents. -/
structure SortCallback.Tidy (callback : SortCallback) (documents : List Document) : Prop where
  computes : ∀ call ∈ callback.calls, ∃ fields, call = .addFields fields
  names : ∀ name, name ∈ callback.unset ↔
    ∃ fields, BuilderCall.addFields fields ∈ callback.calls ∧ name ∈ Keyed.keys fields
  plain : ∀ name ∈ callback.unset, Path.Plain name
  fresh : ∀ name ∈ callback.unset, ∀ d ∈ documents, name ∉ Keyed.keys d

/-- All sort callbacks tidy up. -/
def Columns.TidySorts (c : Columns) (documents : List Document) : Prop :=
  ∀ column callback, Keyed.get? c.sortCallbacks column = some callback → callback.Tidy documents

theorem Columns.TidySorts.fieldsOnly {c : Columns} {documents : List Document}
    (tidy : c.TidySorts documents) : c.FieldsOnly :=
  fun column callback hget => (tidy column callback hget).computes

namespace Compile

variable {columns : Columns} {documents : List Document} {orderBy : List Sortation}
  {plan : SortPlan}

theorem plain_unset (tidy : columns.TidySorts documents)
    (h : (sortPlan columns orderBy).result = .ok plan) : ∀ name ∈ plan.unset, Path.Plain name := by
  intro name hname
  obtain ⟨column, callback, hget, hmem⟩ := mem_unset_sortPlan h hname
  exact (tidy column callback hget).plain name hmem

theorem fresh_unset (tidy : columns.TidySorts documents)
    (h : (sortPlan columns orderBy).result = .ok plan) {d : Document} (hd : d ∈ documents) :
    ∀ name ∈ plan.unset, name ∉ Keyed.keys d := by
  intro name hname
  obtain ⟨column, callback, hget, hmem⟩ := mem_unset_sortPlan h hname
  exact (tidy column callback hget).fresh name hmem d hd

/-- What is computed on the way to a plan has a name that the plan removes. -/
theorem computes_sortPlan (tidy : columns.TidySorts documents)
    (h : (sortPlan columns orderBy).result = .ok plan) :
    ∀ call ∈ (sortPlan columns orderBy).calls, Pipeline.Computes plan.unset call := by
  intro call hcall
  obtain ⟨column, callback, hget, hmem, hnamed⟩ := named_calls_sortPlan h hcall
  obtain ⟨fields, rfl⟩ := (tidy column callback hget).computes call hmem
  refine ⟨fields, rfl, fun name hname => ?_⟩
  exact hnamed name (((tidy column callback hget).names name).mpr ⟨fields, hmem, hname⟩)

end Compile

/-! ## Rows -/

theorem Store.Pipeline.perform_unset (context : Context) (names : List String)
    (rows : List Document) :
    (if names.isEmpty then [] else [BuilderCall.unset names]).foldlM
      (BuilderCall.perform context) rows = .ok (rows.map (unset names)) := by
  cases names with
  | nil =>
    rw [show unset [] = id from rfl, List.map_id]
    rfl
  | cons name rest => rfl

namespace Compiler

/-- Computing, sorting and removing put documents into another order and do nothing else. -/
theorem perform_sortations {c : Compiler} {documents matched rows : List Document}
    (tidy : c.columns.TidySorts documents) (hmatched : ∀ d ∈ matched, d ∈ documents)
    (hsort : c.sortations.result = .ok ()) {context : Pipeline.Context}
    (h : c.sortations.calls.foldlM (BuilderCall.perform context) matched = .ok rows) :
    rows.Perm matched := by
  obtain ⟨plan, hplan, hcalls⟩ := sortations_eq_ok hsort
  rw [hcalls, List.foldlM_append, bind_eq_ok] at h
  obtain ⟨computed, hcomputed, h⟩ := h
  have plain := Compile.plain_unset tidy hplan
  -- removing the names gives the documents back, before anything is sorted
  have hback : computed.map (Pipeline.unset plan.unset) = matched := by
    rw [Pipeline.map_unset_foldlM plain (Compile.computes_sortPlan tidy hplan) hcomputed]
    have hsame : ∀ d ∈ matched, Pipeline.unset plan.unset d = d := fun d hd =>
      Pipeline.unset_of_fresh plain (Compile.fresh_unset tidy hplan (hmatched d hd))
    exact (List.map_congr_left hsame).trans (List.map_id' matched)
  by_cases hkeys : plan.keys = []
  · -- without keys there is no sortation, so nothing was computed
    have hempty := Compile.isEmpty_sortPlan hplan
    rw [Compile.SortPlan.isEmpty, hkeys] at hempty
    have hnone : c.request.orderBy = [] := List.isEmpty_iff.mp hempty.symm
    rw [hnone] at hplan
    obtain rfl := Except.ok.inj hplan
    obtain rfl := Except.ok.inj h
    rw [← hback]
    exact List.Perm.of_eq (List.map_id _).symm
  · rw [if_neg (by simpa using hkeys), List.foldlM_cons, bind_eq_ok] at h
    obtain ⟨sorted, hsorted, h⟩ := h
    rw [Pipeline.perform_unset] at h
    obtain rfl := Except.ok.inj h
    rw [← hback]
    exact (Sorting.sort_perm hsorted).map _

/-- The rows of a request are stored documents in another order. -/
theorem rows_perm_stored {c : Compiler} (sink : c.columns.PredicateOnly) {store : MemoryStore}
    {name : String} (tidy : c.columns.TidySorts (store.collection name).documents)
    (hcond : c.conditions.result = .ok ()) (hsort : c.sortations.result = .ok ())
    {rows : List Document} (h : c.rows store name = .ok rows) :
    ∃ matched : List Document, matched.Sublist (store.collection name).documents ∧
      rows.Perm matched := by
  obtain ⟨matched, hmatched, h⟩ := rows_eq_ok h
  obtain ⟨filters, hfilters, -⟩ := map_eq_ok.mp ((conditions_result c).symm.trans hcond)
  rw [perform_conditions sink hfilters] at hmatched
  have hstored := Matcher.sublist_select hmatched
  exact ⟨matched, hstored, perform_sortations tidy (fun d hd => hstored.subset hd) hsort h⟩

/-- How a request sorts has no part in the number of its rows. -/
theorem length_rows_orderBy {columns : Columns} (fieldsOnly : columns.FieldsOnly)
    {request : Request} {orderBy : List Sortation} {store : MemoryStore} {name : String}
    (hsort : (⟨columns, request, false⟩ : Compiler).sortations.result = .ok ())
    (hsort' : (⟨columns, { request with orderBy }, false⟩ : Compiler).sortations.result = .ok ())
    {rows rows' : List Document}
    (h : (⟨columns, request, false⟩ : Compiler).rows store name = .ok rows)
    (h' : (⟨columns, { request with orderBy }, false⟩ : Compiler).rows store name = .ok rows') :
    rows'.length = rows.length := by
  obtain ⟨matched, hmatched, h⟩ := rows_eq_ok h
  obtain ⟨matched', hmatched', h'⟩ := rows_eq_ok h'
  rw [conditions_request columns { request with orderBy } request false rfl rfl rfl,
    hmatched] at hmatched'
  obtain rfl := Except.ok.inj hmatched'
  rw [Pipeline.length_foldlM (keepsRows_sortations fieldsOnly hsort) h,
    Pipeline.length_foldlM (keepsRows_sortations fieldsOnly hsort') h']

end Compiler

/-! ## Pages -/

namespace AggregationResource

/-- A page of an ordinary resource shows some of the rows of the compiled request. -/
theorem exists_rows {r : AggregationResource} (ordinary : r.Ordinary) {store : MemoryStore}
    {request : Request} {page : ResultPage} (h : r.getData store request = .ok page) :
    let c := r.compiler request
    c.conditions.result = .ok () ∧ c.sortations.result = .ok () ∧
      ∃ rows shown, c.rows store r.collection = .ok rows ∧ shown.Sublist rows ∧
        Shape.documents shown r.dateFormat = .ok page.items := by
  intro c
  obtain ⟨data, -, hdata, -, ⟨shown, hshown, hitems⟩, -⟩ := getData_eq_ok h
  rw [ordinary.pipeline, stages_run] at hdata
  obtain ⟨⟨⟩, hresult, rfl⟩ := map_eq_ok.mp hdata
  obtain ⟨hcond, hsort⟩ := apply_eq_ok hresult
  rw [apply_calls hcond hsort, MemoryStore.aggregate_calls, List.foldlM_append,
    bind_eq_ok] at hshown
  obtain ⟨rows, hrows, hwindow⟩ := hshown
  exact ⟨hcond, hsort, rows, shown, hrows, Pipeline.sublist_window hwindow, hitems⟩

/-- The total of an ordinary resource is the number of rows. -/
theorem total_eq_length {r : AggregationResource} (ordinary : r.Ordinary)
    (sink : r.columns.PredicateOnly) (fieldsOnly : r.columns.FieldsOnly) {store : MemoryStore}
    (bounded : (store.collection r.collection).documents.length < 0x8000000000000000)
    {request : Request} {rows : List Document}
    (hrows : (r.compiler request).rows store r.collection = .ok rows) {page : ResultPage}
    (h : r.getData store request = .ok page) : page.total = saturate rows.length := by
  rw [getData_eq ordinary sink fieldsOnly bounded] at h
  obtain ⟨⟨⟩, -, h⟩ := bind_eq_ok.mp h
  obtain ⟨⟨⟩, -, h⟩ := bind_eq_ok.mp h
  obtain ⟨found, hfound, h⟩ := bind_eq_ok.mp h
  obtain ⟨items, -, h⟩ := bind_eq_ok.mp h
  obtain rfl := Except.ok.inj (hrows.symm.trans (mapError_eq_ok.mp hfound))
  rw [← Except.ok.inj h]

/-- If the sort callbacks tidy up, a page shows documents as they are stored, none more often
than it is stored, and its total does not depend on the sortations. The bound is on what a
counting stage can hold; no list of documents in memory is longer. -/
theorem sorting_leaves_no_trace {r : AggregationResource} (ordinary : r.Ordinary)
    (sink : r.columns.PredicateOnly) {store : MemoryStore}
    (tidy : r.columns.TidySorts (store.collection r.collection).documents) {request : Request}
    {page : ResultPage} (h : r.getData store request = .ok page) :
    (∃ shown kept, Shape.documents shown r.dateFormat = .ok page.items ∧ shown.Perm kept ∧
      kept.Sublist (store.collection r.collection).documents) ∧
    ((store.collection r.collection).documents.length < 0x8000000000000000 →
      ∀ orderBy other, r.getData store { request with orderBy } = .ok other →
        other.total = page.total) := by
  obtain ⟨hcond, hsort, rows, shown, hrows, hsub, hitems⟩ := exists_rows ordinary h
  constructor
  · obtain ⟨matched, hstored, hperm⟩ := rows_perm_stored sink tidy hcond hsort hrows
    -- the window is cut out of the sorted rows, and has the documents of a part of the stored
    obtain ⟨kept, hkept, hpart⟩ := List.exists_perm_sublist hsub hperm
    exact ⟨shown, kept, hitems, hkept.symm, hpart.trans hstored⟩
  · intro bounded orderBy other h'
    obtain ⟨hcond', hsort', rows', -, hrows', -, -⟩ := exists_rows ordinary h'
    have hlength := length_rows_orderBy tidy.fieldsOnly hsort hsort' hrows hrows'
    rw [total_eq_length ordinary sink tidy.fieldsOnly bounded hrows h,
      total_eq_length ordinary sink tidy.fieldsOnly bounded hrows' h', hlength]

/-! ## A shelf that is sorted by a computed key -/

/-- Computes a key out of the author of a book. -/
def authorKey : SortCallback := ⟨[.addFields [("key", .string "$author")]], ["key"]⟩

/-- A shelf whose books can also be sorted by the computed key. -/
def keyedShelf : AggregationResource :=
  plain "books" ((Columns.shelf.sortation "author" "key").sortCallback "author" authorKey)

/-- Books by author, backwards. -/
def authorsBackwards : Request :=
  { Request.default with orderBy := [⟨"author", .descending⟩] }

theorem tidy_authorKey : authorKey.Tidy (MemoryStore.library.collection "books").documents where
  computes := by
    intro call hcall
    exact ⟨_, List.mem_singleton.mp hcall⟩
  names := by simp [authorKey, Keyed.keys]
  plain := by
    intro name hname
    rw [List.mem_singleton.mp hname]
    decide
  fresh := by
    intro name hname
    rw [List.mem_singleton.mp hname]
    decide

theorem keyedShelf_tidySorts :
    keyedShelf.columns.TidySorts (MemoryStore.library.collection "books").documents := by
  intro column callback hget
  have hcallbacks : keyedShelf.columns.sortCallbacks = [("author", authorKey)] := rfl
  rw [hcallbacks, Keyed.get?_cons] at hget
  split at hget
  · rw [← Option.some.inj hget]
    exact tidy_authorKey
  · cases hget

theorem keyedShelf_ordinary : keyedShelf.Ordinary := plain_ordinary _ _

theorem keyedShelf_predicateOnly : keyedShelf.columns.PredicateOnly := Columns.shelf_predicateOnly

theorem rows_authorsBackwards :
    (keyedShelf.compiler authorsBackwards).rows .library "books" =
      .ok [[("title", .string "Cecilia"), ("author", .string "Burney")],
        [("title", .string "Emma"), ("author", .string "Austen")],
        [("title", .string "Persuasion"), ("author", .string "Austen")]] := by
  have hauthor : ∀ d, Expression.evaluate d (.string "$author") =
      .ok (Document.lookup d ["author"]) := by
    intro d
    rw [Expression.evaluate]
    rfl
  have hkey : ∀ d, Pipeline.addFields d [("key", .string "$author")] =
      .ok ((Document.lookup d ["author"]).elim d (Document.set d ["key"])) := by
    intro d
    rw [Pipeline.addFields, hauthor]
    cases Document.lookup d ["author"] <;> rfl
  show (List.mapM (fun d => Pipeline.addFields d [("key", .string "$author")]) _ >>= _) = _
  simp only [hkey]
  rfl

theorem getData_authorsBackwards : keyedShelf.getData .library authorsBackwards =
    .ok ⟨[[("title", .string "Cecilia"), ("author", .string "Burney")],
      [("title", .string "Emma"), ("author", .string "Austen")],
      [("title", .string "Persuasion"), ("author", .string "Austen")]], 3⟩ := by
  rw [getData_eq keyedShelf_ordinary keyedShelf_predicateOnly keyedShelf_tidySorts.fieldsOnly
    (by decide)]
  refine bind_eq_ok.mpr ⟨(), rfl, ?_⟩
  refine bind_eq_ok.mpr ⟨(), rfl, ?_⟩
  exact bind_eq_ok.mpr ⟨_, mapError_eq_ok.mpr rows_authorsBackwards, rfl⟩

/-- The key does not show, and without the sortation there are three books as well. -/
theorem sorting_leaves_no_trace_keyedShelf :
    keyedShelf.Ordinary ∧ keyedShelf.columns.PredicateOnly ∧
      keyedShelf.columns.TidySorts (MemoryStore.library.collection "books").documents ∧
      ∃ page, keyedShelf.getData .library authorsBackwards = .ok page ∧
        (∃ shown kept, Shape.documents shown Shape.dateTimeUtc = .ok page.items ∧
          shown.Perm kept ∧ kept.Sublist (MemoryStore.library.collection "books").documents) ∧
        ∀ other, keyedShelf.getData .library .default = .ok other → other.total = 3 := by
  obtain ⟨hstored, htotal⟩ := sorting_leaves_no_trace keyedShelf_ordinary
    keyedShelf_predicateOnly keyedShelf_tidySorts getData_authorsBackwards
  exact ⟨keyedShelf_ordinary, keyedShelf_predicateOnly, keyedShelf_tidySorts, _,
    getData_authorsBackwards, hstored, htotal (by decide) []⟩

end AggregationResource
end DataGrid
