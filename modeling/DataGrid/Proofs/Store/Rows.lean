import DataGrid.Proofs.Fallible
import DataGrid.Proofs.Store.Sorting
import DataGrid.Store.Memory

/-!
# DataGrid.Proofs.Store.Rows -- a query is a filter, an order and a window

A find query selects and sorts rows, cuts a window out of them and projects what is left,
one row at a time. Counting with the same filter gives the number of rows before the cut,
because sorting neither loses nor doubles any.
-/

namespace DataGrid

open Fallible Store

/-! ## Selection -/

/-- A filter holds of a document and does not fail on it. -/
def Store.Matcher.accepts (index : TextIndex) (spec d : Document) : Bool :=
  match filter index d spec with
  | .ok holds => holds
  | .error _ => false

theorem Store.Matcher.accepts_iff {index : TextIndex} {spec d : Document} :
    accepts index spec d = true ↔ filter index d spec = .ok true := by
  unfold accepts
  rcases filter index d spec with e | holds
  · simp
  · simp

/-- A selection that succeeds keeps the documents that are accepted, in their order. -/
theorem Store.Matcher.select_eq_filter {index : TextIndex} {spec : Document}
    {documents kept : List Document} (h : Matcher.select index spec documents = .ok kept) :
    kept = documents.filter (accepts index spec) := by
  induction documents generalizing kept with
  | nil =>
    obtain rfl := Except.ok.inj h
    rfl
  | cons d rest ih =>
    rw [Matcher.select, bind_eq_ok] at h
    obtain ⟨holds, hholds, h⟩ := h
    obtain ⟨others, hothers, h⟩ := bind_eq_ok.mp h
    obtain rfl := Except.ok.inj h
    have haccepts : accepts index spec d = holds := by rw [accepts, hholds]
    rw [List.filter_cons, haccepts, ih hothers]

/-- A filter that has an answer on every document selects. -/
theorem Store.Matcher.exists_select_eq_ok {index : TextIndex} {spec : Document}
    (documents : List Document)
    (answered : ∀ d ∈ documents, ∃ holds, filter index d spec = .ok holds) :
    ∃ kept, select index spec documents = .ok kept := by
  induction documents with
  | nil => exact ⟨[], rfl⟩
  | cons d rest ih =>
    obtain ⟨⟨holds, hd⟩, hrest⟩ := List.forall_mem_cons.mp answered
    obtain ⟨kept, hkept⟩ := ih hrest
    exact ⟨if holds then d :: kept else kept, by rw [select, hd, hkept]; rfl⟩

theorem Store.Matcher.sublist_select {index : TextIndex} {spec : Document}
    {documents kept : List Document} (h : Matcher.select index spec documents = .ok kept) :
    kept.Sublist documents := by
  rw [select_eq_filter h]
  exact List.filter_sublist

theorem Store.Matcher.length_select_le {index : TextIndex} {spec : Document}
    {documents kept : List Document} (h : Matcher.select index spec documents = .ok kept) :
    kept.length ≤ documents.length := (sublist_select h).length_le

/-- A filter that selects has an answer on every document. -/
theorem Store.Matcher.answered_of_select {index : TextIndex} {spec : Document}
    {documents kept : List Document} (h : Matcher.select index spec documents = .ok kept) :
    ∀ d ∈ documents, ∃ holds, filter index d spec = .ok holds := by
  induction documents generalizing kept with
  | nil => exact fun d hd => absurd hd List.not_mem_nil
  | cons d rest ih =>
    rw [Matcher.select, bind_eq_ok] at h
    obtain ⟨holds, hholds, h⟩ := h
    obtain ⟨others, hothers, -⟩ := bind_eq_ok.mp h
    exact List.forall_mem_cons.mpr ⟨⟨holds, hholds⟩, ih hothers⟩

theorem Store.Matcher.select_eq_ok_iff {index : TextIndex} {spec : Document}
    {documents kept : List Document} :
    Matcher.select index spec documents = .ok kept ↔
      (∀ d ∈ documents, ∃ holds, filter index d spec = .ok holds) ∧
        kept = documents.filter (accepts index spec) := by
  refine ⟨fun h => ⟨answered_of_select h, select_eq_filter h⟩, ?_⟩
  rintro ⟨answered, rfl⟩
  obtain ⟨kept, h⟩ := exists_select_eq_ok documents answered
  rw [h, select_eq_filter h]

/-- Nothing is asked, so everything is kept. -/
theorem Store.Matcher.select_nil (index : TextIndex) (documents : List Document) :
    Matcher.select index [] documents = .ok documents := by
  induction documents with
  | nil => rfl
  | cons d rest ih =>
    rw [Matcher.select, ih, Matcher.filter]
    rfl

section Comparison

variable {index : TextIndex} {first second : Document} {documents : List Document}

/-- Filters that do not contradict each other select the same, if both select. -/
theorem Store.Matcher.select_agree (agree : ∀ d ∈ documents, ∀ holds holds',
      filter index d first = .ok holds → filter index d second = .ok holds' → holds = holds')
    {kept kept' : List Document} (h : Matcher.select index first documents = .ok kept)
    (h' : Matcher.select index second documents = .ok kept') : kept = kept' := by
  induction documents generalizing kept kept' with
  | nil =>
    obtain rfl := Except.ok.inj h
    exact Except.ok.inj h'
  | cons d rest ih =>
    obtain ⟨hd, hrest⟩ := List.forall_mem_cons.mp agree
    obtain ⟨holds, hholds, h⟩ := bind_eq_ok.mp h
    obtain ⟨others, hothers, h⟩ := bind_eq_ok.mp h
    obtain ⟨holds', hholds', h'⟩ := bind_eq_ok.mp h'
    obtain ⟨others', hothers', h'⟩ := bind_eq_ok.mp h'
    rw [← Except.ok.inj h, ← Except.ok.inj h', hd holds holds' hholds hholds',
      ih hrest hothers hothers']

/-- Filters that answer alike select alike. -/
theorem Store.Matcher.select_congr
    (same : ∀ d ∈ documents, filter index d first = filter index d second) :
    Matcher.select index first documents = Matcher.select index second documents := by
  induction documents with
  | nil => rfl
  | cons d rest ih =>
    obtain ⟨hd, hrest⟩ := List.forall_mem_cons.mp same
    rw [Matcher.select, Matcher.select, hd, ih hrest]

end Comparison

/-- What the window of a query cuts out of rows. -/
def FindQuery.window {α : Type} (q : FindQuery) (rows : List α) : List α :=
  match q.limit with
  | some limit =>
    if limit = 0 then rows.drop (q.skip.getD 0).toNat
    else (rows.drop (q.skip.getD 0).toNat).take limit.toNat
  | none => rows.drop (q.skip.getD 0).toNat

namespace MemoryStore

/-- What a query finds before it is cut. -/
def rows (s : MemoryStore) (name : String) (filter : Document) (sort : Option Document) :
    Except StoreError (List Document) :=
  match Keyed.get? s.collections name with
  | none => .ok []
  | some source => do
    let matched ← Matcher.select source.textIndex filter source.documents
    match sort with
    | some keys => Sorting.sort keys matched
    | none => .ok matched

/-- A row under the projection of a query, if it has one. -/
def present (projection : Option Document) (d : Document) : Except StoreError Document :=
  match projection with
  | some projection => Projection.project projection d
  | none => .ok d

theorem mapM_present (projection : Option Document) (documents : List Document) :
    documents.mapM (present projection) = match projection with
      | some projection => documents.mapM (Projection.project projection)
      | none => .ok documents := by
  cases projection with
  | some projection => rfl
  | none =>
    rw [show present none = fun d => pure d from rfl, List.mapM_pure, List.map_id']
    rfl

/-- A query finds the rows in its window, projected. -/
theorem find_eq (s : MemoryStore) (name : String) (q : FindQuery) :
    s.find name q = (s.rows name q.filter q.sort >>= fun rows =>
      (q.window rows).mapM (present q.projection)) := by
  unfold find rows FindQuery.window
  cases Keyed.get? s.collections name with
  | none => cases q.limit <;> simp
  | some source =>
    simp only [mapM_present]
    rcases Matcher.select source.textIndex q.filter source.documents with e | matched
    · rfl
    · cases q.sort <;> rfl

/-- A window of a position and a size is cut there. -/
theorem find_window (s : MemoryStore) (name : String) {q : FindQuery} {skip limit : UInt64}
    (hskip : q.skip = some skip) (hlimit : q.limit = some limit) (hpos : limit ≠ 0) :
    s.find name q = (s.rows name q.filter q.sort >>= fun rows =>
      ((rows.drop skip.toNat).take limit.toNat).mapM (present q.projection)) := by
  rw [find_eq]
  simp only [FindQuery.window, hskip, hlimit, if_neg hpos, Option.getD_some]

/-- The documents of a collection that a filter accepts. -/
def accepted (s : MemoryStore) (name : String) (filter : Document) : List Document :=
  (s.collection name).documents.filter (Matcher.accepts (s.collection name).textIndex filter)

/-- The rows of a query are the accepted documents in some order. -/
theorem rows_perm {s : MemoryStore} {name : String} {filter : Document}
    {sort : Option Document} {rows : List Document} (h : s.rows name filter sort = .ok rows) :
    rows.Perm (s.accepted name filter) := by
  unfold MemoryStore.rows at h
  unfold accepted collection
  cases hsource : Keyed.get? s.collections name with
  | none =>
    rw [hsource] at h
    obtain rfl := Except.ok.inj h
    exact List.Perm.refl _
  | some source =>
    rw [hsource] at h
    obtain ⟨matched, hmatched, h⟩ := bind_eq_ok.mp h
    rw [Option.getD_some, ← Matcher.select_eq_filter hmatched]
    cases sort with
    | some keys => exact Sorting.sort_perm h
    | none => rw [Except.ok.inj h]

/-- Counting selects as a query without an order does. -/
theorem count_eq_rows (store : MemoryStore) (name : String) (filter : Document) :
    store.count name filter = (store.rows name filter none).map List.length := by
  unfold count MemoryStore.rows
  cases Keyed.get? store.collections name with
  | none => rfl
  | some source =>
    dsimp only
    rcases Matcher.select source.textIndex filter source.documents with e | matched <;> rfl

theorem count_eq_ok {s : MemoryStore} {name : String} {filter : Document} {n : Nat}
    (h : s.count name filter = .ok n) : n = (s.accepted name filter).length := by
  rw [count_eq_rows] at h
  obtain ⟨rows, hrows, rfl⟩ := map_eq_ok.mp h
  exact (rows_perm hrows).length_eq

theorem length_rows {s : MemoryStore} {name : String} {filter : Document}
    {sort : Option Document} {rows : List Document} (h : s.rows name filter sort = .ok rows) :
    rows.length ≤ (s.collection name).documents.length ∧
      s.count name filter = .ok rows.length := by
  have hlength := (rows_perm h).length_eq
  refine ⟨hlength ▸ List.length_filter_le _ _, ?_⟩
  -- a query that has rows has selected them, and then counting selects them too
  have hcounted : ∃ n, s.count name filter = .ok n := by
    unfold MemoryStore.rows at h
    unfold count
    cases hsource : Keyed.get? s.collections name with
    | none => exact ⟨0, rfl⟩
    | some source =>
      rw [hsource] at h
      obtain ⟨matched, hmatched, -⟩ := bind_eq_ok.mp h
      exact ⟨matched.length, bind_eq_ok.mpr ⟨matched, hmatched, rfl⟩⟩
  obtain ⟨n, hn⟩ := hcounted
  rw [hn, hlength, count_eq_ok hn]

theorem count_all (s : MemoryStore) (name : String) :
    s.count name [] = .ok (s.collection name).documents.length := by
  unfold count collection
  cases Keyed.get? s.collections name with
  | none => rfl
  | some source =>
    simp only [Matcher.select_nil, ok_bind]
    rfl

end MemoryStore
end DataGrid
