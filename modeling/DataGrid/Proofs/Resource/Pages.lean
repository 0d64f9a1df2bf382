import DataGrid.Proofs.Resource.Agreement
import DataGrid.Proofs.Response.Shape

/-!
# DataGrid.Proofs.Resource.Pages -- pages cut a result into pieces

A resource that can be paged through answers every page of a request from one list of rows,
which does not depend on the window: it shows the rows in the window one by one and reports
the number of all of them. From this alone it follows that the pages up to the last one,
put behind each other, are the whole result, that all of them but the last are full, and
that there is nothing behind the last.
-/

namespace DataGrid

open Fallible Store

/-- How a resource answers requests. -/
abbrev Answer := MemoryStore → Request → Except GridError ResultPage

/-- Resources that can be paged through: those of a find query that counts by its own
filter, and those of pipelines that are the compiled request alone, if callbacks do not
interfere with the rows. -/
inductive Pageable : String → Answer → Prop where
  | find {r : FindResource} (countBase : r.countBase = none) : Pageable r.collection r.getData
  | pipeline {r : AggregationResource} (ordinary : r.Ordinary)
      (sink : r.columns.PredicateOnly) (fieldsOnly : r.columns.FieldsOnly) :
      Pageable r.collection r.getData

/-! ## One list of rows -/

/-- The pages of a request show windows of the rows, and count them. -/
def ShowsRows (answer : Answer) (store : MemoryStore) (request : Request)
    (rows : List Document) (shown : Document → Except GridError Document) : Prop :=
  ∀ page size result, answer store (request.turnTo page size) = .ok result →
    ((request.turnTo page size).window rows).mapM shown = .ok result.items ∧
      result.total = saturate rows.length

theorem FindResource.showsRows {r : FindResource} (countBase : r.countBase = none)
    (store : MemoryStore) {request : Request} {result : ResultPage} {page size : UInt64}
    (h : r.getData store (request.turnTo page size) = .ok result) :
    ∃ rows shown, rows.length ≤ (store.collection r.collection).documents.length ∧
      ShowsRows r.getData store request rows shown := by
  rw [getData_eq, queries_turnTo, bind_eq_ok] at h
  obtain ⟨⟨query, countFilter⟩, hqueries, h⟩ := h
  obtain rfl := count_filter countBase hqueries
  obtain ⟨rows, hrows, -⟩ := bind_eq_ok.mp h
  have hlength := MemoryStore.length_rows (stored_eq_ok.mp hrows)
  refine ⟨rows, fun d => r.stored (MemoryStore.present query.projection d) >>=
    Shape.one r.dateFormat, hlength.1, ?_⟩
  intro page size result h
  rw [getData_eq, queries_turnTo, hqueries, ok_bind, hrows, ok_bind, bind_eq_ok] at h
  obtain ⟨documents, hdocuments, h⟩ := h
  obtain ⟨items, hitems, h⟩ := bind_eq_ok.mp h
  rw [hlength.2] at h
  obtain rfl := Except.ok.inj h
  refine ⟨?_, rfl⟩
  refine mapM_trans ?_ (Shape.mapM_one hitems)
  rw [← hdocuments]
  exact mapM_mapError

theorem AggregationResource.showsRows {r : AggregationResource} (ordinary : r.Ordinary)
    (sink : r.columns.PredicateOnly) (fieldsOnly : r.columns.FieldsOnly) {store : MemoryStore}
    (bounded : (store.collection r.collection).documents.length < 0x8000000000000000)
    {request : Request} {result : ResultPage} {page size : UInt64}
    (h : r.getData store (request.turnTo page size) = .ok result) :
    ∃ rows shown, rows.length ≤ (store.collection r.collection).documents.length ∧
      ShowsRows r.getData store request rows shown := by
  have hsteps : ∀ page size, r.getData store (request.turnTo page size) =
      ((r.compiler request).conditions.result >>= fun _ =>
        (r.compiler request).sortations.result >>= fun _ =>
        r.stored ((r.compiler request).rows store r.collection) >>= fun rows =>
        Shape.documents ((request.turnTo page size).window rows) r.dateFormat >>= fun items =>
        .ok ⟨items, saturate rows.length⟩) := by
    intro page size
    have hconditions : (r.compiler (request.turnTo page size)).conditions =
        (r.compiler request).conditions := Compiler.conditions_turnTo r.columns request false _ _
    rw [getData_eq ordinary sink fieldsOnly bounded, Compiler.rows, hconditions]
    rfl
  rw [hsteps, bind_eq_ok] at h
  obtain ⟨⟨⟩, hcond, h⟩ := h
  obtain ⟨⟨⟩, hsort, h⟩ := bind_eq_ok.mp h
  obtain ⟨rows, hrows, -⟩ := bind_eq_ok.mp h
  obtain ⟨filters, hfilters, -⟩ := map_eq_ok.mp ((Compiler.conditions_result _).symm.trans hcond)
  obtain ⟨matched, hmatched, hlength⟩ := Compiler.length_rows sink fieldsOnly hfilters hsort
    (mapError_eq_ok.mp hrows)
  have hle := Matcher.length_select_le hmatched
  refine ⟨rows, Shape.one r.dateFormat, hlength ▸ hle, ?_⟩
  intro page size result h
  rw [hsteps, hcond, ok_bind, hsort, ok_bind, hrows, ok_bind, bind_eq_ok] at h
  obtain ⟨items, hitems, h⟩ := h
  obtain rfl := Except.ok.inj h
  exact ⟨Shape.mapM_one hitems, rfl⟩

theorem Pageable.showsRows {collection : String} {answer : Answer}
    (pageable : Pageable collection answer) {store : MemoryStore}
    (bounded : (store.collection collection).documents.length < 0x8000000000000000)
    {request : Request} {result : ResultPage} {page size : UInt64}
    (h : answer store (request.turnTo page size) = .ok result) :
    ∃ rows shown, rows.length ≤ (store.collection collection).documents.length ∧
      ShowsRows answer store request rows shown := by
  cases pageable with
  | find countBase => exact FindResource.showsRows countBase store h
  | pipeline ordinary sink fieldsOnly =>
    exact AggregationResource.showsRows ordinary sink fieldsOnly bounded h

/-! ## Pieces -/

section Pieces

variable {answer : Answer} {store : MemoryStore} {request : Request} {rows : List Document}
  {shown : Document → Except GridError Document}

/-- A page that is large enough shows everything. -/
theorem ShowsRows.whole (h : ShowsRows answer store request rows shown) {size : UInt64}
    (hsize : rows.length ≤ size.toNat) {result : ResultPage}
    (hr : answer store (request.turnTo 1 size) = .ok result) :
    rows.mapM shown = .ok result.items := by
  obtain ⟨hitems, -⟩ := h _ _ _ hr
  rwa [Request.window_first] at hitems
  · rw [Request.toNat_pageNumber]
    rfl
  · have hmax : (request.turnTo 1 size).pageSize.toNat = max size.toNat 1 := toNat_max _ _
    omega

/-- Any page shows a piece of everything. -/
theorem ShowsRows.piece (h : ShowsRows answer store request rows shown)
    (fits : rows.length < UInt64.size) {all : List Document}
    (hall : rows.mapM shown = .ok all) {k : UInt64} (hk : 1 ≤ k) {result : ResultPage}
    (hr : answer store { request with page := k } = .ok result) :
    result.items =
      (all.drop ((k.toNat - 1) * request.pageSize.toNat)).take request.pageSize.toNat := by
  obtain ⟨hitems, -⟩ := h k request.itemsPerPage _ hr
  have hnumber : (request.turnTo k request.itemsPerPage).pageNumber.toNat = k.toNat := by
    rw [Request.toNat_pageNumber]
    have : 1 ≤ k.toNat := UInt64.le_iff_toNat_le.mp hk
    exact Nat.max_eq_left this
  have hlength := length_of_mapM hall
  -- only an offset behind the rows can be too large for 64 bits
  rcases Nat.le_total ((k.toNat - 1) * request.pageSize.toNat) rows.length with hle | hge
  · rw [Request.window_of_le fits (by rw [hnumber]; exact hle), hnumber] at hitems
    exact Except.ok.inj (hitems.symm.trans (mapM_slice hall _ _))
  · rw [Request.window_of_ge fits (by rw [hnumber]; exact hge)] at hitems
    rw [List.drop_eq_nil_of_le (by omega), List.take_nil]
    exact (Except.ok.inj hitems).symm

/-- Pages from the first on, one behind the other, are the front of everything. -/
theorem ShowsRows.flatMap_pages (h : ShowsRows answer store request rows shown)
    (fits : rows.length < UInt64.size) {all : List Document}
    (hall : rows.mapM shown = .ok all) {page : UInt64 → ResultPage} {last : UInt64}
    (hpages : ∀ k, 1 ≤ k → k ≤ last → answer store { request with page := k } = .ok (page k)) :
    (List.range last.toNat).flatMap (fun i => (page (UInt64.ofNat (i + 1))).items) =
      all.take (last.toNat * request.pageSize.toNat) := by
  have hpieces : (List.range last.toNat).map (fun i => (page (UInt64.ofNat (i + 1))).items) =
      (List.range last.toNat).map fun i =>
        (all.drop (i * request.pageSize.toNat)).take request.pageSize.toNat := by
    refine List.map_congr_left fun i hi => ?_
    have hi : i < last.toNat := List.mem_range.mp hi
    have hk : (UInt64.ofNat (i + 1)).toNat = i + 1 :=
      UInt64.toNat_ofNat_of_lt' (Nat.lt_of_le_of_lt hi last.toNat_lt)
    have hlow : 1 ≤ UInt64.ofNat (i + 1) := by
      rw [UInt64.le_iff_toNat_le, hk]
      exact Nat.succ_le_succ (Nat.zero_le i)
    have hhigh : UInt64.ofNat (i + 1) ≤ last := by
      rw [UInt64.le_iff_toNat_le, hk]
      exact hi
    rw [h.piece fits hall hlow (hpages _ hlow hhigh), hk, Nat.add_sub_cancel]
  rw [List.flatMap_def, hpieces, ← List.flatMap_def, flatMap_pieces]

end Pieces

/-- If the pages up to the last one and a page with everything on it are answered, they tell
the same total, the pages are the whole result piece by piece, all but the last are full,
and no page behind the last has anything. -/
theorem pages_partition_result {collection : String} {answer : Answer}
    (pageable : Pageable collection answer) {store : MemoryStore}
    (bounded : (store.collection collection).documents.length < 0x8000000000000000)
    {request : Request} {page : UInt64 → ResultPage} {whole : ResultPage} {last : UInt64}
    (hlast : last = (Paging.new 1 request.pageSize (page 1).total).lastPage)
    (hpages : ∀ k, 1 ≤ k → k ≤ last → answer store { request with page := k } = .ok (page k))
    (hwhole : answer store { request with page := 1, itemsPerPage := max (page 1).total 1 } =
      .ok whole) :
    (∀ k, 1 ≤ k → k ≤ last → (page k).total = (page 1).total) ∧
      whole.total = (page 1).total ∧
      (List.range last.toNat).flatMap (fun i => (page (UInt64.ofNat (i + 1))).items) =
        whole.items ∧
      whole.items.length = (page 1).total.toNat ∧
      (∀ k, 1 ≤ k → k < last → (page k).items.length = request.pageSize.toNat) ∧
      (0 < (page 1).total →
        1 ≤ (page last).items.length ∧ (page last).items.length ≤ request.pageSize.toNat) ∧
      ∀ k beyond, last < k → answer store { request with page := k } = .ok beyond →
        beyond.items = [] := by
  have hcount : last.toNat = pieceCount (page 1).total.toNat request.pageSize.toNat := by
    rw [hlast]
    exact Paging.toNat_lastPage 1 request.pageSize_pos
  have hone : 1 ≤ last.toNat := by
    rw [hcount]
    exact Nat.le_max_right _ _
  have hfirst : answer store (request.turnTo 1 request.itemsPerPage) = .ok (page 1) :=
    hpages 1 (UInt64.le_refl 1) (UInt64.le_iff_toNat_le.mpr hone)
  obtain ⟨rows, shown, hle, hshows⟩ := pageable.showsRows bounded hfirst
  have fits : rows.length < UInt64.size := by
    have : 0x8000000000000000 < UInt64.size := by decide
    omega
  -- the first page tells the number of rows, which 64 bits can hold
  have htotal : (page 1).total = saturate rows.length :=
    (hshows 1 request.itemsPerPage _ hfirst).2
  have hrows : (page 1).total.toNat = rows.length := by
    rw [htotal]
    exact toNat_saturate_of_lt fits
  -- the page with everything on it shows that every row can be shown, so that a page is
  -- the same piece of the whole as its window is of the rows
  have hall : rows.mapM shown = .ok whole.items := by
    refine hshows.whole ?_ hwhole
    rw [toNat_max, hrows]
    exact Nat.le_max_left _ _
  have hlength : whole.items.length = rows.length := length_of_mapM hall
  have hpiece : ∀ k result, 1 ≤ k → answer store { request with page := k } = .ok result →
      result.items = (whole.items.drop ((k.toNat - 1) * request.pageSize.toNat)).take
        request.pageSize.toNat :=
    fun k result hk hr => hshows.piece fits hall hk hr
  have hsize := request.pageSize_pos
  rw [hrows, ← hlength] at hcount
  refine ⟨?_, ?_, ?_, ?_, ?_, ?_, ?_⟩
  · intro k hk hkl
    rw [htotal, (hshows k request.itemsPerPage _ (hpages k hk hkl)).2]
  · rw [htotal, (hshows 1 _ _ hwhole).2]
  · rw [hshows.flatMap_pages fits hall hpages, hcount]
    exact List.take_of_length_le (le_pieceCount_mul hsize)
  · rw [hlength, hrows]
  · intro k hk hkl
    rw [hpiece k _ hk (hpages k hk (UInt64.le_of_lt hkl))]
    refine length_piece hsize (UInt64.le_iff_toNat_le.mp hk) ?_
    rw [← hcount]
    exact UInt64.lt_iff_toNat_lt.mp hkl
  · intro hpos
    have hall : 0 < whole.items.length := by
      rw [hlength, ← hrows]
      exact UInt64.lt_iff_toNat_lt.mp hpos
    have hlow : 1 ≤ last := UInt64.le_iff_toNat_le.mpr hone
    rw [hpiece last _ hlow (hpages last hlow (UInt64.le_refl last)), hcount]
    exact length_last_piece hsize hall
  · intro k beyond hk hr
    have hlt : last.toNat < k.toNat := UInt64.lt_iff_toNat_lt.mp hk
    have hlow : 1 ≤ k := UInt64.le_iff_toNat_le.mpr (Nat.le_trans hone (Nat.le_of_lt hlt))
    rw [hpiece k _ hlow hr]
    refine piece_beyond hsize ?_
    rw [← hcount]
    exact hlt

def booksByTitle : List Document :=
  [[("title", .string "Cecilia"), ("author", .string "Burney")],
    [("title", .string "Emma"), ("author", .string "Austen")],
    [("title", .string "Persuasion"), ("author", .string "Austen")]]

def bookPage (k : UInt64) : ResultPage :=
  ⟨if k = 1 then booksByTitle.take 2 else booksByTitle.drop 2, 3⟩

theorem eq_one_or_two {k : UInt64} (hlow : 1 ≤ k) (hhigh : k ≤ 2) : k = 1 ∨ k = 2 := by
  have hlow : 1 ≤ k.toNat := UInt64.le_iff_toNat_le.mp hlow
  have hhigh : k.toNat ≤ 2 := UInt64.le_iff_toNat_le.mp hhigh
  rcases (by omega : k.toNat = 1 ∨ k.toNat = 2) with h | h
  · exact .inl (UInt64.toNat.inj h)
  · exact .inr (UInt64.toNat.inj h)

theorem pages_partition_result_library :
    let found := (FindResource.plain "books" Columns.shelf).getData
    let piped := (AggregationResource.plain "books" Columns.shelf).getData
    (MemoryStore.library.collection "books").documents.length < 0x8000000000000000 ∧
      Pageable "books" found ∧ Pageable "books" piped ∧
      (∀ k, 1 ≤ k → k ≤ 2 →
        found .library { Request.byTitle with page := k } = .ok (bookPage k)) ∧
      (∀ k, 1 ≤ k → k ≤ 2 →
        piped .library { Request.byTitle with page := k } = .ok (bookPage k)) ∧
      found .library { Request.byTitle with page := 1, itemsPerPage := 3 } =
        .ok ⟨booksByTitle, 3⟩ ∧
      piped .library { Request.byTitle with page := 1, itemsPerPage := 3 } =
        .ok ⟨booksByTitle, 3⟩ ∧
      (List.range 2).flatMap (fun i => (bookPage (UInt64.ofNat (i + 1))).items) = booksByTitle ∧
      (∀ beyond, found .library { Request.byTitle with page := 3 } = .ok beyond →
        beyond.items = []) ∧
      ∀ beyond, piped .library { Request.byTitle with page := 3 } = .ok beyond →
        beyond.items = [] := by
  intro found piped
  have bounded : (MemoryStore.library.collection "books").documents.length <
      0x8000000000000000 := by decide
  have hpiped : Pageable "books" piped := .pipeline
    (AggregationResource.plain_ordinary "books" Columns.shelf) Columns.shelf_predicateOnly
    (Columns.fieldsOnly_of_nil rfl)
  have hfound : Pageable "books" found := .find (r := .plain "books" Columns.shelf) rfl
  have hfoundEq := FindResource.plain_getData_eq Columns.shelf_predicateOnly rfl .library "books"
  have hpipedEq := AggregationResource.getData_eq
    (AggregationResource.plain_ordinary "books" Columns.shelf) Columns.shelf_predicateOnly
    (Columns.fieldsOnly_of_nil rfl) bounded
  have hfoundPages : ∀ k, 1 ≤ k → k ≤ 2 →
      found .library { Request.byTitle with page := k } = .ok (bookPage k) := by
    intro k hlow hhigh
    rcases eq_one_or_two hlow hhigh with rfl | rfl
    · exact (hfoundEq _).trans rfl
    · exact (hfoundEq _).trans rfl
  have hpipedPages : ∀ k, 1 ≤ k → k ≤ 2 →
      piped .library { Request.byTitle with page := k } = .ok (bookPage k) := by
    intro k hlow hhigh
    rcases eq_one_or_two hlow hhigh with rfl | rfl
    · exact (hpipedEq _).trans rfl
    · exact (hpipedEq _).trans rfl
  have hfoundWhole : found .library { Request.byTitle with page := 1, itemsPerPage := 3 } =
      .ok ⟨booksByTitle, 3⟩ := (hfoundEq _).trans rfl
  have hpipedWhole : piped .library { Request.byTitle with page := 1, itemsPerPage := 3 } =
      .ok ⟨booksByTitle, 3⟩ := (hpipedEq _).trans rfl
  have hlast : (2 : UInt64) =
      (Paging.new 1 Request.byTitle.pageSize (bookPage 1).total).lastPage := by decide
  obtain ⟨-, -, hpieces, -, -, -, hfoundBeyond⟩ :=
    pages_partition_result hfound bounded hlast hfoundPages hfoundWhole
  obtain ⟨-, -, -, -, -, -, hpipedBeyond⟩ :=
    pages_partition_result hpiped bounded hlast hpipedPages hpipedWhole
  exact ⟨bounded, hfound, hpiped, hfoundPages, hpipedPages, hfoundWhole, hpipedWhole, hpieces,
    fun beyond => hfoundBeyond 3 beyond (by decide),
    fun beyond => hpipedBeyond 3 beyond (by decide)⟩

end DataGrid
