import DataGrid.Proofs.Builder.Conjunction
import DataGrid.Proofs.Resource.Agreement
import DataGrid.Proofs.Resource.Find
import DataGrid.Proofs.Response.Shape

/-!
# DataGrid.Proofs.Resource.Exposure -- requests narrow what a resource exposes

A find resource puts a filter into its base query to say which documents clients may see.
Everything that a request adds, by conditions, by its search, by callbacks or natively, is
conjoined with that filter, in the query for the data and in the one for the total. A page
therefore shows no document, and tells of no document, that the base filter keeps back; and
a native query that is not allowed is as good as none.
-/

namespace DataGrid

open Fallible Store

namespace QueryBuilder

variable {index : TextIndex} {d : Document}

/-! ## The filter of a query -/

theorem Narrows.filter_holds {narrow wide : QueryBuilder} (h : narrow.Narrows wide)
    (hd : Matcher.filter index d narrow.filter = .ok true) :
    Matcher.filter index d wide.filter = .ok true :=
  filter_holds_iff.mpr fun filter hfilter =>
    filter_holds_iff.mp hd filter (h.filters.subset hfilter)

theorem filter_matchFilter {b : QueryBuilder} {filter : Document}
    (hd : Matcher.filter index d (b.matchFilter filter).filter = .ok true) :
    Matcher.filter index d filter = .ok true := by
  rw [filter_holds_iff, matchFilter] at hd
  split at hd
  · next hempty =>
    -- a filter without clauses is not even collected, and holds of everything
    rw [List.isEmpty_iff.mp hempty]
    exact Matcher.filter_nil index d
  · exact hd filter (List.mem_append_right _ (List.mem_singleton_self filter))

end QueryBuilder

namespace FindResource

/-- The resource with one more filter in its base query. -/
def guarded (r : FindResource) (base : Document) : FindResource :=
  { r with base := r.base.matchFilter base }

/-- The stored documents that match a base filter, and the native query if one is used. -/
def exposed (r : FindResource) (store : MemoryStore) (request : Request) (base : Document) :
    List Document :=
  let accepts := Matcher.accepts (store.collection r.collection).textIndex
  (store.collection r.collection).documents.filter fun d =>
    accepts base d && (r.native request).all fun native => accepts native d

theorem narrows_withNative (r : FindResource) (request : Request) :
    (r.withNative request r.base).Narrows r.base := by
  unfold withNative
  cases r.native request with
  | none => exact .refl _
  | some native => exact QueryBuilder.narrows_matchFilter _ native

/-- Whatever is compiled, the query narrows the base with the native query. -/
theorem narrows_queries {r : FindResource} {request : Request} {query : QueryBuilder}
    {countFilter : Document} (h : r.queries request = .ok (query, countFilter)) :
    query.Narrows (r.withNative request r.base) := by
  rw [queries_eq] at h
  obtain ⟨⟨⟩, -, h⟩ := bind_eq_ok.mp h
  obtain ⟨⟨⟩, -, h⟩ := bind_eq_ok.mp h
  obtain ⟨rfl, -⟩ := Prod.mk.inj (Except.ok.inj h)
  exact (QueryBuilder.narrows_run _ _).trans (QueryBuilder.narrows_run _ _)

/-- What the query of a guarded resource accepts is exposed. -/
theorem exposed_of_accepts {r : FindResource} {base : Document} {request : Request}
    {query : QueryBuilder} {countFilter : Document}
    (h : (r.guarded base).queries request = .ok (query, countFilter)) {index : TextIndex}
    {d : Document} (hd : Matcher.filter index d query.filter = .ok true) :
    Matcher.filter index d base = .ok true ∧
      ∀ native, r.native request = some native → Matcher.filter index d native = .ok true := by
  have hwith := (narrows_queries h).filter_holds hd
  have hbase := (narrows_withNative (r.guarded base) request).filter_holds hwith
  refine ⟨QueryBuilder.filter_matchFilter hbase, ?_⟩
  intro native hnative
  have hquery : (r.guarded base).withNative request (r.guarded base).base =
      (r.guarded base).base.matchFilter native := by
    unfold withNative
    rw [show (r.guarded base).native request = r.native request from rfl, hnative]
  rw [hquery] at hwith
  exact QueryBuilder.filter_matchFilter hwith

/-- The query for the total asks for nothing else than the one for the data, so it counts
no document that is kept back. -/
theorem length_accepted_le {r : FindResource} {base : Document} {request : Request}
    {query : QueryBuilder} {countFilter : Document}
    (h : (r.guarded base).queries request = .ok (query, countFilter)) (store : MemoryStore) :
    (store.accepted r.collection query.filter).length ≤
      (r.exposed store request base).length := by
  unfold MemoryStore.accepted exposed
  rw [← List.countP_eq_length_filter, ← List.countP_eq_length_filter]
  refine List.countP_mono_left fun d _ hd => ?_
  obtain ⟨hbase, hnative⟩ := exposed_of_accepts h (Matcher.accepts_iff.mp hd)
  rw [Matcher.accepts_iff.mpr hbase, Bool.true_and]
  cases hn : r.native request with
  | none => rfl
  | some native => exact Matcher.accepts_iff.mpr (hnative native hn)

theorem mem_items {r : FindResource} {store : MemoryStore} {request : Request}
    {page : ResultPage} (h : r.getData store request = .ok page) :
    ∃ query countFilter n, r.queries request = .ok (query, countFilter) ∧
      store.count r.collection countFilter = .ok n ∧ page.total = saturate n ∧
      ∀ item ∈ page.items, ∃ d ∈ store.accepted r.collection query.filter, ∃ shown,
        MemoryStore.present query.projection d = .ok shown ∧
          Shape.one r.dateFormat shown = .ok item := by
  rw [getData_eq, bind_eq_ok] at h
  obtain ⟨⟨query, countFilter⟩, hqueries, h⟩ := h
  obtain ⟨rows, hrows, h⟩ := bind_eq_ok.mp h
  obtain ⟨documents, hdocuments, h⟩ := bind_eq_ok.mp h
  obtain ⟨items, hitems, h⟩ := bind_eq_ok.mp h
  obtain ⟨n, hn, h⟩ := bind_eq_ok.mp h
  obtain rfl := Except.ok.inj h
  refine ⟨query, countFilter, n, hqueries, stored_eq_ok.mp hn, rfl, ?_⟩
  intro item hitem
  obtain ⟨shown, hshown, hone⟩ := (mem_mapM_iff (Shape.mapM_one hitems)).mp hitem
  obtain ⟨d, hd, hpresent⟩ := (mem_mapM_iff (stored_eq_ok.mp hdocuments)).mp hshown
  have hrow : d ∈ rows := ((List.take_sublist _ _).trans (List.drop_sublist _ _)).subset hd
  exact ⟨d, (MemoryStore.rows_perm (stored_eq_ok.mp hrows)).subset hrow, shown, hpresent, hone⟩

/-- Without leave a native query plays no part. -/
theorem getData_nativeQuery {r : FindResource} (h : r.allowNative = false)
    (store : MemoryStore) (request : Request) (native : Option Document) :
    r.getData store { request with nativeQuery := native } = r.getData store request := by
  have hnative : ∀ request, r.native request = none := fun request => by
    unfold FindResource.native
    simp [h]
  have hconditions := Compiler.conditions_request r.columns
    { request with nativeQuery := native } request r.textSearch rfl rfl rfl
  have hqueries : r.queries { request with nativeQuery := native } = r.queries request := by
    unfold queries withNative compiler
    simp only [hnative, hconditions]
    rfl
  unfold getData
  rw [hqueries]
  rfl

/-- A request can only narrow what a resource exposes: every item of a page shows a stored
document that matches the base filter, and the native query if one is used; the total, if it
is counted by the resource's own query, is at most the number of such documents; and a native
query that is not allowed changes nothing, be the answer a page or a refusal. -/
theorem requests_narrow_base (r : FindResource) (base : Document) (store : MemoryStore)
    (request : Request) :
    let index := (store.collection r.collection).textIndex
    (∀ page, (r.guarded base).getData store request = .ok page →
      (∀ item ∈ page.items, ∃ d ∈ (store.collection r.collection).documents,
        Matcher.filter index d base = .ok true ∧
        (r.allowNative = true → ∀ native, request.nativeQuery = some native →
          Matcher.filter index d native = .ok true) ∧
        ∃ shown, MemoryStore.present r.base.projection d = .ok shown ∧
          Shape.one r.dateFormat shown = .ok item) ∧
      (r.countBase = none → page.total.toNat ≤ (r.exposed store request base).length)) ∧
    (r.allowNative = false → ∀ native,
      (r.guarded base).getData store { request with nativeQuery := native } =
        (r.guarded base).getData store request) := by
  intro index
  refine ⟨?_, fun h => getData_nativeQuery (r := r.guarded base) h store request⟩
  intro page hpage
  obtain ⟨query, countFilter, n, hqueries, hcount, htotal, hitems⟩ := mem_items hpage
  refine ⟨?_, ?_⟩
  · intro item hitem
    obtain ⟨d, hd, shown, hpresent, hone⟩ := hitems item hitem
    obtain ⟨hstored, haccepts⟩ := List.mem_filter.mp hd
    obtain ⟨hbase, hnative⟩ := exposed_of_accepts hqueries (Matcher.accepts_iff.mp haccepts)
    refine ⟨d, hstored, hbase, ?_, shown, ?_, hone⟩
    · intro hallow native hquery
      refine hnative native ?_
      rw [FindResource.native, if_pos hallow, hquery]
    · have hprojection : query.projection = r.base.projection :=
        ((narrows_queries hqueries).trans (narrows_withNative (r.guarded base) request)).trans
          (QueryBuilder.narrows_matchFilter r.base base) |>.projection
      rwa [hprojection] at hpresent
  · intro hbase
    obtain rfl := count_filter (r := r.guarded base) hbase hqueries
    have hn := MemoryStore.count_eq_ok hcount
    rw [htotal, toNat_saturate, hn]
    exact Nat.le_trans (Nat.min_le_left _ _) (length_accepted_le hqueries store)

/-- Only books by one author are for clients. -/
def byAusten : Document := Compile.compare "author" "$eq" (.string "Austen")

/-- A shelf that honours native queries. -/
def openShelf : FindResource := { plain "books" .shelf with allowNative := true }

/-- A native query for one book. -/
def emmaAlone : Request :=
  { Request.default with nativeQuery := some (Compile.compare "title" "$eq" (.string "Emma")) }

theorem select_emmaAlone :
    Matcher.select none (Compile.combine "$and"
      [byAusten, Compile.compare "title" "$eq" (.string "Emma")])
        (MemoryStore.library.collection "books").documents =
      .ok [[("title", .string "Emma"), ("author", .string "Austen")]] := by
  have hdocuments : (MemoryStore.library.collection "books").documents =
      [[("title", .string "Emma"), ("author", .string "Austen")],
        [("title", .string "Cecilia"), ("author", .string "Burney")],
        [("title", .string "Persuasion"), ("author", .string "Austen")]] := rfl
  have hauthor : startsWithDollar "author" = false := rfl
  have htitle : startsWithDollar "title" = false := rfl
  simp only [hdocuments, Matcher.select, Matcher.filter_and, allM_cons, byAusten,
    Matcher.filter_eq hauthor, Matcher.filter_eq htitle]
  rfl

/-- There is one such book, on the page and in the total; and without leave the native query
is not used. -/
theorem requests_narrow_base_emmaAlone :
    let emma : Document := [("title", .string "Emma"), ("author", .string "Austen")]
    (openShelf.guarded byAusten).getData .library emmaAlone = .ok ⟨[emma], 1⟩ ∧
      openShelf.countBase = none ∧ openShelf.allowNative = true ∧
      (∃ d ∈ (MemoryStore.library.collection "books").documents,
        Matcher.filter none d byAusten = .ok true ∧
        Matcher.filter none d (Compile.compare "title" "$eq" (.string "Emma")) = .ok true ∧
        ∃ shown, MemoryStore.present none d = .ok shown ∧
          Shape.one Shape.dateTimeUtc shown = .ok emma) ∧
      1 ≤ (openShelf.exposed .library emmaAlone byAusten).length ∧
      (plain "books" .shelf).allowNative = false ∧
      ((plain "books" .shelf).guarded byAusten).getData .library emmaAlone =
        ((plain "books" .shelf).guarded byAusten).getData .library .default := by
  intro emma
  have hrows := (bind_pure _).trans select_emmaAlone
  have hcount : MemoryStore.library.count "books" (Compile.combine "$and"
      [byAusten, Compile.compare "title" "$eq" (.string "Emma")]) = .ok 1 :=
    bind_eq_ok.mpr ⟨_, select_emmaAlone, rfl⟩
  have hpage : (openShelf.guarded byAusten).getData .library emmaAlone = .ok ⟨[emma], 1⟩ := by
    rw [getData_eq]
    refine bind_eq_ok.mpr ⟨_, rfl, ?_⟩
    refine bind_eq_ok.mpr ⟨_, stored_eq_ok.mpr hrows, ?_⟩
    refine bind_eq_ok.mpr ⟨_, rfl, ?_⟩
    refine bind_eq_ok.mpr ⟨_, rfl, ?_⟩
    exact bind_eq_ok.mpr ⟨_, stored_eq_ok.mpr hcount, rfl⟩
  obtain ⟨hitems, htotal⟩ :=
    (requests_narrow_base openShelf byAusten .library emmaAlone).1 _ hpage
  obtain ⟨d, hd, hbase, hnative, hshown⟩ := hitems emma (List.mem_singleton_self emma)
  exact ⟨hpage, rfl, rfl, ⟨d, hd, hbase, hnative rfl _ rfl, hshown⟩, htotal rfl, rfl,
    (requests_narrow_base (plain "books" .shelf) byAusten .library .default).2 rfl _⟩

end FindResource
end DataGrid
