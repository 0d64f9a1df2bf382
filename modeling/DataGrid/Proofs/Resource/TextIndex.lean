import DataGrid.Proofs.Compile.Acceptance
import DataGrid.Proofs.Resource.Exposure

/-!
# DataGrid.Proofs.Resource.TextIndex -- when a missing text index is noticed

A resource that searches by the text index compiles to the query that it would have without,
with the clause of the index behind all others. Without an index that clause fails on every
document it is asked of, and it is asked only of a document that all other clauses accept. So
whether a missing index is reported depends on the data: the first document on which the
others do not answer no decides. A collection in which there is no such document, the empty
one for instance, shows the page that a search without the index would show.
-/

namespace DataGrid

open Fallible Compilation Compile Store

/-! ## Filters that end in the text index -/

namespace Store.Matcher

/-- Evaluating a filter on documents one by one comes to one that it accepts: those in front
of it are turned down, and none makes the filter fail. -/
def Reaches (index : TextIndex) (spec : Document) (documents : List Document) : Prop :=
  ∃ before d after, documents = before ++ d :: after ∧
    (∀ other ∈ before, filter index other spec = .ok false) ∧ filter index d spec = .ok true

/-- Without an index a filter fails on the documents that another accepts, and is like the other
on all the rest. -/
def AsksIndexBehind (spec others : Document) : Prop :=
  ∀ d, filter none d spec =
    (filter none d others >>= fun holds => if holds then .error .textIndexRequired else .ok false)

variable {index : TextIndex} {spec others d : Document} {rest documents : List Document}

theorem reaches_cons_of_true (h : filter index d spec = .ok true) :
    Reaches index spec (d :: rest) :=
  ⟨[], d, rest, rfl, by simp, h⟩

theorem reaches_cons_of_false (h : filter index d spec = .ok false)
    (hrest : Reaches index spec rest) : Reaches index spec (d :: rest) := by
  obtain ⟨before, found, after, rfl, hbefore, hfound⟩ := hrest
  exact ⟨d :: before, found, after, rfl, List.forall_mem_cons.mpr ⟨h, hbefore⟩, hfound⟩

/-- By induction on the documents in front of the one that is reached. -/
theorem AsksIndexBehind.select_of_reaches (h : AsksIndexBehind spec others)
    (hreached : Reaches none others documents) :
    select none spec documents = .error .textIndexRequired := by
  obtain ⟨before, d, after, rfl, hbefore, hd⟩ := hreached
  induction before with
  | nil =>
    rw [List.nil_append, select, h d, hd]
    rfl
  | cons first before ih =>
    obtain ⟨hfirst, hbefore⟩ := List.forall_mem_cons.mp hbefore
    rw [List.cons_append, select, h first, hfirst, ih hbefore]
    rfl

/-- Where no document is reached the filters select alike: nothing, or they fail alike. -/
theorem AsksIndexBehind.select_of_not_reaches (h : AsksIndexBehind spec others)
    (hnone : ¬ Reaches none others documents) :
    select none spec documents = select none others documents := by
  induction documents with
  | nil => rfl
  | cons d rest ih =>
    rw [select, select, h d]
    rcases hd : filter none d others with e | _ | _
    · rfl
    · have hrest := ih fun hreached => hnone (reaches_cons_of_false hd hreached)
      rw [hrest]
      rfl
    · exact absurd (reaches_cons_of_true hd) hnone

end Store.Matcher

namespace MemoryStore

variable {store : MemoryStore} {name : String} {spec others : Document}

theorem rows_of_reaches (hindex : (store.collection name).textIndex = none)
    (h : Matcher.AsksIndexBehind spec others)
    (hreached : Matcher.Reaches none others (store.collection name).documents)
    (sort : Option Document) : store.rows name spec sort = .error .textIndexRequired := by
  unfold collection at hindex hreached
  unfold MemoryStore.rows
  cases hsource : Keyed.get? store.collections name with
  | none =>
    rw [hsource] at hreached
    obtain ⟨before, d, after, hempty, -⟩ := hreached
    cases before <;> cases hempty
  | some source =>
    rw [hsource] at hindex hreached
    have hselect := h.select_of_reaches hreached
    simp only [show source.textIndex = none from hindex]
    rw [show Matcher.select none spec source.documents = _ from hselect]
    rfl

theorem rows_of_not_reaches (hindex : (store.collection name).textIndex = none)
    (h : Matcher.AsksIndexBehind spec others)
    (hnone : ¬ Matcher.Reaches none others (store.collection name).documents)
    (sort : Option Document) : store.rows name spec sort = store.rows name others sort := by
  unfold collection at hindex hnone
  unfold MemoryStore.rows
  cases hsource : Keyed.get? store.collections name with
  | none => rfl
  | some source =>
    rw [hsource] at hindex hnone
    simp only [show source.textIndex = none from hindex]
    rw [show Matcher.select none spec source.documents = _ from h.select_of_not_reaches hnone]

end MemoryStore

/-! ## The clause of the index stands behind all others -/

namespace QueryBuilder

variable {filters : List Document} {term : String}

/-- One query is like another but for a filter that asks for the text index behind it. -/
structure AsksIndexBehind (b others : QueryBuilder) : Prop where
  sort : b.sort = others.sort
  projection : b.projection = others.projection
  filter : Matcher.AsksIndexBehind b.filter others.filter

/-- The conjunction is collected last, and the index is the last that it asks for. -/
theorem asksIndexBehind_matchFilter (b : QueryBuilder) (filters : List Document) (term : String) :
    (b.matchFilter (combine "$and" (filters ++ [Compile.textSearch term]))).AsksIndexBehind
      (b.matchFilter (combine "$and" filters)) := by
  refine ⟨rfl, rfl, fun d => ?_⟩
  have htext : Matcher.filter none d (Compile.textSearch term) = .error .textIndexRequired := by
    rw [Compile.textSearch, Matcher.filter_single, Matcher.clause, Matcher.searchText]
  have hcollected : ∀ filters, (b.matchFilter (combine "$and" filters)).filters =
      b.filters ++ [combine "$and" filters] := fun _ => rfl
  rw [filter_eq_allM, filter_eq_allM, hcollected, hcollected]
  simp only [allM_append, allM_cons, Matcher.filter_and, htext]
  rcases b.filters.allM (Matcher.filter none d) with e | _ | _
  · rfl
  · rfl
  · rcases filters.allM (Matcher.filter none d) with e | _ | _ <;> rfl

end QueryBuilder

namespace Compiler

/-- The compiler that leaves the text index alone. -/
def unindexed (c : Compiler) : Compiler := { c with textSearch := false }

variable {c : Compiler} {term : String}

theorem groups_unindexed (c : Compiler) : c.unindexed.groups = c.groups :=
  groups_columns c.unindexed c rfl

theorem searchGroups_indexed (asked : c.textSearch = true)
    (hterm : c.request.searchTerm = some term) :
    c.searchGroups.calls = c.unindexed.searchGroups.calls ∧ c.searchGroups.result =
      c.unindexed.searchGroups.result.map (· ++ [Compile.textSearch term]) := by
  have hplain : c.unindexed.searchGroups =
      (search c.columns term >>= fun group => .done [group]) := by
    rw [searchGroups, show c.unindexed.request.searchTerm = some term from hterm]
    rfl
  have htext : c.searchGroups =
      (search c.columns term >>= fun group => .done [group, Compile.textSearch term]) := by
    rw [searchGroups, hterm, asked]
    rfl
  rw [hplain, htext, result_bind, result_bind]
  rcases hsearch : (search c.columns term).result with e | group
  · rw [calls_bind_of_error hsearch, calls_bind_of_error hsearch]
    exact ⟨rfl, rfl⟩
  · rw [calls_bind_of_ok hsearch, calls_bind_of_ok hsearch]
    exact ⟨rfl, rfl⟩

theorem conjuncts_indexed (asked : c.textSearch = true)
    (hterm : c.request.searchTerm = some term) {filters : List Document}
    (h : c.unindexed.conjuncts = .ok filters) :
    c.conjuncts = .ok (filters ++ [Compile.textSearch term]) := by
  obtain ⟨groups, search, hgroups, hsearch, rfl⟩ := conjuncts_eq_ok_iff.mp h
  rw [groups_unindexed] at hgroups
  have htext := (searchGroups_indexed asked hterm).2
  rw [hsearch] at htext
  exact conjuncts_eq_ok_iff.mpr ⟨groups, _, hgroups, htext, (List.append_assoc _ _ _)⟩

/-- Both compilers make the same calls up to the last one, which conjoins. -/
theorem conditions_run_indexed (asked : c.textSearch = true)
    (hterm : c.request.searchTerm = some term)
    (ok : c.unindexed.conditions.result = .ok ()) (b : QueryBuilder) :
    ∃ narrow others, c.conditions.run b = (narrow, .ok ()) ∧
      c.unindexed.conditions.run b = (others, .ok ()) ∧ narrow.AsksIndexBehind others := by
  obtain ⟨filters, hfilters, -⟩ := map_eq_ok.mp (c.unindexed.conditions_result ▸ ok)
  have hindexed := conjuncts_indexed asked hterm hfilters
  have hresult : c.conditions.result = .ok () := by
    rw [conditions_result, hindexed]
    rfl
  -- a search leaves something to conjoin
  have hconjoined : conjunction filters = [combine "$and" filters] := by
    have hsearch : c.unindexed.request.hasSearch = true := by
      rw [Request.hasSearch, show c.unindexed.request.searchTerm = some term from hterm]
      rfl
    have hne := conjuncts_isEmpty hfilters
    rw [hsearch, Bool.or_true] at hne
    rw [conjunction, hne]
    rfl
  have hconjoinedText : conjunction (filters ++ [Compile.textSearch term]) =
      [combine "$and" (filters ++ [Compile.textSearch term])] := by
    cases filters <;> rfl
  unfold Compilation.run
  rw [ok, hresult, conditions_calls_of_ok hfilters, conditions_calls_of_ok hindexed, hconjoined,
    hconjoinedText, groups_unindexed,
    (searchGroups_indexed asked hterm).1]
  simp only [Builder.run_append]
  exact ⟨_, _, rfl, rfl, QueryBuilder.asksIndexBehind_matchFilter _ _ _⟩

end Compiler

namespace FindResource

/-- The resource that leaves the text index alone. -/
def unindexed (r : FindResource) : FindResource := { r with textSearch := false }

variable {r : FindResource} {request : Request} {term : String}

/-- The queries with and without the text index. -/
theorem queries_indexed (asked : r.textSearch = true) (hterm : request.searchTerm = some term)
    (valid : (r.compiler request).Acceptable) :
    ∃ query countFilter others counted, r.queries request = .ok (query, countFilter) ∧
      r.unindexed.queries request = .ok (others, counted) ∧ query.AsksIndexBehind others ∧
      Matcher.AsksIndexBehind countFilter counted := by
  let c := r.compiler request
  have hplain : c.unindexed.Acceptable := ⟨valid.conditions, valid.search, valid.sortations⟩
  have hrun := Compiler.conditions_run_indexed (c := c) asked hterm hplain.conditions_eq_ok
  obtain ⟨query, others, hquery, hothers, hbehind⟩ := hrun (r.sorted request)
  obtain ⟨counting, countingOthers, hcounting, hcountingOthers, hcountBehind⟩ :=
    hrun (r.uncounted request)
  refine ⟨query, counting.filter, others, countingOthers.filter, ?_, ?_, hbehind,
    hcountBehind.filter⟩
  · rw [queries_eq, valid.sortations_eq_ok, valid.conditions_eq_ok, ok_bind, ok_bind, hquery,
      hcounting]
  · rw [queries_eq]
    show (c.unindexed.sortations.result >>= fun _ => c.unindexed.conditions.result >>= fun _ =>
      .ok ((c.unindexed.conditions.run (r.sorted request)).1,
        (c.unindexed.conditions.run (r.uncounted request)).1.filter)) = _
    rw [hplain.sortations_eq_ok, hplain.conditions_eq_ok, ok_bind, ok_bind, hothers,
      hcountingOthers]

/-- A search by the text index compiles, and finds what a search without the index finds. Where
there is no index it is reported missing when the query for the data reaches a document without
the index, or when a page is found and the query for the total reaches one; when neither does,
the answer is that of the search without the index. -/
theorem missing_index_reported (r : FindResource) (asked : r.textSearch = true)
    (store : MemoryStore) (missing : (store.collection r.collection).textIndex = none)
    (request : Request) (searching : request.hasSearch = true)
    (valid : (r.compiler request).Acceptable) :
    let documents := (store.collection r.collection).documents
    ∃ others counted, r.unindexed.queries request = .ok (others, counted) ∧
      (Matcher.Reaches none others.filter documents →
        r.getData store request = .error (.missingSearchIndex r.columns.resource)) ∧
      (∀ page, r.unindexed.getData store request = .ok page →
        Matcher.Reaches none counted documents →
        r.getData store request = .error (.missingSearchIndex r.columns.resource)) ∧
      (¬ Matcher.Reaches none others.filter documents → ¬ Matcher.Reaches none counted documents →
        r.getData store request = r.unindexed.getData store request) := by
  intro documents
  obtain ⟨term, hterm⟩ := Option.isSome_iff_exists.mp searching
  obtain ⟨query, countFilter, others, counted, hqueries, hothers, hquery, hcount⟩ :=
    queries_indexed asked hterm valid
  have hreported : r.stored (.error .textIndexRequired) =
      (.error (.missingSearchIndex r.columns.resource) : Except GridError (List Document)) := rfl
  have hdata : Matcher.Reaches none others.filter documents →
      r.getData store request = .error (.missingSearchIndex r.columns.resource) := by
    intro hreached
    rw [getData_eq, hqueries, ok_bind,
      MemoryStore.rows_of_reaches missing hquery.filter hreached, hreported]
    rfl
  refine ⟨others, counted, hothers, hdata, ?_, ?_⟩
  · intro page hpage hreached
    by_cases hfirst : Matcher.Reaches none others.filter documents
    · exact hdata hfirst
    -- the page is found as it is without the index, and then the count fails
    rw [getData_eq, hothers, ok_bind] at hpage
    obtain ⟨rows, hrows, hpage⟩ := bind_eq_ok.mp hpage
    obtain ⟨shown, hshown, hpage⟩ := bind_eq_ok.mp hpage
    obtain ⟨items, hitems, -⟩ := bind_eq_ok.mp hpage
    have hcounting : store.count r.collection countFilter = .error .textIndexRequired := by
      rw [MemoryStore.count_eq_rows, MemoryStore.rows_of_reaches missing hcount hreached]
      rfl
    rw [getData_eq, hqueries, ok_bind,
      MemoryStore.rows_of_not_reaches missing hquery.filter hfirst, hquery.sort,
      hquery.projection, hcounting]
    change r.stored (store.rows r.collection others.filter others.sort) = .ok rows at hrows
    change r.stored ((request.window rows).mapM (MemoryStore.present others.projection)) =
      .ok shown at hshown
    change Shape.documents shown r.dateFormat = .ok items at hitems
    rw [hrows, ok_bind, hshown, ok_bind, hitems, ok_bind]
    rfl
  · intro hnone hnoneCounted
    rw [getData_eq, getData_eq, hqueries, hothers, ok_bind, ok_bind,
      MemoryStore.rows_of_not_reaches missing hquery.filter hnone, hquery.sort, hquery.projection,
      MemoryStore.count_eq_rows, MemoryStore.rows_of_not_reaches missing hcount hnoneCounted,
      ← MemoryStore.count_eq_rows]
    rfl

/-- The shelf, searched by the text index. -/
def indexedShelf : FindResource := { plain "books" .shelf with textSearch := true }

/-- A search for an author. -/
def byName (name : String) : Request := { Request.default with search := some name }

/-- What the shelf asks of a book in such a search, but for the index. -/
def writtenBy (name : String) : Document :=
  combine "$or" [Compile.compare "author" "$eq" (.string name)]

theorem acceptable_byName (name : String) :
    (indexedShelf.compiler (byName name)).Acceptable := by
  refine ⟨?_, ?_, ?_⟩
  · intro group hgroup
    cases hgroup
  · intro term _ _
    refine ⟨List.cons_ne_nil _ _, fun column hcolumn => ?_⟩
    obtain rfl := List.mem_singleton.mp hcolumn
    rfl
  · intro sortation hsortation
    cases hsortation

theorem filter_writtenBy (index : TextIndex) (d : Document) (name : String) :
    Matcher.filter index d (writtenBy name) =
      .ok (Matcher.equals (d.lookupText "author") (.string name)) := by
  rw [writtenBy, Matcher.filter_or, anyM_cons, Matcher.filter_eq rfl]
  cases Matcher.equals (d.lookupText "author") (.string name) <;> rfl

/-- The first book is by the author that is searched for. -/
theorem missing_index_reported_shelf : indexedShelf.textSearch = true ∧
    (MemoryStore.library.collection "books").textIndex = none ∧
    (byName "Austen").hasSearch = true ∧ (indexedShelf.compiler (byName "Austen")).Acceptable ∧
    indexedShelf.getData .library (byName "Austen") = .error (.missingSearchIndex "shelf") := by
  obtain ⟨others, counted, hothers, hreported, -⟩ :=
    missing_index_reported indexedShelf rfl .library rfl (byName "Austen") rfl
      (acceptable_byName "Austen")
  refine ⟨rfl, rfl, rfl, acceptable_byName _, hreported (Matcher.reaches_cons_of_true ?_)⟩
  have hcompiled : indexedShelf.unindexed.queries (byName "Austen") =
      .ok (⟨[combine "$and" [writtenBy "Austen"]], none, none, none, none⟩, _) := rfl
  obtain ⟨rfl, -⟩ := Prod.mk.inj (Except.ok.inj (hcompiled.symm.trans hothers))
  show Matcher.filter none _ (combine "$and" [writtenBy "Austen"]) = .ok true
  rw [Matcher.filter_and, allM_cons, filter_writtenBy]
  rfl

/-- With no book by the author that is searched for, or with no books at all, the missing index
goes unnoticed. -/
theorem missing_index_unnoticed : indexedShelf.textSearch = true ∧
    (MemoryStore.library.collection "books").textIndex = none ∧
    (byName "Fielding").hasSearch = true ∧
    (indexedShelf.compiler (byName "Fielding")).Acceptable ∧
    indexedShelf.getData .library (byName "Fielding") = .ok ⟨[], 0⟩ ∧
    indexedShelf.getData (.new (⟨.ofNat 96 ·⟩)) (byName "Austen") = .ok ⟨[], 0⟩ := by
  refine ⟨rfl, rfl, rfl, acceptable_byName _, ?_, rfl⟩
  have hselect : Matcher.select none
      (combine "$and" [writtenBy "Fielding", Compile.textSearch "Fielding"])
        (MemoryStore.library.collection "books").documents = .ok [] := by
    have hdocuments : (MemoryStore.library.collection "books").documents =
        [[("title", .string "Emma"), ("author", .string "Austen")],
          [("title", .string "Cecilia"), ("author", .string "Burney")],
          [("title", .string "Persuasion"), ("author", .string "Austen")]] := rfl
    simp only [hdocuments, Matcher.select, Matcher.filter_and, allM_cons, filter_writtenBy]
    rfl
  have hcount : MemoryStore.library.count "books"
      (combine "$and" [writtenBy "Fielding", Compile.textSearch "Fielding"]) = .ok 0 :=
    bind_eq_ok.mpr ⟨_, hselect, rfl⟩
  rw [getData_eq]
  refine bind_eq_ok.mpr ⟨_, rfl, ?_⟩
  refine bind_eq_ok.mpr ⟨[], stored_eq_ok.mpr ((bind_pure _).trans hselect), ?_⟩
  refine bind_eq_ok.mpr ⟨[], rfl, bind_eq_ok.mpr ⟨[], rfl, ?_⟩⟩
  exact bind_eq_ok.mpr ⟨0, stored_eq_ok.mpr hcount, rfl⟩

end FindResource

end DataGrid
