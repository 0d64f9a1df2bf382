import DataGrid.Columns.Predicate
import DataGrid.Proofs.Builder.Calls
import DataGrid.Proofs.Store.Matching
import DataGrid.Proofs.Store.Stages

/-!
# DataGrid.Proofs.Builder.Conjunction -- filters are conjoined alike

A query builder joins its filters into one document and drops those that ask for nothing; a
pipeline builder makes a stage of each; a predicate joins the clauses of a callback. On one
document all of them ask for the filters one after the other, up to the first that does not
hold. On a collection a query asks all filters of a document before it goes on to the next,
while a stage asks its filter of all documents that are left. The two may therefore come to
different failures, but they find the same documents or fail together.
-/

namespace DataGrid

open Fallible Store

/-! ## On one document -/

namespace QueryBuilder

variable {index : TextIndex} {d : Document}

/-- A query asks for its filters one after the other. -/
theorem filter_eq_allM (index : TextIndex) (d : Document) (b : QueryBuilder) :
    Matcher.filter index d b.filter = b.filters.allM (Matcher.filter index d) := by
  unfold filter
  rcases b.filters with _ | ⟨first, _ | ⟨second, rest⟩⟩
  · rw [Matcher.filter_nil]
    rfl
  · rw [allM_cons]
    rcases Matcher.filter index d first with e | _ | _ <;> rfl
  · exact Matcher.filter_and index d _

theorem filter_holds_iff {b : QueryBuilder} :
    Matcher.filter index d b.filter = .ok true ↔
      ∀ filter ∈ b.filters, Matcher.filter index d filter = .ok true := by
  rw [filter_eq_allM, allM_eq_true_iff]

/-- Filters that ask for something are collected in their order. -/
theorem run_matchFilter (b : QueryBuilder) (filters : List Document) :
    Builder.run b (filters.map .matchFilter) =
      { b with filters := b.filters ++ filters.filter fun filter => !filter.isEmpty } := by
  induction filters generalizing b with
  | nil => simp
  | cons filter rest ih =>
    have hcall : Builder.call b (.matchFilter filter) = b.matchFilter filter := rfl
    rw [List.map_cons, Builder.run_cons, ih, hcall, matchFilter]
    cases filter with
    | nil => rfl
    | cons clause clauses => simp

/-- A query of filters has neither an order, nor a window, nor a projection. -/
theorem toQuery_run_matchFilter (filters : List Document) :
    let query := Builder.run QueryBuilder.empty (filters.map .matchFilter)
    query.toQuery = ⟨query.filter, none, none, none, none⟩ := by
  intro query
  unfold query
  rw [run_matchFilter]
  rfl

/-- What was dropped would have held. -/
theorem allM_filled (index : TextIndex) (d : Document) (filters : List Document) :
    (filters.filter fun filter => !filter.isEmpty).allM (Matcher.filter index d) =
      filters.allM (Matcher.filter index d) := by
  induction filters with
  | nil => rfl
  | cons filter rest ih =>
    cases filter with
    | nil =>
      rw [List.filter_cons_of_neg (by simp), ih, allM_cons, Matcher.filter_nil]
      rfl
    | cons clause clauses =>
      rw [List.filter_cons_of_pos (by simp), allM_cons, allM_cons, ih]

theorem filter_run_matchFilter (index : TextIndex) (d : Document) (filters : List Document) :
    Matcher.filter index d (Builder.run QueryBuilder.empty (filters.map .matchFilter)).filter =
      filters.allM (Matcher.filter index d) := by
  rw [filter_eq_allM, run_matchFilter]
  exact allM_filled index d filters

end QueryBuilder

namespace Predicate

theorem clauses_foldl_add (p : Predicate) (clauses : List Document) :
    (clauses.foldl add p).clauses = p.clauses ++ clauses := by
  induction clauses generalizing p with
  | nil => simp
  | cons clause rest ih =>
    rw [List.foldl_cons, ih]
    simp [add]

/-- A predicate asks for its clauses as a query for its filters; nothing written asks for
nothing. -/
theorem filter_toDocument? (index : TextIndex) (d : Document) (p : Predicate) :
    Matcher.filter index d (p.toDocument?.getD []) = p.clauses.allM (Matcher.filter index d) := by
  have hquery : p.toDocument?.getD [] =
      ({ QueryBuilder.empty with filters := p.clauses } : QueryBuilder).filter := by
    unfold toDocument? QueryBuilder.filter
    rcases p.clauses with _ | ⟨first, _ | ⟨second, rest⟩⟩ <;> rfl
  rw [hquery, QueryBuilder.filter_eq_allM]

end Predicate

/-! ## On a collection -/

namespace Store.Matcher

variable {index : TextIndex}

theorem accepts_and_cons (index : TextIndex) (first : Document) (rest : List Document)
    (d : Document) : accepts index (Compile.combine "$and" (first :: rest)) d =
      (accepts index first d && accepts index (Compile.combine "$and" rest) d) := by
  unfold accepts
  rw [filter_and, filter_and, allM_cons]
  rcases filter index d first with e | _ | _
  · rfl
  · rfl
  · exact (Bool.true_and _).symm

/-- A conjunction has an answer when its first filter has one and, if that holds, the others
have one together. -/
theorem answers_and_cons {first : Document} {rest : List Document} {d : Document} :
    (∃ holds, filter index d (Compile.combine "$and" (first :: rest)) = .ok holds) ↔
      (∃ holds, filter index d first = .ok holds) ∧ (accepts index first d = true →
        ∃ holds, filter index d (Compile.combine "$and" rest) = .ok holds) := by
  unfold accepts
  rw [filter_and, filter_and, allM_cons]
  rcases filter index d first with e | _ | _ <;> simp

/-- To select by filters one after the other is to select by their conjunction, but for which
failure comes first. By induction on the filters: the documents on which the others are asked
are those that the first accepts. -/
theorem foldlM_select_eq_ok_iff {filters documents kept : List Document} :
    filters.foldlM (fun rows spec => select index spec rows) documents = .ok kept ↔
      select index (Compile.combine "$and" filters) documents = .ok kept := by
  induction filters generalizing documents with
  | nil =>
    have hnothing : select index (Compile.combine "$and" []) documents = .ok documents := by
      rw [← select_nil index documents]
      refine select_congr fun d _ => ?_
      rw [filter_and, filter_nil]
      rfl
    rw [List.foldlM_nil, hnothing]
    rfl
  | cons first rest ih =>
    have hkept : (documents.filter (accepts index first)).filter
        (accepts index (Compile.combine "$and" rest)) =
          documents.filter (accepts index (Compile.combine "$and" (first :: rest))) := by
      rw [List.filter_filter]
      refine List.filter_congr fun d _ => ?_
      rw [accepts_and_cons, Bool.and_comm]
    rw [List.foldlM_cons, bind_eq_ok]
    simp only [ih, select_eq_ok_iff, answers_and_cons]
    constructor
    · rintro ⟨middle, ⟨hfirst, rfl⟩, hrest, rfl⟩
      refine ⟨fun d hd => ⟨hfirst d hd, fun haccepts => ?_⟩, hkept⟩
      exact hrest d (List.mem_filter.mpr ⟨hd, haccepts⟩)
    · rintro ⟨hall, rfl⟩
      refine ⟨_, ⟨fun d hd => (hall d hd).1, rfl⟩, fun d hd => ?_, hkept.symm⟩
      obtain ⟨hd, haccepts⟩ := List.mem_filter.mp hd
      exact (hall d hd).2 haccepts

end Store.Matcher

namespace MemoryStore

/-- Without an order, rows are a selection; a collection that is not there has none. -/
theorem rows_unsorted (s : MemoryStore) (name : String) (filter : Document) :
    s.rows name filter none =
      Matcher.select (s.collection name).textIndex filter (s.collection name).documents := by
  unfold rows collection
  cases Keyed.get? s.collections name with
  | none => rfl
  | some source => exact bind_pure _

/-- Without a window and a projection a query finds its rows. -/
theorem find_rows (s : MemoryStore) (name : String) (filter : Document) (sort : Option Document) :
    s.find name ⟨filter, sort, none, none, none⟩ = s.rows name filter sort := by
  rw [find_eq]
  simp only [mapM_present]
  exact bind_pure _

/-- The stages of filters select by one after the other. -/
theorem aggregate_matchFilter (s : MemoryStore) (name : String) (filters : List Document) :
    s.aggregate name (Builder.run PipelineBuilder.empty (filters.map .matchFilter)).stages =
      filters.foldlM (fun rows spec => Matcher.select (s.collection name).textIndex spec rows)
        (s.collection name).documents := by
  rw [PipelineBuilder.run_calls]
  show s.aggregate name ([] ++ _) = _
  rw [List.nil_append, aggregate_calls, List.foldlM_map]
  rfl

/-- A query of filters selects by their conjunction. -/
theorem find_matchFilter (s : MemoryStore) (name : String) (filters : List Document) :
    s.find name (Builder.run QueryBuilder.empty (filters.map .matchFilter)).toQuery =
      Matcher.select (s.collection name).textIndex (Compile.combine "$and" filters)
        (s.collection name).documents := by
  rw [QueryBuilder.toQuery_run_matchFilter, find_rows, rows_unsorted]
  refine Matcher.select_congr fun d _ => ?_
  rw [Matcher.filter_and]
  exact QueryBuilder.filter_run_matchFilter _ d filters

/-- The query finds what the stages leave. -/
theorem find_matchFilter_eq_ok_iff {s : MemoryStore} {name : String} {filters : List Document}
    {documents : List Document} :
    s.find name (Builder.run QueryBuilder.empty (filters.map .matchFilter)).toQuery =
        .ok documents ↔
      s.aggregate name (Builder.run PipelineBuilder.empty (filters.map .matchFilter)).stages =
        .ok documents := by
  rw [find_matchFilter, aggregate_matchFilter]
  exact Matcher.foldlM_select_eq_ok_iff.symm

end MemoryStore

/-- Filters that are put into a query, or into a pipeline, ask for the same. On every document
the query's filter answers as the filters do from left to right, up to the first that does not
hold or fails. On every collection the query finds the documents that the stages leave, in the
same order, or both fail. And clauses that are written to a predicate hold together exactly when
every one of them holds. -/
theorem filters_conjoin_alike (filters : List Document) :
    let query := Builder.run QueryBuilder.empty (filters.map .matchFilter)
    let pipeline := Builder.run PipelineBuilder.empty (filters.map .matchFilter)
    let predicate := filters.foldl Predicate.add .empty
    (∀ index d, Matcher.filter index d query.filter = filters.allM (Matcher.filter index d)) ∧
    (∀ (store : MemoryStore) (name : String),
      (∃ documents, store.find name query.toQuery = .ok documents ∧
        store.aggregate name pipeline.stages = .ok documents) ∨
      (∃ e e', store.find name query.toQuery = .error e ∧
        store.aggregate name pipeline.stages = .error e')) ∧
    ∀ index d, Matcher.filter index d (predicate.toDocument?.getD []) = .ok true ↔
      ∀ clause ∈ filters, Matcher.filter index d clause = .ok true := by
  intro query pipeline predicate
  refine ⟨fun index d => QueryBuilder.filter_run_matchFilter index d filters, ?_, ?_⟩
  · intro store name
    have hagree : ∀ documents, store.find name query.toQuery = .ok documents ↔
        store.aggregate name pipeline.stages = .ok documents := fun documents =>
      MemoryStore.find_matchFilter_eq_ok_iff
    rcases hfound : store.find name query.toQuery with e | documents
    · rcases hleft : store.aggregate name pipeline.stages with e' | documents
      · exact .inr ⟨e, e', rfl, rfl⟩
      · rw [(hagree documents).mpr hleft] at hfound
        cases hfound
    · exact .inl ⟨documents, rfl, (hagree documents).mp hfound⟩
  · intro index d
    have hclauses : predicate.clauses = filters := Predicate.clauses_foldl_add .empty filters
    rw [Predicate.filter_toDocument?, hclauses, allM_eq_true_iff]

end DataGrid
