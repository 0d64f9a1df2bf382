import DataGrid.Proofs.Resource.Aggregation
import DataGrid.Proofs.Resource.Find

/-!
# DataGrid.Proofs.Resource.Agreement -- one answer by two ways

A collection can be read by a find query or by a pipeline. Without sort callbacks, and with
condition callbacks that leave the builder alone, both take the rows of the same calls and
cut the same window out of them, so both give the same page. They compile sortations and
conditions in opposite order, so they can only differ in which of two refusals they name.
-/

namespace DataGrid

open Fallible Store Compiler

/-- Without sort callbacks nothing but fields is computed. -/
theorem Columns.fieldsOnly_of_nil {c : Columns} (h : c.sortCallbacks = []) : c.FieldsOnly := by
  intro column callback hget
  rw [h] at hget
  cases hget

namespace QueryBuilder

/-- The query of compiled calls: one filter, and the keys of a plan. -/
theorem run_compiled (filters : List Document) {plan : Compile.SortPlan}
    (distinct : Keyed.DistinctKeys plan.keys) :
    Builder.run (Builder.run QueryBuilder.empty
      (if plan.keys.isEmpty then [] else [.sort plan.keys]))
        ((conjunction filters).map .matchFilter) =
      ⟨conjunction filters, if plan.keys.isEmpty then none else some plan.keys,
        none, none, none⟩ := by
  rw [run_conjunction]
  cases hkeys : plan.keys with
  | nil => rfl
  | cons first rest =>
    rw [hkeys] at distinct
    have hmerge : (first :: rest).foldl (fun done key => Keyed.insert done key.1 key.2) [] =
        first :: rest := Keyed.foldl_insert [] distinct
    show (⟨_, some ((first :: rest).foldl _ []), none, none, none⟩ : QueryBuilder) = _
    rw [hmerge]
    rfl

theorem filter_conjunction {filters : List Document} {b : QueryBuilder}
    (h : b.filters = conjunction filters) : b.filter = asked filters := by
  unfold filter asked
  rw [h]
  cases filters <;> rfl

end QueryBuilder

/-- Matching and sorting by a query is performing the calls that it was compiled from. -/
theorem Compiler.rows_eq_query {c : Compiler} (sink : c.columns.PredicateOnly)
    {filters : List Document} (hfilters : c.conjuncts = .ok filters) {plan : Compile.SortPlan}
    (sound : plan.Sound c.columns)
    (hcalls : c.sortations.calls = if plan.keys.isEmpty then [] else [.sort plan.keys])
    (store : MemoryStore) (name : String) :
    store.rows name (asked filters) (if plan.keys.isEmpty then none else some plan.keys) =
      c.rows store name := by
  obtain ⟨keys, hkeys, -⟩ := Compile.keys_of_directed sound.directed
  unfold MemoryStore.rows Compiler.rows
  rw [List.foldlM_append, perform_conditions sink hfilters, hcalls]
  unfold MemoryStore.collection
  cases Keyed.get? store.collections name with
  | none =>
    -- nothing is there to be sorted, but the keys are read all the same
    show Except.ok [] = (List.foldlM _ [] _ : Except StoreError (List Document))
    split
    · rfl
    · rw [List.foldlM_cons, BuilderCall.perform, Sorting.sort_eq, hkeys]
      rfl
  | some source =>
    refine bind_congr fun matched => ?_
    cases plan.keys.isEmpty with
    | true => rfl
    | false => exact (bind_pure _).symm

namespace FindResource

/-- A plain resource finds the rows of the calls that a pipeline performs. -/
theorem plain_getData_eq {columns : Columns} (sink : columns.PredicateOnly)
    (callbacks : columns.sortCallbacks = []) (store : MemoryStore) (name : String)
    (request : Request) :
    let c : Compiler := ⟨columns, request, false⟩
    let r := plain name columns
    r.getData store request = (c.sortations.result >>= fun _ =>
      c.conditions.result >>= fun _ =>
      r.stored (c.rows store name) >>= fun rows =>
      Shape.documents (request.window rows) r.dateFormat >>= fun items =>
      .ok ⟨items, saturate rows.length⟩) := by
  intro c r
  rw [getData_eq]
  have hqueries : r.queries request = (c.sortations.result >>= fun _ =>
      c.conditions.result >>= fun _ =>
      .ok (Builder.run (Builder.run QueryBuilder.empty c.sortations.calls) c.conditions.calls,
        (Builder.run (Builder.run QueryBuilder.empty c.sortations.calls)
          c.conditions.calls).filter)) := rfl
  rw [hqueries]
  rcases hsort : c.sortations.result with e | ⟨⟩
  · rfl
  rcases hfilters : c.conjuncts with e | filters
  · rw [conditions_result, hfilters]
    rfl
  obtain ⟨plan, hplan, hcalls⟩ := sortations_calls callbacks hsort
  have hsound := Compile.sound_sortPlan hplan
  have hrows := rows_eq_query sink hfilters hsound hcalls store name
  rw [conditions_result, hfilters, conditions_calls sink hfilters, hcalls,
    QueryBuilder.run_compiled filters hsound.distinct, map_ok, ok_bind, ok_bind, ok_bind,
    ok_bind, ok_bind, QueryBuilder.filter_conjunction rfl, ← hrows]
  have hname : r.collection = name := rfl
  rcases hfound : store.rows name (asked filters) _ with e | rows
  · rw [hname, hfound]
    rfl
  · have hcount := (MemoryStore.length_rows hfound).2
    rw [hname, hfound]
    simp only [MemoryStore.mapM_present, hcount]
    rfl

end FindResource

/-- A find query and a pipeline over one collection give the same page or both refuse, and
unless there are two things to refuse they give the same refusal. -/
theorem MemoryStore.find_agrees_with_pipeline {columns : Columns} (sink : columns.PredicateOnly)
    (callbacks : columns.sortCallbacks = []) {store : MemoryStore} {name : String}
    (bounded : (store.collection name).documents.length < 0x8000000000000000)
    (request : Request) :
    let c : Compiler := ⟨columns, request, false⟩
    let found := (FindResource.plain name columns).getData store request
    let piped := (AggregationResource.plain name columns).getData store request
    ((∃ page, found = .ok page ∧ piped = .ok page) ∨
      ∃ refusal other, found = .error refusal ∧ piped = .error other) ∧
    (¬ (c.RefusesConditions ∧ c.RefusesSortations) → found = piped) := by
  intro c found piped
  obtain ⟨answer, hfound, hpiped⟩ : ∃ answer : Except GridError ResultPage,
      found = (c.sortations.result >>= fun _ => c.conditions.result >>= fun _ => answer) ∧
      piped = (c.conditions.result >>= fun _ => c.sortations.result >>= fun _ => answer) :=
    ⟨_, FindResource.plain_getData_eq sink callbacks store name request,
      AggregationResource.getData_eq (AggregationResource.plain_ordinary name columns) sink
        (Columns.fieldsOnly_of_nil callbacks) bounded request⟩
  rw [hfound, hpiped, ← conditions_fail_iff, ← sortations_fail_iff]
  exact check_comm c.sortations.result c.conditions.result answer

/-- A store with three books. -/
def MemoryStore.library : MemoryStore :=
  ⟨[("books", ⟨[[("title", .string "Emma"), ("author", .string "Austen")],
    [("title", .string "Cecilia"), ("author", .string "Burney")],
    [("title", .string "Persuasion"), ("author", .string "Austen")]], none⟩)], (⟨.ofNat 96 ·⟩), 3⟩

/-- The books by title, two on a page. -/
def Request.byTitle : Request :=
  { Request.default with orderBy := [⟨"title", .ascending⟩], itemsPerPage := 2 }

/-- Books by one author, by title, the second page of one book each. -/
def Request.secondBook : Request :=
  { Request.default with
    filter := [[⟨some "author", some .eq, some (.string "Austen")⟩]]
    orderBy := [⟨"title", .descending⟩]
    page := 2
    itemsPerPage := 1 }

theorem MemoryStore.find_agrees_with_pipeline_shelf :
    let found := (FindResource.plain "books" Columns.shelf).getData library
    let piped := (AggregationResource.plain "books" Columns.shelf).getData library
    Columns.shelf.PredicateOnly ∧ Columns.shelf.sortCallbacks = [] ∧
      (library.collection "books").documents.length < 0x8000000000000000 ∧
      ¬ ((⟨Columns.shelf, .secondBook, false⟩ : Compiler).RefusesConditions ∧
        (⟨Columns.shelf, .secondBook, false⟩ : Compiler).RefusesSortations) ∧
      found .secondBook = piped .secondBook ∧
      ∃ items, found .byTitle = .ok ⟨items, 3⟩ ∧ piped .byTitle = .ok ⟨items, 3⟩ := by
  intro found piped
  have hbounded : (library.collection "books").documents.length < 0x8000000000000000 := by decide
  have hone : ∀ request : Request, (∀ sortation ∈ request.orderBy, sortation.column = "title") →
      ¬ ((⟨Columns.shelf, request, false⟩ : Compiler).RefusesConditions ∧
        (⟨Columns.shelf, request, false⟩ : Compiler).RefusesSortations) := by
    rintro request htitle ⟨-, sortation, hmem, hnone⟩
    rw [htitle sortation hmem] at hnone
    cases hnone
  have hsecond := hone .secondBook (by decide)
  have hagree := find_agrees_with_pipeline Columns.shelf_predicateOnly rfl hbounded
  have hfound : found .byTitle = .ok ⟨_, 3⟩ :=
    (FindResource.plain_getData_eq Columns.shelf_predicateOnly rfl _ _ _).trans rfl
  exact ⟨Columns.shelf_predicateOnly, rfl, hbounded, hsecond, (hagree .secondBook).2 hsecond,
    _, hfound, ((hagree .byTitle).2 (hone .byTitle (by decide))).symm.trans hfound⟩

end DataGrid
