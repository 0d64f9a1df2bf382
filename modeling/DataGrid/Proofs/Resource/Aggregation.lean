import DataGrid.Proofs.Builder.Calls
import DataGrid.Proofs.Compile.Conditions
import DataGrid.Proofs.Compile.Sortations
import DataGrid.Proofs.Resource.Counting

/-!
# DataGrid.Proofs.Resource.Aggregation -- the page of a pipeline in steps

A resource whose pipelines are the compiled request alone performs the calls of the
conditions and of the sortations, cuts the window of the request out of the rows that
result, and reports their number. Both ways of counting give that number: a request that
narrows nothing has as many rows as the collection has documents, and otherwise the
counting pipeline performs the calls that decide how many rows there are.
-/

namespace DataGrid

open Fallible Store Compiler

/-- Sort callbacks compute fields and do nothing else. -/
def Columns.FieldsOnly (c : Columns) : Prop :=
  ∀ column callback, Keyed.get? c.sortCallbacks column = some callback →
    ∀ call ∈ callback.calls, ∃ fields, call = .addFields fields

namespace Compiler

theorem keepsRows_sortations {c : Compiler} (fieldsOnly : c.columns.FieldsOnly)
    (h : c.sortations.result = .ok ()) :
    ∀ call ∈ c.sortations.calls, Pipeline.KeepsRows call := by
  obtain ⟨plan, hplan, hcalls⟩ := sortations_eq_ok h
  intro call hcall
  rw [hcalls] at hcall
  rcases List.mem_append.mp hcall with hcall | hcall
  · obtain ⟨column, callback, hget, hmem, -⟩ := Compile.named_calls_sortPlan hplan hcall
    obtain ⟨fields, rfl⟩ := fieldsOnly column callback hget call hmem
    trivial
  · split at hcall
    · cases hcall
    · rcases List.mem_cons.mp hcall with rfl | hcall
      · trivial
      · split at hcall
        · cases hcall
        · obtain rfl := List.mem_singleton.mp hcall
          trivial

/-- What the calls of a compiled request make of a collection, up to the window. -/
def rows (c : Compiler) (store : MemoryStore) (name : String) :
    Except StoreError (List Document) :=
  (c.conditions.calls ++ c.sortations.calls).foldlM
    (BuilderCall.perform ⟨store.collections, (store.collection name).textIndex⟩)
      (store.collection name).documents

/-- The calls of the conditions select the documents that are asked for. -/
theorem perform_conditions {c : Compiler} (sink : c.columns.PredicateOnly)
    {filters : List Document} (h : c.conjuncts = .ok filters) (context : Pipeline.Context)
    (documents : List Document) :
    c.conditions.calls.foldlM (BuilderCall.perform context) documents =
      Matcher.select context.textIndex (asked filters) documents := by
  rw [conditions_calls sink h]
  cases filters with
  | nil => exact (Matcher.select_nil _ _).symm
  | cons first rest => exact bind_pure _

/-- The rows of a request are what its conditions leave, sorted. -/
theorem rows_eq_ok {c : Compiler} {store : MemoryStore} {name : String} {rows : List Document}
    (h : c.rows store name = .ok rows) :
    let context : Pipeline.Context := ⟨store.collections, (store.collection name).textIndex⟩
    ∃ matched, c.conditions.calls.foldlM (BuilderCall.perform context)
        (store.collection name).documents = .ok matched ∧
      c.sortations.calls.foldlM (BuilderCall.perform context) matched = .ok rows := by
  unfold Compiler.rows at h
  rw [List.foldlM_append, bind_eq_ok] at h
  exact h

theorem length_rows {c : Compiler} (sink : c.columns.PredicateOnly)
    (fieldsOnly : c.columns.FieldsOnly) {filters : List Document}
    (hfilters : c.conjuncts = .ok filters) (hsort : c.sortations.result = .ok ())
    {store : MemoryStore} {name : String} {rows : List Document}
    (h : c.rows store name = .ok rows) :
    ∃ matched, Matcher.select (store.collection name).textIndex (asked filters)
        (store.collection name).documents = .ok matched ∧
      rows.length = matched.length := by
  obtain ⟨matched, hmatched, h⟩ := rows_eq_ok h
  rw [perform_conditions sink hfilters] at hmatched
  exact ⟨matched, hmatched, Pipeline.length_foldlM (keepsRows_sortations fieldsOnly hsort) h⟩

/-- A request that is compiled as a whole is compiled step by step. -/
theorem apply_eq_ok {c : Compiler} (h : c.apply.result = .ok ()) :
    c.conditions.result = .ok () ∧ c.sortations.result = .ok () := by
  rw [Compiler.apply, Compilation.result_bind, bind_eq_ok] at h
  obtain ⟨⟨⟩, hcond, h⟩ := h
  rw [Compilation.result_bind, bind_eq_ok] at h
  obtain ⟨⟨⟩, hsort, -⟩ := h
  exact ⟨hcond, hsort⟩

/-- The window is called last. -/
theorem apply_calls {c : Compiler} (hcond : c.conditions.result = .ok ())
    (hsort : c.sortations.result = .ok ()) :
    c.apply.calls = (c.conditions.calls ++ c.sortations.calls) ++
      [.skip c.request.offset, .limit c.request.pageSize] := by
  rw [Compiler.apply, Compilation.calls_bind_of_ok hcond, Compilation.calls_bind_of_ok hsort,
    List.append_assoc]
  rfl

end Compiler

namespace AggregationResource

theorem stored_bind {α β : Type} (r : AggregationResource) (x : Except StoreError α)
    (next : α → Except StoreError β) :
    r.stored (x >>= next) = (r.stored x >>= fun a => r.stored (next a)) :=
  mapError_bind x next _

/-- Both pipelines are the compiled request alone. -/
structure Ordinary (r : AggregationResource) : Prop where
  pipeline : r.pipeline = fun c b => c.apply.run b
  countPipeline : r.countPipeline = fun c b => c.conditions.run b

theorem plain_ordinary (collection : String) (columns : Columns) :
    (plain collection columns).Ordinary := ⟨rfl, rfl⟩

def compiler (r : AggregationResource) (request : Request) : Compiler :=
  ⟨r.columns, request, false⟩

/-- A recipe that compiles ends in the stages of the calls. -/
theorem stages_run (step : Compiler → Compilation Unit) (c : Compiler) :
    stages (fun c b => (step c).run b) c =
      (step c).result.map fun _ => (step c).calls.map PipelineBuilder.stageOf := by
  have hstages := PipelineBuilder.run_calls .empty (step c).calls
  show ((step c).result >>= fun _ =>
    .ok (Builder.run PipelineBuilder.empty (step c).calls).stages) = _
  rw [hstages]
  cases (step c).result <;> rfl

/-- The two ways of counting. -/
def total (r : AggregationResource) (store : MemoryStore) (request : Request)
    (data counting : List Document) : Except GridError UInt64 :=
  match Count.decide data request.hasFilter request.hasSearch with
  | .fast => (r.stored (store.count r.collection [])).map saturate
  | .aggregate =>
    (r.stored (store.aggregate r.collection (counting ++ [countStage]))).map Count.read

/-- Either way of counting gives the number of rows. -/
theorem total_eq {r : AggregationResource} (sink : r.columns.PredicateOnly)
    (fieldsOnly : r.columns.FieldsOnly) {store : MemoryStore}
    (bounded : (store.collection r.collection).documents.length < 0x8000000000000000)
    {request : Request} {filters : List Document}
    (hfilters : (r.compiler request).conjuncts = .ok filters)
    (hsort : (r.compiler request).sortations.result = .ok ()) {rows : List Document}
    (h : (r.compiler request).rows store r.collection = .ok rows) (data : List Document) :
    r.total store request data
      ((r.compiler request).conditions.calls.map PipelineBuilder.stageOf) =
        .ok (saturate rows.length) := by
  let c := r.compiler request
  obtain ⟨matched, hmatched, hlength⟩ := Compiler.length_rows sink fieldsOnly hfilters hsort h
  have hle := Matcher.length_select_le hmatched
  unfold total
  split
  · next hfast =>
    -- nothing is narrowed, so every document is a row
    have hempty : filters = [] := by
      have h := conjuncts_isEmpty hfilters
      rw [show c.request = request from rfl, Count.narrows_nothing_of_fast hfast] at h
      exact List.isEmpty_iff.mp h
    rw [hempty, show asked [] = [] from rfl, Matcher.select_nil] at hmatched
    rw [MemoryStore.count_all, hlength, ← Except.ok.inj hmatched]
    rfl
  · have hcounting : store.aggregate r.collection
        (c.conditions.calls.map PipelineBuilder.stageOf) = .ok matched := by
      rw [MemoryStore.aggregate_calls, perform_conditions sink hfilters]
      exact hmatched
    obtain ⟨counted, hcounted, hread⟩ := Count.aggregate_count hcounting (by omega)
    rw [hcounted, hlength]
    exact congrArg Except.ok hread

theorem getData_steps (r : AggregationResource) (store : MemoryStore) (request : Request) :
    let c := r.compiler request
    r.getData store request = (stages r.pipeline c >>= fun data =>
      stages r.countPipeline c >>= fun counting =>
      r.stored (store.aggregate r.collection data) >>= fun documents =>
      Shape.documents documents r.dateFormat >>= fun items =>
      (r.total store request data counting).map fun total => ⟨items, total⟩) := by
  intro c
  unfold getData
  refine bind_congr fun data => bind_congr fun counting => bind_congr fun documents =>
    bind_congr fun items => ?_
  unfold total
  rcases Count.decide data request.hasFilter request.hasSearch with _ | _
  · cases r.stored (store.count r.collection []) <;> rfl
  · cases r.stored (store.aggregate r.collection (counting ++ [countStage])) <;> rfl

/-- A page comes with the two pipelines that it was made by. -/
theorem getData_eq_ok {r : AggregationResource} {store : MemoryStore} {request : Request}
    {page : ResultPage} (h : r.getData store request = .ok page) :
    ∃ data counting, stages r.pipeline (r.compiler request) = .ok data ∧
      stages r.countPipeline (r.compiler request) = .ok counting ∧
      (∃ documents, store.aggregate r.collection data = .ok documents ∧
        Shape.documents documents r.dateFormat = .ok page.items) ∧
      r.total store request data counting = .ok page.total := by
  rw [getData_steps] at h
  obtain ⟨data, hdata, h⟩ := bind_eq_ok.mp h
  obtain ⟨counting, hcounting, h⟩ := bind_eq_ok.mp h
  obtain ⟨documents, hdocuments, h⟩ := bind_eq_ok.mp h
  obtain ⟨items, hitems, h⟩ := bind_eq_ok.mp h
  obtain ⟨total, htotal, rfl⟩ := map_eq_ok.mp h
  exact ⟨data, counting, hdata, hcounting, ⟨documents, mapError_eq_ok.mp hdocuments, hitems⟩,
    htotal⟩

/-- The pipeline for the data makes the rows and cuts the window out of them. -/
theorem aggregate_apply {c : Compiler} (sink : c.columns.PredicateOnly)
    (fieldsOnly : c.columns.FieldsOnly) {store : MemoryStore} {name : String}
    (bounded : (store.collection name).documents.length < 0x8000000000000000)
    {filters : List Document} (hfilters : c.conjuncts = .ok filters)
    (hcond : c.conditions.result = .ok ()) (hsort : c.sortations.result = .ok ()) :
    store.aggregate name (c.apply.calls.map PipelineBuilder.stageOf) =
      (c.rows store name >>= fun rows => .ok (c.request.window rows)) := by
  rw [apply_calls hcond hsort, MemoryStore.aggregate_calls, List.foldlM_append]
  show (c.rows store name >>= _) = _
  rcases hrows : c.rows store name with e | rows
  · rfl
  · obtain ⟨matched, hmatched, hlength⟩ := Compiler.length_rows sink fieldsOnly hfilters hsort hrows
    have hle := Matcher.length_select_le hmatched
    rw [ok_bind, ok_bind, Pipeline.perform_window _ (by omega) c.request.pageSize_ne_zero]
    rfl

/-- A page in steps: conditions, sortations, the two pipelines, shape. -/
theorem getData_compiled {r : AggregationResource} (ordinary : r.Ordinary) (store : MemoryStore)
    (request : Request) :
    let c := r.compiler request
    let data := c.apply.calls.map PipelineBuilder.stageOf
    r.getData store request = (c.conditions.result >>= fun _ => c.sortations.result >>= fun _ =>
      r.stored (store.aggregate r.collection data) >>= fun documents =>
      Shape.documents documents r.dateFormat >>= fun items =>
      (r.total store request data (c.conditions.calls.map PipelineBuilder.stageOf)).map
        fun total => ⟨items, total⟩) := by
  intro c data
  rw [getData_steps, ordinary.pipeline, ordinary.countPipeline, stages_run, stages_run]
  show (c.apply.result.map (fun _ => data) >>= _) = _
  have happly : c.apply.result =
      (c.conditions.result >>= fun _ => c.sortations.result >>= fun _ => .ok ()) := by
    rw [Compiler.apply, Compilation.result_bind]
    refine bind_congr fun _ => ?_
    rw [Compilation.result_bind]
    rfl
  rw [happly]
  rcases c.conditions.result with e | ⟨⟩
  · rfl
  · cases c.sortations.result <;> rfl

/-- A page in steps: conditions, sortations, rows, window, shape. -/
theorem getData_eq {r : AggregationResource} (ordinary : r.Ordinary)
    (sink : r.columns.PredicateOnly) (fieldsOnly : r.columns.FieldsOnly) {store : MemoryStore}
    (bounded : (store.collection r.collection).documents.length < 0x8000000000000000)
    (request : Request) :
    let c := r.compiler request
    r.getData store request = (c.conditions.result >>= fun _ =>
      c.sortations.result >>= fun _ =>
      r.stored (c.rows store r.collection) >>= fun rows =>
      Shape.documents (request.window rows) r.dateFormat >>= fun items =>
      .ok ⟨items, saturate rows.length⟩) := by
  intro c
  rw [getData_compiled ordinary]
  rcases hcond : c.conditions.result with e | ⟨⟩
  · rfl
  rcases hsort : c.sortations.result with e | ⟨⟩
  · rfl
  obtain ⟨filters, hfilters, -⟩ := map_eq_ok.mp (c.conditions_result ▸ hcond)
  have hdata : r.stored (store.aggregate r.collection
      (c.apply.calls.map PipelineBuilder.stageOf)) =
        (r.stored (c.rows store r.collection) >>= fun rows => .ok (request.window rows)) := by
    rw [aggregate_apply sink fieldsOnly bounded hfilters hcond hsort, stored_bind]
    rfl
  rw [ok_bind, ok_bind, ok_bind, ok_bind, hdata]
  rcases hrows : c.rows store r.collection with e | rows
  · rfl
  have htotal := total_eq sink fieldsOnly bounded hfilters hsort hrows
  simp only [htotal, map_ok]
  rfl

end AggregationResource
end DataGrid
