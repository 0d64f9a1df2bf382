import DataGrid.Builder.Pipeline
import DataGrid.Compile.Compiler
import DataGrid.Resource.Count
import DataGrid.Resource.Find

/-!
# DataGrid.Resource.Aggregation -- resources answered by a pipeline

Such a resource builds two pipelines, one for the data and one that the total is counted
over, out of compiled steps and stages of its own. Both are built before anything runs.
The counting pipeline is run only when the size of the collection is not known to be the
total.
-/

namespace DataGrid

/-- How a resource builds a pipeline: from the compiler, what it does to a builder, and the
failure it may end in. -/
abbrev PipelineRecipe := Compiler → PipelineBuilder → PipelineBuilder × Except GridError Unit

structure AggregationResource where
  collection : String
  columns : Columns
  dateFormat : String
  /-- The pipeline for the data. -/
  pipeline : PipelineRecipe
  /-- The pipeline that the total is counted over. -/
  countPipeline : PipelineRecipe

namespace AggregationResource

/-- A resource whose pipelines are the compiled request alone. -/
def plain (collection : String) (columns : Columns) : AggregationResource :=
  ⟨collection, columns, Shape.dateTimeUtc, fun c b => c.apply.run b, fun c b => c.conditions.run b⟩

/-- A failure of the store, as a failure of the resource. -/
def stored {α : Type} (r : AggregationResource) (result : Except StoreError α) :
    Except GridError α :=
  result.mapError fun cause => .ofStore cause r.columns.resource

/-- The stage that counts the documents before it. -/
def countStage : Document := [("$count", .string Count.fieldName)]

/-- The stages of a recipe. -/
def stages (recipe : PipelineRecipe) (c : Compiler) : Except GridError (List Document) := do
  let (builder, result) := recipe c .empty
  result
  return builder.stages

/-- One page of the resource. -/
def getData (r : AggregationResource) (store : MemoryStore) (request : Request) :
    Except GridError ResultPage := do
  let c : Compiler := ⟨r.columns, request, false⟩
  let data ← stages r.pipeline c
  let counting ← stages r.countPipeline c
  let documents ← r.stored (store.aggregate r.collection data)
  let items ← Shape.documents documents r.dateFormat
  match Count.decide data request.hasFilter request.hasSearch with
  | .fast => do
    let total ← r.stored (store.count r.collection [])
    return ⟨items, saturate total⟩
  | .aggregate => do
    let rows ← r.stored (store.aggregate r.collection (counting ++ [countStage]))
    return ⟨items, Count.read rows⟩

end AggregationResource
end DataGrid
