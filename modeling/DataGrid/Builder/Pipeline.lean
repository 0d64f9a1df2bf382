import DataGrid.Builder.Basic

/-!
# DataGrid.Builder.Pipeline -- calls into aggregation stages

Every call becomes one stage behind those that are there. Counts that do not fit into the
signed integers of a stage become the largest of them.
-/

namespace DataGrid

structure PipelineBuilder where
  stages : List Document

namespace PipelineBuilder

def empty : PipelineBuilder := ⟨[]⟩

/-- Adds a stage as it is. -/
def addStage (b : PipelineBuilder) (stage : Document) : PipelineBuilder := ⟨b.stages ++ [stage]⟩

/-- A count as a signed integer. -/
def countValue (count : UInt64) : Value :=
  .int64 (Int64.ofInt (min (count.toNat : Int) Int64.maxValue.toInt))

/-- The stage of a call. -/
def stageOf : BuilderCall → Document
  | .matchFilter filter => [("$match", .document filter)]
  | .addFields fields => [("$addFields", .document fields)]
  | .sort keys => [("$sort", .document keys)]
  | .unset names => [("$unset", .array (names.map .string))]
  | .skip count => [("$skip", countValue count)]
  | .limit count => [("$limit", countValue count)]

instance : Builder PipelineBuilder where
  call b c := b.addStage (stageOf c)

end PipelineBuilder
end DataGrid
