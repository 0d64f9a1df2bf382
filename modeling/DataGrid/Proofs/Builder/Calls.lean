import DataGrid.Builder.Pipeline
import DataGrid.Builder.Query

/-!
# DataGrid.Proofs.Builder.Calls -- what builders make of calls

A pipeline builder turns calls into stages one by one, so calls in a row are stages in a
row. A query builder never takes a filter back and never touches its projection, so a query
only becomes narrower, whoever makes the calls.
-/

namespace DataGrid

namespace PipelineBuilder

theorem run_calls (b : PipelineBuilder) (calls : List BuilderCall) :
    Builder.run b calls = ⟨b.stages ++ calls.map stageOf⟩ := by
  induction calls generalizing b with
  | nil => simp
  | cons c rest ih =>
    rw [Builder.run_cons, ih]
    simp [Builder.call, addStage]

end PipelineBuilder

namespace QueryBuilder

/-- A query asks for everything that another asks for, and shows the same fields. -/
structure Narrows (narrow wide : QueryBuilder) : Prop where
  filters : wide.filters <+: narrow.filters
  projection : narrow.projection = wide.projection

theorem Narrows.refl (b : QueryBuilder) : b.Narrows b := ⟨List.prefix_refl _, rfl⟩

theorem Narrows.trans {first second third : QueryBuilder} (h : first.Narrows second)
    (h' : second.Narrows third) : first.Narrows third :=
  ⟨h'.filters.trans h.filters, h.projection.trans h'.projection⟩

theorem narrows_matchFilter (b : QueryBuilder) (filter : Document) :
    (b.matchFilter filter).Narrows b := by
  unfold matchFilter
  split
  · exact Narrows.refl b
  · exact ⟨List.prefix_append _ _, rfl⟩

/-- By cases on the call: only a filter changes the filters, and it is added behind them. -/
theorem narrows_call (b : QueryBuilder) (c : BuilderCall) : (Builder.call b c).Narrows b := by
  cases c with
  | matchFilter filter => exact narrows_matchFilter b filter
  | addFields fields => exact Narrows.refl b
  | sort keys => exact ⟨List.prefix_refl _, rfl⟩
  | unset names => exact Narrows.refl b
  | skip count => exact ⟨List.prefix_refl _, rfl⟩
  | limit count => exact ⟨List.prefix_refl _, rfl⟩

theorem narrows_run (b : QueryBuilder) (calls : List BuilderCall) :
    (Builder.run b calls).Narrows b := by
  induction calls generalizing b with
  | nil => exact Narrows.refl b
  | cons c rest ih =>
    rw [Builder.run_cons]
    exact (ih _).trans (narrows_call b c)

end QueryBuilder
end DataGrid
