import DataGrid.Document.Value

/-!
# DataGrid.Builder.Basic -- what a compiler may ask of a builder

Compiling a request produces calls, and a builder turns calls into something that a store
can run. Calls are data, so that what was asked, in which order, can be stated without
regard to who asked and of whom.
-/

namespace DataGrid

/-- One call. -/
inductive BuilderCall where
  /-- Keep only documents that match a filter. -/
  | matchFilter (filter : Document)
  /-- Add computed fields. -/
  | addFields (fields : Document)
  /-- Sort by keys with directions 1 and -1. -/
  | sort (keys : Document)
  /-- Remove computed fields. -/
  | unset (names : List String)
  | skip (count : UInt64)
  | limit (count : UInt64)

/-- Something that takes calls. -/
class Builder (β : Type) where
  call : β → BuilderCall → β

namespace Builder

variable {β : Type} [Builder β]

/-- Makes calls one after the other. -/
def run (builder : β) (calls : List BuilderCall) : β := calls.foldl call builder

@[simp] theorem run_nil (builder : β) : run builder [] = builder := rfl

@[simp] theorem run_cons (builder : β) (c : BuilderCall) (calls : List BuilderCall) :
    run builder (c :: calls) = run (call builder c) calls := rfl

@[simp] theorem run_append (builder : β) (first second : List BuilderCall) :
    run builder (first ++ second) = run (run builder first) second := by
  simp [run, List.foldl_append]

end Builder
end DataGrid
