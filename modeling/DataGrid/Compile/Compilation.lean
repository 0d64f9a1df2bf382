import DataGrid.Builder.Basic
import DataGrid.Error

/-!
# DataGrid.Compile.Compilation -- calls that survive failure

Compiling makes builder calls on its way and may fail in the middle. The calls that were
made before the failure have been made, so a compilation is the list of its calls together
with a result, and a step after a failure adds nothing.
-/

namespace DataGrid

structure Compilation (α : Type) where
  calls : List BuilderCall
  result : Except GridError α

namespace Compilation

variable {α β : Type}

/-- A result without calls. -/
def done (value : α) : Compilation α := ⟨[], .ok value⟩

/-- A failure without calls. -/
def fail (e : GridError) : Compilation α := ⟨[], .error e⟩

/-- Calls without a result. -/
def emit (calls : List BuilderCall) : Compilation Unit := ⟨calls, .ok ()⟩

/-- What may fail but makes no calls. -/
def lift (result : Except GridError α) : Compilation α := ⟨[], result⟩

/-- One compilation behind another, unless the first fails. -/
def bind (first : Compilation α) (next : α → Compilation β) : Compilation β :=
  match first.result with
  | .ok value => ⟨first.calls ++ (next value).calls, (next value).result⟩
  | .error e => ⟨first.calls, .error e⟩

instance : Monad Compilation where
  pure := done
  bind := bind

/-- Compiles the items of a list in order, up to the first failure. -/
def forEach (compile : α → Compilation β) : List α → Compilation (List β)
  | [] => done []
  | item :: rest => do
    let first ← compile item
    let others ← forEach compile rest
    return first :: others

/-- Makes the calls on a builder; the result stays. -/
def run {γ : Type} [Builder γ] (c : Compilation α) (builder : γ) : γ × Except GridError α :=
  (Builder.run builder c.calls, c.result)

end Compilation
end DataGrid
