import DataGrid.Proofs.Keyed
import DataGrid.Proofs.Store.Stages

/-!
# DataGrid.Proofs.Store.ComputedFields -- fields that come and go

A name without dots is a key at the top of a document. Removing such names leaves the other
fields as they stand, so whatever is computed under the names in between, the removal sees
the same documents: what is left is what was left before. Documents that have no field of
these names come out as they went in.
-/

namespace DataGrid

open Fallible Store

/-! ## Names -/

theorem Text.splitAt_of_notMem {separator : Char} {cs : List Char} (h : separator ∉ cs) :
    splitAt separator cs = [cs] := by
  induction cs with
  | nil => rfl
  | cons c rest ih =>
    obtain ⟨hne, hrest⟩ := not_or.mp (mt List.mem_cons.mpr h)
    rw [splitAt, if_neg (Ne.symm hne), ih hrest]

/-- A name without dots. -/
def Path.Plain (name : String) : Prop := '.' ∉ name.toList

instance (name : String) : Decidable (Path.Plain name) :=
  inferInstanceAs (Decidable ('.' ∉ name.toList))

theorem Path.ofText_plain {name : String} (h : Plain name) : ofText name = [name] := by
  rw [ofText, Text.splitAt_of_notMem h, List.map_singleton, String.ofList_toList]

/-! ## Removal -/

namespace Store.Pipeline

variable {names : List String}

/-- Removing names filters them out. -/
theorem unset_eq_filter (plain : ∀ name ∈ names, Path.Plain name) (d : Document) :
    unset names d = d.filter fun entry => !names.contains entry.1 := by
  unfold unset
  induction names generalizing d with
  | nil => exact (List.filter_eq_self.mpr fun _ _ => rfl).symm
  | cons name rest ih =>
    obtain ⟨hname, hrest⟩ := List.forall_mem_cons.mp plain
    rw [List.foldl_cons, ih hrest, Path.ofText_plain hname, Document.remove, Keyed.erase,
      List.filter_filter]
    refine List.filter_congr fun entry _ => ?_
    rw [List.contains_cons, Bool.not_or, Bool.and_comm]
    rfl

/-- Names that are not there leave nothing to remove. -/
theorem unset_of_fresh (plain : ∀ name ∈ names, Path.Plain name) {d : Document}
    (fresh : ∀ name ∈ names, name ∉ Keyed.keys d) : unset names d = d := by
  rw [unset_eq_filter plain, List.filter_eq_self]
  intro entry hentry
  have hkey : entry.1 ∉ names := fun hmem => fresh entry.1 hmem (List.mem_map_of_mem hentry)
  simp [hkey]

/-- A field under a name does not show once the name is removed. -/
theorem unset_set (plain : ∀ name ∈ names, Path.Plain name) {name : String} (h : name ∈ names)
    (d : Document) (value : Value) :
    unset names (Document.set d (Path.ofText name) value) = unset names d := by
  have hdropped : (!names.contains name) = false := by simp [h]
  rw [unset_eq_filter plain, unset_eq_filter plain, Path.ofText_plain (plain name h)]
  exact Keyed.filter_insert (fun key => !names.contains key) hdropped d value

/-- By induction on the fields: computing fields under some names is undone by removing the
names, whatever the expressions see of the fields before them. -/
theorem unset_addFields (plain : ∀ name ∈ names, Path.Plain name) {fields : Document}
    (named : ∀ name ∈ Keyed.keys fields, name ∈ names) {d d' : Document}
    (h : addFields d fields = .ok d') : unset names d' = unset names d := by
  induction fields generalizing d with
  | nil => rw [← Except.ok.inj h]
  | cons entry rest ih =>
    obtain ⟨field, expression⟩ := entry
    obtain ⟨hfield, hrest⟩ := List.forall_mem_cons.mp named
    rw [addFields, bind_eq_ok] at h
    obtain ⟨computed, -, h⟩ := h
    cases computed with
    | none => exact ih hrest h
    | some value => rw [ih hrest h, unset_set plain hfield]

/-! ## Calls that compute -/

/-- A call that computes fields under some names and does nothing else. -/
def Computes (names : List String) (call : BuilderCall) : Prop :=
  ∃ fields, call = .addFields fields ∧ ∀ name ∈ Keyed.keys fields, name ∈ names

theorem map_unset_perform (plain : ∀ name ∈ names, Path.Plain name) {context : Context}
    {call : BuilderCall} (h : Computes names call) {documents rows : List Document}
    (hr : call.perform context documents = .ok rows) :
    rows.map (unset names) = documents.map (unset names) := by
  obtain ⟨fields, rfl, named⟩ := h
  exact map_eq_of_mapM (fun _ _ => unset_addFields plain named) hr

/-- Computing fields, over and over, is undone by removing them once. -/
theorem map_unset_foldlM (plain : ∀ name ∈ names, Path.Plain name) {context : Context}
    {calls : List BuilderCall} (h : ∀ call ∈ calls, Computes names call)
    {documents rows : List Document}
    (hr : calls.foldlM (BuilderCall.perform context) documents = .ok rows) :
    rows.map (unset names) = documents.map (unset names) :=
  foldlM_preserves (List.map (unset names))
    (fun call hcall _ _ => map_unset_perform plain (h call hcall)) hr

end Store.Pipeline
end DataGrid
