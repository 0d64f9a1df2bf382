import DataGrid.Proofs.Fallible
import DataGrid.Proofs.Store.Rows
import DataGrid.Store.Pipeline

/-!
# DataGrid.Proofs.Store.RowNumbers -- stages make no rows

No stage has more rows behind it than in front of it: selecting and cutting drop rows,
groups are not more than the documents in them, a count is one row over documents that are
there. Stages that sort, compute, remove, project or join keep the number as it is. So do
whole pipelines.
-/

namespace DataGrid.Store

open Fallible

/-! ## Groups -/

namespace Grouping

/-- One document opens one group at most. -/
theorem length_addTo_le (fields : List Field) (key : Value) (values : List (Option Value))
    (groups : List Group) : (addTo fields key values groups).length ≤ groups.length + 1 := by
  induction groups with
  | nil => exact Nat.le_refl 1
  | cons group rest ih =>
    rw [addTo]
    split
    · simp
    · simpa using ih

/-- By induction on the documents: every one adds at most one to the groups so far. -/
theorem length_collect_le {fields : List Field} {key : Value} {documents : List Document}
    {groups collected : List Group} (h : collect fields key groups documents = .ok collected) :
    collected.length ≤ groups.length + documents.length := by
  induction documents generalizing groups with
  | nil =>
    obtain rfl := Except.ok.inj h
    simp
  | cons d rest ih =>
    rw [collect, bind_eq_ok] at h
    obtain ⟨value, -, h⟩ := h
    obtain ⟨values, -, h⟩ := bind_eq_ok.mp h
    have hrest := ih h
    have hfirst := length_addTo_le fields (value.getD .null) values groups
    rw [List.length_cons]
    omega

theorem length_group_le {spec : Document} {documents rows : List Document}
    (h : group spec documents = .ok rows) : rows.length ≤ documents.length := by
  unfold group at h
  split at h
  · cases h
  · obtain ⟨fields, -, h⟩ := bind_eq_ok.mp h
    obtain ⟨groups, hgroups, h⟩ := bind_eq_ok.mp h
    obtain rfl := Except.ok.inj h
    rw [List.length_map]
    simpa using length_collect_le hgroups

end Grouping

/-! ## Stages -/

namespace Pipeline

theorem length_count_le {documents rows : List Document} {spec : Value}
    (h : count documents spec = .ok rows) : rows.length ≤ documents.length := by
  unfold count at h
  split at h
  · split at h
    · cases h
    · split at h
      · obtain rfl := Except.ok.inj h
        exact Nat.zero_le _
      · next hsome =>
        -- the row of the count stands for one document at least
        obtain rfl := Except.ok.inj h
        exact List.length_pos_iff.mpr fun hnil => hsome (by rw [hnil]; rfl)
  · cases h

/-- The names of stages that keep the number of rows. -/
def rowKeeping : List String := ["$sort", "$addFields", "$set", "$unset", "$project", "$lookup"]

/-- A stage that keeps rows and does not sort is one function, document by document. -/
theorem stage_eq_mapM {context : Context} {name : String} {spec : Value}
    {documents rows : List Document} (hname : name ∈ rowKeeping) (hsort : name ≠ "$sort")
    (h : stage context name spec documents = .ok rows) :
    ∃ make : Document → Except StoreError Document,
      ∀ documents, stage context name spec documents = documents.mapM make := by
  unfold stage at h ⊢
  split at h
  · -- `$match`
    exact absurd hname (by decide)
  · -- `$sort`
    exact absurd rfl hsort
  · -- `$skip`
    exact absurd hname (by decide)
  · -- `$limit`
    exact absurd hname (by decide)
  · -- `$addFields`
    obtain ⟨fields, hfields, -⟩ := bind_eq_ok.mp h
    exact ⟨fun d => addFields d fields, fun _ => by simp only [hfields, ok_bind]⟩
  · -- `$set`
    obtain ⟨fields, hfields, -⟩ := bind_eq_ok.mp h
    exact ⟨fun d => addFields d fields, fun _ => by simp only [hfields, ok_bind]⟩
  · -- `$unset`
    obtain ⟨names, hnames, -⟩ := bind_eq_ok.mp h
    refine ⟨fun d => .ok (unset names d), fun documents => ?_⟩
    rw [mapM_eq_ok_map fun _ _ => rfl]
    simp only [hnames, ok_bind, pure_eq_ok]
  · -- `$project`
    obtain ⟨projection, hprojection, -⟩ := bind_eq_ok.mp h
    exact ⟨Projection.project projection, fun _ => by simp only [hprojection, ok_bind]⟩
  · -- `$count`
    exact absurd hname (by decide)
  · -- `$group`
    exact absurd hname (by decide)
  · -- `$lookup`
    obtain ⟨fields, hfields, h⟩ := bind_eq_ok.mp h
    obtain ⟨source, hsource, h⟩ := bind_eq_ok.mp h
    obtain ⟨localField, hlocal, h⟩ := bind_eq_ok.mp h
    obtain ⟨foreignField, hforeign, h⟩ := bind_eq_ok.mp h
    obtain ⟨target, htarget, -⟩ := bind_eq_ok.mp h
    let foreign := ((Keyed.get? context.collections source).getD .empty).documents
    refine ⟨fun d => .ok (join foreign (Path.ofText localField) (Path.ofText foreignField)
      (Path.ofText target) d), fun documents => ?_⟩
    rw [mapM_eq_ok_map fun _ _ => rfl]
    simp only [hfields, lookup, hsource, hlocal, hforeign, htarget, ok_bind, pure_eq_ok]
    rfl
  · -- no stage has that name
    cases h

theorem length_stage_of_rowKeeping {context : Context} {name : String} {spec : Value}
    {documents rows : List Document} (hname : name ∈ rowKeeping)
    (h : stage context name spec documents = .ok rows) : rows.length = documents.length := by
  by_cases hsort : name = "$sort"
  · subst hsort
    obtain ⟨keys, -, h⟩ := bind_eq_ok.mp h
    exact Sorting.length_sort h
  · obtain ⟨make, hmake⟩ := stage_eq_mapM hname hsort h
    rw [hmake] at h
    exact length_of_mapM h

/-- By the name of the stage: it makes no row. -/
theorem length_stage_le {context : Context} {name : String} {spec : Value}
    {documents rows : List Document} (h : stage context name spec documents = .ok rows) :
    rows.length ≤ documents.length := by
  by_cases hname : name ∈ rowKeeping
  · exact Nat.le_of_eq (length_stage_of_rowKeeping hname h)
  unfold stage at h
  split at h
  · -- `$match`
    obtain ⟨filter, -, h⟩ := bind_eq_ok.mp h
    exact Matcher.length_select_le h
  · exact absurd (by decide) hname
  · -- `$skip`
    obtain ⟨count, -, h⟩ := bind_eq_ok.mp h
    obtain rfl := Except.ok.inj h
    rw [List.length_drop]
    omega
  · -- `$limit`
    obtain ⟨count, -, h⟩ := bind_eq_ok.mp h
    cases count with
    | zero => cases h
    | succ limit =>
      obtain rfl := Except.ok.inj h
      exact List.length_take_le' _ _
  · exact absurd (by decide) hname
  · exact absurd (by decide) hname
  · exact absurd (by decide) hname
  · exact absurd (by decide) hname
  · -- `$count`
    exact length_count_le h
  · -- `$group`
    obtain ⟨keys, -, h⟩ := bind_eq_ok.mp h
    exact Grouping.length_group_le h
  · exact absurd (by decide) hname
  · -- no stage has that name
    cases h

/-! ## Stages in a row -/

/-- A stage that keeps the number of rows. -/
def KeepsNumber (stage : Document) : Prop := ∀ name spec, stage = [(name, spec)] → name ∈ rowKeeping

/-- The first stage of a run that succeeds has one field and has succeeded. -/
theorem run_cons_eq_ok {context : Context} {first : Document} {rest documents rows : List Document}
    (h : run context (first :: rest) documents = .ok rows) :
    ∃ name spec middle, first = [(name, spec)] ∧
      stage context name spec documents = .ok middle ∧ run context rest middle = .ok rows := by
  rcases first with _ | ⟨⟨name, spec⟩, _ | ⟨second, others⟩⟩
  · cases h
  · rw [run, bind_eq_ok] at h
    obtain ⟨middle, hmiddle, h⟩ := h
    exact ⟨name, spec, middle, rfl, hmiddle, h⟩
  · cases h

/-- By induction on the stages: a pipeline makes no row, and one of stages that keep rows loses
none. -/
theorem length_run {context : Context} {stages documents rows : List Document}
    (h : run context stages documents = .ok rows) :
    rows.length ≤ documents.length ∧
      ((∀ stage ∈ stages, KeepsNumber stage) → rows.length = documents.length) := by
  induction stages generalizing documents with
  | nil =>
    obtain rfl := Except.ok.inj h
    exact ⟨Nat.le_refl _, fun _ => rfl⟩
  | cons first rest ih =>
    obtain ⟨name, spec, middle, hfirst, hstage, hrest⟩ := run_cons_eq_ok h
    obtain ⟨hrestle, hrestkeeps⟩ := ih hrest
    refine ⟨Nat.le_trans hrestle (length_stage_le hstage), fun hall => ?_⟩
    obtain ⟨hname, hothers⟩ := List.forall_mem_cons.mp hall
    rw [hrestkeeps hothers, length_stage_of_rowKeeping (hname name spec hfirst) hstage]

end Pipeline
end DataGrid.Store
