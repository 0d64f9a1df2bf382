import DataGrid.Proofs.Document.Nesting
import DataGrid.Proofs.Document.Routes
import DataGrid.Resource.Count

/-!
# DataGrid.Proofs.Resource.GroupKeys -- no grouping stage is overlooked

The rows of a pipeline are counted by the pipeline itself when the request narrows them or a stage
names `$group`, be it in a pipeline that is nested in a stage. The search for that key takes every
route through documents and lists and finds it exactly if one of them ends there. So it does not
matter in which order the stages are, nor the fields of a stage, and stages that are added can only
add a key.
-/

namespace DataGrid.Count

/-! ## The search takes every route -/

theorem fieldsGroup_iff (fields : Document) :
    fieldsGroup fields = true ↔
      ∃ field ∈ fields, field.1 = "$group" ∨ valueGroups field.2 = true := by
  induction fields with
  | nil => simp [fieldsGroup]
  | cons field rest ih =>
    rw [fieldsGroup, Bool.or_eq_true, Bool.or_eq_true, beq_iff_eq, ih, List.exists_mem_cons_iff]

theorem itemsGroup_iff (items : List Value) :
    itemsGroup items = true ↔ ∃ item ∈ items, valueGroups item = true := by
  induction items with
  | nil => simp [itemsGroup]
  | cons item rest ih => rw [itemsGroup, Bool.or_eq_true, ih, List.exists_mem_cons_iff]

/-- By induction over what the value is made of. -/
theorem valueGroups_iff (v : Value) : valueGroups v = true ↔ v.Names "$group" := by
  induction v using Value.nested_induction with
  | step v ih =>
    cases v with
    | document fields =>
      rw [valueGroups, fieldsGroup_iff, Value.names_document]
      refine exists_congr fun field => and_congr_right fun hmem => ?_
      rw [ih field.2 (Value.mem_children_of_field hmem)]
    | array items =>
      rw [valueGroups, itemsGroup_iff, Value.names_array]
      exact exists_congr fun item => and_congr_right fun hmem => ih item hmem
    | _ =>
      refine iff_of_false Bool.false_ne_true fun hnames => ?_
      rcases hnames.cases with ⟨fields, h⟩ | ⟨items, h⟩
      · cases h
      · cases h

/-- A stage names `$group`. -/
def Grouped (stages : List Document) : Prop :=
  ∃ stage ∈ stages, (Value.document stage).Names "$group"

theorem any_fieldsGroup_iff (stages : List Document) :
    stages.any fieldsGroup = true ↔ Grouped stages := by
  rw [List.any_eq_true, Grouped]
  exact exists_congr fun stage => and_congr_right fun _ => valueGroups_iff (.document stage)

section

variable (stages : List Document) (hasFilter hasSearch : Bool)

theorem decide_eq_aggregate_iff :
    decide stages hasFilter hasSearch = .aggregate ↔
      hasFilter = true ∨ hasSearch = true ∨ Grouped stages := by
  rw [← any_fieldsGroup_iff, ← or_assoc, ← Bool.or_eq_true, ← Bool.or_eq_true, decide]
  split
  · next h => exact iff_of_true rfl h
  · next h => exact iff_of_false (by simp) h

theorem decide_eq_fast_iff :
    decide stages hasFilter hasSearch = .fast ↔
      ¬ (hasFilter = true ∨ hasSearch = true ∨ Grouped stages) := by
  rw [← decide_eq_aggregate_iff]
  cases decide stages hasFilter hasSearch <;> simp

end

/-! ## Order and length of a pipeline -/

/-- The same stages in another order, and each with its fields in another order. -/
def Reordered (stages others : List Document) : Prop :=
  ∃ permuted, stages.Perm permuted ∧
    List.Forall₂ (fun stage other => Value.Reordered (.document stage) (.document other))
      permuted others

theorem Reordered.grouped_iff {stages others : List Document} (h : Reordered stages others) :
    Grouped stages ↔ Grouped others := by
  obtain ⟨permuted, hperm, hfields⟩ := h
  have hpermuted : Grouped stages ↔ Grouped permuted := by simp only [Grouped, hperm.mem_iff]
  rw [hpermuted]
  clear hperm hpermuted
  induction hfields with
  | nil => exact Iff.rfl
  | cons hfirst _ ih =>
    rw [Grouped, Grouped, List.exists_mem_cons_iff, List.exists_mem_cons_iff, hfirst.names_iff]
    exact or_congr_right ih

theorem decide_congr {stages others : List Document} (h : Grouped stages ↔ Grouped others)
    (hasFilter hasSearch : Bool) :
    decide stages hasFilter hasSearch = decide others hasFilter hasSearch := by
  rw [← any_fieldsGroup_iff, ← any_fieldsGroup_iff, ← Bool.eq_iff_iff] at h
  rw [decide, h, decide]

theorem grouped_append (stages more : List Document) :
    Grouped (stages ++ more) ↔ Grouped stages ∨ Grouped more := by
  simp only [Grouped, List.mem_append, or_and_right, exists_or]

/-- A pipeline is counted by running it exactly if the request narrows it, or a route through
documents and lists leads from one of its stages to a field `$group`. The order of the stages plays
no part in that, nor does the order of fields at any depth. A longer pipeline is counted without
running it only if all parts of it are. -/
theorem group_scan_complete (stages : List Document) (hasFilter hasSearch : Bool) :
    (decide stages hasFilter hasSearch = .aggregate ↔
      hasFilter = true ∨ hasSearch = true ∨ ∃ stage ∈ stages, ∃ route target,
        Value.Leads (.document stage) (route ++ [.key "$group"]) target) ∧
    (∀ others, Reordered stages others →
      decide others hasFilter hasSearch = decide stages hasFilter hasSearch) ∧
    ∀ more, decide (stages ++ more) hasFilter hasSearch = .fast ↔
      decide stages hasFilter hasSearch = .fast ∧ decide more hasFilter hasSearch = .fast := by
  refine ⟨decide_eq_aggregate_iff stages hasFilter hasSearch, fun others h => ?_, fun more => ?_⟩
  · exact (decide_congr h.grouped_iff hasFilter hasSearch).symm
  · rw [decide_eq_fast_iff, decide_eq_fast_iff, decide_eq_fast_iff, grouped_append]
    tauto

/-! A stage that joins the sums of a nested pipeline, and one that mentions the word only. -/

/-- Joins what another collection comes to. -/
def joined : Document :=
  [("$lookup", .document [("from", .string "loans"), ("as", .string "loans"),
    ("pipeline", .array [.document [("$match", .document [])],
      .document [("$group", .document [("_id", .null)])]])])]

/-- The same with its fields in another order. -/
def joinedBackwards : Document :=
  [("$lookup", .document [("from", .string "loans"), ("pipeline",
    .array [.document [("$match", .document [])],
      .document [("$group", .document [("_id", .null)])]]), ("as", .string "loans")])]

/-- Labels every row with the name of a stage. -/
def labelled : Document := [("$addFields", .document [("label", .string "$group")])]

theorem reordered_joined : Reordered [joined, labelled] [labelled, joinedBackwards] :=
  ⟨[labelled, joined], .swap labelled joined [],
    .cons (.refl _) (.cons (.inField [] [] "$lookup" (.fields (.cons _ (.swap _ _ _)))) .nil)⟩

/-- The route into the nested pipeline is found in whatever order, a text is not taken for a key,
and the labelled rows are counted without running a pipeline until the join is added to them. -/
theorem group_scan_complete_joined :
    decide [joined, labelled] false false = .aggregate ∧
    decide [labelled, joinedBackwards] false false = .aggregate ∧
    decide [labelled] false false = .fast ∧
    (¬ ∃ route target, Value.Leads (.document labelled) (route ++ [.key "$group"]) target) ∧
    decide ([labelled] ++ [joined]) false false ≠ .fast := by
  obtain ⟨hscan, horder, -⟩ := group_scan_complete [joined, labelled] false false
  obtain ⟨hlabelled, -, hmore⟩ := group_scan_complete [labelled] false false
  have hroute : Value.Leads (.document joined)
      ([.key "$lookup", .key "pipeline", .position 1] ++ [.key "$group"])
      (.document [("_id", .null)]) :=
    .field (.head _) (.field (.tail _ (.tail _ (.head _)))
      (.item rfl (.field (.head _) (.here _))))
  have haggregate : decide [joined, labelled] false false = .aggregate :=
    hscan.mpr (.inr (.inr ⟨joined, .head _, _, _, hroute⟩))
  refine ⟨haggregate, (horder _ reordered_joined).trans haggregate, rfl, fun h => ?_, fun h => ?_⟩
  · have hwrong := hlabelled.mpr (.inr (.inr ⟨labelled, .head _, h⟩))
    cases hwrong
  · have hjoined := ((hmore [joined]).mp h).2
    cases hjoined

end DataGrid.Count
