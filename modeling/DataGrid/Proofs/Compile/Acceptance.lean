import DataGrid.Builder.Pipeline
import DataGrid.Proofs.Compile.Conditions
import DataGrid.Proofs.Compile.Sortations

/-!
# DataGrid.Proofs.Compile.Acceptance -- which requests compile, and what the others are told

What is wrong with a request can be listed without compiling it: the conditions that are
incomplete or name a column that cannot be filtered, the searchable columns that a search
cannot use, and the sortations by columns that cannot be sorted. The lists are in the order
in which a request is read. Compiling succeeds exactly when nothing is wrong, and otherwise
fails with the first fault of the list.

Callbacks that leave the builder alone make no call before a failure. A fault of a condition or
of the search therefore leaves a builder as it was, and a fault of a sortation leaves it with
the one filter of the conditions step.
-/

namespace DataGrid

open Fallible Compilation Compile

/-! ## What a request needs -/

/-- The operators that a condition can name without giving a value. -/
def Operator.valueless : List Operator := [.empty, .notEmpty, .exist, .notExist]

theorem Operator.requiresValue_eq (operator : Operator) :
    operator.requiresValue = !valueless.contains operator := by
  cases operator <;> rfl

/-- A condition has a column, an operator, and the value that the operator needs. -/
def Condition.isComplete (condition : Condition) : Bool :=
  condition.column.isSome && condition.operator.any fun operator =>
    condition.value.isSome || Operator.valueless.contains operator

/-- Sort callbacks name fields and leave the builder alone. -/
def Columns.QuietSorts (c : Columns) : Prop :=
  ∀ column callback, Keyed.get? c.sortCallbacks column = some callback → callback.calls = []

/-- What a request needs in order to compile. -/
structure Compiler.Acceptable (c : Compiler) : Prop where
  /-- Every condition is complete and names a condition column. -/
  conditions : ∀ group ∈ c.request.filter ++ c.request.additionalFilters, ∀ condition ∈ group,
    condition.isComplete = true ∧
      ∃ column, condition.column = some column ∧ Keyed.contains c.columns.conditions column = true
  /-- A search meets searchable columns, and all of them are condition columns. -/
  search : ∀ term, c.request.search = some term → term ≠ "" → c.columns.searchable ≠ [] ∧
    ∀ column ∈ c.columns.searchable, Keyed.contains c.columns.conditions column = true
  /-- Every sortation names a sortation column. -/
  sortations : ∀ sortation ∈ c.request.orderBy,
    Keyed.contains c.columns.sortations sortation.column = true

/-! ## Faults in reading order -/

namespace Columns

/-- What is wrong with a condition. -/
def conditionFault? (c : Columns) (condition : Condition) : Option GridError :=
  if condition.isComplete then
    (condition.column.filter fun column => !Keyed.contains c.conditions column).map
      (.missingConditionColumn · c.resource)
  else some .missingConditionField

/-- What is wrong with the columns that a search looks through. -/
def searchFaults (c : Columns) : List GridError :=
  if c.searchable.isEmpty then [.missingSearchColumn none c.resource]
  else (c.searchable.filter fun column => !Keyed.contains c.conditions column).map fun column =>
    .missingSearchColumn (some column) c.resource

/-- What is wrong with a sortation. -/
def sortFault? (c : Columns) (sortation : Sortation) : Option GridError :=
  if Keyed.contains c.sortations sortation.column then none
  else some (.missingSortationColumn sortation.column c.resource)

end Columns

namespace Compiler

/-- What is wrong with the conditions and the search of a request. -/
def conditionFaults (c : Compiler) : List GridError :=
  (c.request.filter ++ c.request.additionalFilters).flatten.filterMap c.columns.conditionFault? ++
    if c.request.hasSearch then c.columns.searchFaults else []

/-- What is wrong with the sortations of a request. -/
def sortFaults (c : Compiler) : List GridError := c.request.orderBy.filterMap c.columns.sortFault?

/-! ### A request without faults has what it needs -/

theorem conditionFault?_eq_none_iff {columns : Columns} {condition : Condition} :
    columns.conditionFault? condition = none ↔ condition.isComplete = true ∧
      ∃ column, condition.column = some column ∧
        Keyed.contains columns.conditions column = true := by
  unfold Columns.conditionFault?
  cases hcomplete : condition.isComplete with
  | false => simp
  | true =>
    -- a complete condition has a column
    have hcolumn : condition.column.isSome = true := (Bool.and_eq_true_iff.mp hcomplete).1
    obtain ⟨column, hcolumn⟩ := Option.isSome_iff_exists.mp hcolumn
    simp [hcolumn, Option.filter_eq_none_iff]

theorem searchFaults_eq_nil_iff {columns : Columns} :
    columns.searchFaults = [] ↔ columns.searchable ≠ [] ∧
      ∀ column ∈ columns.searchable, Keyed.contains columns.conditions column = true := by
  unfold Columns.searchFaults
  cases columns.searchable with
  | nil => simp
  | cons first rest => simp [List.filter_eq_nil_iff]

theorem sortFault?_eq_none_iff {columns : Columns} {sortation : Sortation} :
    columns.sortFault? sortation = none ↔
      Keyed.contains columns.sortations sortation.column = true := by
  simp [Columns.sortFault?]

theorem acceptable_iff (c : Compiler) :
    c.Acceptable ↔ c.conditionFaults = [] ∧ c.sortFaults = [] := by
  have hsearch : (if c.request.hasSearch then c.columns.searchFaults else []) = [] ↔
      ∀ term, c.request.search = some term → term ≠ "" → c.columns.searchable ≠ [] ∧
        ∀ column ∈ c.columns.searchable, Keyed.contains c.columns.conditions column = true := by
    rw [← searchFaults_eq_nil_iff]
    unfold Request.hasSearch Request.searchTerm
    cases c.request.search with
    | none => simp
    | some term => by_cases hterm : term = "" <;> simp [hterm, Option.filter]
  have hconditions : (c.request.filter ++ c.request.additionalFilters).flatten.filterMap
      c.columns.conditionFault? = [] ↔
      ∀ group ∈ c.request.filter ++ c.request.additionalFilters, ∀ condition ∈ group,
        condition.isComplete = true ∧ ∃ column, condition.column = some column ∧
          Keyed.contains c.columns.conditions column = true := by
    simp only [List.filterMap_eq_nil_iff, List.mem_flatten, conditionFault?_eq_none_iff]
    constructor
    · intro h group hgroup condition hcondition
      exact h condition ⟨group, hgroup, hcondition⟩
    · rintro h condition ⟨group, hgroup, hcondition⟩
      exact h group hgroup condition hcondition
  have hsort : c.sortFaults = [] ↔ ∀ sortation ∈ c.request.orderBy,
      Keyed.contains c.columns.sortations sortation.column = true := by
    simp only [sortFaults, List.filterMap_eq_nil_iff, sortFault?_eq_none_iff]
  rw [conditionFaults, List.append_eq_nil_iff, hconditions, hsearch, hsort]
  exact ⟨fun h => ⟨⟨h.conditions, h.search⟩, h.sortations⟩, fun h => ⟨h.1.1, h.1.2, h.2⟩⟩

/-! ## Compiling fails with the first fault -/

/-- By cases on what a condition lacks. -/
theorem failure?_condition (c : Compiler) (condition : Condition) :
    failure? (c.condition condition).result = c.columns.conditionFault? condition := by
  have hcompile : ∀ column operator value,
      failure? (Compiler.condition.compile c column operator value).result =
        ((some column).filter fun column => !Keyed.contains c.columns.conditions column).map
          (.missingConditionColumn · c.columns.resource) := by
    intro column operator value
    unfold Compiler.condition.compile
    rw [result_bind, result_lift, Columns.resolveCondition, Option.filter_some, Keyed.contains]
    cases Keyed.get? c.columns.conditions column with
    | none => rfl
    | some field =>
      rw [ok_bind]
      cases Keyed.get? c.columns.conditionCallbacks column <;> rfl
  obtain ⟨column, operator, value⟩ := condition
  cases column with
  | none => rfl
  | some column =>
    cases operator with
    | none => rfl
    | some operator =>
      cases value with
      | some value => exact hcompile column operator value
      | none =>
        -- without a value the operator decides
        have hcompiled : c.condition ⟨some column, some operator, none⟩ =
            if operator.requiresValue then .fail .missingConditionField
            else Compiler.condition.compile c column operator (.string "") := rfl
        have hcomplete : Condition.isComplete ⟨some column, some operator, none⟩ =
            Operator.valueless.contains operator := rfl
        rw [hcompiled, Operator.requiresValue_eq, Columns.conditionFault?, hcomplete]
        cases Operator.valueless.contains operator with
        | false => rfl
        | true => exact hcompile column operator (.string "")

theorem failure?_groups (c : Compiler) (groups : List OrGroup) :
    failure? (c.groups groups).result =
      (groups.flatten.filterMap c.columns.conditionFault?).head? := by
  induction groups with
  | nil => rfl
  | cons group rest ih =>
    have hbranches : failure? (c.branches group) =
        (group.filterMap c.columns.conditionFault?).head? :=
      failure?_mapM (c.failure?_condition) group
    have hrest : ∀ branches : List Document, failure? ((c.groups rest).result >>= fun others =>
        pure (if branches.isEmpty then others else combine "$or" branches :: others)) =
          (rest.flatten.filterMap c.columns.conditionFault?).head? := by
      intro branches
      rw [failure?_bind_of_total fun _ => rfl, ih]
    rw [groups_cons, failure?_bind hrest, hbranches, List.flatten_cons, List.filterMap_append,
      List.head?_append]

theorem failure?_requireSearchable (columns : Columns) :
    failure? columns.requireSearchable = columns.searchFaults.head? := by
  have hresolve : ∀ names, failure? (columns.resolveSearchable names) =
      ((names.filter fun column => !Keyed.contains columns.conditions column).map fun column =>
        GridError.missingSearchColumn (some column) columns.resource).head? := by
    intro names
    induction names with
    | nil => rfl
    | cons name rest ih =>
      rw [Columns.resolveSearchable, List.filter_cons, Keyed.contains]
      cases Keyed.get? columns.conditions name with
      | none => rfl
      | some field => exact (failure?_map _ _).trans ih
  unfold Columns.requireSearchable Columns.searchFaults
  cases hempty : columns.searchable.isEmpty with
  | true => rfl
  | false => exact hresolve columns.searchable

theorem failure?_searchGroups (c : Compiler) :
    failure? c.searchGroups.result =
      (if c.request.hasSearch then c.columns.searchFaults else []).head? := by
  unfold searchGroups Request.hasSearch
  cases c.request.searchTerm with
  | none => rfl
  | some term =>
    -- no branch of the search fails, so only its columns can be at fault
    have hbranch : ∀ column, failure? (searchBranch c.columns term column).result = none := by
      intro column
      unfold searchBranch
      cases Keyed.get? c.columns.conditionCallbacks column.1 <;> rfl
    have hsearch : failure? (search c.columns term).result = c.columns.searchFaults.head? := by
      unfold search
      rw [result_bind, result_lift, failure?_bind_of_total,
        failure?_requireSearchable]
      intro searchable
      rw [result_bind, result_forEach, failure?_bind_of_total fun _ => rfl,
        failure?_mapM hbranch]
      simp
    dsimp only
    rw [result_bind, failure?_bind_of_total, hsearch]
    · rfl
    · intro group
      split <;> rfl

theorem failure?_conditions (c : Compiler) :
    failure? c.conditions.result = c.conditionFaults.head? := by
  rw [conditions_result, failure?_map, conjuncts, failure?_bind, failure?_groups, conditionFaults,
    List.head?_append]
  intro groups
  rw [failure?_bind_of_total fun _ => rfl, failure?_searchGroups]

theorem failure?_sortations (c : Compiler) :
    failure? c.sortations.result = c.sortFaults.head? := by
  have hplan : ∀ plan, failure? (extendPlan c.columns plan c.request.orderBy).result =
      c.sortFaults.head? := by
    unfold sortFaults
    induction c.request.orderBy with
    | nil => exact fun _ => rfl
    | cons sortation rest ih =>
      intro plan
      rw [List.filterMap_cons, Columns.sortFault?, Keyed.contains]
      cases hfield : Keyed.get? c.columns.sortations sortation.column with
      | none =>
        rw [extendPlan_cons_of_none hfield]
        rfl
      | some field =>
        rw [extendPlan_cons_of_some hfield]
        exact ih _
  unfold sortations
  rw [result_bind, failure?_bind_of_total, sortPlan, hplan]
  intro plan
  split
  · rfl
  · split <;> rfl

theorem Acceptable.conditions_eq_ok {c : Compiler} (h : c.Acceptable) :
    c.conditions.result = .ok () := by
  have hnone := c.failure?_conditions
  rw [(c.acceptable_iff.mp h).1] at hnone
  exact (failure?_eq_none_iff.mp hnone).elim fun _ hok => hok

theorem Acceptable.sortations_eq_ok {c : Compiler} (h : c.Acceptable) :
    c.sortations.result = .ok () := by
  have hnone := c.failure?_sortations
  rw [(c.acceptable_iff.mp h).2] at hnone
  exact (failure?_eq_none_iff.mp hnone).elim fun _ hok => hok

theorem failure?_apply (c : Compiler) :
    failure? c.apply.result = (c.conditionFaults ++ c.sortFaults).head? := by
  rw [apply, result_bind, failure?_bind, failure?_conditions, List.head?_append]
  intro _
  rw [result_bind, failure?_bind_of_total fun _ => rfl,
    failure?_sortations]

/-! ## Calls before a failure -/

theorem conditions_calls_of_error {c : Compiler} (predicates : c.columns.PredicateOnly)
    {e : GridError} (h : c.conditions.result = .error e) : c.conditions.calls = [] := by
  have hgroups := quiet_groups predicates (c := c)
  unfold conditions at h ⊢
  -- whichever part fails, it and the parts before it are quiet
  rcases hfilter : (c.groups c.request.filter).result with e | filter
  · rw [calls_bind_of_error hfilter]
    exact hgroups _
  rcases hadditional : (c.groups c.request.additionalFilters).result with e | additional
  · rw [calls_bind_of_ok hfilter, calls_bind_of_error hadditional, hgroups, hgroups,
      List.append_nil]
  rcases hsearch : c.searchGroups.result with e | search
  · rw [calls_bind_of_ok hfilter, calls_bind_of_ok hadditional, calls_bind_of_error hsearch,
      hgroups, hgroups, quiet_searchGroups predicates]
    rfl
  -- nothing fails behind the search
  · simp only [result_bind, hfilter, hadditional, hsearch, ok_bind] at h
    split at h <;> cases h

theorem quiet_extendPlan {columns : Columns} (sorts : columns.QuietSorts) (plan : SortPlan)
    (orderBy : List Sortation) : (extendPlan columns plan orderBy).Quiet := by
  induction orderBy generalizing plan with
  | nil => rfl
  | cons sortation rest ih =>
    cases hfield : Keyed.get? columns.sortations sortation.column with
    | none =>
      rw [extendPlan_cons_of_none hfield]
      rfl
    | some field =>
      have heffect : (sortEffect columns sortation).calls = [] := by
        rcases sortEffect_eq columns sortation with hcallback | hnone
        · exact sorts _ _ hcallback
        · rw [hnone]
      rw [extendPlan_cons_of_some hfield, Quiet, heffect]
      exact ih _

theorem sortations_calls_of_error {c : Compiler} (sorts : c.columns.QuietSorts) {e : GridError}
    (h : c.sortations.result = .error e) : c.sortations.calls = [] := by
  have hquiet := quiet_extendPlan sorts .empty c.request.orderBy
  unfold sortations at h ⊢
  rcases hplan : (sortPlan c.columns c.request.orderBy).result with e | plan
  · rw [calls_bind_of_error hplan]
    exact hquiet
  -- a plan that is made is emitted without a failure
  · rw [result_bind, hplan, ok_bind] at h
    split at h
    · cases h
    · split at h <;> cases h

/-! ## Acceptance and refusal -/

/-- A request compiles when it has all that it needs, and is otherwise refused with its first
fault in reading order. A fault of a condition or of the search leaves every builder as it was;
a fault of a sortation leaves it with what the conditions step emits and nothing else. -/
theorem apply_refuses_first_fault {c : Compiler} (predicates : c.columns.PredicateOnly)
    (sorts : c.columns.QuietSorts) :
    (c.apply.result = .ok () ↔ c.Acceptable) ∧
    (∀ e, c.apply.result = .error e ↔ (c.conditionFaults ++ c.sortFaults).head? = some e) ∧
    (∀ e, c.conditionFaults.head? = some e →
      ∀ (β : Type) [Builder β] (b : β), c.apply.run b = (b, .error e)) ∧
    ∀ e, c.conditionFaults = [] → c.sortFaults.head? = some e →
      ∃ emitted : List Document,
        emitted.length = (if c.request.hasFilter || c.request.hasSearch then 1 else 0) ∧
        c.conditions.calls = emitted.map .matchFilter ∧
        ∀ (β : Type) [Builder β] (b : β),
          c.apply.run b = (Builder.run b (emitted.map .matchFilter), .error e) := by
  have happly := c.failure?_apply
  refine ⟨?_, ?_, ?_, ?_⟩
  · rw [acceptable_iff, ← List.append_eq_nil_iff, ← List.head?_eq_none_iff, ← happly,
      failure?_eq_none_iff]
    exact ⟨fun h => ⟨(), h⟩, fun ⟨⟨⟩, h⟩ => h⟩
  · intro e
    rw [← happly, failure?_eq_some_iff]
  · intro e hfault β _ b
    rw [← failure?_conditions, failure?_eq_some_iff] at hfault
    have hcalls : c.apply.calls = [] := by
      rw [apply, calls_bind_of_error hfault, conditions_calls_of_error predicates hfault]
    have hresult : c.apply.result = .error e := by
      rw [apply, result_bind, hfault]
      rfl
    rw [Compilation.run, hcalls, hresult]
    rfl
  · intro e hnone hfault
    rw [← failure?_sortations, failure?_eq_some_iff] at hfault
    obtain ⟨⟨⟩, hconditions⟩ := failure?_eq_none_iff.mp
      (c.failure?_conditions.trans (List.head?_eq_none_iff.mpr hnone))
    obtain ⟨filters, hfilters, -⟩ := map_eq_ok.mp (c.conditions_result ▸ hconditions)
    have hcalls := conditions_calls predicates hfilters
    refine ⟨conjunction filters, length_conjunction hfilters, hcalls, ?_⟩
    intro β _ b
    have hall : c.apply.calls = (conjunction filters).map .matchFilter := by
      rw [apply, calls_bind_of_ok hconditions, calls_bind_of_error hfault, hcalls,
        sortations_calls_of_error sorts hfault, List.append_nil]
    have hresult : c.apply.result = .error e := by
      rw [apply, result_bind, hconditions, ok_bind, result_bind, hfault]
      rfl
    rw [Compilation.run, hall, hresult]

/-- A title that may be empty; then a column that is not there, in front of a condition without
its value; and sorting by a column that can only be filtered. -/
def misnamed : Request :=
  { Request.default with
    filter := [[⟨some "title", some .empty, none⟩],
      [⟨some "price", some .gt, some (.int32 5)⟩, ⟨some "title", some .gt, none⟩]]
    orderBy := [⟨"title", .ascending⟩, ⟨"author", .descending⟩] }

/-- The same without the second group. -/
def missorted : Request := { misnamed with filter := misnamed.filter.take 1 }

theorem apply_refuses_first_fault_shelf :
    let refused : Compiler := ⟨.shelf, misnamed, false⟩
    let sorted : Compiler := ⟨.shelf, missorted, false⟩
    Columns.shelf.PredicateOnly ∧ Columns.shelf.QuietSorts ∧
      refused.apply.result = .error (.missingConditionColumn "price" "shelf") ∧
      (∀ b : PipelineBuilder,
        refused.apply.run b = (b, .error (.missingConditionColumn "price" "shelf"))) ∧
      ∃ emitted : List Document, emitted.length = 1 ∧ ∀ b : PipelineBuilder,
        sorted.apply.run b = (Builder.run b (emitted.map .matchFilter),
          .error (.missingSortationColumn "author" "shelf")) := by
  intro refused sorted
  have sorts : Columns.shelf.QuietSorts := by
    intro column callback hget
    cases hget
  obtain ⟨-, hfirst, hkept, -⟩ :=
    apply_refuses_first_fault (c := refused) Columns.shelf_predicateOnly sorts
  obtain ⟨-, -, -, hemitted⟩ :=
    apply_refuses_first_fault (c := sorted) Columns.shelf_predicateOnly sorts
  obtain ⟨emitted, hlength, -, hrun⟩ :=
    hemitted (.missingSortationColumn "author" "shelf") rfl rfl
  exact ⟨Columns.shelf_predicateOnly, sorts, (hfirst _).mpr rfl, hkept _ rfl PipelineBuilder,
    emitted, hlength, hrun PipelineBuilder⟩

end Compiler

end DataGrid
