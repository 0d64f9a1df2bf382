import DataGrid.Builder.Query
import DataGrid.Proofs.Compile.Branches
import DataGrid.Proofs.Keyed
import DataGrid.Proofs.Request.Window

/-!
# DataGrid.Proofs.Compile.Conditions -- what the conditions step emits

The conditions step compiles every group of the filter and of the additional filters, then
the search. `conjuncts` collects the filters that result; the step succeeds when they can be
collected, and when no condition callback calls the builder it makes one call that conjoins
them, or none when there are none. Whether there are any can be read off the request:
some group has a condition, or there is a search term.
-/

namespace DataGrid

open Fallible Compilation

/-- Condition callbacks write their predicate and leave the builder alone. -/
def Columns.PredicateOnly (c : Columns) : Prop :=
  ∀ column callback, Keyed.get? c.conditionCallbacks column = some callback →
    ∀ values field operator, (callback values field operator).calls = []

theorem Columns.predicateOnly_of_forall {c : Columns}
    (h : ∀ entry ∈ c.conditionCallbacks, ∀ values field operator,
      (entry.2 values field operator).calls = []) : c.PredicateOnly := fun _ _ hget =>
  h _ (Keyed.mem_of_get? hget)

/-- A column that a search looks through, with its field. -/
def Columns.Searchable (c : Columns) (column : String × String) : Prop :=
  column.1 ∈ c.searchable ∧ Keyed.get? c.conditions column.1 = some column.2

theorem Columns.mem_resolveSearchable {c : Columns} {names : List String}
    {columns : List (String × String)} (h : c.resolveSearchable names = .ok columns)
    (column : String × String) :
    column ∈ columns ↔
      column.1 ∈ names ∧ Keyed.get? c.conditions column.1 = some column.2 := by
  rw [resolveSearchable_eq_ok_iff] at h
  constructor
  · intro hmem
    obtain ⟨name, hname, rfl, hget⟩ := exists_of_forall₂ h.flip hmem
    exact ⟨hname, hget⟩
  · rintro ⟨hname, hget⟩
    obtain ⟨found, hmem, hfound, hfield⟩ := exists_of_forall₂ h hname
    rw [hget] at hfield
    rwa [← Prod.ext hfound (Option.some.inj hfield).symm]

theorem Columns.requireSearchable_eq_ok {c : Columns} {columns : List (String × String)}
    (h : c.requireSearchable = .ok columns) : c.resolveSearchable c.searchable = .ok columns := by
  unfold requireSearchable at h
  split at h
  · cases h
  · exact h

theorem Columns.mem_requireSearchable {c : Columns} {columns : List (String × String)}
    (h : c.requireSearchable = .ok columns) (column : String × String) :
    column ∈ columns ↔ c.Searchable column :=
  mem_resolveSearchable (requireSearchable_eq_ok h) column

/-- A shelf of books: titles are compared in general, authors by a callback that also serves
the search. -/
def Columns.shelf : Columns :=
  ((((Columns.new "shelf").condition "title" "title").condition "author" "author").sortation
    "title" "title").search "author" |>.conditionCallback "author" fun values field _ =>
      ⟨[], Predicate.empty.eq field (values.headD .null)⟩

theorem Columns.shelf_predicateOnly : Columns.shelf.PredicateOnly :=
  Columns.predicateOnly_of_forall (by simp [shelf, Columns.new, Columns.condition,
    Columns.sortation, Columns.search, Columns.conditionCallback, Keyed.insert])

namespace Compiler

open Compile

/-- The filters of the conditions of a group, in order. -/
def branches (c : Compiler) (group : OrGroup) : Except GridError (List Document) :=
  group.mapM fun condition => (c.condition condition).result

/-- The filters that the conditions step conjoins. -/
def conjuncts (c : Compiler) : Except GridError (List Document) := do
  let groups ← (c.groups (c.request.filter ++ c.request.additionalFilters)).result
  let search ← c.searchGroups.result
  return groups ++ search

/-- The conjunction of filters, if there are any. -/
def conjunction (filters : List Document) : List Document :=
  if filters.isEmpty then [] else [combine "$and" filters]

/-- The conjunction as one filter; without filters it asks for nothing. -/
def asked (filters : List Document) : Document := (conjunction filters).headD []

/-! ## Groups -/

theorem groups_cons (c : Compiler) (group : OrGroup) (rest : List OrGroup) :
    (c.groups (group :: rest)).result = do
      let branches ← c.branches group
      let others ← (c.groups rest).result
      return if branches.isEmpty then others else combine "$or" branches :: others := by
  simp [groups, branches, result_forEach]

theorem groups_append (c : Compiler) (first second : List OrGroup) :
    (c.groups (first ++ second)).result = do
      let filters ← (c.groups first).result
      let others ← (c.groups second).result
      return filters ++ others := by
  induction first with
  | nil =>
    rw [List.nil_append]
    rcases h : (c.groups second).result with e | others <;> simp [groups]
  | cons group rest ih =>
    rw [List.cons_append, groups_cons, groups_cons, ih]
    rcases c.branches group with e | branches
    · rfl
    rcases (c.groups rest).result with e | filters
    · rfl
    rcases (c.groups second).result with e | others
    · rfl
    cases branches <;> rfl

/-- The filters of groups: one disjunction for each group that has a condition. -/
theorem groups_eq_ok_iff {c : Compiler} {groups : List OrGroup} {filters : List Document} :
    (c.groups groups).result = .ok filters ↔ ∃ lists, groups.mapM c.branches = .ok lists ∧
      filters = (lists.filter fun branches => !branches.isEmpty).map (combine "$or") := by
  induction groups generalizing filters with
  | nil => simp [Compiler.groups, eq_comm]
  | cons group rest ih =>
    rw [groups_cons, bind_eq_ok]
    constructor
    · rintro ⟨branches, hbranches, h⟩
      obtain ⟨others, hothers, h⟩ := bind_eq_ok.mp h
      obtain ⟨lists, hlists, rfl⟩ := ih.mp hothers
      refine ⟨branches :: lists, mapM_cons_eq_ok.mpr ⟨_, _, hbranches, hlists, rfl⟩, ?_⟩
      rw [← Except.ok.inj h]
      by_cases hb : branches.isEmpty <;> simp [hb]
    · rintro ⟨lists, hlists, rfl⟩
      obtain ⟨branches, others, hbranches, hothers, rfl⟩ := mapM_cons_eq_ok.mp hlists
      refine ⟨branches, hbranches, bind_eq_ok.mpr ⟨_, ih.mpr ⟨others, hothers, rfl⟩, ?_⟩⟩
      by_cases hb : branches.isEmpty <;> simp [hb]

theorem branches_isEmpty {c : Compiler} {group : OrGroup} {filters : List Document}
    (h : c.branches group = .ok filters) : filters.isEmpty = group.isEmpty := by
  have hl := length_of_mapM h
  cases filters <;> cases group <;> simp_all

theorem exists_branches {c : Compiler} {groups : List OrGroup} {filters : List Document}
    (h : (c.groups groups).result = .ok filters) {group : OrGroup} (hgroup : group ∈ groups) :
    ∃ branches, c.branches group = .ok branches := by
  obtain ⟨lists, hlists, -⟩ := groups_eq_ok_iff.mp h
  obtain ⟨branches, -, hbranches⟩ := exists_of_mapM hlists hgroup
  exact ⟨branches, hbranches⟩

/-- A filter of groups is the disjunction of a group that has a condition. -/
theorem mem_groups_iff {c : Compiler} {groups : List OrGroup} {filters : List Document}
    (h : (c.groups groups).result = .ok filters) {filter : Document} :
    filter ∈ filters ↔ ∃ group ∈ groups, group ≠ [] ∧
      ∃ branches, c.branches group = .ok branches ∧ filter = combine "$or" branches := by
  obtain ⟨lists, hlists, rfl⟩ := groups_eq_ok_iff.mp h
  have hfilled : ∀ {group branches}, c.branches group = .ok branches →
      ((!branches.isEmpty) = true ↔ group ≠ []) := by
    intro group branches hbranches
    rw [branches_isEmpty hbranches]
    simp
  rw [List.mem_map]
  constructor
  · rintro ⟨branches, hmem, rfl⟩
    obtain ⟨hmem, hne⟩ := List.mem_filter.mp hmem
    obtain ⟨group, hgroup, hbranches⟩ := (mem_mapM_iff hlists).mp hmem
    exact ⟨group, hgroup, (hfilled hbranches).mp hne, branches, hbranches, rfl⟩
  · rintro ⟨group, hgroup, hne, branches, hbranches, rfl⟩
    refine ⟨branches, List.mem_filter.mpr ⟨?_, (hfilled hbranches).mpr hne⟩, rfl⟩
    exact (mem_mapM_iff hlists).mpr ⟨group, hgroup, hbranches⟩

/-- Some group has a filter exactly when some group has a condition. -/
theorem filled_isEmpty {c : Compiler} {groups : List OrGroup} {lists : List (List Document)}
    (h : groups.mapM c.branches = .ok lists) :
    (lists.filter fun branches => !branches.isEmpty).isEmpty =
      !(groups.any fun group => !group.isEmpty) := by
  induction groups generalizing lists with
  | nil =>
    obtain rfl : [] = lists := by simpa using h
    rfl
  | cons group rest ih =>
    obtain ⟨branches, others, hbranches, hothers, rfl⟩ := mapM_cons_eq_ok.mp h
    rw [List.any_cons, ← branches_isEmpty hbranches]
    cases hb : branches.isEmpty with
    | true => simpa [hb] using ih hothers
    | false => simp [hb]

/-! ## Search -/

theorem searchGroups_of_none {c : Compiler} (hterm : c.request.searchTerm = none) :
    c.searchGroups = .done [] := by
  rw [searchGroups, hterm]

/-- A search compiles to the disjunction of the clauses of its columns, and to the clause of
the text index behind it if that is asked. -/
theorem searchGroups_eq_ok {c : Compiler} {term : String}
    (hterm : c.request.searchTerm = some term) {filters : List Document}
    (h : c.searchGroups.result = .ok filters) :
    ∃ searchable branches, c.columns.requireSearchable = .ok searchable ∧
      searchable.mapM (fun column => (searchBranch c.columns term column).result) =
        .ok branches ∧
      filters = combine "$or" branches ::
        if c.textSearch then [Compile.textSearch term] else [] := by
  rw [searchGroups, hterm, result_bind, bind_eq_ok] at h
  obtain ⟨group, hgroup, h⟩ := h
  unfold search at hgroup
  simp only [result_bind, result_lift, bind_eq_ok, result_forEach] at hgroup
  obtain ⟨searchable, hsearchable, branches, hbranches, hgroup⟩ := hgroup
  obtain rfl := Except.ok.inj hgroup
  refine ⟨searchable, branches, hsearchable, hbranches, ?_⟩
  rw [← Except.ok.inj h]
  cases c.textSearch <;> rfl

theorem searchGroups_isEmpty {c : Compiler} {filters : List Document}
    (h : c.searchGroups.result = .ok filters) : filters.isEmpty = !c.request.hasSearch := by
  unfold Request.hasSearch
  cases hterm : c.request.searchTerm with
  | none =>
    rw [searchGroups_of_none hterm] at h
    obtain rfl := Except.ok.inj h
    rfl
  | some term =>
    obtain ⟨searchable, branches, -, -, rfl⟩ := searchGroups_eq_ok hterm h
    rfl

/-! ## The whole step -/

theorem conditions_result (c : Compiler) :
    c.conditions.result = c.conjuncts.map fun _ => () := by
  unfold conditions conjuncts
  rw [groups_append]
  simp only [result_bind]
  rcases (c.groups c.request.filter).result with e | filters
  · rfl
  rcases (c.groups c.request.additionalFilters).result with e | others
  · rfl
  rcases c.searchGroups.result with e | search
  · rfl
  simp only [ok_bind]
  split <;> rfl

theorem conjuncts_eq_ok_iff {c : Compiler} {filters : List Document} :
    c.conjuncts = .ok filters ↔ ∃ groups search,
      (c.groups (c.request.filter ++ c.request.additionalFilters)).result = .ok groups ∧
        c.searchGroups.result = .ok search ∧ filters = groups ++ search := by
  unfold conjuncts
  rw [bind_eq_ok]
  constructor
  · rintro ⟨groups, hgroups, h⟩
    obtain ⟨search, hsearch, h⟩ := bind_eq_ok.mp h
    exact ⟨groups, search, hgroups, hsearch, (Except.ok.inj h).symm⟩
  · rintro ⟨groups, search, hgroups, hsearch, rfl⟩
    exact ⟨groups, hgroups, bind_eq_ok.mpr ⟨search, hsearch, rfl⟩⟩

/-- Something is conjoined exactly when the request filters or searches. -/
theorem conjuncts_isEmpty {c : Compiler} {filters : List Document}
    (h : c.conjuncts = .ok filters) :
    filters.isEmpty = !(c.request.hasFilter || c.request.hasSearch) := by
  obtain ⟨groups, search, hgroups, hsearch, rfl⟩ := conjuncts_eq_ok_iff.mp h
  obtain ⟨lists, hlists, rfl⟩ := groups_eq_ok_iff.mp hgroups
  have hfilter := filled_isEmpty hlists
  have hterm := searchGroups_isEmpty hsearch
  rw [← List.isEmpty_map (f := combine "$or")] at hfilter
  rw [← Request.hasFilter] at hfilter
  rw [Bool.not_or, ← hfilter, ← hterm]
  rcases List.map (combine "$or") _ with _ | ⟨first, rest⟩ <;> simp

theorem length_conjunction {c : Compiler} {filters : List Document}
    (h : c.conjuncts = .ok filters) :
    (conjunction filters).length = if c.request.hasFilter || c.request.hasSearch then 1 else 0 := by
  have hempty := conjuncts_isEmpty h
  unfold conjunction
  rw [hempty]
  cases c.request.hasFilter || c.request.hasSearch <;> rfl

/-! ## Failures -/

theorem groups_fail_iff {c : Compiler} {groups : List OrGroup} :
    (∃ e, (c.groups groups).result = .error e) ↔
      ∃ group ∈ groups, ∃ condition ∈ group, ∃ e, (c.condition condition).result = .error e := by
  induction groups with
  | nil => simp [Compiler.groups]
  | cons group rest ih =>
    simp only [groups_cons, List.mem_cons, exists_eq_or_imp, ← ih]
    rw [← mapM_fails_iff]
    show _ ↔ (∃ e, c.branches group = .error e) ∨ _
    rcases c.branches group with e | branches
    · simp
    · rcases (c.groups rest).result with e | others <;> simp

/-- Some condition of a request cannot be compiled, or the search cannot. -/
def RefusesConditions (c : Compiler) : Prop :=
  (∃ group ∈ c.request.filter ++ c.request.additionalFilters, ∃ condition ∈ group,
    ∃ e, (c.condition condition).result = .error e) ∨ ∃ e, c.searchGroups.result = .error e

theorem conditions_fail_iff (c : Compiler) :
    (∃ e, c.conditions.result = .error e) ↔ c.RefusesConditions := by
  rw [RefusesConditions, conditions_result, conjuncts, ← groups_fail_iff]
  rcases (c.groups (c.request.filter ++ c.request.additionalFilters)).result with e | groups
  · simp
  · rcases c.searchGroups.result with e | search <;> simp

/-! ## Only filters and the search play a part -/

/-- Groups are compiled against the columns alone. -/
theorem groups_columns (c other : Compiler) (h : c.columns = other.columns) :
    c.groups = other.groups := by
  have hcondition : c.condition = other.condition := by
    funext condition
    unfold Compiler.condition Compiler.condition.compile
    rw [h]
  funext groups
  induction groups with
  | nil => rfl
  | cons group rest ih => rw [Compiler.groups, Compiler.groups, ih, hcondition]

/-- Requests with the same filters and the same search have the same conditions step. -/
theorem conditions_request (columns : Columns) (first second : Request) (text : Bool)
    (hfilter : first.filter = second.filter)
    (hadditional : first.additionalFilters = second.additionalFilters)
    (hsearch : first.search = second.search) :
    (⟨columns, first, text⟩ : Compiler).conditions =
      (⟨columns, second, text⟩ : Compiler).conditions := by
  have hterm : first.searchTerm = second.searchTerm := by
    rw [Request.searchTerm, Request.searchTerm, hsearch]
  unfold conditions searchGroups
  rw [groups_columns ⟨columns, first, text⟩ ⟨columns, second, text⟩ rfl]
  simp only [hfilter, hadditional, hterm]

theorem conditions_turnTo (columns : Columns) (request : Request) (text : Bool)
    (page size : UInt64) :
    (⟨columns, request.turnTo page size, text⟩ : Compiler).conditions =
      (⟨columns, request, text⟩ : Compiler).conditions :=
  conditions_request columns _ request text rfl rfl rfl

/-! ## Calls -/

theorem quiet_branch {columns : Columns} (h : columns.PredicateOnly) (column field : String)
    (values : List Value) (operator : Option Operator) (general : Document) :
    (columns.branch column field values operator general).calls = [] := by
  unfold Columns.branch
  cases hcallback : Keyed.get? columns.conditionCallbacks column with
  | none => rfl
  | some callback => exact h column callback hcallback values field operator

theorem quiet_condition {c : Compiler} (h : c.columns.PredicateOnly) (condition : Condition) :
    (c.condition condition).Quiet := by
  rcases c.condition_cases condition with ⟨e, hfail⟩ | ⟨branch, hbranch, hcompiled⟩
  · rw [hfail]
    rfl
  · rw [hcompiled]
    cases hbranch <;> exact quiet_branch h _ _ _ _ _

theorem quiet_groups {c : Compiler} (h : c.columns.PredicateOnly) (groups : List OrGroup) :
    (c.groups groups).Quiet := by
  induction groups with
  | nil => rfl
  | cons group rest ih =>
    refine quiet_bind (quiet_forEach (quiet_condition h) group) fun _ => ?_
    exact quiet_bind ih fun _ => rfl

theorem quiet_searchBranch {columns : Columns} (h : columns.PredicateOnly) (term : String)
    (column : String × String) : (searchBranch columns term column).Quiet := by
  rw [columns.searchBranch_eq]
  exact quiet_branch h _ _ _ _ _

theorem quiet_searchGroups {c : Compiler} (h : c.columns.PredicateOnly) :
    c.searchGroups.Quiet := by
  unfold searchGroups
  cases c.request.searchTerm with
  | none => rfl
  | some term =>
    have hsearch : (search c.columns term).Quiet :=
      quiet_bind rfl fun searchable =>
        quiet_bind (quiet_forEach (quiet_searchBranch h term) searchable) fun _ => rfl
    exact quiet_bind hsearch fun _ => by split <;> rfl

/-- The calls of the parts, and the one that conjoins. -/
theorem conditions_calls_of_ok {c : Compiler} {filters : List Document}
    (hf : c.conjuncts = .ok filters) :
    c.conditions.calls = (c.groups c.request.filter).calls ++
      ((c.groups c.request.additionalFilters).calls ++
        (c.searchGroups.calls ++ (conjunction filters).map .matchFilter)) := by
  obtain ⟨groups, search, hgroups, hsearch, rfl⟩ := conjuncts_eq_ok_iff.mp hf
  rw [groups_append, bind_eq_ok] at hgroups
  obtain ⟨filter, hfilter, hgroups⟩ := hgroups
  obtain ⟨additional, hadditional, hgroups⟩ := bind_eq_ok.mp hgroups
  obtain rfl := Except.ok.inj hgroups
  unfold conditions
  rw [calls_bind_of_ok hfilter, calls_bind_of_ok hadditional, calls_bind_of_ok hsearch]
  unfold conjunction
  dsimp only
  split <;> rfl

/-- With callbacks that leave the builder alone, the only call is the one that conjoins. -/
theorem conditions_calls {c : Compiler} (h : c.columns.PredicateOnly) {filters : List Document}
    (hf : c.conjuncts = .ok filters) :
    c.conditions.calls = (conjunction filters).map .matchFilter := by
  rw [conditions_calls_of_ok hf, quiet_groups h, quiet_groups h, quiet_searchGroups h]
  rfl

theorem run_conjunction (b : QueryBuilder) (filters : List Document) :
    Builder.run b ((conjunction filters).map .matchFilter) =
      { b with filters := b.filters ++ conjunction filters } := by
  cases filters with
  | nil => simp [conjunction]
  | cons first rest => rfl

end Compiler
end DataGrid
