import DataGrid.Compile.Compiler
import DataGrid.Proofs.Compile.Compilation
import DataGrid.Proofs.Keyed
import DataGrid.Store.Sorting

/-!
# DataGrid.Proofs.Compile.Sortations -- the plan that sortations make

Every sort key of a plan is the field of a sortation column with a direction, and no field
occurs twice. A store therefore accepts the keys of every plan. The calls that are made on
the way are those of sort callbacks; without such callbacks the only call is the sorting.
-/

namespace DataGrid.Compile

open Fallible Compilation Store

/-! ## What a list of sortations adds to a plan -/

/-- The sortation names a column that can be sorted by. -/
abbrev Sorts (columns : Columns) (sortation : Sortation) : Bool :=
  Keyed.contains columns.sortations sortation.column

/-- What the callback of a sortation does; where there is none, nothing is done. -/
def sortEffect (columns : Columns) (sortation : Sortation) : SortCallback :=
  (Keyed.get? columns.sortCallbacks sortation.column).getD ⟨[], []⟩

/-- The field and the direction of every sortation. -/
def sortEntries (columns : Columns) (orderBy : List Sortation) : List (String × Direction) :=
  orderBy.filterMap fun sortation =>
    (Keyed.get? columns.sortations sortation.column).map (·, sortation.direction)

/-- The calls of the callbacks, one run for each sortation. -/
def sortCalls (columns : Columns) (orderBy : List Sortation) : List BuilderCall :=
  orderBy.flatMap fun sortation => (sortEffect columns sortation).calls

/-- The names that the callbacks give, one run for each sortation. -/
def sortUnset (columns : Columns) (orderBy : List Sortation) : List String :=
  orderBy.flatMap fun sortation => (sortEffect columns sortation).unset

/-- A plan with the keys and the names of further sortations. -/
def SortPlan.extend (plan : SortPlan) (columns : Columns) (orderBy : List Sortation) : SortPlan :=
  ⟨(sortEntries columns orderBy).foldl
      (fun keys entry => Keyed.insert keys entry.1 (.int32 entry.2.key)) plan.keys,
    plan.unset ++ sortUnset columns orderBy⟩

theorem extendPlan_cons_of_some {columns : Columns} {sortation : Sortation} {field : String}
    (h : Keyed.get? columns.sortations sortation.column = some field) (plan : SortPlan)
    (rest : List Sortation) :
    let effect := sortEffect columns sortation
    let next := extendPlan columns ⟨Keyed.insert plan.keys field (.int32 sortation.direction.key),
      plan.unset ++ effect.unset⟩ rest
    extendPlan columns plan (sortation :: rest) = ⟨effect.calls ++ next.calls, next.result⟩ := by
  rw [extendPlan, Columns.resolveSortation, h, lift, mk_ok_bind, sortEffect]
  cases Keyed.get? columns.sortCallbacks sortation.column <;> rfl

theorem extendPlan_cons_of_none {columns : Columns} {sortation : Sortation}
    (h : Keyed.get? columns.sortations sortation.column = none) (plan : SortPlan)
    (rest : List Sortation) :
    extendPlan columns plan (sortation :: rest) =
      .fail (.missingSortationColumn sortation.column columns.resource) := by
  rw [extendPlan, Columns.resolveSortation, h]
  rfl

/-- Sortations by known columns extend the plan, whatever follows them. -/
theorem extendPlan_append {columns : Columns} {before : List Sortation}
    (known : ∀ sortation ∈ before, Sorts columns sortation) (plan : SortPlan)
    (rest : List Sortation) :
    let next := extendPlan columns (plan.extend columns before) rest
    extendPlan columns plan (before ++ rest) =
      ⟨sortCalls columns before ++ next.calls, next.result⟩ := by
  induction before generalizing plan with
  | nil => simp [SortPlan.extend, sortEntries, sortUnset, sortCalls]
  | cons sortation before ih =>
    obtain ⟨hknown, hbefore⟩ := List.forall_mem_cons.mp known
    obtain ⟨field, hfield⟩ := Option.isSome_iff_exists.mp hknown
    rw [List.cons_append, extendPlan_cons_of_some hfield, ih hbefore]
    simp [SortPlan.extend, sortEntries, sortUnset, sortCalls, hfield]

theorem extendPlan_of_known {columns : Columns} {orderBy : List Sortation}
    (known : ∀ sortation ∈ orderBy, Sorts columns sortation) (plan : SortPlan) :
    extendPlan columns plan orderBy =
      ⟨sortCalls columns orderBy, .ok (plan.extend columns orderBy)⟩ := by
  simpa [extendPlan] using extendPlan_append known plan []

/-- The first sortation by an unknown column is where a plan fails. -/
theorem extendPlan_of_unknown {columns : Columns} {before after : List Sortation}
    {sortation : Sortation} (known : ∀ earlier ∈ before, Sorts columns earlier)
    (unknown : Sorts columns sortation = false) (plan : SortPlan) :
    extendPlan columns plan (before ++ sortation :: after) =
      ⟨sortCalls columns before,
        .error (.missingSortationColumn sortation.column columns.resource)⟩ := by
  have hnone := Option.isSome_eq_false_iff.mp unknown
  rw [extendPlan_append known, extendPlan_cons_of_none (Option.isNone_iff_eq_none.mp hnone)]
  simp [fail]

/-- Of sortations that are not all known there is a first that is not. -/
theorem exists_first_unknown {columns : Columns} {orderBy : List Sortation}
    (h : ¬ ∀ sortation ∈ orderBy, Sorts columns sortation = true) :
    ∃ before sortation after, orderBy = before ++ sortation :: after ∧
      (∀ earlier ∈ before, Sorts columns earlier = true) ∧ Sorts columns sortation = false := by
  cases hfind : orderBy.find? fun sortation => !Sorts columns sortation with
  | none => exact absurd (by simpa using hfind) h
  | some sortation =>
    obtain ⟨hunknown, before, after, rfl, hbefore⟩ := List.find?_eq_some_iff_append.mp hfind
    exact ⟨before, sortation, after, rfl, by simpa using hbefore, by simpa using hunknown⟩

/-- A plan is made of sortations by known columns only. -/
theorem extendPlan_eq_ok_iff {columns : Columns} {plan final : SortPlan}
    {orderBy : List Sortation} :
    (extendPlan columns plan orderBy).result = .ok final ↔
      (∀ sortation ∈ orderBy, Sorts columns sortation) ∧ final = plan.extend columns orderBy := by
  by_cases known : ∀ sortation ∈ orderBy, Sorts columns sortation
  · rw [extendPlan_of_known known, Except.ok.injEq, eq_comm]
    exact (and_iff_right known).symm
  · obtain ⟨before, sortation, after, rfl, hbefore, hunknown⟩ := exists_first_unknown known
    rw [extendPlan_of_unknown hbefore hunknown]
    exact ⟨nofun, fun h => absurd h.1 known⟩

/-- A plan fails when some column cannot be sorted by. -/
theorem extendPlan_fails_iff {columns : Columns} (plan : SortPlan) {orderBy : List Sortation} :
    (∃ e, (extendPlan columns plan orderBy).result = .error e) ↔
      ∃ sortation ∈ orderBy, Keyed.get? columns.sortations sortation.column = none := by
  by_cases known : ∀ sortation ∈ orderBy, Sorts columns sortation
  · rw [extendPlan_of_known known]
    constructor
    · nofun
    · rintro ⟨sortation, hmem, hnone⟩
      simpa [Sorts, Keyed.contains, hnone] using known sortation hmem
  · obtain ⟨before, sortation, after, rfl, hbefore, hunknown⟩ := exists_first_unknown known
    rw [extendPlan_of_unknown hbefore hunknown]
    refine ⟨fun _ => ⟨sortation, by simp, ?_⟩, fun _ => ⟨_, rfl⟩⟩
    simpa [Sorts, Keyed.contains] using hunknown

/-! ## The plan of a list of sortations -/

section SortPlan

variable {columns : Columns} {orderBy : List Sortation} {plan : SortPlan}

theorem sortPlan_eq_ok_iff :
    (sortPlan columns orderBy).result = .ok plan ↔
      (∀ sortation ∈ orderBy, Sorts columns sortation) ∧
        plan = SortPlan.empty.extend columns orderBy :=
  extendPlan_eq_ok_iff

theorem calls_sortPlan (h : (sortPlan columns orderBy).result = .ok plan) :
    (sortPlan columns orderBy).calls = sortCalls columns orderBy := by
  rw [sortPlan, extendPlan_of_known (sortPlan_eq_ok_iff.mp h).1]

theorem unset_sortPlan (h : (sortPlan columns orderBy).result = .ok plan) :
    plan.unset = sortUnset columns orderBy := by
  obtain ⟨-, rfl⟩ := sortPlan_eq_ok_iff.mp h
  rfl

/-- The keys are those that result from the fields and directions one by one. -/
theorem keys_sortPlan (h : (sortPlan columns orderBy).result = .ok plan) :
    plan.keys = Keyed.ofEntries
      ((sortEntries columns orderBy).map fun entry => (entry.1, .int32 entry.2.key)) := by
  obtain ⟨-, rfl⟩ := sortPlan_eq_ok_iff.mp h
  rw [Keyed.ofEntries, List.foldl_map]
  rfl

/-- The fields stand in the order in which they appear first. -/
theorem fields_sortPlan (h : (sortPlan columns orderBy).result = .ok plan) :
    Keyed.keys plan.keys = ((sortEntries columns orderBy).map Prod.fst).eraseDups := by
  rw [keys_sortPlan h, Keyed.keys_ofEntries, List.map_map]
  rfl

/-- A field has the direction of its last sortation. -/
theorem direction_sortPlan (h : (sortPlan columns orderBy).result = .ok plan) (field : String) :
    Keyed.get? plan.keys field =
      (Keyed.get? (sortEntries columns orderBy).reverse field).map (.int32 ·.key) := by
  rw [keys_sortPlan h, Keyed.get?_ofEntries, ← List.map_reverse]
  exact Keyed.get?_map (fun direction : Direction => Value.int32 direction.key) _ _

/-- Where there is a sortation there is a key. -/
theorem isEmpty_sortPlan (h : (sortPlan columns orderBy).result = .ok plan) :
    plan.isEmpty = orderBy.isEmpty := by
  obtain ⟨known, rfl⟩ := sortPlan_eq_ok_iff.mp h
  cases orderBy with
  | nil => rfl
  | cons sortation rest =>
    obtain ⟨field, hfield⟩ := Option.isSome_iff_exists.mp (known sortation List.mem_cons_self)
    have hfields := fields_sortPlan h
    simp only [sortEntries, List.filterMap_cons, hfield, Option.map_some, List.map_cons,
      List.eraseDups_cons] at hfields
    cases hkeys : (SortPlan.empty.extend columns (sortation :: rest)).keys with
    | nil =>
      rw [hkeys] at hfields
      cases hfields
    | cons first others =>
      rw [SortPlan.isEmpty, hkeys]
      rfl

end SortPlan

/-! ## Keys -/

/-- What can be told of the keys of every plan. -/
structure SortPlan.Sound (columns : Columns) (plan : SortPlan) : Prop where
  /-- No field occurs twice. -/
  distinct : Keyed.DistinctKeys plan.keys
  /-- Every field can be sorted by. -/
  listed : ∀ entry ∈ plan.keys, ∃ column, Keyed.get? columns.sortations column = some entry.1
  /-- Every value is a direction. -/
  directed : ∀ entry ∈ plan.keys, ∃ direction : Direction, entry.2 = .int32 direction.key

/-- Every key of a plan is asked for by a sortation, which gives its field and a direction. -/
theorem mem_keys_sortPlan {columns : Columns} {orderBy : List Sortation} {plan : SortPlan}
    (h : (sortPlan columns orderBy).result = .ok plan) {entry : String × Value}
    (hentry : entry ∈ plan.keys) :
    ∃ sortation ∈ orderBy, Keyed.get? columns.sortations sortation.column = some entry.1 ∧
      entry.2 = .int32 sortation.direction.key := by
  rw [keys_sortPlan h] at hentry
  obtain ⟨inserted, hinserted, rfl⟩ := List.mem_map.mp (Keyed.mem_ofEntries hentry)
  obtain ⟨sortation, hsortation, hmade⟩ := List.mem_filterMap.mp hinserted
  obtain ⟨field, hfield, rfl⟩ := Option.map_eq_some_iff.mp hmade
  exact ⟨sortation, hsortation, hfield, rfl⟩

theorem sound_sortPlan {columns : Columns} {orderBy : List Sortation} {plan : SortPlan}
    (h : (sortPlan columns orderBy).result = .ok plan) : plan.Sound columns := by
  refine ⟨keys_sortPlan h ▸ Keyed.distinctKeys_ofEntries _, fun entry hentry => ?_,
    fun entry hentry => ?_⟩
  · obtain ⟨sortation, -, hfield, -⟩ := mem_keys_sortPlan h hentry
    exact ⟨sortation.column, hfield⟩
  · obtain ⟨sortation, -, -, hdirection⟩ := mem_keys_sortPlan h hentry
    exact ⟨sortation.direction, hdirection⟩

/-- A store reads one key from every entry whose value is a direction. -/
theorem keys_of_directed {entries : Document}
    (h : ∀ entry ∈ entries, ∃ direction : Direction, entry.2 = .int32 direction.key) :
    ∃ keys, Sorting.keys entries = .ok keys ∧
      ∀ key ∈ keys, ∃ entry ∈ entries, key.path = Path.ofText entry.1 := by
  induction entries with
  | nil => exact ⟨[], rfl, by simp⟩
  | cons entry rest ih =>
    obtain ⟨⟨direction, hdirection⟩, hrest⟩ := List.forall_mem_cons.mp h
    obtain ⟨keys, hkeys, hpaths⟩ := ih hrest
    have hread : Sorting.direction? entry.2 = some (direction == .descending) := by
      rw [hdirection]
      cases direction <;> rfl
    refine ⟨⟨Path.ofText entry.1, direction == .descending⟩ :: keys, ?_, ?_⟩
    · rw [Sorting.keys, hread, hkeys]
      rfl
    · intro key hkey
      rcases List.mem_cons.mp hkey with rfl | hmem
      · exact ⟨entry, List.mem_cons_self, rfl⟩
      · obtain ⟨entry', hentry', hpath⟩ := hpaths key hmem
        exact ⟨entry', List.mem_cons_of_mem _ hentry', hpath⟩

/-! ## What callbacks compute and name -/

section Callbacks

variable {columns : Columns} {orderBy : List Sortation} {plan : SortPlan}

theorem sortEffect_eq (columns : Columns) (sortation : Sortation) :
    Keyed.get? columns.sortCallbacks sortation.column = some (sortEffect columns sortation) ∨
      sortEffect columns sortation = ⟨[], []⟩ := by
  unfold sortEffect
  cases Keyed.get? columns.sortCallbacks sortation.column with
  | none => exact .inr rfl
  | some callback => exact .inl rfl

/-- The names of a plan are those of callbacks. -/
theorem mem_unset_sortPlan (h : (sortPlan columns orderBy).result = .ok plan) {name : String}
    (hname : name ∈ plan.unset) :
    ∃ column callback, Keyed.get? columns.sortCallbacks column = some callback ∧
      name ∈ callback.unset := by
  rw [unset_sortPlan h] at hname
  obtain ⟨sortation, -, hnamed⟩ := List.mem_flatMap.mp hname
  rcases sortEffect_eq columns sortation with hcallback | hnone
  · exact ⟨_, _, hcallback, hnamed⟩
  · rw [hnone] at hnamed
    cases hnamed

/-- The plan has the names of every callback that was run on the way to it. -/
theorem named_calls_sortPlan (h : (sortPlan columns orderBy).result = .ok plan)
    {call : BuilderCall} (hcall : call ∈ (sortPlan columns orderBy).calls) :
    ∃ column callback, Keyed.get? columns.sortCallbacks column = some callback ∧
      call ∈ callback.calls ∧ ∀ name ∈ callback.unset, name ∈ plan.unset := by
  rw [calls_sortPlan h] at hcall
  rw [unset_sortPlan h]
  obtain ⟨sortation, hmem, hmade⟩ := List.mem_flatMap.mp hcall
  rcases sortEffect_eq columns sortation with hcallback | hnone
  · exact ⟨_, _, hcallback, hmade, fun name hname => List.mem_flatMap.mpr ⟨_, hmem, hname⟩⟩
  · rw [hnone] at hmade
    cases hmade

end Callbacks

end DataGrid.Compile

namespace DataGrid.Compiler

open Fallible Compilation Compile

/-- With a plan, the step sorts by its keys and then removes its names, if there are any. -/
theorem sortations_of_plan {c : Compiler} {plan : SortPlan}
    (h : (sortPlan c.columns c.request.orderBy).result = .ok plan) :
    c.sortations = ⟨(sortPlan c.columns c.request.orderBy).calls ++
      if plan.keys.isEmpty then []
      else .sort plan.keys :: if plan.unset.isEmpty then [] else [.unset plan.unset], .ok ()⟩ := by
  have hplan : sortPlan c.columns c.request.orderBy =
      ⟨(sortPlan c.columns c.request.orderBy).calls, .ok plan⟩ := by rw [← h]
  rw [sortations, hplan, mk_ok_bind, SortPlan.isEmpty]
  split
  · rfl
  · split <;> rfl

theorem sortations_eq_ok {c : Compiler} (h : c.sortations.result = .ok ()) :
    ∃ plan, (sortPlan c.columns c.request.orderBy).result = .ok plan ∧
      c.sortations.calls = (sortPlan c.columns c.request.orderBy).calls ++
        if plan.keys.isEmpty then []
        else .sort plan.keys :: if plan.unset.isEmpty then [] else [.unset plan.unset] := by
  have hresult := h
  rw [sortations, result_bind, bind_eq_ok] at hresult
  obtain ⟨plan, hplan, -⟩ := hresult
  exact ⟨plan, hplan, congrArg Compilation.calls (sortations_of_plan hplan)⟩

/-- A request sorts by a column that cannot be sorted by. -/
def RefusesSortations (c : Compiler) : Prop :=
  ∃ sortation ∈ c.request.orderBy, Keyed.get? c.columns.sortations sortation.column = none

theorem sortations_fail_iff (c : Compiler) :
    (∃ e, c.sortations.result = .error e) ↔ c.RefusesSortations := by
  rw [RefusesSortations, ← extendPlan_fails_iff .empty]
  unfold sortations sortPlan
  rw [result_bind]
  rcases (extendPlan c.columns .empty c.request.orderBy).result with e | plan
  · simp
  · rw [ok_bind]
    split
    · simp
    · split <;> simp

/-- Without sort callbacks the only call is the sorting, if there is anything to sort by. -/
theorem sortations_calls {c : Compiler} (hcallbacks : c.columns.sortCallbacks = [])
    (h : c.sortations.result = .ok ()) :
    ∃ plan : SortPlan, (sortPlan c.columns c.request.orderBy).result = .ok plan ∧
      c.sortations.calls = if plan.keys.isEmpty then [] else [.sort plan.keys] := by
  obtain ⟨plan, hplan, hcalls⟩ := sortations_eq_ok h
  have hnone : ∀ sortation, sortEffect c.columns sortation = ⟨[], []⟩ := by
    intro sortation
    rw [sortEffect, hcallbacks]
    rfl
  have hquiet : (sortPlan c.columns c.request.orderBy).calls = [] := by
    rw [calls_sortPlan hplan]
    simp [sortCalls, hnone]
  have hunset : plan.unset = [] := by
    rw [unset_sortPlan hplan]
    simp [sortUnset, hnone]
  refine ⟨plan, hplan, ?_⟩
  rw [hcalls, hquiet, hunset]
  rfl

/-! ## The whole step -/

theorem sortations_of_known {c : Compiler}
    (known : ∀ sortation ∈ c.request.orderBy, Sorts c.columns sortation) :
    let plan := SortPlan.empty.extend c.columns c.request.orderBy
    c.sortations = ⟨sortCalls c.columns c.request.orderBy ++
      if c.request.orderBy = [] then []
      else .sort plan.keys :: if plan.unset = [] then [] else [.unset plan.unset], .ok ()⟩ := by
  intro plan
  have hplan : (sortPlan c.columns c.request.orderBy).result = .ok plan :=
    sortPlan_eq_ok_iff.mpr ⟨known, rfl⟩
  have hempty : plan.keys.isEmpty = c.request.orderBy.isEmpty := isEmpty_sortPlan hplan
  rw [sortations_of_plan hplan, calls_sortPlan hplan, hempty]
  simp only [List.isEmpty_iff]

/-- The step fails at the first sortation by an unknown column. -/
theorem sortations_of_unknown {c : Compiler} {before after : List Sortation}
    {sortation : Sortation} (horder : c.request.orderBy = before ++ sortation :: after)
    (known : ∀ earlier ∈ before, Sorts c.columns earlier)
    (unknown : Sorts c.columns sortation = false) :
    c.sortations = ⟨sortCalls c.columns before,
      .error (.missingSortationColumn sortation.column c.columns.resource)⟩ := by
  rw [sortations, sortPlan, horder, extendPlan_of_unknown known unknown]
  rfl

/-- A field that is sorted by twice, under one column or under two, keeps its first place and
takes its last direction. When all columns are known, every callback runs once for each time its
column is named; behind the calls of the callbacks is the sorting by the fields, if there are
any, and the removal of the names that the callbacks have given, if there are any. Otherwise the
callbacks of the sortations in front of the first unknown column have run, and that is all. -/
theorem sortations_plan (c : Compiler) :
    let orderBy := c.request.orderBy
    let entries := sortEntries c.columns orderBy
    ((∀ sortation ∈ orderBy, Sorts c.columns sortation) →
      ∃ plan, sortPlan c.columns orderBy = ⟨sortCalls c.columns orderBy, .ok plan⟩ ∧
        Keyed.keys plan.keys = (entries.map Prod.fst).eraseDups ∧
        (∀ field, Keyed.get? plan.keys field =
          (Keyed.get? entries.reverse field).map (.int32 ·.key)) ∧
        plan.unset = sortUnset c.columns orderBy ∧
        (plan.isEmpty = true ↔ orderBy = []) ∧
        c.sortations.result = .ok () ∧
        c.sortations.calls = sortCalls c.columns orderBy ++
          if orderBy = [] then []
          else .sort plan.keys :: if plan.unset = [] then [] else [.unset plan.unset]) ∧
    ((∃ sortation ∈ orderBy, Sorts c.columns sortation = false) →
      ∃ before sortation after, orderBy = before ++ sortation :: after ∧
        (∀ earlier ∈ before, Sorts c.columns earlier) ∧ Sorts c.columns sortation = false ∧
        c.sortations.result =
          .error (.missingSortationColumn sortation.column c.columns.resource) ∧
        c.sortations.calls = sortCalls c.columns before) := by
  intro orderBy entries
  constructor
  · intro known
    have hplan := extendPlan_of_known known .empty
    have hresult := congrArg Compilation.result hplan
    have hstep := sortations_of_known known
    refine ⟨_, hplan, fields_sortPlan hresult, direction_sortPlan hresult,
      unset_sortPlan hresult, ?_, congrArg Compilation.result hstep,
      congrArg Compilation.calls hstep⟩
    rw [isEmpty_sortPlan hresult, List.isEmpty_iff]
  · rintro ⟨sortation, hmem, hunknown⟩
    have hsome : ¬ ∀ sortation ∈ orderBy, Sorts c.columns sortation = true := fun known =>
      Bool.false_ne_true (hunknown.symm.trans (known sortation hmem))
    obtain ⟨before, first, after, horder, hbefore, hfirst⟩ := exists_first_unknown hsome
    have hstep := sortations_of_unknown horder hbefore hfirst
    exact ⟨before, first, after, horder, hbefore, hfirst, congrArg Compilation.result hstep,
      congrArg Compilation.calls hstep⟩

/-- A shelf on which authors go by two names, and which computes the length of a title. -/
def namesakes : Columns :=
  ((((Columns.new "shelf").sortation "author" "author").sortation "writer" "author").sortation
    "title" "title").sortation "length" "length" |>.sortCallback "length"
      ⟨[.addFields [("length", .document [("$strLenCP", .string "$title")])]], ["length"]⟩

/-- Authors come first, but under the direction that is asked of writers. -/
def sorted : Request :=
  { Request.default with orderBy := [⟨"author", .ascending⟩, ⟨"length", .descending⟩,
      ⟨"title", .ascending⟩, ⟨"writer", .descending⟩] }

/-- After the length there is a column that the shelf does not have. -/
def unsorted : Request :=
  { Request.default with orderBy := [⟨"author", .ascending⟩, ⟨"length", .descending⟩,
      ⟨"price", .ascending⟩, ⟨"length", .ascending⟩] }

theorem sortations_plan_namesakes :
    let c : Compiler := ⟨namesakes, sorted, false⟩
    let refused : Compiler := ⟨namesakes, unsorted, false⟩
    (∀ sortation ∈ sorted.orderBy, Sorts namesakes sortation) ∧
      (∃ plan, sortPlan namesakes sorted.orderBy =
          ⟨sortCalls namesakes sorted.orderBy, .ok plan⟩ ∧
        Keyed.keys plan.keys = ["author", "length", "title"] ∧
        Keyed.get? plan.keys "author" = some (.int32 Direction.descending.key) ∧
        plan.unset = ["length"] ∧
        c.sortations.calls = sortCalls namesakes sorted.orderBy ++
          [.sort plan.keys, .unset ["length"]]) ∧
      (∃ sortation ∈ unsorted.orderBy, Sorts namesakes sortation = false) ∧
      ∃ before, (∃ sortation after, unsorted.orderBy = before ++ sortation :: after) ∧
        refused.sortations.calls = sortCalls namesakes before := by
  intro c refused
  obtain ⟨hplanned, -⟩ := sortations_plan c
  obtain ⟨-, hrefused⟩ := sortations_plan refused
  have known : ∀ sortation ∈ sorted.orderBy, Sorts namesakes sortation := by decide
  have unknown : ∃ sortation ∈ unsorted.orderBy, Sorts namesakes sortation = false := by decide
  obtain ⟨plan, hplan, hfields, hdirection, hunset, -, -, hcalls⟩ := hplanned known
  obtain ⟨before, sortation, after, horder, -, -, -, hbefore⟩ := hrefused unknown
  refine ⟨known, ⟨plan, hplan, hfields, hdirection "author", hunset, ?_⟩, unknown, before,
    ⟨sortation, after, horder⟩, hbefore⟩
  rw [hcalls, hunset]
  rfl

/-- Where nothing is sorted by, nothing is sorted, although every column is known. -/
theorem nothing_to_sort :
    ¬ ∀ c : Compiler, (∀ sortation ∈ c.request.orderBy, Sorts c.columns sortation) →
      ∃ keys behind, c.sortations.calls =
        sortCalls c.columns c.request.orderBy ++ .sort keys :: behind := by
  intro h
  obtain ⟨keys, behind, hcalls⟩ := h ⟨namesakes, .default, false⟩ nofun
  cases hcalls

end DataGrid.Compiler
