import DataGrid.Proofs.Compile.Acceptance

/-!
# DataGrid.Proofs.Columns.Registrations -- a configuration is what was registered

A configuration is built by registrations, one after another, of five kinds: condition columns,
sortation columns, searchable columns, and callbacks for conditions and for sorting. Each kind has
a part of the configuration to itself, so the configuration is determined by the registrations of
each kind in their order, however the kinds are mixed. A name stands for what it was given last.
The searchable columns are those that were named, each at the place of its first registration, and
a search accepts them if there are any and all of them are condition columns in the end.
-/

namespace DataGrid

open Fallible

/-! ## Registrations -/

/-- A step in building a configuration. -/
inductive Registration where
  | condition (logical physical : String)
  | sortation (logical physical : String)
  | search (logical : String)
  | conditionCallback (logical : String) (callback : ConditionCallback)
  | sortCallback (logical : String) (callback : SortCallback)

namespace Registration

inductive Kind where
  | condition
  | sortation
  | search
  | conditionCallback
  | sortCallback
deriving DecidableEq

def kind : Registration → Kind
  | condition .. => .condition
  | sortation .. => .sortation
  | search .. => .search
  | conditionCallback .. => .conditionCallback
  | sortCallback .. => .sortCallback

/-! What a registration of one kind says. -/

@[simp] def condition? : Registration → Option (String × String)
  | condition logical physical => some (logical, physical)
  | _ => none

@[simp] def sortation? : Registration → Option (String × String)
  | sortation logical physical => some (logical, physical)
  | _ => none

@[simp] def search? : Registration → Option String
  | search logical => some logical
  | _ => none

@[simp] def conditionCallback? : Registration → Option (String × ConditionCallback)
  | conditionCallback logical callback => some (logical, callback)
  | _ => none

@[simp] def sortCallback? : Registration → Option (String × SortCallback)
  | sortCallback logical callback => some (logical, callback)
  | _ => none

/-- What the registrations of one kind say can be read off those of that kind alone. -/
theorem filterMap_eq_of_kind {α : Type} {say : Registration → Option α} {k : Kind}
    (h : ∀ call x, say call = some x → call.kind = k) {calls others : List Registration}
    (same : others.filter (·.kind = k) = calls.filter (·.kind = k)) :
    others.filterMap say = calls.filterMap say := by
  have hkind (calls : List Registration) :
      calls.filterMap say = (calls.filter (·.kind = k)).filterMap say := by
    rw [List.filterMap_filter]
    refine List.filterMap_congr fun call _ => ?_
    cases hsay : say call with
    | none => simp
    | some x => simp [h call x hsay]
  rw [hkind, same, ← hkind]

end Registration

namespace Columns

def register (c : Columns) : Registration → Columns
  | .condition logical physical => c.condition logical physical
  | .sortation logical physical => c.sortation logical physical
  | .search logical => c.search logical
  | .conditionCallback logical callback => c.conditionCallback logical callback
  | .sortCallback logical callback => c.sortCallback logical callback

/-- The configuration of a resource after registrations. -/
def built (resource : String) (calls : List Registration) : Columns :=
  calls.foldl register (new resource)

theorem search_eq (c : Columns) (logical : String) :
    c.search logical = { c with
      searchable := if logical ∈ c.searchable then c.searchable
        else c.searchable ++ [logical] } := by
  rw [search]
  simp only [List.contains_iff_mem]
  split <;> rfl

/-! ## Kinds do not bear on each other -/

/-- Registrations of two kinds may change places. -/
theorem register_comm (c : Columns) {a b : Registration} (h : a.kind ≠ b.kind) :
    (c.register a).register b = (c.register b).register a := by
  cases a <;> cases b
  case condition.condition | sortation.sortation | search.search |
      conditionCallback.conditionCallback | sortCallback.sortCallback => exact absurd rfl h
  -- the other pairs change different parts of the configuration
  all_goals
    simp only [register, search_eq]
    rfl

/-- By induction on the registrations: each adds to the part of its kind. -/
theorem built_eq (resource : String) (calls : List Registration) :
    built resource calls =
      { resource
        conditions := Keyed.ofEntries (calls.filterMap Registration.condition?)
        sortations := Keyed.ofEntries (calls.filterMap Registration.sortation?)
        searchable := (calls.filterMap Registration.search?).eraseDups
        conditionCallbacks := Keyed.ofEntries (calls.filterMap Registration.conditionCallback?)
        sortCallbacks := Keyed.ofEntries (calls.filterMap Registration.sortCallback?) } := by
  induction calls using List.reverseRecOn with
  | nil => rfl
  | append_singleton calls call ih =>
    have hstep : built resource (calls ++ [call]) = (built resource calls).register call :=
      List.foldl_append
    rw [hstep, ih]
    simp only [List.filterMap_append, List.filterMap_cons, List.filterMap_nil]
    cases call with
    | condition logical physical => simp [register, condition, Keyed.ofEntries_concat]
    | sortation logical physical => simp [register, sortation, Keyed.ofEntries_concat]
    | search logical => simp [register, search_eq, Keyed.eraseDups_concat]
    | conditionCallback logical callback =>
      simp [register, conditionCallback, Keyed.ofEntries_concat]
    | sortCallback logical callback => simp [register, sortCallback, Keyed.ofEntries_concat]

/-- The kinds may be mixed in any way. -/
theorem built_congr (resource : String) {calls others : List Registration}
    (same : ∀ kind, others.filter (·.kind = kind) = calls.filter (·.kind = kind)) :
    built resource others = built resource calls := by
  have hsame {α : Type} {say : Registration → Option α} (kind : Registration.Kind)
      (h : ∀ call x, say call = some x → call.kind = kind) :
      others.filterMap say = calls.filterMap say :=
    Registration.filterMap_eq_of_kind h (same kind)
  rw [built_eq, built_eq, hsame .condition, hsame .sortation, hsame .search,
    hsame .conditionCallback, hsame .sortCallback]
  -- only a registration of the kind says something
  all_goals
    intro call x hsay
    cases call <;> cases hsay
    rfl

/-! ## Names stand for what they were given last -/

/-- A look-up answers with what a name was given last, and fails on a name that was given
nothing. -/
def Answers (resolve : String → Except GridError String) (given : List (String × String))
    (missing : String → GridError) : Prop :=
  ∀ name, (∀ field, resolve name = .ok field ↔ Keyed.GivenLast given name field) ∧
    ∀ e, resolve name = .error e ↔ name ∉ Keyed.keys given ∧ e = missing name

theorem answers_of_table {resolve : String → Except GridError String}
    {given : List (String × String)} {missing : String → GridError}
    (h : ∀ name, resolve name =
      (Keyed.get? (Keyed.ofEntries given) name).elim (.error (missing name)) .ok) :
    Answers resolve given missing := by
  intro name
  simp only [h name, ← Keyed.get?_ofEntries_eq_some_iff, ← Keyed.get?_ofEntries_eq_none_iff]
  cases Keyed.get? (Keyed.ofEntries given) name with
  | none => simp [eq_comm]
  | some field => simp

theorem resolveCondition_eq (c : Columns) (name : String) :
    c.resolveCondition name = (Keyed.get? c.conditions name).elim
      (.error (.missingConditionColumn name c.resource)) .ok := by
  rw [resolveCondition]
  cases Keyed.get? c.conditions name <;> rfl

theorem resolveSortation_eq (c : Columns) (name : String) :
    c.resolveSortation name = (Keyed.get? c.sortations name).elim
      (.error (.missingSortationColumn name c.resource)) .ok := by
  rw [resolveSortation]
  cases Keyed.get? c.sortations name <;> rfl

/-! ## What a search needs -/

theorem requireSearchable_eq_ok_iff {c : Columns} {columns : List (String × String)} :
    c.requireSearchable = .ok columns ↔ c.searchable ≠ [] ∧
      List.Forall₂ (fun name column => column.1 = name ∧
        Keyed.get? c.conditions name = some column.2) c.searchable columns := by
  rw [← resolveSearchable_eq_ok_iff, requireSearchable]
  cases c.searchable <;> simp

theorem exists_requireSearchable_iff {c : Columns} :
    (∃ columns, c.requireSearchable = .ok columns) ↔ c.searchable ≠ [] ∧
      ∀ name ∈ c.searchable, Keyed.contains c.conditions name = true := by
  rw [← failure?_eq_none_iff, Compiler.failure?_requireSearchable, List.head?_eq_none_iff,
    Compiler.searchFaults_eq_nil_iff]

/-- The first searchable column that is no condition column is the one that is reported. -/
theorem requireSearchable_eq_error_iff {c : Columns} {e : GridError} :
    c.requireSearchable = .error e ↔
      (c.searchable = [] ∧ e = .missingSearchColumn none c.resource) ∨
      ∃ before name after, c.searchable = before ++ name :: after ∧
        (∀ earlier ∈ before, Keyed.contains c.conditions earlier = true) ∧
        Keyed.contains c.conditions name = false ∧
        e = .missingSearchColumn (some name) c.resource := by
  rw [← failure?_eq_some_iff, Compiler.failure?_requireSearchable, searchFaults]
  split
  · next hempty =>
    rw [List.isEmpty_iff] at hempty
    constructor
    · intro h
      exact .inl ⟨hempty, (Option.some.inj h).symm⟩
    · rintro (⟨-, rfl⟩ | ⟨before, name, after, h, -⟩)
      · rfl
      · simp [hempty] at h
  · next hsome =>
    rw [List.isEmpty_iff] at hsome
    simp only [List.head?_map, List.head?_filter, Option.map_eq_some_iff,
      List.find?_eq_some_iff_append, Bool.not_not, Bool.not_eq_true', hsome, false_and, false_or]
    constructor
    · rintro ⟨name, ⟨hname, before, after, hsplit, hbefore⟩, rfl⟩
      exact ⟨before, name, after, hsplit, hbefore, hname, rfl⟩
    · rintro ⟨before, name, after, hsplit, hbefore, hname, rfl⟩
      exact ⟨name, ⟨hname, before, after, hsplit, hbefore⟩, rfl⟩

/-! ## The whole configuration -/

/-- A configuration is what was registered. Conditions and sortations resolve to the field that the
name was given last, and are refused with the name and the resource if it was given none; callbacks
are those that were given last. The searchable columns are those that were named, each once and in
the order of their first registrations. A search can be made if there is one and all of them are
condition columns, whenever that was registered; then it gets their fields in that order, and
otherwise the first that is no condition column is reported. Registrations of the same kinds in the
same orders build the same configuration, and two of different kinds may change places. -/
theorem columns_reflect_registrations (resource : String) (calls : List Registration) :
    let c := built resource calls
    let given := calls.filterMap Registration.condition?
    let named := calls.filterMap Registration.search?
    Answers c.resolveCondition given (.missingConditionColumn · resource) ∧
    Answers c.resolveSortation (calls.filterMap Registration.sortation?)
      (.missingSortationColumn · resource) ∧
    (∀ name callback, Keyed.get? c.conditionCallbacks name = some callback ↔
      Keyed.GivenLast (calls.filterMap Registration.conditionCallback?) name callback) ∧
    (∀ name callback, Keyed.get? c.sortCallbacks name = some callback ↔
      Keyed.GivenLast (calls.filterMap Registration.sortCallback?) name callback) ∧
    (c.searchable.Nodup ∧ (∀ name, name ∈ c.searchable ↔ name ∈ named) ∧
      c.searchable.Pairwise fun a b => named.idxOf a < named.idxOf b) ∧
    ((∃ columns, c.requireSearchable = .ok columns) ↔
      c.searchable ≠ [] ∧ ∀ name ∈ c.searchable, name ∈ Keyed.keys given) ∧
    (∀ columns, c.requireSearchable = .ok columns ↔ c.searchable ≠ [] ∧
      List.Forall₂ (fun name column => column.1 = name ∧ Keyed.GivenLast given name column.2)
        c.searchable columns) ∧
    (∀ e, c.requireSearchable = .error e ↔
      (c.searchable = [] ∧ e = .missingSearchColumn none resource) ∨
      ∃ before name after, c.searchable = before ++ name :: after ∧
        (∀ earlier ∈ before, earlier ∈ Keyed.keys given) ∧ name ∉ Keyed.keys given ∧
        e = .missingSearchColumn (some name) resource) ∧
    (∀ others : List Registration,
      (∀ kind, others.filter (·.kind = kind) = calls.filter (·.kind = kind)) →
        built resource others = c) ∧
    ∀ (d : Columns) (a b : Registration), a.kind ≠ b.kind →
      (d.register a).register b = (d.register b).register a := by
  intro c given named
  have hc := built_eq resource calls
  have hresource : c.resource = resource := congrArg Columns.resource hc
  have hconditions : c.conditions = Keyed.ofEntries given := congrArg Columns.conditions hc
  have hsortations : c.sortations = Keyed.ofEntries _ := congrArg Columns.sortations hc
  have hsearchable : c.searchable = named.eraseDups := congrArg Columns.searchable hc
  have hconditionCallbacks : c.conditionCallbacks = Keyed.ofEntries _ :=
    congrArg Columns.conditionCallbacks hc
  have hsortCallbacks : c.sortCallbacks = Keyed.ofEntries _ := congrArg Columns.sortCallbacks hc
  have hlisted (name : String) : Keyed.contains c.conditions name = true ↔
      name ∈ Keyed.keys given := by
    rw [hconditions, Keyed.contains_ofEntries_iff]
  have horder : c.searchable.Pairwise fun a b => named.idxOf a < named.idxOf b :=
    hsearchable ▸ Keyed.pairwise_eraseDups named
  refine ⟨?conditions, ?sortations, fun name callback => ?conditionCallbacks,
    fun name callback => ?sortCallbacks, ⟨?once, fun name => ?listed, horder⟩, ?succeeds,
    fun columns => ?found, fun e => ?missing, fun others => built_congr resource,
    fun d a b => register_comm d⟩
  case conditions =>
    refine answers_of_table fun name => ?_
    rw [resolveCondition_eq, hconditions, hresource]
  case sortations =>
    refine answers_of_table fun name => ?_
    rw [resolveSortation_eq, hsortations, hresource]
  case conditionCallbacks =>
    rw [hconditionCallbacks, Keyed.get?_ofEntries_eq_some_iff]
  case sortCallbacks =>
    rw [hsortCallbacks, Keyed.get?_ofEntries_eq_some_iff]
  case once =>
    refine horder.imp fun hlt heq => ?_
    rw [heq] at hlt
    exact Nat.lt_irrefl _ hlt
  case listed => rw [hsearchable, List.mem_eraseDups]
  case succeeds => simp only [exists_requireSearchable_iff, hlisted]
  case found =>
    simp only [requireSearchable_eq_ok_iff, hconditions, Keyed.get?_ofEntries_eq_some_iff]
  case missing =>
    simp only [requireSearchable_eq_error_iff, ← Bool.not_eq_true, hlisted, hresource]

/-- Registrations of which a title is given a field twice, and the columns of a search are named
before they are condition columns. -/
def reissued : List Registration :=
  [.search "author", .condition "title" "caption", .search "title", .sortation "title" "caption",
    .condition "title" "title", .search "author", .condition "author" "author"]

/-- The same registrations, one kind behind the other. -/
def reissuedByKind : List Registration :=
  [.condition "title" "caption", .condition "title" "title", .condition "author" "author",
    .search "author", .search "title", .search "author", .sortation "title" "caption"]

theorem columns_reflect_registrations_reissued :
    let c := built "shelf" reissued
    c.resolveCondition "title" = .ok "title" ∧
    c.resolveSortation "author" = .error (.missingSortationColumn "author" "shelf") ∧
    c.requireSearchable = .ok [("author", "author"), ("title", "title")] ∧
    (built "shelf" (reissued.take 6)).requireSearchable =
      .error (.missingSearchColumn (some "author") "shelf") ∧
    built "shelf" reissuedByKind = c ∧
    ((new "shelf").search "title").condition "title" "title" =
      ((new "shelf").condition "title" "title").search "title" := by
  intro c
  obtain ⟨hcondition, hsortation, -, -, -, -, hfound, -, hkinds, hcomm⟩ :=
    columns_reflect_registrations "shelf" reissued
  obtain ⟨-, -, -, -, -, -, -, hmissing, -⟩ :=
    columns_reflect_registrations "shelf" (reissued.take 6)
  have hlast : Keyed.GivenLast (reissued.filterMap Registration.condition?) "title" "title" :=
    ⟨[("title", "caption")], [("author", "author")], rfl, by decide⟩
  have hauthor : Keyed.GivenLast (reissued.filterMap Registration.condition?) "author" "author" :=
    ⟨[("title", "caption"), ("title", "title")], [], rfl, by decide⟩
  refine ⟨((hcondition "title").1 "title").mpr hlast,
    ((hsortation "author").2 _).mpr ⟨by decide, rfl⟩, (hfound _).mpr ⟨by decide, ?_⟩,
    (hmissing _).mpr (.inr ⟨[], "author", ["title"], rfl, by simp, by decide, rfl⟩), ?_, ?_⟩
  · exact .cons ⟨rfl, hauthor⟩ (.cons ⟨rfl, hlast⟩ .nil)
  · exact hkinds reissuedByKind fun kind => by cases kind <;> rfl
  · exact hcomm (new "shelf") (.search "title") (.condition "title" "title") (by decide)

end Columns
end DataGrid
