import DataGrid.Compile.Compiler
import DataGrid.Proofs.Compile.Compilation
import Mathlib.Data.List.Forall2

/-!
# DataGrid.Proofs.Compile.Branches -- what is done for one condition

A condition is left to the callback of its column, or to the general table when the column
has none, and so is each column of a search. What is done for one of them is a branch: the
builder calls on the way, and a filter. To compile a condition is either to fail without any
call, or to do a branch.
-/

namespace DataGrid

open Fallible Compilation Compile

/-- What is done for one condition, or for one column of a search. -/
structure Branch where
  calls : List BuilderCall
  filter : Document

namespace Branch

/-- The compilation that a branch records. -/
def compiled (branch : Branch) : Compilation Document := ⟨branch.calls, .ok branch.filter⟩

/-- The compilation of several branches, one behind the other. -/
def compiledAll (branches : List Branch) : Compilation (List Document) :=
  ⟨branches.flatMap calls, .ok (branches.map filter)⟩

theorem compiledAll_cons (branch : Branch) (rest : List Branch) :
    (branch.compiled >>= fun first => compiledAll rest >>= fun others =>
      (return first :: others : Compilation (List Document))) = compiledAll (branch :: rest) := by
  simp [compiled, compiledAll]

end Branch

/-! ## Branches of a column -/

namespace Columns

/-- What the callback of a column does, or the general filter if there is no callback. A
callback that writes no clause asks for nothing. -/
def branch (columns : Columns) (column field : String) (values : List Value)
    (operator : Option Operator) (general : Document) : Branch :=
  match Keyed.get? columns.conditionCallbacks column with
  | some callback =>
    let effect := callback values field operator
    ⟨effect.calls, effect.predicate.toDocument?.getD []⟩
  | none => ⟨[], general⟩

/-- The branch of a column that is compared with a value. -/
def comparison (columns : Columns) (column field : String) (operator : Operator)
    (value : Value) : Branch :=
  columns.branch column field (normalize value) (some operator)
    (Compile.condition field (some operator) (normalize value))

/-- The branch of a condition. Without a value, where its operator needs none, a condition
compares with the empty text. -/
inductive Compares (columns : Columns) : Condition → Branch → Prop where
  | valued {column field : String} {operator : Operator} {value : Value}
      (resolved : Keyed.get? columns.conditions column = some field) :
      columns.Compares ⟨some column, some operator, some value⟩
        (columns.comparison column field operator value)
  | valueless {column field : String} {operator : Operator}
      (optional : operator.requiresValue = false)
      (resolved : Keyed.get? columns.conditions column = some field) :
      columns.Compares ⟨some column, some operator, none⟩
        (columns.comparison column field operator (.string ""))

/-- The branch of a column in which a term is searched. -/
inductive Searches (columns : Columns) (term : String) : String → Branch → Prop where
  | term {column field : String}
      (resolved : Keyed.get? columns.conditions column = some field) :
      columns.Searches term column (columns.branch column field [.string term] none
        (likeCondition field (.string term) .contains))

end Columns

/-! ## What has been compiled -/

namespace Branch

variable {α : Type} {f : α → Compilation Document} {R : α → Branch → Prop}

/-- What goes through a list and succeeds has done its branches in order, if each of its steps
that succeeds does a branch. -/
theorem forEach_compiled
    (step : ∀ x filter, (f x).result = .ok filter → ∃ branch, R x branch ∧ f x = branch.compiled)
    {xs : List α} {filters : List Document} (h : (forEach f xs).result = .ok filters) :
    ∃ branches, List.Forall₂ R xs branches ∧ forEach f xs = compiledAll branches := by
  induction xs generalizing filters with
  | nil => exact ⟨[], .nil, rfl⟩
  | cons x xs ih =>
    rw [forEach, result_bind, bind_eq_ok] at h
    obtain ⟨first, hfirst, h⟩ := h
    rw [result_bind, bind_eq_ok] at h
    obtain ⟨others, hothers, -⟩ := h
    obtain ⟨branch, hbranch, hx⟩ := step x first hfirst
    obtain ⟨branches, hbranches, hxs⟩ := ih hothers
    refine ⟨branch :: branches, .cons hbranch hbranches, ?_⟩
    rw [forEach, hx, hxs, compiledAll_cons]

end Branch

namespace Columns

theorem branch_of_general {columns : Columns} {column : String}
    (general : Keyed.get? columns.conditionCallbacks column = none) (field : String)
    (values : List Value) (operator : Option Operator) (filter : Document) :
    columns.branch column field values operator filter = ⟨[], filter⟩ := by
  rw [branch, general]

theorem searchBranch_eq (columns : Columns) (term : String) (column : String × String) :
    searchBranch columns term column =
      (columns.branch column.1 column.2 [.string term] none
        (likeCondition column.2 (.string term) .contains)).compiled := by
  unfold searchBranch branch
  cases Keyed.get? columns.conditionCallbacks column.1 <;> rfl

/-- Columns are resolved one for one, in their order. -/
theorem resolveSearchable_eq_ok_iff {c : Columns} {names : List String}
    {columns : List (String × String)} :
    c.resolveSearchable names = .ok columns ↔
      List.Forall₂ (fun name column => column.1 = name ∧
        Keyed.get? c.conditions name = some column.2) names columns := by
  induction names generalizing columns with
  | nil => simp [resolveSearchable, eq_comm]
  | cons name rest ih =>
    rw [resolveSearchable, List.forall₂_cons_left_iff]
    cases hfield : Keyed.get? c.conditions name with
    | none => simp
    | some field =>
      simp only [map_eq_ok, ih]
      constructor
      · rintro ⟨others, hothers, rfl⟩
        exact ⟨(name, field), others, ⟨rfl, rfl⟩, hothers, rfl⟩
      · rintro ⟨⟨_, _⟩, others, ⟨rfl, hget⟩, hothers, rfl⟩
        obtain rfl := Option.some.inj hget
        exact ⟨others, hothers, rfl⟩

/-- The columns of a search that are resolved are searched in their order. -/
theorem forEach_searchBranch {columns : Columns} (term : String) {names : List String}
    {searchable : List (String × String)}
    (h : columns.resolveSearchable names = .ok searchable) :
    ∃ branches, List.Forall₂ (columns.Searches term) names branches ∧
      forEach (searchBranch columns term) searchable = Branch.compiledAll branches := by
  rw [resolveSearchable_eq_ok_iff] at h
  induction h with
  | nil => exact ⟨[], .nil, rfl⟩
  | @cons name column rest others hcolumn _ ih =>
    obtain ⟨branches, hsearches, hbranches⟩ := ih
    obtain ⟨rfl, hfield⟩ := hcolumn
    refine ⟨_ :: branches, .cons (.term hfield) hsearches, ?_⟩
    rw [forEach, searchBranch_eq, hbranches, Branch.compiledAll_cons]

end Columns

namespace Compiler

theorem compile_cases (c : Compiler) (column : String) (operator : Operator) (value : Value) :
    (∃ e, condition.compile c column operator value = .fail e) ∨
      ∃ field, Keyed.get? c.columns.conditions column = some field ∧
        condition.compile c column operator value =
          (c.columns.comparison column field operator value).compiled := by
  unfold condition.compile Columns.resolveCondition
  cases Keyed.get? c.columns.conditions column with
  | none => exact .inl ⟨_, rfl⟩
  | some field =>
    refine .inr ⟨field, rfl, ?_⟩
    unfold Columns.comparison Columns.branch
    cases Keyed.get? c.columns.conditionCallbacks column <;> rfl

/-- A condition fails without a call, or its branch is done. -/
theorem condition_cases (c : Compiler) (wanted : Condition) :
    (∃ e, c.condition wanted = .fail e) ∨
      ∃ branch, c.columns.Compares wanted branch ∧ c.condition wanted = branch.compiled := by
  obtain ⟨column, operator, value⟩ := wanted
  cases column with
  | none => exact .inl ⟨_, rfl⟩
  | some column =>
    cases operator with
    | none => exact .inl ⟨_, rfl⟩
    | some operator =>
      cases value with
      | some value =>
        rcases compile_cases c column operator value with hfail | ⟨field, hfield, hcompile⟩
        · exact .inl hfail
        · exact .inr ⟨_, .valued hfield, hcompile⟩
      | none =>
        -- without a value the operator decides
        have hcondition : c.condition ⟨some column, some operator, none⟩ =
            if operator.requiresValue then .fail .missingConditionField
            else condition.compile c column operator (.string "") := rfl
        rw [hcondition]
        cases hvalue : operator.requiresValue with
        | true => exact .inl ⟨_, rfl⟩
        | false =>
          rcases compile_cases c column operator (.string "") with hfail | ⟨field, hfield, hcompile⟩
          · exact .inl hfail
          · exact .inr ⟨_, .valueless hvalue hfield, hcompile⟩

/-- A condition that is compiled has done its branch. -/
theorem condition_of_ok {c : Compiler} {wanted : Condition} {filter : Document}
    (h : (c.condition wanted).result = .ok filter) :
    ∃ branch, c.columns.Compares wanted branch ∧ c.condition wanted = branch.compiled := by
  refine (c.condition_cases wanted).resolve_left ?_
  rintro ⟨e, hfail⟩
  rw [hfail] at h
  cases h

end Compiler

end DataGrid
