import DataGrid.Proofs.Request.Layout
import DataGrid.Proofs.Resource.Safety

/-!
# DataGrid.Proofs.Compile.Layout -- the layout of groups plays no part in their filter

Requests that differ in the layout of their groups are refused by a compiler together. When they
are not, they are asked of a document in another order, and evaluation stops early, so one layout
may come to a failing clause where the other does not. But two answers never contradict each
other: a group that does not hold has a counterpart in the other layout that does not hold either.
And if every condition has an answer on the document, both filters answer alike, be it with the
failure of the search behind them.
-/

namespace DataGrid

open Fallible Compile Store

/-- A request against columns. -/
abbrev Columns.compiler (columns : Columns) (text : Bool) (r : Request) : Compiler :=
  ⟨columns, r, text⟩

namespace Compiler

variable {columns : Columns} {text : Bool} {r r' : Request}

/-! ## Refusals -/

theorem searchGroups_relaid (same : r.SameDemands r') :
    (columns.compiler text r').searchGroups = (columns.compiler text r).searchGroups := by
  rw [same.rest]
  rfl

/-- Conditions are refused in one layout when they are refused in another. -/
theorem refusesConditions_relaid (same : r.SameDemands r') :
    (columns.compiler text r).RefusesConditions ↔
      (columns.compiler text r').RefusesConditions := by
  have hsome : ∀ {r : Request} {P : Condition → Prop},
      (∃ group ∈ r.filter ++ r.additionalFilters, ∃ condition ∈ group, P condition) ↔
        ∃ condition ∈ r.conditions, P condition := by
    intro r P
    constructor
    · rintro ⟨group, hgroup, condition, hcondition, hP⟩
      exact ⟨condition, List.mem_flatten.mpr ⟨group, hgroup, hcondition⟩, hP⟩
    · rintro ⟨condition, hmem, hP⟩
      obtain ⟨group, hgroup, hcondition⟩ := List.mem_flatten.mp hmem
      exact ⟨group, hgroup, condition, hcondition, hP⟩
  unfold RefusesConditions
  rw [hsome, hsome, searchGroups_relaid same]
  refine or_congr_left (exists_congr fun condition => ?_)
  exact and_congr_left fun _ => same.groups.mem_flatten

theorem conditions_fail_relaid (same : r.SameDemands r') :
    (∃ e, (columns.compiler text r).conditions.result = .error e) ↔
      ∃ e, (columns.compiler text r').conditions.result = .error e := by
  rw [conditions_fail_iff, conditions_fail_iff]
  exact refusesConditions_relaid same

/-! ## Filters of groups -/

variable {index : TextIndex} {d : Document} {c : Compiler}

/-- Of two groups with the same conditions it is not that one holds and the other does not. -/
theorem branches_agree {group group' : OrGroup}
    (same : ∀ condition, condition ∈ group' ↔ condition ∈ group)
    {branches branches' : List Document}
    (h : c.branches group = .ok branches) (h' : c.branches group' = .ok branches')
    (holds : Matcher.filter index d (combine "$or" branches) = .ok true) :
    Matcher.filter index d (combine "$or" branches') ≠ .ok false := by
  intro hfalse
  rw [Matcher.filter_or] at holds hfalse
  obtain ⟨branch, hbranch, htrue⟩ := exists_of_anyM_eq_true holds
  obtain ⟨condition, hcondition, hresult⟩ := (mem_mapM_iff h).mp hbranch
  have hbranch' : branch ∈ branches' :=
    (mem_mapM_iff h').mpr ⟨condition, (same condition).mpr hcondition, hresult⟩
  have := anyM_eq_false_iff.mp hfalse branch hbranch'
  rw [htrue] at this
  cases this

/-! ## Filters of requests -/

section Requests

variable (same : r.SameDemands r')
include same

/-- A document that one layout accepts is not turned down by another. -/
theorem asked_not_false {filters filters' : List Document}
    (h : (columns.compiler text r).conjuncts = .ok filters)
    (h' : (columns.compiler text r').conjuncts = .ok filters')
    (holds : Matcher.filter index d (asked filters) = .ok true) :
    Matcher.filter index d (asked filters') ≠ .ok false := by
  obtain ⟨groups, search, hgroups, hsearch, rfl⟩ := conjuncts_eq_ok_iff.mp h
  obtain ⟨groups', search', hgroups', hsearch', rfl⟩ := conjuncts_eq_ok_iff.mp h'
  rw [searchGroups_relaid same, hsearch] at hsearch'
  obtain rfl := Except.ok.inj hsearch'
  rw [filter_asked, allM_eq_true_iff, List.forall_mem_append] at holds
  obtain ⟨hholds, hfound⟩ := holds
  intro hfalse
  rw [filter_asked] at hfalse
  obtain ⟨filter, hmem, hfilter⟩ := exists_of_allM_eq_false hfalse
  rcases List.mem_append.mp hmem with hmem | hmem
  · obtain ⟨group', hgroup', hne, branches', hbranches', rfl⟩ := (mem_groups_iff hgroups').mp hmem
    -- the counterpart of the group that does not hold does
    obtain ⟨group, hgroup, hconditions⟩ := same.groups.covers group' hgroup' hne
    obtain ⟨first, hfirst⟩ := List.exists_mem_of_ne_nil group' hne
    obtain ⟨branches, hbranches⟩ := exists_branches hgroups hgroup
    have hgroupHolds := hholds (combine "$or" branches) ((mem_groups_iff hgroups).mpr
      ⟨group, hgroup, List.ne_nil_of_mem ((hconditions first).mpr hfirst), branches, hbranches,
        rfl⟩)
    exact branches_agree (fun condition => (hconditions condition).symm) hbranches hbranches'
      hgroupHolds hfilter
  · rw [hfound filter hmem] at hfilter
    cases hfilter

/-- Two answers to the filters of two layouts are the same. -/
theorem asked_agree {filters filters' : List Document}
    (h : (columns.compiler text r).conjuncts = .ok filters)
    (h' : (columns.compiler text r').conjuncts = .ok filters') {holds holds' : Bool}
    (hholds : Matcher.filter index d (asked filters) = .ok holds)
    (hholds' : Matcher.filter index d (asked filters') = .ok holds') : holds = holds' := by
  cases holds <;> cases holds'
  · rfl
  · exact absurd hholds (asked_not_false same.symm h' h hholds')
  · exact absurd hholds' (asked_not_false same h h' hholds)
  · rfl

/-- Where every condition has an answer, the filters of two layouts answer alike. -/
theorem asked_eq {filters filters' : List Document}
    (h : (columns.compiler text r).conjuncts = .ok filters)
    (h' : (columns.compiler text r').conjuncts = .ok filters')
    (answers : ∀ condition ∈ r.conditions,
      ClauseAnswers index d ((columns.compiler text r).condition condition)) :
    Matcher.filter index d (asked filters) = Matcher.filter index d (asked filters') := by
  obtain ⟨groups, search, hgroups, hsearch, rfl⟩ := conjuncts_eq_ok_iff.mp h
  obtain ⟨groups', search', hgroups', hsearch', rfl⟩ := conjuncts_eq_ok_iff.mp h'
  rw [searchGroups_relaid same, hsearch] at hsearch'
  obtain rfl := Except.ok.inj hsearch'
  have hanswers : ∀ {s : Request}, (∀ condition, condition ∈ s.conditions →
      condition ∈ r.conditions) → ∀ group ∈ s.filter ++ s.additionalFilters,
      ∀ condition ∈ group, ClauseAnswers index d ((columns.compiler text s).condition condition) :=
    fun hsub group hgroup condition hcondition =>
      answers condition (hsub condition (List.mem_flatten.mpr ⟨group, hgroup, hcondition⟩))
  have hfirst := hanswers fun _ hmem => hmem
  have hsecond := hanswers fun _ hmem => same.groups.mem_flatten.mpr hmem
  obtain ⟨holds, hholds⟩ := exists_allM_eq_ok (groups_answer hgroups hfirst)
  obtain ⟨holds', hholds'⟩ := exists_allM_eq_ok (groups_answer hgroups' hsecond)
  have hiff : holds = true ↔ holds' = true := by
    have hok : ∀ {filters : List Document} {holds : Bool},
        filters.allM (fun filter => Matcher.filter index d filter) = .ok holds →
        (holds = true ↔ ∀ filter ∈ filters, Matcher.filter index d filter = .ok true) := by
      intro filters holds h
      rw [← allM_eq_true_iff, h]
      simp
    rw [hok hholds, hok hholds', groups_hold_iff hgroups hfirst, groups_hold_iff hgroups' hsecond]
    exact ⟨same.groups.forall_exists, same.symm.groups.forall_exists⟩
  rw [filter_asked, filter_asked, allM_append, allM_append, hholds, hholds',
    Bool.eq_iff_iff.mpr hiff]

end Requests
end Compiler
end DataGrid
