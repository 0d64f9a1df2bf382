import DataGrid.Proofs.Compile.Conditions

/-!
# DataGrid.Proofs.Compile.Callbacks -- callbacks run in the order of the request

A conditions step that succeeds has done one branch for each condition and for each column of
the search. It has made the calls of its branches in the order of the request, and then the one
call that conjoins their filters.
-/

namespace DataGrid

open Fallible Compilation Compile

namespace Branch

/-- The branches of each group as alternatives; a group without branches asks for nothing. -/
def disjunctions (groups : List (List Branch)) : List Document :=
  (groups.filter fun branches => !branches.isEmpty).map fun branches =>
    combine "$or" (branches.map filter)

theorem disjunctions_cons (branches : List Branch) (rest : List (List Branch)) :
    disjunctions (branches :: rest) = if (branches.map filter).isEmpty then disjunctions rest
      else combine "$or" (branches.map filter) :: disjunctions rest := by
  cases branches <;> rfl

end Branch

namespace Compiler

/-- Groups that are compiled have done the branches of their conditions, and their filters are
those of the groups that have one. -/
theorem groups_of_ok {c : Compiler} {groups : List OrGroup} {filters : List Document}
    (h : (c.groups groups).result = .ok filters) :
    ∃ lists, List.Forall₂ (List.Forall₂ c.columns.Compares) groups lists ∧
      c.groups groups = ⟨lists.flatten.flatMap Branch.calls, .ok (Branch.disjunctions lists)⟩ := by
  induction groups generalizing filters with
  | nil => exact ⟨[], .nil, rfl⟩
  | cons group rest ih =>
    rw [Compiler.groups, result_bind, bind_eq_ok] at h
    obtain ⟨first, hfirst, h⟩ := h
    rw [result_bind, bind_eq_ok] at h
    obtain ⟨others, hothers, -⟩ := h
    obtain ⟨branches, hbranches, hgroup⟩ :=
      Branch.forEach_compiled (fun _ _ => condition_of_ok) hfirst
    obtain ⟨lists, hlists, hrest⟩ := ih hothers
    refine ⟨branches :: lists, .cons hbranches hlists, ?_⟩
    rw [Compiler.groups, hgroup, hrest]
    simp [Branch.compiledAll, Branch.disjunctions_cons]

/-! ## Searching -/

/-- The branches of the search: one for each searchable column, or none without a term. -/
def Searched (c : Compiler) (branches : List Branch) : Prop :=
  match c.request.searchTerm with
  | none => branches = []
  | some term => List.Forall₂ (c.columns.Searches term) c.columns.searchable branches

/-- The filters that a search asks for: any of its branches, and the text index if that is to
be used. -/
def searchFilters (c : Compiler) (branches : List Branch) : List Document :=
  match c.request.searchTerm with
  | none => []
  | some term => combine "$or" (branches.map Branch.filter) ::
      if c.textSearch then [Compile.textSearch term] else []

theorem searchGroups_of_ok {c : Compiler} {filters : List Document}
    (h : c.searchGroups.result = .ok filters) :
    ∃ branches, c.Searched branches ∧
      c.searchGroups = ⟨branches.flatMap Branch.calls, .ok (c.searchFilters branches)⟩ := by
  unfold Searched searchFilters
  cases hterm : c.request.searchTerm with
  | none => exact ⟨[], rfl, searchGroups_of_none hterm⟩
  | some term =>
    obtain ⟨searchable, -, hsearchable, -, -⟩ := searchGroups_eq_ok hterm h
    obtain ⟨branches, hsearches, hbranches⟩ :=
      Columns.forEach_searchBranch term (Columns.requireSearchable_eq_ok hsearchable)
    refine ⟨branches, hsearches, ?_⟩
    rw [searchGroups, hterm]
    simp only [search, hsearchable, lift, mk_ok_bind, hbranches, Branch.compiledAll]
    cases c.textSearch <;> simp

/-! ## The whole step -/

/-- Each condition of a request is left to the callback of its column, or to the general table
when there is none, and so is each searchable column. A conditions step that succeeds makes the
calls of these branches in the order of the request: those of the filter, group by group, those
of the additional filters, and those of the searchable columns as they are listed. Behind them
is at most one call, which conjoins the alternatives of each group and the search. -/
theorem conditions_branches {c : Compiler} (h : c.conditions.result = .ok ()) :
    ∃ (filter additional : List (List Branch)) (search : List Branch),
      List.Forall₂ (List.Forall₂ c.columns.Compares) c.request.filter filter ∧
      List.Forall₂ (List.Forall₂ c.columns.Compares) c.request.additionalFilters additional ∧
      c.Searched search ∧
      c.conditions.calls =
        (filter.flatten ++ additional.flatten ++ search).flatMap Branch.calls ++
          (conjunction (Branch.disjunctions filter ++ Branch.disjunctions additional ++
            c.searchFilters search)).map .matchFilter := by
  rw [conditions_result, map_eq_ok] at h
  obtain ⟨filters, hfilters, -⟩ := h
  have hcalls := conditions_calls_of_ok hfilters
  -- each of the three parts has succeeded, and has therefore done its branches
  obtain ⟨groups, asked, hgroups, hsearch, rfl⟩ := conjuncts_eq_ok_iff.mp hfilters
  rw [groups_append, bind_eq_ok] at hgroups
  obtain ⟨first, hfirst, hgroups⟩ := hgroups
  obtain ⟨second, hsecond, hgroups⟩ := bind_eq_ok.mp hgroups
  obtain ⟨filter, hfilter, hfiltered⟩ := groups_of_ok hfirst
  obtain ⟨additional, hadditional, hrestricted⟩ := groups_of_ok hsecond
  obtain ⟨search, hsearched, hfound⟩ := searchGroups_of_ok hsearch
  refine ⟨filter, additional, search, hfilter, hadditional, hsearched, ?_⟩
  rw [hfiltered] at hfirst
  rw [hrestricted] at hsecond
  rw [hfound] at hsearch
  obtain rfl := Except.ok.inj hfirst
  obtain rfl := Except.ok.inj hsecond
  obtain rfl := Except.ok.inj hsearch
  obtain rfl := Except.ok.inj hgroups
  rw [hcalls, hfiltered, hrestricted, hfound]
  simp only [List.flatMap_append, List.append_assoc]

/-- A shelf whose titles are compared without regard to case: the title in small letters is
computed first, and the comparison is with that. An empty title is left to others. -/
def smallTitles : Columns :=
  (Columns.shelf.search "title").conditionCallback "title" fun values _ operator =>
    ⟨[.addFields [("small", .document [("$toLower", .string "$title")])]],
      if operator = some .empty then .empty else Predicate.empty.eq "small" (values.headD .null)⟩

/-- One of two titles or an author, and a title that may be empty, while a term is searched. -/
def titled : Request :=
  { Request.default with
    filter := [[⟨some "title", some .eq, some (.string "emma")⟩,
      ⟨some "author", some .eq, some (.string "Burney")⟩], []]
    additionalFilters := [[⟨some "title", some .empty, none⟩]]
    search := some "austen" }

theorem conditions_branches_smallTitles :
    let c : Compiler := ⟨smallTitles, titled, true⟩
    c.conditions.result = .ok () ∧
    ∃ (filter additional : List (List Branch)) (search : List Branch),
      List.Forall₂ (List.Forall₂ c.columns.Compares) c.request.filter filter ∧
      List.Forall₂ (List.Forall₂ c.columns.Compares) c.request.additionalFilters additional ∧
      c.Searched search ∧
      c.conditions.calls =
        (filter.flatten ++ additional.flatten ++ search).flatMap Branch.calls ++
          (conjunction (Branch.disjunctions filter ++ Branch.disjunctions additional ++
            c.searchFilters search)).map .matchFilter :=
  ⟨rfl, conditions_branches (c := ⟨smallTitles, titled, true⟩) rfl⟩

/-- The title is computed for the filter, for the additional filter and for the search, and
then there is one match. -/
example : (⟨smallTitles, titled, true⟩ : Compiler).conditions.calls.length = 4 := rfl

end Compiler

end DataGrid
