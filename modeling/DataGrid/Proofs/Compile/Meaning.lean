import DataGrid.Proofs.Builder.Calls
import DataGrid.Proofs.Compile.Conditions
import DataGrid.Proofs.Store.Matching

/-!
# DataGrid.Proofs.Compile.Meaning -- the compiled filter means the request

What a request asks of a document is said clause by clause in `Compiler.Accepts`: every
group that has a condition has one whose own clause holds, and a search term is found by the
clause of some searchable column, and by the text index if that is asked. The filter that
the conditions step emits is one document of nested disjunctions under a conjunction. It is
emitted when the request filters or searches, once, to either builder, and it holds of a
document exactly when the request accepts it.

A disjunction fails when a branch in front of a hit fails, so the equivalence is about
documents on which every branch has an answer (`Compiler.Evaluates`). The clause of the text
index stands behind all others and needs no such care.
-/

namespace DataGrid

open Fallible Compile Store
open Columns (shelf shelf_predicateOnly)

namespace Compiler

/-! ## Clauses one by one -/

/-- What compiles to a clause compiles to one that holds of a document. -/
def ClauseHolds (index : TextIndex) (d : Document) (clause : Compilation Document) : Prop :=
  ∃ filter, clause.result = .ok filter ∧ Matcher.filter index d filter = .ok true

/-- Evaluating the clause on a document does not fail. -/
def ClauseAnswers (index : TextIndex) (d : Document) (clause : Compilation Document) : Prop :=
  ∀ filter, clause.result = .ok filter → ∃ holds, Matcher.filter index d filter = .ok holds

/-- What a request asks of a document. -/
structure Accepts (c : Compiler) (index : TextIndex) (d : Document) : Prop where
  /-- Every group that has a condition has one that holds. -/
  groups : ∀ group ∈ c.request.filter ++ c.request.additionalFilters, group ≠ [] →
    ∃ condition ∈ group, ClauseHolds index d (c.condition condition)
  /-- The search term is found. -/
  search : ∀ term, c.request.searchTerm = some term →
    (∃ column, c.columns.Searchable column ∧
      ClauseHolds index d (searchBranch c.columns term column)) ∧
    (c.textSearch = true → Matcher.filter index d (Compile.textSearch term) = .ok true)

/-- No branch of a disjunction fails on a document. -/
structure Evaluates (c : Compiler) (index : TextIndex) (d : Document) : Prop where
  groups : ∀ group ∈ c.request.filter ++ c.request.additionalFilters,
    ∀ condition ∈ group, ClauseAnswers index d (c.condition condition)
  search : ∀ term, c.request.searchTerm = some term → ∀ column, c.columns.Searchable column →
    ClauseAnswers index d (searchBranch c.columns term column)

/-! ## Disjunctions and conjunctions of them -/

variable {index : TextIndex} {d : Document}

/-- A disjunction of compiled clauses holds when one of them does. -/
theorem disjunction_holds_iff {α : Type} {f : α → Compilation Document} {xs : List α}
    {filters : List Document} (h : xs.mapM (fun x => (f x).result) = .ok filters)
    (answers : ∀ x ∈ xs, ClauseAnswers index d (f x)) :
    Matcher.filter index d (combine "$or" filters) = .ok true ↔
      ∃ x ∈ xs, ClauseHolds index d (f x) := by
  have hanswered : ∀ filter ∈ filters, ∃ holds, Matcher.filter index d filter = .ok holds := by
    intro filter hfilter
    obtain ⟨x, hx, hresult⟩ := (mem_mapM_iff h).mp hfilter
    exact answers x hx filter hresult
  rw [Matcher.filter_or, anyM_eq_true_iff hanswered]
  constructor
  · rintro ⟨filter, hfilter, hholds⟩
    obtain ⟨x, hx, hresult⟩ := (mem_mapM_iff h).mp hfilter
    exact ⟨x, hx, filter, hresult, hholds⟩
  · rintro ⟨x, hx, filter, hresult, hholds⟩
    exact ⟨filter, (mem_mapM_iff h).mpr ⟨x, hx, hresult⟩, hholds⟩

theorem exists_filter_or {filters : List Document}
    (h : ∀ filter ∈ filters, ∃ holds, Matcher.filter index d filter = .ok holds) :
    ∃ holds, Matcher.filter index d (combine "$or" filters) = .ok holds := by
  rw [Matcher.filter_or]
  exact exists_anyM_eq_ok h

section Groups

variable {c : Compiler} {groups : List OrGroup} {filters : List Document}
  (h : (c.groups groups).result = .ok filters)
  (answers : ∀ group ∈ groups, ∀ condition ∈ group, ClauseAnswers index d (c.condition condition))
include h answers

theorem groups_answer :
    ∀ filter ∈ filters, ∃ holds, Matcher.filter index d filter = .ok holds := by
  intro filter hfilter
  obtain ⟨group, hgroup, -, branches, hbranches, rfl⟩ := (mem_groups_iff h).mp hfilter
  refine exists_filter_or fun branch hbranch => ?_
  obtain ⟨condition, hcondition, hresult⟩ := (mem_mapM_iff hbranches).mp hbranch
  exact answers group hgroup condition hcondition branch hresult

theorem groups_hold_iff : (∀ filter ∈ filters, Matcher.filter index d filter = .ok true) ↔
    ∀ group ∈ groups, group ≠ [] →
      ∃ condition ∈ group, ClauseHolds index d (c.condition condition) := by
  constructor
  · intro hall group hgroup hne
    obtain ⟨branches, hbranches⟩ := exists_branches h hgroup
    refine (disjunction_holds_iff hbranches (answers group hgroup)).mp (hall _ ?_)
    exact (mem_groups_iff h).mpr ⟨group, hgroup, hne, branches, hbranches, rfl⟩
  · intro hall filter hfilter
    obtain ⟨group, hgroup, hne, branches, hbranches, rfl⟩ := (mem_groups_iff h).mp hfilter
    exact (disjunction_holds_iff hbranches (answers group hgroup)).mpr (hall group hgroup hne)

end Groups

theorem searchGroups_hold_iff {c : Compiler} {filters : List Document}
    (h : c.searchGroups.result = .ok filters)
    (answers : ∀ term, c.request.searchTerm = some term → ∀ column, c.columns.Searchable column →
      ClauseAnswers index d (searchBranch c.columns term column)) :
    (∀ filter ∈ filters, Matcher.filter index d filter = .ok true) ↔
      ∀ term, c.request.searchTerm = some term →
        (∃ column, c.columns.Searchable column ∧
          ClauseHolds index d (searchBranch c.columns term column)) ∧
        (c.textSearch = true → Matcher.filter index d (Compile.textSearch term) = .ok true) := by
  cases hterm : c.request.searchTerm with
  | none =>
    rw [searchGroups_of_none hterm] at h
    obtain rfl := Except.ok.inj h
    simp
  | some term =>
    obtain ⟨searchable, branches, hsearchable, hbranches, rfl⟩ := searchGroups_eq_ok hterm h
    have hmem := Columns.mem_requireSearchable hsearchable
    have hfound : Matcher.filter index d (combine "$or" branches) = .ok true ↔
        ∃ column, c.columns.Searchable column ∧
          ClauseHolds index d (searchBranch c.columns term column) := by
      rw [disjunction_holds_iff hbranches fun column hcolumn =>
        answers term hterm column ((hmem column).mp hcolumn)]
      constructor
      · rintro ⟨column, hcolumn, hholds⟩
        exact ⟨column, (hmem column).mp hcolumn, hholds⟩
      · rintro ⟨column, hcolumn, hholds⟩
        exact ⟨column, (hmem column).mpr hcolumn, hholds⟩
    cases c.textSearch <;> simp [hfound]

/-! ## The emitted filter -/

theorem filter_asked (filters : List Document) : Matcher.filter index d (asked filters) =
    filters.allM fun filter => Matcher.filter index d filter := by
  cases filters with
  | nil => exact Matcher.filter_nil index d
  | cons first rest => exact Matcher.filter_and index d (first :: rest)

theorem conjunction_holds_iff (index : TextIndex) (d : Document) (filters : List Document) :
    (∀ filter ∈ conjunction filters, Matcher.filter index d filter = .ok true) ↔
      ∀ filter ∈ filters, Matcher.filter index d filter = .ok true := by
  cases filters with
  | nil => exact Iff.rfl
  | cons first rest =>
    have hone : conjunction (first :: rest) = [combine "$and" (first :: rest)] := rfl
    rw [hone, List.forall_mem_singleton, Matcher.filter_and, allM_eq_true_iff]

/-- The conditions step of a request that compiles emits one filter if the request filters or
searches, and none otherwise, to either builder; and a document on which no branch fails
satisfies what is emitted exactly when the request accepts it. -/
theorem conditions_meaning {c : Compiler} (sink : c.columns.PredicateOnly)
    (ok : c.conditions.result = .ok ()) :
    ∃ emitted : List Document,
      emitted.length = (if c.request.hasFilter || c.request.hasSearch then 1 else 0) ∧
      c.conditions.calls = emitted.map .matchFilter ∧
      (∀ b : QueryBuilder,
        (c.conditions.run b).1 = { b with filters := b.filters ++ emitted }) ∧
      (∀ b : PipelineBuilder, (c.conditions.run b).1 =
        ⟨b.stages ++ emitted.map fun filter => [("$match", .document filter)]⟩) ∧
      ∀ index d, c.Evaluates index d →
        ((∀ filter ∈ emitted, Matcher.filter index d filter = .ok true) ↔
          c.Accepts index d) := by
  rw [conditions_result, map_eq_ok] at ok
  obtain ⟨filters, hfilters, -⟩ := ok
  have hcalls := conditions_calls sink hfilters
  refine ⟨conjunction filters, length_conjunction hfilters, hcalls, ?_, ?_, ?_⟩
  · intro b
    rw [Compilation.run, hcalls, run_conjunction]
  · intro b
    rw [Compilation.run, hcalls, PipelineBuilder.run_calls, List.map_map]
    rfl
  · intro index d hd
    obtain ⟨groups, search, hgroups, hsearch, rfl⟩ := conjuncts_eq_ok_iff.mp hfilters
    rw [conjunction_holds_iff, List.forall_mem_append, groups_hold_iff hgroups hd.groups,
      searchGroups_hold_iff hsearch hd.search]
    exact ⟨fun h => ⟨h.1, h.2⟩, fun h => ⟨h.groups, h.search⟩⟩

/-- Either of two titles, or another author; a title that is not empty; and a search. -/
def wanted : Request :=
  { Request.default with
    filter := [[⟨some "title", some .eq, some (.string "Persuasion")⟩,
      ⟨some "title", some .eq, some (.string "Emma")⟩,
      ⟨some "author", some .eq, some (.string "Burney")⟩], []]
    additionalFilters := [[⟨some "title", some .notEmpty, none⟩]]
    search := some "Austen" }

def emma : Document := [("title", .string "Emma"), ("author", .string "Austen")]

theorem eq_author_of_searchable {column : String × String} (h : shelf.Searchable column) :
    column = ("author", "author") := by
  obtain ⟨hmem, hfield⟩ := h
  obtain ⟨name, field⟩ := column
  obtain rfl : name = "author" := List.mem_singleton.mp hmem
  exact Prod.ext rfl (Option.some.inj hfield).symm

/-- None of the branches of `wanted` fails on a book. -/
theorem wanted_evaluates : (⟨shelf, wanted, false⟩ : Compiler).Evaluates none emma := by
  refine ⟨?_, ?_⟩
  · intro group hgroup condition hcondition filter hfilter
    simp only [wanted, List.mem_cons, List.not_mem_nil, or_false, List.cons_append,
      List.nil_append] at hgroup
    rcases hgroup with rfl | rfl | rfl
    · simp only [List.mem_cons, List.not_mem_nil, or_false] at hcondition
      rcases hcondition with rfl | rfl | rfl
      · cases hfilter
        exact ⟨_, Matcher.filter_eq rfl _⟩
      · cases hfilter
        exact ⟨_, Matcher.filter_eq rfl _⟩
      · cases hfilter
        exact ⟨_, Matcher.filter_eq rfl _⟩
    · cases hcondition
    · obtain rfl := List.mem_singleton.mp hcondition
      cases hfilter
      refine ⟨true, (Matcher.filter_and none emma [_, _]).trans ?_⟩
      rw [allM_cons, allM_cons, Matcher.filter_ne rfl, Matcher.filter_ne rfl]
      rfl
  · intro term hterm column hcolumn filter hfilter
    obtain rfl := eq_author_of_searchable hcolumn
    cases hterm
    cases hfilter
    exact ⟨_, Matcher.filter_eq rfl _⟩

/-- The second title is that of the book, and the author is the one searched for. -/
theorem wanted_accepts : (⟨shelf, wanted, false⟩ : Compiler).Accepts none emma := by
  refine ⟨?_, ?_⟩
  · intro group hgroup hne
    simp only [wanted, List.mem_cons, List.not_mem_nil, or_false, List.cons_append,
      List.nil_append] at hgroup
    rcases hgroup with rfl | rfl | rfl
    · exact ⟨_, List.mem_cons_of_mem _ List.mem_cons_self, _, rfl, Matcher.filter_eq rfl _⟩
    · exact absurd rfl hne
    · refine ⟨_, List.mem_cons_self, _, rfl, ?_⟩
      refine (Matcher.filter_and none emma [_, _]).trans ?_
      rw [allM_cons, allM_cons, Matcher.filter_ne rfl, Matcher.filter_ne rfl]
      rfl
  · intro term hterm
    cases hterm
    exact ⟨⟨("author", "author"), ⟨List.mem_cons_self, rfl⟩, _, rfl, Matcher.filter_eq rfl _⟩,
      nofun⟩

theorem conditions_meaning_shelf :
    shelf.PredicateOnly ∧ (⟨shelf, wanted, false⟩ : Compiler).conditions.result = .ok () ∧
      (⟨shelf, wanted, false⟩ : Compiler).Evaluates none emma ∧
      ∃ emitted : List Document, emitted.length = 1 ∧
        (⟨shelf, wanted, false⟩ : Compiler).conditions.calls = emitted.map .matchFilter ∧
        ∀ filter ∈ emitted, Matcher.filter none emma filter = .ok true := by
  obtain ⟨emitted, hlength, hcalls, -, -, hmeaning⟩ :=
    conditions_meaning (c := ⟨shelf, wanted, false⟩) shelf_predicateOnly rfl
  exact ⟨shelf_predicateOnly, rfl, wanted_evaluates, emitted, hlength, hcalls,
    (hmeaning none emma wanted_evaluates).mpr wanted_accepts⟩

end Compiler
end DataGrid
