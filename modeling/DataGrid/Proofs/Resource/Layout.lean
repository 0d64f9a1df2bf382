import DataGrid.Proofs.Calendar.Unread
import DataGrid.Proofs.Compile.Layout
import DataGrid.Proofs.Pattern.Flow

/-!
# DataGrid.Proofs.Resource.Layout -- the layout of a filter does not show in the page

What a plain resource answers depends on the groups of a request through the documents that its
conditions leave, whatever the way of reading and counting. Two layouts of the same conditions
leave the same documents, if they leave any, so two pages are the same page.

Whether there is a page is another matter. Alternatives are asked in order up to the first that
holds, and a text whose pattern is too large for the store fails when it is asked for. Put behind
an alternative that always holds it does no harm, in front of it the request fails. With texts
whose patterns a store accepts, a request fails in one layout when it fails in another.
-/

namespace DataGrid

open Fallible Compile Compiler Store

/-- The texts that the conditions look for can be laid out. -/
def Request.TextsFit (r : Request) : Prop :=
  ∀ condition ∈ r.conditions, ∀ text mode, condition.literal? = some (text, mode) →
    (literalNode text mode).fits = true

namespace Compiler

/-- The documents that the conditions leave. -/
def matched (c : Compiler) (store : MemoryStore) (name : String) :
    Except StoreError (List Document) :=
  c.conditions.calls.foldlM
    (BuilderCall.perform ⟨store.collections, (store.collection name).textIndex⟩)
      (store.collection name).documents

/-- The calls behind those of the conditions. -/
def behind (c : Compiler) : List BuilderCall :=
  c.sortations.calls ++ [.skip c.request.offset, .limit c.request.pageSize]

theorem rows_eq_matched (c : Compiler) (store : MemoryStore) (name : String) :
    c.rows store name = (c.matched store name >>= fun kept => c.sortations.calls.foldlM
      (BuilderCall.perform ⟨store.collections, (store.collection name).textIndex⟩) kept) :=
  List.foldlM_append

/-- Without callbacks each condition has an answer when the texts of all of them fit. -/
theorem answers_of_textsFit {c : Compiler} (free : c.columns.CallbackFree)
    (fields : c.columns.PlainFields) (plain : c.request.PatternFree) (fit : c.request.TextsFit)
    (index : TextIndex) (d : Document) {condition : Condition}
    (hmem : condition ∈ c.request.conditions) :
    ClauseAnswers index d (c.condition condition) := by
  -- the search plays no part in conditions
  let quiet : Request := { c.request with search := none }
  have hfit : quiet.LiteralsFit := by
    intro text mode hliteral
    rcases List.mem_append.mp hliteral with hliteral | hliteral
    · obtain ⟨condition, hcondition, hliteral⟩ := List.mem_filterMap.mp hliteral
      exact fit condition hcondition text mode hliteral
    · cases hliteral
  intro filter hfilter
  obtain ⟨column, field, -, -, hanswer⟩ := filter_clause (c := ⟨c.columns, quiet, c.textSearch⟩)
    free fields plain hfit hmem hfilter
  exact ⟨_, hanswer index d⟩

variable {columns : Columns} {r r' : Request} (same : r.SameDemands r')
include same

theorem sortations_relaid :
    (columns.compiler false r').sortations = (columns.compiler false r).sortations := by
  rw [same.rest]
  rfl

/-- Both layouts leave the same documents, if they leave any. -/
theorem matched_agree (sink : columns.PredicateOnly) {filters filters' : List Document}
    (h : (columns.compiler false r).conjuncts = .ok filters)
    (h' : (columns.compiler false r').conjuncts = .ok filters') {store : MemoryStore}
    {name : String} {kept kept' : List Document}
    (hkept : (columns.compiler false r).matched store name = .ok kept)
    (hkept' : (columns.compiler false r').matched store name = .ok kept') : kept = kept' := by
  rw [matched, perform_conditions sink h] at hkept
  rw [matched, perform_conditions sink h'] at hkept'
  exact Matcher.select_agree (fun d _ holds holds' => asked_agree same h h') hkept hkept'

/-- Where every condition has an answer, both layouts leave the same documents or fail alike. -/
theorem matched_eq (sink : columns.PredicateOnly) {filters filters' : List Document}
    (h : (columns.compiler false r).conjuncts = .ok filters)
    (h' : (columns.compiler false r').conjuncts = .ok filters') (store : MemoryStore)
    (name : String) (answers : ∀ d, ∀ condition ∈ r.conditions,
      ClauseAnswers (store.collection name).textIndex d
        ((columns.compiler false r).condition condition)) :
    (columns.compiler false r).matched store name =
      (columns.compiler false r').matched store name := by
  rw [matched, matched, perform_conditions sink h, perform_conditions sink h']
  exact Matcher.select_congr fun d _ => asked_eq same h h' (answers d)

end Compiler

/-! ## Answers of both kinds -/

/-- Answers to requests that depend on their groups through the documents that are left. -/
structure DecidedByMatched (columns : Columns) (store : MemoryStore) (name : String)
    (answer : Request → Except GridError ResultPage) : Prop where
  /-- A page is made of the documents that the conditions leave. -/
  matched_of_ok : ∀ {r page}, answer r = .ok page →
    (columns.compiler false r).conditions.result = .ok () ∧
      ∃ kept, (columns.compiler false r).matched store name = .ok kept
  /-- The same documents make the same page. -/
  congr : ∀ {r r'}, r.SameDemands r' →
    (columns.compiler false r).conditions.result = .ok () →
    (columns.compiler false r').conditions.result = .ok () →
    (columns.compiler false r).matched store name =
      (columns.compiler false r').matched store name → answer r = answer r'

namespace DecidedByMatched

variable {columns : Columns} {store : MemoryStore} {name : String}
  {answer : Request → Except GridError ResultPage}
  (decided : DecidedByMatched columns store name answer)
  (free : columns.CallbackFree) {r r' : Request} (same : r.SameDemands r')
include decided free same

/-- Two pages for two layouts are the same page. -/
theorem page_agree {page page' : ResultPage} (h : answer r = .ok page)
    (h' : answer r' = .ok page') : page = page' := by
  obtain ⟨hcond, kept, hkept⟩ := decided.matched_of_ok h
  obtain ⟨hcond', kept', hkept'⟩ := decided.matched_of_ok h'
  obtain ⟨filters, hfilters, -⟩ := map_eq_ok.mp (Compiler.conditions_result _ ▸ hcond)
  obtain ⟨filters', hfilters', -⟩ := map_eq_ok.mp (Compiler.conditions_result _ ▸ hcond')
  have hsame : kept = kept' :=
    Compiler.matched_agree same free.predicateOnly hfilters hfilters' hkept hkept'
  have hanswer := decided.congr same hcond hcond' (by rw [hkept, hkept', hsame])
  exact Except.ok.inj (h.symm.trans (hanswer.trans h'))

/-- Where every condition has an answer, both layouts have a page or neither has one. -/
theorem fails_iff (answers : ∀ d, ∀ condition ∈ r.conditions,
      Compiler.ClauseAnswers (store.collection name).textIndex d
        ((columns.compiler false r).condition condition)) :
    (∃ e, answer r = .error e) ↔ ∃ e, answer r' = .error e := by
  have hrefused : ∀ {s : Request}, (∃ e, (columns.compiler false s).conditions.result = .error e) →
      ∃ e, answer s = .error e := by
    rintro s ⟨e, he⟩
    rcases hanswer : answer s with e' | page
    · exact ⟨e', rfl⟩
    · rw [(decided.matched_of_ok hanswer).1] at he
      cases he
  have hfail : (∃ e, (columns.compiler false r).conditions.result = .error e) ↔
      ∃ e, (columns.compiler false r').conditions.result = .error e :=
    Compiler.conditions_fail_relaid same
  rcases hcond : (columns.compiler false r).conditions.result with e | ⟨⟩
  · have hboth := hrefused ⟨e, hcond⟩
    exact iff_of_true hboth (hrefused (hfail.mp ⟨e, hcond⟩))
  · rcases hcond' : (columns.compiler false r').conditions.result with e | ⟨⟩
    · obtain ⟨e, he⟩ := hfail.mpr ⟨e, hcond'⟩
      cases hcond.symm.trans he
    · obtain ⟨filters, hfilters, -⟩ := map_eq_ok.mp (Compiler.conditions_result _ ▸ hcond)
      obtain ⟨filters', hfilters', -⟩ := map_eq_ok.mp (Compiler.conditions_result _ ▸ hcond')
      rw [decided.congr same hcond hcond' (Compiler.matched_eq same free.predicateOnly hfilters
        hfilters' store name answers)]

end DecidedByMatched

section Resources

variable {columns : Columns} (free : columns.CallbackFree) (store : MemoryStore) (name : String)
include free

theorem FindResource.plain_decided :
    DecidedByMatched columns store name ((FindResource.plain name columns).getData store) := by
  have hsteps := FindResource.plain_getData_eq free.predicateOnly free.sortations store name
  constructor
  · intro r page h
    rw [hsteps r] at h
    obtain ⟨-, -, h⟩ := bind_eq_ok.mp h
    obtain ⟨⟨⟩, hcond, h⟩ := bind_eq_ok.mp h
    obtain ⟨rows, hrows, -⟩ := bind_eq_ok.mp h
    rw [FindResource.stored_eq_ok, Compiler.rows_eq_matched, bind_eq_ok] at hrows
    obtain ⟨kept, hkept, -⟩ := hrows
    exact ⟨hcond, kept, hkept⟩
  · intro r r' same hcond hcond' hmatched
    have hwindow : r'.window (α := Document) = r.window := by
      rw [same.rest]
      rfl
    rw [hsteps r, hsteps r', hcond, hcond', Compiler.rows_eq_matched, Compiler.rows_eq_matched,
      Compiler.sortations_relaid same, hmatched, hwindow]

/-- Both ways of counting take the documents that are left, or nothing is narrowed. -/
theorem AggregationResource.total_relaid {r r' : Request} (same : r.SameDemands r')
    (hcond : (columns.compiler false r).conditions.result = .ok ())
    (hcond' : (columns.compiler false r').conditions.result = .ok ())
    (hmatched : (columns.compiler false r).matched store name =
      (columns.compiler false r').matched store name) (behind : List BuilderCall) :
    let counted (r : Request) := (plain name columns).total store r
      (((columns.compiler false r).conditions.calls ++ behind).map PipelineBuilder.stageOf)
      ((columns.compiler false r).conditions.calls.map PipelineBuilder.stageOf)
    counted r = counted r' := by
  intro counted
  have hsearch : r.hasSearch = r'.hasSearch := by
    rw [same.rest]
    rfl
  cases hnarrows : r.hasFilter || r.hasSearch with
  | true =>
    have hcount : ∀ {s : Request}, (s.hasFilter || s.hasSearch) = true → counted s =
        ((plain name columns).stored ((columns.compiler false s).matched store name >>=
          Pipeline.run ⟨store.collections, (store.collection name).textIndex⟩
            [countStage])).map Count.read := by
      intro s hs
      have hdecide : ∀ stages, Count.decide stages s.hasFilter s.hasSearch = .aggregate := by
        intro stages
        rw [Count.decide, hs, Bool.true_or, if_pos rfl]
      show total _ _ _ _ _ = _
      unfold total
      rw [hdecide]
      show ((plain name columns).stored (store.aggregate name _)).map Count.read = _
      rw [MemoryStore.aggregate, Pipeline.run_calls]
      rfl
    have hnarrows' : (r'.hasFilter || r'.hasSearch) = true := by
      rw [← same.hasFilter, ← hsearch, hnarrows]
    rw [hcount hnarrows, hcount hnarrows', hmatched]
  | false =>
    have hnone : ∀ {s : Request}, (s.hasFilter || s.hasSearch) = false →
        (columns.compiler false s).conditions.result = .ok () →
        (columns.compiler false s).conditions.calls = [] := by
      intro s hs hok
      rw [Compiler.conditions_result, map_eq_ok] at hok
      obtain ⟨filters, hfilters, -⟩ := hok
      have hempty : filters.isEmpty = true := by
        rw [Compiler.conjuncts_isEmpty hfilters]
        exact congrArg not hs
      rw [Compiler.conditions_calls free.predicateOnly hfilters, List.isEmpty_iff.mp hempty]
      rfl
    have hnarrows' : (r'.hasFilter || r'.hasSearch) = false := by
      rw [← same.hasFilter, ← hsearch, hnarrows]
    show total _ _ _ _ _ = total _ _ _ _ _
    rw [hnone hnarrows hcond, hnone hnarrows' hcond']
    unfold total
    rw [same.hasFilter, hsearch]

omit free in
/-- A page in steps: what the conditions leave, what the calls behind them make of it, shape and
total. -/
theorem AggregationResource.plain_getData_matched (r : Request) :
    let c := columns.compiler false r
    (plain name columns).getData store r = (c.conditions.result >>= fun _ =>
      c.sortations.result >>= fun _ =>
      (plain name columns).stored (c.matched store name >>= fun kept => c.behind.foldlM
        (BuilderCall.perform ⟨store.collections, (store.collection name).textIndex⟩) kept) >>=
          fun documents =>
      Shape.documents documents Shape.dateTimeUtc >>= fun items =>
      ((plain name columns).total store r
        ((c.conditions.calls ++ c.behind).map PipelineBuilder.stageOf)
        (c.conditions.calls.map PipelineBuilder.stageOf)).map fun total => ⟨items, total⟩) := by
  intro c
  have hsteps := getData_compiled (plain_ordinary name columns) store r
  dsimp only at hsteps
  rw [show (plain name columns).compiler r = c from rfl] at hsteps
  rw [hsteps]
  rcases hcond : c.conditions.result with e | ⟨⟩
  · rfl
  rcases hsort : c.sortations.result with e | ⟨⟩
  · rfl
  have hcalls : c.apply.calls = c.conditions.calls ++ c.behind :=
    (Compiler.apply_calls hcond hsort).trans (List.append_assoc _ _ _)
  rw [hcalls, MemoryStore.aggregate_calls, List.foldlM_append]
  rfl

theorem AggregationResource.plain_decided :
    DecidedByMatched columns store name
      ((AggregationResource.plain name columns).getData store) := by
  have hsteps := @plain_getData_matched columns store name
  constructor
  · intro r page h
    rw [hsteps r] at h
    obtain ⟨⟨⟩, hcond, h⟩ := bind_eq_ok.mp h
    obtain ⟨-, -, h⟩ := bind_eq_ok.mp h
    obtain ⟨documents, hdocuments, -⟩ := bind_eq_ok.mp h
    obtain ⟨kept, hkept, -⟩ := bind_eq_ok.mp (mapError_eq_ok.mp hdocuments)
    exact ⟨hcond, kept, hkept⟩
  · intro r r' same hcond hcond' hmatched
    have hsorted : (columns.compiler false r').sortations = (columns.compiler false r).sortations :=
      Compiler.sortations_relaid same
    have hbehind : (columns.compiler false r').behind = (columns.compiler false r).behind := by
      rw [same.rest]
      rfl
    have htotal := total_relaid free store name same hcond hcond' hmatched
      (columns.compiler false r).behind
    dsimp only at htotal
    rw [hsteps r, hsteps r', hcond, hcond', hsorted, hbehind, hmatched, htotal]

end Resources

/-! ## Pages -/

/-- However the groups of a request and their conditions are laid out, plain resources of either
kind show the same page if they show one. Whether they do so is the same in all layouts too, when
the store accepts the patterns of the texts that the conditions look for. -/
theorem layout_plays_no_part {columns : Columns} (free : columns.CallbackFree)
    (fields : columns.PlainFields) (store : MemoryStore) (name : String) {r r' : Request}
    (plain : r.PatternFree) (rearranged : r.Rearranged r') :
    ∀ answer ∈ [(FindResource.plain name columns).getData store,
      (AggregationResource.plain name columns).getData store],
      (∀ page page', answer r = .ok page → answer r' = .ok page' → page = page') ∧
      (r.TextsFit → ((∃ e, answer r = .error e) ↔ ∃ e, answer r' = .error e)) := by
  have same := rearranged.sameDemands
  have hdecided : ∀ answer ∈ [(FindResource.plain name columns).getData store,
      (AggregationResource.plain name columns).getData store],
      DecidedByMatched columns store name answer :=
    List.forall_mem_cons.mpr ⟨FindResource.plain_decided free store name,
      List.forall_mem_singleton.mpr (AggregationResource.plain_decided free store name)⟩
  intro answer hanswer
  have decided := hdecided answer hanswer
  refine ⟨fun page page' h h' => decided.page_agree free same h h', fun fit => ?_⟩
  exact decided.fails_iff free same fun d condition hmem =>
    Compiler.answers_of_textsFit (c := columns.compiler false r) free fields plain fit _ d hmem

/-- The title is this one. -/
def Condition.titled (title : String) : Condition := ⟨some "title", some .eq, some (.string title)⟩

/-- The title has a text in it. -/
def Condition.holding (text : String) : Condition := ⟨some "title", some .like, some (.string text)⟩

/-- Titles by either of two names, with nothing in particular in them. -/
def Request.eitherTitle : Request :=
  { Request.default with
    filter := [[.titled "Emma", .titled "Cecilia"]]
    additionalFilters := [[.holding ""]] }

/-- The same in one list, with the alternatives turned around and an empty group in front. -/
def Request.eitherTitleGathered : Request :=
  { Request.default with
    filter := [[], [.titled "Cecilia", .titled "Emma"], [.holding ""]] }

theorem Columns.catalogue_callbackFree : Columns.catalogue.CallbackFree := ⟨rfl, rfl⟩

theorem Columns.catalogue_plainFields : Columns.catalogue.PlainFields := by
  intro column field hfield
  obtain rfl := Columns.eq_title_of_listed (.inl ⟨column, hfield⟩)
  rfl

theorem layout_plays_no_part_eitherTitle :
    Columns.catalogue.CallbackFree ∧ Columns.catalogue.PlainFields ∧
      Request.eitherTitle.PatternFree ∧
      Request.eitherTitle.Rearranged .eitherTitleGathered ∧ Request.eitherTitle.TextsFit ∧
      ∀ answer ∈ [(FindResource.plain "books" .catalogue).getData .library,
        (AggregationResource.plain "books" .catalogue).getData .library],
        (∃ e, answer .eitherTitle = .error e) ↔ ∃ e, answer .eitherTitleGathered = .error e := by
  have hconditions : ∀ condition ∈ Request.eitherTitle.conditions,
      condition = .titled "Emma" ∨ condition = .titled "Cecilia" ∨ condition = .holding "" := by
    simp [Request.conditions, Request.eitherTitle]
  have plain : Request.eitherTitle.PatternFree := by
    intro condition hcondition value hvalue
    rcases hconditions condition hcondition with rfl | rfl | rfl
    all_goals
      cases hvalue
      rfl
  have rearranged : Request.eitherTitle.Rearranged .eitherTitleGathered := by
    have gathered := Request.Rearranged.gathered (.unchanged (r := Request.eitherTitle))
    have swapped := gathered.filter (.permutedWithin []
      [[.holding ""]] (.swap (Condition.titled "Cecilia") (Condition.titled "Emma") []))
    exact swapped.filter (.padded [] _)
  have fit : Request.eitherTitle.TextsFit := by
    intro condition hcondition text mode hliteral
    rcases hconditions condition hcondition with rfl | rfl | rfl
    · cases hliteral
    · cases hliteral
    · obtain ⟨rfl, rfl⟩ : "" = text ∧ LikeMode.contains = mode :=
        Prod.mk.inj (Option.some.inj hliteral)
      rfl
  refine ⟨Columns.catalogue_callbackFree, Columns.catalogue_plainFields, plain, rearranged, fit,
    fun answer hanswer => ?_⟩
  exact (layout_plays_no_part Columns.catalogue_callbackFree Columns.catalogue_plainFields .library
    "books" plain rearranged answer hanswer).2 fit

/-! ## Texts that are too large -/

/-- A text of any length that is not read as a date-time. -/
@[irreducible]
def bracketed (n : Nat) : String := String.ofList ('(' :: List.replicate n '1')

/-- A text whose pattern is too large for a store. -/
def overlong : String := bracketed 500000

/-- One book and nothing else. -/
def MemoryStore.oneBook : MemoryStore :=
  ⟨[("documents", ⟨[[("_id", .int32 1), ("title", .string "Emma")]], none⟩)], (⟨.ofNat 96 ·⟩), 1⟩

/-- A request with one group. -/
def Request.oneGroup (group : OrGroup) : Request := { Request.default with filter := [group] }

/-- The title, or the text. -/
def Request.titleFirst : Request := .oneGroup [.titled "Emma", .holding overlong]

/-- The text, or the title. -/
def Request.textFirst : Request := .oneGroup [.holding overlong, .titled "Emma"]

theorem toList_bracketed (n : Nat) : (bracketed n).toList = '(' :: List.replicate n '1' := by
  rw [bracketed, String.toList_ofList]

theorem bracketed_too_large {n : Nat} (h : Pattern.Footprint.limit < 32 * n) :
    (literalNode (bracketed n) .contains).fits = false := by
  have hlow : ∀ c ∈ (bracketed n).toList, c.toNat < 0x41 := by
    rw [toList_bracketed]
    refine List.forall_mem_cons.mpr ⟨by decide, fun c hc => ?_⟩
    rw [List.eq_of_mem_replicate hc]
    decide
  rw [Pattern.literalNode_of_lt (toList_bracketed n ▸ List.cons_ne_nil _ _) hlow]
  refine Pattern.Node.not_fits_literal (Nat.lt_of_lt_of_le h ?_)
  rw [toList_bracketed, List.length_cons, List.length_replicate]
  omega

theorem coerce_bracketed (n : Nat) : coerce (.string (bracketed n)) = .string (bracketed n) := by
  have hbracket : '(' ∈ (bracketed n).toList := toList_bracketed n ▸ List.mem_cons_self
  rw [coerce, dateTime?_of_bracket hbracket, Option.getD_none]

/-- The title as a filter, and the text. -/
def titleClause : Document := compare "title" "$eq" (.string "Emma")

def textClause : Document := likeCondition "title" (.string overlong) .contains

namespace Compiler

/-- The filter of a request with one group. -/
theorem conjuncts_oneGroup {columns : Columns} {group : OrGroup} {branches : List Document}
    (some : group ≠ [])
    (h : (columns.compiler false (.oneGroup group)).branches group = .ok branches) :
    (columns.compiler false (.oneGroup group)).conjuncts = .ok [combine "$or" branches] := by
  refine conjuncts_eq_ok_iff.mpr ⟨[combine "$or" branches], [], ?_, rfl, rfl⟩
  refine groups_eq_ok_iff.mpr ⟨[branches], mapM_cons_eq_ok.mpr ⟨branches, [], h, rfl, rfl⟩, ?_⟩
  have hfilled : (!branches.isEmpty) = true := by
    rw [branches_isEmpty h]
    simpa using some
  rw [List.filter_cons, if_pos hfilled]
  rfl

theorem condition_title (r : Request) : ((Columns.catalogue.compiler false r).condition
    (.titled "Emma")).result = .ok titleClause := by
  have hcoerce : coerce (.string "Emma") = .string "Emma" := by
    rw [coerce, dateTime?, if_neg (by decide +kernel), Option.getD_none]
  show Except.ok (Compile.condition "title" (some .eq) [coerce (.string "Emma")]) = _
  rw [hcoerce]
  rfl

theorem condition_text (r : Request) : ((Columns.catalogue.compiler false r).condition
    (.holding overlong)).result = .ok textClause := by
  show Except.ok (Compile.condition "title" (some .like) [coerce (.string overlong)]) = _
  rw [overlong, coerce_bracketed]
  rfl

/-- One group is asked of a document branch by branch. -/
theorem filter_asked_group {index : TextIndex} {d : Document} (branches : List Document) :
    Matcher.filter index d (asked [combine "$or" branches]) =
      branches.anyM fun branch => Matcher.filter index d branch := by
  rw [filter_asked, allM_cons, Matcher.filter_or]
  rcases branches.anyM (fun branch => Matcher.filter index d branch) with e | _ | _ <;> rfl

/-- What the conditions leave of one book. -/
theorem matched_oneBook {r : Request} {branches : List Document}
    (h : (Columns.catalogue.compiler false r).conjuncts = .ok [combine "$or" branches]) :
    (Columns.catalogue.compiler false r).matched .oneBook "documents" =
      Matcher.select none (asked [combine "$or" branches])
        [[("_id", .int32 1), ("title", .string "Emma")]] :=
  perform_conditions Columns.catalogue_callbackFree.predicateOnly h _ _

end Compiler

/-- The book has the title, so the text behind it is not asked for. -/
theorem titleFirst_shows_page : ∃ page,
    (FindResource.plain "documents" .catalogue).getData .oneBook .titleFirst = .ok page := by
  let book : Document := [("_id", .int32 1), ("title", .string "Emma")]
  have hfilters : (Columns.catalogue.compiler false .titleFirst).conjuncts =
      .ok [combine "$or" [titleClause, textClause]] :=
    conjuncts_oneGroup (List.cons_ne_nil _ _) (mapM_cons_eq_ok.mpr ⟨_, _, condition_title _,
      mapM_cons_eq_ok.mpr ⟨_, _, condition_text _, rfl, rfl⟩, rfl⟩)
  have htitle : Matcher.filter none book titleClause = .ok true := Matcher.filter_eq rfl _
  have hrows : (Columns.catalogue.compiler false .titleFirst).rows .oneBook "documents" =
      .ok [book] := by
    rw [rows_eq_matched, matched_oneBook hfilters, Matcher.select, filter_asked_group, anyM_cons,
      htitle]
    rfl
  have hcond : (Columns.catalogue.compiler false .titleFirst).conditions.result = .ok () := by
    rw [conditions_result, hfilters]
    rfl
  have hsort : (Columns.catalogue.compiler false .titleFirst).sortations.result = .ok () := rfl
  obtain ⟨items, hitems⟩ := Shape.exists_documents_dateTimeUtc (Request.titleFirst.window [book])
  have hpage := FindResource.plain_getData_eq Columns.catalogue_callbackFree.predicateOnly rfl
    .oneBook "documents" .titleFirst
  dsimp only at hpage
  rw [hsort, hcond, hrows, ok_bind, ok_bind] at hpage
  exact ⟨⟨items, saturate 1⟩, hpage.trans (bind_eq_ok.mpr
    ⟨[book], rfl, bind_eq_ok.mpr ⟨items, hitems, rfl⟩⟩)⟩

/-- The text is asked for first, and its pattern is refused. -/
theorem textFirst_fails : ∃ e,
    (FindResource.plain "documents" .catalogue).getData .oneBook .textFirst = .error e := by
  have hfilters : (Columns.catalogue.compiler false .textFirst).conjuncts =
      .ok [combine "$or" [textClause, titleClause]] :=
    conjuncts_oneGroup (List.cons_ne_nil _ _) (mapM_cons_eq_ok.mpr ⟨_, _, condition_text _,
      mapM_cons_eq_ok.mpr ⟨_, _, condition_title _, rfl, rfl⟩, rfl⟩)
  let fault : StoreError := .malformedPattern (likePattern overlong .contains) "i"
  have htext : ∀ d, Matcher.filter none d textClause = .error fault := fun d =>
    filter_likeCondition_too_large rfl (bracketed_too_large (by decide))
  have hkept : (Columns.catalogue.compiler false .textFirst).matched .oneBook "documents" =
      .error fault := by
    rw [matched_oneBook hfilters, Matcher.select, filter_asked_group, anyM_cons, htext]
    rfl
  rcases hanswer : (FindResource.plain "documents" .catalogue).getData .oneBook .textFirst with
    e | page
  · exact ⟨e, rfl⟩
  · obtain ⟨-, kept, hok⟩ := (FindResource.plain_decided Columns.catalogue_callbackFree .oneBook
      "documents").matched_of_ok hanswer
    cases hkept.symm.trans hok

/-- Whether a text that is too large is asked for depends on its place in the group. -/
theorem layout_shows_in_failures :
    Columns.catalogue.CallbackFree ∧ Columns.catalogue.PlainFields ∧
      Request.titleFirst.PatternFree ∧ Request.titleFirst.Rearranged .textFirst ∧
      (∃ page,
        (FindResource.plain "documents" .catalogue).getData .oneBook .titleFirst = .ok page) ∧
      ∃ e, (FindResource.plain "documents" .catalogue).getData .oneBook .textFirst = .error e := by
  have rearranged : Request.titleFirst.Rearranged .textFirst :=
    (Request.Rearranged.unchanged (r := .titleFirst)).filter
      (.permutedWithin [] [] (.swap (Condition.holding overlong) (Condition.titled "Emma") []))
  refine ⟨Columns.catalogue_callbackFree, Columns.catalogue_plainFields, ?_, rearranged,
    titleFirst_shows_page, textFirst_fails⟩
  intro condition hcondition value hvalue
  have hcases : condition = .titled "Emma" ∨ condition = .holding overlong := by
    simpa [Request.conditions, Request.titleFirst, Request.oneGroup, Request.default]
      using hcondition
  rcases hcases with rfl | rfl
  all_goals
    cases hvalue
    rfl

end DataGrid
