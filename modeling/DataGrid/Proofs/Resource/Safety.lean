import DataGrid.Proofs.Compile.Acceptance
import DataGrid.Proofs.Compile.Meaning
import DataGrid.Proofs.Compile.Verdict
import DataGrid.Proofs.Resource.Confinement
import DataGrid.Proofs.Store.SortKeys

/-!
# DataGrid.Proofs.Resource.Safety -- what compiles cannot make a store refuse

Without callbacks every filter that a request compiles to is one of the table, conjoined and
disjoined, and every sort key is a direction. A store refuses neither: the filters have an
answer on every document (`Compile.filter_condition`), the keys are accepted, a window is never
of size zero, and the default date format writes every moment. What the compiler refuses is the
fault of the request.

Three things are asked for. No field that a condition can name begins with a dollar sign; no
value is a pattern, or a list with a pattern among its items; and the literal texts that the
request looks for can be laid out, each by itself.

One thing can go wrong all the same. Around a value without a place in the order of values the
sort may give up, and the program breaks off. Twenty documents or fewer are sorted whatever they
hold, and so are any number of them that have a place in the fields that are sorted by.
-/

namespace DataGrid

open Fallible Compile Store

/-! ## What is asked of a request -/

/-- The value is no pattern, and no list with a pattern among its items. -/
def Value.isPatternFree : Value → Bool
  | .array items => items.all fun item => !item.isPattern
  | value => !value.isPattern

theorem isPattern_coerce (value : Value) : (coerce value).isPattern = value.isPattern := by
  cases value with
  | string text =>
    show ((dateTime? text).getD (.string text)).isPattern = false
    unfold dateTime?
    split
    · cases Calendar.Reading.instant? text <;> rfl
    · rfl
  | _ => rfl

theorem isPattern_of_mem_normalize {value : Value} (h : value.isPatternFree = true) :
    ∀ v ∈ normalize value, v.isPattern = false := by
  intro v hv
  cases value with
  | array items =>
    obtain ⟨item, hitem, rfl⟩ := List.mem_map.mp hv
    rw [isPattern_coerce]
    simpa using List.all_eq_true.mp h item hitem
  | regex => cases h
  | _ =>
    obtain rfl := List.mem_singleton.mp hv
    rw [isPattern_coerce]
    rfl

/-- The literal text that a condition looks for, and where. -/
def Condition.literal? (condition : Condition) : Option (String × LikeMode) := do
  let mode ← condition.operator.bind Operator.likeMode?
  let value ← condition.value
  return (((normalize value).headD .null).patternText, mode)

namespace Request

/-- The conditions of all groups. -/
def conditions (r : Request) : List Condition := (r.filter ++ r.additionalFilters).flatten

/-- No value of a condition has a pattern in it that a store would read. -/
def PatternFree (r : Request) : Prop :=
  ∀ condition ∈ r.conditions, ∀ value, condition.value = some value → value.isPatternFree = true

/-- The literal texts that the request looks for. -/
def literals (r : Request) : List (String × LikeMode) :=
  r.conditions.filterMap Condition.literal? ++ r.searchTerm.toList.map fun term => (term, .contains)

/-- Each of them can be laid out. -/
def LiteralsFit (r : Request) : Prop :=
  ∀ text mode, (text, mode) ∈ r.literals → (literalNode text mode).fits = true

end Request

/-- The documents are few, or what they have in the fields that are sorted by has a place. -/
def Request.Sortable (r : Request) (columns : Columns) (documents : List Document) : Prop :=
  documents.length ≤ 20 ∨ ∀ sortation ∈ r.orderBy, ∀ field,
    Keyed.get? columns.sortations sortation.column = some field →
      ∀ d ∈ documents, Value.HasPlace (d.lookupText field)

/-- No field that a condition can name is an operator. -/
def Columns.PlainFields (c : Columns) : Prop :=
  ∀ column field, Keyed.get? c.conditions column = some field → startsWithDollar field = false

/-- There is a result, or a refusal for which the request is to blame. -/
def Answered {α : Type} (answer : Except GridError α) : Prop :=
  (∃ result, answer = .ok result) ∨ ∃ e, answer = .error e ∧ e.isClientError = true

/-- The program breaks off, and nobody is answered. -/
def BreaksOff {α : Type} (answer : Except GridError α) : Prop :=
  ∃ e, answer = .error e ∧ e.breaksOff = true

/-- Breaking off is neither a result nor a refusal. -/
theorem BreaksOff.not_answered {α : Type} {answer : Except GridError α} (h : BreaksOff answer) :
    ¬ Answered answer := by
  obtain ⟨e, rfl, he⟩ := h
  rintro (⟨result, hok⟩ | ⟨e', herror, hclient⟩)
  · cases hok
  · obtain rfl := Except.error.inj herror
    cases e <;> simp [GridError.breaksOff, GridError.isClientError] at he hclient

theorem Answered.of_error {α : Type} {answer : Except GridError α}
    (h : ∀ e, answer = .error e → e.isClientError = true) : Answered answer := by
  cases answer with
  | ok result => exact .inl ⟨result, rfl⟩
  | error e => exact .inr ⟨e, rfl, h e rfl⟩

/-- A step that is answered, or refused, stands in front of one that may break off. -/
theorem Answered.bind_or {α β : Type} {p : Prop} {first : Except GridError α}
    {next : α → Except GridError β} (h : Answered first)
    (hnext : ∀ a, first = .ok a → Answered (next a) ∨ BreaksOff (next a) ∧ p) :
    Answered (first >>= next) ∨ BreaksOff (first >>= next) ∧ p := by
  rcases h with ⟨a, rfl⟩ | ⟨e, rfl, he⟩
  · exact hnext a rfl
  · exact .inl (.inr ⟨e, rfl, he⟩)

/-! ## Refusals -/

namespace Compiler

variable {c : Compiler}

theorem isClientError_of_conditionFault {e : GridError} (h : e ∈ c.conditionFaults) :
    e.isClientError = true := by
  rcases List.mem_append.mp h with h | h
  · obtain ⟨condition, -, hfault⟩ := List.mem_filterMap.mp h
    unfold Columns.conditionFault? at hfault
    split at hfault
    · obtain ⟨column, -, rfl⟩ := Option.map_eq_some_iff.mp hfault
      rfl
    · obtain rfl := Option.some.inj hfault
      rfl
  · split at h
    · unfold Columns.searchFaults at h
      split at h
      · obtain rfl := List.mem_singleton.mp h
        rfl
      · obtain ⟨column, -, rfl⟩ := List.mem_map.mp h
        rfl
    · cases h

theorem isClientError_of_sortFault {e : GridError} (h : e ∈ c.sortFaults) :
    e.isClientError = true := by
  obtain ⟨sortation, -, hfault⟩ := List.mem_filterMap.mp h
  unfold Columns.sortFault? at hfault
  split at hfault
  · cases hfault
  · obtain rfl := Option.some.inj hfault
    rfl

theorem answered_conditions (c : Compiler) : Answered c.conditions.result := by
  refine .of_error fun e h => ?_
  have hfirst := c.failure?_conditions
  rw [failure?_eq_some_iff.mpr h] at hfirst
  exact isClientError_of_conditionFault (List.mem_of_head? hfirst.symm)

theorem answered_sortations (c : Compiler) : Answered c.sortations.result := by
  refine .of_error fun e h => ?_
  have hfirst := c.failure?_sortations
  rw [failure?_eq_some_iff.mpr h] at hfirst
  exact isClientError_of_sortFault (List.mem_of_head? hfirst.symm)

/-! ## Filters have an answer -/

variable {index : TextIndex} {d : Document}

/-- A condition that compiles answers what the table says of the value under its field. -/
theorem filter_clause (free : c.columns.CallbackFree) (fields : c.columns.PlainFields)
    (plain : c.request.PatternFree) (fit : c.request.LiteralsFit) {condition : Condition}
    (hmem : condition ∈ c.request.conditions) {filter : Document}
    (h : (c.condition condition).result = .ok filter) :
    ∃ column field, condition.column = some column ∧
      Keyed.get? c.columns.conditions column = some field ∧
      ∀ index d, Matcher.filter index d filter = .ok (verdict condition.operator
        (normalize (condition.value.getD (.string ""))) (d.lookupText field)) := by
  obtain ⟨column, operator, field, hcolumn, hoperator, hvalue, hfield, rfl⟩ :=
    condition_eq_ok free h
  refine ⟨column, field, hcolumn, hfield, fun index d => ?_⟩
  rw [hoperator]
  refine filter_condition (fields column field hfield) ?_ ?_
  · cases hv : condition.value with
    | some value => exact isPattern_of_mem_normalize (plain condition hmem value hv)
    | none => exact isPattern_of_mem_normalize rfl
  · intro mode hmode
    cases hv : condition.value with
    | some value =>
      refine fit _ mode (List.mem_append_left _ (List.mem_filterMap.mpr ⟨condition, hmem, ?_⟩))
      rw [Condition.literal?, hoperator, hmode, hv]
      rfl
    | none =>
      -- the operators that look for a text are not complete without one
      have hneeds := hvalue hv
      cases operator <;> simp [Operator.likeMode?, Operator.requiresValue] at hmode hneeds

theorem evaluates (free : c.columns.CallbackFree) (fields : c.columns.PlainFields)
    (plain : c.request.PatternFree) (fit : c.request.LiteralsFit) (index : TextIndex)
    (d : Document) : c.Evaluates index d := by
  refine ⟨?_, ?_⟩
  · intro group hgroup condition hcondition filter hfilter
    have hmem : condition ∈ c.request.conditions := List.mem_flatten.mpr ⟨group, hgroup, hcondition⟩
    obtain ⟨column, field, -, -, hanswer⟩ := filter_clause free fields plain fit hmem hfilter
    exact ⟨_, hanswer index d⟩
  · intro term hterm column hcolumn filter hfilter
    rw [searchBranch_of_callbackFree free] at hfilter
    obtain rfl := Except.ok.inj hfilter
    have hliteral : (term, LikeMode.contains) ∈ c.request.literals := by
      refine List.mem_append_right _ (List.mem_map.mpr ⟨term, ?_, rfl⟩)
      rw [hterm]
      exact List.mem_singleton_self term
    have hfits : (literalNode (Value.patternText (.string term)) .contains).fits = true :=
      fit term .contains hliteral
    exact ⟨_, filter_likeCondition (fields column.1 column.2 hcolumn.2) hfits⟩

/-- Where every branch has an answer, the emitted filter has one. -/
theorem exists_filter_asked (noIndex : c.textSearch = false) {filters : List Document}
    (hfilters : c.conjuncts = .ok filters) (h : c.Evaluates index d) :
    ∃ holds, Matcher.filter index d (asked filters) = .ok holds := by
  obtain ⟨groups, search, hgroups, hsearch, rfl⟩ := conjuncts_eq_ok_iff.mp hfilters
  rw [filter_asked]
  refine exists_allM_eq_ok (List.forall_mem_append.mpr ⟨groups_answer hgroups h.groups, ?_⟩)
  cases hterm : c.request.searchTerm with
  | none =>
    rw [searchGroups_of_none hterm] at hsearch
    obtain rfl := Except.ok.inj hsearch
    nofun
  | some term =>
    obtain ⟨searchable, branches, hsearchable, hbranches, rfl⟩ := searchGroups_eq_ok hterm hsearch
    rw [noIndex]
    refine List.forall_mem_singleton.mpr (exists_filter_or fun branch hbranch => ?_)
    obtain ⟨column, hcolumn, hresult⟩ := (mem_mapM_iff hbranches).mp hbranch
    exact h.search term hterm column
      ((Columns.mem_requireSearchable hsearchable column).mp hcolumn) branch hresult

/-! ## Rows are found -/

theorem directed_key (direction : Direction) :
    Sorting.Directed (.int32 direction.key) (direction == .descending) := by
  cases direction <;> exact .inl rfl

/-- The selection of a request that compiles succeeds, and what is left to do is to sort by
fields that are asked for. -/
theorem rows_eq_sort (free : c.columns.CallbackFree) (noIndex : c.textSearch = false)
    {filters : List Document} (hfilters : c.conjuncts = .ok filters)
    (hsort : c.sortations.result = .ok ()) (store : MemoryStore) (name : String)
    (h : ∀ d, c.Evaluates (store.collection name).textIndex d) :
    ∃ kept spec, kept.Sublist (store.collection name).documents ∧ Sorting.AllDirected spec ∧
      (∀ entry ∈ spec, ∃ sortation ∈ c.request.orderBy,
        Keyed.get? c.columns.sortations sortation.column = some entry.1) ∧
      c.rows store name = Sorting.sort spec kept := by
  obtain ⟨plan, hplan, hcalls⟩ := sortations_calls free.sortations hsort
  obtain ⟨kept, hkept⟩ := Matcher.exists_select_eq_ok (store.collection name).documents
    fun d _ => exists_filter_asked noIndex hfilters (h d)
  refine ⟨kept, plan.keys, Matcher.sublist_select hkept, fun entry hentry => ?_,
    fun entry hentry => ?_, ?_⟩
  · obtain ⟨sortation, -, -, hdirection⟩ := mem_keys_sortPlan hplan hentry
    exact ⟨_, hdirection ▸ directed_key sortation.direction⟩
  · obtain ⟨sortation, hsortation, hfield, -⟩ := mem_keys_sortPlan hplan hentry
    exact ⟨sortation, hsortation, hfield⟩
  · unfold Compiler.rows
    rw [List.foldlM_append, perform_conditions free.predicateOnly hfilters, hkept, ok_bind, hcalls]
    split
    · next hempty => rw [List.isEmpty_iff.mp hempty, Sorting.sort_nil]; rfl
    · exact bind_pure _

/-- All that can go wrong is that the sort gives up, and it has its reasons. -/
theorem rows_outcome (free : c.columns.CallbackFree) (noIndex : c.textSearch = false)
    {filters : List Document} (hfilters : c.conjuncts = .ok filters)
    (hsort : c.sortations.result = .ok ()) (store : MemoryStore) (name : String)
    (h : ∀ d, c.Evaluates (store.collection name).textIndex d) :
    (∃ rows, c.rows store name = .ok rows) ∨ c.rows store name = .error .inconsistentOrder ∧
      ¬ c.request.Sortable c.columns (store.collection name).documents := by
  obtain ⟨kept, spec, hkept, directed, hasked, hrows⟩ :=
    rows_eq_sort free noIndex hfilters hsort store name h
  rw [hrows]
  by_cases sortable : c.request.Sortable c.columns (store.collection name).documents
  · refine .inl (Sorting.exists_sort directed (sortable.imp hkept.length_le.trans ?_))
    intro placed d hd entry hentry
    obtain ⟨sortation, hsortation, hfield⟩ := hasked entry hentry
    exact placed sortation hsortation entry.1 hfield d (hkept.subset hd)
  · exact (Sorting.sort_eq_ok_or_inconsistent directed).imp_right (⟨·, sortable⟩)

end Compiler

/-! ## Answers of both kinds of resources -/

variable {columns : Columns} {name : String} {store : MemoryStore} {request : Request}

/-- An answer, or a sort that gave up and had its reasons. -/
theorem FindResource.plain_outcome (free : columns.CallbackFree)
    (h : ∀ d, (⟨columns, request, false⟩ : Compiler).Evaluates
      (store.collection name).textIndex d) :
    let answer := (FindResource.plain name columns).getData store request
    Answered answer ∨
      BreaksOff answer ∧ ¬ request.Sortable columns (store.collection name).documents := by
  let c : Compiler := ⟨columns, request, false⟩
  have hpage := FindResource.plain_getData_eq free.predicateOnly free.sortations store name request
  dsimp only at hpage ⊢
  rw [hpage]
  refine c.answered_sortations.bind_or fun _ hsort =>
    c.answered_conditions.bind_or fun _ hcond => ?_
  obtain ⟨filters, hfilters, -⟩ := map_eq_ok.mp (c.conditions_result ▸ hcond)
  rcases Compiler.rows_outcome free rfl hfilters hsort store name h with
    ⟨rows, hrows⟩ | ⟨hbroken, hunsortable⟩
  · obtain ⟨items, hitems⟩ := Shape.exists_documents_dateTimeUtc (request.window rows)
    have hstored : (FindResource.plain name columns).stored (c.rows store name) = .ok rows :=
      FindResource.stored_eq_ok.mpr hrows
    rw [hstored, ok_bind]
    exact .inl (.inl ⟨⟨items, saturate rows.length⟩, congrArg (· >>= _) hitems⟩)
  · rw [hbroken]
    exact .inr ⟨⟨_, rfl, rfl⟩, hunsortable⟩

/-- The window of a page is not of size zero, so it can be cut out of any number of rows. -/
theorem exists_window (context : Pipeline.Context) (rows : List Document) (request : Request) :
    ∃ page, [BuilderCall.skip request.offset, .limit request.pageSize].foldlM
      (BuilderCall.perform context) rows = .ok page := by
  rw [List.foldlM_cons, BuilderCall.perform, ok_bind, List.foldlM_cons, BuilderCall.perform,
    if_neg request.pageSize_ne_zero]
  exact ⟨_, rfl⟩

/-- Behind stages that have rows, however many, the counting stage has an answer. -/
theorem Count.exists_counted {stages rows : List Document}
    (h : store.aggregate name stages = .ok rows) :
    ∃ counted, store.aggregate name (stages ++ [AggregationResource.countStage]) = .ok counted := by
  obtain ⟨counted, hcounted⟩ :
      ∃ counted, Pipeline.count rows (.string fieldName) = .ok counted := by
    rw [Pipeline.count, if_neg (by decide)]
    cases rows with
    | nil => exact ⟨_, rfl⟩
    | cons first rest => exact ⟨_, rfl⟩
  refine ⟨counted, ?_⟩
  rw [MemoryStore.aggregate, Pipeline.run_append]
  exact bind_eq_ok.mpr ⟨rows, h, (bind_pure _).trans hcounted⟩

/-- The window and the count come behind the sort, and neither of them fails. -/
theorem AggregationResource.plain_outcome (free : columns.CallbackFree)
    (h : ∀ d, (⟨columns, request, false⟩ : Compiler).Evaluates
      (store.collection name).textIndex d) :
    let answer := (AggregationResource.plain name columns).getData store request
    Answered answer ∨
      BreaksOff answer ∧ ¬ request.Sortable columns (store.collection name).documents := by
  let r := AggregationResource.plain name columns
  let c : Compiler := ⟨columns, request, false⟩
  let context : Pipeline.Context := ⟨store.collections, (store.collection name).textIndex⟩
  dsimp only
  rw [getData_compiled (plain_ordinary name columns)]
  refine c.answered_conditions.bind_or fun _ hcond =>
    c.answered_sortations.bind_or fun _ hsort => ?_
  obtain ⟨filters, hfilters, -⟩ := map_eq_ok.mp (c.conditions_result ▸ hcond)
  have hdata : store.aggregate name (c.apply.calls.map PipelineBuilder.stageOf) =
      c.rows store name >>= fun rows => [BuilderCall.skip request.offset,
        .limit request.pageSize].foldlM (BuilderCall.perform context) rows := by
    rw [MemoryStore.aggregate_calls, Compiler.apply_calls hcond hsort, List.foldlM_append]
    rfl
  rcases Compiler.rows_outcome free rfl hfilters hsort store name h with
    ⟨rows, hrows⟩ | ⟨hbroken, hunsortable⟩
  · obtain ⟨page, hpage⟩ := exists_window context rows request
    rw [hrows, ok_bind, hpage] at hdata
    obtain ⟨matched, hmatched, -⟩ := Compiler.rows_eq_ok hrows
    obtain ⟨counted, hcounted⟩ := Count.exists_counted
      ((MemoryStore.aggregate_calls store name c.conditions.calls).trans hmatched)
    have htotal : ∃ total, r.total store request (c.apply.calls.map PipelineBuilder.stageOf)
        (c.conditions.calls.map PipelineBuilder.stageOf) = .ok total := by
      unfold total
      split
      · rw [MemoryStore.count_all]
        exact ⟨_, rfl⟩
      · exact ⟨Count.read counted, congrArg (Except.map Count.read) (mapError_eq_ok.mpr hcounted)⟩
    obtain ⟨total, htotal⟩ := htotal
    obtain ⟨items, hitems⟩ := Shape.exists_documents_dateTimeUtc page
    refine .inl (.inl ⟨⟨items, total⟩, ?_⟩)
    refine bind_eq_ok.mpr ⟨page, mapError_eq_ok.mpr hdata, bind_eq_ok.mpr ⟨items, hitems, ?_⟩⟩
    exact map_eq_ok.mpr ⟨total, htotal, rfl⟩
  · rw [hbroken] at hdata
    exact .inr ⟨⟨_, congrArg (· >>= _) (congrArg r.stored hdata), rfl⟩, hunsortable⟩

/-- A request that compiles cannot make a store refuse: a plain resource of either kind answers
with a page, or with a refusal for which the request is to blame, whenever the documents are few
or have a place in the fields that are sorted by. Otherwise it answers so as well, unless the
sort gives up and the program breaks off. What a condition asks of a document is what the table
says of the value under its field, where the values of the client are compared and nothing more:
none of them is read as an operator. -/
theorem plain_resources_answer (free : columns.CallbackFree) (fields : columns.PlainFields)
    (plain : request.PatternFree) (fit : request.LiteralsFit) (store : MemoryStore)
    (name : String) :
    let found := (FindResource.plain name columns).getData store request
    let piped := (AggregationResource.plain name columns).getData store request
    (request.Sortable columns (store.collection name).documents →
      Answered found ∧ Answered piped) ∧
    (Answered found ∨ BreaksOff found) ∧ (Answered piped ∨ BreaksOff piped) ∧
    ∀ condition ∈ request.conditions, ∀ filter,
      ((⟨columns, request, false⟩ : Compiler).condition condition).result = .ok filter →
      ∃ column field, condition.column = some column ∧
        Keyed.get? columns.conditions column = some field ∧
        ∀ index d, Matcher.filter index d filter = .ok (verdict condition.operator
          (normalize (condition.value.getD (.string ""))) (d.lookupText field)) := by
  intro found piped
  have hevaluates := Compiler.evaluates (c := ⟨columns, request, false⟩) free fields plain fit
  have hfound := FindResource.plain_outcome free (hevaluates (store.collection name).textIndex)
  have hpiped := AggregationResource.plain_outcome free
    (hevaluates (store.collection name).textIndex)
  refine ⟨fun sortable => ⟨?_, ?_⟩, hfound.imp_right And.left, hpiped.imp_right And.left, ?_⟩
  · exact hfound.resolve_right fun broken => broken.2 sortable
  · exact hpiped.resolve_right fun broken => broken.2 sortable
  · intro condition hmem filter hfilter
    exact Compiler.filter_clause free fields plain fit hmem hfilter

/-- A document that would be an operator if it were read as one. -/
def Value.injected : Value := .document [("$gt", .string "")]

/-- Titles equal to that document or to a text, or in which nothing in particular is found. -/
def Request.probing : Request :=
  { Request.default with
    filter := [[⟨some "title", some .eq, some .injected⟩,
      ⟨some "title", some .inList, some (.array [.injected, .string "Emma"])⟩],
      [⟨some "title", some .like, some (.string "")⟩]] }

theorem plain_resources_answer_probing :
    Columns.catalogue.CallbackFree ∧ Columns.catalogue.PlainFields ∧
      Request.probing.PatternFree ∧ Request.probing.LiteralsFit ∧
      Request.probing.Sortable .catalogue (MemoryStore.library.collection "books").documents ∧
      Answered ((FindResource.plain "books" .catalogue).getData .library .probing) ∧
      Answered ((AggregationResource.plain "books" .catalogue).getData .library .probing) ∧
      ∀ index d, Matcher.filter index d (Compile.compare "title" "$eq" .injected) =
        .ok (Matcher.equals (d.lookupText "title") .injected) := by
  have free : Columns.catalogue.CallbackFree := ⟨rfl, rfl⟩
  have fields : Columns.catalogue.PlainFields := by
    intro column field hfield
    obtain rfl := Columns.eq_title_of_listed (.inl ⟨column, hfield⟩)
    rfl
  have hconditions : Request.probing.conditions = [⟨some "title", some .eq, some .injected⟩,
      ⟨some "title", some .inList, some (.array [.injected, .string "Emma"])⟩,
      ⟨some "title", some .like, some (.string "")⟩] := rfl
  have plain : Request.probing.PatternFree := by
    intro condition hcondition value hvalue
    rw [hconditions] at hcondition
    simp only [List.mem_cons, List.not_mem_nil, or_false] at hcondition
    rcases hcondition with rfl | rfl | rfl
    all_goals
      cases hvalue
      rfl
  have fit : Request.probing.LiteralsFit := by
    intro text mode hliteral
    have hliterals : Request.probing.literals = [("", .contains)] := rfl
    rw [hliterals] at hliteral
    obtain ⟨rfl, rfl⟩ := Prod.mk.inj (List.mem_singleton.mp hliteral)
    rfl
  have sortable : Request.probing.Sortable .catalogue
      (MemoryStore.library.collection "books").documents := .inl (by decide)
  obtain ⟨hanswered, -, -, hclauses⟩ :=
    plain_resources_answer free fields plain fit .library "books"
  obtain ⟨hfound, hpiped⟩ := hanswered sortable
  obtain ⟨column, field, hcolumn, hfield, hanswer⟩ := hclauses
    ⟨some "title", some .eq, some .injected⟩ (hconditions ▸ List.mem_cons_self) _ rfl
  obtain rfl := Columns.eq_title_of_listed (.inl ⟨column, hfield⟩)
  exact ⟨free, fields, plain, fit, sortable, hfound, hpiped, fun index d =>
    (hanswer index d).trans (congrArg Except.ok (Bool.or_false _))⟩

/-- Twenty-one ratings of which one is no number. -/
def MemoryStore.ratings : MemoryStore :=
  let integers : List Int32 → List Value := List.map .int32
  let values := integers [20, 17, 19, 11, 5, 9, 0, 14] ++ .double .nan ::
    integers [16, 6, 10, 13, 7, 12, 15, 3, 8, 2, 18, 4]
  ⟨[("documents", ⟨values.map fun value => [("rating", value)], none⟩)], (⟨.ofNat 96 ·⟩), 0⟩

/-- Only ratings can be sorted by. -/
def Columns.ratings : Columns := (Columns.new "documents").sortation "rating" "rating"

/-- The ratings behind the first thirty, the lowest first. -/
def Request.lowestFirst : Request :=
  { Request.default with orderBy := [⟨"rating", .ascending⟩], page := 4 }

/-- The two ends of the first merge do not meet. -/
theorem MemoryStore.ratings_unsorted :
    Sorting.sort [("rating", .int32 1)] (ratings.collection "documents").documents =
      .error .inconsistentOrder := by
  have hkeys : Sorting.keys [("rating", .int32 1)] = .ok [⟨Path.ofText "rating", false⟩] := rfl
  have hsort := Sorting.sortBy?_eq_none
    (fun a b => (Sorting.compareAll [⟨Path.ofText "rating", false⟩] a b).isLT)
    (ratings.collection "documents").documents rfl (by decide) (by decide)
    (Option.isNone_iff_eq_none.mp (by decide +kernel))
  rw [Sorting.sort_eq, hkeys, ok_bind, Sorting.sortByKeys, hsort]

/-- A request that compiles can make the program break off, and here not one document would be
shown. -/
theorem ratings_break_off :
    Columns.ratings.CallbackFree ∧ Columns.ratings.PlainFields ∧
      Request.lowestFirst.PatternFree ∧ Request.lowestFirst.LiteralsFit ∧
      ¬ Answered ((FindResource.plain "documents" .ratings).getData .ratings .lowestFirst) ∧
      ¬ Answered ((AggregationResource.plain "documents" .ratings).getData .ratings
        .lowestFirst) := by
  have free : Columns.ratings.CallbackFree := ⟨rfl, rfl⟩
  let c : Compiler := ⟨.ratings, .lowestFirst, false⟩
  have hcond : c.conditions.result = .ok () := rfl
  have hsort : c.sortations.result = .ok () := rfl
  have hrows : c.rows .ratings "documents" = .error .inconsistentOrder := by
    have hcalls : c.conditions.calls ++ c.sortations.calls = [.sort [("rating", .int32 1)]] := rfl
    rw [Compiler.rows, hcalls]
    exact (bind_pure _).trans MemoryStore.ratings_unsorted
  refine ⟨free, nofun, nofun, nofun, BreaksOff.not_answered ?_, BreaksOff.not_answered ?_⟩
  · have hfound := FindResource.plain_getData_eq free.predicateOnly free.sortations .ratings
      "documents" .lowestFirst
    dsimp only at hfound
    rw [hfound, hsort, hcond, hrows]
    exact ⟨_, rfl, rfl⟩
  · have hdata : MemoryStore.ratings.aggregate "documents"
        (c.apply.calls.map PipelineBuilder.stageOf) = .error .inconsistentOrder := by
      rw [MemoryStore.aggregate_calls, Compiler.apply_calls hcond hsort, List.foldlM_append]
      exact congrArg (· >>= _) hrows
    rw [AggregationResource.getData_compiled (AggregationResource.plain_ordinary "documents" _)]
    show BreaksOff (c.conditions.result >>= fun _ => c.sortations.result >>= fun _ =>
      AggregationResource.stored _ (MemoryStore.ratings.aggregate "documents"
        (c.apply.calls.map PipelineBuilder.stageOf)) >>= _)
    rw [hcond, hsort, ok_bind, ok_bind, hdata]
    exact ⟨_, rfl, rfl⟩

end DataGrid
