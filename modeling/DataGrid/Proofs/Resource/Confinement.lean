import DataGrid.Proofs.Resource.Agreement
import DataGrid.Proofs.Response.Shape
import DataGrid.Proofs.Store.Reads

/-!
# DataGrid.Proofs.Resource.Confinement -- fields that are not listed stay out of reach

Without callbacks, whatever a request asks is asked of the fields that a configuration
lists. Two collections that agree on those fields, document by document, therefore answer
every request from the same places: what clients learn beside the shown documents does not
depend on any other field.
-/

namespace DataGrid

open Fallible Store

/-- The fields that clients can filter or sort by. -/
def Columns.Listed (c : Columns) (path : String) : Prop :=
  (∃ column, Keyed.get? c.conditions column = some path) ∨
    ∃ column, Keyed.get? c.sortations column = some path

/-- No column has a callback. -/
structure Columns.CallbackFree (c : Columns) : Prop where
  conditions : c.conditionCallbacks = []
  sortations : c.sortCallbacks = []

theorem Columns.CallbackFree.predicateOnly {c : Columns} (h : c.CallbackFree) :
    c.PredicateOnly :=
  predicateOnly_of_forall (by simp [h.conditions])

namespace Compiler

open Compile

variable {c : Compiler}

/-! ## Filters that are compiled without callbacks -/

/-- Without callbacks a condition compiles to the filter of the table for the field of its
column; what has no value is given the empty text. -/
theorem condition_eq_ok (free : c.columns.CallbackFree) {condition : Condition}
    {filter : Document} (h : (c.condition condition).result = .ok filter) :
    ∃ column operator field, condition.column = some column ∧
      condition.operator = some operator ∧
      (condition.value = none → operator.requiresValue = false) ∧
      Keyed.get? c.columns.conditions column = some field ∧
      filter = Compile.condition field (some operator)
        (normalize (condition.value.getD (.string ""))) := by
  have hgeneral : ∀ column, Keyed.get? c.columns.conditionCallbacks column = none := by
    intro column
    rw [free.conditions]
    rfl
  obtain ⟨branch, hbranch, hcompiled⟩ := condition_of_ok h
  rw [hcompiled] at h
  obtain rfl := Except.ok.inj h
  cases hbranch with
  | valued hfield =>
    refine ⟨_, _, _, rfl, rfl, nofun, hfield, ?_⟩
    rw [Columns.comparison, Columns.branch_of_general (hgeneral _)]
    rfl
  | valueless hoptional hfield =>
    refine ⟨_, _, _, rfl, rfl, fun _ => hoptional, hfield, ?_⟩
    rw [Columns.comparison, Columns.branch_of_general (hgeneral _)]
    rfl

theorem searchBranch_of_callbackFree (free : c.columns.CallbackFree) (term : String)
    (column : String × String) : searchBranch c.columns term column =
      .done (likeCondition column.2 (.string term) .contains) := by
  unfold searchBranch
  rw [free.conditions]
  rfl

/-! ## Compiled filters read listed fields -/

theorem reads_clause (free : c.columns.CallbackFree) {condition : Condition} {filter : Document}
    (h : (c.condition condition).result = .ok filter) :
    Matcher.Reads c.columns.Listed filter := by
  obtain ⟨column, operator, field, -, -, -, hfield, rfl⟩ := condition_eq_ok free h
  exact Matcher.reads_condition (.inl ⟨column, hfield⟩) _ _

theorem reads_groups (free : c.columns.CallbackFree) {groups : List OrGroup}
    {filters : List Document} (h : (c.groups groups).result = .ok filters) :
    ∀ filter ∈ filters, Matcher.Reads c.columns.Listed filter := by
  intro filter hfilter
  obtain ⟨group, -, -, branches, hbranches, rfl⟩ := (mem_groups_iff h).mp hfilter
  refine Matcher.reads_or fun branch hbranch => ?_
  obtain ⟨condition, -, hcondition⟩ := (mem_mapM_iff hbranches).mp hbranch
  exact reads_clause free hcondition

/-- A search looks through condition columns. The text index is another matter. -/
theorem reads_search (free : c.columns.CallbackFree) (plain : c.textSearch = false)
    {filters : List Document} (h : c.searchGroups.result = .ok filters) :
    ∀ filter ∈ filters, Matcher.Reads c.columns.Listed filter := by
  cases hterm : c.request.searchTerm with
  | none =>
    rw [searchGroups_of_none hterm] at h
    obtain rfl := Except.ok.inj h
    simp
  | some term =>
    obtain ⟨searchable, branches, hsearchable, hbranches, rfl⟩ := searchGroups_eq_ok hterm h
    rw [plain]
    intro filter hfilter
    obtain rfl := List.mem_singleton.mp hfilter
    refine Matcher.reads_or fun branch hbranch => ?_
    obtain ⟨column, hcolumn, hresult⟩ := (mem_mapM_iff hbranches).mp hbranch
    have hfield := ((Columns.mem_requireSearchable hsearchable column).mp hcolumn).2
    rw [searchBranch_of_callbackFree free] at hresult
    obtain rfl := Except.ok.inj hresult
    exact Matcher.reads_likeCondition (.inl ⟨column.1, hfield⟩) _ _

theorem reads_asked (free : c.columns.CallbackFree) (plain : c.textSearch = false)
    {filters : List Document} (h : c.conjuncts = .ok filters) :
    Matcher.Reads c.columns.Listed (asked filters) := by
  obtain ⟨groups, search, hgroups, hsearch, rfl⟩ := conjuncts_eq_ok_iff.mp h
  have hall := List.forall_mem_append.mpr
    ⟨reads_groups free hgroups, reads_search free plain hsearch⟩
  unfold asked conjunction
  split
  · exact Matcher.reads_nil _
  · exact Matcher.reads_and hall

/-! ## Two runs -/

/-- Two collections that agree on listed fields have the rows of a request at the same
places, in the same order. -/
theorem rows_agree {α : Type} (free : c.columns.CallbackFree) (plain : c.textSearch = false)
    {filters : List Document} (hfilters : c.conjuncts = .ok filters)
    (hsort : c.sortations.result = .ok ()) {left right : MemoryStore} {name : String}
    (index : (left.collection name).textIndex = (right.collection name).textIndex)
    {f g : α → Document} (agree : ∀ a, Document.AgreeOn c.columns.Listed (f a) (g a))
    {items : List α} (hleft : (left.collection name).documents = items.map f)
    (hright : (right.collection name).documents = items.map g) :
    (∃ e, c.rows left name = .error e ∧ c.rows right name = .error e) ∨
    ∃ kept places : List α, kept.Sublist items ∧ places.Perm kept ∧
      c.rows left name = .ok (places.map f) ∧ c.rows right name = .ok (places.map g) := by
  obtain ⟨plan, hplan, hcalls⟩ := sortations_calls free.sortations hsort
  have hsound := Compile.sound_sortPlan hplan
  have hreads := reads_asked free plain hfilters
  unfold Compiler.rows
  rw [List.foldlM_append, List.foldlM_append, perform_conditions free.predicateOnly hfilters,
    perform_conditions free.predicateOnly hfilters, hleft, hright, index, hcalls]
  rcases Matcher.select_map (right.collection name).textIndex
      (fun a => hreads _ _ _ (agree a)) items with ⟨e, hf, hg⟩ | ⟨kept, hkept, hf, hg⟩
  · rw [hf, hg]
    exact .inl ⟨e, rfl, rfl⟩
  rw [hf, hg, ok_bind, ok_bind]
  -- the places that are kept stay in order, unless there is something to sort by
  split
  · exact .inr ⟨kept, kept, hkept, List.Perm.refl kept, rfl, rfl⟩
  · obtain ⟨keys, hkeys, hpaths⟩ := Compile.keys_of_directed hsound.directed
    have hlisted : ∀ key ∈ keys, ∃ path, c.columns.Listed path ∧ key.path = Path.ofText path := by
      intro key hkey
      obtain ⟨entry, hentry, hpath⟩ := hpaths key hkey
      exact ⟨entry.1, .inr (hsound.listed entry hentry), hpath⟩
    have hsorts := Sorting.sort_map hkeys
      (fun a b => Sorting.compareAll_congr hlisted (agree a) (agree b)) kept
    refine hsorts.imp (fun ⟨e, hsf, hsg⟩ => ⟨e, ?_, ?_⟩)
      fun ⟨places, hplaces, hsf, hsg⟩ => ⟨kept, places, hkept, hplaces, ?_, ?_⟩
    · exact (bind_pure _).trans hsf
    · exact (bind_pure _).trans hsg
    · exact (bind_pure _).trans hsf
    · exact (bind_pure _).trans hsg

end Compiler

/-! ## Places of a collection -/

/-- Documents as those at the places of a list, in the order of the places. -/
def PickedFrom (documents : List Document) (places : List Nat) (picked : List Document) : Prop :=
  places.map (documents[·]?) = picked.map some

theorem range_map_getD (documents : List Document) :
    documents = (List.range documents.length).map (documents.getD · []) := by
  refine List.ext_getElem (by simp) fun i hi _ => ?_
  simp [hi]

theorem pickedFrom_getD {documents : List Document} {places : List Nat}
    (h : ∀ i ∈ places, i < documents.length) :
    PickedFrom documents places (places.map (documents.getD · [])) := by
  unfold PickedFrom
  rw [List.map_map]
  refine List.map_congr_left fun i hi => ?_
  simp [h i hi]

theorem Request.window_map {α β : Type} (r : Request) (f : α → β) (rows : List α) :
    r.window (rows.map f) = (r.window rows).map f := by
  rw [window, window, List.map_take, List.map_drop]

theorem Request.window_sublist {α : Type} (r : Request) (rows : List α) :
    (r.window rows).Sublist rows :=
  (List.take_sublist _ _).trans (List.drop_sublist _ _)

/-- A place beyond two collections of one length holds the same nothing in both. -/
theorem agreeOn_getD {listed : String → Prop} {documents others : List Document}
    (length : documents.length = others.length)
    (agree : ∀ (i : Nat) d d', documents[i]? = some d → others[i]? = some d' →
      Document.AgreeOn listed d d') (i : Nat) :
    Document.AgreeOn listed (documents.getD i []) (others.getD i []) := by
  by_cases hi : i < documents.length
  · refine agree i _ _ ?_ ?_
    · simp [hi]
    · simp [length ▸ hi]
  · have hi' : ¬ i < others.length := length ▸ hi
    intro path _
    simp [hi, hi']

/-- Fields that are not listed cannot be probed: collections that agree on the listed fields
answer a request with the same refusal, or with the same total and the documents at the
same places. -/
theorem find_confined {columns : Columns} (free : columns.CallbackFree)
    {left right : MemoryStore} {name : String}
    (length : (left.collection name).documents.length = (right.collection name).documents.length)
    (index : (left.collection name).textIndex = (right.collection name).textIndex)
    (agree : ∀ (i : Nat) d d', (left.collection name).documents[i]? = some d →
      (right.collection name).documents[i]? = some d' → Document.AgreeOn columns.Listed d d')
    (request : Request) :
    let r := FindResource.plain name columns
    (∃ e, r.getData left request = .error e ∧ r.getData right request = .error e) ∨
    ∃ total places picked picked' items items',
      r.getData left request = .ok ⟨items, total⟩ ∧
      r.getData right request = .ok ⟨items', total⟩ ∧
      places.Nodup ∧
      PickedFrom (left.collection name).documents places picked ∧
      PickedFrom (right.collection name).documents places picked' ∧
      Shape.documents picked r.dateFormat = .ok items ∧
      Shape.documents picked' r.dateFormat = .ok items' := by
  intro r
  let c : Compiler := ⟨columns, request, false⟩
  have hleft := FindResource.plain_getData_eq free.predicateOnly free.sortations left name request
  have hright :=
    FindResource.plain_getData_eq free.predicateOnly free.sortations right name request
  change r.getData left request = (c.sortations.result >>= _) at hleft
  change r.getData right request = (c.sortations.result >>= _) at hright
  rw [hleft, hright]
  rcases hsort : c.sortations.result with e | ⟨⟩
  · exact .inl ⟨e, rfl, rfl⟩
  rcases hfilters : c.conjuncts with e | filters
  · rw [Compiler.conditions_result, hfilters]
    exact .inl ⟨e, rfl, rfl⟩
  rw [Compiler.conditions_result, hfilters]
  rcases Compiler.rows_agree (c := c) free rfl hfilters hsort index (agreeOn_getD length agree)
      (range_map_getD _) (length ▸ range_map_getD _) with
    ⟨e, hl, hr⟩ | ⟨kept, places, hkept, hplaces, hl, hr⟩
  · rw [hl, hr]
    exact .inl ⟨_, rfl, rfl⟩
  rw [hl, hr]
  have hshown := request.window_sublist places
  have hnodup : places.Nodup := hplaces.nodup_iff.mpr (hkept.nodup List.nodup_range)
  have hbound : ∀ i ∈ request.window places, i < (left.collection name).documents.length :=
    fun i hi => List.mem_range.mp (hkept.subset (hplaces.subset (hshown.subset hi)))
  obtain ⟨items, hitems⟩ := Shape.exists_documents_dateTimeUtc
    ((request.window places).map ((left.collection name).documents.getD · []))
  obtain ⟨items', hitems'⟩ := Shape.exists_documents_dateTimeUtc
    ((request.window places).map ((right.collection name).documents.getD · []))
  refine .inr ⟨saturate places.length, request.window places, _, _, items, items', ?_, ?_,
    hshown.nodup hnodup, pickedFrom_getD hbound,
    pickedFrom_getD fun i hi => length ▸ hbound i hi, hitems, hitems'⟩
  · show (Shape.documents (request.window (places.map _)) r.dateFormat >>= fun items =>
      .ok (⟨items, saturate (places.map _).length⟩ : ResultPage)) = _
    rw [Request.window_map, List.length_map]
    exact congrArg (· >>= _) hitems
  · show (Shape.documents (request.window (places.map _)) r.dateFormat >>= fun items =>
      .ok (⟨items, saturate (places.map _).length⟩ : ResultPage)) = _
    rw [Request.window_map, List.length_map]
    exact congrArg (· >>= _) hitems'

/-- Only titles can be named. -/
def Columns.catalogue : Columns :=
  ((Columns.new "catalogue").condition "title" "title").sortation "title" "title"

/-- The library with other authors, and a field that the library does not have. -/
def MemoryStore.redacted : MemoryStore :=
  ⟨[("books", ⟨[[("title", .string "Emma"), ("price", .boolean true)],
    [("title", .string "Cecilia"), ("author", .string "A Lady")],
    [("title", .string "Persuasion")]], none⟩)], (⟨.ofNat 96 ·⟩), 3⟩

theorem Columns.eq_title_of_listed {path : String} (h : Columns.catalogue.Listed path) :
    path = "title" := by
  rcases h with ⟨column, hcolumn⟩ | ⟨column, hcolumn⟩
  all_goals
    have hmem := Keyed.mem_of_get? hcolumn
    exact congrArg Prod.snd (List.mem_singleton.mp hmem)

theorem find_confined_catalogue :
    let r := FindResource.plain "books" Columns.catalogue
    Columns.catalogue.CallbackFree ∧
    (MemoryStore.library.collection "books").documents.length =
      (MemoryStore.redacted.collection "books").documents.length ∧
    (MemoryStore.library.collection "books").textIndex =
      (MemoryStore.redacted.collection "books").textIndex ∧
    (∀ (i : Nat) d d', (MemoryStore.library.collection "books").documents[i]? = some d →
      (MemoryStore.redacted.collection "books").documents[i]? = some d' →
        Document.AgreeOn Columns.catalogue.Listed d d') ∧
    ∃ places picked picked' items items',
      r.getData .library .byTitle = .ok ⟨items, 3⟩ ∧
      r.getData .redacted .byTitle = .ok ⟨items', 3⟩ ∧ places.Nodup ∧
      PickedFrom (MemoryStore.library.collection "books").documents places picked ∧
      PickedFrom (MemoryStore.redacted.collection "books").documents places picked' ∧
      Shape.documents picked r.dateFormat = .ok items ∧
      Shape.documents picked' r.dateFormat = .ok items' := by
  intro r
  have free : Columns.catalogue.CallbackFree := ⟨rfl, rfl⟩
  have agree : ∀ (i : Nat) d d', (MemoryStore.library.collection "books").documents[i]? = some d →
      (MemoryStore.redacted.collection "books").documents[i]? = some d' →
        Document.AgreeOn Columns.catalogue.Listed d d' := by
    intro i d d' hd hd' path hpath
    obtain rfl := Columns.eq_title_of_listed hpath
    rcases i with _ | _ | _ | i
    · cases hd
      cases hd'
      rfl
    · cases hd
      cases hd'
      rfl
    · cases hd
      cases hd'
      rfl
    · cases hd
  have length : (MemoryStore.library.collection "books").documents.length =
      (MemoryStore.redacted.collection "books").documents.length := rfl
  have hanswer : r.getData .library .byTitle = .ok
      ⟨[[("title", .string "Cecilia"), ("author", .string "Burney")],
        [("title", .string "Emma"), ("author", .string "Austen")]], 3⟩ :=
    (FindResource.plain_getData_eq free.predicateOnly rfl _ _ _).trans rfl
  refine ⟨free, length, rfl, agree, ?_⟩
  rcases find_confined free length rfl agree .byTitle with
    ⟨e, hl, -⟩ | ⟨total, places, picked, picked', items, items', hl, hr, hrest⟩
  · cases hanswer.symm.trans hl
  · obtain rfl : 3 = total := congrArg ResultPage.total (Except.ok.inj (hanswer.symm.trans hl))
    exact ⟨places, picked, picked', items, items', hl, hr, hrest⟩

end DataGrid
