import DataGrid.Proofs.Request.RoundTrip
import DataGrid.Response.Envelope

/-!
# DataGrid.Proofs.Response.Echo -- a reply shows what was asked, and nothing else

The body of a reply is a JSON text, whatever documents are on the page, and a client finds in it
the request that it has sent: the filter as a text in a text, the search and the sortations. What
the server adds to a request has no part in the body, and neither has the name of the resource.
-/

namespace DataGrid

open Json (orNull)

/-! ## The filter of a text -/

namespace Request

/-- The values of the filter of a request that is given as a tree. -/
def filterParts (j : Json) : List Json :=
  match j.parts? fieldNames with
  | some [filter, _, _, _, _, _, _] => filter.toList.flatMap OrGroup.valueParts
  | _ => []

/-- The values in the filter of a request text are plain. -/
def hasPlainFilter (text : String) : Bool :=
  (Json.read? text).all fun j => (filterParts j).all Json.isPlain

theorem filterParts_subset (j : Json) : filterParts j ⊆ valueParts j := by
  intro part hpart
  unfold filterParts at hpart
  split at hpart
  · next hparts =>
    rw [valueParts, hparts]
    simp only [List.flatMap_append, List.mem_append]
    exact .inl (.inl hpart)
  · cases hpart

/-- The filter is plain if everything is. -/
theorem hasPlainFilter_of_hasPlainValues {text : String} (h : hasPlainValues text = true) :
    hasPlainFilter text = true := by
  unfold hasPlainValues at h
  unfold hasPlainFilter
  cases hread : Json.read? text with
  | none => rfl
  | some j =>
    rw [hread, Option.all_some, List.all_eq_true] at h
    rw [Option.all_some, List.all_eq_true]
    exact fun part hpart => h part (filterParts_subset j hpart)

/-- A filter that was read from plain values can be written and read back. -/
theorem isPlain_filter {j : Json} {r : Request} (h : ofJson? j = some r)
    (plain : ∀ part ∈ filterParts j, part.isPlain = true) : OrGroup.ListIsPlain r.filter := by
  unfold ofJson? at h
  unfold filterParts at plain
  split at h
  · next filter _ _ _ _ _ _ hparts =>
    simp only [hparts, List.mem_flatMap, Option.mem_toList] at plain
    obtain ⟨filters, hfilter, h⟩ := Option.bind_eq_some_iff.mp h
    -- the other parts are read behind the filter and leave it as it is
    obtain ⟨_, -, h⟩ := Option.bind_eq_some_iff.mp h
    obtain ⟨_, -, h⟩ := Option.bind_eq_some_iff.mp h
    obtain ⟨_, -, h⟩ := Option.bind_eq_some_iff.mp h
    obtain ⟨_, -, h⟩ := Option.bind_eq_some_iff.mp h
    obtain ⟨_, -, h⟩ := Option.bind_eq_some_iff.mp h
    obtain ⟨_, -, h⟩ := Option.bind_eq_some_iff.mp h
    cases h
    exact OrGroup.isPlain_orDefault hfilter fun j hj part hpart => plain part ⟨j, hj, hpart⟩
  · cases h

end Request

/-! ## The parts of a body -/

namespace Envelope

/-- A body has five parts, each under its name. -/
theorem fields?_toJson (e : Envelope) : e.toJson.fields? =
    some [("filter", .ofText (OrGroup.listToJson e.filter).toText),
      ("items", .list (e.items.map Document.toJson)), ("paging", e.paging.toJson),
      ("search", Json.ofText? e.search),
      ("sorter", (e.sorter.map Sortation.listToJson).getD .null)] :=
  Json.fields?_written [("filter", .ofText (OrGroup.listToJson e.filter).toText),
      ("items", .list (e.items.map Document.toJson)), ("paging", e.paging.toJson),
      ("search", Json.ofText? e.search),
      ("sorter", (e.sorter.map Sortation.listToJson).getD .null)]

/-- A body can be read, whatever it holds. -/
theorem readable_toJson (e : Envelope) : e.toJson.Readable := by
  have hquoted (name : String) : Json.IsQuoted (Json.Quoted.encode name.toList) :=
    Json.isQuoted_encode name.toList
  have hitems : (Json.list (e.items.map Document.toJson)).Readable :=
    Json.readable_list_map fun d _ => Value.readable_toJson (.document d)
  have hpaging : e.paging.toJson.Readable :=
    ⟨hquoted _, Json.readable_ofNat _, hquoted _, Json.readable_ofNat _,
      hquoted _, Json.readable_ofNat _, hquoted _, Json.readable_ofNat _,
      hquoted _, Json.readable_ofNat _, hquoted _, Json.readable_ofNat _, trivial⟩
  have hsearch : (Json.ofText? e.search).Readable := Json.readable_ofText? e.search
  have hsorter : ((e.sorter.map Sortation.listToJson).getD .null).Readable := by
    cases e.sorter with
    | none => trivial
    | some sortations => exact Sortation.readable_listToJson sortations
  exact ⟨hquoted "filter", Json.readable_ofText _, hquoted "items", hitems,
    hquoted "paging", hpaging, hquoted "search", hsearch, hquoted "sorter", hsorter, trivial⟩

theorem body_reply (e : Envelope) : e.reply.body = e.toJson.toText := rfl

/-- The body is a JSON text. -/
theorem read?_body (e : Envelope) : Json.read? e.reply.body = some e.toJson := by
  rw [body_reply]
  exact Json.read?_toText e.readable_toJson

/-- What the server adds to a request and the name of the resource are not in the body. -/
theorem body_new (resource other : String) (request : Request) (page : ResultPage)
    (additional : List OrGroup) (native : Option Document) :
    (new other { request with additionalFilters := additional, nativeQuery := native }
      page).reply.body = (new resource request page).reply.body := by
  rw [body_reply, body_reply]
  rfl

/-- The sortations are missing exactly when there are none. -/
theorem sorter_new (resource : String) (request : Request) (page : ResultPage) :
    (new resource request page).sorter =
      if request.orderBy = [] then none else some request.orderBy := by
  show (if request.orderBy.isEmpty then _ else _) = _
  simp only [List.isEmpty_iff]

/-- The body of a reply to a request that came from a text is a JSON text with five parts. The
filter is a text, from which the filter of the request is read again, and likewise the
sortations, or null without any, and the search. The body is the same whatever filters
and native query the server adds, and whatever the resource is called. -/
theorem echoes_request {text : String} {request : Request}
    (h : Request.ofText? text = some request) (plain : Request.hasPlainFilter text = true)
    (resource : String) (page : ResultPage) :
    let body := (new resource request page).reply.body
    (∃ tree filter items paging search sorter, Json.read? body = some tree ∧
      tree.fields? = some [("filter", filter), ("items", items), ("paging", paging),
        ("search", search), ("sorter", sorter)] ∧
      (∃ echoed groups, filter.text? = some echoed ∧ Json.read? echoed = some groups ∧
        OrGroup.listOfJson? groups = some request.filter) ∧
      (sorter = .null ↔ request.orderBy = []) ∧
      (request.orderBy ≠ [] → Sortation.listOfJson? sorter = some request.orderBy) ∧
      orNull Json.text? search = some request.search) ∧
    ∀ (other : String) (additional : List OrGroup) (native : Option Document),
      (new other { request with additionalFilters := additional, nativeQuery := native }
        page).reply.body = body := by
  intro body
  refine ⟨?_, fun other additional native => body_new resource other request page _ _⟩
  obtain ⟨j, hj, hr⟩ := Option.bind_eq_some_iff.mp h
  rw [Request.hasPlainFilter, hj, Option.all_some, List.all_eq_true] at plain
  have hfilter := Request.isPlain_filter hr plain
  refine ⟨_, _, _, _, _, _, read?_body _, fields?_toJson _,
    ⟨_, _, Json.text?_ofText _, Json.read?_toText (OrGroup.readable_listToJson request.filter),
      OrGroup.listOfJson?_listToJson hfilter⟩, ?_, ?_, Json.orNull_ofText? request.search⟩
  · rw [sorter_new]
    split
    · next hnone => exact ⟨fun _ => hnone, fun _ => rfl⟩
    · next hsome => exact ⟨nofun, fun hnone => absurd hnone hsome⟩
  · intro hsome
    rw [sorter_new, if_neg hsome]
    exact Sortation.listOfJson?_listToJson request.orderBy

/-- A page with a task whose values are not all of kinds that JSON has. -/
def taskPage : ResultPage where
  items := [[("_id", .objectId ⟨0xabc⟩), ("due", .dateTime 0),
    ("effort", .double ⟨0x3ff8000000000000⟩)]]
  total := 1

/-- The same request for the server, which leaves out what has no owner. -/
def owned : Request :=
  { Request.pending with additionalFilters := [[⟨some "owner", some .exist, none⟩]] }

theorem echoes_request_pending :
    Request.ofText? Request.pendingText = some .pending ∧
      Request.hasPlainFilter Request.pendingText = true ∧
      let body := (new "tasks" .pending taskPage).reply.body
      (∃ tree filter items paging search sorter, Json.read? body = some tree ∧
        tree.fields? = some [("filter", filter), ("items", items), ("paging", paging),
          ("search", search), ("sorter", sorter)] ∧
        (∃ echoed groups, filter.text? = some echoed ∧ Json.read? echoed = some groups ∧
          OrGroup.listOfJson? groups = some Request.pending.filter) ∧
        Sortation.listOfJson? sorter = some [⟨"é", .descending⟩] ∧
        orNull Json.text? search = some none) ∧
      (new "chores" owned taskPage).reply.body = body := by
  obtain ⟨hrequest, hvalues⟩ := Request.ofText?_pendingText
  have hplain := Request.hasPlainFilter_of_hasPlainValues hvalues
  obtain ⟨⟨tree, filter, items, paging, search, sorter, hread, hfields, hfilter, -, hsorter,
    hsearch⟩, hsame⟩ := echoes_request hrequest hplain "tasks" taskPage
  exact ⟨hrequest, hplain, ⟨tree, filter, items, paging, search, sorter, hread, hfields, hfilter,
    hsorter (List.cons_ne_nil _ _), hsearch⟩, hsame "chores" _ none⟩

end Envelope
end DataGrid
