import DataGrid.Proofs.Compile.Acceptance
import DataGrid.Proofs.Resource.Pages
import DataGrid.Proofs.Response.Paging
import DataGrid.Proofs.Text.Digits
import DataGrid.Response.Envelope

/-!
# DataGrid.Proofs.Response.Range -- the range of a page

The range header and the paging of a reply are computed from the request and the total alone.
They nevertheless tell where the items of the page stand: a page that shows anything begins
within the rows, which no page behind the last one does, and it is cut off where the rows end, as
the range is.
-/

namespace DataGrid

open Fallible Store

/-! ## Where a page that shows something begins and ends -/

section Window

variable {α : Type} {request : Request} {rows : List α}

theorem Request.offset_lt_of_window (h : request.window rows ≠ []) :
    request.offset.toNat < rows.length := by
  refine Nat.lt_of_not_le fun hle => h ?_
  rw [window, List.drop_eq_nil_of_le hle, List.take_nil]

theorem Request.length_window (r : Request) (rows : List α) :
    (r.window rows).length = min r.pageSize.toNat (rows.length - r.offset.toNat) := by
  rw [window, List.length_take, List.length_drop]

/-- The last position of the range is that of the last row on the page. -/
theorem ContentRange.toNat_lastPosition (fits : rows.length < UInt64.size)
    (h : request.window rows ≠ []) :
    (lastPosition request.offset request.pageSize (saturate rows.length)).toNat =
      request.offset.toNat + (request.window rows).length - 1 := by
  have hoffset := Request.offset_lt_of_window h
  have hsize := request.pageSize_pos
  rw [lastPosition, toNat_min, toNat_saturate, toNat_saturate, toNat_saturate_of_lt fits,
    request.length_window rows]
  omega

/-- A page that shows something is none behind the last. -/
theorem Request.pageNumber_le_lastPage (fits : rows.length < UInt64.size)
    (h : request.window rows ≠ []) :
    request.pageNumber ≤
      (Paging.new request.pageNumber request.pageSize (saturate rows.length)).lastPage := by
  have hbegin : request.offset < saturate rows.length := by
    rw [UInt64.lt_iff_toNat_lt, toNat_saturate_of_lt fits]
    exact offset_lt_of_window h
  rw [Paging.new_clamped]
  exact ((request.offset_lt_iff _).mp hbegin).1

end Window

/-! ## What the envelope says -/

namespace Envelope

variable (collection : String) (request : Request) (page : ResultPage)

theorem paging_new : (new collection request page).paging.page = request.pageNumber ∧
    (new collection request page).paging.itemsPerPage = request.pageSize := by
  constructor
  · refine UInt64.toNat.inj ?_
    show (max request.pageNumber 1).toNat = _
    rw [toNat_max]
    exact Nat.max_eq_left request.pageNumber_pos
  · refine UInt64.toNat.inj ?_
    show (max request.pageSize 1).toNat = _
    rw [toNat_max]
    exact Nat.max_eq_left request.pageSize_pos

/-- The envelope and the query that was run agree on the first position. -/
theorem offset_new : (new collection request page).offset = request.offset := by
  rw [offset, (paging_new collection request page).1, (paging_new collection request page).2]
  rfl

theorem range_reply (e : Envelope) : e.reply.valuesOf "content-range" =
    [ContentRange.value e.offset e.paging.itemsPerPage e.paging.total e.resource] := by
  simp [reply, Reply.ofJson, Reply.valuesOf, ContentRange.headers]

/-- The paging stands in the body under its name. -/
theorem lookup_paging (e : Envelope) :
    e.toJson.fields?.bind (List.lookup "paging") = some e.paging.toJson := rfl

end Envelope

namespace ContentRange

theorem safeName_of_printable {name : String}
    (h : ∀ c ∈ name.toList, 0x20 ≤ c.toNat ∧ c.toNat ≤ 0x7E) : safeName name = name := by
  rw [safeName, List.filter_eq_self.mpr, String.ofList_toList]
  intro c hc
  simpa using h c hc

/-- The text of a range is printable ASCII, whatever the name. -/
theorem printable_text {offset limit total : UInt64} {name : String} {c : Char}
    (hc : c ∈ (text offset limit total name).toList) : 0x20 ≤ c.toNat ∧ c.toNat ≤ 0x7E := by
  have hnumber : ∀ n : Nat, ∀ c ∈ (toString n).toList, 0x20 ≤ c.toNat ∧ c.toNat ≤ 0x7E := by
    intro n c hc
    have hdigit := Text.toNat_of_isDigit (Text.isDigit_of_mem_toString hc)
    omega
  have hname : ∀ c ∈ (safeName name).toList, 0x20 ≤ c.toNat ∧ c.toNat ≤ 0x7E := by
    intro c hc
    rw [safeName, String.toList_ofList] at hc
    simpa using (List.mem_filter.mp hc).2
  simp only [text, String.toList_append, List.mem_append] at hc
  rcases hc with (((((hc | hc) | hc) | hc) | hc) | hc) | hc
  · exact hname c hc
  · obtain rfl := List.mem_singleton.mp hc
    decide
  · exact hnumber _ c hc
  · obtain rfl := List.mem_singleton.mp hc
    decide
  · exact hnumber _ c hc
  · obtain rfl := List.mem_singleton.mp hc
    decide
  · exact hnumber _ c hc

/-- The text of a range may stand in a header. -/
theorem isHeaderText_text (offset limit total : UInt64) (name : String) :
    isHeaderText (text offset limit total name) = true := by
  refine List.all_eq_true.mpr fun c hc => ?_
  have hprintable := printable_text hc
  simp [hprintable]

/-- The header is the text of the range, never the fallback. -/
theorem value_eq_text (offset limit total : UInt64) (name : String) :
    value offset limit total name = text offset limit total name := by
  simp only [value, isHeaderText_text, if_true]

end ContentRange

/-! ## What a reply says about its page -/

/-- A reply tells where the items of its page stand. -/
structure Reply.Describes (reply : Reply) (collection : String) (request : Request)
    (page : ResultPage) : Prop where
  /-- There is one range header. It names the positions of the first and of the last item. -/
  range : reply.valuesOf "content-range" =
    [ContentRange.safeName collection ++ " " ++ toString request.offset.toNat ++ "-" ++
      toString (request.offset.toNat + page.items.length - 1) ++ "/" ++
      toString page.total.toNat]
  within : request.offset.toNat + page.items.length ≤ page.total.toNat
  /-- The paging in the body is the one of the request and the total. -/
  paging : ∃ body : Json, reply.body = body.toText ∧
    body.fields?.bind (List.lookup "paging") =
      some (Paging.new request.pageNumber request.pageSize page.total).toJson
  /-- The page is none behind the last. -/
  number : (Paging.new request.pageNumber request.pageSize page.total).page ≤
    (Paging.new request.pageNumber request.pageSize page.total).lastPage

/-- A resource that shows windows of its rows describes every page that has items. -/
theorem Pageable.describes {collection : String} {answer : Answer}
    (pageable : Pageable collection answer) {store : MemoryStore}
    (bounded : (store.collection collection).documents.length < 0x8000000000000000)
    {request : Request} {page : ResultPage} (h : answer store request = .ok page)
    (nonempty : page.items ≠ []) :
    ∃ reply, Reply.ofResult collection request (answer store request) = some reply ∧
      reply.Describes collection request page := by
  have hsame : answer store (request.turnTo request.page request.itemsPerPage) = .ok page := h
  obtain ⟨rows, shown, hle, hshows⟩ := pageable.showsRows bounded hsame
  obtain ⟨hitems, htotal⟩ := hshows _ _ _ hsame
  have fits : rows.length < UInt64.size := by
    have : 0x8000000000000000 < UInt64.size := by decide
    omega
  have hlength : page.items.length = (request.window rows).length := length_of_mapM hitems
  have hwindow : request.window rows ≠ [] := by
    intro hnil
    rw [hnil] at hlength
    exact nonempty (List.eq_nil_of_length_eq_zero hlength)
  have hreply : Reply.ofResult collection request (answer store request) =
      some (Envelope.new collection request page).reply := by
    rw [h]
    rfl
  exact ⟨_, hreply,
    { range := by
        have hend : (ContentRange.lastPosition request.offset request.pageSize page.total).toNat =
            request.offset.toNat + page.items.length - 1 := by
          rw [htotal, hlength]
          exact ContentRange.toNat_lastPosition fits hwindow
        have hname : (Envelope.new collection request page).resource = collection := rfl
        have htotal : (Envelope.new collection request page).paging.total = page.total := rfl
        rw [Envelope.range_reply, ContentRange.value_eq_text, Envelope.offset_new,
          (Envelope.paging_new collection request page).2, hname, htotal, ContentRange.text, hend]
      within := by
        rw [htotal, toNat_saturate_of_lt fits, hlength, request.length_window rows]
        have := Request.offset_lt_of_window hwindow
        omega
      paging := ⟨_, rfl, Envelope.lookup_paging _⟩
      number := by
        have hpage : (Paging.new request.pageNumber request.pageSize page.total).page =
            request.pageNumber := (Envelope.paging_new collection request page).1
        rw [hpage, htotal]
        exact Request.pageNumber_le_lastPage fits hwindow }⟩

theorem Columns.QuietSorts.fieldsOnly {c : Columns} (sorts : c.QuietSorts) : c.FieldsOnly := by
  intro column callback hget call hcall
  rw [sorts column callback hget] at hcall
  cases hcall

/-- A resource of either kind without anything special, whose callbacks leave the builder
alone, describes every page that has items. The range is headed by the printable ASCII of the
collection's name, which is the name itself if it has nothing else. -/
theorem range_covers_items {columns : Columns} (sink : columns.PredicateOnly)
    (sorts : columns.QuietSorts) {store : MemoryStore} {collection : String}
    (bounded : (store.collection collection).documents.length < 0x8000000000000000)
    (request : Request) :
    let found := FindResource.plain collection columns
    let piped := AggregationResource.plain collection columns
    (∀ page, found.getData store request = .ok page → page.items ≠ [] →
      ∃ reply, found.reply store request = some reply ∧
        reply.Describes collection request page) ∧
    (∀ page, piped.getData store request = .ok page → page.items ≠ [] →
      ∃ reply, piped.reply store request = some reply ∧
        reply.Describes collection request page) ∧
    ((∀ c ∈ collection.toList, 0x20 ≤ c.toNat ∧ c.toNat ≤ 0x7E) →
      ContentRange.safeName collection = collection) := by
  intro found piped
  have hfound : Pageable collection found.getData := .find (r := found) rfl
  have hpiped : Pageable collection piped.getData :=
    .pipeline (AggregationResource.plain_ordinary collection columns) sink sorts.fieldsOnly
  exact ⟨fun page h some => hfound.describes bounded h some,
    fun page h some => hpiped.describes bounded h some, ContentRange.safeName_of_printable⟩

/-- The last page of the books by title shows the third of three. -/
theorem range_covers_items_library :
    let found := FindResource.plain "books" Columns.shelf
    let piped := AggregationResource.plain "books" Columns.shelf
    let request := { Request.byTitle with page := 2 }
    Columns.shelf.PredicateOnly ∧ Columns.shelf.QuietSorts ∧
      (MemoryStore.library.collection "books").documents.length < 0x8000000000000000 ∧
      found.getData .library request = .ok (bookPage 2) ∧
      piped.getData .library request = .ok (bookPage 2) ∧
      (found.reply .library request).map (Reply.valuesOf · "content-range") =
        some ["books 2-2/3"] ∧
      (piped.reply .library request).map (Reply.valuesOf · "content-range") =
        some ["books 2-2/3"] := by
  intro found piped request
  have sorts : Columns.shelf.QuietSorts := by
    intro column callback hget
    cases hget
  have bounded : (MemoryStore.library.collection "books").documents.length <
      0x8000000000000000 := by decide
  have hfound : found.getData .library request = .ok (bookPage 2) :=
    (FindResource.plain_getData_eq Columns.shelf_predicateOnly rfl .library "books" _).trans rfl
  have hpiped : piped.getData .library request = .ok (bookPage 2) :=
    (AggregationResource.getData_eq (AggregationResource.plain_ordinary "books" Columns.shelf)
      Columns.shelf_predicateOnly sorts.fieldsOnly bounded _).trans rfl
  have hitems : (bookPage 2).items ≠ [] := List.cons_ne_nil _ _
  have hrange : [ContentRange.safeName "books" ++ " " ++ toString request.offset.toNat ++ "-" ++
      toString (request.offset.toNat + (bookPage 2).items.length - 1) ++ "/" ++
      toString (bookPage 2).total.toNat] = ["books 2-2/3"] := by decide +kernel
  obtain ⟨hfinds, hpipes, -⟩ := range_covers_items Columns.shelf_predicateOnly sorts bounded request
  obtain ⟨reply, hreply, hdescribes⟩ := hfinds _ hfound hitems
  obtain ⟨reply', hreply', hdescribes'⟩ := hpipes _ hpiped hitems
  refine ⟨Columns.shelf_predicateOnly, sorts, bounded, hfound, hpiped, ?_, ?_⟩
  · rw [hreply, Option.map_some, hdescribes.range, hrange]
  · rw [hreply', Option.map_some, hdescribes'.range, hrange]

/-- A collection whose name is not all ASCII. -/
def MemoryStore.bibliothek : MemoryStore :=
  ⟨[("bücher", ⟨[[("title", .string "Emma")]], none⟩)], (⟨.ofNat 96 ·⟩), 1⟩

/-- The range is not headed by a name that a header cannot hold. -/
theorem range_without_umlaut :
    let found := FindResource.plain "bücher" Columns.shelf
    ∃ page, found.getData .bibliothek .default = .ok page ∧ page.items.length = 1 ∧
      page.total = 1 ∧ Request.default.offset = 0 ∧
      (found.reply .bibliothek .default).map (Reply.valuesOf · "content-range") ≠
        some ["bücher 0-0/1"] := by
  intro found
  have hfound : found.getData .bibliothek .default = .ok ⟨[[("title", .string "Emma")]], 1⟩ :=
    (FindResource.plain_getData_eq Columns.shelf_predicateOnly rfl .bibliothek "bücher" _).trans rfl
  have pageable : Pageable "bücher" found.getData := .find (r := found) rfl
  refine ⟨_, hfound, rfl, rfl, rfl, fun heq => ?_⟩
  obtain ⟨reply, hreply, hdescribes⟩ :=
    pageable.describes (by decide) hfound (List.cons_ne_nil _ _)
  have hreply : found.reply .bibliothek .default = some reply := hreply
  rw [hreply, Option.map_some, hdescribes.range] at heq
  exact absurd (Option.some.inj heq) (by decide +kernel)

end DataGrid
