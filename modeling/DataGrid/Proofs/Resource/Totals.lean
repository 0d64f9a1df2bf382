import DataGrid.Proofs.Resource.Reading
import DataGrid.Proofs.Store.RowNumbers

/-!
# DataGrid.Proofs.Resource.Totals -- what a total counts

A resource builds a pipeline that its total is counted over, and takes the size of the
collection instead when the request narrows nothing and no stage groups. That is the number
of rows of the counting pipeline when its own stages keep the number of rows. It is more
when they drop some: the choice looks for groups only, and so passes over a stage that
selects, cuts or counts. A total is never less than that number.
-/

namespace DataGrid

open Fallible Store

namespace AggregationResource

section Strategies

variable {r : AggregationResource} {store : MemoryStore} {request : Request}
  {data counting : List Document} {total : UInt64}

/-- The fast total is the size of the collection. -/
theorem toNat_total_fast
    (bounded : (store.collection r.collection).documents.length < 0x8000000000000000)
    (fast : Count.decide data request.hasFilter request.hasSearch = .fast)
    (h : r.total store request data counting = .ok total) :
    total.toNat = (store.collection r.collection).documents.length := by
  rw [AggregationResource.total, fast] at h
  obtain ⟨size, hcount, rfl⟩ := map_eq_ok.mp h
  obtain rfl := Except.ok.inj ((store.count_all _).symm.trans (mapError_eq_ok.mp hcount))
  exact toNat_saturate_of_held bounded

/-- The other total is the number of rows to be counted. -/
theorem toNat_total_aggregate
    (bounded : (store.collection r.collection).documents.length < 0x8000000000000000)
    (slow : Count.decide data request.hasFilter request.hasSearch = .aggregate)
    {counted : List Document} (hcounted : store.aggregate r.collection counting = .ok counted)
    (h : r.total store request data counting = .ok total) : total.toNat = counted.length := by
  rw [AggregationResource.total, slow] at h
  obtain ⟨rows, hrows, rfl⟩ := map_eq_ok.mp h
  -- no stage makes a row, so the counting stage can hold the number
  have hle := (Pipeline.length_run hcounted).1
  have hfits : counted.length < 0x8000000000000000 := by omega
  obtain ⟨reported, hreported, hread⟩ := Count.aggregate_count hcounted hfits
  obtain rfl := Except.ok.inj (hreported.symm.trans (mapError_eq_ok.mp hrows))
  rw [hread, toNat_saturate_of_held hfits]

end Strategies

/-- The total of a page is at least the number of rows of the counting pipeline, and is that
number unless the size of the collection is taken while the pipeline drops rows. -/
theorem total_counts_rows {r : AggregationResource} {store : MemoryStore}
    (bounded : (store.collection r.collection).documents.length < 0x8000000000000000)
    {request : Request} {page : ResultPage} (h : r.getData store request = .ok page) :
    ∃ data counting, stages r.pipeline (r.compiler request) = .ok data ∧
      stages r.countPipeline (r.compiler request) = .ok counting ∧
      ∀ counted, store.aggregate r.collection counting = .ok counted →
        counted.length ≤ page.total.toNat ∧
        (page.total.toNat = counted.length ↔
          Count.decide data request.hasFilter request.hasSearch = .aggregate ∨
            counted.length = (store.collection r.collection).documents.length) ∧
        ((∀ stage ∈ counting, Pipeline.KeepsNumber stage) →
          page.total.toNat = counted.length) := by
  obtain ⟨data, counting, hdata, hcounting, -, htotal⟩ := getData_eq_ok h
  refine ⟨data, counting, hdata, hcounting, fun counted hcounted => ?_⟩
  obtain ⟨hle, hkeeps⟩ := Pipeline.length_run hcounted
  cases hdecide : Count.decide data request.hasFilter request.hasSearch with
  | fast =>
    have hnat := toNat_total_fast bounded hdecide htotal
    rw [hnat]
    exact ⟨hle, ⟨fun heq => .inr heq.symm, fun h => h.elim (fun h => nomatch h) Eq.symm⟩,
      fun hall => (hkeeps hall).symm⟩
  | aggregate =>
    have hnat := toNat_total_aggregate bounded hdecide hcounted htotal
    exact ⟨Nat.le_of_eq hnat.symm, ⟨fun _ => .inl rfl, fun _ => hnat⟩, fun _ => hnat⟩

/-! ## A resource with a stage of its own -/

/-- The books of one author: a stage of the resource selects them in front of what is
compiled, in both pipelines. -/
def ofAuthor : AggregationResource :=
  let own := PipelineBuilder.stageOf (.matchFilter MemoryStore.secondTitle.filter)
  { plain "books" .shelf with
    pipeline := fun c b => c.apply.run (b.addStage own)
    countPipeline := fun c b => c.conditions.run (b.addStage own) }

theorem aggregate_ofAuthor :
    ∃ counting, stages ofAuthor.countPipeline (ofAuthor.compiler .default) = .ok counting ∧
      MemoryStore.library.aggregate "books" counting =
        .ok [[("title", .string "Emma"), ("author", .string "Austen")],
          [("title", .string "Persuasion"), ("author", .string "Austen")]] :=
  ⟨_, rfl, (bind_pure _).trans MemoryStore.select_secondTitle⟩

theorem getData_ofAuthor : ofAuthor.getData .library .default =
    .ok ⟨[[("title", .string "Emma"), ("author", .string "Austen")],
      [("title", .string "Persuasion"), ("author", .string "Austen")]], 3⟩ := by
  have hrows := (MemoryStore.library.aggregate_calls "books"
    [.matchFilter MemoryStore.secondTitle.filter, .skip (Request.offset .default),
      .limit (Request.pageSize .default)]).trans
    (bind_eq_ok.mpr ⟨_, MemoryStore.select_secondTitle, rfl⟩)
  rw [getData_steps]
  refine bind_eq_ok.mpr ⟨_, rfl, ?_⟩
  refine bind_eq_ok.mpr ⟨_, rfl, ?_⟩
  refine bind_eq_ok.mpr ⟨_, mapError_eq_ok.mpr hrows, ?_⟩
  refine bind_eq_ok.mpr ⟨_, rfl, ?_⟩
  refine map_eq_ok.mpr ⟨3, ?_, rfl⟩
  -- nothing is asked and nothing groups, so all three books are counted
  show (ofAuthor.stored (MemoryStore.library.count "books" [])).map saturate = _
  rw [MemoryStore.count_all]
  rfl

/-- Two books are counted over and three are reported, because the choice of the fast way does
not see that a stage selects. -/
theorem total_counts_rows_ofAuthor :
    (MemoryStore.library.collection ofAuthor.collection).documents.length < 0x8000000000000000 ∧
      ∃ page, ofAuthor.getData .library .default = .ok page ∧ page.total = 3 ∧
        ∃ data counting counted, stages ofAuthor.pipeline (ofAuthor.compiler .default) = .ok data ∧
          stages ofAuthor.countPipeline (ofAuthor.compiler .default) = .ok counting ∧
          MemoryStore.library.aggregate "books" counting = .ok counted ∧ counted.length = 2 ∧
          Count.decide data Request.default.hasFilter Request.default.hasSearch ≠ .aggregate := by
  have hbounded : (MemoryStore.library.collection ofAuthor.collection).documents.length <
      0x8000000000000000 := by decide
  obtain ⟨data, counting, hdata, hcounting, hall⟩ := total_counts_rows hbounded getData_ofAuthor
  obtain ⟨counting', hcounting', hcounted⟩ := aggregate_ofAuthor
  obtain rfl := Except.ok.inj (hcounting'.symm.trans hcounting)
  obtain ⟨-, hiff, -⟩ := hall _ hcounted
  refine ⟨hbounded, _, getData_ofAuthor, rfl, data, counting', _, hdata, hcounting, hcounted, rfl,
    fun haggregate => ?_⟩
  exact absurd (hiff.mpr (.inl haggregate)) (by decide)

/-- So the total of a page is not the number of rows of the counting pipeline in general. -/
theorem total_ne_rows_ofAuthor :
    ¬ ∀ (r : AggregationResource) (store : MemoryStore) (request : Request) (page : ResultPage),
      (store.collection r.collection).documents.length < 0x8000000000000000 →
      r.getData store request = .ok page →
      ∀ counting counted, stages r.countPipeline (r.compiler request) = .ok counting →
        store.aggregate r.collection counting = .ok counted →
          page.total.toNat = counted.length := by
  intro hall
  obtain ⟨counting, hcounting, hcounted⟩ := aggregate_ofAuthor
  have hequal := hall ofAuthor .library .default _ (by decide) getData_ofAuthor _ _ hcounting
    hcounted
  exact absurd hequal (by decide)

end AggregationResource
end DataGrid
