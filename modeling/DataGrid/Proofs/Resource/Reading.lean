import DataGrid.Proofs.Request.Window
import DataGrid.Proofs.Resource.Agreement
import DataGrid.Proofs.Store.Matching

/-!
# DataGrid.Proofs.Resource.Reading -- three ways of reading a collection

A store can be asked for the documents of a query, for their number, and for what stages
make of a collection. The three read alike: a query finds what its stages produce, in the
same order or with the same failure, and the number of documents that a filter holds of is
the number that it finds and the number that a counting stage behind it reports.
-/

namespace DataGrid

open Fallible Store PipelineBuilder

/-! ## A query as stages -/

namespace FindQuery

/-- The query of a filter alone. -/
def matching (filter : Document) : FindQuery := { all with filter := filter }

/-- The limit, unless it is zero and so none. -/
def positiveLimit (q : FindQuery) : Option UInt64 := q.limit.filter fun limit => limit != 0

/-- The stage that cuts at a count. -/
def cutStage (name : String) (count : UInt64) : Document :=
  [(name, .int64 (Int64.ofNat count.toNat))]

def projectStage (projection : Document) : Document := [("$project", .document projection)]

/-- The stages that ask what a query asks: filter, order, window, projection. -/
def stages (q : FindQuery) : List Document :=
  [("$match", .document q.filter)] ::
    ((q.sort.toList.map fun keys => [("$sort", .document keys)]) ++
      (q.skip.toList.map (cutStage "$skip") ++ q.positiveLimit.toList.map (cutStage "$limit")) ++
      q.projection.toList.map projectStage)

/-- The counts of a query are counts that a stage can hold. -/
structure Fits (q : FindQuery) : Prop where
  skip : ∀ count, q.skip = some count → count.toNat < 0x8000000000000000
  limit : ∀ count, q.limit = some count → count.toNat < 0x8000000000000000

/-- The calls that cut the window of a query. -/
def cuts (q : FindQuery) : List BuilderCall :=
  q.skip.toList.map .skip ++ q.positiveLimit.toList.map .limit

theorem countValue_of_lt {count : UInt64} (h : count.toNat < 0x8000000000000000) :
    countValue count = .int64 (Int64.ofNat count.toNat) := by
  have hmax : Int64.maxValue.toInt = 0x7FFFFFFFFFFFFFFF := by decide
  rw [countValue, hmax, Int.min_eq_left (by omega), Int64.ofInt_eq_ofNat]

theorem positiveLimit_eq_some {q : FindQuery} {limit : UInt64} :
    q.positiveLimit = some limit ↔ q.limit = some limit ∧ limit ≠ 0 := by
  simp [positiveLimit, Option.filter_eq_some_iff]

/-- The stages of counts that fit are those of the calls. -/
theorem map_stageOf_cuts {q : FindQuery} (fits : q.Fits) :
    q.cuts.map stageOf =
      q.skip.toList.map (cutStage "$skip") ++ q.positiveLimit.toList.map (cutStage "$limit") := by
  have hskip : ∀ count ∈ q.skip.toList, stageOf (.skip count) = cutStage "$skip" count := by
    intro count hcount
    rw [stageOf, countValue_of_lt (fits.skip count (Option.mem_toList.mp hcount))]
    rfl
  have hlimit : ∀ count ∈ q.positiveLimit.toList,
      stageOf (.limit count) = cutStage "$limit" count := by
    intro count hcount
    have hsome := (positiveLimit_eq_some.mp (Option.mem_toList.mp hcount)).1
    rw [stageOf, countValue_of_lt (fits.limit count hsome)]
    rfl
  rw [cuts, List.map_append, List.map_map, List.map_map, ← List.map_congr_left hskip,
    ← List.map_congr_left hlimit]
  rfl

theorem stages_eq {q : FindQuery} (fits : q.Fits) :
    q.stages = (BuilderCall.matchFilter q.filter ::
        (q.sort.toList.map BuilderCall.sort ++ q.cuts)).map stageOf ++
      q.projection.toList.map projectStage := by
  rw [List.map_cons, List.map_append, map_stageOf_cuts fits, List.map_map]
  rfl

/-! ## The stages of a query at work -/

section Work

variable (context : Pipeline.Context)

/-- No limit and a limit of zero cut nothing, and neither has a stage. -/
theorem perform_cuts {q : FindQuery} (fits : q.Fits) (rows : List Document) :
    q.cuts.foldlM (BuilderCall.perform context) rows = .ok (q.window rows) := by
  have hskip : (q.skip.toList.map .skip).foldlM (BuilderCall.perform context) rows =
      .ok (rows.drop (q.skip.getD 0).toNat) := by
    rcases hcount : q.skip with _ | count
    · rfl
    · show (Except.ok (rows.drop (heldCount count)) >>= _) = _
      rw [heldCount_of_lt (fits.skip count hcount)]
      rfl
  rw [cuts, List.foldlM_append, hskip, ok_bind, window]
  rcases hcount : q.limit with _ | count
  · rw [positiveLimit, hcount]
    rfl
  · by_cases hzero : count = 0
    · rw [positiveLimit, hcount, hzero]
      rfl
    · rw [positiveLimit_eq_some.mpr ⟨hcount, hzero⟩]
      show (BuilderCall.perform context _ (.limit count) >>= _) = _
      rw [BuilderCall.perform, if_neg hzero, heldCount_of_lt (fits.limit count hcount)]
      simp only [if_neg hzero]
      rfl

theorem perform_sort (sort : Option Document) (documents : List Document) :
    (sort.toList.map .sort).foldlM (BuilderCall.perform context) documents = match sort with
      | some keys => Sorting.sort keys documents
      | none => .ok documents := by
  cases sort with
  | none => rfl
  | some keys => exact bind_pure _

theorem run_projectStage (projection : Option Document) (rows : List Document) :
    Pipeline.run context (projection.toList.map projectStage) rows =
      rows.mapM (MemoryStore.present projection) := by
  rw [MemoryStore.mapM_present]
  cases projection with
  | none => rfl
  | some projection => exact bind_pure _

/-- The stages of a query select, sort, cut and project. -/
theorem run_stages {q : FindQuery} (fits : q.Fits) (documents : List Document) :
    Pipeline.run context q.stages documents =
      (Matcher.select context.textIndex q.filter documents >>= fun matched =>
        (match q.sort with
          | some keys => Sorting.sort keys matched
          | none => .ok matched) >>= fun rows =>
        (q.window rows).mapM (MemoryStore.present q.projection)) := by
  rw [stages_eq fits, Pipeline.run_calls, List.foldlM_cons, bind_assoc]
  refine bind_congr fun matched => ?_
  rw [List.foldlM_append, perform_sort, bind_assoc]
  refine bind_congr fun rows => ?_
  rw [perform_cuts context fits, ok_bind, run_projectStage]

end Work

end FindQuery

/-! ## One collection, three answers -/

namespace MemoryStore

section Existing

variable {s : MemoryStore} {name : String} {source : Collection}

theorem collection_of_get? (existing : Keyed.get? s.collections name = some source) :
    s.collection name = source := by
  rw [collection, existing]
  rfl

/-- A query finds what its stages produce. A collection that is not there is left out: there a
query finds nothing, also with a sort key that a stage refuses. -/
theorem find_eq_aggregate (existing : Keyed.get? s.collections name = some source)
    {q : FindQuery} (fits : q.Fits) : s.find name q = s.aggregate name q.stages := by
  have hstages := FindQuery.run_stages ⟨s.collections, source.textIndex⟩ fits source.documents
  rw [find_eq, rows, existing, aggregate, collection_of_get? existing, hstages]
  exact bind_assoc _ _ _

/-- Counting is finding and then counting what was found. -/
theorem count_eq_find (existing : Keyed.get? s.collections name = some source)
    (filter : Document) :
    s.count name filter = (s.find name (.matching filter)).map List.length := by
  rw [find_eq, rows, existing, count, existing]
  dsimp only [FindQuery.matching]
  rcases Matcher.select source.textIndex filter source.documents with e | matched
  · rfl
  · simp only [ok_bind, mapM_present]
    rfl

/-- A counting stage behind a filter reports the number that counting gives. -/
theorem read_aggregate_count (existing : Keyed.get? s.collections name = some source)
    (bounded : source.documents.length < 0x8000000000000000) {filter : Document} {n : Nat}
    (h : s.count name filter = .ok n) :
    ∃ rows, s.aggregate name [[("$match", .document filter)], AggregationResource.countStage] =
        .ok rows ∧ (Count.read rows).toNat = n := by
  rw [count, existing] at h
  obtain ⟨matched, hmatched, hn⟩ := bind_eq_ok.mp h
  obtain rfl := Except.ok.inj hn
  have hle := Matcher.length_select_le hmatched
  have hmatch : s.aggregate name [[("$match", .document filter)]] = .ok matched := by
    rw [aggregate, collection_of_get? existing]
    exact (bind_pure _).trans hmatched
  obtain ⟨rows, hrows, hread⟩ := Count.aggregate_count hmatch (by omega)
  exact ⟨rows, hrows, by rw [hread, toNat_saturate_of_held (by omega)]⟩

/-- Finding, counting and stages read a collection alike. -/
theorem reads_agree (existing : Keyed.get? s.collections name = some source)
    (bounded : source.documents.length < 0x8000000000000000) :
    (∀ q : FindQuery, q.Fits → s.find name q = s.aggregate name q.stages) ∧
    ∀ filter : Document,
      (∀ n, s.count name filter = .ok n ↔
        ∃ found, s.find name (.matching filter) = .ok found ∧ found.length = n) ∧
      (∀ e, s.count name filter = .error e ↔ s.find name (.matching filter) = .error e) ∧
      ∀ n, s.count name filter = .ok n →
        ∃ rows, s.aggregate name
            [[("$match", .document filter)], AggregationResource.countStage] = .ok rows ∧
          (Count.read rows).toNat = n := by
  refine ⟨fun q fits => find_eq_aggregate existing fits, fun filter => ⟨fun n => ?_, fun e => ?_,
    fun n h => read_aggregate_count existing bounded h⟩⟩
  · rw [count_eq_find existing]
    cases s.find name (.matching filter) with
    | error e => simp [Except.map]
    | ok found => simp [Except.map]
  · rw [count_eq_find existing]
    cases s.find name (.matching filter) with
    | error e => simp [Except.map]
    | ok found => simp [Except.map]

end Existing

/-- The second book by its title of one author, the title alone. -/
def secondTitle : FindQuery :=
  ⟨Compile.compare "author" "$eq" (.string "Austen"), some [("title", .int32 1)], some 1, some 1,
    some [("author", .int32 0)]⟩

theorem select_secondTitle :
    Matcher.select none secondTitle.filter (library.collection "books").documents =
      .ok [[("title", .string "Emma"), ("author", .string "Austen")],
        [("title", .string "Persuasion"), ("author", .string "Austen")]] := by
  have hdocuments : (library.collection "books").documents =
      [[("title", .string "Emma"), ("author", .string "Austen")],
        [("title", .string "Cecilia"), ("author", .string "Burney")],
        [("title", .string "Persuasion"), ("author", .string "Austen")]] := rfl
  have hauthor : startsWithDollar "author" = false := rfl
  simp only [hdocuments, secondTitle, Matcher.select, Matcher.filter_eq hauthor]
  rfl

theorem reads_agree_library :
    Keyed.get? library.collections "books" = some (library.collection "books") ∧
      (library.collection "books").documents.length < 0x8000000000000000 ∧
      secondTitle.Fits ∧
      library.find "books" secondTitle = library.aggregate "books" secondTitle.stages ∧
      (∃ found, library.find "books" (.matching secondTitle.filter) = .ok found ∧
        found.length = 2) ∧
      ∃ rows, library.aggregate "books"
          [[("$match", .document secondTitle.filter)], AggregationResource.countStage] =
            .ok rows ∧ (Count.read rows).toNat = 2 := by
  have hbounded : (library.collection "books").documents.length < 0x8000000000000000 := by decide
  have hfits : secondTitle.Fits := by
    constructor
    · rintro count ⟨⟩
      decide
    · rintro count ⟨⟩
      decide
  have hcount : library.count "books" secondTitle.filter = .ok 2 :=
    bind_eq_ok.mpr ⟨_, select_secondTitle, rfl⟩
  have hexisting : Keyed.get? library.collections "books" =
      some (library.collection "books") := rfl
  obtain ⟨hfind, hcounts⟩ := reads_agree hexisting hbounded
  obtain ⟨hfound, -, hcounted⟩ := hcounts secondTitle.filter
  exact ⟨hexisting, hbounded, hfits, hfind _ hfits, (hfound 2).mp hcount, hcounted 2 hcount⟩

end MemoryStore
end DataGrid
