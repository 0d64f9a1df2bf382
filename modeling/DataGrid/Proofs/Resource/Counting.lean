import DataGrid.Proofs.Resource.GroupKeys
import DataGrid.Proofs.Store.Stages
import DataGrid.Resource.Aggregation

/-!
# DataGrid.Proofs.Resource.Counting -- counting by the store and by a stage

A total is either the size of the collection or what a counting stage reports. The size is
taken only when the request narrows nothing, and a counting stage reports the number of rows
that reach it, no row at all for none of them.
-/

namespace DataGrid.Count

open Fallible Store

/-- The size of the collection is taken only when the request narrows nothing. -/
theorem narrows_nothing_of_fast {stages : List Document} {hasFilter hasSearch : Bool}
    (h : decide stages hasFilter hasSearch = .fast) : (hasFilter || hasSearch) = false := by
  rw [decide_eq_fast_iff, ← or_assoc, ← Bool.or_eq_true, not_or, Bool.not_eq_true] at h
  exact h.1

/-- The counting stage reports the number of rows. -/
theorem read_count (context : Pipeline.Context) (rows : List Document)
    (h : rows.length < 0x8000000000000000) :
    ∃ counted, Pipeline.run context [AggregationResource.countStage] rows = .ok counted ∧
      read counted = saturate rows.length := by
  have hcount : Pipeline.run context [AggregationResource.countStage] rows =
      Pipeline.count rows (.string fieldName) := bind_pure _
  rw [hcount, Pipeline.count, if_neg (by decide)]
  cases rows with
  | nil => exact ⟨[], rfl, rfl⟩
  | cons first rest =>
    refine ⟨_, rfl, ?_⟩
    have hmax : Int32.maxValue.toInt = 0x7FFFFFFF := by decide
    have hmax64 : Int64.maxValue.toInt = 0x7FFFFFFFFFFFFFFF := by decide
    generalize (first :: rest).length = n at h ⊢
    by_cases hsmall : (n : Int) ≤ Int32.maxValue.toInt
    · rw [if_pos hsmall]
      show saturate (Int32.ofInt n).toInt.toNat = _
      rw [Int32.toInt_ofInt_of_le, Int.toNat_natCast]
      · show -0x80000000 ≤ _
        omega
      · show _ < 0x80000000
        omega
    · rw [if_neg hsmall]
      show saturate (Int64.ofInt (min (n : Int) Int64.maxValue.toInt)).toInt.toNat = _
      rw [Int.min_eq_left (by omega), Pipeline.toInt_ofInt64 h, Int.toNat_natCast]

/-- Behind other stages it reports the number of their rows. -/
theorem aggregate_count {s : MemoryStore} {name : String} {stages rows : List Document}
    (h : s.aggregate name stages = .ok rows) (bounded : rows.length < 0x8000000000000000) :
    ∃ counted, s.aggregate name (stages ++ [AggregationResource.countStage]) = .ok counted ∧
      read counted = saturate rows.length := by
  obtain ⟨counted, hcounted, hread⟩ := read_count
    ⟨s.collections, (s.collection name).textIndex⟩ rows bounded
  refine ⟨counted, ?_, hread⟩
  rw [MemoryStore.aggregate, Pipeline.run_append]
  exact bind_eq_ok.mpr ⟨rows, h, hcounted⟩

end DataGrid.Count
