import DataGrid.Builder.Pipeline
import DataGrid.Proofs.Fallible
import DataGrid.Proofs.Store.Rows

/-!
# DataGrid.Proofs.Store.Stages -- what the stages of calls do

The stage of a builder call does to documents what the call says; `perform` says it without
a stage. Running the stages of calls is performing the calls one after the other. Calls that
compute, sort and remove keep the number of documents, so a window behind them and a count
before them agree about how many there are.
-/

namespace DataGrid

open Fallible Store PipelineBuilder

/-! ## One call -/

/-- A count as far as a stage can hold it. -/
def heldCount (count : UInt64) : Nat := min count.toNat 0x7FFFFFFFFFFFFFFF

theorem heldCount_of_lt {count : UInt64} (h : count.toNat < 0x8000000000000000) :
    heldCount count = count.toNat := Nat.min_eq_left (by omega)

/-- What a call does to documents. -/
def BuilderCall.perform (context : Pipeline.Context) (documents : List Document) :
    BuilderCall → Except StoreError (List Document)
  | .matchFilter filter => Matcher.select context.textIndex filter documents
  | .addFields fields => documents.mapM fun d => Pipeline.addFields d fields
  | .sort keys => Sorting.sort keys documents
  | .unset names => .ok (documents.map (Pipeline.unset names))
  | .skip count => .ok (documents.drop (heldCount count))
  | .limit count =>
    if count = 0 then .error .limitNotPositive else .ok (documents.take (heldCount count))

namespace Store.Pipeline

theorem toInt_ofInt64 {n : Nat} (h : n < 0x8000000000000000) :
    (Int64.ofInt n).toInt = n := by
  rw [Int64.toInt_ofInt_of_le]
  · show -0x8000000000000000 ≤ _
    omega
  · show _ < 0x8000000000000000
    omega

theorem window_countValue (name : String) (count : UInt64) :
    window name (countValue count) = .ok (heldCount count) := by
  have hmax : Int64.maxValue.toInt = 0x7FFFFFFFFFFFFFFF := by decide
  have hcut : min (count.toNat : Int) Int64.maxValue.toInt = (heldCount count : Int) := by
    rw [hmax, heldCount]
    omega
  have hheld : (Int64.ofInt (heldCount count)).toInt = heldCount count := by
    refine toInt_ofInt64 ?_
    unfold heldCount
    omega
  unfold window countValue
  simp only [hcut, hheld]
  rw [if_neg (by omega)]
  rfl

theorem names_map (removed : List String) : names (removed.map .string) = .ok removed := by
  induction removed with
  | nil => rfl
  | cons name rest ih =>
    show (names (rest.map .string)).map (name :: ·) = _
    rw [ih]
    rfl

/-- The stage of a call performs it. -/
theorem run_stageOf (context : Context) (call : BuilderCall) (rest : List Document)
    (documents : List Document) :
    run context (stageOf call :: rest) documents =
      (call.perform context documents >>= run context rest) := by
  cases call with
  | matchFilter filter => rfl
  | addFields fields => rfl
  | sort keys => rfl
  | unset removed =>
    show ((names (removed.map .string) >>= _) >>= run context rest) = _
    rw [names_map]
    rfl
  | skip count =>
    show ((window "$skip" (countValue count) >>= _) >>= run context rest) = _
    rw [window_countValue]
    rfl
  | limit count =>
    show ((window "$limit" (countValue count) >>= _) >>= run context rest) = _
    rw [window_countValue, BuilderCall.perform]
    -- a limit of zero is refused, and no other limit is held as zero
    by_cases h : count = 0
    · subst h
      rfl
    · have hpos : heldCount count ≠ 0 := by
        have : count.toNat ≠ 0 := fun hzero => h (UInt64.toNat.inj hzero)
        unfold heldCount
        omega
      rw [if_neg h, ok_bind]
      congr 1
      split
      · next hzero => exact absurd hzero hpos
      · rfl

/-! ## Calls in a row -/

/-- The stages of calls perform them one after the other, before any other stages. -/
theorem run_calls (context : Context) (calls : List BuilderCall) (rest : List Document)
    (documents : List Document) :
    run context (calls.map stageOf ++ rest) documents =
      (calls.foldlM (BuilderCall.perform context) documents >>= run context rest) := by
  induction calls generalizing documents with
  | nil => rfl
  | cons call calls ih =>
    rw [List.map_cons, List.cons_append, run_stageOf, List.foldlM_cons, bind_assoc]
    congr 1
    funext documents
    exact ih documents

/-- Stages behind stages go on with their rows. -/
theorem run_append (context : Context) (first second documents : List Document) :
    run context (first ++ second) documents =
      (run context first documents >>= run context second) := by
  induction first generalizing documents with
  | nil => rfl
  | cons stage rest ih =>
    rcases stage with _ | ⟨⟨name, spec⟩, _ | ⟨field, others⟩⟩
    · rfl
    · rw [List.cons_append, run, run, bind_assoc]
      exact bind_congr fun middle => ih middle
    · rfl

/-! ## How many documents there are -/

/-- Calls that compute, sort and remove. -/
def KeepsRows : BuilderCall → Prop
  | .addFields _ | .sort _ | .unset _ => True
  | .matchFilter _ | .skip _ | .limit _ => False

theorem length_perform {context : Context} {call : BuilderCall} (h : KeepsRows call)
    {documents rows : List Document} (hr : call.perform context documents = .ok rows) :
    rows.length = documents.length := by
  cases call with
  | matchFilter => cases h
  | addFields fields => exact length_of_mapM hr
  | sort keys => exact Sorting.length_sort hr
  | unset removed => rw [← Except.ok.inj hr, List.length_map]
  | skip => cases h
  | limit => cases h

/-- A run of such calls has as many rows as documents. -/
theorem length_foldlM {context : Context} {calls : List BuilderCall}
    (h : ∀ call ∈ calls, KeepsRows call) {documents rows : List Document}
    (hr : calls.foldlM (BuilderCall.perform context) documents = .ok rows) :
    rows.length = documents.length :=
  foldlM_preserves List.length (fun call hcall _ _ => length_perform (h call hcall)) hr

/-- Cutting a page out of rows that a stage can count. -/
theorem perform_window (context : Context) {rows : List Document}
    (h : rows.length < 0x8000000000000000) {skip limit : UInt64} (hlimit : limit ≠ 0) :
    [BuilderCall.skip skip, .limit limit].foldlM (BuilderCall.perform context) rows =
      .ok ((rows.drop skip.toNat).take limit.toNat) := by
  -- a count that a stage cannot hold is larger than any list that it can
  have hdrop : rows.drop (heldCount skip) = rows.drop skip.toNat := by
    by_cases hskip : skip.toNat < 0x8000000000000000
    · rw [heldCount_of_lt hskip]
    · unfold heldCount
      rw [List.drop_eq_nil_of_le (by omega), List.drop_eq_nil_of_le (by omega)]
  have htake : (rows.drop skip.toNat).take (heldCount limit) =
      (rows.drop skip.toNat).take limit.toNat := by
    by_cases hle : limit.toNat < 0x8000000000000000
    · rw [heldCount_of_lt hle]
    · unfold heldCount
      rw [List.take_of_length_le, List.take_of_length_le]
      · rw [List.length_drop]
        omega
      · rw [List.length_drop]
        omega
  rw [List.foldlM_cons, BuilderCall.perform, ok_bind, List.foldlM_cons, BuilderCall.perform,
    if_neg hlimit, hdrop, htake]
  rfl

/-- A page cut out of rows has some of them, in their order. -/
theorem sublist_window {context : Context} {rows page : List Document} {skip limit : UInt64}
    (h : [BuilderCall.skip skip, .limit limit].foldlM (BuilderCall.perform context) rows =
      .ok page) : page.Sublist rows := by
  rw [List.foldlM_cons, BuilderCall.perform, ok_bind, List.foldlM_cons, BuilderCall.perform] at h
  split at h
  · cases h
  · obtain rfl := Except.ok.inj h
    exact (List.take_sublist _ _).trans (List.drop_sublist _ _)

end Store.Pipeline

theorem MemoryStore.aggregate_calls (s : MemoryStore) (name : String)
    (calls : List BuilderCall) :
    s.aggregate name (calls.map stageOf) = calls.foldlM
      (BuilderCall.perform ⟨s.collections, (s.collection name).textIndex⟩)
        (s.collection name).documents := by
  have h := Pipeline.run_calls ⟨s.collections, (s.collection name).textIndex⟩ calls []
    (s.collection name).documents
  rw [List.append_nil] at h
  exact h.trans (bind_pure _)

end DataGrid
