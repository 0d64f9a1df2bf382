import DataGrid.Proofs.Compile.Conditions
import DataGrid.Proofs.Store.Rows
import DataGrid.Resource.Find

/-!
# DataGrid.Proofs.Resource.Find -- the page of a find query in steps

A resource that is answered by a find query compiles the request, takes the rows of the
query, shows those in the window of the request and counts them all. The compiled query
does not depend on the window.
-/

namespace DataGrid.FindResource

open Fallible

theorem stored_bind {α β : Type} (r : FindResource) (x : Except StoreError α)
    (next : α → Except StoreError β) :
    r.stored (x >>= next) = (r.stored x >>= fun a => r.stored (next a)) :=
  mapError_bind x next _

theorem stored_eq_ok {α : Type} {r : FindResource} {x : Except StoreError α} {a : α} :
    r.stored x = .ok a ↔ x = .ok a := mapError_eq_ok

/-- The query that conditions are compiled into: the base, with the native query and sorted. -/
def sorted (r : FindResource) (request : Request) : QueryBuilder :=
  Builder.run (r.withNative request r.base) (r.compiler request).sortations.calls

/-- The same for the count, which can have a base of its own and is not sorted then. -/
def uncounted (r : FindResource) (request : Request) : QueryBuilder :=
  match r.countBase with
  | none => r.sorted request
  | some base => r.withNative request base

/-- The two queries are compiled from the same conditions. -/
theorem queries_eq (r : FindResource) (request : Request) :
    r.queries request = ((r.compiler request).sortations.result >>= fun _ =>
      (r.compiler request).conditions.result >>= fun _ =>
      .ok (((r.compiler request).conditions.run (r.sorted request)).1,
        ((r.compiler request).conditions.run (r.uncounted request)).1.filter)) := by
  unfold queries uncounted
  refine bind_congr fun _ => ?_
  cases r.countBase with
  | none => rfl
  | some base =>
    show ((r.compiler request).conditions.result >>= fun _ =>
      (r.compiler request).conditions.result >>= _) = _
    rcases (r.compiler request).conditions.result with e | _ <;> rfl

theorem queries_turnTo (r : FindResource) (request : Request) (page size : UInt64) :
    r.queries (request.turnTo page size) = r.queries request := by
  have h := Compiler.conditions_turnTo r.columns request r.textSearch page size
  unfold queries compiler
  simp only [h]
  rfl

/-- Without a count base of its own a resource counts by the filter of its query. -/
theorem count_filter {r : FindResource} (h : r.countBase = none) {request : Request}
    {query : QueryBuilder} {countFilter : Document}
    (hq : r.queries request = .ok (query, countFilter)) : countFilter = query.filter := by
  have hstart : r.uncounted request = r.sorted request := by rw [uncounted, h]
  rw [queries_eq, hstart] at hq
  obtain ⟨-, -, hq⟩ := bind_eq_ok.mp hq
  obtain ⟨-, -, hq⟩ := bind_eq_ok.mp hq
  obtain ⟨rfl, rfl⟩ := Prod.mk.inj (Except.ok.inj hq)
  rfl

/-- A page in steps: rows, window, projection, shape, count. -/
theorem getData_eq (r : FindResource) (store : MemoryStore) (request : Request) :
    r.getData store request = (r.queries request >>= fun queries =>
      r.stored (store.rows r.collection queries.1.filter queries.1.sort) >>= fun rows =>
      r.stored ((request.window rows).mapM (MemoryStore.present queries.1.projection)) >>=
        fun documents =>
      Shape.documents documents r.dateFormat >>= fun items =>
      r.stored (store.count r.collection queries.2) >>= fun total =>
      .ok ⟨items, saturate total⟩) := by
  unfold getData
  congr 1
  funext queries
  obtain ⟨query, countFilter⟩ := queries
  -- the window is called last, so it replaces any that was there
  let windowed := (Builder.run query (r.compiler request).pagination.calls).toQuery
  have hskip : windowed.skip = some request.offset := rfl
  have hlimit : windowed.limit = some request.pageSize := rfl
  have hfind := store.find_window r.collection hskip hlimit request.pageSize_ne_zero
  show (r.stored (store.find r.collection windowed) >>= _) = _
  rw [hfind, stored_bind, bind_assoc]
  rfl

end DataGrid.FindResource
