import DataGrid.Store.Sorting
import DataGrid.Proofs.Fallible
import DataGrid.Proofs.Store.StableSort

/-!
# DataGrid.Proofs.Store.Sorting -- sorting documents by keys

A specification is read first, and what is wrong with it is reported. Documents are sorted by
its keys after that; the only thing that can go wrong then is that their order is inconsistent.
-/

namespace DataGrid.Store.Sorting

open Fallible

/-- What holds of any reading and any order, so that neither of them has to be opened. -/
theorem run_inPlace (read : Except StoreError (List Key))
    (order : List Key → List Document → Except StoreError (List Document))
    (documents : List Document) :
    (do
      let keys ← MonadExcept.ofExcept read
      set (← MonadExcept.ofExcept (order keys (← get))) :
      ExceptT StoreError (StateM (List Document)) Unit).run.run documents =
      match read >>= fun keys => order keys documents with
      | .ok sorted => (.ok (), sorted)
      | .error fault => (.error fault, documents) := by
  cases read with
  | error fault => rfl
  | ok keys =>
    rw [ok_bind]
    show (do set (← MonadExcept.ofExcept (order keys documents)) :
      ExceptT StoreError (StateM (List Document)) Unit).run.run documents = _
    cases order keys documents <;> rfl

theorem run_sortInPlace (spec : Document) (documents : List Document) :
    (sortInPlace spec).run.run documents =
      match keys spec >>= fun keys => sortByKeys keys documents with
      | .ok sorted => (.ok (), sorted)
      | .error fault => (.error fault, documents) :=
  run_inPlace (keys spec) sortByKeys documents

theorem sort_eq (spec : Document) (documents : List Document) :
    sort spec documents = (keys spec >>= fun keys => sortByKeys keys documents) := by
  rw [sort, run_sortInPlace]
  cases keys spec >>= fun keys => sortByKeys keys documents <;> rfl

theorem sortByKeys_eq_ok {keys : List Key} {documents sorted : List Document} :
    sortByKeys keys documents = .ok sorted ↔
      sortBy? (fun a b => (compareAll keys a b).isLT) documents = some sorted := by
  unfold sortByKeys
  split
  · next h => rw [h]; simp
  · next h => rw [h]; simp

theorem sort_perm {spec : Document} {documents sorted : List Document}
    (h : sort spec documents = .ok sorted) : sorted.Perm documents := by
  rw [sort_eq] at h
  obtain ⟨keys, -, h⟩ := bind_eq_ok.mp h
  exact sortBy?_perm (sortByKeys_eq_ok.mp h)

theorem length_sort {spec : Document} {documents sorted : List Document}
    (h : sort spec documents = .ok sorted) : sorted.length = documents.length :=
  (sort_perm h).length_eq

end DataGrid.Store.Sorting
