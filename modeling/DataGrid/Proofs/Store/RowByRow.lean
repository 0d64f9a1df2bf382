import DataGrid.Proofs.Number.Binary64
import DataGrid.Proofs.Store.Matching
import DataGrid.Proofs.Store.RowNumbers
import DataGrid.Proofs.Store.Stages
import Mathlib.Data.List.Perm.Basic

/-!
# DataGrid.Proofs.Store.RowByRow -- what stages do to rows

Stages that compute, remove, project and join work on one document at a time: the row at a
place is what the pipeline makes of the document at that place, taken alone. A sorting stage
moves documents and leaves them as they are, so a pipeline with sorting stages in it makes its
rows, one by one, of the documents in some order. Selecting keeps rows, cutting keeps a piece
of them at one end, and stages behind stages go on with what those in front have made.
-/

namespace DataGrid

open Fallible Store

/-! ## Counts -/

theorem Binary64.scaled_eq_iff {x : Binary64} {z : Int} :
    x.scaled = z * unitsInOne ↔ x.size % unitsInOne = 0 ∧ x.truncate = z := by
  have hunits : (unitsInOne : Int) ≠ 0 := unitsInOne_pos.ne'
  have hsize : ∀ z : Int, (x.size : Int) = z * unitsInOne ↔
      x.size % unitsInOne = 0 ∧ ((x.size / unitsInOne : Nat) : Int) = z := by
    intro z
    rw [← Int.natCast_inj, Int.natCast_emod, Int.natCast_ediv]
    constructor
    · intro h
      rw [h, Int.mul_ediv_cancel _ hunits]
      exact ⟨Int.mul_emod_left _ _, rfl⟩
    · rintro ⟨hmod, rfl⟩
      exact (Int.ediv_mul_cancel (Int.dvd_of_emod_eq_zero hmod)).symm
  unfold scaled truncate
  split
  · rw [neg_eq_iff_eq_neg, ← Int.neg_mul, hsize]
    exact and_congr_right' neg_eq_iff_eq_neg.symm
  · exact hsize z

theorem Binary64.clampToInt_of_isFinite {x : Binary64} (h : x.isFinite = true) (low high : Int) :
    x.clampToInt low high = max low (min high x.truncate) := by
  have hbelow : x.magnitude < infiniteMagnitude := of_decide_eq_true h
  unfold clampToInt isNaN isInfinite
  rw [if_neg (by rw [decide_eq_true_iff]; omega), if_neg (by rw [decide_eq_true_iff]; omega)]

namespace Store.Pipeline

/-- A value says how many: an integer does, and a finite double that is one. A double beyond
the integers of a word says the largest of them. -/
def IsCount (n : Nat) : Value → Prop
  | .int32 x => x.toInt = n
  | .int64 x => x.toInt = n
  | .double x => x.isFinite = true ∧ ∃ m : Nat, x.scaled = (m : Int) * Binary64.unitsInOne ∧
      n = min m 0x7FFFFFFFFFFFFFFF
  | _ => False

theorem window_eq_ok_iff {name : String} {spec : Value} {n : Nat} :
    window name spec = .ok n ↔ IsCount n spec := by
  have hcount : ∀ count : Int, (if count < 0 then .error (.windowNotCount name)
      else .ok count.toNat : Except StoreError Nat) = .ok n ↔ count = n := by
    intro count
    split
    · simp
      omega
    · simp
      omega
  unfold window
  rw [hcount]
  cases spec with
  | int32 x => exact Iff.rfl
  | int64 x => exact Iff.rfl
  | double x =>
    have hlow : Int64.minValue.toInt = -0x8000000000000000 := by decide
    have hhigh : Int64.maxValue.toInt = 0x7FFFFFFFFFFFFFFF := by decide
    simp only [IsCount, Binary64.scaled_eq_iff, Binary64.isIntegral, Bool.and_eq_true,
      decide_eq_true_eq]
    split
    · next hintegral =>
      -- cut at the lower end a number stays negative, and is refused as it would be uncut
      rw [Binary64.clampToInt_of_isFinite hintegral.1, hlow, hhigh]
      constructor
      · intro h
        exact ⟨hintegral.1, x.truncate.toNat, ⟨hintegral.2, by omega⟩, by omega⟩
      · rintro ⟨-, m, ⟨-, htruncate⟩, rfl⟩
        omega
    · next hintegral =>
      constructor
      · intro h
        omega
      · rintro ⟨hfinite, m, ⟨hsize, -⟩, -⟩
        exact absurd ⟨hfinite, hsize⟩ hintegral
  | _ =>
    simp only [IsCount, iff_false]
    omega

/-! ## One row of one document -/

/-- What stages make of a document by itself. -/
def Becomes (context : Context) (stages : List Document) (d row : Document) : Prop :=
  run context stages [d] = .ok [row]

theorem run_single (context : Context) (name : String) (spec : Value) (documents : List Document) :
    run context [[(name, spec)]] documents = stage context name spec documents := bind_pure _

theorem Becomes.cons {context : Context} {stage : Document} {rest : List Document}
    {d middle row : Document} (hstage : Becomes context [stage] d middle)
    (hrest : Becomes context rest middle row) : Becomes context (stage :: rest) d row := by
  have h := run_append context [stage] rest [d]
  rw [hstage, ok_bind, hrest] at h
  exact h

section Rows

variable {context : Context} {name : String} {spec : Value} {documents rows : List Document}

theorem forall₂_stage (hname : name ∈ rowKeeping) (hsort : name ≠ "$sort")
    (h : stage context name spec documents = .ok rows) :
    List.Forall₂ (Becomes context [[(name, spec)]]) documents rows := by
  obtain ⟨make, hmake⟩ := stage_eq_mapM hname hsort h
  rw [hmake, mapM_eq_ok_iff_forall₂] at h
  refine h.imp fun d row hrow => ?_
  rw [Becomes, run_single, hmake]
  exact mapM_eq_ok_iff_forall₂.mpr (.cons hrow .nil)

/-- A document is sorted by itself. -/
theorem becomes_of_sort (h : stage context "$sort" spec documents = .ok rows) (d : Document) :
    Becomes context [[("$sort", spec)]] d d := by
  obtain ⟨fields, hfields, h⟩ := bind_eq_ok.mp h
  rw [Sorting.sort_eq] at h
  obtain ⟨keys, hkeys, -⟩ := bind_eq_ok.mp h
  show (specDocument "$sort" spec >>= fun fields => Sorting.sort fields [d]) >>= run context [] = _
  rw [hfields, ok_bind, Sorting.sort_eq, hkeys]
  rfl

/-- A stage that keeps rows makes them, one by one, of the documents in some order. -/
theorem exists_perm_stage (hname : name ∈ rowKeeping)
    (h : stage context name spec documents = .ok rows) :
    ∃ arranged, arranged.Perm documents ∧
      List.Forall₂ (Becomes context [[(name, spec)]]) arranged rows := by
  by_cases hsort : name = "$sort"
  · subst hsort
    have hperm : rows.Perm documents := by
      obtain ⟨fields, -, hsorted⟩ := bind_eq_ok.mp h
      exact Sorting.sort_perm hsorted
    exact ⟨rows, hperm, List.forall₂_same.mpr fun d _ => becomes_of_sort h d⟩
  · exact ⟨documents, .refl _, forall₂_stage hname hsort h⟩

/-! ## Rows of a pipeline -/

variable {stages : List Document}

/-- Rows of rows. -/
theorem forall₂_becomes_cons {stage : Document} {rest middle : List Document}
    (hstage : List.Forall₂ (Becomes context [stage]) documents middle)
    (hrest : List.Forall₂ (Becomes context rest) middle rows) :
    List.Forall₂ (Becomes context (stage :: rest)) documents rows := by
  induction hstage generalizing rows with
  | nil =>
    obtain rfl := List.forall₂_nil_left_iff.mp hrest
    exact .nil
  | cons hd _ ih =>
    obtain ⟨row, others, hrow, hothers, rfl⟩ := List.forall₂_cons_left_iff.mp hrest
    exact .cons (hd.cons hrow) (ih hothers)

/-- By induction on the stages: without sorting, the row at a place is what the pipeline makes
of the document at that place. -/
theorem forall₂_run (hkeeps : ∀ stage ∈ stages, KeepsNumber stage)
    (hsort : ∀ stage ∈ stages, ∀ spec, stage ≠ [("$sort", spec)])
    (h : run context stages documents = .ok rows) :
    List.Forall₂ (Becomes context stages) documents rows := by
  induction stages generalizing documents with
  | nil =>
    obtain rfl := Except.ok.inj h
    exact List.forall₂_same.mpr fun d _ => rfl
  | cons first rest ih =>
    obtain ⟨name, spec, middle, rfl, hstage, hrest⟩ := run_cons_eq_ok h
    obtain ⟨hfirst, hothers⟩ := List.forall_mem_cons.mp hkeeps
    obtain ⟨hunsorted, hunsorteds⟩ := List.forall_mem_cons.mp hsort
    have hname : name ≠ "$sort" := fun heq => hunsorted spec (by rw [heq])
    exact forall₂_becomes_cons (forall₂_stage (hfirst name spec rfl) hname hstage)
      (ih hothers hunsorteds hrest)

/-- By induction on the stages. The order that the later stages give to the rows of the first
is an order of the documents behind them, because a row has one of these. -/
theorem exists_perm_run (hkeeps : ∀ stage ∈ stages, KeepsNumber stage)
    (h : run context stages documents = .ok rows) :
    ∃ arranged, arranged.Perm documents ∧
      List.Forall₂ (Becomes context stages) arranged rows := by
  induction stages generalizing documents with
  | nil =>
    obtain rfl := Except.ok.inj h
    exact ⟨documents, .refl _, List.forall₂_same.mpr fun d _ => rfl⟩
  | cons first rest ih =>
    obtain ⟨name, spec, middle, rfl, hstage, hrest⟩ := run_cons_eq_ok h
    obtain ⟨hfirst, hothers⟩ := List.forall_mem_cons.mp hkeeps
    obtain ⟨arranged, hperm, hmiddle⟩ := exists_perm_stage (hfirst name spec rfl) hstage
    obtain ⟨rearranged, hreperm, hrows⟩ := ih hothers hrest
    have hcomp : Relation.Comp (List.Forall₂ (Becomes context [[(name, spec)]])) List.Perm
        arranged rearranged := ⟨middle, hmiddle, hreperm.symm⟩
    rw [List.forall₂_comp_perm_eq_perm_comp_forall₂] at hcomp
    obtain ⟨ordered, hordered, hbecome⟩ := hcomp
    exact ⟨ordered, hordered.symm.trans hperm, forall₂_becomes_cons hbecome hrows⟩

end Rows

/-! ## Selecting and cutting -/

section Cuts

variable {context : Context} {spec : Value} {documents rows : List Document}

theorem run_match_eq_ok_iff :
    run context [[("$match", spec)]] documents = .ok rows ↔ ∃ filter, spec = .document filter ∧
      (∀ d ∈ documents, ∃ holds, Matcher.filter context.textIndex d filter = .ok holds) ∧
        rows = documents.filter (Matcher.accepts context.textIndex filter) := by
  have hspec : ∀ filter, specDocument "$match" spec = .ok filter ↔ spec = .document filter := by
    cases spec <;> simp [specDocument]
  rw [run_single]
  show (specDocument "$match" spec >>= _) = _ ↔ _
  simp only [bind_eq_ok, hspec, Matcher.select_eq_ok_iff]

theorem run_skip_eq_ok_iff :
    run context [[("$skip", spec)]] documents = .ok rows ↔
      ∃ n, IsCount n spec ∧ rows = documents.drop n := by
  rw [run_single]
  show (window "$skip" spec >>= _) = _ ↔ _
  simp only [bind_eq_ok, window_eq_ok_iff]
  exact exists_congr fun n => and_congr_right' (by simp [eq_comm])

/-- A limit of no rows at all is refused. -/
theorem run_limit_eq_ok_iff :
    run context [[("$limit", spec)]] documents = .ok rows ↔
      ∃ n, IsCount n spec ∧ 0 < n ∧ rows = documents.take n := by
  rw [run_single]
  show (window "$limit" spec >>= _) = _ ↔ _
  simp only [bind_eq_ok, window_eq_ok_iff]
  refine exists_congr fun n => and_congr_right' ?_
  cases n with
  | zero => simp
  | succ n => simp [eq_comm]

end Cuts

/-! ## Stages and rows -/

/-- Stages that sort, compute, remove, project and join leave as many rows as there are
documents, each of them made of one document alone, at its place if no stage sorts. Selecting
keeps the documents that the filter accepts, in their order; `$skip` and `$limit` keep the piece
behind and before the place that they name. Stages behind stages run on the rows of these, and
fail where the one or the other fails. -/
theorem rows_of_stages (context : Context) (documents : List Document) :
    (∀ stages rows, (∀ stage ∈ stages, KeepsNumber stage) →
      run context stages documents = .ok rows →
        rows.length = documents.length ∧
        (∃ arranged, arranged.Perm documents ∧
          List.Forall₂ (Becomes context stages) arranged rows) ∧
        ((∀ stage ∈ stages, ∀ spec, stage ≠ [("$sort", spec)]) →
          List.Forall₂ (Becomes context stages) documents rows)) ∧
    (∀ spec rows, run context [[("$match", spec)]] documents = .ok rows →
      rows.Sublist documents ∧ ∃ filter, spec = .document filter ∧
        rows = documents.filter (Matcher.accepts context.textIndex filter)) ∧
    (∀ spec rows, run context [[("$skip", spec)]] documents = .ok rows ↔
      ∃ n, IsCount n spec ∧ rows = documents.drop n) ∧
    (∀ spec rows, run context [[("$limit", spec)]] documents = .ok rows ↔
      ∃ n, IsCount n spec ∧ 0 < n ∧ rows = documents.take n) ∧
    (∀ first second rows, run context (first ++ second) documents = .ok rows ↔
      ∃ middle, run context first documents = .ok middle ∧
        run context second middle = .ok rows) ∧
    (∀ first second fault, run context (first ++ second) documents = .error fault ↔
      run context first documents = .error fault ∨
        ∃ middle, run context first documents = .ok middle ∧
          run context second middle = .error fault) := by
  refine ⟨fun stages rows hkeeps h => ⟨(length_run h).2 hkeeps, exists_perm_run hkeeps h,
    fun hsort => forall₂_run hkeeps hsort h⟩, fun spec rows h => ?_,
    fun _ _ => run_skip_eq_ok_iff, fun _ _ => run_limit_eq_ok_iff, fun first second rows => ?_,
    fun first second fault => ?_⟩
  · obtain ⟨filter, rfl, -, rfl⟩ := run_match_eq_ok_iff.mp h
    exact ⟨List.filter_sublist, filter, rfl, rfl⟩
  · rw [run_append, bind_eq_ok]
  · rw [run_append, bind_eq_error]

/-- Two books and their authors. -/
def books : List Document :=
  [[("title", .string "Persuasion"), ("author", .int32 1), ("pages", .int32 249)],
    [("title", .string "Emma"), ("author", .int32 1), ("pages", .int32 474)]]

def authors : Context := ⟨[("authors", ⟨[[("_id", .int32 1)]], none⟩)], none⟩

/-- Books by title, without their pages, with their authors. -/
def byTitle : List Document :=
  [[("$sort", .document [("title", .int32 1)])],
    [("$unset", .string "pages")],
    [("$lookup", .document [("from", .string "authors"), ("localField", .string "author"),
      ("foreignField", .string "_id"), ("as", .string "by")])]]

def emma : Document := Compile.compare "title" "$eq" (.string "Emma")

def booksByTitle : List Document :=
  [[("title", .string "Emma"), ("author", .int32 1),
      ("by", .array [.document [("_id", .int32 1)]])],
    [("title", .string "Persuasion"), ("author", .int32 1),
      ("by", .array [.document [("_id", .int32 1)]])]]

theorem rows_of_stages_books :
    run authors byTitle books = .ok booksByTitle ∧ booksByTitle.length = books.length ∧
    (∃ arranged, arranged.Perm books ∧
      List.Forall₂ (Becomes authors byTitle) arranged booksByTitle) ∧
    run authors byTitle.tail books = .ok booksByTitle.reverse ∧
    List.Forall₂ (Becomes authors byTitle.tail) books booksByTitle.reverse ∧
    run authors [[("$match", .document emma)]] books = .ok books.tail ∧
    books.tail.Sublist books := by
  have hrun : run authors byTitle books = .ok booksByTitle := by rfl
  have hunsorted : run authors byTitle.tail books = .ok booksByTitle.reverse := by rfl
  have hmatch : run authors [[("$match", .document emma)]] books = .ok books.tail := by
    rw [run_single]
    show Matcher.select none emma books = _
    have htitle : startsWithDollar "title" = false := by decide
    simp only [books, Matcher.select, emma, Matcher.filter_eq htitle]
    rfl
  obtain ⟨hrows, hsublist, -⟩ := rows_of_stages authors books
  have hkeeps : ∀ stage ∈ byTitle, KeepsNumber stage := by
    simp [byTitle, KeepsNumber, rowKeeping]
  obtain ⟨hlength, hperm, -⟩ := hrows _ _ hkeeps hrun
  have hrest : ∀ stage ∈ byTitle.tail, KeepsNumber stage := fun stage hstage =>
    hkeeps stage (List.mem_of_mem_tail hstage)
  obtain ⟨-, -, hplaces⟩ := hrows _ _ hrest hunsorted
  exact ⟨hrun, hlength, hperm, hunsorted, hplaces (by simp [byTitle]), hmatch,
    (hsublist _ _ hmatch).1⟩

end Store.Pipeline
end DataGrid
