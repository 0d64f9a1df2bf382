import DataGrid.Keyed
import Mathlib.Data.List.Forall2

/-!
# DataGrid.Proofs.Fallible -- what a computation that may fail has done when it succeeds

Stores, compilers and responses answer with `Except`. A sequence that succeeds has
succeeded in every part, a traversal that succeeds has kept the length and the order of its
list, and a slice of the list then gives the same slice of the results. The two traversals
that stop early, `allM` and `anyM`, are read as quantifiers; for `anyM` that needs every
test to have an answer, because a failure in front of a hit hides the hit.

What a sequence or a traversal fails with is the first failure on its way (`failure?`).
-/

namespace DataGrid.Fallible

variable {ε α β γ : Type}

/-! ## One step behind another -/

@[simp] theorem ok_bind (a : α) (f : α → Except ε β) : (Except.ok a >>= f) = f a := rfl

@[simp] theorem error_bind (e : ε) (f : α → Except ε β) :
    (Except.error e >>= f) = .error e := rfl

@[simp] theorem pure_eq_ok (a : α) : (pure a : Except ε α) = .ok a := rfl

@[simp] theorem map_ok (f : α → β) (a : α) : (Except.ok a : Except ε α).map f = .ok (f a) := rfl

@[simp] theorem map_error (f : α → β) (e : ε) :
    (Except.error e : Except ε α).map f = .error e := rfl

theorem bind_eq_ok {x : Except ε α} {f : α → Except ε β} {b : β} :
    (x >>= f) = .ok b ↔ ∃ a, x = .ok a ∧ f a = .ok b := by
  cases x <;> simp

theorem bind_eq_error {x : Except ε α} {f : α → Except ε β} {e : ε} :
    (x >>= f) = .error e ↔ x = .error e ∨ ∃ a, x = .ok a ∧ f a = .error e := by
  cases x <;> simp

theorem map_eq_ok {x : Except ε α} {f : α → β} {b : β} :
    x.map f = .ok b ↔ ∃ a, x = .ok a ∧ f a = b := by
  cases x <;> simp

theorem mapError_eq_ok {x : Except ε α} {f : ε → γ} {a : α} :
    x.mapError f = .ok a ↔ x = .ok a := by
  constructor
  · intro h
    cases x with
    | error e => cases h
    | ok b => rw [Except.ok.inj h]
  · rintro rfl
    rfl

theorem mapError_bind (x : Except ε α) (next : α → Except ε β) (f : ε → γ) :
    (x >>= next).mapError f = (x.mapError f >>= fun a => (next a).mapError f) := by
  cases x <;> rfl

/-- Two checks in front of an answer may change places, but for which failure comes first
when both fail. -/
theorem check_comm (first second : Except ε Unit) (answer : Except ε α) :
    let one := first >>= fun _ => second >>= fun _ => answer
    let other := second >>= fun _ => first >>= fun _ => answer
    ((∃ a, one = .ok a ∧ other = .ok a) ∨ ∃ e e', one = .error e ∧ other = .error e') ∧
      (¬ ((∃ e, second = .error e) ∧ ∃ e, first = .error e) → one = other) := by
  rcases first with e | ⟨⟩
  · rcases second with e' | ⟨⟩
    · simp
    · simp
  · rcases second with e' | ⟨⟩
    · simp
    · cases answer <;> simp

/-! ## Failures -/

/-- The failure of a computation, if it fails. -/
def failure? : Except ε α → Option ε
  | .ok _ => none
  | .error e => some e

theorem failure?_eq_some_iff {x : Except ε α} {e : ε} : failure? x = some e ↔ x = .error e := by
  cases x <;> simp [failure?]

theorem failure?_eq_none_iff {x : Except ε α} : failure? x = none ↔ ∃ a, x = .ok a := by
  cases x <;> simp [failure?]

theorem failure?_map (x : Except ε α) (f : α → β) : failure? (x.map f) = failure? x := by
  cases x <;> rfl

/-- Of two steps the first that fails is the failure, when the second fails in the same way
whatever the first has found. -/
theorem failure?_bind {x : Except ε α} {f : α → Except ε β} {later : Option ε}
    (h : ∀ a, failure? (f a) = later) : failure? (x >>= f) = (failure? x).or later := by
  cases x with
  | error e => rfl
  | ok a => exact h a

/-- A step behind which nothing fails is the failure, if it fails. -/
theorem failure?_bind_of_total {x : Except ε α} {f : α → Except ε β}
    (h : ∀ a, failure? (f a) = none) : failure? (x >>= f) = failure? x := by
  rw [failure?_bind h, Option.or_none]

/-! ## Traversals -/

theorem mapM_cons_eq_ok {f : α → Except ε β} {x : α} {xs : List α} {ys : List β} :
    (x :: xs).mapM f = .ok ys ↔
      ∃ y rest, f x = .ok y ∧ xs.mapM f = .ok rest ∧ ys = y :: rest := by
  rw [List.mapM_cons, bind_eq_ok]
  constructor
  · rintro ⟨y, hy, h⟩
    obtain ⟨rest, hrest, h⟩ := bind_eq_ok.mp h
    exact ⟨y, rest, hy, hrest, by simpa using h.symm⟩
  · rintro ⟨y, rest, hy, hrest, rfl⟩
    exact ⟨y, hy, bind_eq_ok.mpr ⟨rest, hrest, rfl⟩⟩

/-- A traversal succeeds with the results of its items, each at the place of its item. -/
theorem mapM_eq_ok_iff_forall₂ {f : α → Except ε β} {xs : List α} {ys : List β} :
    xs.mapM f = .ok ys ↔ List.Forall₂ (fun x y => f x = .ok y) xs ys := by
  induction xs generalizing ys with
  | nil => simp [eq_comm]
  | cons x xs ih => simp only [mapM_cons_eq_ok, List.forall₂_cons_left_iff, ih]

theorem length_of_mapM {f : α → Except ε β} {xs : List α} {ys : List β}
    (h : xs.mapM f = .ok ys) : ys.length = xs.length :=
  (mapM_eq_ok_iff_forall₂.mp h).length_eq.symm

/-- Each element of a list has its match in a list that is related element by element. -/
theorem exists_of_forall₂ {R : α → β → Prop} {xs : List α} {ys : List β}
    (h : List.Forall₂ R xs ys) {x : α} (hx : x ∈ xs) : ∃ y ∈ ys, R x y := by
  induction h with
  | nil => cases hx
  | cons hfirst _ ih =>
    rcases List.mem_cons.mp hx with rfl | hx
    · exact ⟨_, List.mem_cons_self, hfirst⟩
    · obtain ⟨y, hy, hrelated⟩ := ih hx
      exact ⟨y, List.mem_cons_of_mem _ hy, hrelated⟩

theorem exists_of_mapM {f : α → Except ε β} {xs : List α} {ys : List β}
    (h : xs.mapM f = .ok ys) {x : α} (hx : x ∈ xs) : ∃ y ∈ ys, f x = .ok y :=
  exists_of_forall₂ (mapM_eq_ok_iff_forall₂.mp h) hx

/-- Every result is that of the item at its place. -/
theorem eq_ok_of_mem_zip {f : α → Except ε β} {xs : List α} {ys : List β}
    (h : xs.mapM f = .ok ys) {x : α} {y : β} (hmem : (x, y) ∈ xs.zip ys) : f x = .ok y :=
  List.forall₂_zip (mapM_eq_ok_iff_forall₂.mp h) hmem

/-- The results are those of the items, and no others. -/
theorem mem_mapM_iff {f : α → Except ε β} {xs : List α} {ys : List β}
    (h : xs.mapM f = .ok ys) {y : β} : y ∈ ys ↔ ∃ x ∈ xs, f x = .ok y := by
  constructor
  · have hresults : List.Forall₂ (fun y x => f x = .ok y) ys xs :=
      (mapM_eq_ok_iff_forall₂.mp h).flip
    exact exists_of_forall₂ hresults
  · rintro ⟨x, hx, hy⟩
    obtain ⟨y', hmem, hy'⟩ := exists_of_mapM h hx
    rwa [Except.ok.inj (hy.symm.trans hy')]

/-- What a view shows of the results is what another shows of the items, if it is so step by
step. -/
theorem map_eq_of_mapM {δ : Type} {f : α → Except ε β} {view : β → δ} {view' : α → δ}
    (step : ∀ x y, f x = .ok y → view y = view' x) {xs : List α} {ys : List β}
    (h : xs.mapM f = .ok ys) : ys.map view = xs.map view' := by
  induction xs generalizing ys with
  | nil =>
    obtain rfl : [] = ys := by simpa using h
    rfl
  | cons x xs ih =>
    obtain ⟨y, rest, hy, hrest, rfl⟩ := mapM_cons_eq_ok.mp h
    rw [List.map_cons, List.map_cons, step x y hy, ih hrest]

/-- Results come in pieces as the list does. -/
theorem mapM_split {f : α → Except ε β} {xs : List α} {ys : List β} (h : xs.mapM f = .ok ys)
    (n : Nat) :
    (xs.take n).mapM f = .ok (ys.take n) ∧ (xs.drop n).mapM f = .ok (ys.drop n) := by
  induction xs generalizing ys n with
  | nil =>
    obtain rfl : [] = ys := by simpa using h
    simp
  | cons x xs ih =>
    obtain ⟨y, rest, hy, hrest, rfl⟩ := mapM_cons_eq_ok.mp h
    cases n with
    | zero => exact ⟨rfl, h⟩
    | succ n =>
      obtain ⟨htake, hdrop⟩ := ih hrest n
      exact ⟨mapM_cons_eq_ok.mpr ⟨y, _, hy, htake, rfl⟩, hdrop⟩

theorem mapM_slice {f : α → Except ε β} {xs : List α} {ys : List β} (h : xs.mapM f = .ok ys)
    (start size : Nat) :
    ((xs.drop start).take size).mapM f = .ok ((ys.drop start).take size) :=
  (mapM_split (mapM_split h start).2 size).1

/-- Some of the items give some of the results, if a test on both agrees step by step. -/
theorem mapM_filter {f : α → Except ε β} {p : α → Bool} {q : β → Bool}
    (step : ∀ x y, f x = .ok y → q y = p x) {xs : List α} {ys : List β}
    (h : xs.mapM f = .ok ys) : (xs.filter p).mapM f = .ok (ys.filter q) := by
  induction xs generalizing ys with
  | nil =>
    obtain rfl : [] = ys := by simpa using h
    rfl
  | cons x xs ih =>
    obtain ⟨y, rest, hy, hrest, rfl⟩ := mapM_cons_eq_ok.mp h
    rw [List.filter_cons, List.filter_cons, step x y hy]
    split
    · exact mapM_cons_eq_ok.mpr ⟨y, _, hy, ih hrest, rfl⟩
    · exact ih hrest

/-- Two traversals, one behind the other, are one. -/
theorem mapM_trans {f : α → Except ε β} {g : β → Except ε γ} {xs : List α} {ys : List β}
    {zs : List γ} (hf : xs.mapM f = .ok ys) (hg : ys.mapM g = .ok zs) :
    xs.mapM (fun x => f x >>= g) = .ok zs := by
  induction xs generalizing ys zs with
  | nil =>
    obtain rfl : [] = ys := by simpa using hf
    exact hg
  | cons x xs ih =>
    obtain ⟨y, rest, hy, hrest, rfl⟩ := mapM_cons_eq_ok.mp hf
    obtain ⟨z, others, hz, hothers, rfl⟩ := mapM_cons_eq_ok.mp hg
    exact mapM_cons_eq_ok.mpr ⟨z, others, bind_eq_ok.mpr ⟨y, hy, hz⟩, ih hrest hothers, rfl⟩

theorem mapM_mapError {f : α → Except ε β} {g : ε → γ} {xs : List α} :
    xs.mapM (fun x => (f x).mapError g) = (xs.mapM f).mapError g := by
  induction xs with
  | nil => rfl
  | cons x xs ih =>
    rw [List.mapM_cons, List.mapM_cons, mapError_bind]
    congr 1
    funext y
    rw [mapError_bind, ih]
    rfl

/-- A traversal whose every step succeeds, succeeds. -/
theorem exists_mapM_eq_ok {f : α → Except ε β} {xs : List α}
    (h : ∀ x ∈ xs, ∃ y, f x = .ok y) : ∃ ys, xs.mapM f = .ok ys := by
  induction xs with
  | nil => exact ⟨[], rfl⟩
  | cons x xs ih =>
    obtain ⟨y, hy⟩ := h x (by simp)
    obtain ⟨ys, hys⟩ := ih fun x' hx' => h x' (by simp [hx'])
    exact ⟨y :: ys, mapM_cons_eq_ok.mpr ⟨y, ys, hy, hys, rfl⟩⟩

/-- A traversal whose every step gives what a function does. -/
theorem mapM_eq_ok_map {f : α → Except ε β} {g : α → β} {xs : List α}
    (h : ∀ x ∈ xs, f x = .ok (g x)) : xs.mapM f = .ok (xs.map g) := by
  induction xs with
  | nil => rfl
  | cons x xs ih =>
    obtain ⟨hx, hxs⟩ := List.forall_mem_cons.mp h
    exact mapM_cons_eq_ok.mpr ⟨g x, xs.map g, hx, ih hxs, rfl⟩

/-- A traversal fails when some step does. -/
theorem mapM_fails_iff {f : α → Except ε β} {xs : List α} :
    (∃ e, xs.mapM f = .error e) ↔ ∃ x ∈ xs, ∃ e, f x = .error e := by
  induction xs with
  | nil => simp
  | cons x xs ih =>
    simp only [List.mapM_cons, List.mem_cons, exists_eq_or_imp, ← ih]
    rcases f x with e | y
    · simp
    · rcases xs.mapM f with e | ys <;> simp

/-- A traversal fails with the first failure of a step. -/
theorem failure?_mapM {f : α → Except ε β} {fault? : α → Option ε}
    (h : ∀ x, failure? (f x) = fault? x) (xs : List α) :
    failure? (xs.mapM f) = (xs.filterMap fault?).head? := by
  induction xs with
  | nil => rfl
  | cons x xs ih =>
    have hrest : ∀ y, failure? (xs.mapM f >>= fun ys => pure (y :: ys)) =
        (xs.filterMap fault?).head? := by
      intro y
      rw [failure?_bind_of_total fun _ => rfl, ih]
    rw [List.mapM_cons, failure?_bind hrest, h, List.filterMap_cons]
    cases fault? x <;> rfl

/-! ## Runs -/

/-- What every step leaves as it is, a run leaves as it is. -/
theorem foldlM_preserves {δ : Type} {f : β → α → Except ε β} {xs : List α} (view : β → δ)
    (step : ∀ x ∈ xs, ∀ b b', f b x = .ok b' → view b' = view b) {b r : β}
    (h : xs.foldlM f b = .ok r) : view r = view b := by
  induction xs generalizing b with
  | nil => rw [← Except.ok.inj h]
  | cons x xs ih =>
    obtain ⟨hx, hxs⟩ := List.forall_mem_cons.mp step
    rw [List.foldlM_cons, bind_eq_ok] at h
    obtain ⟨middle, hmiddle, h⟩ := h
    rw [ih hxs h, hx b middle hmiddle]

/-! ## Traversals that stop early -/

theorem allM_cons (p : α → Except ε Bool) (x : α) (xs : List α) :
    (x :: xs).allM p = (p x >>= fun holds => if holds then xs.allM p else .ok false) := by
  rw [List.allM]
  congr 1
  funext holds
  cases holds <;> rfl

theorem anyM_cons (p : α → Except ε Bool) (x : α) (xs : List α) :
    (x :: xs).anyM p = (p x >>= fun holds => if holds then .ok true else xs.anyM p) := by
  rw [List.anyM]
  congr 1
  funext holds
  cases holds <;> rfl

theorem allM_append (p : α → Except ε Bool) (xs ys : List α) :
    (xs ++ ys).allM p = (xs.allM p >>= fun holds => if holds then ys.allM p else .ok false) := by
  induction xs with
  | nil => rfl
  | cons x xs ih =>
    rw [List.cons_append, allM_cons, allM_cons, ih]
    rcases p x with e | _ | _ <;> rfl

theorem allM_pair {p : α → Except ε Bool} {x y : α} {a b : Bool} (hx : p x = .ok a)
    (hy : p y = .ok b) : [x, y].allM p = .ok (a && b) := by
  rw [allM_cons, allM_cons, hx, hy]
  cases a <;> cases b <;> rfl

theorem anyM_pair {p : α → Except ε Bool} {x y : α} {a b : Bool} (hx : p x = .ok a)
    (hy : p y = .ok b) : [x, y].anyM p = .ok (a || b) := by
  rw [anyM_cons, anyM_cons, hx, hy]
  cases a <;> cases b <;> rfl

theorem allM_eq_true_iff {p : α → Except ε Bool} {xs : List α} :
    xs.allM p = .ok true ↔ ∀ x ∈ xs, p x = .ok true := by
  induction xs with
  | nil => simp [List.allM]
  | cons x xs ih =>
    rw [allM_cons, List.forall_mem_cons, ← ih]
    rcases p x with e | _ | _ <;> simp

theorem anyM_eq_true_iff {p : α → Except ε Bool} {xs : List α}
    (answered : ∀ x ∈ xs, ∃ holds, p x = .ok holds) :
    xs.anyM p = .ok true ↔ ∃ x ∈ xs, p x = .ok true := by
  induction xs with
  | nil => simp [List.anyM]
  | cons x xs ih =>
    obtain ⟨⟨holds, hx⟩, hxs⟩ := List.forall_mem_cons.mp answered
    rw [anyM_cons, hx]
    cases holds <;> simp [hx, ih hxs]

/-- The test that a failing conjunction has stopped at. -/
theorem exists_of_allM_eq_false {p : α → Except ε Bool} {xs : List α} (h : xs.allM p = .ok false) :
    ∃ x ∈ xs, p x = .ok false := by
  induction xs with
  | nil => cases h
  | cons x xs ih =>
    rw [allM_cons] at h
    rcases hx : p x with e | _ | _
    · rw [hx] at h
      cases h
    · exact ⟨x, List.mem_cons_self, hx⟩
    · rw [hx] at h
      obtain ⟨y, hy, hfalse⟩ := ih h
      exact ⟨y, List.mem_cons_of_mem _ hy, hfalse⟩

/-- The test that a disjunction has stopped at. -/
theorem exists_of_anyM_eq_true {p : α → Except ε Bool} {xs : List α} (h : xs.anyM p = .ok true) :
    ∃ x ∈ xs, p x = .ok true := by
  induction xs with
  | nil => cases h
  | cons x xs ih =>
    rw [anyM_cons] at h
    rcases hx : p x with e | _ | _
    · rw [hx] at h
      cases h
    · rw [hx] at h
      obtain ⟨y, hy, htrue⟩ := ih h
      exact ⟨y, List.mem_cons_of_mem _ hy, htrue⟩
    · exact ⟨x, List.mem_cons_self, hx⟩

theorem anyM_eq_false_iff {p : α → Except ε Bool} {xs : List α} :
    xs.anyM p = .ok false ↔ ∀ x ∈ xs, p x = .ok false := by
  induction xs with
  | nil => simp [List.anyM]
  | cons x xs ih =>
    rw [anyM_cons, List.forall_mem_cons, ← ih]
    rcases p x with e | _ | _ <;> simp

/-- Tests that all have an answer have one together. -/
theorem exists_allM_eq_ok {p : α → Except ε Bool} {xs : List α}
    (answered : ∀ x ∈ xs, ∃ holds, p x = .ok holds) : ∃ holds, xs.allM p = .ok holds := by
  induction xs with
  | nil => exact ⟨true, rfl⟩
  | cons x xs ih =>
    obtain ⟨⟨holds, hx⟩, hxs⟩ := List.forall_mem_cons.mp answered
    rw [allM_cons, hx]
    cases holds with
    | true => exact ih hxs
    | false => exact ⟨false, rfl⟩

theorem exists_anyM_eq_ok {p : α → Except ε Bool} {xs : List α}
    (answered : ∀ x ∈ xs, ∃ holds, p x = .ok holds) : ∃ holds, xs.anyM p = .ok holds := by
  induction xs with
  | nil => exact ⟨false, rfl⟩
  | cons x xs ih =>
    obtain ⟨⟨holds, hx⟩, hxs⟩ := List.forall_mem_cons.mp answered
    rw [anyM_cons, hx]
    cases holds with
    | true => exact ⟨true, rfl⟩
    | false => exact ih hxs

theorem allM_congr {p q : α → Except ε Bool} {xs : List α} (h : ∀ x ∈ xs, p x = q x) :
    xs.allM p = xs.allM q := by
  induction xs with
  | nil => rfl
  | cons x xs ih =>
    obtain ⟨hx, hxs⟩ := List.forall_mem_cons.mp h
    rw [allM_cons, allM_cons, hx, ih hxs]

theorem anyM_congr {p q : α → Except ε Bool} {xs : List α} (h : ∀ x ∈ xs, p x = q x) :
    xs.anyM p = xs.anyM q := by
  induction xs with
  | nil => rfl
  | cons x xs ih =>
    obtain ⟨hx, hxs⟩ := List.forall_mem_cons.mp h
    rw [anyM_cons, anyM_cons, hx, ih hxs]

end DataGrid.Fallible
