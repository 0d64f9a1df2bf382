import DataGrid.Compile.Compilation
import DataGrid.Proofs.Fallible

/-!
# DataGrid.Proofs.Compile.Compilation -- results and calls apart

A compilation is read through its two halves. The result of a sequence is the sequence of
the results, whatever was called on the way; the calls of a sequence are the calls of the
first part and, if that part succeeds, the calls of what follows. A compilation is quiet
when it makes no call, and quiet parts make a quiet whole.
-/

namespace DataGrid.Compilation

variable {α β : Type}

/-! ## Results -/

@[simp] theorem result_pure (a : α) : (pure a : Compilation α).result = .ok a := rfl

@[simp] theorem result_done (a : α) : (done a).result = .ok a := rfl

@[simp] theorem result_lift (x : Except GridError α) : (lift x).result = x := rfl

@[simp] theorem result_emit (calls : List BuilderCall) : (emit calls).result = .ok () := rfl

/-- The result of a sequence is the sequence of the results. -/
@[simp] theorem result_bind (c : Compilation α) (f : α → Compilation β) :
    (c >>= f).result = (c.result >>= fun a => (f a).result) := by
  show (bind c f).result = _
  unfold bind
  cases c.result <;> rfl

/-- One after the other, the results are those of the members, up to the first refusal. -/
theorem result_forEach (f : α → Compilation β) (xs : List α) :
    (forEach f xs).result = xs.mapM fun x => (f x).result := by
  induction xs with
  | nil => rfl
  | cons x xs ih => simp [forEach, ih]

/-! ## Calls -/

@[simp] theorem calls_pure (a : α) : (pure a : Compilation α).calls = [] := rfl

@[simp] theorem calls_done (a : α) : (done a).calls = [] := rfl

@[simp] theorem calls_lift (x : Except GridError α) : (lift x).calls = [] := rfl

@[simp] theorem calls_emit (calls : List BuilderCall) : (emit calls).calls = calls := rfl

/-- Behind a part that succeeds, the calls of what follows are made. -/
theorem calls_bind_of_ok {c : Compilation α} {a : α} (h : c.result = .ok a)
    (f : α → Compilation β) : (c >>= f).calls = c.calls ++ (f a).calls := by
  show (bind c f).calls = _
  unfold bind
  rw [h]

/-- Behind a part that fails, nothing more is called. -/
theorem calls_bind_of_error {c : Compilation α} {e : GridError} (h : c.result = .error e)
    (f : α → Compilation β) : (c >>= f).calls = c.calls := by
  show (bind c f).calls = _
  unfold bind
  rw [h]

/-- What has succeeded goes on with its value, behind its calls. -/
@[simp] theorem mk_ok_bind (calls : List BuilderCall) (a : α) (f : α → Compilation β) :
    ((⟨calls, .ok a⟩ : Compilation α) >>= f) = ⟨calls ++ (f a).calls, (f a).result⟩ := rfl

/-- No call is made. -/
def Quiet (c : Compilation α) : Prop := c.calls = []

/-- Whether the first part succeeds or not, no call comes of it. -/
theorem quiet_bind {c : Compilation α} {f : α → Compilation β} (hc : c.Quiet)
    (hf : ∀ a, (f a).Quiet) : (c >>= f).Quiet := by
  unfold Quiet at *
  cases h : c.result with
  | ok a => rw [calls_bind_of_ok h, hc, hf a, List.append_nil]
  | error e => rw [calls_bind_of_error h, hc]

/-- By induction on the members. -/
theorem quiet_forEach {f : α → Compilation β} (hf : ∀ a, (f a).Quiet) (xs : List α) :
    (forEach f xs).Quiet := by
  induction xs with
  | nil => rfl
  | cons x xs ih =>
    exact quiet_bind (hf x) fun _ => quiet_bind ih fun _ => rfl

end DataGrid.Compilation
