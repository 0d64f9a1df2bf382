import DataGrid.Proofs.Store.Rows
import DataGrid.Store.Handles
import Mathlib.Data.List.Forall2

/-!
# DataGrid.Proofs.Store.History -- a store loses nothing and invents nothing

What a store holds is what was written to it. Every step adds a batch of documents behind those of
one collection, and leaves all other collections alone; a run adds the batches of its steps in
turn, and it does not matter which handle a step goes through. A document of a batch is the
document that was inserted, with an identifier in front if it had none.
-/

namespace DataGrid

open Store

/-! ## Collections of a store -/

namespace MemoryStore

theorem collection_insert_self (collections : Keyed Collection) (fresh : Nat → ObjectId)
    (issued : Nat) (name : String) (filled : Collection) :
    collection ⟨Keyed.insert collections name filled, fresh, issued⟩ name = filled := by
  rw [collection, Keyed.get?_insert_self, Option.getD_some]

theorem collection_insert_of_ne (collections : Keyed Collection) (fresh : Nat → ObjectId)
    (issued : Nat) {name other : String} (h : other ≠ name) (filled : Collection) :
    collection ⟨Keyed.insert collections name filled, fresh, issued⟩ other =
      collection ⟨collections, fresh, issued⟩ other := by
  rw [collection, collection, Keyed.get?_insert_of_ne _ _ h]

/-- The query for everything finds all documents. -/
theorem find_all (s : MemoryStore) (name : String) :
    s.find name .all = .ok (s.collection name).documents := by
  unfold find collection
  cases Keyed.get? s.collections name with
  | none => rfl
  | some source =>
    simp only [FindQuery.all, Matcher.select_nil]
    rfl

end MemoryStore

/-! ## Identifiers -/

/-- The document as it is stored: with an identifier in front if it had none. -/
def Stored (fresh : Nat → ObjectId) (d stored : Document) : Prop :=
  if Keyed.contains d "_id" then stored = d
  else ∃ count, stored = ("_id", .objectId (fresh count)) :: d

theorem Stored.get?_id {fresh : Nat → ObjectId} {d stored : Document}
    (h : Stored fresh d stored) : ∃ id, Keyed.get? stored "_id" = some id := by
  unfold Stored at h
  split at h
  · next hhas =>
    obtain rfl := h
    exact Option.isSome_iff_exists.mp hhas
  · obtain ⟨count, rfl⟩ := h
    exact ⟨_, rfl⟩

theorem MemoryStore.identify_stored (s : MemoryStore) (d : Document) :
    Stored s.fresh d (s.identify d).1 ∧ (s.identify d).2.fresh = s.fresh ∧
      (s.identify d).2.collections = s.collections := by
  unfold identify Stored
  split
  · exact ⟨rfl, rfl, rfl⟩
  · exact ⟨⟨s.issued, rfl⟩, rfl, rfl⟩

/-- By induction on the documents; identifiers are all that changes. -/
theorem MemoryStore.identifyAll_stored (s : MemoryStore) (documents : List Document) :
    List.Forall₂ (Stored s.fresh) documents (s.identifyAll documents).1 ∧
      (s.identifyAll documents).2.fresh = s.fresh ∧
      (s.identifyAll documents).2.collections = s.collections := by
  induction documents generalizing s with
  | nil => exact ⟨.nil, rfl, rfl⟩
  | cons d rest ih =>
    obtain ⟨hfirst, hfresh, hcollections⟩ := s.identify_stored d
    obtain ⟨hothers, hfresh', hcollections'⟩ := ih (s.identify d).2
    rw [hfresh] at hothers
    exact ⟨.cons hfirst hothers, hfresh'.trans hfresh, hcollections'.trans hcollections⟩

/-! ## Steps -/

namespace StoreStep

/-- The collection that a step writes to. -/
def collection? : StoreStep → Option String
  | insertMany name _ => some name
  | insertOne name _ => some name
  | createTextIndex name _ => some name
  | clone => none

/-- The documents that a step inserts. -/
def documents : StoreStep → List Document
  | insertMany _ documents => documents
  | insertOne _ document => [document]
  | _ => []

end StoreStep

/-- The identifiers in an answer. -/
def StoreAnswer.ids : StoreAnswer → List Value
  | identifiers ids => ids
  | identifier id => [id]
  | done => []

/-- What is known of a step: its answer, and the documents that it has stored. -/
structure StoreRecord where
  step : StoreStep
  answer : StoreAnswer
  batch : List Document

namespace StoreRecord

/-- What the step has stored in a collection. -/
def stored (record : StoreRecord) (name : String) : List Document :=
  if record.step.collection? = some name then record.batch else []

/-- The stored documents are the inserted ones, and the answer names them in order. -/
structure Faithful (record : StoreRecord) (fresh : Nat → ObjectId) : Prop where
  documents : List.Forall₂ (Stored fresh) record.step.documents record.batch
  ids : record.batch.map (fun d => Keyed.get? d "_id") = record.answer.ids.map some

theorem Faithful.exists_id {record : StoreRecord} {fresh : Nat → ObjectId}
    (h : record.Faithful fresh) {name : String} {d : Document} (hd : d ∈ record.stored name) :
    ∃ id, Keyed.get? d "_id" = some id := by
  unfold stored at hd
  split at hd
  · have hmem := List.mem_map_of_mem (f := fun d => Keyed.get? d "_id") hd
    rw [h.ids] at hmem
    obtain ⟨id, -, hid⟩ := List.mem_map.mp hmem
    exact ⟨id, hid.symm⟩
  · cases hd

end StoreRecord

/-- What a step makes of a store. -/
structure StoreStep.Performed (before : MemoryStore) (record : StoreRecord) (after : MemoryStore) :
    Prop where
  faithful : record.Faithful before.fresh
  fresh : after.fresh = before.fresh
  documents : ∀ name, (after.collection name).documents =
    (before.collection name).documents ++ record.stored name
  others : ∀ name, record.step.collection? ≠ some name →
    after.collection name = before.collection name

/-- Every stored document has the identifier that is given for it. -/
theorem Stored.map_ids {fresh : Nat → ObjectId} {documents batch : List Document}
    (h : List.Forall₂ (Stored fresh) documents batch) :
    batch.map (fun d => Keyed.get? d "_id") =
      (batch.map fun d => (Keyed.get? d "_id").getD .null).map some := by
  induction h with
  | nil => rfl
  | cons hfirst _ ih =>
    obtain ⟨id, hid⟩ := hfirst.get?_id
    rw [List.map_cons, List.map_cons, List.map_cons, ih, hid]
    rfl

/-- What inserting makes of a store. -/
theorem MemoryStore.insertMany_spec (s : MemoryStore) (name : String) (documents : List Document) :
    ∃ batch, List.Forall₂ (Stored s.fresh) documents batch ∧
      (s.insertMany name documents).1 = batch.map (fun d => (Keyed.get? d "_id").getD .null) ∧
      (s.insertMany name documents).2.fresh = s.fresh ∧
      ((s.insertMany name documents).2.collection name).documents =
        (s.collection name).documents ++ batch ∧
      ∀ other, other ≠ name → (s.insertMany name documents).2.collection other =
        s.collection other := by
  obtain ⟨hstored, hfresh, hcollections⟩ := s.identifyAll_stored documents
  have hcollection : ∀ other,
      (s.identifyAll documents).2.collection other = s.collection other := by
    intro other
    rw [collection, collection, hcollections]
  refine ⟨(s.identifyAll documents).1, hstored, rfl, hfresh, ?_, fun other hother => ?_⟩
  · show (collection ⟨Keyed.insert _ name _, _, _⟩ name).documents = _
    rw [collection_insert_self, hcollection]
  · show collection ⟨Keyed.insert _ name _, _, _⟩ other = _
    rw [collection_insert_of_ne _ _ _ hother]
    exact hcollection other

namespace StoreStep

/-- A step that writes to one collection. -/
theorem Performed.of_write {before after : MemoryStore} {record : StoreRecord} {name : String}
    (hname : record.step.collection? = some name) (faithful : record.Faithful before.fresh)
    (fresh : after.fresh = before.fresh)
    (same : (after.collection name).documents = (before.collection name).documents ++ record.batch)
    (others : ∀ other, other ≠ name → after.collection other = before.collection other) :
    Performed before record after := by
  have hother : ∀ other, record.step.collection? ≠ some other → other ≠ name :=
    fun other h heq => h (heq ▸ hname)
  refine ⟨faithful, fresh, fun other => ?_, fun other h => others other (hother other h)⟩
  unfold StoreRecord.stored
  split
  · next hsame =>
    obtain rfl := Option.some.inj (hname.symm.trans hsame)
    exact same
  · next hdiffers => rw [others other (hother other hdiffers), List.append_nil]

/-- Every step does to a store what some record of it says. By cases on the step. -/
theorem exists_performed (step : StoreStep) (s : MemoryStore) : ∃ batch,
    Performed s ⟨step, (step.perform s).1, batch⟩ (step.perform s).2 := by
  cases step with
  | insertMany name documents =>
    obtain ⟨batch, hstored, hids, hfresh, hsame, hothers⟩ := s.insertMany_spec name documents
    refine ⟨batch, .of_write rfl ⟨hstored, ?_⟩ hfresh hsame hothers⟩
    rw [Stored.map_ids hstored, ← hids]
    rfl
  | insertOne name document =>
    obtain ⟨batch, hstored, hids, hfresh, hsame, hothers⟩ := s.insertMany_spec name [document]
    refine ⟨batch, .of_write rfl ⟨hstored, ?_⟩ hfresh hsame hothers⟩
    have hone : (s.insertMany name [document]).1 = [(s.insertOne name document).1] := by
      obtain ⟨stored, rfl⟩ := List.length_eq_one_iff.mp hstored.length_eq.symm
      show _ = [(s.insertMany name [document]).1.headD .null]
      rw [hids]
      rfl
    rw [Stored.map_ids hstored, ← hids, hone]
    rfl
  | createTextIndex name fields =>
    refine ⟨[], .of_write rfl ⟨.nil, rfl⟩ rfl ?_ fun other hother => ?_⟩
    · show (MemoryStore.collection ⟨Keyed.insert _ name _, _, _⟩ name).documents = _
      rw [MemoryStore.collection_insert_self, List.append_nil]
    · exact MemoryStore.collection_insert_of_ne _ _ _ hother _
  | clone =>
    refine ⟨[], ⟨.nil, rfl⟩, rfl, fun name => ?_, fun _ _ => rfl⟩
    exact (List.append_nil _).symm

end StoreStep

/-! ## Handles -/

namespace Handles

/-- All handles lead to the same store. -/
structure Shares (s : Handles) (store : MemoryStore) : Prop where
  places : s.places = [store]
  targets : ∀ place ∈ s.targets, place = 0

theorem Shares.store? {s : Handles} {store : MemoryStore} (h : s.Shares store) {handle : Nat}
    (known : handle < s.targets.length) : s.store? handle = some store := by
  have htarget : s.targets[handle]? = some 0 := by
    rw [List.getElem?_eq_getElem known, h.targets _ (List.getElem_mem known)]
  rw [Handles.store?, htarget, h.places]
  rfl

theorem shares_new (fresh : Nat → ObjectId) : (Handles.new fresh).Shares (.new fresh) :=
  ⟨rfl, fun _ h => List.mem_singleton.mp h⟩

/-- A step through a known handle is one of the shared store. -/
theorem Shares.step? {s : Handles} {store : MemoryStore} (h : s.Shares store) {call : StoreCall}
    (known : call.handle < s.targets.length) :
    ∃ s', s.step? call = some ((call.step.perform store).1, s') ∧
      s'.Shares (call.step.perform store).2 ∧
      s'.targets.length = s.targets.length + (call.step.opened 0).length := by
  have htarget : s.targets[call.handle]? = some 0 := by
    rw [List.getElem?_eq_getElem known, h.targets _ (List.getElem_mem known)]
  refine ⟨⟨[(call.step.perform store).2], s.targets ++ call.step.opened 0⟩, ?_, ⟨rfl, ?_⟩,
    List.length_append⟩
  · rw [Handles.step?, htarget, h.places]
    rfl
  · refine List.forall_mem_append.mpr ⟨h.targets, fun place hplace => ?_⟩
    cases hstep : call.step with
    | clone => rw [hstep] at hplace; exact List.mem_singleton.mp hplace
    | _ => rw [hstep] at hplace; cases hplace

/-- A step leaves the collections that it does not write to as they are, behind every handle. -/
theorem step?_others {s s' : Handles} {call : StoreCall} {answer : StoreAnswer}
    (h : s.step? call = some (answer, s')) {name : String}
    (hname : call.step.collection? ≠ some name) {handle : Nat} {store : MemoryStore}
    (hstore : s.store? handle = some store) :
    ∃ store', s'.store? handle = some store' ∧ store'.collection name = store.collection name := by
  obtain ⟨place, hplace, h⟩ := Option.bind_eq_some_iff.mp h
  obtain ⟨written, hwritten, h⟩ := Option.bind_eq_some_iff.mp h
  obtain ⟨-, rfl⟩ := Prod.mk.inj (Option.some.inj h)
  obtain ⟨target, htarget, hstore⟩ := Option.bind_eq_some_iff.mp hstore
  obtain ⟨hknown, -⟩ := List.getElem?_eq_some_iff.mp htarget
  have htarget' : (s.targets ++ call.step.opened place)[handle]? = some target := by
    rw [List.getElem?_append_left hknown, htarget]
  by_cases heq : place = target
  · subst heq
    obtain rfl := Option.some.inj (hwritten.symm.trans hstore)
    obtain ⟨batch, hperformed⟩ := call.step.exists_performed written
    refine ⟨(call.step.perform written).2, ?_, hperformed.others name hname⟩
    obtain ⟨hlt, -⟩ := List.getElem?_eq_some_iff.mp hwritten
    exact Option.bind_eq_some_iff.mpr ⟨place, htarget', List.getElem?_set_self hlt⟩
  · refine ⟨store, Option.bind_eq_some_iff.mpr ⟨target, htarget', ?_⟩, rfl⟩
    rw [← hstore]
    exact List.getElem?_set_ne heq

end Handles

/-! ## Runs -/

/-- Every step goes through a handle that is known by then. -/
def Addressed : (known : Nat) → List StoreCall → Prop
  | _, [] => True
  | known, call :: rest =>
    call.handle < known ∧ Addressed (known + (call.step.opened 0).length) rest

/-- What is known of a run: the steps, the answers, and what became of the store. -/
structure Recorded (before : MemoryStore) (calls : List StoreCall) (answers : List StoreAnswer)
    (history : List StoreRecord) (after : MemoryStore) : Prop where
  steps : history.map StoreRecord.step = calls.map StoreCall.step
  answers : history.map StoreRecord.answer = answers
  faithful : ∀ record ∈ history, record.Faithful before.fresh
  documents : ∀ name, (after.collection name).documents =
    (before.collection name).documents ++ history.flatMap fun record => record.stored name

/-- A run through known handles ends, and adds the batches of its steps in turn. By induction on
the steps. -/
theorem Handles.Shares.run? {s : Handles} {store : MemoryStore} (h : s.Shares store)
    {calls : List StoreCall} (addressed : Addressed s.targets.length calls) :
    ∃ answers final store' history, s.run? calls = some (answers, final) ∧ final.Shares store' ∧
      Recorded store calls answers history store' := by
  induction calls generalizing s store with
  | nil =>
    refine ⟨[], s, store, [], rfl, h, rfl, rfl, fun _ hmem => (List.not_mem_nil hmem).elim, ?_⟩
    exact fun name => (List.append_nil _).symm
  | cons call rest ih =>
    obtain ⟨hknown, hrest⟩ := addressed
    obtain ⟨s', hstep, hshares, hlength⟩ := h.step? hknown
    obtain ⟨batch, hperformed⟩ := call.step.exists_performed store
    obtain ⟨answers, final, store', history, hrun, hfinal, hrecorded⟩ :=
      ih hshares (hlength ▸ hrest)
    refine ⟨(call.step.perform store).1 :: answers, final, store',
      ⟨call.step, (call.step.perform store).1, batch⟩ :: history, ?_, hfinal, ?_, ?_, ?_, ?_⟩
    · rw [Handles.run?, hstep]
      show (s'.run? rest >>= _) = _
      rw [hrun]
      rfl
    · exact congrArg (call.step :: ·) hrecorded.steps
    · exact congrArg (_ :: ·) hrecorded.answers
    · refine List.forall_mem_cons.mpr ⟨hperformed.faithful, fun record hrecord => ?_⟩
      exact hperformed.fresh ▸ hrecorded.faithful record hrecord
    · intro name
      rw [hrecorded.documents name, hperformed.documents name, List.append_assoc, List.flatMap_cons]

/-- A store loses nothing and invents nothing. Whatever is written, through the store or a clone of
it, each collection has the documents that were inserted into it, in the order of the steps and
within a step in the given order, each as it was and with an identifier in front if it had none;
the answers of the steps name the identifiers. All handles lead to this store, and no step changes
a collection that it does not write to. -/
theorem store_keeps_documents (fresh : Nat → ObjectId) {calls : List StoreCall}
    (addressed : Addressed 1 calls) :
    (∃ answers final store, ∃ history : List StoreRecord,
      (Handles.new fresh).run? calls = some (answers, final) ∧
      (∀ handle, handle < final.targets.length → final.store? handle = some store) ∧
      history.map StoreRecord.step = calls.map StoreCall.step ∧
      history.map StoreRecord.answer = answers ∧
      (∀ record ∈ history, record.Faithful fresh) ∧
      ∀ name, ∃ documents, documents = history.flatMap (fun record => record.stored name) ∧
        store.find name .all = .ok documents ∧ store.count name [] = .ok documents.length ∧
        ∀ d ∈ documents, ∃ id, Keyed.get? d "_id" = some id) ∧
    (∀ {s s' : Handles} {call : StoreCall} {answer : StoreAnswer},
      s.step? call = some (answer, s') → ∀ name, call.step.collection? ≠ some name →
      ∀ handle store, s.store? handle = some store →
        ∃ store', s'.store? handle = some store' ∧
          store'.collection name = store.collection name) := by
  refine ⟨?_, fun hstep name hname handle store hstore => Handles.step?_others hstep hname hstore⟩
  obtain ⟨answers, final, store, history, hrun, hfinal, hrecorded⟩ :=
    (Handles.shares_new fresh).run? addressed
  refine ⟨answers, final, store, history, hrun, fun handle hknown => hfinal.store? hknown,
    hrecorded.steps, hrecorded.answers, hrecorded.faithful, fun name => ?_⟩
  have hdocuments : (store.collection name).documents =
      history.flatMap fun record => record.stored name := hrecorded.documents name
  refine ⟨_, rfl, hdocuments ▸ store.find_all name, hdocuments ▸ store.count_all name, ?_⟩
  intro d hd
  obtain ⟨record, hrecord, hd⟩ := List.mem_flatMap.mp hd
  exact (hrecorded.faithful record hrecord).exists_id hd

/-- Two books of which one has an identifier, a loan through a clone, and a third book. -/
def lending : List StoreCall :=
  [⟨0, .insertMany "books" [[("title", .string "Emma")],
      [("_id", .int32 7), ("title", .string "Cecilia")]]⟩,
    ⟨0, .clone⟩,
    ⟨1, .insertOne "loans" [("book", .int32 7)]⟩,
    ⟨1, .createTextIndex "books" ["title"]⟩,
    ⟨0, .insertOne "books" [("title", .string "Persuasion")]⟩]

theorem store_keeps_documents_lending :
    Addressed 1 lending ∧
      ∃ answers final store documents,
        (Handles.new (⟨.ofNat 96 ·⟩)).run? lending = some (answers, final) ∧
        final.store? 0 = some store ∧ final.store? 1 = some store ∧
        store.find "books" .all = .ok documents ∧ store.count "books" [] = .ok documents.length ∧
        documents.length = 3 ∧ ∀ d ∈ documents, ∃ id, Keyed.get? d "_id" = some id := by
  have addressed : Addressed 1 lending := by simp [Addressed, lending, StoreStep.opened]
  obtain ⟨⟨answers, final, store, history, hrun, hshared, -, -, -, hfound⟩, -⟩ :=
    store_keeps_documents (⟨.ofNat 96 ·⟩) addressed
  obtain ⟨documents, -, hfind, hcount, hids⟩ := hfound "books"
  have hfinal : (Handles.new (⟨.ofNat 96 ·⟩)).run? lending = some (_, ⟨[_], [0, 0]⟩) := rfl
  have hend := hrun.symm.trans hfinal
  obtain ⟨-, rfl⟩ := Prod.mk.inj (Option.some.inj hend)
  have hstore := hshared 0 (by decide)
  refine ⟨addressed, answers, _, store, documents, hrun, hstore, hshared 1 (by decide), hfind,
    hcount, ?_, hids⟩
  obtain rfl := Option.some.inj hstore
  exact (Except.ok.inj (hcount.symm.trans (MemoryStore.count_all _ "books"))).trans rfl

end DataGrid
