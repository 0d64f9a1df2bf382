import DataGrid.Keyed
import Mathlib.Data.List.Induction
import Mathlib.Data.List.Nodup

/-!
# DataGrid.Proofs.Keyed -- entries of association lists

A value that is found under a key is one of the entries. Inserting under a new key adds an
entry at the end and otherwise changes one in place, so distinct keys stay distinct. Of entries
that are inserted one by one, each key keeps its first place and its last value, and a list with
distinct keys is what results from its own entries. To insert what is there, or to remove what is
not, changes nothing.
-/

namespace DataGrid.Keyed

variable {α : Type}

theorem mem_of_get? {entries : Keyed α} {key : String} {value : α}
    (h : get? entries key = some value) : (key, value) ∈ entries := by
  induction entries with
  | nil => cases h
  | cons entry rest ih =>
    rw [get?_cons] at h
    split at h
    · next hkey =>
      rw [hkey, ← Option.some.inj h]
      exact List.mem_cons_self
    · exact List.mem_cons_of_mem _ (ih h)

/-- An entry is found under its key if no other one has the key with another value. -/
theorem get?_of_mem_of_unique {entries : Keyed α} {key : String} {value : α}
    (h : (key, value) ∈ entries) (unique : ∀ entry ∈ entries, entry.1 = key → entry.2 = value) :
    get? entries key = some value := by
  induction entries with
  | nil => cases h
  | cons first rest ih =>
    rw [get?_cons]
    split
    · next hkey => rw [unique first List.mem_cons_self hkey.symm]
    · next hne =>
      have hrest : (key, value) ∈ rest :=
        (List.mem_cons.mp h).resolve_left fun heq => hne (heq ▸ rfl)
      exact ih hrest fun entry hentry => unique entry (List.mem_cons_of_mem _ hentry)

/-- Among distinct keys an entry is found under its own. -/
theorem get?_of_mem {entries : Keyed α} (distinct : DistinctKeys entries) {entry : String × α}
    (h : entry ∈ entries) : get? entries entry.1 = some entry.2 := by
  refine get?_of_mem_of_unique h fun other hother hkey => ?_
  rw [List.inj_on_of_nodup_map distinct hother h hkey]

theorem get?_eq_none_iff {entries : Keyed α} {key : String} :
    get? entries key = none ↔ key ∉ keys entries := by
  rw [get?, List.lookup_eq_none_iff, keys, List.mem_map, not_exists]
  refine forall_congr' fun entry => ?_
  rw [not_and, bne_iff_ne, ne_comm]

theorem get?_eq_some_iff {entries : Keyed α} {key : String} {value : α} :
    get? entries key = some value ↔
      ∃ before after, entries = before ++ (key, value) :: after ∧ key ∉ keys before := by
  rw [get?, List.lookup_eq_some_iff]
  refine exists_congr fun before => exists_congr fun after => and_congr_right fun _ => ?_
  rw [← get?_eq_none_iff, get?, List.lookup_eq_none_iff]

theorem get?_map {β : Type} (f : α → β) (entries : Keyed α) (key : String) :
    get? (entries.map fun entry => (entry.1, f entry.2)) key = (get? entries key).map f := by
  induction entries with
  | nil => rfl
  | cons entry rest ih =>
    rw [List.map_cons, get?_cons, get?_cons, ih]
    split <;> rfl

/-! ## Insertion -/

theorem insert_of_fresh {entries : Keyed α} {key : String} (h : key ∉ keys entries)
    (value : α) : insert entries key value = entries ++ [(key, value)] := by
  induction entries with
  | nil => rfl
  | cons entry rest ih =>
    obtain ⟨hne, hrest⟩ := not_or.mp (mt List.mem_cons.mpr h)
    rw [insert, if_neg (Ne.symm hne), ih hrest]
    rfl

theorem mem_insert {entries : Keyed α} {key : String} {value : α} {entry : String × α}
    (h : entry ∈ insert entries key value) : entry = (key, value) ∨ entry ∈ entries := by
  induction entries with
  | nil => exact .inl (List.mem_singleton.mp h)
  | cons first rest ih =>
    rw [insert] at h
    split at h
    · next hkey =>
      rw [← hkey]
      rcases List.mem_cons.mp h with rfl | hmem
      · exact .inl rfl
      · exact .inr (List.mem_cons_of_mem _ hmem)
    · rcases List.mem_cons.mp h with rfl | hmem
      · exact .inr List.mem_cons_self
      · exact (ih hmem).imp_right (List.mem_cons_of_mem _)

/-- A key that is there keeps its place. -/
theorem keys_insert_of_mem {entries : Keyed α} {key : String} (h : key ∈ keys entries)
    (value : α) : keys (insert entries key value) = keys entries := by
  induction entries with
  | nil => cases h
  | cons first rest ih =>
    rw [insert]
    split
    · rfl
    · next hne =>
      have hrest : key ∈ keys rest :=
        (List.mem_cons.mp h).resolve_left fun heq => hne heq.symm
      exact congrArg (first.1 :: ·) (ih hrest)

/-- The value that a key has changes nothing. -/
theorem insert_of_get? {entries : Keyed α} {key : String} {value : α}
    (h : get? entries key = some value) : insert entries key value = entries := by
  induction entries with
  | nil => cases h
  | cons entry rest ih =>
    rw [get?_cons] at h
    rw [insert]
    split at h
    · next hkey =>
      rw [if_pos hkey.symm, ← Option.some.inj h]
    · next hne => rw [if_neg (Ne.symm hne), ih h]

/-- Of two values for one key the second one stays. -/
theorem insert_insert (entries : Keyed α) (key : String) (value other : α) :
    insert (insert entries key value) key other = insert entries key other := by
  induction entries with
  | nil => simp [insert]
  | cons entry rest ih =>
    rw [insert, insert]
    split
    · next hkey => rw [insert, if_pos hkey]
    · next hne => rw [insert, if_neg hne, ih]

/-- A filter that drops a key does not see its value. -/
theorem filter_insert (keep : String → Bool) {key : String} (h : keep key = false)
    (entries : Keyed α) (value : α) :
    (insert entries key value).filter (fun entry => keep entry.1) =
      entries.filter fun entry => keep entry.1 := by
  induction entries with
  | nil => rw [insert, List.filter_cons_of_neg (by simp [h])]
  | cons first rest ih =>
    rw [insert]
    split
    · next hkey =>
      have hfirst : keep first.1 = false := hkey ▸ h
      rw [List.filter_cons_of_neg (by simp [hfirst]),
        List.filter_cons_of_neg (by simp [hfirst])]
    · rw [List.filter_cons, List.filter_cons, ih]

theorem distinctKeys_insert {entries : Keyed α} (h : DistinctKeys entries) (key : String)
    (value : α) : DistinctKeys (insert entries key value) := by
  unfold DistinctKeys at *
  by_cases hkey : key ∈ keys entries
  · rwa [keys_insert_of_mem hkey]
  · rw [insert_of_fresh hkey, keys, List.map_append]
    refine List.nodup_append.mpr ⟨h, by simp, ?_⟩
    intro a ha b hb hab
    obtain rfl : b = key := List.mem_singleton.mp hb
    exact hkey (hab ▸ ha)

theorem distinctKeys_ofEntries (entries : List (String × α)) :
    DistinctKeys (ofEntries entries) := by
  have hdistinct : ∀ done : Keyed α, DistinctKeys done →
      DistinctKeys (entries.foldl (fun done entry => insert done entry.1 entry.2) done) := by
    induction entries with
    | nil => exact fun done h => h
    | cons entry rest ih => exact fun done h => ih _ (distinctKeys_insert h entry.1 entry.2)
  exact hdistinct [] List.nodup_nil

theorem mem_ofEntries {entries : List (String × α)} {entry : String × α}
    (h : entry ∈ ofEntries entries) : entry ∈ entries := by
  have hmem : ∀ done : Keyed α,
      entry ∈ entries.foldl (fun done entry => insert done entry.1 entry.2) done →
        entry ∈ done ∨ entry ∈ entries := by
    clear h
    induction entries with
    | nil => exact fun done h => .inl h
    | cons first rest ih =>
      intro done h
      rcases ih _ h with hdone | hrest
      · rcases mem_insert hdone with rfl | hdone
        · exact .inr List.mem_cons_self
        · exact .inl hdone
      · exact .inr (List.mem_cons_of_mem _ hrest)
  exact (hmem [] h).resolve_left (List.not_mem_nil)

theorem ofEntries_concat (entries : List (String × α)) (entry : String × α) :
    ofEntries (entries ++ [entry]) = insert (ofEntries entries) entry.1 entry.2 := by
  simp [ofEntries, List.foldl_append]

/-- An item that is added counts only if it is new. -/
theorem eraseDups_concat (names : List String) (name : String) :
    (names ++ [name]).eraseDups =
      if name ∈ names then names.eraseDups else names.eraseDups ++ [name] := by
  rw [List.eraseDups_append]
  split
  · next h => simp [List.removeAll, h]
  · next h => simp [List.removeAll, h, List.eraseDups_cons]

/-- Keys stand in the order in which they appear first. -/
theorem keys_ofEntries (entries : List (String × α)) :
    keys (ofEntries entries) = (entries.map Prod.fst).eraseDups := by
  induction entries using List.reverseRecOn with
  | nil => rfl
  | append_singleton entries entry ih =>
    rw [ofEntries_concat, List.map_append, List.map_singleton, eraseDups_concat]
    split
    · next hold =>
      rw [keys_insert_of_mem (by rwa [ih, List.mem_eraseDups]), ih]
    · next hnew =>
      rw [insert_of_fresh (by rwa [ih, List.mem_eraseDups]), ← ih]
      simp [keys]

/-- What is left stands in the order of first occurrence. -/
theorem pairwise_eraseDups (names : List String) :
    names.eraseDups.Pairwise fun a b => names.idxOf a < names.idxOf b := by
  induction names using List.reverseRecOn with
  | nil => exact .nil
  | append_singleton names name ih =>
    have hbefore : names.eraseDups.Pairwise fun a b =>
        (names ++ [name]).idxOf a < (names ++ [name]).idxOf b := by
      refine ih.imp_of_mem fun ha hb hlt => ?_
      rwa [List.idxOf_append_of_mem (List.mem_eraseDups.mp ha),
        List.idxOf_append_of_mem (List.mem_eraseDups.mp hb)]
    rw [eraseDups_concat]
    split
    · exact hbefore
    · next hnew =>
      refine List.pairwise_append.mpr ⟨hbefore, List.pairwise_singleton _ _, ?_⟩
      intro a ha b hb
      rw [List.mem_singleton.mp hb, List.idxOf_append_of_mem (List.mem_eraseDups.mp ha),
        List.idxOf_append_of_notMem hnew]
      have := List.idxOf_lt_length_iff.mpr (List.mem_eraseDups.mp ha)
      omega

theorem get?_append (entries later : Keyed α) (key : String) :
    get? (entries ++ later) key = (get? entries key).or (get? later key) :=
  List.lookup_append

/-- Of entries that are inserted one by one the last decides, and in front of them what was
there. -/
theorem get?_foldl_insert (entries : List (String × α)) (before : Keyed α) (key : String) :
    get? (entries.foldl (fun done entry => insert done entry.1 entry.2) before) key =
      (get? entries.reverse key).or (get? before key) := by
  induction entries generalizing before with
  | nil => rfl
  | cons entry rest ih =>
    rw [List.foldl_cons, ih, List.reverse_cons, get?_append, Option.or_assoc, get?_cons]
    split
    · next hkey => rw [hkey, get?_insert_self, Option.some_or]
    · next hne => rw [get?_insert_of_ne _ _ hne, get?_nil, Option.none_or]

/-- A key has the value of its last entry. -/
theorem get?_ofEntries (entries : List (String × α)) (key : String) :
    get? (ofEntries entries) key = get? entries.reverse key := by
  rw [ofEntries, get?_foldl_insert, get?_nil, Option.or_none]

/-- The key was given the value, and no other one after that. -/
def GivenLast (entries : List (String × α)) (key : String) (value : α) : Prop :=
  ∃ before after, entries = before ++ (key, value) :: after ∧ key ∉ keys after

theorem get?_ofEntries_eq_some_iff {entries : List (String × α)} {key : String} {value : α} :
    get? (ofEntries entries) key = some value ↔ GivenLast entries key value := by
  rw [get?_ofEntries, get?_eq_some_iff]
  constructor
  · rintro ⟨after, before, h, hkey⟩
    refine ⟨before.reverse, after.reverse, ?_, by simpa [keys] using hkey⟩
    rw [← List.reverse_reverse entries, h]
    simp
  · rintro ⟨before, after, rfl, hkey⟩
    exact ⟨after.reverse, before.reverse, by simp, by simpa [keys] using hkey⟩

theorem get?_ofEntries_eq_none_iff {entries : List (String × α)} {key : String} :
    get? (ofEntries entries) key = none ↔ key ∉ keys entries := by
  rw [get?_ofEntries, get?_eq_none_iff]
  simp [keys]

theorem contains_ofEntries_iff {entries : List (String × α)} {key : String} :
    contains (ofEntries entries) key = true ↔ key ∈ keys entries := by
  rw [contains, Option.isSome_iff_ne_none, ne_eq, get?_ofEntries_eq_none_iff, not_not]

/-- A key is not among those in front of it. -/
theorem not_mem_keys_of_append {before rest : Keyed α} {entry : String × α}
    (h : DistinctKeys (before ++ entry :: rest)) : entry.1 ∉ keys before := by
  intro hmem
  rw [DistinctKeys, keys, List.map_append] at h
  exact (List.nodup_append.mp h).2.2 entry.1 hmem entry.1 List.mem_cons_self rfl

/-- Entries with keys of their own are added behind those that are there. -/
theorem foldl_insert (before : Keyed α) {entries : Keyed α}
    (h : DistinctKeys (before ++ entries)) :
    entries.foldl (fun done entry => insert done entry.1 entry.2) before = before ++ entries := by
  induction entries generalizing before with
  | nil => simp
  | cons entry rest ih =>
    rw [List.foldl_cons, insert_of_fresh (not_mem_keys_of_append h), ih]
    · simp
    · simpa using h

/-! ## Removal -/

theorem erase_insert (entries : Keyed α) (key : String) (value : α) :
    erase (insert entries key value) key = erase entries key :=
  filter_insert (· != key) (bne_self_eq_false key) entries value

/-- A key that is not there is nothing to remove. -/
theorem erase_of_get? {entries : Keyed α} {key : String} (h : get? entries key = none) :
    erase entries key = entries := by
  induction entries with
  | nil => rfl
  | cons entry rest ih =>
    rw [get?_cons] at h
    split at h
    · cases h
    · next hne =>
      have hkept : (entry.1 != key) = true := bne_iff_ne.mpr (Ne.symm hne)
      rw [erase, List.filter_cons, if_pos hkept]
      exact congrArg (entry :: ·) (ih h)

end DataGrid.Keyed
