import DataGrid.Proofs.Document.Path
import DataGrid.Proofs.Fallible
import DataGrid.Store.Projection

/-!
# DataGrid.Proofs.Store.Projection -- what becomes of the identifier

A projection that builds a document starts from the identifier, and adds entries under other
names; one that reduces a document removes every path that it names. Which of the two it is
goes by the entries beside `_id` alone. So an entry for `_id` is only read where something is
built. Where a document is reduced it removes the identifier whatever it says, an inclusion
too, and a projection to the identifier alone leaves everything else.
-/

namespace DataGrid.Store.Projection

open Fallible

variable {projection d : Document}

/-- Some entry beside the identifier asks for more than a removal. -/
def Builds (projection : Document) : Prop :=
  ∃ entry ∈ projection, entry.1 ≠ "_id" ∧ isExclusion entry.2 = false

/-- The identifier is given an exclusion. -/
def ExcludesIdentifier (projection : Document) : Prop :=
  ∃ value, Keyed.get? projection "_id" = some value ∧ isExclusion value = true

/-- No entry leads into the identifier. -/
def LeavesIdentifierWhole (projection : Document) : Prop :=
  ∀ entry ∈ projection, ¬ "_id.".toList <+: entry.1.toList

theorem includes_iff : includes projection = true ↔ Builds projection := by
  simp [includes, Builds]

/-- Inclusions and exclusions are different values. -/
theorem isExclusion_of_isInclusion {value : Value} (h : isInclusion value = true) :
    isExclusion value = false := by
  cases value <;> simp_all [isInclusion, isExclusion]

theorem LeavesIdentifierWhole.entrance_ne (h : LeavesIdentifierWhole projection)
    {entry : String × Value} (hentry : entry ∈ projection) (hne : entry.1 ≠ "_id") :
    "_id" ≠ Path.entrance entry.1 := by
  intro heq
  rcases Path.eq_or_isPrefix_of_entrance heq.symm with hid | hdeep
  · exact hne hid
  · exact h entry hentry hdeep

/-! ## Reducing a document -/

/-- By induction on the entries: what is removed stays away, and other entries do not touch it. -/
theorem get?_exclude (whole : LeavesIdentifierWhole projection) (d : Document) :
    Keyed.get? (exclude d projection) "_id" =
      if "_id" ∈ Keyed.keys projection then none else Keyed.get? d "_id" := by
  unfold exclude
  induction projection generalizing d with
  | nil => rfl
  | cons entry rest ih =>
    have hrest : LeavesIdentifierWhole rest := fun e he => whole e (List.mem_cons_of_mem _ he)
    rw [List.foldl_cons, ih hrest]
    by_cases hid : entry.1 = "_id"
    · have hremoved : Document.remove d (Path.ofText entry.1) = Keyed.erase d "_id" := by
        rw [hid]
        rfl
      rw [hremoved, Keyed.get?_erase_self, ite_self,
        if_pos (show "_id" ∈ Keyed.keys (entry :: rest) from hid ▸ List.mem_cons_self)]
    · obtain ⟨deeper, hpath⟩ := Path.exists_ofText entry.1
      have hkeys : "_id" ∈ Keyed.keys (entry :: rest) ↔ "_id" ∈ Keyed.keys rest :=
        List.mem_cons.trans (or_iff_right (Ne.symm hid))
      rw [hpath, Document.get?_remove_of_ne (whole.entrance_ne List.mem_cons_self hid)]
      simp only [hkeys]

/-- Entries for the identifier remove it and nothing else. -/
theorem exclude_of_only (only : ∀ entry ∈ projection, entry.1 = "_id") (asks : projection ≠ [])
    (d : Document) : exclude d projection = Keyed.erase d "_id" := by
  have herase : ∀ entry ∈ projection, ∀ d : Document,
      Document.remove d (Path.ofText entry.1) = Keyed.erase d "_id" := by
    intro entry hentry d
    rw [only entry hentry]
    rfl
  unfold exclude
  cases projection with
  | nil => exact (asks rfl).elim
  | cons entry rest =>
    obtain ⟨hfirst, hrest⟩ := List.forall_mem_cons.mp herase
    rw [List.foldl_cons, hfirst]
    clear only asks herase hfirst
    induction rest with
    | nil => rfl
    | cons next others ih =>
      obtain ⟨hnext, hothers⟩ := List.forall_mem_cons.mp hrest
      rw [List.foldl_cons, hnext, Keyed.erase, Keyed.erase, List.filter_filter]
      simp only [Bool.and_self]
      exact ih hothers

/-! ## Building a document -/

theorem identifier_eq (d projection : Document) :
    (∃ id, Keyed.get? d "_id" = some id ∧ ¬ ExcludesIdentifier projection ∧
      identifier d projection = [("_id", id)]) ∨
    (identifier d projection = [] ∧
      (Keyed.get? d "_id" = none ∨ ExcludesIdentifier projection)) := by
  unfold identifier ExcludesIdentifier
  cases Keyed.get? projection "_id" with
  | none => cases Keyed.get? d "_id" <;> simp
  | some value =>
    cases hvalue : isExclusion value <;> cases Keyed.get? d "_id" <;> simp [hvalue]

theorem get?_identifier {id : Value} (h : Keyed.get? d "_id" = some id) :
    Keyed.get? (identifier d projection) "_id" = some id ↔ ¬ ExcludesIdentifier projection := by
  rcases identifier_eq d projection with ⟨found, hfound, hkept, heq⟩ | ⟨heq, hlost⟩
  · obtain rfl := Option.some.inj (h.symm.trans hfound)
    rw [heq]
    exact iff_of_true rfl hkept
  · have hexcluded := hlost.resolve_left (by simp [h])
    rw [heq]
    exact iff_of_false (by simp) (not_not_intro hexcluded)

theorem eq_of_mem_keys_identifier {key : String}
    (h : key ∈ Keyed.keys (identifier d projection)) : key = "_id" := by
  rcases identifier_eq d projection with ⟨_, -, -, heq⟩ | ⟨heq, -⟩
  · rw [heq] at h
    exact List.mem_singleton.mp h
  · rw [heq] at h
    cases h

/-- By the recursion of `build`: an entry adds to what is built under its first segment only. -/
theorem build_frame {built projected : Document} (h : build d built projection = .ok projected) :
    (LeavesIdentifierWhole projection →
      Keyed.get? projected "_id" = Keyed.get? built "_id") ∧
    ∀ key ∈ Keyed.keys projected, key ∈ Keyed.keys built ∨
      ∃ entry ∈ projection, key = Path.entrance entry.1 := by
  induction projection generalizing built with
  | nil =>
    obtain rfl := Except.ok.inj h
    exact ⟨fun _ => rfl, fun key hkey => .inl hkey⟩
  | cons entry rest ih =>
    obtain ⟨path, value⟩ := entry
    -- what the entries behind this one leave as they find it
    have hlater : ∀ {between : Document}, build d between rest = .ok projected →
        (LeavesIdentifierWhole ((path, value) :: rest) →
          Keyed.get? projected "_id" = Keyed.get? between "_id") ∧
        ∀ key ∈ Keyed.keys projected, key ∈ Keyed.keys between ∨
          ∃ entry ∈ (path, value) :: rest, key = Path.entrance entry.1 := by
      intro between hbuild
      obtain ⟨hget, hkeys⟩ := ih hbuild
      refine ⟨fun whole => hget fun e he => whole e (List.mem_cons_of_mem _ he), ?_⟩
      intro key hkey
      refine (hkeys key hkey).imp_right ?_
      rintro ⟨e, he, rfl⟩
      exact ⟨e, List.mem_cons_of_mem _ he, rfl⟩
    rw [build] at h
    split at h
    · exact hlater h
    · next hne =>
      obtain ⟨computed, -, h⟩ := bind_eq_ok.mp h
      cases computed with
      | none => exact hlater h
      | some new =>
        obtain ⟨deeper, hpath⟩ := Path.exists_ofText path
        rw [hpath] at h
        obtain ⟨hget, hkeys⟩ := hlater h
        refine ⟨fun whole => ?_, fun key hkey => ?_⟩
        · rw [hget whole]
          exact Document.get?_set_of_ne (whole.entrance_ne List.mem_cons_self hne) deeper new
        · rcases hkeys key hkey with hbetween | hentry
          · rcases Document.mem_keys_set hbetween with rfl | hbuilt
            · exact .inr ⟨(path, value), List.mem_cons_self, rfl⟩
            · exact .inl hbuilt
          · exact .inr hentry

/-! ## The identifier under a projection -/

/-- Where a projection builds a document, its identifier is kept unless it is excluded; where it
reduces one, it is kept unless it is named. Inclusions beside the identifier leave nothing that
they do not list, and an entry for the identifier alone removes it and leaves everything else. -/
theorem project_identifier {projected : Document} {id : Value}
    (h : project projection d = .ok projected) (hid : Keyed.get? d "_id" = some id)
    (whole : LeavesIdentifierWhole projection) :
    (Builds projection →
      (Keyed.get? projected "_id" = some id ↔ ¬ ExcludesIdentifier projection)) ∧
    (¬ Builds projection →
      (Keyed.get? projected "_id" = some id ↔ "_id" ∉ Keyed.keys projection)) ∧
    ((∀ entry ∈ projection, isInclusion entry.2 = true) →
      (∃ entry ∈ projection, entry.1 ≠ "_id") →
      ∀ key ∈ Keyed.keys projected, key = "_id" ∨
        ∃ entry ∈ projection, key = Path.entrance entry.1) ∧
    ((∀ entry ∈ projection, entry.1 = "_id") → projection ≠ [] →
      projected = Keyed.erase d "_id") := by
  have hbuilt : Builds projection →
      build d (identifier d projection) projection = .ok projected := by
    intro builds
    rwa [project, if_pos (includes_iff.mpr builds)] at h
  have hreduced : ¬ Builds projection → exclude d projection = projected := by
    intro reduces
    rw [project, if_neg (mt includes_iff.mp reduces)] at h
    exact Except.ok.inj h
  refine ⟨fun builds => ?_, fun reduces => ?_, fun lists beside => ?_, fun only asks => ?_⟩
  · rw [(build_frame (hbuilt builds)).1 whole, get?_identifier hid]
  · rw [← hreduced reduces, get?_exclude whole, hid]
    simp
  · obtain ⟨entry, hentry, hne⟩ := beside
    have builds : Builds projection :=
      ⟨entry, hentry, hne, isExclusion_of_isInclusion (lists entry hentry)⟩
    intro key hkey
    exact ((build_frame (hbuilt builds)).2 key hkey).imp_left eq_of_mem_keys_identifier
  · have reduces : ¬ Builds projection := by
      rintro ⟨entry, hentry, hne, -⟩
      exact hne (only entry hentry)
    rw [← hreduced reduces, exclude_of_only only asks]

/-- A book with an identifier of its own. -/
def catalogued : Document :=
  [("_id", .int32 1), ("title", .string "Emma"), ("author", .string "Austen")]

/-- Its identifier and its title, asked for in two ways. -/
def titleOnly : Document := [("_id", .boolean true), ("title", .double (.ofInt 1))]

theorem project_identifier_titleOnly :
    project titleOnly catalogued = .ok [("_id", .int32 1), ("title", .string "Emma")] ∧
    LeavesIdentifierWhole titleOnly ∧ Builds titleOnly ∧ ¬ ExcludesIdentifier titleOnly ∧
    Keyed.get? ([("_id", .int32 1), ("title", .string "Emma")] : Document) "_id" =
      Keyed.get? catalogued "_id" ∧
    ∀ key ∈ Keyed.keys ([("_id", .int32 1), ("title", .string "Emma")] : Document),
      key = "_id" ∨ ∃ entry ∈ titleOnly, key = Path.entrance entry.1 := by
  have hproject : project titleOnly catalogued =
      .ok [("_id", .int32 1), ("title", .string "Emma")] := by rfl
  have whole : LeavesIdentifierWhole titleOnly := by
    unfold LeavesIdentifierWhole titleOnly
    decide
  have builds : Builds titleOnly := includes_iff.mp (by decide +kernel)
  have kept : ¬ ExcludesIdentifier titleOnly := by
    rintro ⟨value, hvalue, hexclusion⟩
    obtain rfl := Option.some.inj hvalue
    cases hexclusion
  have lists : ∀ entry ∈ titleOnly, isInclusion entry.2 = true := by decide +kernel
  obtain ⟨hkept, -, hlisted, -⟩ := project_identifier hproject rfl whole
  exact ⟨hproject, whole, builds, kept, (hkept builds).mpr kept,
    hlisted lists ⟨_, List.mem_cons_of_mem _ List.mem_cons_self, by decide⟩⟩

/-- To ask for the identifier alone removes it, and leaves all that was not asked for. -/
theorem identifier_alone_is_removed :
    isInclusion (.int32 1) = true ∧ Keyed.get? catalogued "_id" = some (.int32 1) ∧
    project [("_id", .int32 1)] catalogued =
      .ok [("title", .string "Emma"), ("author", .string "Austen")] :=
  ⟨rfl, rfl, rfl⟩

end DataGrid.Store.Projection
