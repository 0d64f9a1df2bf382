import DataGrid.Proofs.Document.Lookup
import DataGrid.Proofs.Store.Projection

/-!
# DataGrid.Proofs.Store.ListedPaths -- what becomes of the paths that a projection lists

A projection rebuilds the listed paths one by one in a new document, where a later path may lead
into what an earlier one has put there, or over it. What carries the argument is that the new
document resolves nothing that the old one does not, so that a path that agrees with the old
document agrees with it for good. Removing is easier: what leads nowhere stays that way. In
both cases paths that stand apart from all listed ones are left alone.
-/

namespace DataGrid

open Fallible

namespace Document

variable {d built : Document} {p q : Path} {value : Value}

/-- A document resolves no path that another does not. -/
def PartOf (built d : Document) : Prop := ∀ path, lookup d path = none → lookup built path = none

/-- A path that is copied from a document is found there as in the document, with all that leads
on from it. -/
theorem lookup_copy_append (hp : p ≠ []) (h : lookup d p = some value) (built : Document)
    (rest : Path) : lookup (set built p value) (p ++ rest) = lookup d (p ++ rest) := by
  cases rest with
  | nil => rw [List.append_nil, lookup_set_self built hp, h]
  | cons next rest =>
    rw [lookup_append _ hp (List.cons_ne_nil _ _), lookup_append _ hp (List.cons_ne_nil _ _),
      lookup_set_self built hp, h]

/-- A path that agrees with the document agrees with it after another one is copied. -/
theorem lookup_copy_of_agree (hp : p ≠ []) (h : lookup d p = some value)
    (hq : lookup built q = lookup d q) : lookup (set built p value) q = lookup d q := by
  rcases Path.apart_or_append p q with happart | ⟨rest, rfl⟩ | ⟨rest, hrest, rfl⟩
  · rw [lookup_set_of_apart happart, hq]
  · exact lookup_copy_append hp h built rest
  · -- the copy lies within what is there already, and is there itself
    by_cases hempty : q = []
    · rw [hempty]
      rfl
    · have hthere : lookup built (q ++ rest) = some value := by
        rw [lookup_append _ hempty hrest, hq, ← lookup_append _ hempty hrest, h]
      rw [set_of_lookup hthere, hq]

theorem PartOf.copy (part : PartOf built d) (hp : p ≠ []) (h : lookup d p = some value) :
    PartOf (set built p value) d := fun path hpath => by
  rw [lookup_copy_of_agree hp h ((part path hpath).trans hpath.symm), hpath]

end Document

namespace Store.Projection

variable {projection d : Document}

/-- The paths that an entry of a projection stands apart from. -/
def Beside (projection : Document) (path : Path) : Prop :=
  ∀ entry ∈ projection, Path.Apart (Path.ofText entry.1) path

/-- Every entry beside the identifier is an inclusion. -/
def OnlyIncludes (projection : Document) : Prop :=
  ∀ entry ∈ projection, entry.1 ≠ "_id" → isInclusion entry.2 = true

/-! ## Building a document -/

theorem entryValue_of_isInclusion {entry : Value} (h : isInclusion entry = true) (d : Document)
    (path : String) : entryValue d path entry = .ok (d.lookupText path) := by
  rw [entryValue, isExclusion_of_isInclusion h, h]
  rfl

/-- How a document comes out of a run of inclusions on what is built so far. -/
structure Copied (projection d built projected : Document) : Prop where
  part : Document.PartOf projected d
  kept : ∀ path, Document.lookup built path = Document.lookup d path →
    Document.lookup projected path = Document.lookup d path
  listed : ∀ entry ∈ projection, entry.1 ≠ "_id" →
    projected.lookupText entry.1 = d.lookupText entry.1
  apart : ∀ path, Beside projection path →
    Document.lookup projected path = Document.lookup built path

/-- By induction on the entries: each of them copies its path, where it resolves. -/
theorem exists_copied (includes : OnlyIncludes projection) {built : Document}
    (part : Document.PartOf built d) :
    ∃ projected, build d built projection = .ok projected ∧
      Copied projection d built projected := by
  induction projection generalizing built with
  | nil => exact ⟨built, rfl, part, fun _ h => h, nofun, fun _ _ => rfl⟩
  | cons entry rest ih =>
    obtain ⟨path, value⟩ := entry
    have hrest : OnlyIncludes rest := fun e he => includes e (List.mem_cons_of_mem _ he)
    have hbeside : ∀ {other : Path}, Beside ((path, value) :: rest) other → Beside rest other :=
      fun h e he => h e (List.mem_cons_of_mem _ he)
    rw [build]
    split
    · next hid =>
      obtain ⟨projected, hprojected, copied⟩ := ih hrest part
      refine ⟨projected, hprojected, copied.part, copied.kept, ?_, fun other h =>
        copied.apart other (hbeside h)⟩
      exact List.forall_mem_cons.mpr ⟨fun hne => absurd hid hne, copied.listed⟩
    · next hne =>
      rw [entryValue_of_isInclusion (includes _ List.mem_cons_self hne), ok_bind]
      cases hlookup : d.lookupText path with
      | none =>
        obtain ⟨projected, hprojected, copied⟩ := ih hrest part
        refine ⟨projected, hprojected, copied.part, copied.kept, ?_, fun other h =>
          copied.apart other (hbeside h)⟩
        refine List.forall_mem_cons.mpr ⟨fun _ => ?_, copied.listed⟩
        exact copied.kept _ ((part _ hlookup).trans hlookup.symm)
      | some found =>
        have hpath := Path.ofText_ne_nil path
        obtain ⟨projected, hprojected, copied⟩ := ih hrest (part.copy hpath hlookup)
        refine ⟨projected, hprojected, copied.part, fun other h => ?_, ?_, fun other h => ?_⟩
        · exact copied.kept other (Document.lookup_copy_of_agree hpath hlookup h)
        · refine List.forall_mem_cons.mpr ⟨fun _ => ?_, copied.listed⟩
          refine copied.kept _ ?_
          rw [Document.lookup_set_self built hpath]
          exact hlookup.symm
        · rw [copied.apart other (hbeside h)]
          exact Document.lookup_set_of_apart (h _ List.mem_cons_self) built found

/-- What building starts from is the identifier of the document, or nothing. -/
theorem lookup_identifier (d projection : Document) (path : Path) :
    Document.lookup (identifier d projection) path = Document.lookup d path ∨
      Document.lookup (identifier d projection) path = none := by
  rcases identifier_eq d projection with ⟨id, hid, -, heq⟩ | ⟨heq, -⟩
  · cases path with
    | nil => exact .inr rfl
    | cons key rest =>
      by_cases hkey : key = "_id"
      · subst hkey
        exact .inl (Document.lookup_congr (by rw [heq, hid]; rfl) rest)
      · refine .inr ?_
        have hnone : Keyed.get? (identifier d projection) key = Keyed.get? ([] : Document) key := by
          rw [heq, Keyed.get?_cons, if_neg hkey]
        rw [Document.lookup_congr hnone, Document.lookup_empty]
  · exact .inr (by rw [heq, Document.lookup_empty])

theorem partOf_identifier (d projection : Document) :
    Document.PartOf (identifier d projection) d := fun path hpath =>
  (lookup_identifier d projection path).elim (fun heq => heq.trans hpath) id

theorem lookup_identifier_of_ne {path : String} (h : Path.entrance path ≠ "_id")
    (d projection : Document) : (identifier d projection).lookupText path = none := by
  obtain ⟨rest, hpath⟩ := Path.exists_ofText path
  have hkey : Keyed.get? (identifier d projection) (Path.entrance path) =
      Keyed.get? ([] : Document) (Path.entrance path) := by
    rcases identifier_eq d projection with ⟨id, -, -, heq⟩ | ⟨heq, -⟩
    · rw [heq, Keyed.get?_cons, if_neg h]
    · rw [heq]
  rw [Document.lookupText, hpath, Document.lookup_congr hkey, Document.lookup_empty]

/-- An identifier that is not excluded is there from the beginning. -/
theorem lookup_identifier_of_kept (h : ¬ ExcludesIdentifier projection) (d : Document) :
    (identifier d projection).lookupText "_id" = d.lookupText "_id" := by
  have hpath : Path.ofText "_id" = ["_id"] := rfl
  rw [Document.lookupText, Document.lookupText, hpath]
  rcases identifier_eq d projection with ⟨id, hid, -, heq⟩ | ⟨heq, hnone | hexcluded⟩
  · rw [heq]
    exact hid.symm
  · rw [heq]
    exact hnone.symm
  · exact absurd hexcluded h

/-- An identifier that is excluded is gone, unless a path leads into it. -/
theorem lookup_identifier_of_excluded {projected : Document}
    (h : ExcludesIdentifier projection) (whole : LeavesIdentifierWhole projection)
    (hprojected : build d (identifier d projection) projection = .ok projected) :
    projected.lookupText "_id" = none := by
  have hpath : Path.ofText "_id" = ["_id"] := rfl
  rw [Document.lookupText, hpath, Document.lookup, (build_frame hprojected).1 whole]
  rcases identifier_eq d projection with ⟨_, -, hkept, -⟩ | ⟨heq, -⟩
  · exact absurd h hkept
  · rw [heq]
    rfl

/-- By the recursion of `build`: it fails at an exclusion, if not before. -/
theorem build_fails {built : Document}
    (h : ∃ entry ∈ projection, entry.1 ≠ "_id" ∧ isExclusion entry.2 = true) :
    ∃ fault, build d built projection = .error fault := by
  induction projection generalizing built with
  | nil =>
    obtain ⟨entry, hentry, -⟩ := h
    cases hentry
  | cons entry rest ih =>
    obtain ⟨path, value⟩ := entry
    rw [build]
    split
    · next hid =>
      obtain ⟨other, hother, hne, hexclusion⟩ := h
      rcases List.mem_cons.mp hother with rfl | hother
      · exact absurd hid hne
      · exact ih ⟨other, hother, hne, hexclusion⟩
    · next hne =>
      cases hvalue : isExclusion value with
      | true =>
        refine ⟨.exclusionInInclusion path, ?_⟩
        rw [entryValue, hvalue]
        rfl
      | false =>
        have hlater : ∃ entry ∈ rest, entry.1 ≠ "_id" ∧ isExclusion entry.2 = true := by
          obtain ⟨other, hother, hne, hexclusion⟩ := h
          rcases List.mem_cons.mp hother with rfl | hother
          · cases hvalue.symm.trans hexclusion
          · exact ⟨other, hother, hne, hexclusion⟩
        cases entryValue d path value with
        | error fault => exact ⟨fault, rfl⟩
        | ok computed => cases computed with
          | none => exact ih hlater
          | some new => exact ih hlater

/-! ## Reducing a document -/

/-- By induction on the entries: a path stays away once it is removed. -/
theorem lookup_exclude_of_none {path : Path} (h : Document.lookup d path = none)
    (projection : Document) : Document.lookup (exclude d projection) path = none := by
  unfold exclude
  induction projection generalizing d with
  | nil => exact h
  | cons entry rest ih => exact ih (Document.lookup_remove_of_lookup h (Path.ofText entry.1))

theorem lookup_exclude_of_mem {entry : String × Value} (h : entry ∈ projection) (d : Document) :
    (exclude d projection).lookupText entry.1 = none := by
  induction projection generalizing d with
  | nil => cases h
  | cons first rest ih =>
    rcases List.mem_cons.mp h with rfl | h
    · exact lookup_exclude_of_none (Document.lookup_remove_self d (Path.ofText entry.1)) rest
    · exact ih h (Document.remove d (Path.ofText first.1))

theorem lookup_exclude_of_beside {path : Path} (h : Beside projection path) (d : Document) :
    Document.lookup (exclude d projection) path = Document.lookup d path := by
  induction projection generalizing d with
  | nil => rfl
  | cons first rest ih =>
    obtain ⟨hfirst, hrest⟩ := List.forall_mem_cons.mp h
    exact (ih hrest (Document.remove d (Path.ofText first.1))).trans
      (Document.lookup_remove_of_apart hfirst d)

/-! ## The paths of a projection -/

/-- A projection of inclusions builds a document in which every listed path resolves as before
and no path resolves that stands apart from all of them, the identifier aside; it is kept if it is
not excluded, and otherwise gone unless a path leads into it. A projection of exclusions succeeds
too: no listed path resolves any more, and those that stand apart resolve as before. Inclusions
beside exclusions are refused. -/
theorem project_listed (projection d : Document) :
    (OnlyIncludes projection → (∃ entry ∈ projection, entry.1 ≠ "_id") →
      ∃ projected, project projection d = .ok projected ∧
        (∀ entry ∈ projection, entry.1 ≠ "_id" ∨ ¬ ExcludesIdentifier projection →
          projected.lookupText entry.1 = d.lookupText entry.1) ∧
        (ExcludesIdentifier projection → LeavesIdentifierWhole projection →
          projected.lookupText "_id" = none) ∧
        ∀ path, Path.entrance path ≠ "_id" → Beside projection (Path.ofText path) →
          projected.lookupText path = none) ∧
    ((∀ entry ∈ projection, isExclusion entry.2 = true) →
      ∃ projected, project projection d = .ok projected ∧
        (∀ entry ∈ projection, projected.lookupText entry.1 = none) ∧
        ∀ path, Beside projection (Path.ofText path) →
          projected.lookupText path = d.lookupText path) ∧
    ((∃ entry ∈ projection, entry.1 ≠ "_id" ∧ isInclusion entry.2 = true) →
      (∃ entry ∈ projection, entry.1 ≠ "_id" ∧ isExclusion entry.2 = true) →
      ∃ fault, project projection d = .error fault) := by
  refine ⟨fun includes beside => ?_, fun excludes => ?_, fun inclusion exclusion => ?_⟩
  · obtain ⟨entry, hentry, hne⟩ := beside
    have builds : Builds projection :=
      ⟨entry, hentry, hne, isExclusion_of_isInclusion (includes entry hentry hne)⟩
    obtain ⟨projected, hprojected, copied⟩ :=
      exists_copied includes (partOf_identifier d projection)
    refine ⟨projected, ?_, fun listed hlisted hkept => ?_, fun hexcluded whole =>
      lookup_identifier_of_excluded hexcluded whole hprojected, fun path hpath hapart => ?_⟩
    · rw [project, if_pos (includes_iff.mpr builds), hprojected]
    · by_cases hid : listed.1 = "_id"
      · have kept := hkept.resolve_left (not_not_intro hid)
        rw [hid]
        exact copied.kept _ (lookup_identifier_of_kept kept d)
      · exact copied.listed listed hlisted hid
    · exact (copied.apart _ hapart).trans (lookup_identifier_of_ne hpath d projection)
  · have reduces : ¬ Builds projection := by
      rintro ⟨entry, hentry, -, hinclusion⟩
      cases (excludes entry hentry).symm.trans hinclusion
    refine ⟨exclude d projection, ?_, fun entry hentry => lookup_exclude_of_mem hentry d,
      fun path hapart => lookup_exclude_of_beside hapart d⟩
    rw [project, if_neg (mt includes_iff.mp reduces)]
  · obtain ⟨entry, hentry, hne, hinclusion⟩ := inclusion
    have builds : Builds projection := ⟨entry, hentry, hne, isExclusion_of_isInclusion hinclusion⟩
    rw [project, if_pos (includes_iff.mpr builds)]
    exact build_fails exclusion

/-- A book with a document and a list in it. -/
def printed : Document :=
  [("_id", .int32 1),
    ("print", .document [("title", .string "Emma"), ("pages", .int32 474), ("year", .int32 1815)]),
    ("authors", .array [.string "Austen"])]

/-- A title, then the document that it is in, and a path into a list. -/
def overlapping : Document :=
  [("print.title", .boolean true), ("print", .int32 1), ("authors.name", .double (.ofInt 1)),
    ("_id", .boolean false)]

/-- All but the numbers of the print. -/
def withoutNumbers : Document := [("print.year", .boolean false), ("print.pages", .int32 0)]

theorem project_listed_printed :
    OnlyIncludes overlapping ∧ (∀ entry ∈ withoutNumbers, isExclusion entry.2 = true) ∧
    (∃ built, project overlapping printed = .ok built ∧
      built.lookupText "print.title" = some (.string "Emma") ∧
      built.lookupText "authors.name" = none ∧
      built.lookupText "_id" = none ∧
      built.lookupText "price" = none) ∧
    (∃ reduced, project withoutNumbers printed = .ok reduced ∧
      reduced.lookupText "print.pages" = none ∧
      reduced.lookupText "print.title" = some (.string "Emma")) ∧
    ∃ fault, project [("print.title", .boolean true), ("print.year", .boolean false)] printed =
      .error fault := by
  have includes : OnlyIncludes overlapping := by
    unfold OnlyIncludes overlapping
    decide +kernel
  have excludes : ∀ entry ∈ withoutNumbers, isExclusion entry.2 = true := by decide +kernel
  have hprice : Beside overlapping ["price"] := by
    unfold Beside Path.Apart overlapping
    decide +kernel
  have htitle : Beside withoutNumbers ["print", "title"] := by
    unfold Beside Path.Apart withoutNumbers
    decide +kernel
  have hwhole : LeavesIdentifierWhole overlapping := by
    unfold LeavesIdentifierWhole overlapping
    decide +kernel
  obtain ⟨built, hbuilt, hlisted, hidentifier, hnone⟩ :=
    (project_listed overlapping printed).1 includes ⟨_, List.mem_cons_self, by decide⟩
  obtain ⟨reduced, hreduced, hremoved, hleft⟩ :=
    (project_listed withoutNumbers printed).2.1 excludes
  refine ⟨includes, excludes,
    ⟨built, hbuilt, ?_, ?_, hidentifier ⟨.boolean false, rfl, rfl⟩ hwhole,
      hnone "price" (by decide) hprice⟩,
    ⟨reduced, hreduced, ?_, hleft "print.title" htitle⟩, ?_⟩
  · exact hlisted ("print.title", .boolean true) (by simp [overlapping]) (.inl (by decide))
  · exact hlisted ("authors.name", .double (.ofInt 1)) (by simp [overlapping]) (.inl (by decide))
  · exact hremoved ("print.pages", .int32 0) (by simp [withoutNumbers])
  · exact (project_listed _ printed).2.2 ⟨_, List.mem_cons_self, by decide, rfl⟩
      ⟨_, List.mem_cons_of_mem _ List.mem_cons_self, by decide, rfl⟩

end Store.Projection
end DataGrid
