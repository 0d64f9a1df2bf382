import DataGrid.Proofs.Document.Lookup

/-!
# DataGrid.Proofs.Document.DottedPaths -- a dotted path is a lawful accessor

Documents are read and written by dotted texts. A text goes on behind another one and a dot exactly
where its segments go on behind those of the other, so the laws of segments are laws of texts. What
is set is found, the second of two values stays, what is removed is found no more, and neither
touches a path beside. Setting a path that leads nowhere, in documents that are there, adds one
field at the end of the innermost one; to remove it gives the document as it was.
-/

namespace DataGrid

/-! ## Texts and segments -/

theorem Text.splitAt_eq_splitOn (separator : Char) (cs : List Char) :
    splitAt separator cs = cs.splitOn separator := by
  induction cs with
  | nil => rfl
  | cons c rest ih =>
    rw [splitAt, List.splitOn, List.splitOnP_cons_eq_if_modifyHead, ← List.splitOn, ← ih]
    by_cases h : c = separator
    · simp [h]
    · rw [if_neg h, if_neg (by simpa using h)]
      cases hrest : splitAt separator rest with
      | nil => exact absurd hrest (splitAt_ne_nil separator rest)
      | cons part others => rfl

theorem Text.splitAt_append (separator : Char) (cs ds : List Char) :
    splitAt separator (cs ++ separator :: ds) = splitAt separator cs ++ splitAt separator ds := by
  simp only [splitAt_eq_splitOn, List.splitOn]
  exact List.splitOnP_append_cons cs ds BEq.rfl

/-- Between any two parts the text was cut. -/
theorem Text.exists_of_splitAt_eq_append {separator : Char} {cs : List Char}
    {front back : List (List Char)} (h : splitAt separator cs = front ++ back)
    (hfront : front ≠ []) (hback : back ≠ []) :
    ∃ before after, cs = before ++ separator :: after ∧ splitAt separator before = front := by
  induction cs generalizing front with
  | nil =>
    have hlength := congrArg List.length h
    have hpos := List.length_pos_iff.mpr hfront
    have hpos' := List.length_pos_iff.mpr hback
    simp only [splitAt, List.length_singleton, List.length_append] at hlength
    omega
  | cons c rest ih =>
    obtain ⟨part, others, rfl⟩ := List.exists_cons_of_ne_nil hfront
    rw [List.cons_append, splitAt] at h
    split at h
    · next hcut =>
      -- the first part is empty, and the text may have been cut behind it
      obtain ⟨rfl, hrest⟩ := List.cons.inj h
      rw [hcut]
      by_cases hothers : others = []
      · subst hothers
        exact ⟨[], rest, rfl, rfl⟩
      · obtain ⟨before, after, rfl, hbefore⟩ := ih hrest hothers
        exact ⟨separator :: before, after, rfl, by rw [splitAt, if_pos rfl, hbefore]⟩
    · next hne =>
      cases hparts : splitAt separator rest with
      | nil => exact absurd hparts (splitAt_ne_nil separator rest)
      | cons part' others' =>
        rw [hparts] at h
        obtain ⟨rfl, hrest⟩ := List.cons.inj h
        have hfound : splitAt separator rest = (part' :: others) ++ back := by
          rw [hparts, hrest, List.cons_append]
        obtain ⟨before, after, rfl, hbefore⟩ := ih hfound (List.cons_ne_nil _ _)
        exact ⟨c :: before, after, rfl, by rw [splitAt, if_neg hne, hbefore]⟩

namespace Path

/-- The second text goes on behind the first one and a dot. -/
def Above (p q : String) : Prop := ∃ rest, q = p ++ "." ++ rest

/-- Two texts of which neither goes on behind the other, and which are not the same. -/
def Unrelated (p q : String) : Prop := p ≠ q ∧ ¬ Above p q ∧ ¬ Above q p

theorem ofText_append (p q : String) : ofText (p ++ "." ++ q) = ofText p ++ ofText q := by
  have htext : (p ++ "." ++ q).toList = p.toList ++ '.' :: q.toList := by
    rw [String.toList_append, String.toList_append, List.append_assoc]
    rfl
  rw [ofText, htext, Text.splitAt_append, List.map_append, ofText, ofText]

theorem ofText_inj {p q : String} (h : ofText p = ofText q) : p = q := by
  have hparts : Text.splitAt '.' p.toList = Text.splitAt '.' q.toList :=
    List.map_injective_iff.mpr (fun _ _ => String.ofList_inj.mp) h
  rw [Text.splitAt_eq_splitOn, Text.splitAt_eq_splitOn] at hparts
  have hjoined := congrArg (List.intercalate ['.']) hparts
  rwa [List.intercalate_splitOn, List.intercalate_splitOn, String.toList_inj] at hjoined

/-- Segments in front of others are those of a text above. -/
theorem exists_above_of_ofText {p : String} {front back : Path} (h : ofText p = front ++ back)
    (hfront : front ≠ []) (hback : back ≠ []) : ∃ above, Above above p ∧ ofText above = front := by
  obtain ⟨parts, others, hparts, rfl, rfl⟩ := List.map_eq_append_iff.mp h
  obtain ⟨before, after, hcut, rfl⟩ := Text.exists_of_splitAt_eq_append hparts
    (mt List.map_eq_nil_iff.mpr hfront) (mt List.map_eq_nil_iff.mpr hback)
  refine ⟨String.ofList before, ⟨String.ofList after, ?_⟩, ?_⟩
  · rw [← String.toList_inj, hcut]
    simp
  · rw [ofText, String.toList_ofList]

theorem eq_or_above_of_isPrefix {p q : String} (h : ofText p <+: ofText q) : p = q ∨ Above p q := by
  obtain ⟨rest, hrest⟩ := h
  by_cases hempty : rest = []
  · rw [hempty, List.append_nil] at hrest
    exact .inl (ofText_inj hrest)
  · obtain ⟨above, habove, heq⟩ := exists_above_of_ofText hrest.symm (ofText_ne_nil p) hempty
    rw [← ofText_inj heq]
    exact .inr habove

theorem Unrelated.apart {p q : String} (h : Unrelated p q) : Apart (ofText p) (ofText q) := by
  obtain ⟨hne, hpq, hqp⟩ := h
  refine ⟨fun hprefix => ?_, fun hprefix => ?_⟩
  · exact (eq_or_above_of_isPrefix hprefix).elim hne hpq
  · exact (eq_or_above_of_isPrefix hprefix).elim (fun heq => hne heq.symm) hqp

end Path

/-! ## Setting twice, and removing what was set -/

namespace Document

theorem set_set (d : Document) (p : Path) (value other : Value) :
    set (set d p value) p other = set d p other := by
  induction p generalizing d with
  | nil => rfl
  | cons key rest ih =>
    cases rest with
    | nil => exact Keyed.insert_insert d key value other
    | cons next rest =>
      simp only [set_deeper _ key (List.cons_ne_nil next rest), inner_insert, ih,
        Keyed.insert_insert]

/-- A field that was added where nothing was is removed again, and all others stay in place. By
induction on the path: down to the last segment there are documents, which keep their places. -/
theorem remove_set {d : Document} {p : Path} (hnone : lookup d p = none)
    (hdocuments : ∀ front back, front ≠ [] → back ≠ [] → p = front ++ back →
      ∃ fields, lookup d front = some (.document fields)) (value : Value) :
    remove (set d p value) p = d := by
  induction p generalizing d with
  | nil => rfl
  | cons key rest ih =>
    cases rest with
    | nil => exact (Keyed.erase_insert d key value).trans (Keyed.erase_of_get? hnone)
    | cons next rest =>
      have hrest : next :: rest ≠ [] := List.cons_ne_nil next rest
      obtain ⟨fields, hfields⟩ := hdocuments [key] (next :: rest) (List.cons_ne_nil _ _) hrest rfl
      have hinner : inner d key = fields := by
        rw [inner, show Keyed.get? d key = some (.document fields) from hfields]
      have hrestored : remove (set fields (next :: rest) value) (next :: rest) = fields := by
        refine ih ?_ fun front back hfront hback heq => ?_
        · rwa [lookup_deeper d key hrest, hinner] at hnone
        · rw [← hinner, ← lookup_deeper d key hfront]
          exact hdocuments (key :: front) back (List.cons_ne_nil _ _) hback
            (congrArg (key :: ·) heq)
      rw [set_deeper d key hrest, remove_deeper _ key hrest, Keyed.get?_insert_self, hinner]
      show Keyed.insert (Keyed.insert d key _) key _ = d
      rw [hrestored, Keyed.insert_insert]
      exact Keyed.insert_of_get? hfields

/-! ## The laws -/

/-- Dotted texts of any depth, with empty segments or without, are lawful accessors. What a path is
given is found there and replaces what was given before; what is removed is not found; a path
beside is not touched by either. To remove what was added at a path that did not resolve, in
documents that were there, gives the document as it was, with its fields in order. -/
theorem dotted_paths_lawful (d : Document) (p q : String) (value other : Value) :
    lookupText (set d (Path.ofText p) value) p = some value ∧
    set (set d (Path.ofText p) other) (Path.ofText p) value = set d (Path.ofText p) value ∧
    lookupText (remove d (Path.ofText p)) p = none ∧
    (Path.Unrelated p q →
      lookupText (set d (Path.ofText p) value) q = lookupText d q ∧
      lookupText (remove d (Path.ofText p)) q = lookupText d q) ∧
    (lookupText d p = none →
      (∀ above, Path.Above above p → ∃ fields, lookupText d above = some (.document fields)) →
      remove (set d (Path.ofText p) value) (Path.ofText p) = d) := by
  refine ⟨lookup_set_self d (Path.ofText_ne_nil p) value, set_set d _ other value,
    lookup_remove_self d _, fun hunrelated => ⟨?_, ?_⟩, fun hnone hdocuments => ?_⟩
  · exact lookup_set_of_apart hunrelated.apart d value
  · exact lookup_remove_of_apart hunrelated.apart d
  · refine remove_set hnone (fun front back hfront hback heq => ?_) value
    obtain ⟨above, habove, rfl⟩ := Path.exists_above_of_ofText heq hfront hback
    exact hdocuments above habove

/-- A book whose author has a name of one part. -/
def byAusten : Document :=
  [("author", .document [("name", .document [("last", .string "Austen")])]), ("year", .int32 1815)]

theorem dotted_paths_lawful_byAusten :
    Path.Unrelated "author.name.first" "author.name.last" ∧
    lookupText byAusten "author.name.first" = none ∧
    lookupText (set byAusten (Path.ofText "author.name.first") (.string "Jane"))
      "author.name.last" = some (.string "Austen") ∧
    remove (set byAusten (Path.ofText "author.name.first") (.string "Jane"))
      (Path.ofText "author.name.first") = byAusten := by
  have hsegments : Path.ofText "author.name.first" = ["author", "name", "first"] := by rfl
  have hunrelated : Path.Unrelated "author.name.first" "author.name.last" := by
    refine ⟨by decide, ?_, ?_⟩ <;>
    · rintro ⟨rest, h⟩
      simpa using congrArg String.toList h
  obtain ⟨-, -, -, hbeside, hremoved⟩ := dotted_paths_lawful byAusten "author.name.first"
    "author.name.last" (.string "Jane") .null
  refine ⟨hunrelated, rfl, (hbeside hunrelated).1, hremoved rfl ?_⟩
  rintro above ⟨rest, hrest⟩
  have happend := Path.ofText_append above rest
  have habove := Path.ofText_ne_nil above
  have hbehind := Path.ofText_ne_nil rest
  rw [← hrest, hsegments] at happend
  unfold lookupText
  generalize Path.ofText above = front at *
  generalize Path.ofText rest = back at *
  rcases front with _ | ⟨first, _ | ⟨second, _ | ⟨third, front⟩⟩⟩
  · exact absurd rfl habove
  · obtain ⟨rfl, -⟩ := List.cons.inj happend
    exact ⟨_, rfl⟩
  · obtain ⟨rfl, h⟩ := List.cons.inj happend
    obtain ⟨rfl, -⟩ := List.cons.inj h
    exact ⟨_, rfl⟩
  · -- three segments above leave none for the text behind them
    have hlength := congrArg List.length happend
    have hpos := List.length_pos_iff.mpr hbehind
    simp only [List.length_cons, List.length_nil, List.length_append] at hlength
    omega

end Document
end DataGrid
