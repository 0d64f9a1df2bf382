import DataGrid.Proofs.Document.Path

/-!
# DataGrid.Proofs.Document.Lookup -- what is found after setting and removing

A path that is given a value has it, and one that is removed leads nowhere. Neither touches a
path that stands apart, one that is no continuation of the path and of which the path is none.
To give a path the value that it has, or to remove one that leads nowhere, changes nothing.
Look-up goes segment by segment, so a path goes on in the document that its beginning leads to.
-/

namespace DataGrid

/-! ## Paths beside each other -/

/-- Neither of two paths leads on from the other. -/
def Path.Apart (p q : Path) : Prop := ¬ p <+: q ∧ ¬ q <+: p

theorem Path.Apart.of_cons {key : String} {p q : Path} (h : Apart (key :: p) (key :: q)) :
    Apart p q :=
  ⟨fun hprefix => h.1 (List.cons_prefix_cons.mpr ⟨rfl, hprefix⟩),
    fun hprefix => h.2 (List.cons_prefix_cons.mpr ⟨rfl, hprefix⟩)⟩

/-- Two paths are apart, or one is the other with something behind it. -/
theorem Path.apart_or_append (p q : Path) :
    Apart p q ∨ (∃ rest, q = p ++ rest) ∨ ∃ rest, rest ≠ [] ∧ p = q ++ rest := by
  by_cases hp : p <+: q
  · obtain ⟨rest, rfl⟩ := hp
    exact .inr (.inl ⟨rest, rfl⟩)
  · by_cases hq : q <+: p
    · obtain ⟨rest, rfl⟩ := hq
      refine .inr (.inr ⟨rest, ?_, rfl⟩)
      rintro rfl
      rw [List.append_nil] at hp
      exact hp List.prefix_rfl
    · exact .inl ⟨hp, hq⟩

namespace Document

variable {d d' : Document} {p q : Path} {value : Value}

/-! ## Look-up -/

@[simp] theorem lookup_empty (path : Path) : lookup [] path = none := by
  fun_cases lookup [] path <;> simp_all

/-- Under a key there is a document, or the look-up goes on in an empty one. -/
theorem inner_cases (d : Document) (key : String) :
    Keyed.get? d key = some (.document (inner d key)) ∨ inner d key = [] := by
  unfold inner
  split
  · next heq => exact .inl heq
  · exact .inr rfl

theorem lookup_deeper (d : Document) (key : String) {rest : Path} (h : rest ≠ []) :
    lookup d (key :: rest) = lookup (inner d key) rest := by
  cases rest with
  | nil => exact absurd rfl h
  | cons next rest =>
    rw [lookup, inner]
    split
    · rfl
    · rw [lookup_empty]
    · simp

theorem lookup_congr {key : String} (h : Keyed.get? d key = Keyed.get? d' key) (rest : Path) :
    lookup d (key :: rest) = lookup d' (key :: rest) := by
  cases rest with
  | nil => exact h
  | cons next rest => rw [lookup_deeper d key (List.cons_ne_nil _ _),
      lookup_deeper d' key (List.cons_ne_nil _ _), inner, inner, h]

/-- A path goes on in the document that its beginning leads to. -/
theorem lookup_append (d : Document) (hp : p ≠ []) (hq : q ≠ []) :
    lookup d (p ++ q) = ((lookup d p).bind Value.document?).bind fun fields => lookup fields q := by
  induction p generalizing d with
  | nil => exact absurd rfl hp
  | cons key rest ih =>
    rw [List.cons_append]
    cases rest with
    | nil =>
      rw [List.nil_append, lookup_deeper d key hq, lookup, inner]
      cases Keyed.get? d key with
      | none => exact lookup_empty q
      | some v => cases v with
        | document fields => rfl
        | _ => exact lookup_empty q
    | cons next rest =>
      rw [lookup_deeper d key (by simp), lookup_deeper d key (List.cons_ne_nil _ _)]
      exact ih (inner d key) (List.cons_ne_nil _ _)

/-! ## Look-up of what is set -/

theorem set_deeper (d : Document) (key : String) {rest : Path} (h : rest ≠ []) (value : Value) :
    set d (key :: rest) value = Keyed.insert d key (.document (set (inner d key) rest value)) := by
  cases rest with
  | nil => exact absurd rfl h
  | cons next rest => rfl

theorem inner_insert (d : Document) (key : String) (fields : Document) :
    inner (Keyed.insert d key (.document fields)) key = fields := by
  rw [inner, Keyed.get?_insert_self]

theorem lookup_set_self (d : Document) (hp : p ≠ []) (value : Value) :
    lookup (set d p value) p = some value := by
  induction p generalizing d with
  | nil => exact absurd rfl hp
  | cons key rest ih =>
    cases rest with
    | nil => exact Keyed.get?_insert_self d key value
    | cons next rest =>
      rw [set_deeper d key (List.cons_ne_nil _ _), lookup_deeper _ key (List.cons_ne_nil _ _),
        inner_insert]
      exact ih (inner d key) (List.cons_ne_nil _ _)

/-- What stands beside a path is not touched when it is given a value. -/
theorem lookup_set_of_apart (h : Path.Apart p q) (d : Document) (value : Value) :
    lookup (set d p value) q = lookup d q := by
  induction p generalizing d q with
  | nil => exact absurd (List.nil_prefix) h.1
  | cons key rest ih =>
    cases q with
    | nil => exact absurd (List.nil_prefix) h.2
    | cons other q =>
      by_cases hkey : other = key
      · subst hkey
        have hrest : rest ≠ [] := by
          rintro rfl
          exact h.1 ⟨q, rfl⟩
        have hq : q ≠ [] := by
          rintro rfl
          exact h.2 ⟨rest, rfl⟩
        rw [set_deeper d other hrest, lookup_deeper _ other hq, inner_insert, ih h.of_cons,
          lookup_deeper d other hq]
      · exact lookup_congr (get?_set_of_ne hkey rest value) q

/-- The value that a path has changes nothing. -/
theorem set_of_lookup (h : lookup d p = some value) : set d p value = d := by
  induction p generalizing d with
  | nil => rfl
  | cons key rest ih =>
    cases rest with
    | nil => exact Keyed.insert_of_get? h
    | cons next rest =>
      rw [lookup_deeper d key (List.cons_ne_nil _ _)] at h
      rw [set_deeper d key (List.cons_ne_nil _ _), ih h]
      rcases inner_cases d key with hfields | hempty
      · exact Keyed.insert_of_get? hfields
      · rw [hempty, lookup_empty] at h
        cases h

/-! ## Look-up of what is removed -/

theorem remove_deeper (d : Document) (key : String) {rest : Path} (h : rest ≠ []) :
    remove d (key :: rest) =
      match Keyed.get? d key with
      | some (.document fields) => Keyed.insert d key (.document (remove fields rest))
      | _ => d := by
  cases rest with
  | nil => exact absurd rfl h
  | cons next rest => rfl

/-- Nothing is removed of a path that does not resolve. -/
theorem remove_of_lookup (h : lookup d p = none) : remove d p = d := by
  induction p generalizing d with
  | nil => rfl
  | cons key rest ih =>
    cases rest with
    | nil => exact Keyed.erase_of_get? h
    | cons next rest =>
      rw [remove_deeper d key (List.cons_ne_nil _ _)]
      split
      · next fields hfields =>
        rw [lookup_deeper d key (List.cons_ne_nil _ _), inner, hfields] at h
        rw [ih h]
        exact Keyed.insert_of_get? hfields
      · rfl

theorem inner_remove (d : Document) (key : String) {rest : Path} (h : rest ≠ []) :
    inner (remove d (key :: rest)) key = remove (inner d key) rest := by
  rw [remove_deeper d key h]
  split
  · next fields hfields => rw [inner_insert, inner, hfields]
  · next hnone =>
    have hempty : inner d key = [] := by
      rw [inner]
      split
      · next fields hfields => exact absurd hfields (hnone fields)
      · rfl
    rw [hempty, remove_of_lookup (lookup_empty rest)]

theorem lookup_remove_self (d : Document) (p : Path) : lookup (remove d p) p = none := by
  induction p generalizing d with
  | nil => rfl
  | cons key rest ih =>
    cases rest with
    | nil => exact Keyed.get?_erase_self d key
    | cons next rest =>
      rw [lookup_deeper _ key (List.cons_ne_nil _ _), inner_remove d key (List.cons_ne_nil _ _)]
      exact ih (inner d key)

/-- What stands beside a path is not touched when it is removed. -/
theorem lookup_remove_of_apart (h : Path.Apart p q) (d : Document) :
    lookup (remove d p) q = lookup d q := by
  induction p generalizing d q with
  | nil => exact absurd (List.nil_prefix) h.1
  | cons key rest ih =>
    cases q with
    | nil => exact absurd (List.nil_prefix) h.2
    | cons other q =>
      by_cases hkey : other = key
      · subst hkey
        have hrest : rest ≠ [] := by
          rintro rfl
          exact h.1 ⟨q, rfl⟩
        have hq : q ≠ [] := by
          rintro rfl
          exact h.2 ⟨rest, rfl⟩
        rw [lookup_deeper _ other hq, inner_remove d other hrest, ih h.of_cons,
          lookup_deeper d other hq]
      · exact lookup_congr (get?_remove_of_ne hkey rest) q

/-- A path that does not resolve does not come to by a removal. -/
theorem lookup_remove_of_lookup (h : lookup d q = none) (p : Path) :
    lookup (remove d p) q = none := by
  rcases Path.apart_or_append p q with happart | ⟨rest, rfl⟩ | ⟨rest, hrest, rfl⟩
  · rw [lookup_remove_of_apart happart, h]
  · by_cases hp : p = []
    · subst hp
      exact h
    · by_cases hrest : rest = []
      · rw [hrest, List.append_nil]
        exact lookup_remove_self d p
      · rw [lookup_append _ hp hrest, lookup_remove_self]
        rfl
  · by_cases hq : q = []
    · rw [hq]
      rfl
    · have hnone : lookup d (q ++ rest) = none := by
        rw [lookup_append d hq hrest, h]
        rfl
      rw [remove_of_lookup hnone, h]

end Document
end DataGrid
