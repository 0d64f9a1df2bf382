import DataGrid.Document.Order
import DataGrid.Proofs.Document.Nesting
import DataGrid.Proofs.Keyed
import DataGrid.Proofs.Number.Binary64
import Mathlib.Data.List.Forall2
import Mathlib.Data.List.Perm.Subperm

/-!
# DataGrid.Proofs.Document.Sameness -- equality is an equivalence

Two values are the same when their kinds and contents are, lists item by item and documents key by
key, in whatever order the keys stand. Sameness always carries over from one value to the next. It
holds the other way around as well when keys are distinct, because then as many keys of which each
has a partner leave none without one; and a value is the same as itself unless not-a-number is
somewhere in it. Equality across the number kinds has the same laws.
-/

namespace DataGrid.Value

/-! ## Well-formed values -/

/-- Keys are distinct in every document of the value. -/
def WellKeyed : Value → Prop := Everywhere fun
  | .document fields | .codeWithScope _ fields => Keyed.DistinctKeys fields
  | _ => True

/-- No double in the value is not-a-number. -/
def FreeOfNaN : Value → Prop := Everywhere fun
  | .double x => x.isNaN = false
  | _ => True

theorem wellKeyed_document {fields : Document} : WellKeyed (.document fields) ↔
    Keyed.DistinctKeys fields ∧ ∀ field ∈ fields, WellKeyed field.2 :=
  everywhere_document

theorem wellKeyed_array {items : List Value} :
    WellKeyed (.array items) ↔ ∀ item ∈ items, WellKeyed item :=
  everywhere_array.trans (and_iff_right trivial)

theorem wellKeyed_ofEntries {entries : List (String × Value)}
    (h : ∀ entry ∈ entries, WellKeyed entry.2) : WellKeyed (.document (Keyed.ofEntries entries)) :=
  wellKeyed_document.mpr
    ⟨Keyed.distinctKeys_ofEntries entries, fun entry hentry => h entry (Keyed.mem_ofEntries hentry)⟩

/-! ## What sameness is -/

theorem sameItems_iff {xs ys : List Value} :
    sameItems xs ys = true ↔ List.Forall₂ (fun x y => same x y = true) xs ys := by
  induction xs generalizing ys with
  | nil => cases ys <;> simp [sameItems]
  | cons x xs ih => cases ys <;> simp [sameItems, ih]

/-- Fields of which each has its partner under the same key, and none is left over. -/
def SameNamed (xs ys : Document) : Prop :=
  xs.length = ys.length ∧
    ∀ field ∈ xs, ∃ y, Keyed.get? ys field.1 = some y ∧ same field.2 y = true

theorem sameNamed_iff {xs ys : Document} :
    (xs.length == ys.length && sameFields xs ys) = true ↔ SameNamed xs ys := by
  have hfields : sameFields xs ys = true ↔
      ∀ field ∈ xs, ∃ y, Keyed.get? ys field.1 = some y ∧ same field.2 y = true := by
    induction xs with
    | nil => simp [sameFields]
    | cons field rest ih =>
      rw [sameFields, Bool.and_eq_true_iff, ih, List.forall_mem_cons, Keyed.get?]
      cases List.lookup field.1 ys <;> simp
  rw [Bool.and_eq_true_iff, beq_iff_eq, hfields, SameNamed]

theorem same_array {xs ys : List Value} : same (.array xs) (.array ys) = true ↔
    List.Forall₂ (fun x y => same x y = true) xs ys :=
  sameItems_iff

theorem same_document {xs ys : Document} :
    same (.document xs) (.document ys) = true ↔ SameNamed xs ys :=
  sameNamed_iff

theorem same_codeWithScope {text text' : String} {xs ys : Document} :
    same (.codeWithScope text xs) (.codeWithScope text' ys) = true ↔
      text = text' ∧ SameNamed xs ys := by
  show (text == text' && xs.length == ys.length && sameFields xs ys) = true ↔ _
  rw [Bool.and_assoc, Bool.and_eq_true_iff, beq_iff_eq, sameNamed_iff]

/-- Values that are the same are of one kind; without parts, and but for doubles, they are one. -/
theorem same_cases {a b : Value} (h : same a b = true) :
    a = b ∧ a.children = [] ∨
    (∃ x y, a = .double x ∧ b = .double y ∧ x.equals y = true) ∨
    (∃ xs ys, a = .array xs ∧ b = .array ys ∧
      List.Forall₂ (fun x y => same x y = true) xs ys) ∨
    (∃ xs ys, a = .document xs ∧ b = .document ys ∧ SameNamed xs ys) ∨
    ∃ text xs ys, a = .codeWithScope text xs ∧ b = .codeWithScope text ys ∧ SameNamed xs ys := by
  unfold same at h
  split at h
  case h_8 => exact .inr (.inl ⟨_, _, rfl, rfl, h⟩)
  case h_13 =>
    rw [Bool.and_assoc, Bool.and_eq_true_iff, beq_iff_eq, sameNamed_iff] at h
    obtain ⟨rfl, hscopes⟩ := h
    exact .inr (.inr (.inr (.inr ⟨_, _, _, rfl, rfl, hscopes⟩)))
  case h_20 => exact .inr (.inr (.inl ⟨_, _, rfl, rfl, sameItems_iff.mp h⟩))
  case h_21 => exact .inr (.inr (.inr (.inl ⟨_, _, rfl, rfl, sameNamed_iff.mp h⟩)))
  all_goals
    simp_all [children]

/-! ## Fields and items in both directions -/

section Fields

variable {xs ys zs : Document}

theorem sameNamed_refl (distinct : Keyed.DistinctKeys xs)
    (h : ∀ field ∈ xs, same field.2 field.2 = true) : SameNamed xs xs :=
  ⟨rfl, fun field hfield => ⟨field.2, Keyed.get?_of_mem distinct hfield, h field hfield⟩⟩

theorem sameNamed_trans (hxy : SameNamed xs ys) (hyz : SameNamed ys zs)
    (h : ∀ field ∈ xs, ∀ y z, same field.2 y = true → same y z = true → same field.2 z = true) :
    SameNamed xs zs := by
  refine ⟨hxy.1.trans hyz.1, fun field hfield => ?_⟩
  obtain ⟨y, hy, hsame⟩ := hxy.2 field hfield
  obtain ⟨z, hz, hsame'⟩ := hyz.2 _ (Keyed.mem_of_get? hy)
  exact ⟨z, hz, h field hfield y z hsame hsame'⟩

/-- As many distinct keys that are all found are all the keys there are. -/
theorem perm_keys_of_sameNamed (h : SameNamed xs ys) (distinct : Keyed.DistinctKeys xs) :
    (Keyed.keys xs).Perm (Keyed.keys ys) := by
  have hsubset : Keyed.keys xs ⊆ Keyed.keys ys := by
    intro key hkey
    obtain ⟨field, hfield, rfl⟩ := List.mem_map.mp hkey
    obtain ⟨y, hy, -⟩ := h.2 field hfield
    exact List.mem_map.mpr ⟨_, Keyed.mem_of_get? hy, rfl⟩
  refine (List.subperm_of_subset distinct hsubset).perm_of_length_le ?_
  rw [Keyed.keys, Keyed.keys, List.length_map, List.length_map, h.1]

theorem sameNamed_symm (hxy : SameNamed xs ys) (distinct : Keyed.DistinctKeys xs)
    (distinct' : Keyed.DistinctKeys ys)
    (h : ∀ field ∈ xs, ∀ field' ∈ ys, same field.2 field'.2 = true →
      same field'.2 field.2 = true) : SameNamed ys xs := by
  refine ⟨hxy.1.symm, fun field' hfield' => ?_⟩
  have hkey : field'.1 ∈ Keyed.keys xs :=
    (perm_keys_of_sameNamed hxy distinct).mem_iff.mpr (List.mem_map_of_mem hfield')
  obtain ⟨field, hfield, hsame⟩ := List.mem_map.mp hkey
  obtain ⟨y, hy, hsamexy⟩ := hxy.2 field hfield
  -- under a key of the second fields there is nothing but the field itself
  rw [hsame, Keyed.get?_of_mem distinct' hfield'] at hy
  obtain rfl := Option.some.inj hy
  exact ⟨field.2, hsame ▸ Keyed.get?_of_mem distinct hfield, h field hfield field' hfield' hsamexy⟩

end Fields

section Items

variable {xs ys zs : List Value}

theorem sameItems_symm (hxy : List.Forall₂ (fun x y => same x y = true) xs ys)
    (h : ∀ x ∈ xs, ∀ y ∈ ys, same x y = true → same y x = true) :
    List.Forall₂ (fun x y => same x y = true) ys xs := by
  induction hxy with
  | nil => exact .nil
  | cons hsame _ ih =>
    exact .cons (h _ List.mem_cons_self _ List.mem_cons_self hsame)
      (ih fun x hx y hy => h x (List.mem_cons_of_mem _ hx) y (List.mem_cons_of_mem _ hy))

theorem sameItems_trans (hxy : List.Forall₂ (fun x y => same x y = true) xs ys)
    (hyz : List.Forall₂ (fun x y => same x y = true) ys zs)
    (h : ∀ x ∈ xs, ∀ y z, same x y = true → same y z = true → same x z = true) :
    List.Forall₂ (fun x y => same x y = true) xs zs := by
  induction hxy generalizing zs with
  | nil => exact hyz
  | cons hsame _ ih =>
    obtain _ | ⟨hsame', hrest⟩ := hyz
    exact .cons (h _ List.mem_cons_self _ _ hsame hsame')
      (ih hrest fun x hx => h x (List.mem_cons_of_mem _ hx))

end Items

/-! ## Sameness -/

theorem same_refl {v : Value} (wellKeyed : WellKeyed v) (numbers : FreeOfNaN v) :
    same v v = true := by
  induction v using nested_induction with
  | step v ih =>
    have hchildren : ∀ child ∈ v.children, same child child = true := fun child hchild =>
      ih child hchild (wellKeyed.child hchild) (numbers.child hchild)
    cases v with
    | double x => exact Binary64.equals_self numbers.self
    | array items => exact same_array.mpr (List.forall₂_same.mpr hchildren)
    | document fields =>
      exact same_document.mpr (sameNamed_refl wellKeyed.self (List.forall_mem_map.mp hchildren))
    | codeWithScope text scope =>
      exact same_codeWithScope.mpr
        ⟨rfl, sameNamed_refl wellKeyed.self (List.forall_mem_map.mp hchildren)⟩
    | _ => simp [same]

theorem same_symm {a b : Value} (ha : WellKeyed a) (hb : WellKeyed b) (h : same a b = true) :
    same b a = true := by
  induction a using nested_induction generalizing b with
  | step a ih =>
    have hparts : ∀ part ∈ a.children, ∀ part' ∈ b.children, same part part' = true →
        same part' part = true := fun part hpart part' hpart' =>
      ih part hpart (ha.child hpart) (hb.child hpart')
    rcases same_cases h with ⟨rfl, -⟩ | ⟨x, y, rfl, rfl, hxy⟩ | ⟨xs, ys, rfl, rfl, hxy⟩ |
      ⟨xs, ys, rfl, rfl, hxy⟩ | ⟨text, xs, ys, rfl, rfl, hxy⟩
    · exact h
    · exact Binary64.equals_symm hxy
    · exact same_array.mpr (sameItems_symm hxy hparts)
    · exact same_document.mpr (sameNamed_symm hxy ha.self hb.self fun field hfield field' hfield' =>
        hparts _ (List.mem_map_of_mem hfield) _ (List.mem_map_of_mem hfield'))
    · exact same_codeWithScope.mpr ⟨rfl, sameNamed_symm hxy ha.self hb.self
        fun field hfield field' hfield' =>
          hparts _ (List.mem_map_of_mem hfield) _ (List.mem_map_of_mem hfield')⟩

theorem same_trans {a b c : Value} (hab : same a b = true) (hbc : same b c = true) :
    same a c = true := by
  induction a using nested_induction generalizing b c with
  | step a ih =>
    have hparts : ∀ part ∈ a.children, ∀ y z, same part y = true → same y z = true →
        same part z = true := fun part hpart y z => ih part hpart
    rcases same_cases hab with ⟨rfl, -⟩ | ⟨x, y, rfl, rfl, hxy⟩ | ⟨xs, ys, rfl, rfl, hxy⟩ |
      ⟨xs, ys, rfl, rfl, hxy⟩ | ⟨text, xs, ys, rfl, rfl, hxy⟩
    · exact hbc
    all_goals
      rcases same_cases hbc with ⟨rfl, -⟩ | ⟨y', z, heq, rfl, hyz⟩ | ⟨ys', zs, heq, rfl, hyz⟩ |
        ⟨ys', zs, heq, rfl, hyz⟩ | ⟨text', ys', zs, heq, rfl, hyz⟩
      · exact hab
    all_goals cases heq
    · exact Binary64.equals_trans hxy hyz
    · exact same_array.mpr (sameItems_trans hxy hyz hparts)
    · exact same_document.mpr (sameNamed_trans hxy hyz fun field hfield =>
        hparts _ (List.mem_map_of_mem hfield))
    · exact same_codeWithScope.mpr ⟨rfl, sameNamed_trans hxy hyz fun field hfield =>
        hparts _ (List.mem_map_of_mem hfield)⟩

/-! ## Equality across the number kinds -/

/-- A number is the same as numbers only. -/
theorem numeric?_of_same {a b : Value} (h : same a b = true) :
    a.numeric?.isSome = b.numeric?.isSome := by
  rcases same_cases h with ⟨rfl, -⟩ | ⟨x, y, rfl, rfl, -⟩ | ⟨xs, ys, rfl, rfl, -⟩ |
    ⟨xs, ys, rfl, rfl, -⟩ | ⟨text, xs, ys, rfl, rfl, -⟩ <;> rfl

/-- Equal values are numbers of one rank, or the same and no numbers. -/
theorem equals_cases {a b : Value} : a.equals b = true ↔
    (∃ x y, a.numeric? = some x ∧ b.numeric? = some y ∧ x.equals y = true) ∨
    a.numeric? = none ∧ b.numeric? = none ∧ same a b = true := by
  have hapart : a.numeric?.isSome ≠ b.numeric?.isSome → same a b = false :=
    fun h => Bool.eq_false_iff.mpr fun hsame => h (numeric?_of_same hsame)
  unfold equals
  cases ha : a.numeric? with
  | some x =>
    cases hb : b.numeric? with
    | some y => simp
    | none => simp [hapart, ha, hb]
  | none =>
    cases hb : b.numeric? with
    | some y => simp [hapart, ha, hb]
    | none => simp

theorem isNaN_of_numeric? {v : Value} {x : Binary64} (numbers : FreeOfNaN v)
    (h : v.numeric? = some x) : x.isNaN = false := by
  cases v with
  | int32 n =>
    obtain rfl := Option.some.inj h
    exact Binary64.isNaN_ofInt _
  | int64 n =>
    obtain rfl := Option.some.inj h
    exact Binary64.isNaN_ofInt _
  | double y =>
    obtain rfl := Option.some.inj h
    exact numbers.self
  | _ => cases h

theorem equals_refl {v : Value} (wellKeyed : WellKeyed v) (numbers : FreeOfNaN v) :
    v.equals v = true := by
  rw [equals_cases]
  cases h : v.numeric? with
  | some x => exact .inl ⟨x, x, rfl, rfl, Binary64.equals_self (isNaN_of_numeric? numbers h)⟩
  | none => exact .inr ⟨rfl, rfl, same_refl wellKeyed numbers⟩

theorem equals_symm {a b : Value} (ha : WellKeyed a) (hb : WellKeyed b)
    (h : a.equals b = true) : b.equals a = true := by
  rw [equals_cases] at h ⊢
  rcases h with ⟨x, y, hx, hy, hxy⟩ | ⟨hx, hy, hsame⟩
  · exact .inl ⟨y, x, hy, hx, Binary64.equals_symm hxy⟩
  · exact .inr ⟨hy, hx, same_symm ha hb hsame⟩

theorem equals_trans {a b c : Value} (hab : a.equals b = true) (hbc : b.equals c = true) :
    a.equals c = true := by
  rw [equals_cases] at hab hbc ⊢
  rcases hab with ⟨x, y, hx, hy, hxy⟩ | ⟨hx, hy, hxy⟩
  · rcases hbc with ⟨y', z, hy', hz, hyz⟩ | ⟨hy', -, -⟩
    · rw [hy] at hy'
      obtain rfl := Option.some.inj hy'
      exact .inl ⟨x, z, hx, hz, Binary64.equals_trans hxy hyz⟩
    · rw [hy] at hy'
      cases hy'
  · rcases hbc with ⟨y', z, hy', -, -⟩ | ⟨-, hz, hyz⟩
    · rw [hy] at hy'
      cases hy'
    · exact .inr ⟨hx, hz, same_trans hxy hyz⟩

end DataGrid.Value
