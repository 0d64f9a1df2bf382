import DataGrid.Document.Value
import Mathlib.Data.List.Perm.Basic

/-!
# DataGrid.Proofs.Document.Routes -- ways into a value

A key leads from a document to the value of a field, and a position from a list to an item. A
route is a list of such steps. No step leads into a scalar, and none into the scope of code, which
is part of the code and not of the document around it. A value names a key when a route ends at a
field with that key; which text or other value is found on the way, or at the end, does not matter.
Nor does the order of fields and of items, at whatever depth.
-/

namespace DataGrid.Value

variable {key : String}

/-! ## Routes -/

/-- A step into a value. -/
inductive Step where
  /-- To the value of a field with the key. -/
  | key (name : String)
  /-- To the item at the position. -/
  | position (index : Nat)
deriving DecidableEq

/-- A route leads from one value to another. A field is any that has the key, whether or not the
keys of the document are distinct. -/
inductive Leads : Value → List Step → Value → Prop
  | here (v : Value) : Leads v [] v
  | field {fields : Document} {name : String} {v target : Value} {route : List Step} :
      (name, v) ∈ fields → Leads v route target →
        Leads (.document fields) (.key name :: route) target
  | item {items : List Value} {index : Nat} {v target : Value} {route : List Step} :
      items[index]? = some v → Leads v route target →
      Leads (.array items) (.position index :: route) target

/-- A route from the value ends at a field with the key. -/
def Names (v : Value) (key : String) : Prop :=
  ∃ route target, Leads v (route ++ [.key key]) target

theorem names_document {fields : Document} :
    (Value.document fields).Names key ↔ ∃ field ∈ fields, field.1 = key ∨ field.2.Names key := by
  constructor
  · rintro ⟨route, target, h⟩
    cases route with
    | nil =>
      cases h with
      | field hmem _ => exact ⟨_, hmem, .inl rfl⟩
    | cons step route =>
      cases h with
      | field hmem h => exact ⟨_, hmem, .inr ⟨route, target, h⟩⟩
  · rintro ⟨⟨name, v⟩, hmem, rfl | ⟨route, target, h⟩⟩
    · exact ⟨[], v, .field hmem (.here v)⟩
    · exact ⟨.key name :: route, target, .field hmem h⟩

theorem names_array {items : List Value} :
    (Value.array items).Names key ↔ ∃ item ∈ items, item.Names key := by
  constructor
  · rintro ⟨route, target, h⟩
    cases route with
    | nil => cases h
    | cons step route =>
      cases h with
      | item hitem h => exact ⟨_, List.mem_of_getElem? hitem, route, target, h⟩
  · rintro ⟨item, hmem, route, target, h⟩
    obtain ⟨index, hindex⟩ := List.mem_iff_getElem?.mp hmem
    exact ⟨.position index :: route, target, .item hindex h⟩

/-- Only documents and lists name a key. -/
theorem Names.cases {v : Value} (h : v.Names key) :
    (∃ fields, v = .document fields) ∨ ∃ items, v = .array items := by
  obtain ⟨route, target, h⟩ := h
  cases route with
  | nil => cases h with
    | field => exact .inl ⟨_, rfl⟩
  | cons step route => cases h with
    | field => exact .inl ⟨_, rfl⟩
    | item => exact .inr ⟨_, rfl⟩

/-! ## Order -/

/-- The same value with the fields of documents and the items of lists in another order, at any
depth. -/
inductive Reordered : Value → Value → Prop
  | refl (v : Value) : Reordered v v
  | trans {u v w : Value} : Reordered u v → Reordered v w → Reordered u w
  | fields {fields others : Document} :
      fields.Perm others → Reordered (.document fields) (.document others)
  | items {items others : List Value} :
      items.Perm others → Reordered (.array items) (.array others)
  | inField (before after : Document) (name : String) {v w : Value} : Reordered v w →
      Reordered (.document (before ++ (name, v) :: after))
        (.document (before ++ (name, w) :: after))
  | inItem (before after : List Value) {v w : Value} : Reordered v w →
      Reordered (.array (before ++ v :: after)) (.array (before ++ w :: after))
  | inScope (text : String) {scope others : Document} :
      Reordered (.document scope) (.document others) →
      Reordered (.codeWithScope text scope) (.codeWithScope text others)

theorem Reordered.names_iff {v w : Value} (h : Reordered v w) : v.Names key ↔ w.Names key := by
  induction h with
  | refl v => exact Iff.rfl
  | trans _ _ ih ih' => exact ih.trans ih'
  | fields hperm => simp only [names_document, hperm.mem_iff]
  | items hperm => simp only [names_array, hperm.mem_iff]
  | inField before after name _ ih =>
    simp only [names_document, List.mem_append, List.mem_cons, or_and_right, exists_or,
      exists_eq_left, ih]
  | inItem before after _ ih =>
    simp only [names_array, List.mem_append, List.mem_cons, or_and_right, exists_or,
      exists_eq_left, ih]
  | inScope text _ _ =>
    -- nothing of a scope is on a route
    refine iff_of_false (fun h => ?_) fun h => ?_
    · rcases h.cases with ⟨_, h⟩ | ⟨_, h⟩ <;> cases h
    · rcases h.cases with ⟨_, h⟩ | ⟨_, h⟩ <;> cases h

end DataGrid.Value
