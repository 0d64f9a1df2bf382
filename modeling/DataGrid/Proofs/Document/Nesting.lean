import DataGrid.Document.Value

/-!
# DataGrid.Proofs.Document.Nesting -- what a value is made of

A list is made of its items, a document of the values of its fields, and code with a scope of
the values in the scope; all other values are made of nothing. What holds of a value whenever it
holds of all that it is made of holds of every value. Something is within a value when it is the
value, or within one that the value is made of, and a property may be asked of all of that.
-/

namespace DataGrid.Value

/-- The values that a value is made of. -/
def children : Value → List Value
  | .array items => items
  | .document fields => Keyed.values fields
  | .codeWithScope _ scope => Keyed.values scope
  | _ => []

theorem mem_children_of_field {fields : Document} {field : String × Value}
    (h : field ∈ fields) : field.2 ∈ (Value.document fields).children :=
  List.mem_map_of_mem h

theorem sizeOf_lt_of_mem_values {fields : Document} {value : Value}
    (h : value ∈ Keyed.values fields) : sizeOf value < sizeOf fields := by
  obtain ⟨⟨key, found⟩, hmem, rfl⟩ := List.mem_map.mp h
  have hfield := List.sizeOf_lt_of_mem hmem
  simp only [Prod.mk.sizeOf_spec] at hfield
  show sizeOf found < sizeOf fields
  omega

theorem sizeOf_lt_of_mem_children {child v : Value} (h : child ∈ v.children) :
    sizeOf child < sizeOf v := by
  cases v with
  | array items =>
    have hitem := List.sizeOf_lt_of_mem (show child ∈ items from h)
    simp only [array.sizeOf_spec]
    omega
  | document fields =>
    have hfield := sizeOf_lt_of_mem_values h
    simp only [document.sizeOf_spec]
    omega
  | codeWithScope text scope =>
    have hfield := sizeOf_lt_of_mem_values h
    simp only [codeWithScope.sizeOf_spec]
    omega
  | _ => cases h

/-- Induction over what values are made of. -/
theorem nested_induction {motive : Value → Prop}
    (step : ∀ v, (∀ child ∈ v.children, motive child) → motive v) (v : Value) : motive v :=
  step v fun child _ => nested_induction step child
termination_by sizeOf v
decreasing_by exact sizeOf_lt_of_mem_children ‹_›

/-! ## Everywhere in a value -/

/-- The first value is somewhere in the second. -/
inductive Within : Value → Value → Prop
  | refl (v : Value) : Within v v
  | deeper {part child v : Value} : child ∈ v.children → Within part child → Within part v

/-- A property holds of the value and of all that is somewhere in it. -/
def Everywhere (property : Value → Prop) (v : Value) : Prop :=
  ∀ part, Within part v → property part

section Everywhere

variable {property : Value → Prop} {v : Value}

theorem Everywhere.self (h : Everywhere property v) : property v := h v (.refl v)

theorem Everywhere.child (h : Everywhere property v) {child : Value} (hchild : child ∈ v.children) :
    Everywhere property child :=
  fun part hpart => h part (.deeper hchild hpart)

theorem Everywhere.of_within (h : Everywhere property v) {part : Value} (hpart : Within part v) :
    Everywhere property part := by
  induction hpart with
  | refl => exact h
  | deeper hchild _ ih => exact ih (h.child hchild)

theorem everywhere_iff : Everywhere property v ↔
    property v ∧ ∀ child ∈ v.children, Everywhere property child := by
  constructor
  · exact fun h => ⟨h.self, fun child hchild => h.child hchild⟩
  · rintro ⟨hself, hchildren⟩ part hpart
    cases hpart with
    | refl => exact hself
    | deeper hchild hpart => exact hchildren _ hchild part hpart

@[simp] theorem everywhere_array {items : List Value} : Everywhere property (.array items) ↔
    property (.array items) ∧ ∀ item ∈ items, Everywhere property item :=
  everywhere_iff

@[simp] theorem everywhere_document {fields : Document} :
    Everywhere property (.document fields) ↔
      property (.document fields) ∧ ∀ field ∈ fields, Everywhere property field.2 := by
  rw [everywhere_iff, children, Keyed.values, List.forall_mem_map]

theorem everywhere_scalar (h : v.children = []) : Everywhere property v ↔ property v := by
  rw [everywhere_iff, h]
  exact and_iff_left (by simp)

end Everywhere

end DataGrid.Value
