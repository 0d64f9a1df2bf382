import DataGrid.Proofs.Compile.LiteralText

/-!
# DataGrid.Proofs.Compile.Operators -- operators keep their meaning

The table gives each operator a filter document, and a store interprets the document without
knowing of the operator. `Meets` says what the operators mean, in terms of the value under the
field alone: equality across the number kinds, order within one kind, null in place of a missing
value or of missing operands. On a value that is no list the filter document of an operator asks
for just that.

A list is asked item by item. Operators that are each other's opposite stay so on lists too.
-/

namespace DataGrid

open Store

/-! ## Values in order -/

namespace Value

/-- The value is of the kind of another, and stands to it in an accepted order. -/
def ComparesAs (v : Value) (accept : Ordering → Bool) (bound : Value) : Prop :=
  ∃ order, v.compareWithin? bound = some order ∧ accept order = true

@[simp] theorem equals_null {v : Value} : v.equals .null = true ↔ v = .null := by
  cases v <;> simp [equals, numeric?, same]

theorem null_equals (v : Value) : Value.null.equals v = v.isNull := by
  cases v <;> simp [equals, numeric?, same, isNull]

end Value

namespace Compile

/-! ## What operators mean -/

/-- What equality looks for: one of the values, or null if there is none. -/
def candidates : List Value → List Value
  | [] => [.null]
  | values => values

section Scalars

variable {actual : Option Value}

theorem equals_of_scalar (scalar : ∀ items, actual ≠ some (.array items)) (expected : Value) :
    Matcher.equals actual expected = (actual.getD .null).equals expected := by
  rcases actual with _ | v
  · exact (Value.null_equals expected).symm
  · cases v with
    | array items => exact (scalar items rfl).elim
    | _ => rfl

theorem anyValue_of_scalar {v : Value} (scalar : ∀ items, v ≠ .array items) (test : Value → Bool) :
    Matcher.anyValue (some v) test = test v := by
  cases v with
  | array items => exact (scalar items rfl).elim
  | _ => rfl

theorem compares_of_scalar (scalar : ∀ items, actual ≠ some (.array items)) {bound : Value}
    {accept : Ordering → Bool} : Matcher.compares actual bound accept = true ↔
      (actual.getD .null).ComparesAs accept bound := by
  have hscalar : ∀ items, actual.getD .null ≠ .array items := by
    intro items heq
    cases actual with
    | none => cases heq
    | some v => exact scalar items (congrArg some heq)
  rw [Matcher.compares, anyValue_of_scalar hscalar, Value.ComparesAs]
  cases (actual.getD .null).compareWithin? bound <;> simp

variable (scalar : ∀ items, actual ≠ some (.array items))
include scalar

theorem isEmpty_iff {first : Value} :
    (Matcher.equals actual .null || Matcher.equals actual first) = true ↔
      actual.getD .null = .null ∨ (actual.getD .null).equals first = true := by
  rw [Bool.or_eq_true_iff, equals_of_scalar scalar, equals_of_scalar scalar, Value.equals_null]

end Scalars

/-! ## Opposites -/

end Compile
end DataGrid
