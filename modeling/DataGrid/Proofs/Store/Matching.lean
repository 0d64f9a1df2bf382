import DataGrid.Compile.Search
import DataGrid.Proofs.Fallible
import DataGrid.Store.Matcher

/-!
# DataGrid.Proofs.Store.Matching -- the filters that a compiler writes

The filters that requests compile into are conjunctions and disjunctions of clauses on one
field. A conjunction is evaluated like `allM` and a disjunction like `anyM`, failures
included, and a clause on one field looks at the document through that field alone.
-/

namespace DataGrid.Store.Matcher

open Fallible

variable {index : TextIndex} {d : Document}

/-! ## Filters of one clause -/

@[simp] theorem filter_nil (index : TextIndex) (d : Document) : filter index d [] = .ok true := by
  rw [filter]

theorem filter_single (index : TextIndex) (d : Document) (key : String) (spec : Value) :
    filter index d [(key, spec)] = clause index d key spec := by
  rw [filter, filter_nil]
  rcases clause index d key spec with e | _ | _ <;> rfl

/-! ## Clauses on one field -/

/-- A field whose name is no operator is looked up, and its condition sees that value alone. -/
theorem filter_field {field : String} (h : startsWithDollar field = false) (spec : Value) :
    filter index d [(field, spec)] = condition (d.lookupText field) spec := by
  rw [filter_single, clause]
  · rw [if_neg (by simp [h])]
  all_goals
    rintro rfl
    cases h

theorem condition_operator {actual : Option Value} {name : String}
    (h : startsWithDollar name = true) (operand : Value) :
    condition actual (.document [(name, operand)]) =
      operator actual [(name, operand)] name operand := by
  rw [condition, isOperatorDocument, if_pos h, operators, operators]
  rcases operator actual [(name, operand)] name operand with e | _ | _ <;> rfl

/-- Two operators in one document are asked one after the other. -/
theorem condition_pair {actual : Option Value} {name : String}
    (h : startsWithDollar name = true) (operand : Value) (second : String × Value) :
    let spec := [(name, operand), second]
    condition actual (.document spec) = (operator actual spec name operand >>= fun holds =>
      if holds then operator actual spec second.1 second.2 else .ok false) := by
  intro spec
  rw [condition, isOperatorDocument, if_pos h, operators]
  refine bind_congr fun holds => ?_
  cases holds with
  | false => rfl
  | true =>
    rw [if_pos rfl, if_pos rfl, operators, operators]
    rcases operator actual spec second.1 second.2 with e | _ | _ <;> rfl

theorem filter_compare {field name : String} (hfield : startsWithDollar field = false)
    (hname : startsWithDollar name = true) (value : Value) :
    filter index d (Compile.compare field name value) =
      operator (d.lookupText field) [(name, value)] name value := by
  rw [Compile.compare, filter_field hfield, condition_operator hname]

theorem filter_eq {field : String} (h : startsWithDollar field = false) (value : Value) :
    filter index d (Compile.compare field "$eq" value) =
      .ok (equals (d.lookupText field) value) := by
  rw [filter_compare h rfl, operator]

theorem filter_ne {field : String} (h : startsWithDollar field = false) (value : Value) :
    filter index d (Compile.compare field "$ne" value) =
      .ok (!equals (d.lookupText field) value) := by
  rw [filter_compare h rfl, operator]

theorem filter_in {field : String} (h : startsWithDollar field = false)
    (candidates : List Value) :
    filter index d (Compile.compare field "$in" (.array candidates)) =
      inList (d.lookupText field) candidates := by
  rw [filter_compare h rfl, operator, inOperand]

theorem filter_nin {field : String} (h : startsWithDollar field = false)
    (candidates : List Value) :
    filter index d (Compile.compare field "$nin" (.array candidates)) =
      (inList (d.lookupText field) candidates).map not := by
  rw [filter_compare h rfl, operator, inOperand]

/-! ## Conjunctions and disjunctions -/

theorem allDocuments_map (filters : List Document) :
    allDocuments (filters.map .document) = true := by
  simp [allDocuments, Value.document?]

theorem allHold_map (filters : List Document) :
    allHold index d (filters.map .document) = filters.allM (filter index d) := by
  induction filters with
  | nil => rw [List.map_nil, allHold]; rfl; simp
  | cons first rest ih =>
    rw [List.map_cons, allHold, ih, allM_cons]
    rfl

theorem anyHolds_map (filters : List Document) :
    anyHolds index d (filters.map .document) = filters.anyM (filter index d) := by
  induction filters with
  | nil => rw [List.map_nil, anyHolds]; rfl; simp
  | cons first rest ih =>
    rw [List.map_cons, anyHolds, ih, anyM_cons]
    rfl

theorem filter_and (index : TextIndex) (d : Document) (filters : List Document) :
    filter index d (Compile.combine "$and" filters) = filters.allM (filter index d) := by
  rw [Compile.combine, filter_single, clause, clauses, allDocuments_map, ← allHold_map]
  rfl

theorem filter_or (index : TextIndex) (d : Document) (filters : List Document) :
    filter index d (Compile.combine "$or" filters) = filters.anyM (filter index d) := by
  rw [Compile.combine, filter_single, clause, clauses, allDocuments_map, ← anyHolds_map]
  rfl

end DataGrid.Store.Matcher
