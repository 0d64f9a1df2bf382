import DataGrid.Proofs.Document.RoundTrip
import DataGrid.Request.OfJson
import DataGrid.Request.ToJson

/-!
# DataGrid.Proofs.Request.RoundTrip -- requests are read back

A request that was read from a text whose condition values and native query are plain is written
as a text from which the same request is read. It holds two facts together. What is read keeps the
rules that writing relies on: values are plain and do not nest too deeply, and an operator is the
one of its name. And whatever keeps these rules is read back, part by part, a part that is left
out being the same as one that is missing.
-/

namespace DataGrid

open Json (orDefault orNull)

/-! ## Structures -/

namespace Json

section Lists

variable {α : Type} {read : Json → Option α}

/-- What a list of parts is read as was read from one of the parts. -/
theorem exists_of_listOf? {j : Json} {xs : List α} (h : listOf? read j = some xs) :
    ∃ items, j.list? = some items ∧ ∀ x ∈ xs, ∃ item ∈ items, read item = some x := by
  obtain ⟨items, hitems, hread⟩ := Option.bind_eq_some_iff.mp h
  refine ⟨items, hitems, ?_⟩
  clear h hitems
  induction items generalizing xs with
  | nil =>
    cases hread
    exact fun x hx => absurd hx List.not_mem_nil
  | cons item rest ih =>
    rw [List.mapM_cons] at hread
    obtain ⟨first, hfirst, hread⟩ := Option.bind_eq_some_iff.mp hread
    obtain ⟨others, hothers, hread⟩ := Option.bind_eq_some_iff.mp hread
    cases hread
    intro x hx
    rcases List.mem_cons.mp hx with rfl | hx
    · exact ⟨item, List.mem_cons_self, hfirst⟩
    · obtain ⟨other, hmem, hread⟩ := ih hothers x hx
      exact ⟨other, List.mem_cons_of_mem _ hmem, hread⟩

/-- A list is read back when each of its parts is. -/
theorem listOf?_map {write : α → Json} {xs : List α} (h : ∀ x ∈ xs, read (write x) = some x) :
    listOf? read (.list (xs.map write)) = some xs := by
  show (xs.map write).mapM read = some xs
  induction xs with
  | nil => rfl
  | cons x rest ih =>
    obtain ⟨hx, hrest⟩ := List.forall_mem_cons.mp h
    rw [List.map_cons, List.mapM_cons, hx, ih hrest]
    rfl

end Lists

/-- The fields of a written object go by their names. -/
theorem fields?_written (entries : List (String × Json)) :
    (Json.object (entries.map fun entry => field entry.1 entry.2)).fields? = some entries := by
  show List.mapM _ _ = some entries
  induction entries with
  | nil => rfl
  | cons entry rest ih =>
    rw [List.map_cons, List.mapM_cons, ih]
    show ((Quoted.decode? (Quoted.encode entry.1.toList)).map _).bind _ = _
    rw [Quoted.decode?_encode, Option.map_some, String.ofList_toList]
    rfl

/-- The parts of a written object are looked up among its entries. -/
theorem parts?_written (names : List (List String)) (entries : List (String × Json)) :
    (Json.object (entries.map fun entry => field entry.1 entry.2)).parts? names =
      names.mapM fun alike =>
        match entries.filter fun entry => alike.contains entry.1 with
        | [] => some none
        | [(_, value)] => some (some value)
        | _ => none := by
  show (Json.fields? _).bind _ = _
  rw [fields?_written]
  rfl

theorem fieldsReadable_append {before after : List (List Char × Json)}
    (hbefore : FieldsReadable before) (hafter : FieldsReadable after) :
    FieldsReadable (before ++ after) := by
  induction before with
  | nil => exact hafter
  | cons field rest ih => exact ⟨hbefore.1, hbefore.2.1, ih hbefore.2.2⟩

theorem fieldsReadable_optionalField (name : String) {value : Option Json}
    (h : ∀ j, value = some j → j.Readable) : FieldsReadable (optionalField name value) := by
  cases value with
  | none => trivial
  | some j => exact ⟨isQuoted_encode name.toList, h j rfl, trivial⟩

/-- What is not null was read. -/
theorem read_of_orNull {α : Type} {read : Json → Option α} {j : Json} {x : α}
    (h : orNull read j = some (some x)) : read j = some x := by
  unfold orNull at h
  split at h
  · cases h
  · obtain ⟨_, hread, hx⟩ := Option.map_eq_some_iff.mp h
    cases hx
    exact hread

theorem orNull_ofText? (text : Option String) : orNull text? (ofText? text) = some text := by
  cases text with
  | none => rfl
  | some text =>
    show (text? (ofText text)).map some = _
    rw [text?_ofText]
    rfl

theorem readable_ofText? (text : Option String) : (ofText? text).Readable := by
  cases text with
  | none => trivial
  | some text => exact readable_ofText text

theorem natural?_ofNat (n : UInt64) : natural? (ofNat n.toNat) = some n := by
  rw [natural?, number?_ofNat n.toNat_lt]
  exact congrArg some (UInt64.ofNat_toNat)

end Json

/-! ## The parts that hold values -/

/-- The value of a condition that is given as a tree, if it has one. -/
def Condition.valuePart? (j : Json) : Option Json :=
  match j.parts? [["column"], ["operator"], ["value"]] with
  | some [_, _, value] => value
  | _ => none

/-- The values of all conditions in groups that are given as a tree. -/
def OrGroup.valueParts (j : Json) : List Json :=
  (j.list?.getD []).flatMap fun group => (group.list?.getD []).filterMap Condition.valuePart?

/-- The values of all conditions of a request that is given as a tree, and its native query. -/
def Request.valueParts (j : Json) : List Json :=
  match j.parts? fieldNames with
  | some [filter, additionalFilters, _, _, _, _, nativeQuery] =>
    (filter.toList ++ additionalFilters.toList).flatMap OrGroup.valueParts ++ nativeQuery.toList
  | _ => []

/-- The values of the conditions and the native query of a request text are plain. -/
def Request.hasPlainValues (text : String) : Bool :=
  (Json.read? text).all fun j => (valueParts j).all Json.isPlain

/-! ## Conditions -/

namespace Condition

/-- A condition that can be written and read back. -/
structure IsPlain (c : Condition) : Prop where
  operator : ∀ operator, c.operator = some operator → Operator.ofName operator.name = operator
  value : ∀ v, c.value = some v → v.IsPlain
  depth : ∀ v, c.value = some v → v.toJson.depth + depthAround ≤ Request.depthLimit

theorem isPlain_ofJson? {j : Json} {c : Condition} (h : ofJson? j = some c)
    (plain : ∀ part, valuePart? j = some part → part.isPlain = true) : c.IsPlain := by
  unfold ofJson? at h
  unfold valuePart? at plain
  split at h
  · next column operator value hparts =>
    simp only [hparts] at plain
    obtain ⟨columnName, -, h⟩ := Option.bind_eq_some_iff.mp h
    obtain ⟨operatorName, -, h⟩ := Option.bind_eq_some_iff.mp h
    obtain ⟨v, hvalue, h⟩ := Option.bind_eq_some_iff.mp h
    cases h
    have hkept : ∀ kept, v = some kept →
        kept.IsPlain ∧ kept.toJson.depth + depthAround ≤ Request.depthLimit := by
      rintro kept rfl
      cases value with
      | none => cases hvalue
      | some part =>
        obtain ⟨_, hread, hkept⟩ := Option.map_eq_some_iff.mp hvalue
        cases hkept
        unfold value? at hread
        split at hread
        · next hlimit =>
          obtain ⟨hplain, hdepth⟩ := Value.isPlain_ofJson? part hread (plain part rfl)
          exact ⟨hplain, Nat.le_trans (Nat.add_le_add_right hdepth _) hlimit⟩
        · cases hread
    refine ⟨?_, fun kept hv => (hkept kept hv).1, fun kept hv => (hkept kept hv).2⟩
    -- an operator that was read is the one of its name, known or not
    intro operator hoperator
    obtain ⟨name, -, rfl⟩ := Option.map_eq_some_iff.mp hoperator
    rw [Operator.name_ofName]
  · cases h

theorem parts?_toJson (c : Condition) :
    c.toJson.parts? [["column"], ["operator"], ["value"]] =
      some [c.column.map Json.ofText, c.operator.map fun operator => Json.ofText operator.name,
        c.value.map Value.toJson] := by
  obtain ⟨column, operator, value⟩ := c
  have hentry : ∀ (name : String) (part : Option Json), Json.optionalField name part =
      (part.map (Prod.mk name)).toList.map fun entry => Json.field entry.1 entry.2 := by
    intro name part
    cases part <;> rfl
  rw [toJson, hentry, hentry, hentry, ← List.map_append, ← List.map_append, Json.parts?_written]
  cases column <;> cases operator <;> cases value <;> rfl

/-- A condition is read back from its tree. -/
theorem ofJson?_toJson {c : Condition} (plain : c.IsPlain) : ofJson? c.toJson = some c := by
  have hparts := parts?_toJson c
  obtain ⟨column, operator, value⟩ := c
  have hcolumn : orDefault none (orNull Json.text?) (column.map Json.ofText) = some column := by
    cases column with
    | none => rfl
    | some name => exact Json.orNull_ofText? (some name)
  have hoperator : orDefault none (orNull Json.text?)
      (operator.map fun operator => Json.ofText operator.name) =
        some (operator.map Operator.name) := by
    cases operator with
    | none => rfl
    | some operator => exact Json.orNull_ofText? (some operator.name)
  have hnamed : (operator.map Operator.name).map Operator.ofName = operator := by
    cases operator with
    | none => rfl
    | some operator => exact congrArg some (plain.operator operator rfl)
  have hvalue : orDefault none (fun j => (value? j).map some) (value.map Value.toJson) =
      some value := by
    cases value with
    | none => rfl
    | some v =>
      show (value? v.toJson).map some = _
      rw [value?, if_pos (plain.depth v rfl), Value.ofJson?_toJson v (plain.value v rfl)]
      rfl
  unfold ofJson?
  simp only [hparts, hcolumn, hoperator, hvalue]
  show some (Condition.mk column _ value) = _
  rw [hnamed]

theorem readable_toJson (c : Condition) : c.toJson.Readable := by
  refine Json.fieldsReadable_append (Json.fieldsReadable_append ?_ ?_) ?_
  · refine Json.fieldsReadable_optionalField "column" ?_
    rintro j hj
    obtain ⟨name, -, rfl⟩ := Option.map_eq_some_iff.mp hj
    exact Json.readable_ofText name
  · refine Json.fieldsReadable_optionalField "operator" ?_
    rintro j hj
    obtain ⟨operator, -, rfl⟩ := Option.map_eq_some_iff.mp hj
    exact Json.readable_ofText operator.name
  · refine Json.fieldsReadable_optionalField "value" ?_
    rintro j hj
    obtain ⟨v, hv, rfl⟩ := Option.map_eq_some_iff.mp hj
    exact v.readable_toJson

end Condition

/-! ## Groups -/

namespace OrGroup

/-- Groups all of whose conditions can be written and read back. -/
def ListIsPlain (groups : List OrGroup) : Prop := ∀ group ∈ groups, ∀ c ∈ group, c.IsPlain

theorem isPlain_listOfJson? {j : Json} {groups : List OrGroup} (h : listOfJson? j = some groups)
    (plain : ∀ part ∈ valueParts j, part.isPlain = true) : ListIsPlain groups := by
  obtain ⟨items, hitems, hgroups⟩ := Json.exists_of_listOf? h
  intro group hgroup c hc
  obtain ⟨item, hitem, hread⟩ := hgroups group hgroup
  obtain ⟨conditions, hconditions, hread⟩ := Json.exists_of_listOf? hread
  obtain ⟨condition, hcondition, hc⟩ := hread c hc
  refine Condition.isPlain_ofJson? hc fun part hpart => plain part ?_
  rw [valueParts, hitems]
  refine List.mem_flatMap.mpr ⟨item, hitem, ?_⟩
  rw [hconditions]
  exact List.mem_filterMap.mpr ⟨condition, hcondition, hpart⟩

/-- Groups that may be missing. -/
theorem isPlain_orDefault {part? : Option Json} {groups : List OrGroup}
    (h : orDefault [] listOfJson? part? = some groups)
    (plain : ∀ j, part? = some j → ∀ part ∈ valueParts j, part.isPlain = true) :
    ListIsPlain groups := by
  cases part? with
  | none =>
    cases h
    exact fun group hgroup => absurd hgroup List.not_mem_nil
  | some j => exact isPlain_listOfJson? h (plain j rfl)

/-- Groups are read back from their tree. -/
theorem listOfJson?_listToJson {groups : List OrGroup} (plain : ListIsPlain groups) :
    listOfJson? (listToJson groups) = some groups :=
  Json.listOf?_map fun group hgroup =>
    Json.listOf?_map fun c hc => Condition.ofJson?_toJson (plain group hgroup c hc)

theorem readable_listToJson (groups : List OrGroup) : (listToJson groups).Readable :=
  Json.readable_list_map fun _ _ => Json.readable_list_map fun c _ => c.readable_toJson

end OrGroup

/-! ## Sortations -/

namespace Sortation

/-- Every sortation is read back from its tree. -/
theorem ofJson?_toJson (s : Sortation) : ofJson? s.toJson = some s := by
  have hparts : s.toJson.parts? [["column"], ["direction"]] =
      some [some (Json.ofText s.column), some (Json.ofText s.direction.name)] :=
    Json.parts?_written [["column"], ["direction"]]
      [("column", Json.ofText s.column), ("direction", Json.ofText s.direction.name)]
  have hdirection : orDefault .ascending direction? (some (Json.ofText s.direction.name)) =
      some s.direction := by
    show (Json.text? _).map _ = _
    rw [Json.text?_ofText, Option.map_some, Direction.ofText_name]
  unfold ofJson?
  simp only [hparts, Json.text?_ofText, hdirection]
  rfl

theorem listOfJson?_listToJson (sortations : List Sortation) :
    listOfJson? (listToJson sortations) = some sortations :=
  Json.listOf?_map fun s _ => ofJson?_toJson s

theorem readable_listToJson (sortations : List Sortation) : (listToJson sortations).Readable :=
  Json.readable_list_map fun s _ =>
    ⟨Json.isQuoted_encode _, Json.readable_ofText s.column, Json.isQuoted_encode _,
      Json.readable_ofText s.direction.name, trivial⟩

end Sortation

/-! ## Requests -/

namespace Request

/-- A request that can be written and read back. -/
structure IsPlain (r : Request) : Prop where
  filter : OrGroup.ListIsPlain r.filter
  additionalFilters : OrGroup.ListIsPlain r.additionalFilters
  nativeQuery : ∀ d, r.nativeQuery = some d → (Value.document d).IsPlain
  depth : ∀ d, r.nativeQuery = some d → d.toJson.depth + 1 ≤ depthLimit

/-- The document of a plain native query is plain and nests no deeper. -/
theorem isPlain_nativeQuery? {j : Json} {d : Document} (h : nativeQuery? j = some d)
    (plain : j.isPlain = true) :
    (Value.document d).IsPlain ∧ d.toJson.depth + 1 ≤ depthLimit := by
  unfold nativeQuery? at h
  split at h
  · next hlimit =>
    obtain ⟨v, hread, hd⟩ := Option.bind_eq_some_iff.mp h
    obtain ⟨hplain, hdepth⟩ := Value.isPlain_ofJson? j hread plain
    cases v with
    | document fields =>
      cases hd
      exact ⟨hplain, Nat.le_trans (Nat.add_le_add_right hdepth _) hlimit⟩
    | _ => cases hd
  · cases h

theorem isPlain_ofJson? {j : Json} {r : Request} (h : ofJson? j = some r)
    (plain : ∀ part ∈ valueParts j, part.isPlain = true) : r.IsPlain := by
  unfold ofJson? at h
  unfold valueParts at plain
  split at h
  · next filter additionalFilters orderBy search page itemsPerPage nativeQuery hparts =>
    simp only [hparts, List.mem_append, List.mem_flatMap, Option.mem_toList] at plain
    obtain ⟨filters, hfilter, h⟩ := Option.bind_eq_some_iff.mp h
    obtain ⟨additional, hadditional, h⟩ := Option.bind_eq_some_iff.mp h
    obtain ⟨sortations, -, h⟩ := Option.bind_eq_some_iff.mp h
    obtain ⟨term, -, h⟩ := Option.bind_eq_some_iff.mp h
    obtain ⟨number, -, h⟩ := Option.bind_eq_some_iff.mp h
    obtain ⟨size, -, h⟩ := Option.bind_eq_some_iff.mp h
    obtain ⟨query, hquery, h⟩ := Option.bind_eq_some_iff.mp h
    cases h
    have hnative : ∀ d, query = some d →
        (Value.document d).IsPlain ∧ d.toJson.depth + 1 ≤ depthLimit := by
      rintro d rfl
      cases nativeQuery with
      | none => cases hquery
      | some part =>
        exact isPlain_nativeQuery? (Json.read_of_orNull hquery) (plain part (.inr rfl))
    exact {
      filter := OrGroup.isPlain_orDefault hfilter fun j hj part hpart =>
        plain part (.inl ⟨j, .inl hj, hpart⟩)
      additionalFilters := OrGroup.isPlain_orDefault hadditional fun j hj part hpart =>
        plain part (.inl ⟨j, .inr hj, hpart⟩)
      nativeQuery := fun d hd => (hnative d hd).1
      depth := fun d hd => (hnative d hd).2 }
  · cases h

theorem parts?_toJson (r : Request) : r.toJson.parts? fieldNames =
    some [some (OrGroup.listToJson r.filter), some (OrGroup.listToJson r.additionalFilters),
      some (Sortation.listToJson r.orderBy), some (Json.ofText? r.search),
      some (Json.ofNat r.page.toNat), some (Json.ofNat r.itemsPerPage.toNat),
      r.nativeQuery.map Document.toJson] := by
  obtain ⟨filter, additionalFilters, orderBy, search, page, itemsPerPage, nativeQuery⟩ := r
  have hwritten := Json.parts?_written fieldNames
    ([("filter", OrGroup.listToJson filter),
      ("additionalFilters", OrGroup.listToJson additionalFilters),
      ("sorter", Sortation.listToJson orderBy), ("search", Json.ofText? search),
      ("page", Json.ofNat page.toNat), ("itemsPerPage", Json.ofNat itemsPerPage.toNat)] ++
      (nativeQuery.map fun d => ("nativeQuery", d.toJson)).toList)
  cases nativeQuery <;> exact hwritten.trans rfl

/-- A request is read back from its tree. -/
theorem ofJson?_toJson {r : Request} (plain : r.IsPlain) : ofJson? r.toJson = some r := by
  have hparts := parts?_toJson r
  have hnative : orDefault default.nativeQuery (orNull nativeQuery?)
      (r.nativeQuery.map Document.toJson) = some r.nativeQuery := by
    cases hquery : r.nativeQuery with
    | none => rfl
    | some d =>
      show (nativeQuery? d.toJson).map some = _
      rw [nativeQuery?, if_pos (plain.depth d hquery),
        Document.ofJson?_toJson (plain.nativeQuery d hquery)]
      rfl
  unfold ofJson?
  simp only [hparts, orDefault, OrGroup.listOfJson?_listToJson plain.filter,
    OrGroup.listOfJson?_listToJson plain.additionalFilters, Sortation.listOfJson?_listToJson,
    Json.orNull_ofText?, Json.natural?_ofNat]
  show (orDefault default.nativeQuery _ _).bind _ = _
  rw [hnative]
  rfl

theorem readable_toJson (r : Request) : r.toJson.Readable := by
  refine Json.fieldsReadable_append ?_ (Json.fieldsReadable_optionalField "nativeQuery" ?_)
  · have hquoted (name : String) : Json.IsQuoted (Json.Quoted.encode name.toList) :=
      Json.isQuoted_encode name.toList
    exact ⟨hquoted "filter", OrGroup.readable_listToJson r.filter,
      hquoted "additionalFilters", OrGroup.readable_listToJson r.additionalFilters,
      hquoted "sorter", Sortation.readable_listToJson r.orderBy,
      hquoted "search", Json.readable_ofText? r.search,
      hquoted "page", Json.readable_ofNat r.page.toNat,
      hquoted "itemsPerPage", Json.readable_ofNat r.itemsPerPage.toNat, trivial⟩
  · rintro j hj
    obtain ⟨d, hd, rfl⟩ := Option.map_eq_some_iff.mp hj
    exact Value.readable_toJson (.document d)

/-- A request that was read from a text with plain values is read again from its own text. -/
theorem text_read_back {text : String} {r : Request} (h : ofText? text = some r)
    (plain : hasPlainValues text = true) : ofText? r.toJson.toText = some r := by
  obtain ⟨j, hj, hr⟩ := Option.bind_eq_some_iff.mp h
  rw [hasPlainValues, hj, Option.all_some, List.all_eq_true] at plain
  have hplain : r.IsPlain := isPlain_ofJson? hr plain
  rw [ofText?, Json.read?_toText (readable_toJson r), Option.bind_some,
    ofJson?_toJson hplain]

/-- A text with a value that is null and one that is missing, an operator and a direction that
are not known, integers of both widths and the largest page size. -/
def pendingText : String :=
  "\x7b\"filter\": [[\x7b\"column\": \"due\", \"operator\": \"EQ\", \"value\": null\x7d,
    \x7b\"column\": \"tags\", \"operator\": \"HAS\", \"value\": [-1, \x7b\"k\": 3000000000\x7d]\x7d,
    \x7b\"operator\": \"EXIST\"\x7d]],
  \"orderBy\": [\x7b\"column\": \"\\u00e9\", \"direction\": \"up\"\x7d],
  \"itemsPerPage\": 18446744073709551615\x7d"

/-- The request of that text. -/
def pending : Request where
  filter := [[⟨some "due", some .eq, some .null⟩,
    ⟨some "tags", some (.other "HAS"),
      some (.array [.int64 (-1), .document [("k", .int64 3000000000)]])⟩,
    ⟨none, some .exist, none⟩]]
  additionalFilters := []
  orderBy := [⟨"é", .descending⟩]
  search := none
  page := 1
  itemsPerPage := 18446744073709551615
  nativeQuery := none

set_option maxRecDepth 20000 in
theorem ofText?_pendingText :
    ofText? pendingText = some pending ∧ hasPlainValues pendingText = true := by
  -- the text by its characters, which is how it is read
  have hread : ∃ cs, pendingText = String.ofList cs ∧
      (Json.ofChars? cs).bind ofJson? = some pending ∧
      ((Json.ofChars? cs).all fun j => (valueParts j).all Json.isPlain) = true :=
    ⟨_, rfl, by rfl, by decide +kernel⟩
  obtain ⟨cs, htext, hrequest, hplain⟩ := hread
  rw [ofText?, hasPlainValues, htext, Json.read?, String.toList_ofList]
  exact ⟨hrequest, hplain⟩

theorem text_read_back_pending : ofText? pendingText = some pending ∧
    hasPlainValues pendingText = true ∧ ofText? pending.toJson.toText = some pending := by
  obtain ⟨hrequest, hplain⟩ := ofText?_pendingText
  exact ⟨hrequest, hplain, text_read_back hrequest hplain⟩

end Request
end DataGrid
