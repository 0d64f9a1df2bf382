import DataGrid.Json.Reader
import DataGrid.Json.Writer
import DataGrid.Proofs.Json.Number
import DataGrid.Proofs.Json.Quoted

/-!
# DataGrid.Proofs.Json.RoundTrip -- written trees are read back

A tree whose literals and strings can be read is read back from its text. Every reader gives back
what was written and leaves over what follows, provided that what follows does not go on with a
number. By induction on the steps, with one statement each for a value, for the items of a list
and for the fields of an object; the steps that a value needs are at most twice its characters.
-/

namespace DataGrid.Json

open Reader

/-! ## Parts that can be read -/

/-- Characters that are read as one literal. -/
def IsLiteral (cs : List Char) : Prop :=
  (∀ c ∈ cs, isNumeric c = true) ∧ (Literal.ofChars? cs).isSome = true

/-- Characters that end at the closing quote behind them. -/
def IsQuoted (written : List Char) : Prop :=
  ∀ rest, Quoted.scan? (written ++ '"' :: rest) = some (written, rest)

/-- What follows does not go on with a number. -/
def Ends (rest : List Char) : Prop := rest.takeWhile isNumeric = []

mutual

/-- Every literal and every string of a tree can be read. -/
def Readable : Json → Prop
  | .null => True
  | .boolean _ => True
  | .number literal => IsLiteral literal
  | .text written => IsQuoted written
  | .list items => ItemsReadable items
  | .object fields => FieldsReadable fields

def ItemsReadable : List Json → Prop
  | [] => True
  | item :: rest => Readable item ∧ ItemsReadable rest

def FieldsReadable : List (List Char × Json) → Prop
  | [] => True
  | (name, value) :: rest => IsQuoted name ∧ Readable value ∧ FieldsReadable rest

end

theorem itemsReadable_of_forall {items : List Json} (h : ∀ item ∈ items, Readable item) :
    ItemsReadable items := by
  induction items with
  | nil => trivial
  | cons item rest ih =>
    obtain ⟨hitem, hrest⟩ := List.forall_mem_cons.mp h
    exact ⟨hitem, ih hrest⟩

theorem readable_list_map {α : Type} {write : α → Json} {xs : List α}
    (h : ∀ x ∈ xs, (write x).Readable) : (Json.list (xs.map write)).Readable := by
  refine itemsReadable_of_forall ?_
  rw [List.forall_mem_map]
  exact h

/-! ## Single parts -/

theorem isQuoted_encode (text : List Char) : IsQuoted (Quoted.encode text) :=
  Quoted.scan?_encode text

theorem readable_ofText (text : String) : (ofText text).Readable := isQuoted_encode text.toList

theorem isNumeric_of_isDigit {c : Char} (h : c.isDigit = true) : isNumeric c = true := by
  simp [isNumeric, h]

theorem isLiteral_toString (n : Nat) : IsLiteral (toString n).toList := by
  refine ⟨fun c hc => isNumeric_of_isDigit (Text.isDigit_of_mem_toString hc), ?_⟩
  rw [Literal.ofChars?_natural (fun c => Text.isDigit_of_mem_toString) (Literal.isWhole_toString n)]
  rfl

theorem readable_ofNat (n : Nat) : (ofNat n).Readable := isLiteral_toString n

theorem readable_ofInt (n : Int) : (ofInt n).Readable := by
  show IsLiteral (toString n).toList
  rw [toList_toString_int]
  split
  · exact isLiteral_toString n.toNat
  · obtain ⟨hnumeric, -⟩ := isLiteral_toString (-n).toNat
    refine ⟨List.forall_mem_cons.mpr ⟨rfl, hnumeric⟩, ?_⟩
    rw [Literal.ofChars?_negative (fun c => Text.isDigit_of_mem_toString)
      (Literal.isWhole_toString _)]
    rfl

/-- A literal begins with a sign or a digit. -/
theorem IsLiteral.exists_cons {literal : List Char} (h : IsLiteral literal) :
    ∃ c cs, literal = c :: cs ∧ (c = '-' ∨ c.isDigit = true) := by
  obtain ⟨-, hsome⟩ := h
  cases literal with
  | nil => cases hsome
  | cons c cs =>
    refine ⟨c, cs, rfl, ?_⟩
    by_cases hsign : c = '-'
    · exact .inl hsign
    · refine .inr ?_
      rw [← Bool.not_eq_false]
      intro hdigit
      have hnone : Literal.ofChars? (c :: cs) = none := by
        unfold Literal.ofChars?
        split
        next negative rest heq =>
          split at heq
          · exact absurd (List.cons.inj ‹_›).1 hsign
          · obtain ⟨-, rfl⟩ := Prod.mk.inj heq
            simp [hdigit, Literal.isWhole]
      rw [hnone] at hsome
      cases hsome

/-- A literal is read up to where something else begins. -/
theorem number?_append {literal rest : List Char} (h : IsLiteral literal) (ends : Ends rest) :
    Reader.number? (literal ++ rest) = some (.number literal, rest) := by
  obtain ⟨htake, hdrop⟩ := Text.span_append h.1 ends
  rw [Reader.number?, htake, hdrop]
  simp only [h.2, if_true]

theorem not_blank_of_number {c : Char} (h : c = '-' ∨ c.isDigit = true) : isBlank c = false := by
  rcases h with rfl | hdigit
  · rfl
  · rw [← Bool.not_eq_true]
    intro hblank
    simp only [isBlank, Bool.or_eq_true, beq_iff_eq] at hblank
    rcases hblank with ((rfl | rfl) | rfl) | rfl <;> cases hdigit

/-- The text of a tree begins with a character that is neither white space nor the end of a
list. -/
theorem exists_write {j : Json} (h : j.Readable) :
    ∃ c cs, j.write = c :: cs ∧ isBlank c = false ∧ c ≠ ']' := by
  cases j with
  | null => exact ⟨_, _, rfl, rfl, by decide⟩
  | boolean flag => cases flag <;> exact ⟨_, _, rfl, rfl, by decide⟩
  | text written => exact ⟨_, _, rfl, rfl, by decide⟩
  | list items => exact ⟨_, _, rfl, rfl, by decide⟩
  | object fields => exact ⟨_, _, rfl, rfl, by decide⟩
  | number literal =>
    obtain ⟨c, cs, hcs, hc⟩ := IsLiteral.exists_cons h
    refine ⟨c, cs, hcs, not_blank_of_number hc, ?_⟩
    rintro rfl
    rcases hc with hsign | hdigit <;> contradiction

theorem skipBlanks_cons {c : Char} (h : isBlank c = false) (cs : List Char) :
    skipBlanks (c :: cs) = c :: cs := by
  simp [skipBlanks, h]

theorem ends_cons {c : Char} (h : isNumeric c = false) (cs : List Char) : Ends (c :: cs) := by
  simp [Ends, h]

/-- The text of items begins with that of the first. -/
theorem exists_writeItems {item : Json} {items : List Json} (h : ItemsReadable (item :: items)) :
    ∃ c cs, writeItems (item :: items) = c :: cs ∧ isBlank c = false ∧ c ≠ ']' := by
  obtain ⟨c, cs, hwrite, hc⟩ := exists_write h.1
  cases items with
  | nil => exact ⟨c, cs, hwrite, hc⟩
  | cons next rest =>
    refine ⟨c, cs ++ ',' :: writeItems (next :: rest), ?_, hc⟩
    rw [writeItems, hwrite]
    rfl

/-- The text of fields begins with the quote of the first name. -/
theorem exists_writeFields (field : List Char × Json) (fields : List (List Char × Json)) :
    ∃ cs, writeFields (field :: fields) = '"' :: cs := by
  cases fields <;> exact ⟨_, rfl⟩

/-! ## One step of each reader -/

section Steps

variable {steps : Nat} {c : Char} {cs rest : List Char}

theorem value?_of_number (h : c = '-' ∨ c.isDigit = true) :
    Reader.value? (steps + 1) (c :: cs) = Reader.number? (c :: cs) := by
  have hblank : isBlank c = false := not_blank_of_number h
  -- neither a sign nor a digit begins any of the other values
  have hother : ∀ d : Char, d.isDigit = false → d ≠ '-' → c ≠ d := by
    rintro d hdigit hsign rfl
    rcases h with rfl | h
    · exact hsign rfl
    · rw [h] at hdigit
      cases hdigit
  rw [Reader.value?, skipBlanks_cons hblank]
  split
  all_goals first
    | next heq => exact absurd (List.cons.inj heq).1 (hother _ rfl (by decide))
    | rfl

theorem value?_of_list (blank : isBlank c = false) (more : c ≠ ']') :
    Reader.value? (steps + 1) ('[' :: c :: cs) =
      (Reader.items? steps (c :: cs)).map fun (items, rest) => (.list items, rest) := by
  rw [Reader.value?, skipBlanks_cons rfl]
  simp only [skipBlanks_cons blank]
  split
  · next heq => exact absurd (List.cons.inj heq).1 more
  · rfl

theorem value?_of_object :
    Reader.value? (steps + 1) ('{' :: '"' :: cs) =
      (Reader.fields? steps ('"' :: cs)).map fun (fields, rest) => (.object fields, rest) := rfl

variable {first value : Json} {name : List Char}

theorem items?_last (h : Reader.value? steps cs = some (first, ']' :: rest)) :
    Reader.items? (steps + 1) cs = some ([first], rest) := by
  rw [Reader.items?, h]
  rfl

theorem items?_more (h : Reader.value? steps cs = some (first, ',' :: rest)) :
    Reader.items? (steps + 1) cs =
      (Reader.items? steps rest).map fun (others, rest) => (first :: others, rest) := by
  rw [Reader.items?, h]
  rfl

theorem fields?_last (quoted : Quoted.scan? cs = some (name, ':' :: rest))
    {rest' : List Char} (h : Reader.value? steps rest = some (value, '}' :: rest')) :
    Reader.fields? (steps + 1) ('"' :: cs) = some ([(name, value)], rest') := by
  show (Quoted.scan? cs).bind _ = _
  rw [quoted]
  show (Reader.value? steps rest).bind _ = _
  rw [h]
  rfl

theorem fields?_more (quoted : Quoted.scan? cs = some (name, ':' :: rest))
    {rest' : List Char} (h : Reader.value? steps rest = some (value, ',' :: rest')) :
    Reader.fields? (steps + 1) ('"' :: cs) =
      (Reader.fields? steps rest').map fun (others, rest) => ((name, value) :: others, rest) := by
  show (Quoted.scan? cs).bind _ = _
  rw [quoted]
  show (Reader.value? steps rest).bind _ = _
  rw [h]
  rfl

end Steps

/-! ## Whole trees -/

mutual

theorem value?_write (j : Json) (h : j.Readable) {steps : Nat} {rest : List Char}
    (ends : Ends rest) (enough : 2 * j.write.length ≤ steps) :
    Reader.value? steps (j.write ++ rest) = some (j, rest) := by
  obtain ⟨steps, rfl⟩ : ∃ before, steps = before + 1 := by
    obtain ⟨c, cs, hwrite, -⟩ := exists_write h
    rw [hwrite, List.length_cons] at enough
    exact ⟨steps - 1, by omega⟩
  cases j with
  | null => rfl
  | boolean flag => cases flag <;> rfl
  | number literal =>
    obtain ⟨c, cs, rfl, hc⟩ := IsLiteral.exists_cons h
    exact (value?_of_number hc).trans (number?_append h ends)
  | text written =>
    show (Quoted.scan? (written ++ ['"'] ++ rest)).map _ = _
    rw [List.append_assoc]
    show (Quoted.scan? (written ++ '"' :: rest)).map _ = _
    rw [h rest]
    rfl
  | list items =>
    cases items with
    | nil => rfl
    | cons item items =>
      -- the two brackets leave more steps than the items need
      have hread : Reader.items? steps (writeItems (item :: items) ++ ']' :: rest) =
          some (item :: items, rest) := by
        refine items?_write item items h ?_
        simp only [write, List.length_append, List.length_cons] at enough
        omega
      obtain ⟨c, cs, hitems, hblank, hc⟩ := exists_writeItems h
      show Reader.value? _ ('[' :: (writeItems (item :: items) ++ [']'] ++ rest)) = _
      rw [hitems] at hread
      rw [List.append_assoc, hitems]
      refine (value?_of_list hblank hc).trans ?_
      exact congrArg (Option.map _) hread
  | object fields =>
    cases fields with
    | nil => rfl
    | cons field fields =>
      obtain ⟨name, value⟩ := field
      have hread :
          Reader.fields? steps (writeFields ((name, value) :: fields) ++ '}' :: rest) =
            some ((name, value) :: fields, rest) := by
        refine fields?_write name value fields h ?_
        simp only [write, List.length_append, List.length_cons] at enough
        omega
      obtain ⟨cs, hfields⟩ := exists_writeFields (name, value) fields
      show Reader.value? _ ('{' :: (writeFields ((name, value) :: fields) ++ ['}'] ++ rest)) = _
      rw [List.append_assoc, hfields]
      rw [hfields] at hread
      refine value?_of_object.trans ?_
      exact congrArg (Option.map _) hread
termination_by steps

theorem items?_write (item : Json) (items : List Json) (h : ItemsReadable (item :: items))
    {steps : Nat} {rest : List Char}
    (enough : 2 * (writeItems (item :: items)).length + 1 ≤ steps) :
    Reader.items? steps (writeItems (item :: items) ++ ']' :: rest) =
      some (item :: items, rest) := by
  obtain ⟨steps, rfl⟩ : ∃ before, steps = before + 1 := ⟨steps - 1, by omega⟩
  cases items with
  | nil =>
    rw [writeItems] at enough ⊢
    refine items?_last (value?_write item h.1 (ends_cons rfl _) ?_)
    omega
  | cons next items =>
    rw [writeItems] at enough ⊢
    rw [List.length_append, List.length_cons] at enough
    rw [List.append_assoc]
    refine (items?_more (value?_write item h.1 (ends_cons rfl _) ?_)).trans ?_
    · omega
    · refine congrArg (Option.map _) (items?_write next items h.2 ?_)
      omega
termination_by steps

theorem fields?_write (name : List Char) (value : Json) (fields : List (List Char × Json))
    (h : FieldsReadable ((name, value) :: fields)) {steps : Nat} {rest : List Char}
    (enough : 2 * (writeFields ((name, value) :: fields)).length + 1 ≤ steps) :
    Reader.fields? steps (writeFields ((name, value) :: fields) ++ '}' :: rest) =
      some ((name, value) :: fields, rest) := by
  obtain ⟨steps, rfl⟩ : ∃ before, steps = before + 1 := ⟨steps - 1, by omega⟩
  obtain ⟨hname, hvalue, hfields⟩ := h
  cases fields with
  | nil =>
    rw [writeFields] at enough ⊢
    simp only [List.length_append, List.length_cons] at enough
    simp only [List.cons_append, List.append_assoc]
    refine fields?_last (hname _) (value?_write value hvalue (ends_cons rfl _) ?_)
    omega
  | cons next fields =>
    obtain ⟨following, next⟩ := next
    rw [writeFields] at enough ⊢
    simp only [List.length_append, List.length_cons] at enough
    simp only [List.cons_append, List.append_assoc]
    refine (fields?_more (hname _) (value?_write value hvalue (ends_cons rfl _) ?_)).trans ?_
    · omega
    · refine congrArg (Option.map _) (fields?_write following next fields hfields ?_)
      omega
termination_by steps

end

/-- A tree that can be read is read back from its text. -/
theorem read?_toText {j : Json} (h : j.Readable) : read? j.toText = some j := by
  have hread : Reader.value? (2 * j.write.length + 1) (j.write ++ []) = some (j, []) :=
    value?_write j h rfl (by omega)
  rw [List.append_nil] at hread
  rw [read?, toText, String.toList_ofList, ofChars?, hread]
  rfl

end DataGrid.Json
