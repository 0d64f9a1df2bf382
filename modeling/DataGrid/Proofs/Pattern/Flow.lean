import DataGrid.Proofs.Pattern.Literal
import DataGrid.Proofs.Text.CodePoints

/-!
# DataGrid.Proofs.Pattern.Flow -- what the pattern of a literal text matches

A pattern moves marks along a text. Putting patterns together in a sequence moves the marks by
one after the other, however the sequence is simplified, and a literal character moves a mark
over a character of its class. So the pattern of a literal text matches where the characters of
the text follow each other, up to case.
-/

namespace DataGrid.Pattern

open Text (foldingClass)

/-! ## The same up to case -/

/-- Every character of a literal stands, in some case, at its place. -/
def readsAs : List Char → List Char → Bool
  | [], [] => true
  | c :: literal, d :: word => (foldingClass c).contains d && readsAs literal word
  | _, _ => false

theorem readsAs_self (literal : List Char) : readsAs literal literal = true := by
  induction literal with
  | nil => rfl
  | cons c literal ih =>
    exact Bool.and_eq_true_iff.mpr ⟨List.contains_iff_mem.mpr (Text.mem_foldingClass c), ih⟩

theorem length_of_readsAs {literal word : List Char} (h : readsAs literal word = true) :
    word.length = literal.length := by
  fun_induction readsAs literal word with
  | case1 => rfl
  | case2 c literal d word ih => exact congrArg (· + 1) (ih (Bool.and_eq_true_iff.mp h).2)
  | case3 => cases h

/-! ## Marks in turn -/

section Marks

variable {text : List Char}

theorem getElem?_rests (text : List Char) (i : Nat) :
    (rests text)[i]? = if i ≤ text.length then some (text.drop i) else none := by
  induction text generalizing i with
  | nil => cases i <;> rfl
  | cons c text ih =>
    cases i with
    | zero => rfl
    | succ i =>
      show (rests text)[i]? = _
      rw [ih, List.drop_succ_cons, List.length_cons]
      simp only [Nat.succ_le_succ_iff]

/-- Marks move through nodes one after the other. -/
def through (text : List Char) (marks : Marks) (nodes : List Node) : Marks :=
  nodes.foldl (fun marks node => (flow text node).through marks) marks

theorem through_append (marks : Marks) (before after : List Node) :
    through text marks (before ++ after) = through text (through text marks before) after :=
  List.foldl_append

theorem flow_sequence (marks : Marks) (parts : List Node) :
    (flow text (.sequence parts)).through marks = through text marks parts := by
  have hflows : ∀ parts, flows text parts = parts.map (flow text) := by
    intro parts
    induction parts with
    | nil => rfl
    | cons node parts ih => exact congrArg (flow text node :: ·) ih
  show (flows text parts).foldl _ marks = _
  rw [hflows, List.foldl_map]
  rfl

/-- A node moves the marks as its parts do. -/
theorem through_parts (marks : Marks) (node : Node) :
    through text marks (Node.parts node) = (flow text node).through marks := by
  cases node with
  | sequence parts => exact (flow_sequence marks parts).symm
  | _ => rfl

theorem through_flatMap_parts (marks : Marks) (nodes : List Node) :
    through text marks (nodes.flatMap Node.parts) = through text marks nodes := by
  induction nodes generalizing marks with
  | nil => rfl
  | cons node nodes ih =>
    rw [List.flatMap_cons, through_append, through_parts, ih]
    rfl

/-- A literal takes the characters of both parts in turn. -/
theorem flow_literal_append (marks : Marks) (cs ds : List Char) :
    (flow text (.literal (cs ++ ds))).through marks =
      through text marks [.literal cs, .literal ds] := by
  have hprefix : ∀ i, (rests text)[i]?.any (cs ++ ds).isPrefixOf =
      ((rests text)[i]?.any cs.isPrefixOf && (rests text)[i + cs.length]?.any ds.isPrefixOf) := by
    intro i
    rw [Bool.eq_iff_iff]
    simp only [getElem?_rests, Bool.and_eq_true_iff]
    by_cases hi : i ≤ text.length
    · rw [if_pos hi]
      simp only [Option.any_some, List.isPrefixOf_iff_prefix]
      constructor
      · rintro ⟨rest, hrest⟩
        rw [List.append_assoc] at hrest
        have hlength := congrArg List.length hrest
        rw [List.length_append, List.length_drop] at hlength
        refine ⟨⟨_, hrest⟩, ?_⟩
        rw [if_pos (by omega), ← List.drop_drop, ← hrest, List.drop_left]
        simp
      · rintro ⟨⟨after, hafter⟩, hds⟩
        rw [← List.drop_drop, ← hafter, List.drop_left] at hds
        split at hds
        · simp only [Option.any_some, List.isPrefixOf_iff_prefix] at hds
          obtain ⟨rest, rfl⟩ := hds
          exact ⟨rest, by rw [List.append_assoc, hafter]⟩
        · cases hds
    · simp [hi]
  refine Nat.eq_of_testBit_eq fun j => ?_
  show (advance _ _ marks).testBit j = (advance _ _ (advance _ _ marks)).testBit j
  simp only [testBit_advance, testBit_placesOf, hprefix, List.length_append]
  by_cases hj : cs.length + ds.length ≤ j
  · have hback : j - ds.length - cs.length = j - (cs.length + ds.length) := by omega
    have hmiddle : j - (cs.length + ds.length) + cs.length = j - ds.length := by omega
    have hd : ds.length ≤ j := by omega
    have hc : cs.length ≤ j - ds.length := by omega
    simp only [hj, hd, hc, hback, hmiddle, decide_true, Bool.true_and, Bool.and_assoc]
  · have hout : ¬ (ds.length ≤ j ∧ cs.length ≤ j - ds.length) := by omega
    by_cases hd : ds.length ≤ j
    · have hc : ¬ cs.length ≤ j - ds.length := fun hc => hout ⟨hd, hc⟩
      simp [hj, hd, hc]
    · simp [hj, hd]

theorem through_joinLiterals (marks : Marks) (nodes : List Node) :
    through text marks (Node.joinLiterals nodes) = through text marks nodes := by
  fun_induction Node.joinLiterals nodes generalizing marks with
  | case1 => rfl
  | case2 nodes cs ds rest hjoined ih =>
    have hrest : through text ((flow text (.literal cs)).through marks) nodes =
        through text ((flow text (.literal cs)).through marks) (.literal ds :: rest) := by
      rw [← ih, hjoined]
    show through text ((flow text (.literal (cs ++ ds))).through marks) rest = _
    rw [flow_literal_append]
    exact hrest.symm
  | case3 node nodes _ ih => exact ih _

/-- A sequence moves the marks as its nodes do in turn, however it is simplified. -/
theorem flow_inSequence (marks : Marks) (nodes : List Node) :
    (flow text (.inSequence nodes)).through marks = through text marks nodes := by
  rw [← through_flatMap_parts, ← through_joinLiterals]
  unfold Node.inSequence
  split
  · next hnil => rw [hnil]; rfl
  · next node hone => rw [hone]; rfl
  · exact flow_sequence marks _

/-! ## Literal texts -/

theorem placesOf_single (only : Char) (text : List Char) :
    placesOf [only].isPrefixOf (rests text) = placesOf (fun d => d == only) text := by
  induction text with
  | nil => rfl
  | cons d text ih =>
    have htest : [only].isPrefixOf (d :: text) = (d == only) := by
      rw [List.isPrefixOf_cons_cons, List.isPrefixOf_nil_left, Bool.and_true, Bool.beq_comm]
    rw [rests, placesOf_cons, placesOf_cons, ih, htest]

/-- One of some characters is a test of a single character, however it is simplified. -/
theorem flow_ofChars {cs : List Char} (some : cs ≠ []) : ∃ accepts : Char → Bool,
    (∀ d, accepts d = true ↔ d ∈ cs) ∧
      ∀ marks, (flow text (.ofPoints true (.ofChars cs))).through marks =
        advance (placesOf accepts text) 1 marks := by
  unfold Node.ofPoints
  split
  · next hempty => exact absurd (Text.CodePoints.isEmpty_ofChars.mp hempty) some
  · split
    · next only hsingle =>
      refine ⟨fun d => d == only, fun d => ?_, fun marks => ?_⟩
      · rw [beq_iff_eq]
        exact (Text.CodePoints.single?_ofChars hsingle d).symm
      · show advance (placesOf [only].isPrefixOf (rests text)) 1 marks = _
        rw [placesOf_single]
    · exact ⟨_, Text.CodePoints.contains_ofChars cs, fun _ => rfl⟩

theorem literal_eq (c : Char) :
    Compile.literalFlags.literal c = .ofPoints true (.ofChars (foldingClass c)) := by
  simp only [Flags.literal, Flags.node, Compile.literalFlags, if_true]

/-- A mark is moved over one character of the class. -/
theorem testBit_flow_literal {c : Char} {marks : Marks} {j : Nat} :
    ((flow text (Compile.literalFlags.literal c)).through marks).testBit j = true ↔
      ∃ i d, marks.testBit i = true ∧ text[i]? = some d ∧ d ∈ foldingClass c ∧ j = i + 1 := by
  obtain ⟨accepts, haccepts, hflow⟩ : ∃ accepts : Char → Bool, _ ∧ ∀ marks,
      (flow text _).through marks = advance (placesOf accepts text) 1 marks :=
    flow_ofChars (List.ne_nil_of_mem (Text.mem_foldingClass c))
  rw [literal_eq, hflow, testBit_advance, testBit_placesOf, Bool.and_eq_true_iff,
    Bool.and_eq_true_iff, decide_eq_true_iff, Option.any_eq_true]
  constructor
  · rintro ⟨hone, hmark, d, hd, htest⟩
    exact ⟨j - 1, d, hmark, hd, (haccepts d).mp htest, (Nat.sub_add_cancel hone).symm⟩
  · rintro ⟨i, d, hmark, hd, hmem, rfl⟩
    exact ⟨Nat.le_add_left 1 i, hmark, d, hd, (haccepts d).mpr hmem⟩

/-- Marks pass a literal text where it stands, up to case. By induction on the literal. -/
theorem testBit_through_literals {literal : List Char} {marks : Marks} {j : Nat} :
    (through text marks (literal.map Compile.literalFlags.literal)).testBit j = true ↔
      ∃ i, marks.testBit i = true ∧
        readsAs literal ((text.drop i).take literal.length) = true ∧ j = i + literal.length := by
  induction literal generalizing marks with
  | nil => exact ⟨fun h => ⟨j, h, rfl, rfl⟩, fun ⟨i, hi, _, hj⟩ => hj ▸ hi⟩
  | cons c literal ih =>
    refine ih.trans ?_
    constructor
    · rintro ⟨i, hi, hreads, rfl⟩
      obtain ⟨i, d, hmark, hd, hmem, rfl⟩ := testBit_flow_literal.mp hi
      obtain ⟨hlt, rfl⟩ := List.getElem?_eq_some_iff.mp hd
      refine ⟨i, hmark, ?_, by simp only [List.length_cons]; omega⟩
      rw [List.drop_eq_getElem_cons hlt, List.length_cons, List.take_succ_cons]
      exact Bool.and_eq_true_iff.mpr ⟨List.contains_iff_mem.mpr hmem, hreads⟩
    · rintro ⟨i, hmark, hreads, rfl⟩
      -- the text goes on at the mark, as the literal does
      have hlt : i < text.length := by
        refine Nat.lt_of_not_le fun hle => ?_
        rw [List.drop_eq_nil_of_le hle, List.take_nil] at hreads
        cases hreads
      rw [List.drop_eq_getElem_cons hlt, List.length_cons, List.take_succ_cons] at hreads
      obtain ⟨hmem, hreads⟩ := Bool.and_eq_true_iff.mp hreads
      refine ⟨i + 1, testBit_flow_literal.mpr ⟨i, text[i], hmark,
        List.getElem?_eq_getElem hlt, List.contains_iff_mem.mp hmem, rfl⟩, hreads, ?_⟩
      simp only [List.length_cons]
      omega

end Marks

/-! ## Texts without letters -/

theorem ofPoints_single (c : Char) : Node.ofPoints true (.ofChars [c]) = .literal [c] := by
  have hranges : Text.CodePoints.ofChars [c] = ⟨#[(c.toNat, c.toNat)]⟩ := by
    simp [Text.CodePoints.ofChars, Text.CodePoints.ofPoints, Text.CodePoints.join]
  simp [hranges, Node.ofPoints, Text.CodePoints.isEmpty, Text.CodePoints.single?,
    Char.ofNat_toNat]

theorem inSequence_literals {cs : List Char} (some : cs ≠ []) :
    Node.inSequence (cs.map fun c => .literal [c]) = .literal cs := by
  have hparts : ∀ cs : List Char,
      (cs.map fun c => Node.literal [c]).flatMap Node.parts = cs.map fun c => .literal [c] := by
    intro cs
    induction cs with
    | nil => rfl
    | cons c cs ih => exact congrArg (Node.literal [c] :: ·) ih
  have hjoined : ∀ c cs, Node.joinLiterals ((c :: cs).map fun c => .literal [c]) =
      [.literal (c :: cs)] := by
    intro c cs
    induction cs generalizing c with
    | nil => rfl
    | cons d cs ih =>
      rw [List.map_cons, Node.joinLiterals.eq_def]
      simp only [ih]
      rfl
  obtain ⟨c, cs, rfl⟩ := List.exists_cons_of_ne_nil some
  rw [Node.inSequence, hparts, hjoined]

/-- The pattern of characters in front of the letters is the text itself. -/
theorem literalNode_of_lt {text : String} (some : text.toList ≠ [])
    (h : ∀ c ∈ text.toList, c.toNat < 0x41) :
    Compile.literalNode text .contains = .literal text.toList := by
  have hliterals : text.toList.map Compile.literalFlags.literal =
      text.toList.map fun c => .literal [c] := by
    refine List.map_congr_left fun c hc => ?_
    rw [literal_eq, Text.foldingClass_of_lt (h c hc), ofPoints_single]
  show Node.inSequence (text.toList.map Compile.literalFlags.literal) = _
  rw [hliterals, inSequence_literals some]

/-- The pattern of a literal text matches wherever the text stands, up to case. -/
theorem matches_literalNode (literal text : String) :
    (Compile.literalNode literal .contains).matches text.toList = true ↔
      ∃ before word after, text.toList = before ++ word ++ after ∧
        readsAs literal.toList word = true := by
  show (flow text.toList (.inSequence (literal.toList.map Compile.literalFlags.literal))).through
    (placesOf (fun _ => true) (rests text.toList)) != 0 ↔ _
  rw [flow_inSequence, bne_iff_ne]
  constructor
  · intro hmarks
    obtain ⟨j, hj⟩ := Nat.exists_testBit_of_ne_zero hmarks
    obtain ⟨i, -, hreads, -⟩ := testBit_through_literals.mp hj
    refine ⟨text.toList.take i, _, (text.toList.drop i).drop literal.toList.length, ?_, hreads⟩
    rw [List.append_assoc, List.take_append_drop, List.take_append_drop]
  · rintro ⟨before, word, after, htext, hreads⟩ hzero
    have hlength := length_of_readsAs hreads
    have hword : (text.toList.drop before.length).take literal.toList.length = word := by
      rw [htext, List.append_assoc, List.drop_left, ← hlength, List.take_left]
    have hstart : (placesOf (fun _ => true) (rests text.toList)).testBit before.length = true := by
      rw [testBit_placesOf, getElem?_rests, htext, List.append_assoc, List.length_append,
        if_pos (Nat.le_add_right _ _)]
      rfl
    have hbit := testBit_through_literals.mpr ⟨before.length, hstart, hword.symm ▸ hreads, rfl⟩
    rw [hzero, Nat.zero_testBit] at hbit
    cases hbit

end DataGrid.Pattern
