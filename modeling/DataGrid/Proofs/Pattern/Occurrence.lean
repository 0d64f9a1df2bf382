import DataGrid.Proofs.Pattern.Flow
import DataGrid.Proofs.Text.Folding
import Mathlib.Data.List.Infix

/-!
# DataGrid.Proofs.Pattern.Occurrence -- where a literal text stands in another

Case aside, a text is the list of its folded characters. A literal text stands in another when
its list is a part of the other list, stands in front when it is the beginning, and stands at the
end when it is the end. The pattern of a literal text asks for just that: an anchor leaves only
the mark at one end of the whole text, and line breaks play no part in it.
-/

namespace DataGrid

/-- The characters of a text, case aside. -/
def Text.foldedChars (text : String) : List Char := text.toList.map folded

/-- The literal text stands in another: anywhere, in front, or at the end. -/
def Compile.LikeMode.Finds (mode : LikeMode) (literal text : String) : Prop :=
  match mode with
  | .contains => Text.foldedChars literal <:+: Text.foldedChars text
  | .startsWith => Text.foldedChars literal <+: Text.foldedChars text
  | .endsWith => Text.foldedChars literal <:+ Text.foldedChars text

instance (mode : Compile.LikeMode) (literal text : String) :
    Decidable (mode.Finds literal text) :=
  match mode with
  | .contains => inferInstanceAs (Decidable (_ <:+: _))
  | .startsWith => inferInstanceAs (Decidable (_ <+: _))
  | .endsWith => inferInstanceAs (Decidable (_ <:+ _))

/-- In front of the letters there is nothing to fold. -/
theorem Text.foldedChars_of_lt {text : String} (h : ∀ c ∈ text.toList, c.toNat < 0x41) :
    foldedChars text = text.toList := by
  rw [foldedChars, List.map_congr_left fun c hc => folded_of_lt (h c hc)]
  exact List.map_id _

namespace Pattern

open Compile (LikeMode)

/-! ## Reading, case aside -/

/-- A literal is read where the characters are the same, case aside. -/
theorem readsAs_iff {literal word : List Char} :
    readsAs literal word = true ↔ literal.map Text.folded = word.map Text.folded := by
  fun_induction readsAs literal word with
  | case1 => simp
  | case2 c literal d word ih =>
    rw [Bool.and_eq_true_iff, List.contains_iff_mem, Text.mem_foldingClass_iff, ih, List.map_cons,
      List.map_cons, List.cons.injEq]
  | case3 literal word hnil hcons =>
    refine ⟨fun h => absurd h Bool.false_ne_true, fun h => ?_⟩
    -- one of the two has more characters than the other
    rcases literal with _ | ⟨c, literal⟩ <;> rcases word with _ | ⟨d, word⟩
    · exact (hnil rfl rfl).elim
    · cases h
    · cases h
    · exact (hcons _ _ _ _ rfl rfl).elim

/-! ## Anchors -/

section Anchors

variable {text : List Char} {marks : Marks} {i : Nat}

theorem any_textStart (before : Option Char) (text : List Char) (i : Nat) :
    (gapsFrom before text)[i]?.any Assertion.textStart.holds =
      (decide (i = 0) && before.isNone) := by
  induction text generalizing before i with
  | nil => cases i <;> rfl
  | cons c text ih =>
    cases i with
    | zero => rfl
    | succ i =>
      show (gapsFrom (some c) text)[i]?.any _ = _
      rw [ih]
      simp

theorem any_textEnd (before : Option Char) (text : List Char) (i : Nat) :
    (gapsFrom before text)[i]?.any Assertion.textEnd.holds = decide (i = text.length) := by
  induction text generalizing before i with
  | nil => cases i <;> rfl
  | cons c text ih =>
    cases i with
    | zero => rfl
    | succ i =>
      show (gapsFrom (some c) text)[i]?.any _ = _
      rw [ih, List.length_cons]
      simp

/-- Only the mark in front of the whole text is left. -/
theorem testBit_flow_textStart :
    ((flow text (.assertion .textStart)).through marks).testBit i = true ↔
      marks.testBit i = true ∧ i = 0 := by
  show (advance _ 0 marks).testBit i = true ↔ _
  rw [testBit_advance, testBit_placesOf, gaps, Nat.sub_zero, any_textStart]
  simp

/-- Only the mark behind the whole text is left. -/
theorem testBit_flow_textEnd :
    ((flow text (.assertion .textEnd)).through marks).testBit i = true ↔
      marks.testBit i = true ∧ i = text.length := by
  show (advance _ 0 marks).testBit i = true ↔ _
  rw [testBit_advance, testBit_placesOf, gaps, Nat.sub_zero, any_textEnd]
  simp

end Anchors

/-! ## Patterns of literal texts -/

theorem matches_inSequence (nodes : List Node) (text : List Char) :
    (Node.inSequence nodes).matches text = true ↔
      ∃ i, (through text (placesOf (fun _ => true) (rests text)) nodes).testBit i = true := by
  rw [Node.matches, flow_inSequence, bne_iff_ne]
  constructor
  · exact Nat.exists_testBit_of_ne_zero
  · rintro ⟨i, hi⟩ hzero
    rw [hzero, Nat.zero_testBit] at hi
    cases hi

theorem testBit_start {text : List Char} {i : Nat} :
    (placesOf (fun _ => true) (rests text)).testBit i = true ↔ i ≤ text.length := by
  rw [testBit_placesOf, getElem?_rests]
  split <;> simp_all

/-- The pattern of a literal text asks whether the text stands there, case aside. -/
theorem matches_literalNode_iff (mode : LikeMode) (literal text : String) :
    (Compile.literalNode literal mode).matches text.toList = true ↔ mode.Finds literal text := by
  cases mode with
  | contains =>
    refine (matches_literalNode literal text).trans ⟨?_, ?_⟩
    · rintro ⟨before, word, after, htext, hreads⟩
      refine ⟨before.map Text.folded, after.map Text.folded, ?_⟩
      rw [Text.foldedChars, Text.foldedChars, readsAs_iff.mp hreads, htext, List.map_append,
        List.map_append]
    · rintro ⟨before, after, htext⟩
      obtain ⟨front, after, hfront, hbefore, -⟩ := List.map_eq_append_iff.mp htext.symm
      obtain ⟨before, word, rfl, -, hword⟩ := List.map_eq_append_iff.mp hbefore
      exact ⟨before, word, after, hfront, readsAs_iff.mpr hword.symm⟩
  | startsWith =>
    show _ ↔ Text.foldedChars literal <+: Text.foldedChars text
    rw [Compile.literalNode, matches_inSequence, List.prefix_iff_eq_take, Text.foldedChars,
      Text.foldedChars, List.length_map, ← List.map_take, ← readsAs_iff]
    constructor
    · rintro ⟨j, hj⟩
      obtain ⟨i, hi, hreads, -⟩ := testBit_through_literals.mp hj
      obtain ⟨-, rfl⟩ := testBit_flow_textStart.mp hi
      exact hreads
    · intro hreads
      have hstart : ((flow text.toList (.assertion .textStart)).through
          (placesOf (fun _ => true) (rests text.toList))).testBit 0 = true :=
        testBit_flow_textStart.mpr ⟨testBit_start.mpr (Nat.zero_le _), rfl⟩
      exact ⟨_, testBit_through_literals.mpr ⟨0, hstart, hreads, rfl⟩⟩
  | endsWith =>
    show _ ↔ Text.foldedChars literal <:+ Text.foldedChars text
    rw [Compile.literalNode, matches_inSequence, List.suffix_iff_eq_drop, Text.foldedChars,
      Text.foldedChars, List.length_map, List.length_map, ← List.map_drop, ← readsAs_iff]
    constructor
    · rintro ⟨j, hj⟩
      rw [through_append] at hj
      obtain ⟨hj, rfl⟩ := testBit_flow_textEnd.mp hj
      obtain ⟨i, hi, hreads, hlength⟩ := testBit_through_literals.mp hj
      have hdrop : (text.toList.drop i).length = literal.toList.length := by
        rw [List.length_drop]
        omega
      rw [← hdrop, List.take_length] at hreads
      rwa [hlength, Nat.add_sub_cancel_right]
    · intro hreads
      have hlength := length_of_readsAs hreads
      rw [List.length_drop] at hlength
      refine ⟨text.toList.length, ?_⟩
      rw [through_append]
      refine testBit_flow_textEnd.mpr ⟨testBit_through_literals.mpr
        ⟨text.toList.length - literal.toList.length, testBit_start.mpr (Nat.sub_le _ _), ?_, ?_⟩,
        rfl⟩
      · rw [List.take_of_length_le]
        · exact hreads
        · rw [List.length_drop]
          omega
      · omega

end Pattern
end DataGrid
