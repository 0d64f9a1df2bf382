import DataGrid.Proofs.Compile.Verdict
import DataGrid.Proofs.Pattern.Occurrence

/-!
# DataGrid.Proofs.Compile.LiteralText -- literal texts are found as they are

A condition that looks for a text compiles into a pattern, and the pattern finds the text itself:
whatever characters it has, none of them means anything else in a pattern, and no character of the
value is special either. Case does not count.

It is a string that has to hold the text, or a string among the items of a list. Values of other
kinds hold no text, and neither do lists that are items of a list.
-/

namespace DataGrid.Compile

open Store

/-- The literal text stands in a value under a path. -/
def LikeMode.FindsIn (mode : LikeMode) (literal : String) : Option Value → Prop
  | some (.string text) => mode.Finds literal text
  | some (.array items) => ∃ text, .string text ∈ items ∧ mode.Finds literal text
  | _ => False

theorem findsLiteral_iff {actual : Option Value} {value : Value} {mode : LikeMode} :
    findsLiteral actual value mode = true ↔ mode.FindsIn value.patternText actual := by
  have hitem : ∀ item : Value,
      Matcher.matchesText (literalNode value.patternText mode) item = true ↔
        ∃ text, item = .string text ∧ mode.Finds value.patternText text := by
    intro item
    cases item with
    | string text => simp [Matcher.matchesText, Pattern.matches_literalNode_iff]
    | _ => simp [Matcher.matchesText]
  rcases actual with _ | actual
  · exact iff_of_false Bool.false_ne_true id
  · cases actual with
    | array items =>
      refine List.any_eq_true.trans ⟨?_, ?_⟩
      · rintro ⟨item, hmem, hfound⟩
        obtain ⟨text, rfl, hfinds⟩ := (hitem item).mp hfound
        exact ⟨text, hmem, hfinds⟩
      · rintro ⟨text, hmem, hfinds⟩
        exact ⟨.string text, hmem, (hitem _).mpr ⟨text, rfl, hfinds⟩⟩
    | string text => exact Pattern.matches_literalNode_iff mode _ text
    | _ => exact iff_of_false Bool.false_ne_true id

/-- A text is looked for literally, whatever characters it has: the condition on its field has
an answer on every value, and it is that the text stands in the value, case aside. The pattern
must not be too large for a store. -/
theorem likeCondition_finds_literally (field literal : String) (mode : LikeMode)
    (fits : (literalNode literal mode).fits = true) :
    ∃ spec, likeCondition field (.string literal) mode = [(field, spec)] ∧
      (∀ actual, ∃ found, Matcher.condition actual spec = .ok found ∧
        (found = true ↔ mode.FindsIn literal actual)) ∧
      (startsWithDollar field = false → ∀ index d,
        Matcher.filter index d (likeCondition field (.string literal) mode) =
          Matcher.condition (d.lookupText field) spec) := by
  refine ⟨_, rfl, fun actual => ?_, fun hfield index d => Matcher.filter_field hfield _⟩
  have hfits : (literalNode (Value.string literal).patternText mode).fits = true := fits
  exact ⟨findsLiteral actual (.string literal) mode, condition_likeSpec hfits, findsLiteral_iff⟩

/-- The text of a price with signs that mean something in a pattern, at the end of a line. -/
def pricedAt : String := "$(2.5)*\n"

theorem likeCondition_finds_literally_pricedAt :
    (literalNode pricedAt .contains).fits = true ∧
      Matcher.filter none [("note", .string "1: $(2.5)*\n2: -")]
        (likeCondition "note" (.string pricedAt) .contains) = .ok true ∧
      Matcher.filter none [("note", .array [.int32 2, .string "1: 2.5"])]
        (likeCondition "note" (.string pricedAt) .contains) = .ok false := by
  have hlow : (pricedAt.toList.all fun c => decide (c.toNat < 0x41)) = true := by decide +kernel
  have hliteral : ∀ c ∈ pricedAt.toList, c.toNat < 0x41 :=
    fun c hc => of_decide_eq_true (List.all_eq_true.mp hlow c hc)
  have hfits : (literalNode pricedAt .contains).fits = true := by
    rw [Pattern.literalNode_of_lt (by decide +kernel) hliteral]
    decide +kernel
  obtain ⟨spec, hspec, hanswer, hfilter⟩ :=
    likeCondition_finds_literally "note" pricedAt .contains hfits
  have hfinds : ∀ text : String, (text.toList.all fun c => decide (c.toNat < 0x41)) = true →
      (LikeMode.contains.Finds pricedAt text ↔ pricedAt.toList <:+: text.toList) := by
    intro text htext
    show Text.foldedChars pricedAt <:+: Text.foldedChars text ↔ _
    rw [Text.foldedChars_of_lt hliteral, Text.foldedChars_of_lt
      fun c hc => of_decide_eq_true (List.all_eq_true.mp htext c hc)]
  refine ⟨hfits, ?_, ?_⟩
  · obtain ⟨found, hfound, hiff⟩ := hanswer (some (.string "1: $(2.5)*\n2: -"))
    rw [hfilter rfl]
    refine hfound.trans (congrArg Except.ok (hiff.mpr ?_))
    exact (hfinds _ (by decide +kernel)).mpr (by decide +kernel)
  · obtain ⟨found, hfound, hiff⟩ := hanswer (some (.array [.int32 2, .string "1: 2.5"]))
    rw [hfilter rfl]
    refine hfound.trans (congrArg Except.ok (Bool.eq_false_iff.mpr fun htrue => ?_))
    obtain ⟨text, hmem, htext⟩ := hiff.mp htrue
    have heq : text = "1: 2.5" := by simpa using hmem
    subst heq
    exact absurd ((hfinds _ (by decide +kernel)).mp htext) (by decide +kernel)

end DataGrid.Compile
