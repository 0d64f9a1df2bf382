import DataGrid.Proofs.Calendar.Stamps
import DataGrid.Proofs.Calendar.Unread
import DataGrid.Proofs.Compile.Conditions
import DataGrid.Proofs.Compile.Verdict
import DataGrid.Proofs.Pattern.Flow

/-!
# DataGrid.Proofs.Compile.Search -- searching a column and asking for its text

A search on one column and a condition on that column that asks for the same text compile into the
same filter, unless the text is a date-time. The values of conditions are coerced and the terms of
searches are not, so the condition then asks for the text form of the date-time. That has a
bracket, and no text that is read as a date-time does: the value that was asked for is not found.
-/

namespace DataGrid

open Fallible Store Compile

/-! ## Patterns of literal texts -/

namespace Compile

theorem findsLiteral_string {literal text : String} :
    findsLiteral (some (.string text)) (.string literal) .contains = true ↔
      ∃ before word after, text.toList = before ++ word ++ after ∧
        Pattern.readsAs literal.toList word = true := Pattern.matches_literalNode literal text

/-- A text is found in itself. -/
theorem findsLiteral_self (text : String) :
    findsLiteral (some (.string text)) (.string text) .contains = true :=
  findsLiteral_string.mpr
    ⟨[], text.toList, [], (List.append_nil _).symm, Pattern.readsAs_self _⟩

/-- A character in front of the letters that is searched for has to be there itself. -/
theorem mem_of_readsAs {literal word : List Char} (h : Pattern.readsAs literal word = true)
    {c : Char} (hc : c ∈ literal) (caseless : c.toNat < 0x41) : c ∈ word := by
  fun_induction Pattern.readsAs literal word with
  | case1 => cases hc
  | case2 first literal d word ih =>
    obtain ⟨hfirst, hrest⟩ := Bool.and_eq_true_iff.mp h
    rcases List.mem_cons.mp hc with rfl | hc
    · rw [Text.foldingClass_of_lt caseless, List.contains_iff_mem, List.mem_singleton] at hfirst
      exact hfirst ▸ List.mem_cons_self
    · exact List.mem_cons_of_mem _ (ih hrest hc)
  | case3 => cases h

variable {field : String} {index : TextIndex} {d : Document}

/-- Where the literal text of a value is not found, its pattern does not hold, be it on account
of its size. -/
theorem filter_likeCondition_ne_true (hfield : startsWithDollar field = false) {value : Value}
    {mode : LikeMode} (absent : findsLiteral (d.lookupText field) value mode = false) :
    Matcher.filter index d (likeCondition field value mode) ≠ .ok true := by
  cases hfits : (literalNode value.patternText mode).fits with
  | true =>
    rw [filter_likeCondition hfield hfits, absent]
    intro h
    cases h
  | false =>
    rw [filter_likeCondition_too_large hfield hfits]
    intro h
    cases h

end Compile

/-! ## Requests with one filter -/

namespace Request

/-- Nothing but a search. -/
def searchOnly (r : Request) (term : String) : Request :=
  { r with filter := [], additionalFilters := [], search := some term }

/-- Nothing but one condition. -/
def conditionOnly (r : Request) (condition : Condition) : Request :=
  { r with filter := [[condition]], additionalFilters := [], search := none }

end Request

namespace Compiler

variable {columns : Columns} {logical physical : String}

/-- The only clause of a request. -/
def onlyClause (clause : Document) : Document := combine "$and" [combine "$or" [clause]]

theorem filter_onlyClause (index : TextIndex) (d : Document) (clause : Document) :
    Matcher.filter index d (onlyClause clause) = Matcher.filter index d clause := by
  rw [onlyClause, Matcher.filter_and, allM_cons, Matcher.filter_or, anyM_cons]
  rcases Matcher.filter index d clause with e | _ | _ <;> rfl

theorem conditions_searchOnly (only : columns.searchable = [logical])
    (resolved : Keyed.get? columns.conditions logical = some physical)
    (general : Keyed.get? columns.conditionCallbacks logical = none)
    (base : Request) {term : String} (nonempty : term ≠ "") :
    (⟨columns, base.searchOnly term, false⟩ : Compiler).conditions =
      .emit [.matchFilter (onlyClause (likeCondition physical (.string term) .contains))] := by
  have hterm : (base.searchOnly term).searchTerm = some term :=
    Option.filter_some_pos (bne_iff_ne.mpr nonempty)
  have hsearchable : columns.requireSearchable = .ok [(logical, physical)] := by
    rw [Columns.requireSearchable, only]
    show columns.resolveSearchable [logical] = _
    rw [Columns.resolveSearchable, resolved]
    rfl
  have hbranch : searchBranch columns term (logical, physical) =
      .done (likeCondition physical (.string term) .contains) := by
    rw [searchBranch, general]
  have hgroups : (⟨columns, base.searchOnly term, false⟩ : Compiler).searchGroups =
      .done [combine "$or" [likeCondition physical (.string term) .contains]] := by
    rw [searchGroups, hterm]
    show (Compile.search columns term >>= _) = _
    rw [Compile.search, hsearchable]
    show (Compilation.forEach (searchBranch columns term) [(logical, physical)] >>= _) >>= _ = _
    rw [Compilation.forEach, hbranch]
    rfl
  show (Compilation.done [] >>= fun _ => Compilation.done [] >>= fun _ => _) = _
  rw [hgroups]
  rfl

theorem conditions_likeOnly (resolved : Keyed.get? columns.conditions logical = some physical)
    (general : Keyed.get? columns.conditionCallbacks logical = none) (base : Request)
    (term : String) :
    (⟨columns, base.conditionOnly ⟨some logical, some .like, some (.string term)⟩, false⟩ :
      Compiler).conditions = .emit [.matchFilter (onlyClause
        (likeCondition physical (coerce (.string term)) .contains))] := by
  let c : Compiler :=
    ⟨columns, base.conditionOnly ⟨some logical, some .like, some (.string term)⟩, false⟩
  have hcondition : c.condition ⟨some logical, some .like, some (.string term)⟩ =
      .done (likeCondition physical (coerce (.string term)) .contains) := by
    show condition.compile c logical .like (.string term) = _
    rw [condition.compile, Columns.resolveCondition, resolved]
    show Compilation.bind (.lift (.ok physical)) _ = _
    rw [Compilation.lift, Compilation.bind]
    have hgeneral : Keyed.get? c.columns.conditionCallbacks logical = none := general
    simp only [hgeneral]
    rfl
  have hgroups : c.groups [[⟨some logical, some .like, some (.string term)⟩]] =
      .done [combine "$or" [likeCondition physical (coerce (.string term)) .contains]] := by
    rw [groups, Compilation.forEach, hcondition]
    rfl
  show (c.groups [[_]] >>= fun _ => Compilation.done [] >>= fun _ => _) = _
  rw [hgroups]
  rfl

end Compiler

/-! ## Date-times -/

namespace Compile

/-- A value that is read as a date-time is asked for with a bracket, which it does not have. -/
theorem absent_of_dateTime? {term : String} {date : Value} (h : dateTime? term = some date) :
    findsLiteral (some (.string term)) date .contains = false := by
  have hbracket : '(' ∈ date.patternText.toList := by
    unfold dateTime? at h
    split at h
    · obtain ⟨instant, -, rfl⟩ := Option.map_eq_some_iff.mp h
      show '(' ∈ ("DateTime(\"" ++ _ ++ "\")").toList
      rw [String.toList_append, String.toList_append]
      exact List.mem_append_left _ (List.mem_append_left _ (by decide))
    · cases h
  rw [← Bool.not_eq_true]
  intro hfound
  obtain ⟨before, word, after, hterm, hreads⟩ :=
    (Pattern.matches_literalNode date.patternText term).mp hfound
  have hword := mem_of_readsAs hreads hbracket (by decide)
  rw [dateTime?_of_bracket (hterm ▸ List.mem_append_left _ (List.mem_append_right _ hword))] at h
  cases h

end Compile

/-- A search on one column without a callback, and a condition on it that asks for the same
text, compile into one filter each. Unless the text is a date-time, every document satisfies
both or neither. If it is one, a document with this very text in the field is found by the
search, as long as the store accepts its pattern, and never by the condition. -/
theorem search_is_like {columns : Columns} {logical physical : String}
    (only : columns.searchable = [logical])
    (resolved : Keyed.get? columns.conditions logical = some physical)
    (general : Keyed.get? columns.conditionCallbacks logical = none) (base : Request)
    {term : String} (nonempty : term ≠ "") :
    let searched : Compiler := ⟨columns, base.searchOnly term, false⟩
    let liked : Compiler :=
      ⟨columns, base.conditionOnly ⟨some logical, some .like, some (.string term)⟩, false⟩
    ∃ found matched : Document,
      searched.conditions = .emit [.matchFilter found] ∧
      liked.conditions = .emit [.matchFilter matched] ∧
      (dateTime? term = none →
        ∀ index d, Matcher.filter index d found = Matcher.filter index d matched) ∧
      ∀ date, dateTime? term = some date → startsWithDollar physical = false →
        ∀ index d, Document.lookupText d physical = some (.string term) →
          Matcher.filter index d matched ≠ .ok true ∧
          ((literalNode term .contains).fits = true →
            Matcher.filter index d found = .ok true) := by
  intro searched liked
  refine ⟨_, _, Compiler.conditions_searchOnly only resolved general base nonempty,
    Compiler.conditions_likeOnly resolved general base term, ?_, ?_⟩
  · intro hnone index d
    rw [coerce, hnone]
    rfl
  · intro date hdate hfield index d hterm
    rw [Compiler.filter_onlyClause, Compiler.filter_onlyClause, coerce, hdate]
    constructor
    · refine filter_likeCondition_ne_true hfield ?_
      rw [hterm]
      exact absent_of_dateTime? hdate
    · intro hfits
      have hpattern : (literalNode (Value.patternText (.string term)) .contains).fits = true :=
        hfits
      rw [filter_likeCondition hfield hpattern, hterm, findsLiteral_self]

/-! ### A log whose times are texts -/

def Columns.log : Columns := ((Columns.new "log").condition "time" "time").search "time"

/-- When something was logged. -/
def loggedAt : String := "2024-01-03 10:20:30"

def logged : Document := [("time", .string loggedAt)]

theorem isSome_dateTime?_loggedAt : (dateTime? loggedAt).isSome = true := by
  let moment : Calendar.Fields := ⟨⟨2024, 1, 3⟩, 10, 20, 30, 0⟩
  have fits : moment.Fits := by constructor <;> decide
  have hwritten : loggedAt = String.ofList (moment.written ' ' []) := by decide +kernel
  have hinstant : (Calendar.Fields.toInstant? { moment with nanos := 0 } 0).isSome = true := by
    decide +kernel
  obtain ⟨instant, hinstant⟩ := Option.isSome_iff_exists.mp hinstant
  have hread : Calendar.Reading.instant? (String.ofList (moment.written ' ' [])) = some instant :=
    (Calendar.Reading.instant?_written fits true .bare trivial).trans hinstant
  rw [hwritten, dateTime?, String.toList_ofList,
    Calendar.Shape.occurs_written fits (by decide), if_pos rfl, hread]
  rfl

theorem fits_loggedAt : (literalNode loggedAt .contains).fits = true := by
  have hlow : (loggedAt.toList.all fun c => decide (c.toNat < 0x41)) = true := by decide +kernel
  rw [Pattern.literalNode_of_lt (by decide +kernel)
    fun c hc => of_decide_eq_true (List.all_eq_true.mp hlow c hc)]
  decide +kernel

theorem search_is_like_log :
    Columns.log.searchable = ["time"] ∧ Keyed.get? Columns.log.conditions "time" = some "time" ∧
      Keyed.get? Columns.log.conditionCallbacks "time" = none ∧ loggedAt ≠ "" ∧
      ∃ found matched : Document,
        (⟨.log, Request.default.searchOnly loggedAt, false⟩ : Compiler).conditions =
          .emit [.matchFilter found] ∧
        (⟨.log, Request.default.conditionOnly
            ⟨some "time", some .like, some (.string loggedAt)⟩, false⟩ : Compiler).conditions =
          .emit [.matchFilter matched] ∧
        Matcher.filter none logged found = .ok true ∧
        Matcher.filter none logged matched ≠ .ok true := by
  have only : Columns.log.searchable = ["time"] := rfl
  have resolved : Keyed.get? Columns.log.conditions "time" = some "time" := rfl
  have general : Keyed.get? Columns.log.conditionCallbacks "time" = none := rfl
  have nonempty : loggedAt ≠ "" := by decide
  obtain ⟨date, hdate⟩ := Option.isSome_iff_exists.mp isSome_dateTime?_loggedAt
  obtain ⟨found, matched, hfound, hmatched, -, hdates⟩ :=
    search_is_like only resolved general .default nonempty
  obtain ⟨habsent, hpresent⟩ := hdates date hdate rfl none logged rfl
  exact ⟨only, resolved, general, nonempty, found, matched, hfound, hmatched,
    hpresent fits_loggedAt, habsent⟩

/-- The search for a logged time finds it, the condition with the same time does not. -/
theorem search_finds_more : ∃ found matched : Document,
    (⟨.log, Request.default.searchOnly loggedAt, false⟩ : Compiler).conditions =
      .emit [.matchFilter found] ∧
    (⟨.log, Request.default.conditionOnly
        ⟨some "time", some .like, some (.string loggedAt)⟩, false⟩ : Compiler).conditions =
      .emit [.matchFilter matched] ∧
    ¬ (Matcher.filter none logged found = .ok true ↔
      Matcher.filter none logged matched = .ok true) := by
  have general : Keyed.get? Columns.log.conditionCallbacks "time" = none := rfl
  obtain ⟨date, hdate⟩ := Option.isSome_iff_exists.mp isSome_dateTime?_loggedAt
  have hcoerce : coerce (.string loggedAt) = date := by rw [coerce, hdate, Option.getD_some]
  refine ⟨_, _, Compiler.conditions_searchOnly rfl rfl general .default (by decide),
    Compiler.conditions_likeOnly rfl general .default loggedAt, fun same => ?_⟩
  rw [Compiler.filter_onlyClause, Compiler.filter_onlyClause, hcoerce] at same
  have hpattern : (literalNode (Value.patternText (.string loggedAt)) .contains).fits = true :=
    fits_loggedAt
  have habsent : findsLiteral (Document.lookupText logged "time") date .contains = false :=
    absent_of_dateTime? hdate
  refine filter_likeCondition_ne_true rfl habsent (same.mp ?_)
  rw [filter_likeCondition rfl hpattern]
  exact congrArg Except.ok (findsLiteral_self loggedAt)

end DataGrid
