import DataGrid.Proofs.Response.Range

/-!
# DataGrid.Proofs.Response.RangeText -- the range header taken apart again

A range header is one line of printable ASCII, whatever the name of the resource is: names lose
all other characters, and the fallback is never needed. The header can also be read in one way
only. Names may hold spaces, dashes, slashes and digits, and may imitate a range, but the numbers
are all that stands behind the last space, so that the parts of a header are what it was made of
(`range_header_read_back`).

The last position of a range is within the total. The first one is printed as it is asked for, so
that the range runs forward for the pages up to the last one and backward behind it
(`range_forward_up_to_last_page`, `range_backward_behind_last_page`).
-/

namespace DataGrid

namespace ContentRange

/-! ## Parts of a text -/

/-- What stands in front of the last of a mark and what stands behind it. -/
def splitLast? (mark : Char) : List Char → Option (List Char × List Char)
  | [] => none
  | c :: rest =>
    match splitLast? mark rest with
    | some (front, back) => some (c :: front, back)
    | none => if c = mark then some ([], rest) else none

/-- The marks between the numbers of a range. -/
def isMark (c : Char) : Bool := c == '-' || c == '/'

/-- What a range header is made of. -/
structure Parts where
  name : String
  first : String
  last : String
  total : String
deriving DecidableEq, Repr

/-- The name is all that stands in front of the last space; the three numbers stand behind it. -/
def parts? (text : String) : Option Parts :=
  match splitLast? ' ' text.toList with
  | none => none
  | some (name, range) =>
    match range.splitOnP isMark with
    | [first, last, total] =>
      some ⟨.ofList name, .ofList first, .ofList last, .ofList total⟩
    | _ => none

theorem splitLast?_eq_none {mark : Char} {cs : List Char} (h : mark ∉ cs) :
    splitLast? mark cs = none := by
  induction cs with
  | nil => rfl
  | cons c rest ih =>
    obtain ⟨hne, hrest⟩ := not_or.mp (mt List.mem_cons.mpr h)
    rw [splitLast?, ih hrest]
    exact if_neg (Ne.symm hne)

/-- A mark behind which there is none is the last one. By induction on what stands in front. -/
theorem splitLast?_append {mark : Char} (front : List Char) {back : List Char}
    (h : mark ∉ back) : splitLast? mark (front ++ mark :: back) = some (front, back) := by
  induction front with
  | nil =>
    rw [List.nil_append, splitLast?, splitLast?_eq_none h]
    exact if_pos rfl
  | cons c front ih => rw [List.cons_append, splitLast?, ih]

/-! ## The text of a range -/

theorem isMark_of_isDigit {c : Char} (h : c.isDigit = true) : isMark c = false := by
  refine Bool.or_eq_false_iff.mpr ⟨beq_eq_false_iff_ne.mpr ?_, beq_eq_false_iff_ne.mpr ?_⟩
  · rintro rfl
    cases h
  · rintro rfl
    cases h

/-- The characters of the numbers of a range, with the marks between them. -/
def numberChars (first last total : Nat) : List Char :=
  (toString first).toList ++ '-' :: ((toString last).toList ++ '/' :: (toString total).toList)

/-- Numbers hold no marks, so that the marks between them are the only ones. -/
theorem splitOnP_numberChars (first last total : Nat) :
    (numberChars first last total).splitOnP isMark =
      [(toString first).toList, (toString last).toList, (toString total).toList] := by
  have hplain : ∀ n : Nat, ∀ c ∈ (toString n).toList, isMark c = false :=
    fun n c hc => isMark_of_isDigit (Text.isDigit_of_mem_toString hc)
  rw [numberChars, List.splitOnP_append_cons_of_forall_mem (hplain first) '-' rfl,
    List.splitOnP_append_cons_of_forall_mem (hplain last) '/' rfl,
    List.splitOnP_eq_singleton (hplain total)]

theorem space_not_mem_numberChars (first last total : Nat) :
    ' ' ∉ numberChars first last total := by
  have hdigits : ∀ n : Nat, ' ' ∉ (toString n).toList := by
    intro n hmem
    cases Text.isDigit_of_mem_toString hmem
  simp only [numberChars, List.mem_append, List.mem_cons, hdigits, or_false, false_or]
  decide

/-- The text of a range comes apart into what it was put together from. -/
theorem parts?_text (offset limit total : UInt64) (name : String) :
    parts? (text offset limit total name) =
      some ⟨safeName name, toString offset.toNat,
        toString (lastPosition offset limit total).toNat, toString total.toNat⟩ := by
  have htext : (text offset limit total name).toList = (safeName name).toList ++ ' ' ::
      numberChars offset.toNat (lastPosition offset limit total).toNat total.toNat := by
    simp [text, numberChars, String.toList_append]
  simp only [parts?, htext, splitLast?_append _ (space_not_mem_numberChars _ _ _),
    splitOnP_numberChars, String.ofList_toList]

/-- A range header is the only one of its reply. It is printable ASCII, the fallback is not
needed for it, and read from behind it gives back the printable characters of the name in
their order, the offset, the last position and the total, in decimals. -/
theorem range_header_read_back (offset limit total : UInt64) (name : String) :
    let value := value offset limit total name
    headers offset limit total name = [("content-range", value)] ∧
      isHeaderText (text offset limit total name) = true ∧
      value = text offset limit total name ∧
      (∀ c ∈ value.toList, 0x20 ≤ c.toNat ∧ c.toNat ≤ 0x7E) ∧
      parts? value = some
        ⟨.ofList (name.toList.filter fun c => 0x20 ≤ c.toNat ∧ c.toNat ≤ 0x7E),
          toString offset.toNat, toString (lastPosition offset limit total).toNat,
          toString total.toNat⟩ := by
  intro value
  have htext : value = text offset limit total name := value_eq_text offset limit total name
  refine ⟨rfl, isHeaderText_text offset limit total name, htext, ?_, ?_⟩
  · intro c hc
    rw [htext] at hc
    exact printable_text hc
  · rw [htext, parts?_text, safeName]
    simp only [Bool.decide_and]

/-! ## Forward and backward ranges -/

/-- The last position, counted without bounds but for the largest number. -/
theorem toNat_lastPosition_eq (offset limit total : UInt64) :
    (lastPosition offset limit total).toNat =
      min (min (offset.toNat + (max limit.toNat 1 - 1)) (UInt64.size - 1)) (total.toNat - 1) := by
  have hlt : total.toNat - 1 < UInt64.size :=
    Nat.lt_of_le_of_lt (Nat.sub_le _ _) total.toNat_lt
  rw [lastPosition, toNat_min, toNat_saturate, toNat_saturate_of_lt hlt]

/-- A range runs forward when it begins within the total; one of nothing has to begin at 0. -/
theorem le_lastPosition_iff (offset limit total : UInt64) :
    offset.toNat ≤ (lastPosition offset limit total).toNat ↔ offset.toNat ≤ total.toNat - 1 := by
  have hlt := offset.toNat_lt
  have hsize : UInt64.size = 2 ^ 64 := rfl
  rw [toNat_lastPosition_eq]
  omega

end ContentRange

/-- A page begins within the total, or at the beginning of nothing, when it is none behind the
last. -/
theorem Request.offset_le_pred_iff (r : Request) (total : UInt64) :
    r.offset.toNat ≤ total.toNat - 1 ↔
      r.pageNumber ≤ (Paging.new r.page r.itemsPerPage total).lastPage := by
  have hbegin := r.offset_lt_iff total
  rw [UInt64.lt_iff_toNat_lt, UInt64.lt_iff_toNat_lt] at hbegin
  have hzero : (0 : UInt64).toNat = 0 := rfl
  rcases Nat.eq_zero_or_pos total.toNat with hnothing | hpos
  · -- of nothing there is one page, and it alone begins at 0
    have hlast : pieceCount total.toNat (max r.itemsPerPage.toNat 1) = 1 := by
      have hle : pieceCount total.toNat (max r.itemsPerPage.toNat 1) ≤ max total.toNat 1 :=
        pieceCount_le (Nat.lt_of_lt_of_le Nat.one_pos (Nat.le_max_right _ _))
      have hone : 1 ≤ pieceCount total.toNat (max r.itemsPerPage.toNat 1) :=
        Nat.le_max_right _ _
      omega
    have hmul : r.pageNumber.toNat - 1 ≤ (r.pageNumber.toNat - 1) * r.pageSize.toNat :=
      Nat.le_mul_of_pos_right _ r.pageSize_pos
    have hfirst : r.pageNumber.toNat ≤ 1 → (r.pageNumber.toNat - 1) * r.pageSize.toNat = 0 := by
      intro hle
      rw [Nat.sub_eq_zero_of_le hle, Nat.zero_mul]
    have hsize : 1 < UInt64.size := by decide
    rw [UInt64.le_iff_toNat_le, Paging.toNat_lastPage_eq, hlast, offset, toNat_saturate]
    omega
  · have hwithin : r.offset.toNat ≤ total.toNat - 1 ↔ r.offset.toNat < total.toNat := by omega
    rw [hwithin, hbegin, hzero]
    exact and_iff_left hpos

/-- A reply has one range header, whose last position is within the total or 0. The range runs
forward exactly on the pages up to the last one of the paging in the same reply. -/
theorem range_forward_up_to_last_page (name : String) (request : Request) (page : ResultPage) :
    let envelope := Envelope.new name request page
    let header := ContentRange.value request.offset request.pageSize page.total name
    envelope.reply.valuesOf "content-range" = [header] ∧
      ∃ first last : Nat,
        ContentRange.parts? header = some ⟨ContentRange.safeName name, toString first,
          toString last, toString page.total.toNat⟩ ∧
        last ≤ max page.total.toNat 1 - 1 ∧
        (first ≤ last ↔ envelope.paging.page ≤ envelope.paging.lastPage) := by
  intro envelope header
  have hpaging := Envelope.paging_new name request page
  have hlastPage : envelope.paging.lastPage =
      (Paging.new request.page request.itemsPerPage page.total).lastPage :=
    congrArg Paging.lastPage (Paging.new_clamped request page.total)
  refine ⟨?_, request.offset.toNat,
    (ContentRange.lastPosition request.offset request.pageSize page.total).toNat, ?_, ?_, ?_⟩
  · rw [Envelope.range_reply, Envelope.offset_new, hpaging.2]
    rfl
  · have htext : header = ContentRange.text request.offset request.pageSize page.total name :=
      ContentRange.value_eq_text _ _ _ _
    rw [htext, ContentRange.parts?_text]
  · rw [ContentRange.toNat_lastPosition_eq]
    omega
  · rw [ContentRange.le_lastPosition_iff, Request.offset_le_pred_iff, hlastPage, hpaging.1]

/-- Behind the last page the range runs backward: twenty books in pages of ten have no third page,
and its range ends in front of its beginning. -/
theorem range_backward_behind_last_page :
    let request := { Request.default with page := 3 }
    let header := "books 20-19/20"
    ContentRange.headers request.offset request.pageSize 20 "books" =
        [("content-range", header)] ∧
      ∃ first last : Nat,
        ContentRange.parts? header = some ⟨"books", toString first, toString last, "20"⟩ ∧
        last < first := by
  intro request header
  refine ⟨?_, 20, 19, ?_, by decide⟩
  · decide +kernel
  · decide +kernel

end DataGrid
