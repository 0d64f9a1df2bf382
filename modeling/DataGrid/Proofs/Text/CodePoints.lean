import DataGrid.Text.Folding

/-!
# DataGrid.Proofs.Text.CodePoints -- membership in sorted ranges

A set of characters is a sorted array of ranges that is searched by halving. The search keeps
two indices with the key between them, so it ends at the only range that can hold the key. Sets
that are made from characters have exactly these characters.

Classes of characters that differ in case only are found in the same way. Every character is in
the class that is found for it, wherever the search ends.
-/

namespace DataGrid.Text

/-! ## Searching by halving -/

section Search

variable {α : Type} {keyOf : α → Nat} {entries : Array α} {key : Nat}

/-- The keys of the entries ascend. -/
def Ascending (keyOf : α → Nat) (entries : Array α) : Prop :=
  entries.toList.Pairwise fun a b => keyOf a ≤ keyOf b

theorem Ascending.le (sorted : Ascending keyOf entries) {i j : Nat} {a b : α}
    (ha : entries[i]? = some a) (hb : entries[j]? = some b) (hij : i ≤ j) : keyOf a ≤ keyOf b := by
  rcases Nat.eq_or_lt_of_le hij with rfl | hlt
  · obtain rfl := Option.some.inj (ha.symm.trans hb)
    exact Nat.le_refl _
  · obtain ⟨hi, rfl⟩ := Array.getElem?_eq_some_iff.mp ha
    obtain ⟨hj, rfl⟩ := Array.getElem?_eq_some_iff.mp hb
    exact List.pairwise_iff_getElem.mp sorted i j hi hj hlt

/-- The key is not in front of one index, unless that is the first, and is in front of
another. -/
structure Between (keyOf : α → Nat) (entries : Array α) (key low high : Nat) : Prop where
  ordered : low < high
  low : low = 0 ∨ ∃ a, entries[low]? = some a ∧ keyOf a ≤ key
  high : ∀ i a, high ≤ i → entries[i]? = some a → key < keyOf a

/-- The search ends at neighbouring indices. By induction on the fuel, which bounds how often
the distance of the indices can be halved. -/
theorem Between.of_searchLast (sorted : Ascending keyOf entries) {fuel low high : Nat}
    (between : Between keyOf entries key low high) (bounded : high ≤ entries.size)
    (enough : high ≤ low + Nat.pow 2 fuel) :
    Between keyOf entries key (searchLast keyOf entries key fuel low high)
      (searchLast keyOf entries key fuel low high + 1) := by
  have close : ∀ {low high : Nat}, Between keyOf entries key low high → high ≤ low + 1 →
      Between keyOf entries key low (low + 1) := fun between hle =>
    ⟨Nat.lt_succ_self _, between.low,
      fun i a hi ha => between.high i a (Nat.le_trans hle hi) ha⟩
  fun_induction searchLast keyOf entries key fuel low high with
  | case1 low high => exact close between enough
  | case2 fuel low high hnear => exact close between hnear
  | case3 fuel low high hfar middle entry hmiddle hle ih =>
    have hpow : Nat.pow 2 fuel.succ = Nat.pow 2 fuel * 2 := rfl
    refine ih ⟨?_, .inr ⟨entry, hmiddle, hle⟩, between.high⟩ bounded ?_ <;> omega
  | case4 fuel low high hfar middle entry hmiddle hgt ih =>
    have hpow : Nat.pow 2 fuel.succ = Nat.pow 2 fuel * 2 := rfl
    refine ih ⟨by omega, between.low, fun i a hi ha => ?_⟩ (by omega) (by omega)
    exact Nat.lt_of_lt_of_le (Nat.lt_of_not_le hgt) (sorted.le hmiddle ha hi)
  | case5 fuel low high hfar middle hmiddle =>
    -- the indices stay within the array
    have hsize := Array.getElem?_eq_none_iff.mp hmiddle
    omega

end Search

namespace CodePoints

/-! ## Ranges -/

/-- Some range holds the point. -/
def Covers (ranges : List (Nat × Nat)) (point : Nat) : Prop :=
  ∃ range ∈ ranges, range.1 ≤ point ∧ point ≤ range.2

theorem covers_cons {range : Nat × Nat} {ranges : List (Nat × Nat)} {point : Nat} :
    Covers (range :: ranges) point ↔
      (range.1 ≤ point ∧ point ≤ range.2) ∨ Covers ranges point := by
  simp [Covers]

/-- Ranges one behind the other, none of them empty. -/
structure Separated (ranges : List (Nat × Nat)) : Prop where
  apart : ranges.Pairwise fun a b => a.2 < b.1
  full : ∀ range ∈ ranges, range.1 ≤ range.2

theorem Separated.ascending {points : CodePoints} (h : Separated points.ranges.toList) :
    Ascending Prod.fst points.ranges := by
  refine List.Pairwise.imp_of_mem ?_ h.apart
  intro a b ha _ hab
  exact Nat.le_trans (h.full a ha) (Nat.le_of_lt hab)

/-- The search finds the range that holds a character, if one does. -/
theorem contains_iff {points : CodePoints} (h : Separated points.ranges.toList)
    (size : points.ranges.size ≤ Nat.pow 2 64) (c : Char) :
    points.contains c = true ↔ Covers points.ranges.toList c.toNat := by
  unfold contains
  rcases Nat.eq_zero_or_pos points.ranges.size with hempty | hpos
  · have hnil : points.ranges = #[] := Array.eq_empty_of_size_eq_zero hempty
    rw [hnil]
    simp [Covers]
  have start : Between Prod.fst points.ranges c.toNat 0 points.ranges.size := by
    refine ⟨hpos, .inl rfl, fun i a hi ha => ?_⟩
    rw [Array.getElem?_eq_none hi] at ha
    cases ha
  have between := start.of_searchLast h.ascending (Nat.le_refl _)
    (show points.ranges.size ≤ 0 + Nat.pow 2 64 by omega)
  generalize searchLast Prod.fst points.ranges c.toNat 64 0 points.ranges.size = place at between ⊢
  constructor
  · intro hcontains
    split at hcontains
    · next low high hrange =>
      obtain ⟨hlow, hhigh⟩ := Bool.and_eq_true_iff.mp hcontains
      exact ⟨(low, high), Array.mem_toList_iff.mpr (Array.mem_of_getElem? hrange),
        of_decide_eq_true hlow, of_decide_eq_true hhigh⟩
    · cases hcontains
  · rintro ⟨range, hmem, hlow, hhigh⟩
    obtain ⟨i, hi⟩ := List.getElem?_of_mem hmem
    rw [Array.getElem?_toList] at hi
    -- a range that holds the point is neither behind nor in front of the place found
    have hplace : i = place := by
      rcases Nat.lt_trichotomy i place with hlt | heq | hgt
      · obtain hzero | ⟨found, hfound, hle⟩ := between.low
        · omega
        · obtain ⟨hi', rfl⟩ := Array.getElem?_eq_some_iff.mp hi
          obtain ⟨hp, rfl⟩ := Array.getElem?_eq_some_iff.mp hfound
          have hapart := List.pairwise_iff_getElem.mp h.apart i place hi' hp hlt
          simp only [Array.getElem_toList] at hapart
          omega
      · exact heq
      · have := between.high i range hgt hi
        omega
    subst hplace
    simp [hi, hlow, hhigh]

/-! ## Joining -/

theorem covers_join {ranges : List (Nat × Nat)}
    (sorted : ranges.Pairwise fun a b => a.1 ≤ b.1) (full : ∀ range ∈ ranges, range.1 ≤ range.2)
    (point : Nat) : Covers (join ranges) point ↔ Covers ranges point := by
  fun_induction join ranges with
  | case1 low high low' high' rest hnear ih =>
    simp only [List.pairwise_cons, List.forall_mem_cons] at sorted full
    obtain ⟨hfirst, hsecond, hrest⟩ := sorted
    rw [ih]
    · rw [covers_cons, covers_cons, covers_cons, ← or_assoc]
      refine or_congr_left ?_
      have := hfirst.1
      have := full.1
      have := full.2.1
      simp only
      omega
    · simp only [List.pairwise_cons]
      exact ⟨hfirst.2, hrest⟩
    · simp only [List.forall_mem_cons]
      exact ⟨by omega, full.2.2⟩
  | case2 low high low' high' rest hfar ih =>
    rw [covers_cons, covers_cons, ih (List.pairwise_cons.mp sorted).2
      (List.forall_mem_cons.mp full).2]
  | case3 ranges => exact Iff.rfl

theorem first_of_mem_join {ranges : List (Nat × Nat)} {range : Nat × Nat}
    (h : range ∈ join ranges) : ∃ other ∈ ranges, other.1 = range.1 := by
  fun_induction join ranges with
  | case1 low high low' high' rest hnear ih =>
    obtain ⟨other, hother, hfirst⟩ := ih h
    rcases List.mem_cons.mp hother with rfl | hother
    · exact ⟨_, List.mem_cons_self, hfirst⟩
    · exact ⟨other, List.mem_cons_of_mem _ (List.mem_cons_of_mem _ hother), hfirst⟩
  | case2 low high low' high' rest hfar ih =>
    rcases List.mem_cons.mp h with rfl | h
    · exact ⟨_, List.mem_cons_self, rfl⟩
    · obtain ⟨other, hother, hfirst⟩ := ih h
      exact ⟨other, List.mem_cons_of_mem _ hother, hfirst⟩
  | case3 ranges => exact ⟨range, h, rfl⟩

theorem separated_join {ranges : List (Nat × Nat)}
    (sorted : ranges.Pairwise fun a b => a.1 ≤ b.1)
    (full : ∀ range ∈ ranges, range.1 ≤ range.2) : Separated (join ranges) := by
  fun_induction join ranges with
  | case1 low high low' high' rest hnear ih =>
    simp only [List.pairwise_cons, List.forall_mem_cons] at sorted full
    refine ih ?_ ?_
    · simp only [List.pairwise_cons]
      exact ⟨sorted.1.2, sorted.2.2⟩
    · simp only [List.forall_mem_cons]
      exact ⟨by omega, full.2.2⟩
  | case2 low high low' high' rest hfar ih =>
    obtain ⟨hfirst, hrest⟩ := List.pairwise_cons.mp sorted
    obtain ⟨hhead, htail⟩ := List.forall_mem_cons.mp full
    have hjoined := ih hrest htail
    refine ⟨List.pairwise_cons.mpr ⟨fun range hrange => ?_, hjoined.apart⟩,
      List.forall_mem_cons.mpr ⟨hhead, hjoined.full⟩⟩
    obtain ⟨other, hother, hfirsts⟩ := first_of_mem_join hrange
    have hsecond : low' ≤ other.1 := by
      rcases List.mem_cons.mp hother with rfl | hother
      · exact Nat.le_refl _
      · exact (List.pairwise_cons.mp hrest).1 other hother
    show high < range.1
    omega
  | case3 ranges hshort =>
    match ranges, hshort with
    | [], _ => exact ⟨.nil, full⟩
    | [only], _ => exact ⟨List.pairwise_singleton _ _, full⟩
    | (low, high) :: (low', high') :: rest, hshort => exact (hshort _ _ _ _ _ rfl).elim

/-- There are no more ranges than points between bounds. -/
theorem Separated.length_le {ranges : List (Nat × Nat)} (h : Separated ranges) {first bound : Nat}
    (low : ∀ range ∈ ranges, first ≤ range.1) (high : ∀ range ∈ ranges, range.2 < bound) :
    ranges.length ≤ bound - first := by
  induction ranges generalizing first with
  | nil => exact Nat.zero_le _
  | cons range ranges ih =>
    obtain ⟨hapart, hrest⟩ := List.pairwise_cons.mp h.apart
    obtain ⟨hfull, hfulls⟩ := List.forall_mem_cons.mp h.full
    obtain ⟨hlow, -⟩ := List.forall_mem_cons.mp low
    obtain ⟨hhigh, hhighs⟩ := List.forall_mem_cons.mp high
    have hlength := ih ⟨hrest, hfulls⟩ (fun other hother => hapart other hother) hhighs
    rw [List.length_cons]
    omega

/-! ## Sets made from characters -/

section OfChars

variable {cs : List Char}

/-- The ranges before they are joined. -/
private def sortedPoints (points : List Nat) : List (Nat × Nat) :=
  (points.mergeSort fun a b => decide (a ≤ b)).map fun point => (point, point)

private theorem pairwise_sortedPoints (points : List Nat) :
    (sortedPoints points).Pairwise fun a b => a.1 ≤ b.1 := by
  refine List.pairwise_map.mpr ?_
  refine (List.pairwise_mergeSort ?_ ?_ points).imp of_decide_eq_true
  · intro a b c hab hbc
    exact decide_eq_true (Nat.le_trans (of_decide_eq_true hab) (of_decide_eq_true hbc))
  · intro a b
    simpa using Nat.le_total a b

private theorem full_sortedPoints (points : List Nat) :
    ∀ range ∈ sortedPoints points, range.1 ≤ range.2 := by
  intro range hrange
  obtain ⟨point, -, rfl⟩ := List.mem_map.mp hrange
  exact Nat.le_refl _

theorem separated_ofChars (cs : List Char) : Separated (ofChars cs).ranges.toList :=
  separated_join (pairwise_sortedPoints _) (full_sortedPoints _)

theorem covers_ofChars {point : Nat} :
    Covers (ofChars cs).ranges.toList point ↔ ∃ c ∈ cs, c.toNat = point := by
  refine (covers_join (pairwise_sortedPoints _) (full_sortedPoints _) point).trans ?_
  constructor
  · rintro ⟨range, hrange, hlow, hhigh⟩
    obtain ⟨other, hother, rfl⟩ := List.mem_map.mp hrange
    obtain ⟨c, hc, rfl⟩ := List.mem_map.mp (List.mem_mergeSort.mp hother)
    exact ⟨c, hc, Nat.le_antisymm hlow hhigh⟩
  · rintro ⟨c, hc, rfl⟩
    exact ⟨(c.toNat, c.toNat), List.mem_map.mpr ⟨c.toNat,
      List.mem_mergeSort.mpr (List.mem_map_of_mem hc), rfl⟩, Nat.le_refl _, Nat.le_refl _⟩

/-- There are not so many characters that the search could end too soon. -/
theorem size_ofChars (cs : List Char) : (ofChars cs).ranges.size ≤ Nat.pow 2 64 := by
  have separated := separated_ofChars cs
  have hlength : (ofChars cs).ranges.toList.length ≤ 0x100000000 - 0 := by
    refine separated.length_le (fun _ _ => Nat.zero_le _) fun range hrange => ?_
    obtain ⟨c, -, hc⟩ :=
      covers_ofChars.mp ⟨range, hrange, separated.full range hrange, Nat.le_refl _⟩
    exact hc ▸ c.val.toNat_lt
  exact Nat.le_trans hlength (by decide)

/-- A set made from characters has these characters and no others. -/
theorem contains_ofChars (cs : List Char) (c : Char) :
    (ofChars cs).contains c = true ↔ c ∈ cs := by
  rw [contains_iff (separated_ofChars cs) (size_ofChars cs), covers_ofChars]
  exact ⟨fun ⟨other, hother, heq⟩ => Char.toNat_inj.mp heq ▸ hother, fun hc => ⟨c, hc, rfl⟩⟩

/-- The only member of a set made from characters is the only character. -/
theorem single?_ofChars {only : Char} (h : (ofChars cs).single? = some only) (c : Char) :
    c ∈ cs ↔ c = only := by
  unfold single? at h
  split at h
  · next low high hranges =>
    split at h
    · next heq =>
      subst heq
      obtain rfl := Option.some.inj h
      have hcovers : ∀ point, (∃ d ∈ cs, d.toNat = point) ↔ point = low := by
        intro point
        rw [← covers_ofChars, hranges]
        simp only [Covers, List.mem_singleton, exists_eq_left]
        omega
      obtain ⟨d, hd, rfl⟩ := (hcovers low).mpr rfl
      rw [Char.ofNat_toNat]
      constructor
      · exact fun hc => Char.toNat_inj.mp ((hcovers _).mp ⟨c, hc, rfl⟩)
      · rintro rfl
        exact hd
    · cases h
  · cases h

theorem isEmpty_ofChars : (ofChars cs).isEmpty = true ↔ cs = [] := by
  have hcovers : (ofChars cs).ranges.toList = [] ↔ ∀ point, ¬ ∃ c ∈ cs, c.toNat = point := by
    constructor
    · intro hnil point hcs
      obtain ⟨range, hrange, -⟩ := covers_ofChars.mpr hcs
      rw [hnil] at hrange
      cases hrange
    · intro hnone
      refine List.eq_nil_iff_forall_not_mem.mpr fun range hrange => ?_
      exact hnone range.1 (covers_ofChars.mp
        ⟨range, hrange, Nat.le_refl _, (separated_ofChars cs).full range hrange⟩)
  rw [isEmpty, Array.isEmpty_iff, ← Array.toList_eq_nil_iff, hcovers]
  constructor
  · intro hnone
    exact List.eq_nil_iff_forall_not_mem.mpr fun c hc => hnone _ ⟨c, hc, rfl⟩
  · rintro rfl point ⟨c, hc, -⟩
    cases hc

end OfChars

end CodePoints

/-! ## Classes -/

namespace FoldingClasses

/-- An entry of tables of classes belongs to a word, which names its character, and is about a
member of its class. -/
theorem of_mem_ofTexts {texts : List String} {entry : Nat × List Char}
    (h : entry ∈ (ofTexts texts).entries.toList) :
    Char.ofNat entry.1 ∈ entry.2 ∧ ∃ text ∈ texts, ∃ word ∈ tableWords text,
      ∃ digits ∈ splitAt '+' word, hexValue digits = entry.1 := by
  obtain ⟨word, hword, hentry⟩ := List.mem_flatMap.mp (List.mem_mergeSort.mp h)
  obtain ⟨text, htext, hword⟩ := List.mem_flatMap.mp hword
  obtain ⟨member, hmember, rfl⟩ := List.mem_map.mp hentry
  obtain ⟨digits, hdigits, hvalue⟩ := List.mem_map.mp hmember
  exact ⟨List.mem_map_of_mem hmember, text, htext, word, hword, digits, hdigits, hvalue⟩

/-- The class of a character is an entry for it, or the character alone. -/
theorem classOf_cases (classes : FoldingClasses) (c : Char) :
    (c.toNat, classes.classOf c) ∈ classes.entries.toList ∨ classes.classOf c = [c] := by
  unfold classOf
  split
  · next point members hentry =>
    split
    · next heq =>
      exact .inl (heq ▸ Array.mem_toList_iff.mpr (Array.mem_of_getElem? hentry))
    · exact .inr rfl
  · exact .inr rfl

end FoldingClasses

theorem mem_foldingClass (c : Char) : c ∈ foldingClass c := by
  rcases foldingClasses.classOf_cases c with hentry | halone
  · have hmember := (FoldingClasses.of_mem_ofTexts hentry).1
    rwa [Char.ofNat_toNat] at hmember
  · rw [foldingClass, halone]
    exact List.mem_cons_self

/-- Every character of a table, given by its characters, has at least this code point. -/
def tableFrom (least : Nat) (cs : List Char) : Bool :=
  ((splitAt ' ' (cs.map fun c => if c = '\n' then ' ' else c)).filter (!·.isEmpty)).all fun word =>
    (splitAt '+' word).all fun digits => decide (least ≤ hexValue digits)

theorem le_of_tableFrom {least : Nat} {text : String}
    (h : ∃ cs, text = String.ofList cs ∧ tableFrom least cs = true) :
    ∀ word ∈ tableWords text, ∀ digits ∈ splitAt '+' word, least ≤ hexValue digits := by
  obtain ⟨cs, rfl, hcs⟩ := h
  intro word hword digits hdigits
  rw [tableWords, String.toList_ofList] at hword
  exact of_decide_eq_true (List.all_eq_true.mp (List.all_eq_true.mp hcs word hword) digits hdigits)

set_option maxRecDepth 20000 in
/-- The letter A is the first character with a class of more than one member. -/
theorem le_of_mem_foldingBlocks : ∀ text ∈ foldingBlocks,
    ∀ word ∈ tableWords text, ∀ digits ∈ splitAt '+' word, 0x41 ≤ hexValue digits := by
  have check : ∀ {text : String} {texts : List String},
      (∃ cs, text = String.ofList cs ∧ tableFrom 0x41 cs = true) →
        (∀ other ∈ texts, ∀ word ∈ tableWords other, ∀ digits ∈ splitAt '+' word,
          0x41 ≤ hexValue digits) →
          ∀ other ∈ text :: texts, ∀ word ∈ tableWords other, ∀ digits ∈ splitAt '+' word,
            0x41 ≤ hexValue digits :=
    fun htext htexts => List.forall_mem_cons.mpr ⟨le_of_tableFrom htext, htexts⟩
  unfold foldingBlocks
  repeat' refine check ⟨_, rfl, by decide +kernel⟩ ?_
  exact fun _ h => (List.not_mem_nil h).elim

/-- A character in front of the letters has no other case. -/
theorem foldingClass_of_lt {c : Char} (h : c.toNat < 0x41) : foldingClass c = [c] := by
  rcases foldingClasses.classOf_cases c with hentry | halone
  · obtain ⟨-, text, htext, word, hword, digits, hdigits, hvalue⟩ :=
      FoldingClasses.of_mem_ofTexts hentry
    have hle := le_of_mem_foldingBlocks text htext word hword digits hdigits
    rw [hvalue] at hle
    omega
  · exact halone

end DataGrid.Text
