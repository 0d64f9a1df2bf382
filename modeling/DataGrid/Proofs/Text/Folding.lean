import DataGrid.Proofs.Text.CodePoints
import Mathlib.Data.List.Perm.Subperm

/-!
# DataGrid.Proofs.Text.Folding -- classes of characters that differ in case only

The classes of the tables share no character. So all members of a class are found to have this
very class, and having the same class is an equivalence. The first member stands for the whole
class: `folded` sends a character to it, and two characters differ in case only when they are
sent to the same one.
-/

namespace DataGrid.Text

/-! ## Numbers that differ from each other -/

/-- The numbers are characters, and differ from each other and from the marked ones. The marks
are the bits of a number. -/
def distinctChars (marked : Nat) : List Nat → Bool
  | [] => true
  | point :: points =>
    decide point.isValidChar && !marked.testBit point &&
      distinctChars (marked ||| 1 <<< point) points

theorem of_distinctChars {marked : Nat} {points : List Nat}
    (h : distinctChars marked points = true) :
    points.Nodup ∧ ∀ point ∈ points, point.isValidChar ∧ marked.testBit point = false := by
  induction points generalizing marked with
  | nil => exact ⟨.nil, fun _ hmem => (List.not_mem_nil hmem).elim⟩
  | cons point points ih =>
    rw [distinctChars, Bool.and_eq_true_iff, Bool.and_eq_true_iff, decide_eq_true_iff,
      Bool.not_eq_true'] at h
    obtain ⟨⟨hvalid, hfresh⟩, hrest⟩ := h
    obtain ⟨hnodup, hothers⟩ := ih hrest
    have hsplit : ∀ other, (marked ||| 1 <<< point).testBit other = false →
        marked.testBit other = false ∧ other ≠ point := by
      intro other hother
      rw [Nat.testBit_or, Bool.or_eq_false_iff, Nat.one_shiftLeft, Nat.testBit_two_pow] at hother
      exact ⟨hother.1, fun heq => of_decide_eq_false hother.2 heq.symm⟩
    refine ⟨List.nodup_cons.mpr ⟨fun hmem => ?_, hnodup⟩,
      List.forall_mem_cons.mpr ⟨⟨hvalid, hfresh⟩, fun other hmem => ?_⟩⟩
    · exact (hsplit point (hothers point hmem).2).2 rfl
    · exact ⟨(hothers other hmem).1, (hsplit other (hothers other hmem).2).1⟩

/-- Where the keys differ from each other, the place found is that of the key. -/
theorem Between.eq_of_getElem? {α : Type} {keyOf : α → Nat} {entries : Array α}
    {key place i : Nat} {a : α} (between : Between keyOf entries key place (place + 1))
    (strict : entries.toList.Pairwise fun a b => keyOf a < keyOf b)
    (ha : entries[i]? = some a) (hkey : keyOf a = key) : i = place := by
  rcases Nat.lt_trichotomy i place with hlt | heq | hgt
  · obtain hzero | ⟨found, hfound, hle⟩ := between.low
    · omega
    · obtain ⟨hi, rfl⟩ := Array.getElem?_eq_some_iff.mp ha
      obtain ⟨hplace, rfl⟩ := Array.getElem?_eq_some_iff.mp hfound
      have hless := List.pairwise_iff_getElem.mp strict i place hi hplace hlt
      simp only [Array.getElem_toList] at hless
      omega
  · exact heq
  · have hless := between.high i a hgt ha
    omega

/-! ## Tables of disjoint classes -/

namespace FoldingClasses

/-- The characters of a class, as a word of a table names them. -/
def members (word : List Char) : List Nat := (splitAt '+' word).map hexValue

/-- All characters that some words name, one class after the other. -/
def points (words : List (List Char)) : List Nat := words.flatMap members

/-- No character is named twice. -/
structure Disjoint (texts : List String) : Prop where
  nodup : (points (texts.flatMap tableWords)).Nodup
  valid : ∀ point ∈ points (texts.flatMap tableWords), point.isValidChar

variable {texts : List String}

theorem keys_readClass (words : List (List Char)) :
    (words.flatMap readClass).map Prod.fst = points words := by
  rw [List.map_flatMap, points]
  refine List.flatMap_congr fun word _ => ?_
  rw [readClass, List.map_map]
  exact List.map_id _

/-- The entries are the members of the classes, each with its class. -/
theorem mem_ofTexts {entry : Nat × List Char} : entry ∈ (ofTexts texts).entries.toList ↔
    ∃ word ∈ texts.flatMap tableWords, entry.1 ∈ members word ∧
      entry.2 = (members word).map Char.ofNat := by
  refine List.mem_mergeSort.trans (List.mem_flatMap.trans (exists_congr fun word =>
    and_congr_right fun _ => List.mem_map.trans ⟨?_, ?_⟩))
  · rintro ⟨member, hmember, rfl⟩
    exact ⟨hmember, rfl⟩
  · rintro ⟨hmember, hclass⟩
    exact ⟨entry.1, hmember, Prod.ext rfl hclass.symm⟩

theorem ascending_ofTexts (texts : List String) :
    Ascending Prod.fst (ofTexts texts).entries := by
  refine (List.pairwise_mergeSort ?_ ?_ _).imp of_decide_eq_true
  · intro a b c hab hbc
    exact decide_eq_true (Nat.le_trans (of_decide_eq_true hab) (of_decide_eq_true hbc))
  · intro a b
    simpa using Nat.le_total a.1 b.1

namespace Disjoint

variable (disjoint : Disjoint texts)
include disjoint

theorem nodup_keys : ((ofTexts texts).entries.toList.map Prod.fst).Nodup := by
  have hperm : (ofTexts texts).entries.toList.Perm
      ((texts.flatMap tableWords).flatMap readClass) := List.mergeSort_perm _ _
  rw [(hperm.map Prod.fst).nodup_iff, keys_readClass]
  exact disjoint.nodup

/-- There are fewer entries than code points. -/
theorem size_entries : (ofTexts texts).entries.size ≤ Nat.pow 2 64 := by
  have hbound : ∀ key ∈ (ofTexts texts).entries.toList.map Prod.fst,
      key ∈ List.range 0x110000 := by
    intro key hkey
    obtain ⟨entry, hentry, rfl⟩ := List.mem_map.mp hkey
    obtain ⟨word, hword, hmember, -⟩ := mem_ofTexts.mp hentry
    have hvalid := disjoint.valid entry.1 (List.mem_flatMap.mpr ⟨word, hword, hmember⟩)
    exact List.mem_range.mpr (by rcases hvalid with h | h <;> omega)
  have hlength := (disjoint.nodup_keys.subperm hbound).length_le
  rw [List.length_map, List.length_range, Array.length_toList] at hlength
  exact Nat.le_trans hlength (by decide)

/-- The search finds the only entry of a character. -/
theorem classOf_eq {c : Char} {cs : List Char}
    (h : (c.toNat, cs) ∈ (ofTexts texts).entries.toList) : (ofTexts texts).classOf c = cs := by
  have sorted := ascending_ofTexts texts
  have size := disjoint.size_entries
  have strict : (ofTexts texts).entries.toList.Pairwise fun a b => a.1 < b.1 :=
    (sorted.and (List.pairwise_map.mp disjoint.nodup_keys)).imp fun h => Nat.lt_of_le_of_ne h.1 h.2
  unfold classOf
  generalize (ofTexts texts).entries = entries at h sorted size strict ⊢
  obtain ⟨i, hi⟩ := List.getElem?_of_mem h
  rw [Array.getElem?_toList] at hi
  have start : Between Prod.fst entries c.toNat 0 entries.size := by
    refine ⟨Nat.zero_lt_of_lt (Array.getElem?_eq_some_iff.mp hi).1, .inl rfl, fun j a hj ha => ?_⟩
    rw [Array.getElem?_eq_none hj] at ha
    cases ha
  have between := start.of_searchLast sorted (Nat.le_refl _)
    (show entries.size ≤ 0 + Nat.pow 2 64 by omega)
  have hplace := between.eq_of_getElem? strict hi rfl
  rw [← hplace, hi]
  exact if_pos rfl

/-- All members of a class have this class. -/
theorem classOf_eq_of_mem {c d : Char} (h : d ∈ (ofTexts texts).classOf c) :
    (ofTexts texts).classOf d = (ofTexts texts).classOf c := by
  rcases (ofTexts texts).classOf_cases c with hentry | halone
  · obtain ⟨word, hword, -, hclass⟩ := mem_ofTexts.mp hentry
    have hclass : (ofTexts texts).classOf c = _ := hclass
    rw [hclass] at h ⊢
    obtain ⟨member, hmember, rfl⟩ := List.mem_map.mp h
    have hvalid := disjoint.valid member (List.mem_flatMap.mpr ⟨word, hword, hmember⟩)
    have htoNat : (Char.ofNat member).toNat = member := by
      rw [Char.ofNat, dif_pos hvalid]
      rfl
    refine disjoint.classOf_eq (mem_ofTexts.mpr ⟨word, hword, ?_, rfl⟩)
    rw [htoNat]
    exact hmember
  · rw [halone, List.mem_singleton] at h
    rw [h]

end Disjoint
end FoldingClasses

/-! ## The tables of the library -/

/-- The characters that a table names, given by its characters. -/
def tablePoints (cs : List Char) : List Nat :=
  FoldingClasses.points
    ((splitAt ' ' (cs.map fun c => if c = '\n' then ' ' else c)).filter (!·.isEmpty))

/-- Tables may be checked on their characters. -/
theorem FoldingClasses.Disjoint.of_distinctChars {texts : List String}
    (h : ∃ tables : List (List Char), texts = tables.map String.ofList ∧
      distinctChars 0 (tables.flatMap tablePoints) = true) : Disjoint texts := by
  obtain ⟨tables, rfl, hdistinct⟩ := h
  have hpoints : points ((tables.map String.ofList).flatMap tableWords) =
      tables.flatMap tablePoints := by
    rw [points, List.flatMap_map, List.flatMap_assoc]
    refine List.flatMap_congr fun cs _ => ?_
    rw [tableWords, String.toList_ofList]
    rfl
  obtain ⟨hnodup, hvalid⟩ := Text.of_distinctChars hdistinct
  exact ⟨hpoints ▸ hnodup, hpoints ▸ fun point hpoint => (hvalid point hpoint).1⟩

set_option maxRecDepth 20000 in
theorem disjoint_foldingBlocks : FoldingClasses.Disjoint foldingBlocks := by
  refine .of_distinctChars ?_
  unfold foldingBlocks
  refine ⟨[_, _, _, _, _, _, _, _, _, _, _, _, _, _, _], rfl, ?_⟩
  decide +kernel

/-! ## The member that stands for its class -/

/-- The same character for all that differ in case only: the first of their class. -/
def folded (c : Char) : Char := (foldingClass c).headD c

theorem folded_mem (c : Char) : folded c ∈ foldingClass c := by
  unfold folded
  cases hclass : foldingClass c with
  | nil => exact absurd (mem_foldingClass c) (hclass ▸ List.not_mem_nil)
  | cons first others => exact List.mem_cons_self

/-- Characters of one class are sent to the same character, and no others are. -/
theorem mem_foldingClass_iff {c d : Char} : d ∈ foldingClass c ↔ folded c = folded d := by
  have hclass : ∀ {c d : Char}, d ∈ foldingClass c → foldingClass d = foldingClass c :=
    fun h => disjoint_foldingBlocks.classOf_eq_of_mem h
  constructor
  · intro h
    cases hfirst : foldingClass c with
    | nil => exact absurd (mem_foldingClass c) (hfirst ▸ List.not_mem_nil)
    | cons first others => rw [folded, folded, hclass h, hfirst]; rfl
  · intro h
    have hsame : foldingClass c = foldingClass d := by
      rw [← hclass (folded_mem c), h, hclass (folded_mem d)]
    exact hsame ▸ mem_foldingClass d

/-- A character in front of the letters is its own class. -/
theorem folded_of_lt {c : Char} (h : c.toNat < 0x41) : folded c = c := by
  rw [folded, foldingClass_of_lt h]
  rfl

end DataGrid.Text
