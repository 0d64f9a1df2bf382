import DataGrid.Proofs.Request.Window
import Mathlib.Order.Bounds.Defs

/-!
# DataGrid.Proofs.Response.Paging -- pages counted in 64 bits and without bounds

A paging and the offset of a page are worked out in 64 bits, and the answers are those of the
natural numbers wherever 64 bits can hold them (`paging_exact`). The last page is the least
number of pages that hold everything, so it is never cut, and neither are the pages around the
one that is shown. An offset can be too large. It is then the largest number of 64 bits, which
is behind all that is counted.

The same steps are also taken in an arithmetic that has no answer where a number leaves the
range (`Paging.new?`, `Request.offset?`). They have one for every page, size and total: no sum
overflows, no difference falls below zero and nothing is divided by zero. Only the two sums and
the product that are held within the range on purpose may be cut.
-/

namespace DataGrid

/-! ## Arithmetic that stops where a number leaves the range -/

namespace Word

/-- A number, if 64 bits hold it. -/
def held? (n : Nat) : Option UInt64 := if n < UInt64.size then some (UInt64.ofNat n) else none

def add? (a b : UInt64) : Option UInt64 := held? (a.toNat + b.toNat)

def sub? (a b : UInt64) : Option UInt64 := if b ≤ a then held? (a.toNat - b.toNat) else none

/-- The quotient, and one more if something remains. -/
def divUp? (a b : UInt64) : Option UInt64 :=
  if b = 0 then none else if a % b = 0 then some (a / b) else add? (a / b) 1

theorem held?_of_lt {n : Nat} (h : n < UInt64.size) : held? n = some (saturate n) := by
  have hmin : min n (UInt64.size - 1) = n := by omega
  rw [held?, if_pos h, saturate, hmin]

theorem held?_toNat (a : UInt64) : held? a.toNat = some a := by
  rw [held?, if_pos a.toNat_lt, UInt64.ofNat_toNat]

/-- A quotient is rounded up by what is added in front of the division. -/
theorem div_up_eq (a : Nat) {b : Nat} (hb : 0 < b) :
    (a + b - 1) / b = if a % b = 0 then a / b else a / b + 1 := by
  have hsplit : b * (a / b) + a % b = a := Nat.div_add_mod a b
  split
  · next hrest =>
    have hsum : a + b - 1 = b * (a / b) + (b - 1) := by omega
    have hpred : (b - 1) / b = 0 := Nat.div_eq_of_lt (by omega)
    rw [hsum, Nat.mul_add_div hb, hpred, Nat.add_zero]
  · next hrest =>
    have hlt := Nat.mod_lt a hb
    have hsum : a + b - 1 = b * (a / b + 1) + (a % b - 1) := by
      rw [Nat.mul_succ]
      omega
    have hpred : (a % b - 1) / b = 0 := Nat.div_eq_of_lt (by omega)
    rw [hsum, Nat.mul_add_div hb, hpred, Nat.add_zero]

/-- A quotient can be rounded up in 64 bits: where something remains, it is smaller than what is
divided. -/
theorem divUp?_eq (a : UInt64) {b : UInt64} (hb : 0 < b.toNat) :
    divUp? a b = some (saturate ((a.toNat + b.toNat - 1) / b.toNat)) := by
  have hne : b ≠ 0 := by
    rintro rfl
    exact Nat.lt_irrefl 0 hb
  have hrest : a % b = 0 ↔ a.toNat % b.toNat = 0 := by
    rw [← UInt64.toNat_inj, UInt64.toNat_mod]
    rfl
  have hquotient : (a / b).toNat = a.toNat / b.toNat := UInt64.toNat_div a b
  rw [divUp?, if_neg hne, div_up_eq a.toNat hb]
  by_cases h : a % b = 0
  · rw [if_pos h, if_pos (hrest.mp h), ← hquotient, ← held?_of_lt (a / b).toNat_lt, held?_toNat]
  · have hpos : 0 < a.toNat % b.toNat := Nat.pos_of_ne_zero (mt hrest.mpr h)
    have hsplit : b.toNat * (a.toNat / b.toNat) + a.toNat % b.toNat = a.toNat :=
      Nat.div_add_mod _ _
    have hmul : a.toNat / b.toNat ≤ b.toNat * (a.toNat / b.toNat) :=
      Nat.le_mul_of_pos_left _ hb
    have hlt := a.toNat_lt
    have hfits : a.toNat / b.toNat + 1 < UInt64.size := by
      show _ < 2 ^ 64
      omega
    rw [if_neg h, if_neg (mt hrest.mpr h), add?, hquotient]
    exact held?_of_lt hfits

end Word

open Word

/-- The paging of a page, by steps that may have no answer. -/
def Paging.new? (page itemsPerPage total : UInt64) : Option Paging := do
  let itemsPerPage := max itemsPerPage 1
  let page := max page 1
  let pages ← divUp? total itemsPerPage
  let lastPage := max pages 1
  return { itemsPerPage := itemsPerPage
           lastPage := lastPage
           nextPage := min lastPage (saturate (page.toNat + 1))
           page := page
           previousPage := max (saturate (page.toNat - 1)) 1
           total := total }

/-- How many documents come before a page, by steps that may have no answer. -/
def Request.offset? (r : Request) : Option UInt64 := do
  let before ← sub? r.pageNumber 1
  return saturate (before.toNat * r.pageSize.toNat)

theorem max_saturate_one (n : Nat) : max (saturate n) 1 = saturate (max n 1) := by
  refine UInt64.toNat.inj ?_
  have hone : (1 : UInt64).toNat = 1 := rfl
  have hsize : 1 < UInt64.size := by decide
  rw [toNat_max, toNat_saturate, toNat_saturate, hone]
  omega

/-- Every step has an answer. -/
theorem Paging.new?_eq (page itemsPerPage total : UInt64) :
    Paging.new? page itemsPerPage total = some (Paging.new page itemsPerPage total) := by
  have hsize : 0 < (max itemsPerPage 1).toNat := by
    rw [toNat_max]
    exact Nat.lt_of_lt_of_le Nat.one_pos (Nat.le_max_right _ _)
  rw [Paging.new?, divUp?_eq total hsize]
  show some _ = some _
  rw [max_saturate_one, max_saturate_one]
  rfl

theorem Request.offset?_eq (r : Request) : r.offset? = some r.offset := by
  have hone : (1 : UInt64).toNat = 1 := rfl
  have hpage : 1 ≤ r.pageNumber := UInt64.le_iff_toNat_le.mpr r.pageNumber_pos
  have hlt : r.pageNumber.toNat - 1 < UInt64.size :=
    Nat.lt_of_le_of_lt (Nat.sub_le _ _) r.pageNumber.toNat_lt
  have hsub : sub? r.pageNumber 1 = some (saturate (r.pageNumber.toNat - 1)) := by
    rw [sub?, if_pos hpage, hone]
    exact held?_of_lt hlt
  rw [Request.offset?, hsub]
  show some _ = some _
  rw [toNat_saturate_of_lt hlt]
  rfl

/-! ## Paging by natural numbers -/

/-- A paging tells of page `p` of `count` items, in pages of `n`, what the natural numbers do. -/
structure Paging.Exact (paging : Paging) (p n count : Nat) : Prop where
  page : paging.page.toNat = p
  itemsPerPage : paging.itemsPerPage.toNat = n
  total : paging.total.toNat = count
  /-- There is a page at least, and no fewer pages would hold everything. -/
  lastPage : IsLeast { pages : Nat | 1 ≤ pages ∧ count ≤ pages * n } paging.lastPage.toNat
  nextPage_pos : 1 ≤ paging.nextPage.toNat
  nextPage_le : paging.nextPage.toNat ≤ paging.lastPage.toNat
  /-- The next page follows the page, unless the page is the last or behind it. -/
  nextPage : paging.nextPage.toNat = p + 1 ↔ p < paging.lastPage.toNat
  previousPage : paging.previousPage.toNat = if p = 1 then 1 else p - 1

theorem isLeast_pieceCount {rows size : Nat} (h : 0 < size) :
    IsLeast { pieces : Nat | 1 ≤ pieces ∧ rows ≤ pieces * size } (pieceCount rows size) :=
  ⟨⟨Nat.le_max_right _ _, le_pieceCount_mul h⟩,
    fun _ ⟨hone, hrows⟩ => pieceCount_le_of_le_mul h hone hrows⟩

theorem Paging.exact_new (page size total : UInt64) :
    (Paging.new page size total).Exact (max page.toNat 1) (max size.toNat 1) total.toNat := by
  have hsize : 0 < max size.toNat 1 := Nat.lt_of_lt_of_le Nat.one_pos (Nat.le_max_right _ _)
  have hpage : (Paging.new page size total).page.toNat = max page.toNat 1 := toNat_max _ _
  have hlast := Paging.toNat_lastPage_eq page size total
  have hlastPos : 1 ≤ (Paging.new page size total).lastPage.toNat := by
    rw [hlast]
    exact Nat.le_max_right _ _
  have hlastLt := (Paging.new page size total).lastPage.toNat_lt
  have hpageLt := (Paging.new page size total).page.toNat_lt
  -- a next page that is cut is behind the last one anyway
  have hnext : (Paging.new page size total).nextPage.toNat =
      min (Paging.new page size total).lastPage.toNat (max page.toNat 1 + 1) := by
    show (min (Paging.new page size total).lastPage
      (saturate ((Paging.new page size total).page.toNat + 1))).toNat = _
    rw [toNat_min, toNat_saturate, hpage]
    have hmax : UInt64.size = 2 ^ 64 := rfl
    omega
  have hprevious : (Paging.new page size total).previousPage.toNat =
      max (max page.toNat 1 - 1) 1 := by
    show (saturate (max ((Paging.new page size total).page.toNat - 1) 1)).toNat = _
    rw [hpage] at hpageLt ⊢
    refine toNat_saturate_of_lt ?_
    show _ < 2 ^ 64
    omega
  exact
    { page := hpage
      itemsPerPage := toNat_max _ _
      total := rfl
      lastPage := by
        rw [hlast]
        exact isLeast_pieceCount hsize
      nextPage_pos := by omega
      nextPage_le := by omega
      nextPage := by omega
      previousPage := by
        rw [hprevious]
        split <;> omega }

/-- To hold the page and the size within their bounds once more changes nothing. -/
theorem Paging.new_clamped (r : Request) (total : UInt64) :
    Paging.new r.pageNumber r.pageSize total = Paging.new r.page r.itemsPerPage total := by
  have hpage : max r.pageNumber 1 = r.pageNumber := by
    refine UInt64.toNat.inj ?_
    rw [toNat_max]
    exact Nat.max_eq_left r.pageNumber_pos
  have hsize : max r.pageSize 1 = r.pageSize := by
    refine UInt64.toNat.inj ?_
    rw [toNat_max]
    exact Nat.max_eq_left r.pageSize_pos
  rw [Paging.new, hpage, hsize]
  rfl

/-! ## Offsets by natural numbers -/

namespace Request

/-- An offset that is cut is the largest number there is. -/
theorem toNat_offset (r : Request) :
    r.offset.toNat = if (r.pageNumber.toNat - 1) * r.pageSize.toNat < UInt64.size then
      (r.pageNumber.toNat - 1) * r.pageSize.toNat else UInt64.size - 1 := by
  rw [offset, toNat_saturate]
  split <;> omega

theorem offset_mono {r later : Request} (hsize : r.pageSize = later.pageSize)
    (hpage : r.pageNumber ≤ later.pageNumber) : r.offset ≤ later.offset := by
  have hnumber : r.pageNumber.toNat ≤ later.pageNumber.toNat :=
    UInt64.le_iff_toNat_le.mp hpage
  have hmul : (r.pageNumber.toNat - 1) * later.pageSize.toNat ≤
      (later.pageNumber.toNat - 1) * later.pageSize.toNat :=
    Nat.mul_le_mul_right _ (by omega)
  rw [UInt64.le_iff_toNat_le, offset, offset, toNat_saturate, toNat_saturate, hsize]
  omega

/-- A page begins within everything exactly when it is none behind the last. A total is never
the number that stands for an offset that is cut, or the offset would be behind it. -/
theorem offset_lt_iff (r : Request) (total : UInt64) :
    r.offset < total ↔
      r.pageNumber ≤ (Paging.new r.page r.itemsPerPage total).lastPage ∧ 0 < total := by
  have hsize : max r.itemsPerPage.toNat 1 = r.pageSize.toNat := r.toNat_pageSize.symm
  have hlt := total.toNat_lt
  have hcut : r.offset.toNat < total.toNat ↔
      (r.pageNumber.toNat - 1) * r.pageSize.toNat < total.toNat := by
    have hmax : UInt64.size = 2 ^ 64 := rfl
    rw [offset, toNat_saturate]
    omega
  rw [UInt64.lt_iff_toNat_lt, UInt64.lt_iff_toNat_lt, UInt64.le_iff_toNat_le,
    Paging.toNat_lastPage_eq, hsize, hcut]
  exact pred_mul_lt_iff r.pageSize_pos r.pageNumber_pos

end Request

/-- Paging and offset are those of the natural numbers, for every page, size and total: all steps
have an answer, the paging is exact, and the offset is exact where 64 bits can hold it and the
largest number elsewhere. It does not fall from page to page of one size, and it is within the
total for the pages up to the last one of a total that is not zero, and for no others. -/
theorem paging_exact (request : Request) (total : UInt64) :
    let p := max request.page.toNat 1
    let n := max request.itemsPerPage.toNat 1
    let paging := Paging.new request.page request.itemsPerPage total
    Paging.new? request.page request.itemsPerPage total = some paging ∧
      request.offset? = some request.offset ∧
      paging.Exact p n total.toNat ∧
      request.offset.toNat =
        (if (p - 1) * n < UInt64.size then (p - 1) * n else UInt64.size - 1) ∧
      (∀ later : Request, max later.itemsPerPage.toNat 1 = n → p ≤ max later.page.toNat 1 →
        request.offset ≤ later.offset) ∧
      (request.offset < total ↔ p ≤ paging.lastPage.toNat ∧ 0 < total) := by
  intro p n paging
  have hpage : request.pageNumber.toNat = p := request.toNat_pageNumber
  have hsize : request.pageSize.toNat = n := request.toNat_pageSize
  refine ⟨Paging.new?_eq _ _ _, request.offset?_eq, Paging.exact_new _ _ _, ?_, ?_, ?_⟩
  · rw [request.toNat_offset, hpage, hsize]
  · intro later hlater hle
    have hsame : request.pageSize = later.pageSize := by
      refine UInt64.toNat.inj ?_
      rw [hsize, ← hlater, later.toNat_pageSize]
    refine Request.offset_mono hsame ?_
    rw [UInt64.le_iff_toNat_le, hpage, later.toNat_pageNumber]
    exact hle
  · rw [request.offset_lt_iff total, UInt64.le_iff_toNat_le, hpage]

/-- The first page of two items whose offset is cut. -/
example : (Request.default.turnTo 9223372036854775809 2).offset = 18446744073709551615 := by
  decide

end DataGrid
