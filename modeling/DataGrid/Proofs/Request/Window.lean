import DataGrid.Response.Paging

/-!
# DataGrid.Proofs.Request.Window -- the rows that a page shows

A page shows the rows behind its offset, as many as its size. Counted exactly, the pages up
to the last one cut a list into pieces that make up the list again, all but the last of full
size. Counted in 64 bits, an offset that fits is exact, and one that does not fit is past
the end of any list that does.
-/

namespace DataGrid

theorem toNat_saturate (n : Nat) : (saturate n).toNat = min n (UInt64.size - 1) := by
  have h : min n (UInt64.size - 1) < UInt64.size := by
    have : 0 < UInt64.size := by decide
    omega
  exact UInt64.toNat_ofNat_of_lt' h

theorem toNat_saturate_of_lt {n : Nat} (h : n < UInt64.size) : (saturate n).toNat = n := by
  rw [toNat_saturate]
  omega

/-- A number that a stage can hold is not cut. -/
theorem toNat_saturate_of_held {n : Nat} (h : n < 0x8000000000000000) :
    (saturate n).toNat = n := toNat_saturate_of_lt (Nat.lt_trans h (by decide))

theorem toNat_max (a b : UInt64) : (max a b).toNat = max a.toNat b.toNat := by
  show (if a ≤ b then b else a).toNat = _
  by_cases h : a ≤ b
  · rw [if_pos h, Nat.max_eq_right (UInt64.le_iff_toNat_le.mp h)]
  · rw [if_neg h, Nat.max_eq_left]
    exact Nat.le_of_not_le fun hle => h (UInt64.le_iff_toNat_le.mpr hle)

theorem toNat_min (a b : UInt64) : (min a b).toNat = min a.toNat b.toNat := by
  show (if a ≤ b then a else b).toNat = _
  by_cases h : a ≤ b
  · rw [if_pos h, Nat.min_eq_left (UInt64.le_iff_toNat_le.mp h)]
  · rw [if_neg h, Nat.min_eq_right]
    exact Nat.le_of_not_le fun hle => h (UInt64.le_iff_toNat_le.mpr hle)

/-! ## Pieces of a list -/

section Pieces

variable {α : Type}

/-- Pieces of one size, one behind the other, are the front of the list. -/
theorem flatMap_pieces (rows : List α) (size count : Nat) :
    ((List.range count).flatMap fun i => (rows.drop (i * size)).take size) =
      rows.take (count * size) := by
  induction count with
  | zero => simp
  | succ count ih =>
    rw [List.range_succ, List.flatMap_append, ih, Nat.succ_mul, List.take_add]
    simp

/-- The number of pieces of a size that a number of rows fill, one at least. -/
def pieceCount (rows size : Nat) : Nat := max ((rows + size - 1) / size) 1

variable {rows size : Nat}

/-- The pieces hold all rows. -/
theorem le_pieceCount_mul (h : 0 < size) : rows ≤ pieceCount rows size * size := by
  have hdiv : rows + size - 1 < (rows + size - 1) / size * size + size :=
    Nat.lt_div_mul_add h
  have hmax : (rows + size - 1) / size * size ≤ pieceCount rows size * size :=
    Nat.mul_le_mul_right size (Nat.le_max_left _ _)
  omega

/-- No piece is empty. -/
theorem pieceCount_pred_mul_lt (h : 0 < size) (hrows : 0 < rows) :
    (pieceCount rows size - 1) * size < rows := by
  have hone : 1 ≤ (rows + size - 1) / size := (Nat.one_le_div_iff h).mpr (by omega)
  have hdiv : (rows + size - 1) / size * size ≤ rows + size - 1 := Nat.div_mul_le_self _ _
  rw [pieceCount, Nat.max_eq_left hone, Nat.sub_mul, Nat.one_mul]
  have := Nat.mul_le_mul_right size hone
  omega

theorem pieceCount_le (h : 0 < size) : pieceCount rows size ≤ max rows 1 := by
  rcases Nat.eq_zero_or_pos rows with rfl | hrows
  · have hzero : (0 + size - 1) / size = 0 := Nat.div_eq_of_lt (by omega)
    have hone : pieceCount 0 size = max 0 1 := by rw [pieceCount, hzero]
    exact Nat.le_of_eq hone
  · have hlt := pieceCount_pred_mul_lt h hrows
    have hle := Nat.le_mul_of_pos_right (pieceCount rows size - 1) h
    omega

variable {k : Nat}

/-- So many pieces that hold all rows are no fewer. -/
theorem pieceCount_le_of_le_mul (h : 0 < size) (hk : 1 ≤ k) (hrows : rows ≤ k * size) :
    pieceCount rows size ≤ k := by
  rcases Nat.eq_zero_or_pos rows with rfl | hpos
  · have hone : pieceCount 0 size ≤ max 0 1 := pieceCount_le h
    omega
  · refine Nat.le_of_not_lt fun hlt => ?_
    have hbefore := pieceCount_pred_mul_lt h hpos
    have hmul : k * size ≤ (pieceCount rows size - 1) * size :=
      Nat.mul_le_mul_right size (by omega)
    omega

/-- The pieces that begin within the rows are those up to the last. -/
theorem pred_mul_lt_iff (h : 0 < size) (hk : 1 ≤ k) :
    (k - 1) * size < rows ↔ k ≤ pieceCount rows size ∧ 0 < rows := by
  constructor
  · intro hbegin
    have hcover : rows ≤ pieceCount rows size * size := le_pieceCount_mul h
    have hpred := Nat.lt_of_mul_lt_mul_right (Nat.lt_of_lt_of_le hbegin hcover)
    omega
  · rintro ⟨hle, hrows⟩
    have hmul : (k - 1) * size ≤ (pieceCount rows size - 1) * size :=
      Nat.mul_le_mul_right size (by omega)
    exact Nat.lt_of_le_of_lt hmul (pieceCount_pred_mul_lt h hrows)

variable {all : List α}

/-- Every piece before the last is full. -/
theorem length_piece (h : 0 < size) (hk : 1 ≤ k) (hlt : k < pieceCount all.length size) :
    ((all.drop ((k - 1) * size)).take size).length = size := by
  have hall : 0 < all.length := by
    have hle : pieceCount all.length size ≤ max all.length 1 := pieceCount_le h
    omega
  have hbefore := pieceCount_pred_mul_lt h hall
  have hend : k * size ≤ (pieceCount all.length size - 1) * size :=
    Nat.mul_le_mul_right size (by omega)
  have hbegin : (k - 1) * size = k * size - size := by rw [Nat.sub_mul, Nat.one_mul]
  have hone : 1 * size ≤ k * size := Nat.mul_le_mul_right size hk
  rw [List.length_take, List.length_drop]
  omega

/-- The last piece is not empty and no larger than the others. -/
theorem length_last_piece (h : 0 < size) (hall : 0 < all.length) :
    1 ≤ ((all.drop ((pieceCount all.length size - 1) * size)).take size).length ∧
      ((all.drop ((pieceCount all.length size - 1) * size)).take size).length ≤ size := by
  have hbefore := pieceCount_pred_mul_lt h hall
  rw [List.length_take, List.length_drop]
  omega

/-- There is nothing behind the last piece. -/
theorem piece_beyond (h : 0 < size) (hk : pieceCount all.length size < k) :
    (all.drop ((k - 1) * size)).take size = [] := by
  have hcover : all.length ≤ pieceCount all.length size * size := le_pieceCount_mul h
  have hmul : pieceCount all.length size * size ≤ (k - 1) * size :=
    Nat.mul_le_mul_right size (by omega)
  rw [List.drop_eq_nil_of_le (by omega), List.take_nil]

end Pieces

/-- The last page is the number of the last piece. It is never cut, because there are no more
pieces than rows. -/
theorem Paging.toNat_lastPage_eq (page size total : UInt64) :
    (Paging.new page size total).lastPage.toNat = pieceCount total.toNat (max size.toNat 1) := by
  have hle : pieceCount total.toNat (max size.toNat 1) ≤ max total.toNat 1 :=
    pieceCount_le (Nat.lt_of_lt_of_le Nat.one_pos (Nat.le_max_right _ _))
  have hlt := total.toNat_lt
  have hfits : pieceCount total.toNat (max size.toNat 1) < UInt64.size := by
    show _ < 2 ^ 64
    omega
  have hsize : (max size 1).toNat = max size.toNat 1 := toNat_max _ _
  rw [Paging.new, hsize]
  exact toNat_saturate_of_lt hfits

theorem Paging.toNat_lastPage (page : UInt64) {size total : UInt64} (h : 0 < size.toNat) :
    (Paging.new page size total).lastPage.toNat = pieceCount total.toNat size.toNat := by
  rw [Paging.toNat_lastPage_eq, Nat.max_eq_left h]

/-! ## Windows -/

namespace Request

variable {α : Type}

/-- The same request for another page or another size. -/
def turnTo (r : Request) (page size : UInt64) : Request :=
  { r with page := page, itemsPerPage := size }

/-- The rows that the page of a request shows. -/
def window (r : Request) (rows : List α) : List α :=
  (rows.drop r.offset.toNat).take r.pageSize.toNat

theorem toNat_pageSize (r : Request) : r.pageSize.toNat = max r.itemsPerPage.toNat 1 :=
  toNat_max _ _

theorem pageSize_pos (r : Request) : 0 < r.pageSize.toNat := by
  rw [toNat_pageSize]
  omega

theorem pageSize_ne_zero (r : Request) : r.pageSize ≠ 0 := by
  intro h
  have hpos := r.pageSize_pos
  rw [h] at hpos
  exact Nat.lt_irrefl _ hpos

theorem toNat_pageNumber (r : Request) : r.pageNumber.toNat = max r.page.toNat 1 :=
  toNat_max _ _

theorem pageNumber_pos (r : Request) : 1 ≤ r.pageNumber.toNat := by
  rw [toNat_pageNumber]
  exact Nat.le_max_right _ _

/-- A page that begins within the list is cut exactly there. -/
theorem window_of_le {r : Request} {rows : List α} (fits : rows.length < UInt64.size)
    (h : (r.pageNumber.toNat - 1) * r.pageSize.toNat ≤ rows.length) :
    r.window rows =
      (rows.drop ((r.pageNumber.toNat - 1) * r.pageSize.toNat)).take r.pageSize.toNat := by
  rw [window, offset, toNat_saturate_of_lt (by omega)]

/-- A page that begins behind the list shows nothing, also when its offset is held within
64 bits. -/
theorem window_of_ge {r : Request} {rows : List α} (fits : rows.length < UInt64.size)
    (h : rows.length ≤ (r.pageNumber.toNat - 1) * r.pageSize.toNat) : r.window rows = [] := by
  rw [window, offset, toNat_saturate, List.drop_eq_nil_of_le (by omega), List.take_nil]

/-- The first page shows everything when it is large enough. -/
theorem window_first {r : Request} {rows : List α} (hpage : r.pageNumber.toNat = 1)
    (h : rows.length ≤ r.pageSize.toNat) : r.window rows = rows := by
  have hoffset : r.offset = 0 := by
    rw [offset, hpage, Nat.sub_self, Nat.zero_mul]
    rfl
  rw [window, hoffset]
  exact List.take_of_length_le h

end Request
end DataGrid
