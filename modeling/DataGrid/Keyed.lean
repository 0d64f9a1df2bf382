/-!
# DataGrid.Keyed -- ordered association lists

Values under text keys in a significant order. Giving a key a value replaces the value
that is there, at its place, and otherwise adds the key behind the others; removing a key
keeps the order of the rest. Documents, column tables and the collections of a store are
all lists of this kind.
-/

namespace DataGrid

abbrev Keyed (α : Type) := List (String × α)

namespace Keyed

variable {α : Type}

/-- The value of a key. -/
def get? (entries : Keyed α) (key : String) : Option α := List.lookup key entries

def contains (entries : Keyed α) (key : String) : Bool := (get? entries key).isSome

/-- The keys in order. -/
def keys (entries : Keyed α) : List String := entries.map Prod.fst

/-- The values in order. -/
def values (entries : Keyed α) : List α := entries.map Prod.snd

/-- Gives a key a value: in place if the key is there, else behind the others. -/
def insert : Keyed α → String → α → Keyed α
  | [], key, value => [(key, value)]
  | (k, v) :: rest, key, value =>
    if k = key then (k, value) :: rest else (k, v) :: insert rest key value

/-- Removes a key; the order of the others stays. -/
def erase (entries : Keyed α) (key : String) : Keyed α :=
  entries.filter fun entry => entry.1 != key

/-- The list that results from inserting entries one by one. -/
def ofEntries (entries : List (String × α)) : Keyed α :=
  entries.foldl (fun done entry => insert done entry.1 entry.2) []

/-- Every key occurs once. -/
def DistinctKeys (entries : Keyed α) : Prop := (keys entries).Nodup

instance (entries : Keyed α) : Decidable (DistinctKeys entries) :=
  inferInstanceAs (Decidable (keys entries).Nodup)

/-! ## What the operations do to look-up -/

@[simp] theorem get?_nil (key : String) : get? ([] : Keyed α) key = none := rfl

theorem get?_cons (entry : String × α) (rest : Keyed α) (key : String) :
    get? (entry :: rest) key = if key = entry.1 then some entry.2 else get? rest key := by
  have step : get? (entry :: rest) key = match key == entry.1 with
    | true => some entry.2
    | false => get? rest key := rfl
  rw [step]
  by_cases h : key = entry.1
  · simp [h]
  · simp [h, beq_eq_false_iff_ne.2 h]

@[simp] theorem get?_insert_self (entries : Keyed α) (key : String) (value : α) :
    get? (insert entries key value) key = some value := by
  fun_induction insert entries key value with
  | case1 => simp [get?_cons]
  | case2 => simp_all [get?_cons]
  | case3 key value k v rest hne ih => simp [get?_cons, Ne.symm hne, ih]

theorem get?_insert_of_ne (entries : Keyed α) {key other : String} (value : α)
    (h : other ≠ key) : get? (insert entries key value) other = get? entries other := by
  fun_induction insert entries key value with
  | case1 => simp [get?_cons, h]
  | case2 => simp_all [get?_cons]
  | case3 key value k v rest hne ih => simp [get?_cons, ih h]

@[simp] theorem get?_erase_self (entries : Keyed α) (key : String) :
    get? (erase entries key) key = none := by
  induction entries with
  | nil => rfl
  | cons entry rest ih =>
    by_cases h : entry.1 = key
    · simpa [erase, h] using ih
    · simpa [erase, h, get?_cons, Ne.symm h] using ih

theorem get?_erase_of_ne (entries : Keyed α) {key other : String} (h : other ≠ key) :
    get? (erase entries key) other = get? entries other := by
  induction entries with
  | nil => rfl
  | cons entry rest ih =>
    by_cases hk : entry.1 = key
    · have : other ≠ entry.1 := by simpa [hk] using h
      simpa [erase, hk, get?_cons, this, h] using ih
    · simpa [erase, hk, get?_cons] using congrArg _ ih

end Keyed
end DataGrid
