import DataGrid.Document.Path
import DataGrid.Proofs.Keyed

/-!
# DataGrid.Proofs.Document.Path -- what a path leaves alone

A path goes in at its first segment. Giving it a value or removing what is there touches the
field of that name at the top of the document and no other, and of the other fields none
comes or goes. The first segment is the text in front of the first dot.
-/

namespace DataGrid

/-! ## The first segment -/

theorem Text.head?_splitAt (separator : Char) (cs : List Char) :
    (splitAt separator cs).head? = some (cs.takeWhile (· != separator)) := by
  induction cs with
  | nil => rfl
  | cons c rest ih =>
    rw [splitAt]
    split
    · next h => simp [h]
    · next h =>
      cases hparts : splitAt separator rest with
      | nil => exact absurd hparts (splitAt_ne_nil separator rest)
      | cons part others =>
        rw [hparts, List.head?_cons, Option.some.injEq] at ih
        simp [h, ih]

namespace Path

/-- The text in front of the first dot: where a path goes in. -/
def entrance (text : String) : String := String.ofList (text.toList.takeWhile (· != '.'))

theorem exists_ofText (text : String) : ∃ rest, ofText text = entrance text :: rest := by
  have hhead := Text.head?_splitAt '.' text.toList
  unfold ofText entrance
  cases hparts : Text.splitAt '.' text.toList with
  | nil => exact absurd hparts (Text.splitAt_ne_nil '.' text.toList)
  | cons part others =>
    rw [hparts, List.head?_cons, Option.some.injEq] at hhead
    exact ⟨others.map String.ofList, by rw [List.map_cons, hhead]⟩

/-- A path that goes in at a name is the name itself, or leads on from it. -/
theorem eq_or_isPrefix_of_entrance {text name : String} (h : entrance text = name) :
    text = name ∨ name.toList ++ ['.'] <+: text.toList := by
  have htake : text.toList.takeWhile (· != '.') = name.toList := by
    rw [← h, entrance, String.toList_ofList]
  have hsplit := List.takeWhile_append_dropWhile (p := (· != '.')) (l := text.toList)
  rw [htake] at hsplit
  cases hrest : text.toList.dropWhile (· != '.') with
  | nil =>
    rw [hrest, List.append_nil] at hsplit
    exact .inl (String.toList_inj.mp hsplit.symm)
  | cons c rest =>
    have hdot : (c != '.') = false := by
      have hhead := List.head?_dropWhile_not (p := (· != '.')) text.toList
      rw [hrest] at hhead
      exact hhead
    rw [hrest, bne_eq_false_iff_eq.mp hdot] at hsplit
    exact .inr ⟨rest, by rw [List.append_assoc]; exact hsplit⟩

end Path

/-! ## Setting and removing -/

namespace Document

variable {d : Document} {key head : String}

theorem get?_set_of_ne (h : key ≠ head) (rest : Path) (value : Value) :
    Keyed.get? (set d (head :: rest) value) key = Keyed.get? d key := by
  cases rest with
  | nil => exact Keyed.get?_insert_of_ne d value h
  | cons next others => exact Keyed.get?_insert_of_ne d _ h

theorem mem_keys_set {rest : Path} {value : Value}
    (h : key ∈ Keyed.keys (set d (head :: rest) value)) : key = head ∨ key ∈ Keyed.keys d := by
  have hinsert : ∃ new, set d (head :: rest) value = Keyed.insert d head new := by
    cases rest with
    | nil => exact ⟨value, rfl⟩
    | cons next others => exact ⟨_, rfl⟩
  obtain ⟨new, hnew⟩ := hinsert
  rw [hnew] at h
  obtain ⟨entry, hentry, rfl⟩ := List.mem_map.mp h
  rcases Keyed.mem_insert hentry with rfl | hold
  · exact .inl rfl
  · exact .inr (List.mem_map_of_mem hold)

theorem get?_remove_of_ne (h : key ≠ head) (rest : Path) :
    Keyed.get? (remove d (head :: rest)) key = Keyed.get? d key := by
  cases rest with
  | nil => exact Keyed.get?_erase_of_ne d h
  | cons next others =>
    rw [remove]
    split
    · exact Keyed.get?_insert_of_ne d _ h
    · rfl
    · simp

end Document
end DataGrid
