import DataGrid.Compile.Condition
import DataGrid.Store.Matcher

/-!
# DataGrid.Proofs.Pattern.Literal -- escaped text is read back as itself

Escaping puts a backslash in front of every character with a meaning of its own, so reading an
escaped text takes one character after the other, each as a literal, whatever the text is. The
patterns that a compiler writes are such texts, perhaps with an anchor in front or behind; they
are read as `Compile.literalNode`, and nothing but their size can make a store refuse them.
-/

namespace DataGrid.Pattern

/-! ## Items that nothing is nested in -/

/-- The node is a part of its own in a sequence around it. -/
def Node.IsPart (node : Node) : Prop := parts node = [node]

theorem Node.isPart_ofPoints (unicode : Bool) (members : Text.CodePoints) :
    (ofPoints unicode members).IsPart := by
  unfold IsPart ofPoints nothing
  split
  · rfl
  · split <;> rfl

theorem Node.inSequence_singleton {node : Node} (h : node.IsPart) : inSequence [node] = node := by
  have hparts : [node].flatMap parts = [node] := by rw [List.flatMap_singleton, h]
  have hjoin : joinLiterals [node] = [node] := by
    unfold joinLiterals
    cases node <;> rfl
  rw [inSequence, hparts, hjoin]

/-- A pattern as an item of a branch. -/
def Item.flat (node : Node) : Item := ⟨node, 0, true⟩

/-- Such items put together as a sequence. The last item comes first in the list. -/
theorem Item.together_flat {nodes : List Node} (h : ∀ node ∈ nodes, node.IsPart) :
    (Item.together .inSequence (nodes.reverse.map flat)).node = .inSequence nodes ∧
      (Item.together .inSequence (nodes.reverse.map flat)).depth ≤ 1 := by
  have hdepth : ∀ (nodes : List Node) (depth : Nat),
      (nodes.map flat).foldl (fun depth item => max depth item.depth) depth = depth := by
    intro nodes
    induction nodes with
    | nil => exact fun _ => rfl
    | cons node nodes ih => exact fun depth => (ih _).trans (Nat.max_eq_left (Nat.zero_le _))
  obtain ⟨reversed, rfl⟩ : ∃ reversed, nodes = List.reverse reversed :=
    ⟨nodes.reverse, nodes.reverse_reverse.symm⟩
  rw [List.reverse_reverse]
  match reversed with
  | [] => exact ⟨rfl, Nat.zero_le 1⟩
  | [only] => exact ⟨(Node.inSequence_singleton (h only (by simp))).symm, Nat.zero_le 1⟩
  | last :: before :: others =>
    refine ⟨?_, Nat.le_of_eq (congrArg (· + 1) (hdepth _ 0))⟩
    show Node.inSequence (((last :: before :: others).map flat).reverse.map Item.node) = _
    rw [← List.map_reverse, List.map_map]
    exact congrArg _ (List.map_id _)

/-! ## Characters that are taken -/

namespace Reader

variable {flags : Flags} {cs cs' : List Char} {nodes nodes' : List Node}

/-- In whatever state the characters are read, they add the given patterns to the branch, and
leave the fuel for what follows. -/
def Takes (flags : Flags) (cs : List Char) (nodes : List Node) : Prop :=
  ∀ (s : ReaderState) (rest : List Char) (fuel : Nat), s.flags = flags →
    ∃ left, fuel ≤ left ∧ run? (cs.length + fuel) s (cs ++ rest) =
      run? left { s with branch := nodes.reverse.map .flat ++ s.branch } rest

theorem Takes.nil (flags : Flags) : Takes flags [] [] := fun _ _ fuel _ =>
  ⟨0 + fuel, Nat.le_add_left _ _, rfl⟩

theorem Takes.append (h : Takes flags cs nodes) (h' : Takes flags cs' nodes') :
    Takes flags (cs ++ cs') (nodes ++ nodes') := by
  intro s rest fuel hflags
  obtain ⟨middle, hmiddle, hrun⟩ := h s (cs' ++ rest) (cs'.length + fuel) hflags
  obtain ⟨more, rfl⟩ := Nat.exists_eq_add_of_le hmiddle
  obtain ⟨left, hleft, hrun'⟩ := h'
    { s with branch := nodes.reverse.map .flat ++ s.branch } rest (fuel + more) hflags
  refine ⟨left, Nat.le_trans (Nat.le_add_right _ _) hleft, ?_⟩
  rw [List.length_append, Nat.add_assoc, List.append_assoc, hrun, Nat.add_assoc, hrun',
    List.reverse_append, List.map_append, List.append_assoc]

/-- One step that adds one pattern. It may take more than one character. -/
theorem Takes.step {c : Char} {node : Node} (layout : flags.ignoreSpace = false)
    (h : ∀ (s : ReaderState) (rest : List Char), s.flags = flags →
      step? s c (cs ++ rest) = some (s.push node 0, rest)) : Takes flags (c :: cs) [node] := by
  intro s rest fuel hflags
  refine ⟨cs.length + fuel, Nat.le_add_left _ _, ?_⟩
  have hskip : s.flags.skip (c :: (cs ++ rest)) = c :: (cs ++ rest) := by
    rw [hflags, Flags.skip, layout]
    rfl
  rw [List.length_cons, Nat.add_right_comm, List.cons_append, run?.eq_def]
  simp only [hskip, h s rest hflags]
  rfl

/-- What is taken is read as a sequence, unless that is too large. -/
theorem Takes.read? (h : Takes flags cs nodes) (layout : flags.ignoreSpace = false)
    (parts : ∀ node ∈ nodes, node.IsPart) :
    Node.read? flags cs =
      if (Node.inSequence nodes).fits then some (.inSequence nodes) else none := by
  let final : ReaderState :=
    { ReaderState.start flags with branch := nodes.reverse.map .flat ++ [] }
  have hrun : run? cs.length (.start flags) cs = some final := by
    obtain ⟨left, -, hrun⟩ := h (.start flags) [] 0 rfl
    rw [List.append_nil, Nat.add_zero] at hrun
    have hskip : flags.skip [] = [] := by
      rw [Flags.skip, layout]
      rfl
    rw [hrun, run?.eq_def]
    simp only [ReaderState.start, hskip]
    rfl
  have hwhole : final.whole = Item.together .inSequence (nodes.reverse.map .flat) := by
    show Item.together .inSequence (nodes.reverse.map .flat ++ []) = _
    rw [List.append_nil]
  obtain ⟨hnode, hdepth⟩ := Item.together_flat parts
  have hlimit := Nat.le_trans hdepth (show 1 ≤ depthLimit by decide)
  rw [Node.read?, hrun, Option.bind_eq_bind, Option.bind_some]
  simp only [hwhole, hnode, hlimit]
  rfl

/-! ## Escaped text is taken character by character -/

/-- A character without a meaning of its own stands for itself. -/
theorem step?_of_not_meta {c : Char} (h : isMeta c = false) (s : ReaderState)
    (rest : List Char) : step? s c rest = some (s.push (s.flags.literal c) 0, rest) := by
  unfold step?
  -- all other characters that `step?` looks for have a meaning
  split
  all_goals first
    | rfl
    | exact absurd h (by decide)

/-- Behind a backslash a character that has a meaning stands for itself. -/
theorem step?_escaped {c : Char} (h : isMeta c = true) (s : ReaderState) (rest : List Char) :
    step? s '\\' (c :: rest) = some (s.push (s.flags.literal c) 0, rest) := by
  have hread : Escaped.read? s.flags (c :: rest) = some (.char c false, rest) := by
    unfold Escaped.read?
    simp only [h, Bool.true_or, if_true]
  unfold step?
  dsimp only
  rw [hread]
  rfl

/-- By induction on the text, one character at a time. -/
theorem takes_escape (layout : flags.ignoreSpace = false) (text : List Char) :
    Takes flags (escape text) (text.map flags.literal) := by
  induction text with
  | nil => exact .nil flags
  | cons c text ih =>
    have hescape : escape (c :: text) = (if isMeta c then ['\\', c] else [c]) ++ escape text := rfl
    rw [hescape]
    show Takes flags _ ([flags.literal c] ++ text.map flags.literal)
    refine Takes.append ?_ ih
    cases hmeta : isMeta c with
    | true =>
      exact .step layout fun s rest hflags => hflags ▸ step?_escaped hmeta s rest
    | false =>
      exact .step layout fun s rest hflags => hflags ▸ step?_of_not_meta hmeta s rest

end Reader
end DataGrid.Pattern

namespace DataGrid.Compile

open Pattern

/-- How a store reads the patterns of literal texts: case does not count. -/
def literalFlags : Flags := { ignoreCase := true }

/-- What the pattern of a literal text is read as. -/
def literalNode (text : String) (mode : LikeMode) : Node :=
  let literals := text.toList.map literalFlags.literal
  .inSequence <| match mode with
    | .contains => literals
    | .startsWith => .assertion .textStart :: literals
    | .endsWith => literals ++ [.assertion .textEnd]

/-- Reading the pattern of a literal text fails on account of its size alone. -/
theorem read?_likePattern (text : String) (mode : LikeMode) :
    Node.read? literalFlags (likePattern text mode).toList =
      if (literalNode text mode).fits then some (literalNode text mode) else none := by
  have hescape : Reader.Takes literalFlags (escape text.toList)
      (text.toList.map literalFlags.literal) := Reader.takes_escape rfl text.toList
  have hliterals : ∀ node ∈ text.toList.map literalFlags.literal, node.IsPart := by
    intro node hnode
    obtain ⟨c, -, rfl⟩ := List.mem_map.mp hnode
    exact Node.isPart_ofPoints _ _
  unfold likePattern
  rw [String.toList_ofList]
  cases mode with
  | contains => exact hescape.read? rfl hliterals
  | startsWith =>
    have hcaret : Reader.Takes literalFlags ['^'] [.assertion .textStart] :=
      .step rfl fun s rest hflags => by
        show some (s.push (.assertion s.flags.caret) 0, rest) = _
        rw [hflags]
        rfl
    exact (hcaret.append hescape).read? rfl (List.forall_mem_cons.mpr ⟨rfl, hliterals⟩)
  | endsWith =>
    have hdollar : Reader.Takes literalFlags ['$'] [.assertion .textEnd] :=
      .step rfl fun s rest hflags => by
        show some (s.push (.assertion s.flags.dollar) 0, rest) = _
        rw [hflags]
        rfl
    exact (hescape.append hdollar).read? rfl
      (List.forall_mem_append.mpr ⟨hliterals, List.forall_mem_singleton.mpr rfl⟩)

end DataGrid.Compile

namespace DataGrid.Store.Matcher

/-- A store refuses the pattern of a literal text only when it is too large. -/
theorem pattern_likePattern {text : String} {mode : Compile.LikeMode}
    (fits : (Compile.literalNode text mode).fits = true) :
    pattern (Compile.likePattern text mode) "i" = .ok (Compile.literalNode text mode) := by
  have hread := Compile.read?_likePattern text mode
  rw [fits, if_pos rfl] at hread
  rw [pattern]
  split
  case h_1 node hnode => exact congrArg Except.ok (Option.some.inj (hnode.symm.trans hread))
  case h_2 hnone => cases hnone.symm.trans hread

/-- A pattern that is too large is refused. -/
theorem pattern_likePattern_too_large {text : String} {mode : Compile.LikeMode}
    (large : (Compile.literalNode text mode).fits = false) :
    pattern (Compile.likePattern text mode) "i" =
      .error (.malformedPattern (Compile.likePattern text mode) "i") := by
  have hread := Compile.read?_likePattern text mode
  rw [large, if_neg Bool.false_ne_true] at hread
  rw [pattern]
  split
  case h_1 node hnode => cases hnode.symm.trans hread
  case h_2 => rfl

end DataGrid.Store.Matcher

namespace DataGrid.Pattern

/-! ## Texts that are too large -/

theorem length_le_ofChars (cs : List Char) : cs.length ≤ (Utf8.ofChars cs).length := by
  have hbytes : ∀ point, 1 ≤ (Utf8.bytes point).length := by
    intro point
    unfold Utf8.bytes
    repeat' split
    all_goals simp
  induction cs with
  | nil => exact Nat.zero_le _
  | cons c cs ih =>
    have hcons : Utf8.ofChars (c :: cs) = Utf8.bytes c.toNat ++ Utf8.ofChars cs := rfl
    have := hbytes c.toNat
    rw [hcons, List.length_append, List.length_cons]
    omega

/-- A literal takes a state a byte, so a long one does not stay within the limit. -/
theorem Node.not_fits_literal {cs : List Char} (h : Footprint.limit < 32 * cs.length) :
    (Node.literal cs).fits = false := by
  have hlength := length_le_ofChars cs
  have hlead : (Node.literal cs).endsWith .textEnd = false := rfl
  have hplace : ((Node.literal cs).layout .backward).place? (lead false) = none := by
    show ((lead false).grow? (Utf8.ofChars cs).length 0).map (·, false) = none
    rw [Footprint.grow?, if_neg]
    · rfl
    · rw [Nat.not_le]
      refine Nat.lt_of_lt_of_le h ?_
      show 32 * cs.length ≤ 32 * (3 + (Utf8.ofChars cs).length) + (16 + 0)
      omega
  have hbackward : (Node.literal cs).backwardFootprint? = none := by
    rw [Node.backwardFootprint?, hlead, hplace]
    rfl
  rw [Node.fits, hbackward, Option.isSome_none, Bool.and_false]

end DataGrid.Pattern
