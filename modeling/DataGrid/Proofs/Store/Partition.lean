import DataGrid.Proofs.Store.Expression
import DataGrid.Proofs.Store.Sums

/-!
# DataGrid.Proofs.Store.Partition -- grouping is a partition

The loop that groups documents keeps one table of groups and feeds all accumulators at once. What
comes out is simpler to say: the documents fall into classes of equal keys, in the order in which
the classes appear, and every class gives one row, with the key of its first document and with what
accumulators hold that have taken the values of the documents of the class, and of no others.
-/

namespace DataGrid.Store.Grouping

open Fallible

/-! ## Classes of documents -/

/-- The value of an expression on a document, where it has one. -/
def valueOf (expression : Value) (d : Document) : Option Value :=
  match Expression.evaluate d expression with
  | .ok value => value
  | .error _ => none

theorem valueOf_of_evaluate {expression : Value} {d : Document} {value : Option Value}
    (h : Expression.evaluate d expression = .ok value) : valueOf expression d = value := by
  rw [valueOf, h]

theorem keyOf_eq (key : Value) (d : Document) : keyOf key d = (valueOf key d).getD .null := by
  unfold keyOf valueOf
  cases Expression.evaluate d key <;> rfl

/-- The documents that have the key of one. -/
def sharing (key : Value) (d : Document) (documents : List Document) : List Document :=
  documents.filter fun other => (keyOf key d).equals (keyOf key other)

/-- The documents that have other keys than one. -/
def others (key : Value) (d : Document) (documents : List Document) : List Document :=
  documents.filter fun other => !(keyOf key d).equals (keyOf key other)

/-- Documents by classes of equal keys: the first document with all that share its key, and then the
classes of the others. -/
def classes (key : Value) : List Document → List (List Document)
  | [] => []
  | d :: rest => (d :: sharing key d rest) :: classes key (others key d rest)
termination_by documents => documents.length
decreasing_by exact Nat.lt_succ_of_le (List.length_filter_le _ _)

/-- The key of the first document of a class. -/
def classKey (key : Value) (part : List Document) : Value :=
  (part.head?.map (keyOf key)).getD .null

/-- Lists of documents that are the classes of equal keys, in the order in which they appear. -/
structure Partition (key : Value) (documents : List Document) (parts : List (List Document)) :
    Prop where
  covers : parts.flatten.Perm documents
  whole : ∀ part ∈ parts, part ≠ [] ∧
    part = documents.filter fun d => (classKey key part).equals (keyOf key d)
  apart : parts.Pairwise fun part other =>
    ∀ d ∈ part, ∀ e ∈ other, (keyOf key d).equals (keyOf key e) = false
  ordered : parts.Pairwise fun part other => ∃ before, before <+: documents ∧
    (∃ d ∈ before, d ∈ part) ∧ ∀ d ∈ before, d ∉ other

theorem exists_prefix_of_filter {α : Type} {p : α → Bool} {xs before : List α}
    (h : before <+: xs.filter p) : ∃ longer, longer <+: xs ∧ longer.filter p = before := by
  induction xs generalizing before with
  | nil => exact ⟨[], List.nil_prefix, (List.prefix_nil.mp h).symm⟩
  | cons x xs ih =>
    cases hx : p x with
    | false =>
      rw [List.filter_cons_of_neg (by simp [hx])] at h
      obtain ⟨longer, hlonger, rfl⟩ := ih h
      exact ⟨x :: longer, List.cons_prefix_cons.mpr ⟨rfl, hlonger⟩,
        List.filter_cons_of_neg (by simp [hx])⟩
    | true =>
      rw [List.filter_cons_of_pos hx] at h
      cases before with
      | nil => exact ⟨[], List.nil_prefix, rfl⟩
      | cons y before =>
        obtain ⟨rfl, hbefore⟩ := List.cons_prefix_cons.mp h
        obtain ⟨longer, hlonger, rfl⟩ := ih hbefore
        exact ⟨y :: longer, List.cons_prefix_cons.mpr ⟨rfl, hlonger⟩, List.filter_cons_of_pos hx⟩

section Comparable

variable {among : Value → Prop} (comparable : Comparable among)
include comparable

/-- A document that shares the key of one has the key of none of the others. -/
theorem apart_of_sharing {key : Value} {d : Document} {rest : List Document}
    (h : ∀ e ∈ d :: rest, among (keyOf key e)) :
    ∀ c ∈ d :: sharing key d rest, ∀ e ∈ others key d rest,
      (keyOf key c).equals (keyOf key e) = false := by
  intro c hc e he
  obtain ⟨hd, hrest⟩ := List.forall_mem_cons.mp h
  obtain ⟨he, hapart⟩ := List.mem_filter.mp he
  have hdc : among (keyOf key c) ∧ (keyOf key d).equals (keyOf key c) = true := by
    rcases List.mem_cons.mp hc with rfl | hc
    · exact ⟨hd, comparable.refl hd⟩
    · obtain ⟨hc, hdc⟩ := List.mem_filter.mp hc
      exact ⟨hrest c hc, hdc⟩
  refine Bool.eq_false_iff.mpr fun hequals => ?_
  rw [comparable.trans hd hdc.1 (hrest e he) hdc.2 hequals] at hapart
  cases hapart

/-- What has the key of one of the others is one of the others. -/
theorem filter_others {key : Value} {d first : Document} {rest : List Document}
    (h : ∀ e ∈ d :: rest, among (keyOf key e)) (hfirst : first ∈ others key d rest) :
    (others key d rest).filter (fun e => (keyOf key first).equals (keyOf key e)) =
      (d :: rest).filter fun e => (keyOf key first).equals (keyOf key e) := by
  obtain ⟨hd, hrest⟩ := List.forall_mem_cons.mp h
  obtain ⟨hmem, hapart⟩ := List.mem_filter.mp hfirst
  have hother : ∀ e ∈ d :: rest, (keyOf key first).equals (keyOf key e) = true →
      (keyOf key d).equals (keyOf key e) = false := by
    intro e he hequals
    refine Bool.eq_false_iff.mpr fun hde => ?_
    have hback := comparable.symm (hrest first hmem) (h e he) hequals
    rw [comparable.trans hd (h e he) (hrest first hmem) hde hback] at hapart
    cases hapart
  have hd' : ¬ (keyOf key first).equals (keyOf key d) = true := by
    intro hequals
    have := hother d List.mem_cons_self hequals
    rw [comparable.refl hd] at this
    cases this
  rw [List.filter_cons_of_neg (p := fun e => (keyOf key first).equals (keyOf key e)) hd', others,
    List.filter_filter]
  refine List.filter_congr fun e he => ?_
  cases hequals : (keyOf key first).equals (keyOf key e) with
  | true => rw [hother e (List.mem_cons_of_mem _ he) hequals]; rfl
  | false => rfl

/-- By induction on the classes: those of the documents whose keys differ from the first one are
classes of all the documents. -/
theorem partition_classes {key : Value} {documents : List Document}
    (h : ∀ d ∈ documents, among (keyOf key d)) :
    Partition key documents (classes key documents) := by
  fun_induction classes key documents with
  | case1 => exact ⟨List.Perm.refl _, List.forall_mem_nil _, .nil, .nil⟩
  | case2 d rest ih =>
    obtain ⟨hd, hrest⟩ := List.forall_mem_cons.mp h
    obtain ⟨covers, whole, apart, ordered⟩ :=
      ih fun e he => hrest e (List.mem_of_mem_filter he)
    have hparts : ∀ part ∈ classes key (others key d rest), ∀ e ∈ part, e ∈ others key d rest :=
      fun part hpart e he => covers.mem_iff.mp (List.mem_flatten.mpr ⟨part, hpart, he⟩)
    have hclass := apart_of_sharing comparable h
    have hnot : ∀ c ∈ d :: sharing key d rest, ∀ part ∈ classes key (others key d rest),
        c ∉ part := by
      intro c hc part hpart hmem
      have hapart := hclass c hc c (hparts part hpart c hmem)
      have hamong : among (keyOf key c) := h c (List.mem_cons_of_mem _
        (List.mem_of_mem_filter (hparts part hpart c hmem)))
      rw [comparable.refl hamong] at hapart
      cases hapart
    refine ⟨?_, ?_, ?_, ?_⟩
    · rw [List.flatten_cons, List.cons_append]
      exact ((covers.append_left _).trans (List.filter_append_perm _ rest)).cons d
    · refine List.forall_mem_cons.mpr ⟨⟨List.cons_ne_nil _ _, ?_⟩, fun part hpart => ?_⟩
      · exact (List.filter_cons_of_pos (p := fun e => (keyOf key d).equals (keyOf key e))
          (comparable.refl hd)).symm
      · obtain ⟨hnil, hfilter⟩ := whole part hpart
        obtain ⟨first, tail, rfl⟩ := List.exists_cons_of_ne_nil hnil
        have hfirst := hparts _ hpart first List.mem_cons_self
        exact ⟨hnil, hfilter.trans (filter_others comparable h hfirst)⟩
    · exact List.pairwise_cons.mpr ⟨fun other hother c hc e he =>
        hclass c hc e (hparts other hother e he), apart⟩
    · refine List.pairwise_cons.mpr ⟨fun other hother => ?_, ordered.imp_of_mem ?_⟩
      · refine ⟨[d], List.cons_prefix_cons.mpr ⟨rfl, List.nil_prefix⟩,
          ⟨d, by simp, List.mem_cons_self⟩, ?_⟩
        rintro e he
        obtain rfl := List.mem_singleton.mp he
        exact hnot e List.mem_cons_self other hother
      · rintro part other hpart hother ⟨before, hbefore, ⟨c, hc, hcpart⟩, hnone⟩
        obtain ⟨longer, hlonger, rfl⟩ := exists_prefix_of_filter hbefore
        refine ⟨d :: longer, List.cons_prefix_cons.mpr ⟨rfl, hlonger⟩,
          ⟨c, List.mem_cons_of_mem _ (List.mem_of_mem_filter hc), hcpart⟩, ?_⟩
        -- what is in front is one of the others, or shares the key of the first document
        refine List.forall_mem_cons.mpr
          ⟨hnot d List.mem_cons_self other hother, fun e he hmem => ?_⟩
        exact hnone e (List.mem_filter.mpr ⟨he, (List.mem_filter.mp
          (hparts other hother e hmem)).2⟩) hmem

end Comparable

/-! ## Classes and first keys -/

theorem foldl_firsts (seen keys : List Value) :
    keys.foldl (fun seen key => if seen.any (·.equals key) then seen else seen ++ [key]) seen =
      seen ++ firsts (keys.filter fun key => !seen.any (·.equals key)) := by
  induction keys using List.reverseRecOn with
  | nil => simp [firsts]
  | append_singleton keys key ih =>
    rw [List.foldl_append, ih, List.foldl_cons, List.foldl_nil, List.any_append, List.filter_append]
    cases hseen : seen.any (·.equals key) with
    | true => simp [hseen]
    | false =>
      rw [List.filter_cons_of_pos (by simp [hseen]), List.filter_nil, firsts_concat, Bool.false_or]
      split
      · rfl
      · rw [List.append_assoc]

theorem firsts_cons (key : Value) (keys : List Value) :
    firsts (key :: keys) = key :: firsts (keys.filter fun other => !key.equals other) := by
  have hfold := foldl_firsts [key] keys
  simp only [List.any_cons, List.any_nil, Bool.or_false] at hfold
  exact hfold

/-- The keys of the classes are the first keys. -/
theorem firsts_classes (key : Value) (documents : List Document) :
    firsts (documents.map (keyOf key)) = (classes key documents).map (classKey key) := by
  fun_induction classes key documents with
  | case1 => rfl
  | case2 d rest ih =>
    rw [List.map_cons, firsts_cons, List.map_cons, ← ih, others, List.filter_map]
    rfl

/-! ## Rows -/

/-- What an accumulator holds after the documents of a class. -/
def held (field : Field) (part : List Document) : Accumulator :=
  (part.map (valueOf field.argument)).foldl Accumulator.add field.fresh

theorem held_concat (field : Field) (part : List Document) (d : Document) :
    held field (part ++ [d]) = (held field part).add (valueOf field.argument d) := by
  rw [held, List.map_append, List.foldl_append]
  rfl

/-- The row of a class: the key of its first document, and under the name of each field what its
accumulator results in. -/
def classRow (key : Value) (fields : List Field) (part : List Document) : Document :=
  ("_id", classKey key part) :: fields.map fun field => (field.name, (held field part).result)

/-- The names of the fields are the keys of the specification beside the identifier. -/
theorem names_fields {spec : Document} {fs : List Field} (h : fields spec = .ok fs) :
    fs.map Field.name = (Keyed.keys spec).filter (· != "_id") := by
  fun_induction fields spec generalizing fs with
  | case1 =>
    obtain rfl := Except.ok.inj h
    rfl
  | case2 definition rest ih => simpa [Keyed.keys] using ih h
  | case3 name rest hname operator argument more ih =>
    obtain ⟨fresh, -, h⟩ := bind_eq_ok.mp h
    obtain ⟨others, hothers, h⟩ := bind_eq_ok.mp h
    obtain rfl := Except.ok.inj h
    rw [List.map_cons, ih hothers]
    simp [Keyed.keys, hname]
  | case4 => cases h

/-- Every field of the specification is accumulated. -/
theorem mem_fields {spec : Document} {fs : List Field} (h : fields spec = .ok fs)
    {name operator : String} {argument : Value} {more : Document} (hname : name ≠ "_id")
    (hmem : (name, Value.document ((operator, argument) :: more)) ∈ spec) :
    ∃ fresh, Accumulator.new operator = .ok fresh ∧ ⟨name, fresh, argument⟩ ∈ fs := by
  fun_induction fields spec generalizing fs with
  | case1 => cases hmem
  | case2 definition rest ih =>
    rcases List.mem_cons.mp hmem with heq | hmem
    · exact absurd (Prod.mk.inj heq).1 hname
    · exact ih h hmem
  | case3 name' rest hname' operator' argument' more' ih =>
    obtain ⟨fresh, hfresh, h⟩ := bind_eq_ok.mp h
    obtain ⟨others, hothers, h⟩ := bind_eq_ok.mp h
    obtain rfl := Except.ok.inj h
    rcases List.mem_cons.mp hmem with heq | hmem
    · cases heq
      exact ⟨fresh, hfresh, List.mem_cons_self⟩
    · obtain ⟨fresh, hfresh, hfield⟩ := ih hothers hmem
      exact ⟨fresh, hfresh, List.mem_cons_of_mem _ hfield⟩
  | case4 => cases h

theorem distinctKeys_classRow {spec : Document} {fs : List Field} (h : fields spec = .ok fs)
    (distinct : Keyed.DistinctKeys spec) (key : Value) (part : List Document) :
    Keyed.DistinctKeys (classRow key fs part) := by
  have hkeys : Keyed.keys (classRow key fs part) =
      "_id" :: (Keyed.keys spec).filter (· != "_id") := by
    rw [← names_fields h, classRow, Keyed.keys, List.map_cons, List.map_map]
    rfl
  rw [Keyed.DistinctKeys, hkeys]
  exact List.nodup_cons.mpr ⟨by simp, distinct.filter _⟩

section Rows

variable {key : Value} {fs : List Field}

/-- The document has a value, or none, for the key and for every field. -/
def Evaluates (key : Value) (fs : List Field) (d : Document) : Prop :=
  ∀ expression ∈ key :: fs.map Field.argument,
    ∃ value, Expression.evaluate d expression = .ok value

theorem arguments_eq {d : Document}
    (h : ∀ field ∈ fs, ∃ value, Expression.evaluate d field.argument = .ok value) :
    arguments d fs = .ok (fs.map fun field => valueOf field.argument d) := by
  induction fs with
  | nil => rfl
  | cons field rest ih =>
    obtain ⟨⟨value, hvalue⟩, hrest⟩ := List.forall_mem_cons.mp h
    rw [arguments, hvalue, ok_bind, ih hrest, List.map_cons, valueOf_of_evaluate hvalue]
    rfl

theorem contribution_eq {d : Document} (h : Evaluates key fs d) :
    contribution fs key d = .ok (keyOf key d, fs.map fun field => valueOf field.argument d) := by
  obtain ⟨⟨value, hvalue⟩, hfields⟩ := List.forall_mem_cons.mp h
  have harguments := arguments_eq fun field hfield => hfields _ (List.mem_map_of_mem hfield)
  rw [contribution, hvalue, ok_bind, harguments, keyOf_eq, valueOf_of_evaluate hvalue]
  rfl

/-- Accumulators that are fed together hold what each of them would hold alone. -/
theorem feed_eq (fs : List Field) (bring : Document → Value) (part : List Document) :
    feed fs (part.map fun d => (bring d, fs.map fun field => valueOf field.argument d)) =
      fs.map fun field => held field part := by
  induction part using List.reverseRecOn with
  | nil => rfl
  | append_singleton part d ih =>
    rw [List.map_append, List.map_singleton, feed_concat, ih, List.zipWith_map, List.zipWith_self]
    exact List.map_congr_left fun field _ => (held_concat field part d).symm

theorem row_eq {spec : Document} (hfields : fields spec = .ok fs)
    (distinct : Keyed.DistinctKeys spec) (key : Value) (part : List Document) :
    row fs ⟨classKey key part, fs.map fun field => held field part⟩ = classRow key fs part := by
  have hentries : List.zipWith (fun field state => (Field.name field, Accumulator.result state)) fs
      (fs.map fun field => held field part) =
        fs.map fun field => (field.name, (held field part).result) := by
    rw [List.zipWith_map_right, List.zipWith_self]
  rw [row, hentries]
  exact Keyed.foldl_insert [] (distinctKeys_classRow hfields distinct key part)

/-- Grouping gives the rows of the classes. -/
theorem group_eq_classRows {among : Value → Prop} (comparable : Comparable among) {spec : Document}
    (hkey : Keyed.get? spec "_id" = some key) (hfields : fields spec = .ok fs)
    (distinct : Keyed.DistinctKeys spec) {documents : List Document}
    (h : ∀ d ∈ documents, among (keyOf key d)) (evaluates : ∀ d ∈ documents, Evaluates key fs d) :
    group spec documents = .ok ((classes key documents).map (classRow key fs)) := by
  have hbrought := mapM_eq_ok_map fun d hd => contribution_eq (evaluates d hd)
  rw [group_eq_ok comparable hkey hfields h hbrought, firsts_classes, List.map_map]
  refine congrArg Except.ok (List.map_congr_left fun part hpart => ?_)
  obtain ⟨-, hfilter⟩ := (partition_classes comparable h).whole part hpart
  rw [Function.comp_apply, groupOf, List.filter_map, ← row_eq hfields distinct]
  refine congrArg (fun states => row fs ⟨_, states⟩) ?_
  refine (feed_eq fs (keyOf key) _).trans ?_
  conv_rhs => rw [hfilter]
  rfl

end Rows

/-! ## Counts and lists -/

theorem valueOf_of_integer {v : Value} {n : Int} (h : v.integer? = some n) (d : Document) :
    valueOf v d = some v := by
  refine valueOf_of_evaluate ?_
  cases v with
  | int32 k => rw [Expression.evaluate] <;> simp
  | int64 k => rw [Expression.evaluate] <;> simp
  | _ => cases h

theorem add_one {count : Nat} (h : count + 1 < 2 ^ 63) {one : Value}
    (hone : one.integer? = some 1) :
    (Accumulator.sum (Int64.ofInt count) .zero false).add (some one) =
      .sum (Int64.ofInt (count + 1 : Nat)) .zero false := by
  have htotal : (Int64.ofInt count).toInt = count := Int64.toInt_ofInt_of_le (by omega) (by omega)
  have hfits : Accumulator.fits64 (count + 1) = true := by
    have hmin : Int64.minValue.toInt = -2 ^ 63 := rfl
    have hmax : Int64.maxValue.toInt = 2 ^ 63 - 1 := rfl
    rw [Accumulator.fits64_iff, hmin, hmax]
    omega
  rw [Accumulator.add_integer hone, Accumulator.addInteger, htotal, if_pos hfits]
  rfl

/-- A sum of ones counts. -/
theorem held_count {field : Field} (hfresh : Accumulator.new "$sum" = .ok field.fresh)
    (hone : field.argument.integer? = some 1) {part : List Document} (h : part.length < 2 ^ 63) :
    held field part = .sum (Int64.ofInt part.length) .zero false := by
  induction part using List.reverseRecOn with
  | nil => exact (Except.ok.inj hfresh).symm
  | append_singleton part d ih =>
    rw [List.length_append, List.length_singleton] at h
    rw [held_concat, ih (by omega), valueOf_of_integer hone, add_one h hone, List.length_append,
      List.length_singleton]

theorem integer?_count {count : Nat} (h : count < 2 ^ 63) :
    (Accumulator.sum (Int64.ofInt count) .zero false).result.integer? = some (count : Int) := by
  rw [Accumulator.integer?_result, Int64.toInt_ofInt_of_le (by omega) (by omega)]

/-- A list of values is those that the documents have. -/
theorem held_push {field : Field} (hfresh : Accumulator.new "$push" = .ok field.fresh)
    (part : List Document) : held field part = .push (part.filterMap (valueOf field.argument)) := by
  induction part using List.reverseRecOn with
  | nil => exact (Except.ok.inj hfresh).symm
  | append_singleton part d ih =>
    rw [held_concat, ih, List.filterMap_append]
    cases hvalue : valueOf field.argument d <;> simp [Accumulator.add, hvalue]

theorem get?_classRow {spec : Document} {fs : List Field} (hfields : fields spec = .ok fs)
    (distinct : Keyed.DistinctKeys spec) {field : Field} (hfield : field ∈ fs) (key : Value)
    (part : List Document) :
    Keyed.get? (classRow key fs part) field.name = some (held field part).result := by
  have hentry : (field.name, (held field part).result) ∈ classRow key fs part :=
    List.mem_cons_of_mem _ (List.mem_map.mpr ⟨field, hfield, rfl⟩)
  exact Keyed.get?_of_mem (distinctKeys_classRow hfields distinct key part) hentry

/-! ## Grouping -/

/-- Among values whose keys are distinct and that are free of not-a-number, equality is an
equivalence. -/
theorem comparable_values : Comparable fun v => v.WellKeyed ∧ v.FreeOfNaN where
  refl := fun h => Value.equals_refl h.1 h.2
  symm := fun ha hb => Value.equals_symm ha.1 hb.1
  trans := fun _ _ _ => Value.equals_trans

theorem wellKeyed_keyOf {key : Value} (hkey : key.WellKeyed) {d : Document}
    (hd : Value.WellKeyed (.document d)) : (keyOf key d).WellKeyed := by
  unfold keyOf
  split
  · next value hvalue =>
    exact Expression.wellKeyed_getD fun v hv =>
      Expression.wellKeyed_of_evaluate hd hkey (hv ▸ hvalue)
  · exact (Value.everywhere_scalar rfl).mpr trivial

/-- Grouping is a partition. If everything that a specification asks for can be evaluated on every
document, there is one row for each class of documents with equal keys, in the order in which the
classes appear. The row has the key of the first document, and beside it what accumulators result
in that have taken the values of the class alone. So counts add up to the number of documents,
which is below `2 ^ 63` in any memory, and lists have all the values that there are. Keys of
documents are taken to be distinct, as those of every document are that this library builds. -/
theorem group_partitions {spec : Document} {key : Value} {fs : List Field}
    (hkey : Keyed.get? spec "_id" = some key) (hfields : fields spec = .ok fs)
    (wellKeyed : Value.WellKeyed (.document spec)) {documents : List Document}
    (hdocuments : ∀ d ∈ documents, Value.WellKeyed (.document d))
    (evaluates : ∀ d ∈ documents, Evaluates key fs d)
    (numbers : ∀ d ∈ documents, (keyOf key d).FreeOfNaN) :
    Partition key documents (classes key documents) ∧
    ∃ rows, group spec documents = .ok rows ∧
      rows = (classes key documents).map (classRow key fs) ∧
      (∀ name one more, name ≠ "_id" → (name, .document (("$sum", one) :: more)) ∈ spec →
        one.integer? = some 1 → documents.length < 2 ^ 63 →
        ∃ counts : List Nat, counts.sum = documents.length ∧
          rows.map (fun row => (Keyed.get? row name).bind Value.integer?) =
            counts.map fun count : Nat => some (count : Int)) ∧
      ∀ name argument more, name ≠ "_id" →
        (name, .document (("$push", argument) :: more)) ∈ spec →
        ∃ lists : List (List Value), lists.flatten.Perm (documents.filterMap (valueOf argument)) ∧
          rows.map (fun row => Keyed.get? row name) =
            lists.map fun items => some (.array items) := by
  obtain ⟨distinct, hentries⟩ := Value.wellKeyed_document.mp wellKeyed
  have hkey' : key.WellKeyed := hentries _ (Keyed.mem_of_get? hkey)
  have hamong : ∀ d ∈ documents, (keyOf key d).WellKeyed ∧ (keyOf key d).FreeOfNaN :=
    fun d hd => ⟨wellKeyed_keyOf hkey' (hdocuments d hd), numbers d hd⟩
  have partition := partition_classes comparable_values hamong
  refine ⟨partition, _, group_eq_classRows comparable_values hkey hfields distinct hamong evaluates,
    rfl, ?_, ?_⟩
  · intro name one more hname hmem hone hlength
    obtain ⟨fresh, hfresh, hfield⟩ := mem_fields hfields hname hmem
    have hparts : ∀ part ∈ classes key documents, part.length < 2 ^ 63 := by
      intro part hpart
      rw [((partition.whole part hpart).2)]
      exact Nat.lt_of_le_of_lt (List.length_filter_le _ _) hlength
    refine ⟨(classes key documents).map List.length, ?_, ?_⟩
    · rw [← partition.covers.length_eq, List.length_flatten]
    · rw [List.map_map, List.map_map]
      refine List.map_congr_left fun part hpart => ?_
      rw [Function.comp_apply, get?_classRow hfields distinct hfield, Option.bind_some,
        held_count hfresh hone (hparts part hpart), integer?_count (hparts part hpart)]
      rfl
  · intro name argument more hname hmem
    obtain ⟨fresh, hfresh, hfield⟩ := mem_fields hfields hname hmem
    refine ⟨(classes key documents).map fun part => part.filterMap (valueOf argument), ?_, ?_⟩
    · rw [← List.filterMap_flatten]
      exact partition.covers.filterMap _
    · rw [List.map_map, List.map_map]
      refine List.map_congr_left fun part _ => ?_
      rw [Function.comp_apply, get?_classRow hfields distinct hfield, held_push hfresh]
      rfl

/-- Loans of three readers, of whom one is given by two kinds of numbers and one by none. -/
def readerLoans : List Document :=
  [[("reader", .int32 1), ("title", .string "Emma")], [("title", .string "Dune")],
    [("reader", .double (Binary64.ofInt 1)), ("title", .string "Ulysses")]]

/-- How many loans each reader has, and what of. -/
def loansByReader : Document :=
  [("_id", .string "$reader"), ("loans", .document [("$sum", .int32 1)]),
    ("titles", .document [("$push", .string "$title")])]

theorem group_partitions_readers :
    ∃ rows, group loansByReader readerLoans = .ok rows ∧
      (∃ counts : List Nat, counts.sum = 3 ∧
        rows.map (fun row => (Keyed.get? row "loans").bind Value.integer?) =
          counts.map fun count : Nat => some (count : Int)) ∧
      ∃ lists : List (List Value),
        lists.flatten.Perm [.string "Emma", .string "Dune", .string "Ulysses"] ∧
        rows.map (fun row => Keyed.get? row "titles") =
          lists.map fun items => some (.array items) := by
  have hreader : ∀ d, Expression.evaluate d (.string "$reader") = .ok (d.lookupText "reader") :=
    @Integers.evaluate_reference "reader" rfl
  have htitle : ∀ d, Expression.evaluate d (.string "$title") = .ok (d.lookupText "title") :=
    @Integers.evaluate_reference "title" rfl
  have htitles : valueOf (.string "$title") = fun d => d.lookupText "title" :=
    funext fun d => valueOf_of_evaluate (htitle d)
  have hone : ∀ d, Expression.evaluate d (.int32 1) = .ok (some (.int32 1)) := by
    intro d
    rw [Expression.evaluate] <;> simp
  have hscalar : ∀ {property : Value → Prop} {v : Value}, v.children = [] → property v →
      v.Everywhere property := fun hchildren hv => (Value.everywhere_scalar hchildren).mpr hv
  have hspec : Value.WellKeyed (.document loansByReader) := by
    simp only [Value.wellKeyed_document, loansByReader, List.forall_mem_cons]
    exact ⟨by decide, hscalar rfl trivial, ⟨by decide, hscalar rfl trivial, List.forall_mem_nil _⟩,
      ⟨by decide, hscalar rfl trivial, List.forall_mem_nil _⟩, List.forall_mem_nil _⟩
  have hloans : ∀ d ∈ readerLoans, Value.WellKeyed (.document d) := by
    simp only [readerLoans, List.forall_mem_cons, Value.wellKeyed_document]
    refine ⟨⟨by decide, ?_, ?_, List.forall_mem_nil _⟩, ⟨by decide, ?_, List.forall_mem_nil _⟩,
      ⟨by decide, ?_, ?_, List.forall_mem_nil _⟩, List.forall_mem_nil _⟩ <;>
    exact hscalar rfl trivial
  have hkeys : ∀ d ∈ readerLoans, (keyOf (.string "$reader") d).FreeOfNaN := by
    simp only [readerLoans, List.forall_mem_cons, keyOf, hreader]
    exact ⟨hscalar rfl trivial, hscalar rfl trivial, hscalar rfl (Binary64.isNaN_ofInt 1),
      List.forall_mem_nil _⟩
  have hevaluates : ∀ d ∈ readerLoans, Evaluates (.string "$reader")
      [⟨"loans", .sum 0 .zero false, .int32 1⟩, ⟨"titles", .push [], .string "$title"⟩] d := by
    intro d _
    simp only [Evaluates, List.map_cons, List.map_nil, List.forall_mem_cons]
    exact ⟨⟨_, hreader d⟩, ⟨_, hone d⟩, ⟨_, htitle d⟩, List.forall_mem_nil _⟩
  obtain ⟨-, rows, hrows, -, hcounts, hlists⟩ :=
    group_partitions rfl rfl hspec hloans hevaluates hkeys
  obtain ⟨lists, hperm, hlists⟩ :=
    hlists "titles" (.string "$title") [] (by decide) (by simp [loansByReader])
  refine ⟨rows, hrows, hcounts "loans" (.int32 1) [] (by decide) (by simp [loansByReader]) rfl
    (by decide), lists, ?_, hlists⟩
  rw [htitles] at hperm
  exact hperm

end DataGrid.Store.Grouping
