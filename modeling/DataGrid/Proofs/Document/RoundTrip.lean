import DataGrid.Document.OfJson
import DataGrid.Document.ToJson
import DataGrid.Proofs.Json.Doubles
import DataGrid.Proofs.Keyed

/-!
# DataGrid.Proofs.Document.RoundTrip -- plain values are read back

A tree is plain when it holds no doubles and no field name that begins with a dollar sign. The
value of a plain tree is plain too: its integers have the width that their size asks for, and the
keys of its documents are distinct and free of marks. Plain values are written without marks, so
they are read back as they are, and they nest no deeper than the tree that they come from.

Whatever the value, its text is a JSON text: it is read as the tree that was written.
-/

namespace DataGrid

/-! ## Plain trees and plain values -/

/-- A name that cannot be a mark. -/
def Marked.isPlainName (letters : List Char) : Bool := letters.head? != some '$'

namespace Json

mutual

/-- Neither a double nor a field name that could be a mark is anywhere in a tree. -/
def isPlain : Json → Bool
  | .number literal =>
    match Number.ofLiteral? literal with
    | some (.double _) => false
    | _ => true
  | .list items => itemsPlain items
  | .object fields => fieldsPlain fields
  | _ => true

def itemsPlain : List Json → Bool
  | [] => true
  | item :: rest => isPlain item && itemsPlain rest

def fieldsPlain : List (List Char × Json) → Bool
  | [] => true
  | (written, value) :: rest =>
    (Quoted.decode? written).all Marked.isPlainName && isPlain value && fieldsPlain rest

end

end Json

namespace Value

mutual

/-- A value that is written as what it is and has the kind that its writing asks for. -/
def IsPlain : Value → Prop
  | .null => True
  | .boolean _ => True
  | .string _ => True
  | .int32 n => 0 ≤ n.toInt
  | .int64 n => n.toInt < 0 ∨ Int32.maxValue.toInt < n.toInt
  | .array items => ItemsPlain items
  | .document fields => Keyed.DistinctKeys fields ∧ FieldsPlain fields
  | _ => False

def ItemsPlain : List Value → Prop
  | [] => True
  | item :: rest => IsPlain item ∧ ItemsPlain rest

def FieldsPlain : List (String × Value) → Prop
  | [] => True
  | (name, value) :: rest =>
    Marked.isPlainName name.toList = true ∧ IsPlain value ∧ FieldsPlain rest

end

theorem fieldsPlain_iff {fields : List (String × Value)} : FieldsPlain fields ↔
    ∀ field ∈ fields, Marked.isPlainName field.1.toList = true ∧ IsPlain field.2 := by
  induction fields with
  | nil => exact ⟨fun _ _ h => absurd h List.not_mem_nil, fun _ => trivial⟩
  | cons field rest ih => rw [FieldsPlain, ih, List.forall_mem_cons, and_assoc]

/-- Fields nest as deep as the deepest of them. -/
theorem depthOfFields_le_iff {fields : List (String × Value)} {limit : Nat} :
    Json.depthOfFields (fieldsToJson fields) ≤ limit ↔
      ∀ field ∈ fields, field.2.toJson.depth ≤ limit := by
  induction fields with
  | nil => exact ⟨fun _ _ h => absurd h List.not_mem_nil, fun _ => Nat.zero_le _⟩
  | cons field rest ih =>
    rw [fieldsToJson, Json.field, Json.depthOfFields, Nat.max_le, ih, List.forall_mem_cons]

end Value

/-! ## Integers -/

/-- A literal that stands for a negative number stands for one below zero. -/
theorem Json.Number.neg_of_ofLiteral? {cs : List Char} {n : Int64}
    (h : Json.Number.ofLiteral? cs = some (.negative n)) : n.toInt < 0 := by
  obtain ⟨literal, -, h⟩ := Option.bind_eq_some_iff.mp h
  have hinteger : literal.integer? = some (.negative n) := by
    cases hnumber : literal.integer? with
    | some number => simpa only [hnumber] using h
    | none =>
      simp only [hnumber, Option.map_eq_some_iff] at h
      obtain ⟨_, -, hdouble⟩ := h
      cases hdouble
  have hmin : Int64.minValue.toInt = -0x8000000000000000 := by decide
  unfold Json.Literal.integer? at hinteger
  simp only [hmin] at hinteger
  split at hinteger
  · split at hinteger
    · split at hinteger
      · next hsize =>
        obtain rfl := Json.Number.negative.inj (Option.some.inj hinteger)
        rw [Int64.toInt_ofInt_of_le] <;> omega
      · cases hinteger
    · split at hinteger <;> cases hinteger
  · cases hinteger

namespace Value

theorem isPlain_of_natural {n : UInt64} {v : Value} (h : ofNumber? (.natural n) = some v) :
    v.IsPlain ∧ v.toJson.depth = 0 := by
  have h32 : Int32.maxValue.toInt = 0x7fffffff := by decide
  have h64 : Int64.maxValue.toInt = 0x7fffffffffffffff := by decide
  simp only [ofNumber?, h32, h64] at h
  split at h
  · next hsmall =>
    obtain rfl := Option.some.inj h
    refine ⟨?_, rfl⟩
    show 0 ≤ (Int32.ofInt n.toNat).toInt
    rw [Int32.toInt_ofInt_of_le] <;> omega
  · split at h
    · next hlarge hsmall =>
      obtain rfl := Option.some.inj h
      refine ⟨.inr ?_, rfl⟩
      rw [h32, Int64.toInt_ofInt_of_le] <;> omega
    · cases h

/-- A natural number is read as the integer of the width that it asks for. -/
theorem ofJson?_ofInt_of_nonneg {n : Int} (nonneg : 0 ≤ n) (h : n < UInt64.size) :
    ofJson? (Json.ofInt n) =
      if n ≤ Int32.maxValue.toInt then some (.int32 (Int32.ofInt n))
      else if n ≤ Int64.maxValue.toInt then some (.int64 (Int64.ofInt n))
      else none := by
  have hnumber : Json.Number.ofLiteral? (toString n).toList =
      some (.natural (UInt64.ofNat n.toNat)) := by
    rw [Json.toList_toString_int, if_pos nonneg, Json.Number.ofLiteral?_natural (by omega)]
  have hvalue : ((UInt64.ofNat n.toNat).toNat : Int) = n := by
    rw [UInt64.toNat_ofNat_of_lt'] <;> omega
  show (Json.Number.ofLiteral? (toString n).toList).bind ofNumber? = _
  rw [hnumber, Option.bind_some, ofNumber?]
  simp only [hvalue]

/-- A negative number is wide whatever its size. -/
theorem ofJson?_ofInt_of_neg {n : Int} (negative : n < 0) (h : Int64.minValue.toInt ≤ n) :
    ofJson? (Json.ofInt n) = some (.int64 (Int64.ofInt n)) := by
  have hmin : Int64.minValue.toInt = -0x8000000000000000 := by decide
  have hopposite : -((-n).toNat : Int) = n := by omega
  have hnumber : Json.Number.ofLiteral? (toString n).toList =
      some (.negative (Int64.ofInt n)) := by
    rw [Json.toList_toString_int, if_neg (by omega),
      Json.Number.ofLiteral?_negative (by omega) (by omega), hopposite]
  show (Json.Number.ofLiteral? (toString n).toList).bind ofNumber? = _
  rw [hnumber]
  rfl

theorem ofJson?_int32 {n : Int32} (h : 0 ≤ n.toInt) :
    ofJson? (toJson (.int32 n)) = some (.int32 n) := by
  have hle : n.toInt ≤ Int32.maxValue.toInt := n.toInt_le
  have hsize : Int32.maxValue.toInt < UInt64.size := by decide
  rw [toJson, ofJson?_ofInt_of_nonneg h (by omega), if_pos hle, Int32.ofInt_toInt]

theorem ofJson?_int64 {n : Int64} (h : n.toInt < 0 ∨ Int32.maxValue.toInt < n.toInt) :
    ofJson? (toJson (.int64 n)) = some (.int64 n) := by
  rcases h with hnegative | hwide
  · have hge : Int64.minValue.toInt ≤ n.toInt := n.le_toInt
    rw [toJson, ofJson?_ofInt_of_neg hnegative hge, Int64.ofInt_toInt]
  · have hle : n.toInt ≤ Int64.maxValue.toInt := n.toInt_le
    have hsize : Int64.maxValue.toInt < UInt64.size := by decide
    have hpos : 0 < Int32.maxValue.toInt := by decide
    rw [toJson, ofJson?_ofInt_of_nonneg (by omega) (by omega), if_neg (by omega), if_pos hle,
      Int64.ofInt_toInt]

/-! ## Fields -/

/-- All marks begin with a dollar sign. -/
theorem get?_readers_of_plain {name : String} (h : Marked.isPlainName name.toList = true) :
    Keyed.get? Marked.readers name = none := by
  have hmarks : ∀ mark ∈ Keyed.keys Marked.readers, Marked.isPlainName mark.toList = false := by
    decide
  rw [← Option.not_isSome_iff_eq_none]
  intro hsome
  obtain ⟨reader, hreader⟩ := Option.isSome_iff_exists.mp hsome
  have hmem : name ∈ Keyed.keys Marked.readers :=
    List.mem_map_of_mem (Keyed.mem_of_get? hreader)
  rw [hmarks name hmem] at h
  cases h

/-- A field without a mark is read and added to those that have been read. -/
theorem fieldsOfJson?_cons {written letters : List Char}
    (hname : Json.Quoted.decode? written = some letters)
    (plain : Marked.isPlainName letters = true) (done : Document) (body : Json)
    (rest : List (List Char × Json)) :
    fieldsOfJson? done ((written, body) :: rest) =
      (ofJson? body).bind fun value =>
        fieldsOfJson? (Keyed.insert done (String.ofList letters) value) rest := by
  have hletters : Marked.isPlainName (String.ofList letters).toList = true := by
    rwa [String.toList_ofList]
  have hmark : ∀ mark, Marked.isPlainName mark.toList = false → String.ofList letters ≠ mark := by
    rintro mark hmark rfl
    rw [hmark] at hletters
    cases hletters
  rw [fieldsOfJson?.eq_def]
  simp only [hname, get?_readers_of_plain hletters, if_neg (hmark "$code" rfl),
    if_neg (hmark "$scope" rfl)]

/-! ## Values of plain trees -/

mutual

theorem isPlain_ofJson? (j : Json) {v : Value} (h : ofJson? j = some v)
    (plain : j.isPlain = true) : v.IsPlain ∧ v.toJson.depth ≤ j.depth := by
  cases j with
  | null =>
    cases h
    exact ⟨trivial, Nat.le_refl 0⟩
  | boolean flag =>
    cases h
    exact ⟨trivial, Nat.le_refl 0⟩
  | text written =>
    obtain ⟨text, -, rfl⟩ := Option.map_eq_some_iff.mp h
    exact ⟨trivial, Nat.le_refl 0⟩
  | number literal =>
    obtain ⟨number, hnumber, hvalue⟩ := Option.bind_eq_some_iff.mp h
    cases number with
    | natural n =>
      obtain ⟨hplain, hdepth⟩ := isPlain_of_natural hvalue
      exact ⟨hplain, Nat.le_of_eq hdepth⟩
    | negative n =>
      cases hvalue
      exact ⟨.inl (Json.Number.neg_of_ofLiteral? hnumber), Nat.le_refl 0⟩
    | double x =>
      rw [Json.isPlain, hnumber] at plain
      cases plain
  | list items =>
    obtain ⟨values, hvalues, rfl⟩ := Option.map_eq_some_iff.mp h
    obtain ⟨hplain, hdepth⟩ := itemsPlain_ofJson? items hvalues plain
    exact ⟨hplain, Nat.succ_le_succ hdepth⟩
  | object fields =>
    obtain ⟨document, rfl, hkeys, hplain, hdepth⟩ :=
      fieldsPlain_ofJson? fields [] h plain List.nodup_nil trivial
    refine ⟨⟨hkeys, hplain⟩, Nat.succ_le_succ (Nat.le_trans hdepth ?_)⟩
    exact Nat.max_le.mpr ⟨Nat.zero_le _, Nat.le_refl _⟩

theorem itemsPlain_ofJson? (items : List Json) {values : List Value}
    (h : itemsOfJson? items = some values) (plain : Json.itemsPlain items = true) :
    ItemsPlain values ∧ Json.depthOfItems (itemsToJson values) ≤ Json.depthOfItems items := by
  cases items with
  | nil =>
    cases h
    exact ⟨trivial, Nat.le_refl 0⟩
  | cons item rest =>
    obtain ⟨first, hfirst, h⟩ := Option.bind_eq_some_iff.mp h
    obtain ⟨others, hothers, hvalues⟩ := Option.bind_eq_some_iff.mp h
    cases hvalues
    rw [Json.itemsPlain, Bool.and_eq_true] at plain
    obtain ⟨hitem, hitemDepth⟩ := isPlain_ofJson? item hfirst plain.1
    obtain ⟨hrest, hrestDepth⟩ := itemsPlain_ofJson? rest hothers plain.2
    refine ⟨⟨hitem, hrest⟩, ?_⟩
    rw [itemsToJson, Json.depthOfItems, Json.depthOfItems]
    omega

/-- What has been read stays plain: a field is added to it, or takes the place of another. -/
theorem fieldsPlain_ofJson? (fields : List (List Char × Json)) (done : Document) {v : Value}
    (h : fieldsOfJson? done fields = some v) (plain : Json.fieldsPlain fields = true)
    (keys : Keyed.DistinctKeys done) (donePlain : FieldsPlain done) :
    ∃ document, v = .document document ∧ Keyed.DistinctKeys document ∧ FieldsPlain document ∧
      Json.depthOfFields (fieldsToJson document) ≤
        max (Json.depthOfFields (fieldsToJson done)) (Json.depthOfFields fields) := by
  cases fields with
  | nil =>
    cases h
    exact ⟨done, rfl, keys, donePlain, Nat.le_max_left _ _⟩
  | cons field rest =>
    obtain ⟨written, body⟩ := field
    rw [Json.fieldsPlain, Bool.and_eq_true, Bool.and_eq_true] at plain
    obtain ⟨⟨hname, hbody⟩, hrest⟩ := plain
    cases hletters : Json.Quoted.decode? written with
    | none =>
      rw [fieldsOfJson?.eq_def] at h
      simp only [hletters] at h
      cases h
    | some letters =>
      rw [hletters] at hname
      rw [fieldsOfJson?_cons hletters hname] at h
      obtain ⟨value, hvalue, h⟩ := Option.bind_eq_some_iff.mp h
      obtain ⟨hplain, hdepth⟩ := isPlain_ofJson? body hvalue hbody
      -- whether the name is new or not, its value is the only one that was not there
      have hinserted : FieldsPlain (Keyed.insert done (String.ofList letters) value) := by
        rw [fieldsPlain_iff] at donePlain ⊢
        intro field hfield
        rcases Keyed.mem_insert hfield with rfl | hmem
        · exact ⟨by rwa [String.toList_ofList], hplain⟩
        · exact donePlain field hmem
      obtain ⟨document, rfl, hkeys, hfields, hfieldsDepth⟩ :=
        fieldsPlain_ofJson? rest (Keyed.insert done (String.ofList letters) value) h hrest
          (Keyed.distinctKeys_insert keys _ _) hinserted
      refine ⟨document, rfl, hkeys, hfields, Nat.le_trans hfieldsDepth ?_⟩
      have hinsertedDepth :
          Json.depthOfFields (fieldsToJson (Keyed.insert done (String.ofList letters) value)) ≤
            max (Json.depthOfFields (fieldsToJson done)) body.depth := by
        rw [depthOfFields_le_iff]
        intro field hfield
        rcases Keyed.mem_insert hfield with rfl | hmem
        · exact Nat.le_trans hdepth (Nat.le_max_right _ _)
        · exact Nat.le_trans (depthOfFields_le_iff.mp (Nat.le_refl _) field hmem)
            (Nat.le_max_left _ _)
      rw [Json.depthOfFields]
      omega

end

/-! ## Writing and reading -/

mutual

/-- A plain value is read back from its tree. -/
theorem ofJson?_toJson (v : Value) (plain : v.IsPlain) : ofJson? v.toJson = some v := by
  cases v with
  | null => rfl
  | boolean flag => rfl
  | int32 n => exact ofJson?_int32 plain
  | int64 n => exact ofJson?_int64 plain
  | string text =>
    show (Json.Quoted.decode? (Json.Quoted.encode text.toList)).map _ = _
    rw [Json.Quoted.decode?_encode, Option.map_some, String.ofList_toList]
  | array items =>
    show (itemsOfJson? (itemsToJson items)).map _ = _
    rw [itemsOfJson?_toJson items plain]
    rfl
  | document fields => exact fieldsOfJson?_toJson fields [] plain.2 plain.1
  | _ => cases plain

theorem itemsOfJson?_toJson (items : List Value) (plain : ItemsPlain items) :
    itemsOfJson? (itemsToJson items) = some items := by
  cases items with
  | nil => rfl
  | cons item rest =>
    rw [itemsToJson, itemsOfJson?, ofJson?_toJson item plain.1, itemsOfJson?_toJson rest plain.2]
    rfl

theorem fieldsOfJson?_toJson (fields : List (String × Value)) (done : Document)
    (plain : FieldsPlain fields) (keys : Keyed.DistinctKeys (done ++ fields)) :
    fieldsOfJson? done (fieldsToJson fields) = some (.document (done ++ fields)) := by
  cases fields with
  | nil =>
    rw [List.append_nil]
    rfl
  | cons field rest =>
    obtain ⟨name, value⟩ := field
    obtain ⟨hname, hvalue, hrest⟩ := plain
    have hfresh : name ∉ Keyed.keys done := Keyed.not_mem_keys_of_append keys
    have hshift : done ++ (name, value) :: rest = done ++ [(name, value)] ++ rest := by simp
    rw [fieldsToJson, Json.field, fieldsOfJson?_cons (Json.Quoted.decode?_encode _) hname,
      ofJson?_toJson value hvalue, Option.bind_some, String.ofList_toList,
      Keyed.insert_of_fresh hfresh, hshift]
    rw [hshift] at keys
    exact fieldsOfJson?_toJson rest _ hrest keys

end

/-! ## Texts -/

open Json (isQuoted_encode readable_ofText readable_ofNat readable_ofInt)

theorem readable_single (name : String) {j : Json} (h : j.Readable) :
    (Json.single name j).Readable :=
  ⟨isQuoted_encode name.toList, h, trivial⟩

theorem readable_pair (first second : String) {j k : Json} (hj : j.Readable) (hk : k.Readable) :
    (Json.object [Json.field first j, Json.field second k]).Readable :=
  ⟨isQuoted_encode first.toList, hj, isQuoted_encode second.toList, hk, trivial⟩

theorem readable_objectIdToJson (id : ObjectId) : (objectIdToJson id).Readable :=
  readable_single _ (readable_ofText _)

theorem readable_binaryToJson (subtype : UInt8) (bytes : List UInt8) :
    (binaryToJson subtype bytes).Readable := by
  unfold binaryToJson
  split
  · exact Json.readable_list_map fun byte _ => readable_ofNat byte.toNat
  · exact readable_single _ (readable_pair _ _ (readable_ofText _) (readable_ofText _))

mutual

/-- The tree of a value is read back from its text, whatever the value. -/
theorem readable_toJson (v : Value) : v.toJson.Readable := by
  cases v with
  | null => trivial
  | boolean flag => trivial
  | int32 n => exact readable_ofInt n.toInt
  | int64 n => exact readable_ofInt n.toInt
  | double x => exact Json.readable_ofBinary64 x
  | string text => exact readable_ofText text
  | array items => exact itemsReadable_toJson items
  | document fields => exact fieldsReadable_toJson fields
  -- the other kinds stand behind a mark
  | undefined => exact readable_single _ trivial
  | minKey => exact readable_single _ (readable_ofNat 1)
  | maxKey => exact readable_single _ (readable_ofNat 1)
  | decimal128 x => exact readable_single _ (readable_ofText _)
  | symbol text => exact readable_single _ (readable_ofText text)
  | code text => exact readable_single _ (readable_ofText text)
  | codeWithScope text scope =>
    exact readable_pair _ _ (readable_ofText text) (fieldsReadable_toJson scope)
  | regex pattern options =>
    exact readable_single _ (readable_pair _ _ (readable_ofText _) (readable_ofText _))
  | objectId id => exact readable_objectIdToJson id
  | dbPointer collection id =>
    exact readable_single _ (readable_pair _ _ (readable_ofText _) (readable_objectIdToJson id))
  | dateTime millis => exact readable_single _ (readable_single _ (readable_ofText _))
  | timestamp time increment =>
    exact readable_single _ (readable_pair _ _ (readable_ofNat _) (readable_ofNat _))
  | binary subtype bytes => exact readable_binaryToJson subtype bytes

theorem itemsReadable_toJson (items : List Value) : Json.ItemsReadable (itemsToJson items) := by
  cases items with
  | nil => trivial
  | cons item rest => exact ⟨readable_toJson item, itemsReadable_toJson rest⟩

theorem fieldsReadable_toJson (fields : List (String × Value)) :
    Json.FieldsReadable (fieldsToJson fields) := by
  cases fields with
  | nil => trivial
  | cons field rest =>
    obtain ⟨name, value⟩ := field
    exact ⟨isQuoted_encode name.toList, readable_toJson value, fieldsReadable_toJson rest⟩

end

end Value

/-- A plain document is read back from its tree. -/
theorem Document.ofJson?_toJson {d : Document} (plain : (Value.document d).IsPlain) :
    Document.ofJson? d.toJson = some d := by
  have hvalue : Value.ofJson? d.toJson = some (.document d) :=
    Value.ofJson?_toJson (.document d) plain
  rw [Document.ofJson?, hvalue]
  rfl

end DataGrid
