import ActualState.Proofs.Json.Members
import ActualState.Proofs.Json.Values

/-!
# Typed values and back

What the readers of typed values make of trees, those that were written among them, and what holds
of everything they read. A record that is written with its fields in order is read by storing them
in order; a property that every field keeps holds of every record that is read, whatever its text.
-/
namespace ActualState.Json

/-! ### Reading trees -/

theorem readText_of_means {l : Literal} {s : String} (h : l.Means s) :
    readText (.string l) = .ok s :=
  Literal.text_of_means h

theorem readNatural_digits {n : Nat} (h : n < 4294967296) :
    readNatural 32 (.number ⟨false, Decimal.digits n, none, none⟩) = .ok n := by
  have value : (⟨false, Decimal.digits n, none, none⟩ : Numeral).value? = some (.natural n) :=
    value?_natural (by omega)
  have small : n < Nat.pow 2 32 := h
  simp only [readNatural, Numeral.value, value, ok_bind, narrow, if_pos small]

theorem readDouble_of_value {n : Numeral} {x : Float}
    (h : n.value?.map Number.toDouble = some x) : readDouble (.number n) = .ok x := by
  obtain ⟨v, value, rfl⟩ := Option.map_eq_some_iff.1 h
  simp [readDouble, Numeral.value, value, Except.map]

theorem readVariant_of_means {α : Type} {variants : List (String × α)} {l : Literal}
    {name : String} (means : l.Means name) {a : α} (h : variants.lookup name = some a) :
    readVariant variants (.string l) = .ok a := by
  simp only [readVariant, Literal.text_of_means means, ok_bind, readVariant.choose, h]

theorem readList_of_forall₂ {α : Type} {reader : Reader α} {as : List α} {ns : List Node}
    (h : List.Forall₂ (fun a n => reader n = .ok a) as ns) :
    readList reader (.array ns .closed) = .ok as := by
  have all : readAll reader ns = .ok as := by
    induction h with
    | nil => rfl
    | cons first _ ih =>
      rw [readAll, first, ih]
      rfl
  rw [readList, all]
  rfl

/-! ### Reading what was written -/

@[simp] theorem readText_string (s : String) : readText (Value.string s).toNode = .ok s :=
  Literal.text_literalOf s

theorem readNatural_nat {n : Nat} (h : n < 4294967296) :
    readNatural 32 (Value.nat n).toNode = .ok n :=
  readNatural_digits h

/-- The double that the text of a double is read as; a double that is no number has no such text. -/
def reread (x : Float) : Float :=
  match read readDouble (Value.double x).toBytes with
  | .ok y => y
  | .error _ => x

theorem readDouble_of_numeral {x : Float} {v : Number} (h : x.isFinite = true)
    (value : (Number.double x).numeral.value? = some v) :
    readDouble (Value.double x).toNode = .ok v.toDouble := by
  have written : Number.isWritten (.double x) = true := h
  have node : (Value.double x).toNode = .number (Number.double x).numeral := by
    simp [Value.double, Value.toNode, Number.toNode, written]
  rw [node]
  exact readDouble_of_value (by rw [value, Option.map_some])

/-- What a double is read as again is the value of its numeral. -/
theorem reread_eq {x : Float} {v : Number} (h : x.isFinite = true)
    (value : (Number.double x).numeral.value? = some v) : reread x = v.toDouble := by
  rw [reread, read_toBytes, readDouble_of_numeral h value]

theorem readDouble_double {x : Float} (h : x.isFinite = true) :
    readDouble (Value.double x).toNode = .ok (reread x) := by
  obtain ⟨v, value⟩ := Option.isSome_iff_exists.1 (value?_double h)
  rw [reread_eq h value]
  exact readDouble_of_numeral h value

theorem readVariant_string {α : Type} {variants : List (String × α)} {name : String} {a : α}
    (h : variants.lookup name = some a) :
    readVariant variants (Value.string name).toNode = .ok a :=
  readVariant_of_means (means_literalOf name) h

theorem readOption_object {α : Type} (reader : Reader α) (ms : List (String × Value)) :
    readOption reader (Value.object ms).toNode = (reader (Value.object ms).toNode).map some := rfl

theorem toNodes_eq_map (vs : List Value) : Value.toNodes vs = vs.map Value.toNode := by
  induction vs with
  | nil => rfl
  | cons v vs ih => rw [Value.toNodes, ih, List.map_cons]

theorem readList_list {α β : Type} {reader : Reader β} {write : α → Value} {f : α → β}
    {as : List α} (h : ∀ a ∈ as, reader (write a).toNode = .ok (f a)) :
    readList reader (Value.list write as).toNode = .ok (as.map f) := by
  have node : (Value.list write as).toNode = .array (Value.toNodes (as.map write)) .closed := rfl
  rw [node, toNodes_eq_map]
  apply readList_of_forall₂
  rw [List.forall₂_map_right_iff, List.forall₂_map_right_iff, List.forall₂_map_left_iff,
    List.forall₂_same]
  exact h

/-! ### Records -/

variable {σ : Type}

theorem named_toMembers (ms : List (String × Value)) :
    Named (Value.toMembers ms) (ms.map fun m => (m.1, m.2.toNode)) := by
  induction ms with
  | nil => exact .nil
  | cons m ms ih => exact .cons ⟨means_literalOf m.1, rfl⟩ ih

theorem hasMembers_toNode (ms : List (String × Value)) :
    (Value.object ms).toNode.HasMembers (ms.map fun m => (m.1, m.2.toNode)) :=
  ⟨_, rfl, named_toMembers ms⟩

/-- A record that is written with all its fields in order. -/
theorem readRecord_object {fields : List (Field Node Problem σ)}
    (distinct : (fields.map (·.name)).Nodup) (vs : List Value) (all : vs.length = fields.length)
    (title : String) (start : σ) :
    readRecord title fields start (Value.object ((fields.map (·.name)).zip vs)).toNode =
      storeAll (fields.zip (vs.map Value.toNode)) start := by
  let ms := (fields.map (·.name)).zip vs
  have named := named_toMembers ms
  have whole := Node.isWhole_of_mem (Value.isWhole_toNode (.object ms)) (hasMembers_toNode ms)
  have entries : ms.map (fun m => (m.1, m.2.toNode)) =
      (fields.zip (vs.map Value.toNode)).map fun g => (g.1.name, g.2) := by
    show ((fields.map (·.name)).zip vs).map _ = _
    rw [List.zip_map_left, List.zip_map_right, List.map_map, List.map_map]
    rfl
  have stored : given fields (ms.map fun m => (m.1, m.2.toNode)) =
      fields.zip (vs.map Value.toNode) := by
    rw [entries]
    exact given_of_fields distinct fun g hg => (List.of_mem_zip hg).1
  have names : (fields.zip (vs.map Value.toNode)).map (·.1.name) = fields.map (·.name) := by
    have firsts : (fields.zip (vs.map Value.toNode)).map Prod.fst = fields :=
      List.map_fst_zip (by simp [all])
    have names := congrArg (List.map (·.name)) firsts
    rwa [List.map_map] at names
  have once : ((given fields (ms.map fun m => (m.1, m.2.toNode))).map (·.1.name)).Nodup := by
    rwa [stored, names]
  have read_ := readMembers_named named whole [] once (by simp) start
  rw [stored, names] at read_
  rw [Value.toNode, readRecord, read_]
  cases storeAll (fields.zip (vs.map Value.toNode)) start with
  | error p => rfl
  | ok s => exact complete_of_names (fun f hf _ => by simpa using ⟨f, hf, rfl⟩) s

/-! ### What is read, whatever was written -/

/-- What every field of a record keeps. -/
def Keeps (fields : List (Field Node Problem σ)) (P : σ → Prop) : Prop :=
  ∀ f ∈ fields, ∀ n s t, f.store n s = .ok t → P s → P t

theorem readMembers_keeps {fields : List (Field Node Problem σ)} {P : σ → Prop}
    (kept : Keeps fields P) (ms : List (Literal × Node)) (seen : List String) {s : σ} (start : P s)
    {result : List String × σ}
    (read_ : Record.readMembers members fields ms seen s = .ok result) : P result.2 := by
  induction ms generalizing seen s with
  | nil =>
    obtain ⟨⟩ := read_
    exact start
  | cons m rest ih =>
    obtain ⟨name, -, read_⟩ := bind_eq_ok.1 read_
    cases found : Record.find? fields name with
    | none =>
      simp only [found] at read_
      obtain ⟨-, -, read_⟩ := bind_eq_ok.1 read_
      exact ih seen start read_
    | some f =>
      simp only [found] at read_
      split at read_
      · contradiction
      · obtain ⟨t, stored, read_⟩ := bind_eq_ok.1 read_
        exact ih _ (kept f (List.mem_of_find?_eq_some found) m.2 s t stored start) read_

theorem readPositional_keeps {note : String} {ending : Ending}
    {fields : List (Field Node Problem σ)} {P : σ → Prop} (kept : Keeps fields P) (index : Nat)
    (elements : List Node) {s : σ} (start : P s) {result : List Node × σ}
    (read_ : readPositional note ending index fields elements s = .ok result) : P result.2 := by
  induction fields generalizing index elements s with
  | nil =>
    obtain ⟨⟩ := read_
    exact start
  | cons f fields ih =>
    have rest : Keeps fields P := fun g hg => kept g (List.mem_cons_of_mem f hg)
    cases elements with
    | nil =>
      unfold readPositional at read_
      split at read_
      · contradiction
      · split at read_
        · exact ih rest _ _ start read_
        · contradiction
    | cons n elements =>
      obtain ⟨t, stored, read_⟩ := bind_eq_ok.1 read_
      exact ih rest _ _ (kept f List.mem_cons_self n s t stored start) read_

theorem unexpected_ne_ok {α : Type} (n : Node) (expected : String) (a : α) :
    (n.unexpected expected : Except Problem α) ≠ .ok a := by
  intro h
  obtain ⟨f, -, thrown⟩ := bind_eq_ok.1 h
  contradiction

/-- What every field keeps holds of every record that is read. -/
theorem readRecord_keeps {fields : List (Field Node Problem σ)} {P : σ → Prop}
    (kept : Keeps fields P) {title : String} {start s : σ} (holds : P start) {n : Node}
    (read_ : readRecord title fields start n = .ok s) : P s := by
  unfold readRecord at read_
  split at read_
  · obtain ⟨⟨seen, t⟩, named, read_⟩ := bind_eq_ok.1 read_
    obtain ⟨-, -, read_⟩ := bind_eq_ok.1 read_
    have all := readMembers_keeps kept _ _ holds named
    unfold Record.complete at read_
    split at read_
    · contradiction
    · exact Except.ok.inj read_ ▸ all
  · obtain ⟨⟨rest, t⟩, listed, read_⟩ := bind_eq_ok.1 read_
    obtain ⟨-, -, read_⟩ := bind_eq_ok.1 read_
    exact Except.ok.inj read_ ▸ readPositional_keeps kept _ _ holds listed
  · exact absurd read_ (unexpected_ne_ok _ _ _)

theorem readAll_mem {α : Type} {reader : Reader α} {ns : List Node} {as : List α}
    (read_ : readAll reader ns = .ok as) {a : α} (h : a ∈ as) : ∃ n, reader n = .ok a := by
  induction ns generalizing as with
  | nil =>
    obtain ⟨⟩ := read_
    contradiction
  | cons n ns ih =>
    obtain ⟨b, first, read_⟩ := bind_eq_ok.1 read_
    obtain ⟨bs, others, read_⟩ := bind_eq_ok.1 read_
    obtain ⟨⟩ := read_
    rcases List.mem_cons.1 h with rfl | later
    · exact ⟨n, first⟩
    · exact ih others later

theorem exists_of_read {α : Type} {reader : Reader α} {bs : List UInt8} {a : α}
    (read_ : read reader bs = .ok a) : ∃ n, reader n = .ok a := by
  obtain ⟨b, root, read_⟩ := bind_eq_ok.1 read_
  cases trailing : (Document.ofBytes bs).trailing with
  | true => simp [trailing, throwFault] at read_
  | false =>
    rw [trailing] at read_
    exact ⟨_, root.trans read_⟩

theorem readAll_each {α : Type} {reader : Reader α} {ns : List Node} {as : List α}
    (read_ : readAll reader ns = .ok as) {n : Node} (h : n ∈ ns) : ∃ a, reader n = .ok a := by
  induction ns generalizing as with
  | nil => contradiction
  | cons m ns ih =>
    obtain ⟨a, first, read_⟩ := bind_eq_ok.1 read_
    obtain ⟨as, others, -⟩ := bind_eq_ok.1 read_
    rcases List.mem_cons.1 h with rfl | later
    · exact ⟨a, first⟩
    · exact ih others later

/-- All elements of a list that is read were read one by one. -/
theorem readList_mem {α : Type} {reader : Reader α} {n : Node} {as : List α}
    (read_ : readList reader n = .ok as) {a : α} (h : a ∈ as) : ∃ m, reader m = .ok a := by
  unfold readList at read_
  split at read_
  · obtain ⟨bs, all, read_⟩ := bind_eq_ok.1 read_
    obtain ⟨-, -, read_⟩ := bind_eq_ok.1 read_
    obtain ⟨⟩ := read_
    exact readAll_mem all h
  · exact absurd read_ (unexpected_ne_ok _ _ _)

theorem readEntries_mem {α : Type} {reader : Reader α} {ms : List (Literal × Node)}
    {es : List (String × α)} (read_ : readEntries reader ms = .ok es) {e : String × α}
    (h : e ∈ es) : ∃ n, reader n = .ok e.2 := by
  induction ms generalizing es with
  | nil =>
    obtain ⟨⟩ := read_
    contradiction
  | cons m ms ih =>
    obtain ⟨name, -, read_⟩ := bind_eq_ok.1 read_
    obtain ⟨b, first, read_⟩ := bind_eq_ok.1 read_
    obtain ⟨bs, others, read_⟩ := bind_eq_ok.1 read_
    obtain ⟨⟩ := read_
    rcases List.mem_cons.1 h with rfl | later
    · exact ⟨m.2, first⟩
    · exact ih others later

/-- All entries of a map that is read were read one by one. -/
theorem readMap_mem {α : Type} {reader : Reader α} {n : Node} {es : List (String × α)}
    (read_ : readMap reader n = .ok es) {e : String × α} (h : e ∈ es) :
    ∃ m, reader m = .ok e.2 := by
  unfold readMap at read_
  split at read_
  · obtain ⟨bs, all, read_⟩ := bind_eq_ok.1 read_
    obtain ⟨-, -, read_⟩ := bind_eq_ok.1 read_
    obtain ⟨⟩ := read_
    exact readEntries_mem all h
  · exact absurd read_ (unexpected_ne_ok _ _ _)

/-- Every double that is read is a number. -/
theorem isFinite_readDouble {n : Node} {x : Float} (read_ : readDouble n = .ok x) :
    x.isFinite = true := by
  unfold readDouble at read_
  split at read_
  · next numeral =>
    unfold Numeral.value at read_
    split at read_
    · next v value =>
      obtain ⟨⟩ := read_
      exact isFinite_value value
    · contradiction
  · exact absurd read_ (unexpected_ne_ok _ _ _)

/-- Every natural that is read is small enough. -/
theorem lt_of_readNatural {bits : Nat} {node : Node} {n : Nat}
    (read_ : readNatural bits node = .ok n) : n < Nat.pow 2 bits := by
  unfold readNatural at read_
  split at read_
  · obtain ⟨v, -, read_⟩ := bind_eq_ok.1 read_
    unfold narrow at read_
    cases v with
    | natural m =>
      simp only [] at read_
      split at read_
      · next small =>
        obtain ⟨⟩ := read_
        exact small
      · contradiction
    | negative m => contradiction
    | double x => contradiction
  · exact absurd read_ (unexpected_ne_ok _ _ _)

end ActualState.Json
