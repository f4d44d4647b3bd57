import ActualState.Proofs.Json.Spellings
import Mathlib.Data.List.Nodup

/-!
# The members of records

What an object is read as depends on the members that give its fields, not on how their names are
spelled, nor on the members under other names, nor, where fields do not disturb each other, on the
order. An object that is read gives no field twice and all that are required.
-/
namespace ActualState.Json

@[simp] theorem ok_bind {ε α β : Type} (a : α) (f : α → Except ε β) :
    (Except.ok a >>= f) = f a := rfl

@[simp] theorem error_bind {ε α β : Type} (e : ε) (f : α → Except ε β) :
    (Except.error e >>= f) = .error e := rfl

theorem bind_eq_ok {ε α β : Type} {x : Except ε α} {f : α → Except ε β} {b : β} :
    (x >>= f) = .ok b ↔ ∃ a, x = .ok a ∧ f a = .ok b := by
  cases x <;> simp

theorem map_eq_ok {ε α β : Type} {x : Except ε α} {f : α → β} {b : β} :
    x.map f = .ok b ↔ ∃ a, x = .ok a ∧ f a = b := by
  cases x <;> simp [Except.map]

/-! ### Objects -/

/-- Members by the names that their keys mean. -/
def Named (ms : List (Literal × Node)) (entries : List (String × Node)) : Prop :=
  List.Forall₂ (fun m e => m.1.Means e.1 ∧ m.2 = e.2) ms entries

namespace Node

/-- An object with these members. -/
def HasMembers (n : Node) (entries : List (String × Node)) : Prop :=
  ∃ ms, n = .object ms .closed ∧ Named ms entries

/-- An object with these members in any order, among others whose names are not in `names`. -/
def Gives (names : List String) (n : Node) (given : List (String × Node)) : Prop :=
  ∃ entries, n.HasMembers entries ∧ (entries.filter fun e => e.1 ∈ names).Perm given

/-- An object with two members of the same name in `names`, or without one that is required. -/
def IsFlawed (names required : List String) (n : Node) : Prop :=
  ∃ entries, n.HasMembers entries ∧
    ((∃ name ∈ names, 2 ≤ (entries.map Prod.fst).count name) ∨
      ∃ name ∈ required, name ∉ entries.map Prod.fst)

/-- The members of a whole object are whole. -/
theorem isWhole_of_mem {n : Node} (whole : n.IsWhole) {entries : List (String × Node)}
    (h : n.HasMembers entries) : ∀ e ∈ entries, e.2.IsWhole := by
  obtain ⟨ms, rfl, named⟩ := h
  obtain ⟨whole, -⟩ := whole
  induction named with
  | nil => exact nofun
  | cons first _ ih =>
    obtain ⟨-, value, others⟩ := whole
    intro d hd
    rcases List.mem_cons.1 hd with rfl | later
    · exact first.2 ▸ value
    · exact ih others d later

theorem isWhole_of_gives {n : Node} (whole : n.IsWhole) {names : List String}
    {given : List (String × Node)} (gives : n.Gives names given) :
    ∀ e ∈ given, e.2.IsWhole := by
  obtain ⟨entries, members, perm⟩ := gives
  intro e he
  exact isWhole_of_mem whole members e (List.mem_of_mem_filter (perm.mem_iff.2 he))

end Node

/-! ### Fields -/

variable {σ : Type} {fields : List (Field Node Problem σ)}

theorem find?_of_mem (distinct : (fields.map (·.name)).Nodup) {f : Field Node Problem σ}
    (h : f ∈ fields) : Record.find? fields f.name = some f := by
  induction fields with
  | nil => contradiction
  | cons g rest ih =>
    rw [List.map_cons, List.nodup_cons] at distinct
    rcases List.mem_cons.1 h with rfl | later
    · simp [Record.find?]
    · have other : g.name ≠ f.name := fun same =>
        distinct.1 (same ▸ List.mem_map_of_mem later)
      have first : (g.name == f.name) = false := by simpa using other
      rw [Record.find?, List.find?_cons, first]
      exact ih distinct.2 later

theorem find?_eq_none_iff {name : String} :
    Record.find? fields name = none ↔ name ∉ fields.map (·.name) := by
  simp [Record.find?, List.find?_eq_none]

theorem exists_find?_of_mem {name : String} (h : name ∈ fields.map (·.name)) :
    ∃ f, Record.find? fields name = some f ∧ f.name = name := by
  cases found : Record.find? fields name with
  | none => exact absurd h (find?_eq_none_iff.1 found)
  | some f => exact ⟨f, rfl, by simpa using List.find?_some found⟩

/-- The members that give a field, each with its field. -/
def given (fields : List (Field Node Problem σ)) (entries : List (String × Node)) :
    List (Field Node Problem σ × Node) :=
  entries.filterMap fun e => (Record.find? fields e.1).map fun f => (f, e.2)

theorem given_cons_of_none {e : String × Node} (h : Record.find? fields e.1 = none)
    (entries : List (String × Node)) : given fields (e :: entries) = given fields entries := by
  simp [given, h]

theorem given_cons_of_some {e : String × Node} {f : Field Node Problem σ}
    (h : Record.find? fields e.1 = some f) (entries : List (String × Node)) :
    given fields (e :: entries) = (f, e.2) :: given fields entries := by
  simp [given, h]

theorem given_of_fields (distinct : (fields.map (·.name)).Nodup)
    {gs : List (Field Node Problem σ × Node)} (known : ∀ g ∈ gs, g.1 ∈ fields) :
    given fields (gs.map fun g => (g.1.name, g.2)) = gs := by
  induction gs with
  | nil => rfl
  | cons g gs ih =>
    have found := find?_of_mem distinct (known g List.mem_cons_self)
    rw [List.map_cons, given_cons_of_some found,
      ih fun h hh => known h (List.mem_cons_of_mem g hh)]

theorem mem_given_of_mem (distinct : (fields.map (·.name)).Nodup) {f : Field Node Problem σ}
    (known : f ∈ fields) {entries : List (String × Node)} {n : Node} (h : (f.name, n) ∈ entries) :
    (f, n) ∈ given fields entries := by
  refine List.mem_filterMap.2 ⟨(f.name, n), h, ?_⟩
  rw [find?_of_mem distinct known]
  rfl

/-- The names of the fields that are given, in the order of the members. -/
theorem map_name_given (entries : List (String × Node)) :
    (given fields entries).map (·.1.name) =
      (entries.map Prod.fst).filter (· ∈ fields.map (·.name)) := by
  induction entries with
  | nil => rfl
  | cons e entries ih =>
    by_cases known : e.1 ∈ fields.map (·.name)
    · obtain ⟨f, found, name⟩ := exists_find?_of_mem known
      rw [given_cons_of_some found, List.map_cons, ih, List.map_cons,
        List.filter_cons_of_pos (by simpa using known), name]
    · rw [given_cons_of_none (find?_eq_none_iff.2 known), ih, List.map_cons,
        List.filter_cons_of_neg (by simpa using known)]

/-- Members under other names give nothing. -/
theorem given_filter (entries : List (String × Node)) :
    given fields (entries.filter fun e => e.1 ∈ fields.map (·.name)) = given fields entries := by
  induction entries with
  | nil => rfl
  | cons e entries ih =>
    by_cases known : e.1 ∈ fields.map (·.name)
    · obtain ⟨f, found, -⟩ := exists_find?_of_mem known
      rw [List.filter_cons_of_pos (by simpa using known), given_cons_of_some found, ih,
        given_cons_of_some found]
    · rw [List.filter_cons_of_neg (by simpa using known), ih,
        given_cons_of_none (find?_eq_none_iff.2 known)]

/-! ### Reading members -/

/-- Stores values in fields, one after the other. -/
def storeAll : List (Field Node Problem σ × Node) → σ → Except Problem σ
  | [], s => .ok s
  | (f, n) :: rest, s => do
    let s ← f.store n s
    storeAll rest s

/-- Members that give each field at most once are stored in order; the others are skipped. -/
theorem readMembers_named {ms : List (Literal × Node)} {entries : List (String × Node)}
    (named : Named ms entries) (whole : ∀ e ∈ entries, e.2.IsWhole) (seen : List String)
    (once : ((given fields entries).map (·.1.name)).Nodup)
    (unseen : ∀ g ∈ given fields entries, g.1.name ∉ seen) (s : σ) :
    Record.readMembers members fields ms seen s =
      (storeAll (given fields entries) s).map fun s =>
        (((given fields entries).map (·.1.name)).reverse ++ seen, s) := by
  induction named generalizing seen s with
  | nil => rfl
  | @cons m e ms entries first _ ih =>
    obtain ⟨k, n⟩ := m
    obtain ⟨means, rfl⟩ := first
    have name : members.name k = .ok e.1 := Literal.text_of_means means
    have skip : members.skip e.2 = .ok () := e.2.skip_of_isWhole (whole e List.mem_cons_self)
    have others := fun d hd => whole d (List.mem_cons_of_mem e hd)
    cases found : Record.find? fields e.1 with
    | none =>
      rw [given_cons_of_none found] at once unseen ⊢
      simp only [Record.readMembers, name, ok_bind, found, skip]
      exact ih others seen once unseen s
    | some f =>
      rw [given_cons_of_some found] at once unseen ⊢
      rw [List.map_cons, List.nodup_cons] at once
      have fresh : seen.contains f.name = false := by
        simpa using unseen (f, e.2) List.mem_cons_self
      have later (g) (hg : g ∈ given fields entries) : g.1.name ∉ f.name :: seen := by
        have other : g.1.name ≠ f.name := fun same =>
          once.1 (same ▸ List.mem_map_of_mem hg)
        simpa [other] using unseen g (List.mem_cons_of_mem _ hg)
      simp only [Record.readMembers, name, ok_bind, found, fresh, storeAll, Bool.false_eq_true,
        if_false]
      cases f.store e.2 s with
      | error p => rfl
      | ok t => simpa using ih others (f.name :: seen) once.2 later t

theorem complete_of_names {seen : List String}
    (all : ∀ f ∈ fields, f.absence = .required → f.name ∈ seen) (s : σ) :
    Record.complete Problem.mismatch fields seen s = .ok s := by
  have none_ : fields.find? (fun f => f.absence == .required && !seen.contains f.name) = none := by
    rw [List.find?_eq_none]
    intro f hf
    simpa using all f hf
  simp only [Record.complete, Record.missing?, none_, Option.map_none]

/-! ### The order of members -/

/-- Fields of which any two may be stored in either order. -/
def AreIndependent (fields : List (Field Node Problem σ)) : Prop :=
  ∀ f ∈ fields, ∀ g ∈ fields, f.name ≠ g.name → ∀ m n s t u, f.store m s = .ok t →
    g.store n t = .ok u → ∃ t', g.store n s = .ok t' ∧ f.store m t' = .ok u

theorem storeAll_perm (independent : AreIndependent fields)
    {gs hs : List (Field Node Problem σ × Node)} (perm : gs.Perm hs)
    (known : ∀ g ∈ gs, g.1 ∈ fields) (once : (gs.map (·.1.name)).Nodup) {s t : σ}
    (stored : storeAll gs s = .ok t) : storeAll hs s = .ok t := by
  induction perm generalizing s with
  | nil => exact stored
  | cons g _ ih =>
    obtain ⟨r, first, stored⟩ := bind_eq_ok.1 stored
    have others := ih (fun h hh => known h (List.mem_cons_of_mem g hh))
      (List.nodup_cons.1 once).2 stored
    exact bind_eq_ok.2 ⟨r, first, others⟩
  | swap g h gs =>
    obtain ⟨r, first, stored⟩ := bind_eq_ok.1 stored
    obtain ⟨q, second, stored⟩ := bind_eq_ok.1 stored
    have other : h.1.name ≠ g.1.name := fun same =>
      (List.nodup_cons.1 once).1 (List.mem_cons.2 (.inl same))
    obtain ⟨r', second', first'⟩ := independent h.1 (known h List.mem_cons_self) g.1
      (known g (List.mem_cons_of_mem h List.mem_cons_self)) other _ _ _ _ _ first second
    exact bind_eq_ok.2 ⟨r', second', bind_eq_ok.2 ⟨q, first', stored⟩⟩
  | trans first _ ih ih' =>
    exact ih' (fun h hh => known h (first.mem_iff.2 hh))
      ((first.map _).nodup_iff.1 once) (ih known once stored)

/-- A whole object is read as what its fields are given, in any order. -/
theorem readRecord_of_gives (distinct : (fields.map (·.name)).Nodup)
    (independent : AreIndependent fields) {gs : List (Field Node Problem σ × Node)}
    (known : ∀ g ∈ gs, g.1 ∈ fields) (once : (gs.map (·.1.name)).Nodup) {n : Node}
    (whole : n.IsWhole) (gives : n.Gives (fields.map (·.name)) (gs.map fun g => (g.1.name, g.2)))
    (required : ∀ f ∈ fields, f.absence = .required → f.name ∈ gs.map (·.1.name))
    {title : String} {start s : σ} (stored : storeAll gs start = .ok s) :
    readRecord title fields start n = .ok s := by
  obtain ⟨entries, ⟨ms, rfl, named⟩, perm⟩ := gives
  have same : (given fields entries).Perm gs := by
    have given_ : (given fields (entries.filter _)).Perm (given fields _) := perm.filterMap _
    rwa [given_filter, given_of_fields distinct known] at given_
  have names := same.map (·.1.name)
  have members := Node.isWhole_of_mem whole ⟨ms, rfl, named⟩
  have read_ := readMembers_named named members [] (names.nodup_iff.2 once) (by simp) start
  have stored_ := storeAll_perm independent same.symm known once stored
  have complete (f) (hf : f ∈ fields) (needed : f.absence = .required) :
      f.name ∈ ((given fields entries).map (·.1.name)).reverse ++ [] := by
    rw [List.append_nil, List.mem_reverse, names.mem_iff]
    exact required f hf needed
  rw [readRecord, read_, stored_]
  exact complete_of_names complete s

/-! ### What an object that is read gives -/

theorem given_of_readMembers {ms : List (Literal × Node)} {entries : List (String × Node)}
    (named : Named ms entries) {seen : List String} (fresh : seen.Nodup) {s : σ}
    {result : List String × σ}
    (read_ : Record.readMembers members fields ms seen s = .ok result) :
    result.1 = ((given fields entries).map (·.1.name)).reverse ++ seen ∧ result.1.Nodup ∧
      ∀ g ∈ given fields entries, ∃ s t, g.1.store g.2 s = .ok t := by
  induction named generalizing seen s with
  | nil =>
    obtain ⟨⟩ := read_
    exact ⟨rfl, fresh, nofun⟩
  | @cons m e ms entries first _ ih =>
    obtain ⟨k, n⟩ := m
    obtain ⟨means, rfl⟩ := first
    have name : members.name k = .ok e.1 := Literal.text_of_means means
    rw [Record.readMembers, name, ok_bind] at read_
    cases found : Record.find? fields e.1 with
    | none =>
      simp only [found] at read_
      obtain ⟨-, -, read_⟩ := bind_eq_ok.1 read_
      rw [given_cons_of_none found]
      exact ih fresh read_
    | some f =>
      simp only [found] at read_
      split at read_
      · contradiction
      · next new =>
        obtain ⟨t, stored, read_⟩ := bind_eq_ok.1 read_
        have new_ : f.name ∉ seen := by simpa using new
        obtain ⟨names, once, others⟩ := ih (List.nodup_cons.2 ⟨new_, fresh⟩) read_
        rw [given_cons_of_some found]
        refine ⟨by simpa using names, once, ?_⟩
        intro g hg
        rcases List.mem_cons.1 hg with rfl | later
        · exact ⟨s, t, stored⟩
        · exact others g later

/-- An object that is read gives no field twice and all that are required, and every value that it
gives could be stored. -/
theorem given_of_readRecord {n : Node} {entries : List (String × Node)}
    (h : n.HasMembers entries) {title : String} {start s : σ}
    (read_ : readRecord title fields start n = .ok s) :
    ((given fields entries).map (·.1.name)).Nodup ∧
      (∀ f ∈ fields, f.absence = .required → f.name ∈ entries.map Prod.fst) ∧
      ∀ g ∈ given fields entries, ∃ s t, g.1.store g.2 s = .ok t := by
  obtain ⟨ms, rfl, named⟩ := h
  obtain ⟨⟨seen, t⟩, first, read_⟩ := bind_eq_ok.1 read_
  obtain ⟨-, -, read_⟩ := bind_eq_ok.1 read_
  obtain ⟨names, once, stored⟩ := given_of_readMembers named List.nodup_nil first
  rw [List.append_nil] at names
  simp only [] at names once
  rw [names] at once
  refine ⟨List.nodup_reverse.1 once, ?_, stored⟩
  intro f hf needed
  have all : f.name ∈ seen := by
    by_contra absent
    have missing : ∃ name, Record.missing? fields seen = some name := by
      rw [← Option.isSome_iff_exists, Record.missing?, Option.isSome_map, List.find?_isSome]
      exact ⟨f, hf, by simpa [needed] using absent⟩
    obtain ⟨name, missing⟩ := missing
    rw [Record.complete, missing] at read_
    contradiction
  rw [names, List.mem_reverse, map_name_given] at all
  exact (List.mem_filter.1 all).1

/-- A flawed object is not read. -/
theorem readRecord_of_isFlawed {names required : List String} {n : Node}
    (flawed : n.IsFlawed names required) (known : fields.map (·.name) = names)
    (needed : ∀ name ∈ required, ∃ f ∈ fields, f.name = name ∧ f.absence = .required)
    (title : String) (start s : σ) : readRecord title fields start n ≠ .ok s := by
  intro read_
  obtain ⟨entries, members, flaw⟩ := flawed
  obtain ⟨once, complete, -⟩ := given_of_readRecord members read_
  rcases flaw with ⟨name, mem, twice⟩ | ⟨name, mem, absent⟩
  · rw [map_name_given, known] at once
    have count := List.nodup_iff_count_le_one.1 once name
    rw [List.count_filter (by simpa using mem)] at count
    omega
  · obtain ⟨f, hf, rfl, required⟩ := needed name mem
    exact absent (complete f hf required)

end ActualState.Json
