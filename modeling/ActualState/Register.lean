/-!
# Registers

A finite map from names to values, held in ascending order of the names. Because the order is
strict, a register is determined by what it says of each name.
-/
namespace ActualState

/-- Entries in strictly ascending order of their names. -/
structure Register (α : Type) where
  entries : List (String × α)
  sorted : entries.Pairwise fun a b => a.1 < b.1

namespace Register

variable {α β : Type}

instance [DecidableEq α] : DecidableEq (Register α) := fun a b =>
  if h : a.entries = b.entries then
    isTrue (by cases a; cases b; simp_all)
  else isFalse fun e => h (e ▸ rfl)

/-- The register without entries. -/
def empty : Register α := ⟨[], .nil⟩

instance : Inhabited (Register α) := ⟨empty⟩

/-- The value of a name. -/
def get? (r : Register α) (name : String) : Option α := r.entries.lookup name

/-- How many names there are. -/
def size (r : Register α) : Nat := r.entries.length

/-- Puts an entry at its place, over one with the same name. -/
def insertEntry (name : String) (a : α) : List (String × α) → List (String × α)
  | [] => [(name, a)]
  | e :: rest =>
    if name < e.1 then (name, a) :: e :: rest
    else if name = e.1 then (name, a) :: rest
    else e :: insertEntry name a rest

theorem mem_insertEntry {name : String} {a : α} {l : List (String × α)} {e : String × α}
    (h : e ∈ insertEntry name a l) : e = (name, a) ∨ e ∈ l := by
  induction l with
  | nil => simpa [insertEntry] using h
  | cons d rest ih =>
    simp only [insertEntry] at h
    split at h
    · simpa using h
    · split at h
      · rcases List.mem_cons.1 h with h | h
        · exact .inl h
        · exact .inr (List.mem_cons_of_mem _ h)
      · rcases List.mem_cons.1 h with h | h
        · exact .inr (h ▸ List.mem_cons_self)
        · exact (ih h).imp id (List.mem_cons_of_mem _)

theorem pairwise_insertEntry {name : String} {a : α} {l : List (String × α)}
    (h : l.Pairwise fun a b => a.1 < b.1) :
    (insertEntry name a l).Pairwise fun a b => a.1 < b.1 := by
  induction l with
  | nil => simp [insertEntry]
  | cons d rest ih =>
    obtain ⟨hd, hr⟩ := List.pairwise_cons.1 h
    simp only [insertEntry]
    split
    · next hlt =>
      refine List.pairwise_cons.2 ⟨fun e he => ?_, h⟩
      rcases List.mem_cons.1 he with he | he
      · exact he ▸ hlt
      · exact String.lt_trans hlt (hd e he)
    · split
      · next _ heq => exact List.pairwise_cons.2 ⟨fun e he => heq ▸ hd e he, hr⟩
      · next hnlt hne =>
        refine List.pairwise_cons.2 ⟨fun e he => ?_, ih hr⟩
        rcases mem_insertEntry he with he | he
        · exact he ▸ Std.lt_of_le_of_ne (String.not_lt.1 hnlt) fun h => hne h.symm
        · exact hd e he

/-- The register in which a name has a value. -/
def insert (r : Register α) (name : String) (a : α) : Register α :=
  ⟨insertEntry name a r.entries, pairwise_insertEntry r.sorted⟩

/-- The entries that pass a test. -/
def filter (r : Register α) (p : String → α → Bool) : Register α :=
  ⟨r.entries.filter fun e => p e.1 e.2, r.sorted.sublist List.filter_sublist⟩

/-- The register of a run of entries; of several with one name the last one counts. -/
def ofList (es : List (String × α)) : Register α := es.foldl (fun r e => r.insert e.1 e.2) empty

theorem lookup_cons_eq (name other : String) (a : α) (l : List (String × α)) :
    ((name, a) :: l).lookup other = if other = name then some a else l.lookup other := by
  by_cases h : other = name
  · simp [h]
  · have hb : (other == name) = false := by simpa using h
    simp [List.lookup_cons, hb, h]

theorem lookup_insertEntry (name other : String) (a : α) {l : List (String × α)}
    (h : l.Pairwise fun a b => a.1 < b.1) :
    (insertEntry name a l).lookup other = if other = name then some a else l.lookup other := by
  induction l with
  | nil => simp only [insertEntry, lookup_cons_eq]
  | cons d rest ih =>
    obtain ⟨k, v⟩ := d
    have hr := (List.pairwise_cons.1 h).2
    simp only [insertEntry]
    split
    · rw [lookup_cons_eq]
    · split
      · next _ heq => simp only [lookup_cons_eq, heq]; split <;> rfl
      · next _ hne =>
        rw [lookup_cons_eq, lookup_cons_eq, ih hr]
        by_cases ho : other = name
        · subst ho; simp only [if_neg hne, if_true]
        · simp only [if_neg ho]

@[simp] theorem get?_empty (name : String) : (empty : Register α).get? name = none := rfl

@[simp] theorem get?_insert (r : Register α) (name other : String) (a : α) :
    (r.insert name a).get? other = if other = name then some a else r.get? other :=
  lookup_insertEntry name other a r.sorted

theorem lookup_filter (p : String → α → Bool) (name : String) {l : List (String × α)}
    (h : l.Pairwise fun a b => a.1 < b.1) :
    (l.filter fun e => p e.1 e.2).lookup name = (l.lookup name).filter (p name) := by
  induction l with
  | nil => rfl
  | cons d rest ih =>
    obtain ⟨k, v⟩ := d
    obtain ⟨hd, hr⟩ := List.pairwise_cons.1 h
    have hl := ih hr
    rw [lookup_cons_eq]
    by_cases hn : name = k
    · subst hn
      cases hp : p name v with
      | true => simp [hp, Option.filter]
      | false =>
        -- every other name is larger, so nothing is found further on
        have hnone : rest.lookup name = none := by
          rw [List.lookup_eq_none_iff]
          intro e he
          have hlt : name < e.1 := hd e he
          have hne : name ≠ e.1 := by
            intro heq
            rw [heq] at hlt
            exact String.lt_irrefl _ hlt
          simpa using hne
        rw [List.filter_cons_of_neg (by simp [hp]), hl, hnone]
        simp [hp, Option.filter]
    · rw [if_neg hn, ← hl]
      cases hp : p k v with
      | true => rw [List.filter_cons_of_pos (by simp [hp]), lookup_cons_eq, if_neg hn]
      | false => rw [List.filter_cons_of_neg (by simp [hp])]

@[simp] theorem get?_filter (r : Register α) (p : String → α → Bool) (name : String) :
    (r.filter p).get? name = (r.get? name).filter (p name) := lookup_filter p name r.sorted

/-- The entries of a register are the names that have a value, each with its value. -/
theorem get?_eq_some_iff {r : Register α} {name : String} {a : α} :
    r.get? name = some a ↔ (name, a) ∈ r.entries := by
  obtain ⟨entries, sorted⟩ := r
  show entries.lookup name = some a ↔ (name, a) ∈ entries
  induction entries with
  | nil => simp
  | cons d rest ih =>
    obtain ⟨k, v⟩ := d
    obtain ⟨first, sorted⟩ := List.pairwise_cons.1 sorted
    rw [lookup_cons_eq, List.mem_cons]
    by_cases hn : name = k
    · subst hn
      have absent : (name, a) ∉ rest := fun h => String.lt_irrefl name (first (name, a) h)
      simp [absent, eq_comm]
    · simp [hn, ih sorted]

/-- Of several entries with one name the last one counts. -/
theorem get?_foldl_insert (es : List (String × α)) (r : Register α) (name : String) :
    (es.foldl (fun r e => r.insert e.1 e.2) r).get? name =
      ((es.reverse.find? fun e => e.1 = name).map Prod.snd).or (r.get? name) := by
  induction es generalizing r with
  | nil => simp
  | cons e rest ih =>
    rw [List.foldl_cons, ih, get?_insert, List.reverse_cons, List.find?_append]
    cases h : rest.reverse.find? fun e => e.1 = name with
    | some d => simp
    | none =>
      by_cases hn : name = e.1
      · simp [hn]
      · simp [hn, Ne.symm hn]

end Register

end ActualState
