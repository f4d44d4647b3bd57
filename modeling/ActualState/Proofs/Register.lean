import ActualState.Register
import Mathlib.Data.List.Sort

/-!
# Registers and listings of their entries

A map without an order gives its entries in any order. Put into a register one after the other
they make the same register, and sorted by name they are the entries of that register, so nothing
that is worked out from a register depends on the order in which a map was gone through.
-/
namespace ActualState.Register

variable {α β : Type}

theorem ext_entries {r s : Register α} (h : r.entries = s.entries) : r = s := by
  obtain ⟨entries, sorted⟩ := r
  obtain ⟨_, _⟩ := s
  cases h
  rfl

/-- A register is what it says of each name. -/
theorem ext_get? {r s : Register α} (h : ∀ name, r.get? name = s.get? name) : r = s := by
  have antisymm : Std.Antisymm fun a b : String × α => a.1 < b.1 :=
    ⟨fun _ _ ab ba => absurd (String.lt_trans ab ba) (String.lt_irrefl _)⟩
  have irrefl : Std.Irrefl fun a b : String × α => a.1 < b.1 := ⟨fun a => String.lt_irrefl a.1⟩
  refine ext_entries (r.sorted.eq_of_mem_iff s.sorted fun e => ?_)
  rw [← get?_eq_some_iff, ← get?_eq_some_iff, h]

/-- The register with its values changed. -/
def mapValues (f : α → β) (r : Register α) : Register β :=
  ⟨r.entries.map fun e => (e.1, f e.2), List.pairwise_map.2 r.sorted⟩

/-! ### Putting entries in -/

theorem mem_insert {name : String} {a : α} {r : Register α} {e : String × α}
    (h : e ∈ (r.insert name a).entries) : e = (name, a) ∨ e ∈ r.entries :=
  mem_insertEntry h

theorem mem_foldl_insert {es : List (String × α)} {r : Register α} {e : String × α}
    (h : e ∈ (es.foldl (fun r e => r.insert e.1 e.2) r).entries) : e ∈ es ∨ e ∈ r.entries := by
  induction es generalizing r with
  | nil => exact .inr h
  | cons d es ih =>
    rcases ih h with later | before
    · exact .inl (List.mem_cons_of_mem d later)
    · rcases mem_insert before with rfl | before
      · exact .inl List.mem_cons_self
      · exact .inr before

theorem mem_ofList {es : List (String × α)} {e : String × α} (h : e ∈ (ofList es).entries) :
    e ∈ es := by
  rcases mem_foldl_insert h with given | nothing
  · exact given
  · contradiction

theorem insertEntry_of_forall_lt {name : String} {a : α} {l : List (String × α)}
    (h : ∀ e ∈ l, e.1 < name) : insertEntry name a l = l ++ [(name, a)] := by
  induction l with
  | nil => rfl
  | cons e rest ih =>
    have first : e.1 < name := h e List.mem_cons_self
    have notBefore : ¬ name < e.1 := fun before =>
      String.lt_irrefl _ (String.lt_trans first before)
    have other : name ≠ e.1 := fun same => String.lt_irrefl e.1 (same ▸ first)
    rw [insertEntry, if_neg notBefore, if_neg other,
      ih fun d hd => h d (List.mem_cons_of_mem e hd), List.cons_append]

/-- A register is what its entries make, put in one after the other. -/
theorem ofList_entries (r : Register α) : ofList r.entries = r := by
  have put (es : List (String × α)) (s : Register α)
      (ascending : (s.entries ++ es).Pairwise fun a b => a.1 < b.1) :
      (es.foldl (fun r e => r.insert e.1 e.2) s).entries = s.entries ++ es := by
    induction es generalizing s with
    | nil => exact (List.append_nil _).symm
    | cons e es ih =>
      have before : ∀ d ∈ s.entries, d.1 < e.1 := fun d hd =>
        (List.pairwise_append.1 ascending).2.2 d hd e List.mem_cons_self
      have inserted : (s.insert e.1 e.2).entries = s.entries ++ [e] :=
        insertEntry_of_forall_lt before
      rw [List.foldl_cons, ih _ (by simpa [inserted] using ascending), inserted]
      simp
  exact ext_entries (put r.entries .empty r.sorted)

/-! ### Entries in any order -/

/-- Entries of different names can be put in either way round. -/
theorem insert_comm (r : Register α) {a b : String} (other : a ≠ b) (x y : α) :
    (r.insert a x).insert b y = (r.insert b y).insert a x := by
  refine ext_get? fun name => ?_
  simp only [get?_insert]
  by_cases first : name = a
  · have second : name ≠ b := first ▸ other
    rw [if_neg second, if_pos first, if_pos first]
  · rw [if_neg first, if_neg first]

/-- A name has one value only. -/
theorem eq_of_mem_of_mem {r : Register α} {d e : String × α} (hd : d ∈ r.entries)
    (he : e ∈ r.entries) (same : d.1 = e.1) : d = e := by
  have first : r.get? d.1 = some d.2 := get?_eq_some_iff.2 hd
  have second : r.get? e.1 = some e.2 := get?_eq_some_iff.2 he
  rw [same, second] at first
  exact Prod.ext same (Option.some.inj first).symm

/-- A register is what its entries make in whatever order they are put in. -/
theorem ofList_perm {r : Register α} {es : List (String × α)} (listing : es.Perm r.entries) :
    ofList es = r := by
  have comm : ∀ d ∈ es, ∀ e ∈ es, ∀ s : Register α,
      (s.insert d.1 d.2).insert e.1 e.2 = (s.insert e.1 e.2).insert d.1 d.2 := by
    intro d hd e he s
    by_cases same : d.1 = e.1
    · rw [eq_of_mem_of_mem (listing.mem_iff.1 hd) (listing.mem_iff.1 he) same]
    · exact s.insert_comm same d.2 e.2
  exact (listing.foldl_eq' comm empty).trans r.ofList_entries

/-- Sorted by name, the entries of a register in whatever order are its entries. -/
theorem mergeSort_of_perm {r : Register α} {es : List (String × α)}
    (listing : es.Perm r.entries) : (es.mergeSort fun a b => a.1 ≤ b.1) = r.entries := by
  have sorted : (es.mergeSort fun a b => a.1 ≤ b.1).Pairwise fun a b => a.1 ≤ b.1 := by
    refine (List.pairwise_mergeSort ?_ ?_ es).imp of_decide_eq_true
    · intro a b c first second
      exact decide_eq_true (String.le_trans (of_decide_eq_true first) (of_decide_eq_true second))
    · intro a b
      simpa using String.le_total a.1 b.1
  have ascending : r.entries.Pairwise fun a b => a.1 ≤ b.1 :=
    r.sorted.imp Std.le_of_lt
  have perm : (es.mergeSort fun a b => a.1 ≤ b.1).Perm r.entries :=
    (List.mergeSort_perm es _).trans listing
  refine perm.eq_of_pairwise ?_ sorted ascending
  intro a b ha hb before after
  exact eq_of_mem_of_mem (perm.mem_iff.1 ha) hb (String.le_antisymm before after)

end ActualState.Register
