import ActualState.Json.Number

/-!
# Decimal digits

The digits of a natural, most significant first, as they are written and as numbers.
-/
namespace ActualState.Decimal

/-- The decimal digits of a natural, most significant first. -/
def digits (n : Nat) : List Nat := if n < 10 then [n] else digits (n / 10) ++ [n % 10]

/-- Whether all members of a list are decimal digits. -/
def AreDigits (ds : List Nat) : Prop := ∀ d ∈ ds, d < 10

theorem AreDigits.append {ds es : List Nat} (hd : AreDigits ds) (he : AreDigits es) :
    AreDigits (ds ++ es) := fun d h => (List.mem_append.1 h).elim (hd d) (he d)

theorem areDigits_replicate_zero (n : Nat) : AreDigits (List.replicate n 0) := by
  intro d hd
  rw [List.eq_of_mem_replicate hd]
  decide

theorem areDigits_digits (n : Nat) : AreDigits (digits n) := by
  induction n using digits.induct with
  | case1 n small =>
    rw [digits, if_pos small]
    simpa [AreDigits] using small
  | case2 n large ih =>
    have last : n % 10 < 10 := Nat.mod_lt n (by decide)
    rw [digits, if_neg large]
    exact ih.append (by simpa [AreDigits] using last)

theorem digits_ne_nil (n : Nat) : digits n ≠ [] := by
  rw [digits]
  split <;> simp

/-- The digits of a natural, as characters. -/
theorem toDigits_eq_map (n : Nat) : Nat.toDigits 10 n = (digits n).map Nat.digitChar := by
  induction n using digits.induct with
  | case1 n small =>
    rw [digits, if_pos small, Nat.toDigits_of_lt_base small]
    rfl
  | case2 n large ih =>
    rw [digits, if_neg large, Nat.toDigits_of_base_le (by decide) (by omega), ih, List.map_append]
    rfl

theorem length_toDigits (n : Nat) : (Nat.toDigits 10 n).length = (digits n).length := by
  rw [toDigits_eq_map, List.length_map]

/-- So many digits suffice for the naturals below a power of ten. -/
theorem length_digits_le_iff {n k : Nat} (h : 0 < k) :
    (digits n).length ≤ k ↔ n < Nat.pow 10 k := by
  rw [← length_toDigits]
  exact Nat.length_toDigits_le_iff (by decide) h

theorem lt_pow_length (n : Nat) : n < Nat.pow 10 (digits n).length :=
  (length_digits_le_iff (List.length_pos_iff.2 (digits_ne_nil n))).1 (Nat.le_refl _)

/-- A natural that is not zero has no zero in front. -/
theorem head_digits {n : Nat} (h : 0 < n) : ∃ d ds, digits n = d :: ds ∧ 0 < d := by
  induction n using digits.induct with
  | case1 n small => exact ⟨n, [], by rw [digits, if_pos small], h⟩
  | case2 n large ih =>
    obtain ⟨d, ds, head, pos⟩ := ih (by omega)
    exact ⟨d, ds ++ [n % 10], by rw [digits, if_neg large, head, List.cons_append], pos⟩

@[simp] theorem ofDigits_digits (n : Nat) : Json.ofDigits (digits n) = n := by
  induction n using digits.induct with
  | case1 n small =>
    rw [digits, if_pos small]
    simp [Json.ofDigits]
  | case2 n large ih =>
    rw [digits, if_neg large]
    simp only [Json.ofDigits, List.foldl_append, List.foldl_cons, List.foldl_nil] at ih ⊢
    rw [ih]
    omega

end ActualState.Decimal
