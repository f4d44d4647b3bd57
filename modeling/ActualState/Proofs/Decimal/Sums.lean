import ActualState.Proofs.Decimal.Drift

/-!
# Sums and quotients of doubles, and their order

The sum of two numbers above zero is rounded once from their exact sum; a zero changes nothing. A
quotient by a number is a number or out of range, but never undefined; and all that is not undefined
is in order.
-/
namespace ActualState.Decimal

open Float.Model (UnpackedFloat)
open Float.Model.UnpackedFloat

theorem unpack_add (x y : Float) :
    (x + y).toModel.unpack =
      (Float.Model.pack (UnpackedFloat.add .binary64 x.toModel.unpack y.toModel.unpack)).unpack :=
  rfl

/-! ### Exact sums -/

/-- Above zero, rounding what is held exactly is one rounding, with bits enough. -/
theorem rounds_normalize {m : Nat} {e : Int} (pos : 0 < m)
    (small : (m : ℚ) * 2 ^ e < largest) :
    Rounds .positive (m * 2 ^ e)
      (Float.Model.pack (UnpackedFloat.normalize .binary64 m e .positive)).unpack := by
  let k := (e - target m e).toNat
  have order : compare (m : Int) 0 = .gt := compare_gt_iff_gt.2 (by omega)
  have rounded : UnpackedFloat.normalize .binary64 m e .positive =
      roundWithAccuracy .binary64 .positive (m * 2 ^ k) (e - k) .exact := by
    simp only [UnpackedFloat.normalize, order, UnpackedFloat.round, targetExponent_eq,
      decreaseExponent, Int.toNat_natCast, Nat.shiftLeft_eq, k]
  have value : ((m * 2 ^ k : Nat) : ℚ) * 2 ^ (e - k) = m * 2 ^ e := by
    rw [zpow_sub₀ two_ne_zero, zpow_natCast]
    push_cast
    field_simp
  have le : e - k ≤ target (m * 2 ^ k) (e - k) := by
    simp only [k, target, log2_mul_two_pow pos]
    omega
  have inRange := isFinite_round (s := .positive) le (value.trans_lt small) .exact
  have exact := rounds_round le inRange rfl
  rwa [value, ← rounded] at exact

theorem rounds_add {v w : ℚ} {x y : Float} (hx : IsNumber .positive v x)
    (hy : IsNumber .positive w y) (small : v + w < largest) :
    Rounds .positive (v + w) (x + y).toModel.unpack := by
  obtain ⟨m₁, e₁, pos₁, ux, rfl⟩ := hx.parts
  obtain ⟨m₂, e₂, pos₂, uy, rfl⟩ := hy.parts
  let e := min e₁ e₂
  let m := m₁ * 2 ^ (e₁ - e).toNat + m₂ * 2 ^ (e₂ - e).toNat
  have shifted (n : Nat) {f : Int} (le : e ≤ f) :
      ((n * 2 ^ (f - e).toNat : Nat) : ℚ) * 2 ^ e = n * 2 ^ f := by
    have split : f = ((f - e).toNat : Int) + e := by omega
    conv_rhs => rw [split, zpow_add₀ two_ne_zero, zpow_natCast]
    push_cast
    ring
  have value : (m : ℚ) * 2 ^ e = m₁ * 2 ^ e₁ + m₂ * 2 ^ e₂ := by
    rw [Nat.cast_add, add_mul, shifted m₁ (Int.min_le_left _ _), shifted m₂ (Int.min_le_right _ _)]
  have pos : 0 < m := Nat.add_pos_left (Nat.mul_pos pos₁ (Nat.two_pow_pos _)) _
  have sum : UnpackedFloat.add .binary64 x.toModel.unpack y.toModel.unpack =
      UnpackedFloat.normalize .binary64 m e .positive := by
    rw [ux, uy]
    simp only [UnpackedFloat.add, decreaseExponent, Nat.shiftLeft_eq, Sign.apply, m, e]
    push_cast
    rfl
  rw [unpack_add, sum, ← value]
  exact rounds_normalize pos (value.trans_lt small)

/-- What is rounded from a value that is not too small is above zero. -/
theorem Rounds.number_pos {v : ℚ} {u : UnpackedFloat} (h : Rounds .positive v u)
    (large : leastHalf < v) : 0 < number u := by
  have pos : 0 < v := leastHalf_pos.trans large
  have part : 2 ^ (-53 : Int) * v < v := by
    rw [part_eq]
    linarith
  have close := (abs_le.1 h.close).1
  have room : max (2 ^ (-53 : Int) * v) leastHalf < v := max_lt part large
  linarith

/-! ### Zeros -/

theorem isNumber_zero_add {x y : Float} {v : ℚ} (hx : x.toModel.unpack = .zero .positive)
    (hy : IsNumber .positive v y) : IsNumber .positive v (x + y) := by
  obtain ⟨m, e, pos, uy, value⟩ := hy.parts
  obtain ⟨c, fits⟩ := canonical_unpack uy
  refine ⟨m, e, pos, ?_, value⟩
  rw [unpack_add, hx, uy]
  exact unpack_pack pos c fits

theorem isNumber_add_zero {x y : Float} {v : ℚ} (hx : IsNumber .positive v x)
    (hy : y.toModel.unpack = .zero .positive) : IsNumber .positive v (x + y) := by
  obtain ⟨m, e, pos, ux, value⟩ := hx.parts
  obtain ⟨c, fits⟩ := canonical_unpack ux
  refine ⟨m, e, pos, ?_, value⟩
  rw [unpack_add, hy, ux]
  exact unpack_pack pos c fits

/-! ### Quotients -/

/-- The quotient of two numbers of which the second is no zero is a number or out of range. -/
theorem isFinite_or_isInf_div {x y : Float} {s : Sign} {m : Nat} {e : Int} {pos : 0 < m}
    (hx : x.isFinite = true) (hy : y.toModel.unpack = .finite s m e pos) :
    (x / y).isFinite = true ∨ (x / y).isInf = true := by
  change x.toModel.unpack.isFinite = true at hx
  show (x / y).toModel.unpack.isFinite = true ∨ (x / y).toModel.unpack.isInf = true
  rw [unpack_div, hy]
  generalize x.toModel.unpack = u at hx
  cases u with
  | infinity t => contradiction
  | notANumber => contradiction
  | zero t => exact .inl (congrArg UnpackedFloat.isFinite (unpack_pack_zero _))
  | finite t m₁ e₁ pos₁ =>
    obtain ⟨k, core, le⟩ := divCore_cut pos₁ pos e₁ e
    unfold UnpackedFloat.div
    simp only [core]
    obtain ⟨r, -, -, carried⟩ := roundWithAccuracy_eq (t / s) le
      (accuracyOfFraction (m₁ * 2 ^ k % m) m)
    rw [carried]
    exact isFinite_or_isInf_pack_carry _ r _

/-! ### Order -/

/-- Not NaN. -/
def IsDefined (x : Float) : Prop := x.toModel.unpack ≠ .notANumber

theorem isDefined_of_isFinite_or_isInf {x : Float} (h : x.isFinite = true ∨ x.isInf = true) :
    IsDefined x := by
  intro undefined_
  change x.toModel.unpack.isFinite = true ∨ x.toModel.unpack.isInf = true at h
  rw [undefined_] at h
  rcases h with h | h <;> contradiction

theorem lt_iff_unpack (x y : Float) :
    x < y ↔ x.toModel.unpack.lt y.toModel.unpack = true := by
  show decide _ = true ↔ _
  rw [decide_eq_true_iff]
  exact Iff.rfl

theorem le_iff_unpack (x y : Float) :
    x ≤ y ↔ x.toModel.unpack.le y.toModel.unpack = true := by
  show decide _ = true ↔ _
  rw [decide_eq_true_iff]
  exact Iff.rfl

/-- Doubles that are not undefined are compared, with the opposite outcome the other way round. -/
theorem compare_swap {u v : UnpackedFloat} (hu : u ≠ .notANumber) (hv : v ≠ .notANumber) :
    ∃ o, u.compare v = some o ∧ v.compare u = some o.swap := by
  cases u with
  | notANumber => contradiction
  | zero s =>
    cases v with
    | notANumber => contradiction
    | zero t => exact ⟨.eq, rfl, rfl⟩
    | infinity t => cases t <;> exact ⟨_, rfl, rfl⟩
    | finite t n f pos => cases t <;> exact ⟨_, rfl, rfl⟩
  | infinity s =>
    cases v with
    | notANumber => contradiction
    | zero t => cases s <;> exact ⟨_, rfl, rfl⟩
    | infinity t => cases s <;> cases t <;> exact ⟨_, rfl, rfl⟩
    | finite t n f pos => cases s <;> exact ⟨_, rfl, rfl⟩
  | finite s m e pos =>
    cases v with
    | notANumber => contradiction
    | zero t => cases s <;> exact ⟨_, rfl, rfl⟩
    | infinity t => cases t <;> exact ⟨_, rfl, rfl⟩
    | finite t n f pos' =>
      have swapped : (compare f e).then (compare n m) =
          ((compare e f).then (compare m n)).swap := by
        rw [Ordering.swap_then, ← Std.OrientedOrd.eq_swap, ← Std.OrientedOrd.eq_swap]
      cases s <;> cases t
      · exact ⟨_, rfl, congrArg (fun o : Ordering => some o.swap) swapped⟩
      · exact ⟨_, rfl, rfl⟩
      · exact ⟨_, rfl, rfl⟩
      · exact ⟨_, rfl, congrArg some swapped⟩

/-- Where neither of two doubles is undefined, one of them is at most the other. -/
theorem le_of_not_lt {x y : Float} (hx : IsDefined x) (hy : IsDefined y) (h : ¬ y < x) :
    x ≤ y := by
  obtain ⟨o, there, back⟩ := compare_swap hx hy
  rw [lt_iff_unpack, UnpackedFloat.lt, back, beq_iff_eq] at h
  rw [le_iff_unpack, UnpackedFloat.le, there]
  cases o with
  | lt => rfl
  | eq => rfl
  | gt => exact absurd rfl h

end ActualState.Decimal
