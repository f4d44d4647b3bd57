import ActualState.Proofs.Decimal.Rounding

/-!
# Arithmetic of doubles

What keeps a product or a quotient in range, and how far a natural or a power of ten is from its
double.
-/
namespace ActualState.Decimal

open Float.Model (UnpackedFloat Format totalExponent)
open Float.Model.UnpackedFloat

/-! ### Products and quotients -/

theorem unpack_pack_zero (s : Sign) : (Float.Model.pack (.zero s)).unpack = .zero s :=
  unpack_packComponents s 0#11 0#52

theorem isFinite_pack_carry {s : Sign} {r : Nat} {t : Int} (fits : t ≤ 971)
    (uncarried : t = 971 → r < 2 ^ 53) :
    (Float.Model.pack (carry s r t)).unpack.isFinite = true := by
  unfold carry
  split
  · rw [unpack_pack_zero]
    rfl
  · split
    · next carried => exact isFinite_pack_finite _ (by omega)
    · exact isFinite_pack_finite _ fits

theorem isFinite_or_isInf_pack_carry (s : Sign) (r : Nat) (t : Int) :
    (Float.Model.pack (carry s r t)).unpack.isFinite = true ∨
      (Float.Model.pack (carry s r t)).unpack.isInf = true := by
  unfold carry
  split
  · rw [unpack_pack_zero]
    exact .inl rfl
  · split
    · exact isFinite_or_isInf_pack_finite _
    · exact isFinite_or_isInf_pack_finite _

/-- What is rounded from a number in range is in range. -/
theorem isFinite_round {s : Sign} {m : Nat} {e : Int} (le : e ≤ target m e)
    (small : (m : ℚ) * 2 ^ e < largest) (acc : Accuracy) :
    (Float.Model.pack (roundWithAccuracy .binary64 s m e acc)).unpack.isFinite = true := by
  obtain ⟨fits, room⟩ := target_le le small
  obtain ⟨r, -, upper, rounded⟩ := roundWithAccuracy_eq s le acc
  rw [rounded]
  exact isFinite_pack_carry fits fun top => Nat.lt_of_le_of_lt upper (room top)

/-- The product of two mantissas has enough bits. -/
theorem le_target_mul {m₁ m₂ : Nat} {e₁ e₂ : Int} (pos₁ : 0 < m₁) (pos₂ : 0 < m₂)
    (c₁ : Canonical m₁ e₁) (c₂ : Canonical m₂ e₂) :
    e₁ + e₂ ≤ target (m₁ * m₂) (e₁ + e₂) := by
  have full (h : 2 ^ 52 ≤ m₁ * m₂) : e₁ + e₂ ≤ target (m₁ * m₂) (e₁ + e₂) := by
    have log : 52 ≤ (m₁ * m₂).log2 := (Nat.le_log2 (Nat.mul_pos pos₁ pos₂).ne').2 h
    unfold target
    omega
  rcases c₁.full with full₁ | lowest₁
  · exact full (Nat.le_trans full₁ (Nat.le_mul_of_pos_right m₁ pos₂))
  · rcases c₂.full with full₂ | lowest₂
    · exact full (Nat.le_trans full₂ (Nat.le_mul_of_pos_left m₂ pos₁))
    · unfold target
      omega

theorem unpack_mul (x y : Float) :
    (x * y).toModel.unpack =
      (Float.Model.pack (UnpackedFloat.mul .binary64 x.toModel.unpack y.toModel.unpack)).unpack :=
  rfl

theorem unpack_div (x y : Float) :
    (x / y).toModel.unpack =
      (Float.Model.pack (UnpackedFloat.div .binary64 x.toModel.unpack y.toModel.unpack)).unpack :=
  rfl

/-- A number of a magnitude up to a bound. -/
inductive AtMost (b : ℚ) : UnpackedFloat → Prop
  | zero (s : Sign) : AtMost b (.zero s)
  | finite {s : Sign} {m : Nat} {e : Int} (pos : 0 < m) (le : (m : ℚ) * 2 ^ e ≤ b) :
    AtMost b (.finite s m e pos)

theorem AtMost.isFinite {u : UnpackedFloat} {b : ℚ} (h : AtMost b u) : u.isFinite = true := by
  cases h <;> rfl

theorem AtMost.le {s : Sign} {m : Nat} {e : Int} {pos : 0 < m} {b : ℚ}
    (h : AtMost b (.finite s m e pos)) : (m : ℚ) * 2 ^ e ≤ b := by
  cases h
  assumption

/-- The product of two numbers is a zero, or rounded from the exact product. -/
theorem mul_cases {x y : Float} (hx : x.toModel.unpack.isFinite = true)
    (hy : y.toModel.unpack.isFinite = true) :
    (∃ s, (x * y).toModel.unpack = .zero s) ∨
      ∃ s m₁ e₁ pos₁ t m₂ e₂ pos₂, x.toModel.unpack = .finite s m₁ e₁ pos₁ ∧
        y.toModel.unpack = .finite t m₂ e₂ pos₂ ∧
        (x * y).toModel.unpack = (Float.Model.pack
          (roundWithAccuracy .binary64 (s * t) (m₁ * m₂) (e₁ + e₂) .exact)).unpack := by
  rw [unpack_mul]
  generalize x.toModel.unpack = u at hx
  generalize y.toModel.unpack = v at hy
  cases u with
  | infinity s => contradiction
  | notANumber => contradiction
  | zero s =>
    cases v with
    | infinity t => contradiction
    | notANumber => contradiction
    | zero t => exact .inl ⟨_, unpack_pack_zero _⟩
    | finite t m e pos => exact .inl ⟨_, unpack_pack_zero _⟩
  | finite s m₁ e₁ pos₁ =>
    cases v with
    | infinity t => contradiction
    | notANumber => contradiction
    | zero t => exact .inl ⟨_, unpack_pack_zero _⟩
    | finite t m₂ e₂ pos₂ => exact .inr ⟨s, m₁, e₁, pos₁, t, m₂, e₂, pos₂, rfl, rfl, rfl⟩

theorem isFinite_mul {x y : Float} {a b : ℚ} (hx : AtMost a x.toModel.unpack)
    (hy : AtMost b y.toModel.unpack) (small : a * b < largest) :
    (x * y).isFinite = true := by
  show (x * y).toModel.unpack.isFinite = true
  rcases mul_cases hx.isFinite hy.isFinite with
    ⟨s, zero⟩ | ⟨s, m₁, e₁, pos₁, t, m₂, e₂, pos₂, ux, uy, rounded⟩
  · rw [zero]
    rfl
  · have le₁ := (ux ▸ hx).le
    have le₂ := (uy ▸ hy).le
    rw [rounded]
    refine isFinite_round (le_target_mul pos₁ pos₂ (canonical_unpack ux).1
      (canonical_unpack uy).1) (lt_of_le_of_lt ?_ small) _
    calc ((m₁ * m₂ : Nat) : ℚ) * 2 ^ (e₁ + e₂) = (m₁ * 2 ^ e₁) * (m₂ * 2 ^ e₂) := by
          rw [zpow_add₀ two_ne_zero]
          push_cast
          ring
      _ ≤ a * b := mul_le_mul le₁ le₂ (by positivity) (le_trans (by positivity) le₁)

/-- The product of two numbers is a number or out of range. -/
theorem isFinite_or_isInf_mul {x y : Float} (hx : x.isFinite = true) (hy : y.isFinite = true) :
    (x * y).isFinite = true ∨ (x * y).isInf = true := by
  show (x * y).toModel.unpack.isFinite = true ∨ (x * y).toModel.unpack.isInf = true
  rcases mul_cases hx hy with ⟨s, zero⟩ | ⟨s, m₁, e₁, pos₁, t, m₂, e₂, pos₂, ux, uy, rounded⟩
  · rw [zero]
    exact .inl rfl
  · obtain ⟨r, -, -, carried⟩ := roundWithAccuracy_eq (s * t)
      (le_target_mul pos₁ pos₂ (canonical_unpack ux).1 (canonical_unpack uy).1) .exact
    rw [rounded, carried]
    exact isFinite_or_isInf_pack_carry _ r _

/-- The quotient of two mantissas is cut off where it has bits enough. -/
theorem divCore_cut {m₁ m₂ : Nat} (pos₁ : 0 < m₁) (pos₂ : 0 < m₂) (e₁ e₂ : Int) :
    ∃ k : Nat, divCore .binary64 m₁ e₁ m₂ e₂ =
        (m₁ * 2 ^ k / m₂, e₁ - e₂ - k, accuracyOfFraction (m₁ * 2 ^ k % m₂) m₂) ∧
      e₁ - e₂ - k ≤ target (m₁ * 2 ^ k / m₂) (e₁ - e₂ - k) := by
  obtain ⟨k, hk⟩ : ∃ k : Nat, e₁ - e₂ - k =
      min (e₁ - e₂) (max (m₁.log2 + 1 + e₁ - (m₂.log2 + 1 + e₂) - 53) (-1074)) :=
    ⟨(e₁ - e₂ - min (e₁ - e₂) (max (m₁.log2 + 1 + e₁ - (m₂.log2 + 1 + e₂) - 53) (-1074))).toNat,
      by omega⟩
  have shift : (e₁ - e₂ - (e₁ - e₂ - (k : Int))).toNat = k := by omega
  refine ⟨k, ?_, ?_⟩
  · simp only [divCore, targetExponent_binary64, totalExponent, ← hk, shift, Nat.shiftLeft_eq]
  · by_cases low : e₁ - e₂ - (k : Nat) ≤ -1074
    · exact Int.le_trans low (Int.le_max_right _ _)
    · have far : 53 + m₂.log2 ≤ m₁.log2 + k := by omega
      have full : 2 ^ 52 * m₂ ≤ m₁ * 2 ^ k :=
        calc 2 ^ 52 * m₂ ≤ 2 ^ 52 * 2 ^ (m₂.log2 + 1) :=
              Nat.mul_le_mul_left _ (Nat.le_of_lt Nat.lt_log2_self)
          _ = 2 ^ (53 + m₂.log2) := by rw [← Nat.pow_add]; congr 1; omega
          _ ≤ 2 ^ (m₁.log2 + k) := Nat.pow_le_pow_right (by decide) far
          _ ≤ m₁ * 2 ^ k := by
            rw [Nat.pow_add]
            exact Nat.mul_le_mul_right _ (Nat.log2_self_le pos₁.ne')
      have log : 52 ≤ (m₁ * 2 ^ k / m₂).log2 := by
        have bits := (Nat.le_div_iff_mul_le pos₂).2 full
        exact (Nat.le_log2 (by omega)).2 bits
      unfold target
      omega

/-- The exact quotient, at the place where it is cut off. -/
theorem quotient_eq {m₁ m₂ : Nat} (pos₂ : 0 < m₂) (e₁ e₂ : Int) (k : Nat) :
    ((m₁ * 2 ^ k : Nat) : ℚ) / m₂ * 2 ^ (e₁ - e₂ - k) = m₁ * 2 ^ e₁ / (m₂ * 2 ^ e₂) := by
  have positive : (0 : ℚ) < m₂ := Nat.cast_pos.2 pos₂
  rw [zpow_sub₀ two_ne_zero, zpow_sub₀ two_ne_zero, zpow_natCast, Nat.cast_mul, Nat.cast_pow,
    Nat.cast_ofNat]
  field_simp

/-- A number that is divided by two or more stays in range. -/
theorem quotient_lt {m₁ m₂ : Nat} {e₁ e₂ : Int} (c : Canonical m₁ e₁) (fits : e₁ ≤ 971)
    (pos₂ : 0 < m₂) (large : 2 ≤ (m₂ : ℚ) * 2 ^ e₂) (k : Nat) :
    ((m₁ * 2 ^ k / m₂ : Nat) : ℚ) * 2 ^ (e₁ - e₂ - k) < largest := by
  have short : (m₁ : ℚ) ≤ 9007199254740991 := by exact_mod_cast Nat.le_of_lt_succ c.short
  have range : (m₁ : ℚ) * 2 ^ e₁ ≤ largest :=
    mul_le_mul short (zpow_le_zpow_right₀ one_le_two fits) (by positivity) (by norm_num)
  calc ((m₁ * 2 ^ k / m₂ : Nat) : ℚ) * 2 ^ (e₁ - e₂ - k)
      ≤ ((m₁ * 2 ^ k : Nat) : ℚ) / m₂ * 2 ^ (e₁ - e₂ - k) :=
        mul_le_mul_of_nonneg_right Nat.cast_div_le (by positivity)
    _ = m₁ * 2 ^ e₁ / (m₂ * 2 ^ e₂) := quotient_eq pos₂ e₁ e₂ k
    _ ≤ m₁ * 2 ^ e₁ / 2 := div_le_div_of_nonneg_left (by positivity) (by norm_num) large
    _ ≤ largest / 2 := div_le_div_of_nonneg_right range (by norm_num)
    _ < largest := half_lt_self largest_pos

theorem isFinite_div {x y : Float} {s : Sign} {m : Nat} {e : Int} {pos : 0 < m}
    (hx : x.isFinite = true) (hy : y.toModel.unpack = .finite s m e pos)
    (large : 2 ≤ (m : ℚ) * 2 ^ e) : (x / y).isFinite = true := by
  change x.toModel.unpack.isFinite = true at hx
  show (x / y).toModel.unpack.isFinite = true
  rw [unpack_div, hy]
  generalize ux : x.toModel.unpack = u at hx
  cases u with
  | infinity t => contradiction
  | notANumber => contradiction
  | zero t => exact congrArg UnpackedFloat.isFinite (unpack_pack_zero _)
  | finite t m₁ e₁ pos₁ =>
    obtain ⟨c, fits⟩ := canonical_unpack ux
    obtain ⟨k, core, le⟩ := divCore_cut pos₁ pos e₁ e
    unfold UnpackedFloat.div
    simp only [core]
    exact isFinite_round le (quotient_lt c fits pos large k) _

/-! ### Naturals and powers of ten -/

theorem carry_eq {s : Sign} {r : Nat} {t : Int} (full : 2 ^ 52 ≤ r) (le : r ≤ 2 ^ 53)
    (low : -1074 ≤ t) (fits : t ≤ 971) (uncarried : t = 971 → r < 2 ^ 53) :
    ∃ m e pos, (Float.Model.pack (carry s r t)).unpack = .finite s m e pos ∧
      (m : ℚ) * 2 ^ e = r * 2 ^ t := by
  unfold carry
  rw [dif_neg (by omega)]
  split
  · next carried =>
    refine ⟨2 ^ 52, t + 1, by decide,
      unpack_pack _ ⟨by decide, by omega, .inl (Nat.le_refl _)⟩ (by omega), ?_⟩
    rw [carried, zpow_add_one₀ two_ne_zero]
    push_cast
    ring
  · exact ⟨r, t, by omega, unpack_pack _ ⟨by omega, low, .inl full⟩ (by omega), rfl⟩

theorem log2_mul_two_pow {n : Nat} (pos : 0 < n) (k : Nat) :
    (n * 2 ^ k).log2 = n.log2 + k := by
  rw [Nat.log2_eq_iff (Nat.mul_pos pos (Nat.two_pow_pos k)).ne', Nat.add_right_comm, Nat.pow_add,
    Nat.pow_add]
  exact ⟨Nat.mul_le_mul_right _ (Nat.log2_self_le pos.ne'),
    Nat.mul_lt_mul_of_pos_right Nat.lt_log2_self (Nat.two_pow_pos k)⟩

/-- A natural is rounded up by at most one part in `2 ^ 52`, and not below its first bit. -/
structure IsAbout (n : Nat) (u : UnpackedFloat) : Prop where
  parts : ∃ s m e pos, u = .finite s m e pos ∧ (2 : ℚ) ^ n.log2 ≤ m * 2 ^ e ∧
    (m : ℚ) * 2 ^ e ≤ n * (1 + 2 ^ (-52 : Int))

theorem IsAbout.atMost {n : Nat} {u : UnpackedFloat} (h : IsAbout n u) :
    AtMost (n * (1 + 2 ^ (-52 : Int))) u := by
  obtain ⟨s, m, e, pos, rfl, -, le⟩ := h.parts
  exact .finite pos le

/-- Rounding a natural that is followed by zeros to more than 52 bits. -/
theorem isAbout_round {n k : Nat} (pos : 0 < n) (long : 52 ≤ n.log2 + k)
    (small : n < 9007199254740991 * 2 ^ 971) (s : Sign) :
    IsAbout n (Float.Model.pack
      (roundWithAccuracy .binary64 s (n * 2 ^ k) (-k) .exact)).unpack := by
  have aim : target (n * 2 ^ k) (-k) = (n.log2 : Int) - 52 := by
    rw [target, log2_mul_two_pow pos]
    omega
  have le : (-k : Int) ≤ target (n * 2 ^ k) (-k) := by omega
  obtain ⟨r, lower, upper, carried⟩ := roundWithAccuracy_eq s le .exact
  have short := kept_lt (n * 2 ^ k) (-k)
  have full : 2 ^ 52 ≤ kept (n * 2 ^ k) (-k) := (le_kept le).resolve_right (by omega)
  have whole : ((n * 2 ^ k : Nat) : ℚ) * 2 ^ (-k : Int) = n := by
    rw [Nat.cast_mul, mul_assoc, zpow_neg, zpow_natCast]
    push_cast
    rw [mul_inv_cancel₀ (by positivity), mul_one]
  obtain ⟨fits, room⟩ := target_le le (whole.trans_lt (cast_lt_largest small))
  have cut := kept_mul_le le
  rw [aim] at carried cut fits room
  obtain ⟨m, e, positive, unpacked, size⟩ := carry_eq (s := s) (r := r)
    (t := (n.log2 : Int) - 52) (by omega) (by omega) (by omega) fits
    fun top => Nat.lt_of_le_of_lt upper (room top)
  refine ⟨s, m, e, positive, carried ▸ unpacked, ?_, ?_⟩
  · have full : (2 ^ 52 : ℚ) ≤ r := by exact_mod_cast Nat.le_trans full lower
    calc (2 : ℚ) ^ n.log2 = 2 ^ 52 * 2 ^ ((n.log2 : Int) - 52) := by
          rw [← zpow_natCast, ← zpow_natCast, ← zpow_add₀ two_ne_zero]
          congr 1
          omega
      _ ≤ r * 2 ^ ((n.log2 : Int) - 52) := mul_le_mul_of_nonneg_right full (by positivity)
      _ = m * 2 ^ e := size.symm
  · have place : (2 : ℚ) ^ ((n.log2 : Int) - 52) ≤ n * 2 ^ (-52 : Int) := by
      rw [sub_eq_add_neg, zpow_add₀ two_ne_zero, zpow_natCast]
      have first : ((2 ^ n.log2 : Nat) : ℚ) ≤ n := Nat.cast_le.2 (Nat.log2_self_le pos.ne')
      push_cast at first
      exact mul_le_mul_of_nonneg_right first (by positivity)
    have upper : (r : ℚ) ≤ kept (n * 2 ^ k) (-k) + 1 := by exact_mod_cast upper
    calc (m : ℚ) * 2 ^ e = r * 2 ^ ((n.log2 : Int) - 52) := size
      _ ≤ (kept (n * 2 ^ k) (-k) + 1) * 2 ^ ((n.log2 : Int) - 52) :=
          mul_le_mul_of_nonneg_right upper (by positivity)
      _ = kept (n * 2 ^ k) (-k) * 2 ^ ((n.log2 : Int) - 52) + 2 ^ ((n.log2 : Int) - 52) := by
          ring
      _ ≤ n + n * 2 ^ (-52 : Int) := add_le_add (cut.trans_eq whole) place
      _ = n * (1 + 2 ^ (-52 : Int)) := by ring

theorem unpack_ofNatural (n : Nat) :
    (ofNatural n).toModel.unpack =
      (Float.Model.pack (normalize .binary64 (n.toUInt64.toNat : Int) 0 .positive)).unpack := rfl

/-- A natural is filled up to 53 bits, if it has fewer, and rounded. -/
theorem normalize_natural {n : Nat} (pos : 0 < n) :
    ∃ k : Nat, 52 ≤ n.log2 + k ∧ normalize .binary64 n 0 .positive =
      roundWithAccuracy .binary64 .positive (n * 2 ^ k) (-k) .exact := by
  have aim : target n 0 = (n.log2 : Int) - 52 := by
    unfold target
    omega
  refine ⟨(0 - target n 0).toNat, by omega, ?_⟩
  have order : compare (n : Int) 0 = .gt := compare_gt_iff_gt.2 (by omega)
  have shift : (0 : Int) - ((0 - target n 0).toNat : Int) = -((0 - target n 0).toNat : Int) :=
    Int.zero_sub _
  simp only [UnpackedFloat.normalize, order, UnpackedFloat.round, targetExponent_eq,
    decreaseExponent, Int.toNat_natCast, Nat.shiftLeft_eq, shift]

theorem atMost_ofNatural {n : Nat} (small : n < 2 ^ 64) :
    AtMost (n * (1 + 2 ^ (-52 : Int))) (ofNatural n).toModel.unpack := by
  have size : n.toUInt64.toNat = n := Nat.mod_eq_of_lt small
  rw [unpack_ofNatural, size]
  rcases Nat.eq_zero_or_pos n with rfl | pos
  · exact unpack_pack_zero _ ▸ .zero .positive
  · obtain ⟨k, long, rounded⟩ := normalize_natural pos
    rw [rounded]
    exact (isAbout_round pos long (Nat.lt_trans small (by decide +kernel)) _).atMost

/-- Small powers of ten are no exception. -/
theorem powerOfTen_eq (n : Nat) : powerOfTen n = .ofModel (Float.Model.ofScientific 1 n) := by
  by_cases small : n ≤ 22
  · have all : ∀ k ≤ 22, powerOfTen k = .ofModel (Float.Model.ofScientific 1 k) := by
      decide +kernel
    exact all n small
  · unfold powerOfTen Float.ofScientific
    rw [dif_neg (by omega)]
    rfl

/-- A power of ten is rounded from its exact value. -/
theorem unpack_powerOfTen {n : Nat} (h : n ≤ 308) :
    (powerOfTen n).toModel.unpack = (Float.Model.pack
      (roundWithAccuracy .binary64 .positive (10 ^ n * 2 ^ 53) (-(53 : Nat)) .exact)).unpack := by
  rw [powerOfTen_eq]
  show (Float.Model.pack (UnpackedFloat.ofScientific .binary64 1 n)).unpack = _
  have limit : (2 : Int) ^ Format.exponentBits .binary64 = 2048 := rfl
  have digits : Format.mantissaBits .binary64 = 53 := rfl
  unfold UnpackedFloat.ofScientific
  rw [limit, dif_neg (by decide), if_neg (by omega), if_neg (by omega), if_pos (by omega)]
  simp only [UnpackedFloat.mul, digits, Nat.shiftLeft_eq, Nat.one_mul, Int.toNat_natCast,
    Int.add_zero, Nat.mul_comm (2 ^ 53)]
  rfl

theorem pow_ten_lt {n : Nat} (h : n ≤ 308) : 10 ^ n < 9007199254740991 * 2 ^ 971 :=
  Nat.lt_of_le_of_lt (Nat.pow_le_pow_right (by decide) h) (by decide +kernel)

theorem isAbout_powerOfTen {n : Nat} (h : n ≤ 308) :
    IsAbout (10 ^ n) (powerOfTen n).toModel.unpack := by
  rw [unpack_powerOfTen h]
  exact isAbout_round (Nat.pow_pos (by decide)) (Nat.le_add_left_of_le (by decide))
    (pow_ten_lt h) _

end ActualState.Decimal
