import ActualState.Proofs.Decimal.Scaling

/-!
# The nearest double

Of the two doubles next to an exact value the result of an operation is the nearer one, and the
even one from the middle. An exact value is followed through the bits that are cut off; what is
known of it in the end decides which of the two it is.
-/
namespace ActualState.Decimal

open Float.Model (UnpackedFloat)
open Float.Model.UnpackedFloat

/-! ### Rounding what was cut off -/

/-- What an accuracy tells of the exact value that a mantissa was cut from. -/
def Tells (m : Nat) (v : ℚ) : Accuracy → Prop
  | .exact => v = m
  | .inexact .lt => (m : ℚ) < v ∧ v < m + 1 / 2
  | .inexact .eq => v = m + 1 / 2
  | .inexact .gt => (m : ℚ) + 1 / 2 < v ∧ v < m + 1

/-- `r` is the natural nearest to `w`, the even one of two. -/
structure IsNearest (r : Nat) (w : ℚ) : Prop where
  close : |(r : ℚ) - w| ≤ 1 / 2
  even : |(r : ℚ) - w| = 1 / 2 → r % 2 = 0

variable {m : Nat} {v : ℚ} {acc : Accuracy}

theorem Tells.bounds (h : Tells m v acc) : (m : ℚ) ≤ v ∧ v < m + 1 := by
  rcases acc with _ | _ | _ | _ <;> simp only [Tells] at h <;> constructor <;> linarith

theorem IsNearest.eq {r s : Nat} {w : ℚ} (hr : IsNearest r w) (hs : IsNearest s w) : r = s := by
  have nearR := abs_le.1 hr.close
  have nearS := abs_le.1 hs.close
  -- Two naturals that are half a place from `w` are neighbours, and not both even.
  have apart {r s : Nat} {w : ℚ} (hr : IsNearest r w) (hs : IsNearest s w) (lt : r < s) :
      False := by
    have nearR := abs_le.1 hr.close
    have nearS := abs_le.1 hs.close
    have next : (r : ℚ) + 1 ≤ s := by exact_mod_cast lt
    have below : (r : ℚ) - w = -(1 / 2) := by linarith
    have above : (s : ℚ) - w = 1 / 2 := by linarith
    have neighbours : (s : ℚ) = (r + 1 : Nat) := by push_cast; linarith
    have evenR := hr.even (by rw [below, abs_neg, abs_of_pos (by norm_num)])
    have evenS := hs.even (by rw [above, abs_of_pos (by norm_num)])
    have := Nat.cast_inj.1 neighbours
    omega
  rcases Nat.lt_trichotomy r s with lt | same | gt
  · exact (apart hr hs lt).elim
  · exact same
  · exact (apart hs hr gt).elim

/-- A natural is nearest to what is less than half a place away. -/
theorem IsNearest.of_lt {r : Nat} {w : ℚ} (h : |(r : ℚ) - w| < 1 / 2) : IsNearest r w :=
  ⟨h.le, fun middle => absurd middle h.ne⟩

theorem isNearest_roundToNearestEven (h : Tells m v acc) :
    IsNearest (acc.roundToNearestEven m) v := by
  rcases acc with _ | _ | _ | _ <;> simp only [Tells] at h
  · exact .of_lt (by simp [h, Accuracy.roundToNearestEven])
  · refine .of_lt (abs_lt.2 ?_)
    simp only [Accuracy.roundToNearestEven]
    constructor <;> linarith
  · simp only [Accuracy.roundToNearestEven]
    rcases Nat.mod_two_eq_zero_or_one m with even | odd
    · rw [even, Nat.add_zero, h]
      refine ⟨?_, fun _ => even⟩
      rw [show (m : ℚ) - (m + 1 / 2) = -(1 / 2) by ring, abs_neg, abs_of_pos (by norm_num)]
    · rw [odd, h]
      refine ⟨?_, fun _ => by omega⟩
      rw [show ((m + 1 : Nat) : ℚ) - (m + 1 / 2) = 1 / 2 by push_cast; ring,
        abs_of_pos (by norm_num)]
  · refine .of_lt (abs_lt.2 ?_)
    simp only [Accuracy.roundToNearestEven]
    push_cast
    constructor <;> linarith

/-- Cutting off one more bit keeps what is known of the exact value. -/
theorem tells_shiftRightOne {em : ExtendedMantissa} (h : Tells em.mantissa v em.accuracy) :
    Tells em.shiftRightOne.mantissa (v / 2) em.shiftRightOne.accuracy := by
  obtain ⟨m, r, s⟩ := em
  obtain ⟨k, rfl | rfl⟩ := Nat.even_or_odd' m
  · have half : 2 * k / 2 = k := by omega
    have bit : (2 * k % 2 != 0) = false := by simp
    cases r <;> cases s <;>
      simp only [ExtendedMantissa.shiftRightOne, ExtendedMantissa.accuracy, Tells, half, bit,
        Bool.or_true, Bool.or_false, Nat.cast_mul, Nat.cast_ofNat] at h ⊢
    all_goals first | linarith | (constructor <;> linarith)
  · have half : (2 * k + 1) / 2 = k := by omega
    have bit : ((2 * k + 1) % 2 != 0) = true := by simp
    cases r <;> cases s <;>
      simp only [ExtendedMantissa.shiftRightOne, ExtendedMantissa.accuracy, Tells, half, bit,
        Bool.or_true, Bool.or_false, Nat.cast_add, Nat.cast_mul, Nat.cast_ofNat,
        Nat.cast_one] at h ⊢
    all_goals first | linarith | (constructor <;> linarith)

theorem tells_shiftRight {em : ExtendedMantissa} (h : Tells em.mantissa v em.accuracy) (k : Nat) :
    Tells (em >>> k).mantissa (v / 2 ^ k) (em >>> k).accuracy := by
  induction k with
  | zero =>
    rw [pow_zero, div_one]
    exact h
  | succ k ih =>
    rw [pow_succ, ← div_div]
    exact tells_shiftRightOne ih

theorem accuracy_ofMantissaAndAccuracy (m : Nat) (acc : Accuracy) :
    (ExtendedMantissa.ofMantissaAndAccuracy m acc).accuracy = acc := by
  rcases acc with _ | _ | _ | _ <;> rfl

theorem tells_cut (h : Tells m v acc) (e : Int) :
    Tells (kept m e) (v / 2 ^ (target m e - e).toNat) (cut m e acc).accuracy := by
  rw [← mantissa_cut m e acc]
  refine tells_shiftRight ?_ _
  rwa [ofMantissaAndAccuracy_mantissa, accuracy_ofMantissaAndAccuracy]

/-- The part of a division that is cut off. -/
theorem tells_accuracyOfFraction {m d : Nat} (pos : 0 < d) :
    Tells (m / d) ((m : ℚ) / d) (accuracyOfFraction (m % d) d) := by
  have positive : (0 : ℚ) < d := Nat.cast_pos.2 pos
  have split : (m : ℚ) = d * (m / d : Nat) + (m % d : Nat) := by
    exact_mod_cast (Nat.div_add_mod m d).symm
  have value : (m : ℚ) / d = (m / d : Nat) + (m % d : Nat) / d := by
    rw [div_eq_iff positive.ne', add_mul, div_mul_cancel₀ _ positive.ne']
    linarith
  unfold accuracyOfFraction
  split
  · next zero => simp [Tells, value, zero]
  · next nonzero =>
    have some_ : (0 : ℚ) < (m % d : Nat) := Nat.cast_pos.2 (Nat.pos_of_ne_zero nonzero)
    have less : ((m % d : Nat) : ℚ) < d := Nat.cast_lt.2 (Nat.mod_lt m pos)
    rw [value]
    cases order : compare (2 * (m % d)) d with
    | lt =>
      have less : ((2 * (m % d) : Nat) : ℚ) < d := Nat.cast_lt.2 (compare_lt_iff_lt.1 order)
      push_cast at less
      refine ⟨lt_add_of_pos_right _ (div_pos some_ positive), add_lt_add_right ?_ _⟩
      rw [div_lt_div_iff₀ positive two_pos]
      linarith
    | eq =>
      have same : ((2 * (m % d) : Nat) : ℚ) = d := Nat.cast_inj.2 (compare_eq_iff_eq.1 order)
      push_cast at same
      refine congrArg _ ?_
      rw [div_eq_div_iff positive.ne' two_ne_zero]
      linarith
    | gt =>
      have more : (d : ℚ) < ((2 * (m % d) : Nat) : ℚ) := Nat.cast_lt.2 (compare_gt_iff_gt.1 order)
      push_cast at more
      refine ⟨add_lt_add_right ?_ _, add_lt_add_right ((div_lt_one positive).2 less) _⟩
      rw [div_lt_div_iff₀ two_pos positive]
      linarith

/-! ### Results of operations -/

/-- What an exact value `v` is rounded to: it is `w` places of `2 ^ t`, and `w` is rounded to the
nearest natural. -/
structure Rounds (s : Sign) (v : ℚ) (u : UnpackedFloat) : Prop where
  steps : ∃ (w : ℚ) (r : Nat) (t : Int), v = w * 2 ^ t ∧ IsNearest r w ∧ w < 2 ^ 53 ∧
    -1074 ≤ t ∧ (2 ^ 52 ≤ w ∨ t = -1074) ∧ u = carry s r t

/-- A double is the number `v` above zero with a sign. -/
structure IsNumber (s : Sign) (v : ℚ) (x : Float) : Prop where
  parts : ∃ m e pos, x.toModel.unpack = .finite s m e pos ∧ (m : ℚ) * 2 ^ e = v

/-- What is packed is in range only if its exponent is not too large. -/
theorem le_of_isFinite_pack {s : Sign} {m : Nat} {e : Int} (h : 0 < m)
    (inRange : (Float.Model.pack (.finite s m e h)).unpack.isFinite = true) : e ≤ 971 := by
  by_contra large
  change (unpack .binary64 (pack .binary64 (.finite s m e h))).isFinite = true at inRange
  rw [pack_finite, if_pos (by omega), packedInfinity] at inRange
  rw [show (0 : BitVec _) = 0#52 from rfl, unpack_packComponents s (-1#11) 0#52] at inRange
  contradiction

theorem unpack_pack_carry {s : Sign} {r : Nat} {t : Int} (full : 2 ^ 52 ≤ r ∨ t = -1074)
    (le : r ≤ 2 ^ 53) (low : -1074 ≤ t)
    (inRange : (Float.Model.pack (carry s r t)).unpack.isFinite = true) :
    (Float.Model.pack (carry s r t)).unpack = carry s r t := by
  unfold carry at inRange ⊢
  split
  · exact unpack_pack_zero s
  · next nonzero =>
    rw [dif_neg nonzero] at inRange
    split
    · next carried =>
      rw [if_pos carried] at inRange
      exact unpack_pack _ ⟨by decide, by omega, .inl (Nat.le_refl _)⟩
        (le_of_isFinite_pack _ inRange)
    · next uncarried =>
      rw [if_neg uncarried] at inRange
      exact unpack_pack _ ⟨by omega, low, full⟩ (le_of_isFinite_pack _ inRange)

/-- Rounding to a number that is in range. -/
theorem rounds_round {s : Sign} {e : Int} (le : e ≤ target m e)
    (inRange : (Float.Model.pack (roundWithAccuracy .binary64 s m e acc)).unpack.isFinite = true)
    (h : Tells m v acc) :
    Rounds s (v * 2 ^ e)
      (Float.Model.pack (roundWithAccuracy .binary64 s m e acc)).unpack := by
  have low : -1074 ≤ target m e := Int.le_max_right _ _
  have short := kept_lt m e
  obtain ⟨lower, upper⟩ := roundedMantissa_bounds (cut m e acc)
  rw [mantissa_cut] at lower upper
  have tells := tells_cut h e
  have nearest : IsNearest (cut m e acc).roundedMantissa
      (v / 2 ^ (target m e - e).toNat) := by
    rw [ExtendedMantissa.roundedMantissa, mantissa_cut]
    exact isNearest_roundToNearestEven tells
  obtain ⟨above, below⟩ := tells.bounds
  rw [roundWithAccuracy_cut s le] at inRange ⊢
  have full := le_kept le
  rw [unpack_pack_carry (full.imp_left fun full => Nat.le_trans full lower) (by omega) low inRange]
  refine ⟨_, _, _, ?_, nearest, below.trans_le (by exact_mod_cast short), low, ?_, rfl⟩
  · have split : target m e = e + ((target m e - e).toNat : Int) := by omega
    have two : (2 : ℚ) ^ (target m e - e).toNat ≠ 0 := by positivity
    conv_rhs => rw [split, zpow_add₀ two_ne_zero, zpow_natCast]
    field_simp
    rw [← split]
  · exact full.imp_left fun full => le_trans (by exact_mod_cast full) above

theorem rounds_mul {s t : Sign} {v w : ℚ} {x y : Float} (hx : IsNumber s v x)
    (hy : IsNumber t w y) (inRange : (x * y).isFinite = true) :
    Rounds (s * t) (v * w) (x * y).toModel.unpack := by
  obtain ⟨m₁, e₁, pos₁, ux, rfl⟩ := hx.parts
  obtain ⟨m₂, e₂, pos₂, uy, rfl⟩ := hy.parts
  have exact : (m₁ : ℚ) * 2 ^ e₁ * (m₂ * 2 ^ e₂) = (m₁ * m₂ : Nat) * 2 ^ (e₁ + e₂) := by
    rw [zpow_add₀ two_ne_zero]
    push_cast
    ring
  change (x * y).toModel.unpack.isFinite = true at inRange
  rw [unpack_mul, ux, uy] at inRange ⊢
  rw [exact]
  exact rounds_round (le_target_mul pos₁ pos₂ (canonical_unpack ux).1 (canonical_unpack uy).1)
    inRange rfl

theorem rounds_div {s t : Sign} {v w : ℚ} {x y : Float} (hx : IsNumber s v x)
    (hy : IsNumber t w y) (large : 2 ≤ w) :
    Rounds (s / t) (v / w) (x / y).toModel.unpack := by
  obtain ⟨m₁, e₁, pos₁, ux, rfl⟩ := hx.parts
  obtain ⟨m₂, e₂, pos₂, uy, rfl⟩ := hy.parts
  obtain ⟨c, fits⟩ := canonical_unpack ux
  obtain ⟨k, core, le⟩ := divCore_cut pos₁ pos₂ e₁ e₂
  rw [unpack_div, ux, uy, ← quotient_eq pos₂ e₁ e₂ k]
  unfold UnpackedFloat.div
  simp only [core]
  exact rounds_round le (isFinite_round le (quotient_lt c fits pos₂ large k) _)
    (tells_accuracyOfFraction pos₂)

/-- A natural that is followed by zeros to more than 52 bits. -/
theorem rounds_natural {n k : Nat} (pos : 0 < n) (long : 52 ≤ n.log2 + k)
    (small : n < 9007199254740991 * 2 ^ 971) (s : Sign) :
    Rounds s n (Float.Model.pack
      (roundWithAccuracy .binary64 s (n * 2 ^ k) (-k) .exact)).unpack := by
  have whole : ((n * 2 ^ k : Nat) : ℚ) * 2 ^ (-k : Int) = n := by
    rw [Nat.cast_mul, mul_assoc, zpow_neg, zpow_natCast]
    push_cast
    rw [mul_inv_cancel₀ (by positivity), mul_one]
  have le : (-k : Int) ≤ target (n * 2 ^ k) (-k) := by
    rw [target, log2_mul_two_pow pos]
    omega
  have inRange := isFinite_round (s := s) le (whole.trans_lt (cast_lt_largest small)) .exact
  have rounded := rounds_round le inRange rfl
  rwa [whole] at rounded

theorem rounds_ofNatural {n : Nat} (pos : 0 < n) (small : n < 2 ^ 64) :
    Rounds .positive n (ofNatural n).toModel.unpack := by
  have size : n.toUInt64.toNat = n := Nat.mod_eq_of_lt small
  obtain ⟨k, long, rounded⟩ := normalize_natural pos
  rw [unpack_ofNatural, size, rounded]
  exact rounds_natural pos long (Nat.lt_trans small (by decide +kernel)) _

theorem rounds_powerOfTen {n : Nat} (h : n ≤ 308) :
    Rounds .positive (10 ^ n) (powerOfTen n).toModel.unpack := by
  rw [unpack_powerOfTen h]
  have rounded := rounds_natural (Nat.pow_pos (by decide : 0 < 10))
    (Nat.le_add_left_of_le (by decide : 52 ≤ 53)) (pow_ten_lt h) .positive
  rwa [Nat.cast_pow] at rounded

end ActualState.Decimal
