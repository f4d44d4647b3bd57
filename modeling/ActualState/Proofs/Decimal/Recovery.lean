import ActualState.Proofs.Decimal.Bits
import ActualState.Proofs.Decimal.Nearest

/-!
# Doubles that come back from their digits

The digits that are written for a double lie in the interval of what rounds to it. Where the
significand and the power of ten are both held by a double exactly, reading rounds once only, and
gives the double back.
-/
namespace ActualState.Decimal

open Float.Model (UnpackedFloat)
open Float.Model.UnpackedFloat

/-! ### The interval of a double -/

namespace Binary

/-- How far below a number the middle to the double before it lies, in places. -/
def gap (b : Binary) : ℚ := if b.atBoundary then 1 / 4 else 1 / 2

/-- An exact value that rounds to a number; the ends of the interval do if `m` is even. -/
structure Includes (b : Binary) (v : ℚ) : Prop where
  lower : (b.m - b.gap) * 2 ^ b.q ≤ v
  upper : v ≤ (b.m + 1 / 2) * 2 ^ b.q
  inside : b.m % 2 = 1 → (b.m - b.gap) * 2 ^ b.q < v ∧ v < (b.m + 1 / 2) * 2 ^ b.q

variable {b : Binary} {k : Int} {c : Nat}

theorem gap_le (b : Binary) : b.gap ≤ 1 / 2 := by
  unfold gap
  split <;> norm_num

theorem quarter_le_gap (b : Binary) : 1 / 4 ≤ b.gap := by
  unfold gap
  split <;> norm_num

/-- What is less than a quarter of a place away rounds to the number. -/
theorem includes_of_lt {v : ℚ} (h : |v - b.value| < 1 / 4 * 2 ^ b.q) : b.Includes v := by
  obtain ⟨lower, upper⟩ := abs_lt.1 h
  have place : (0 : ℚ) < 2 ^ b.q := by positivity
  have below := mul_le_mul_of_nonneg_right b.quarter_le_gap place.le
  rw [value] at lower upper
  have strict : (b.m - b.gap) * 2 ^ b.q < v ∧ v < (b.m + 1 / 2) * 2 ^ b.q := by
    constructor <;> linarith
  exact ⟨strict.1.le, strict.2.le, fun _ => strict⟩

theorem includes_value (b : Binary) : b.Includes b.value :=
  includes_of_lt (by rw [sub_self, abs_zero]; positivity)

theorem le_point_iff (b : Binary) (k : Int) (c x : Nat) :
    x * b.left k ≤ c * b.right k ↔ (x : ℚ) * 2 ^ (b.q - 2) ≤ (c : ℚ) * 10 ^ k := by
  have right : (0 : ℚ) < b.right k := Nat.cast_pos.2 (b.right_pos k)
  have ten : (0 : ℚ) < 10 ^ k := by positivity
  rw [← Nat.cast_le (α := ℚ), Nat.cast_mul, Nat.cast_mul, left_eq, ← mul_assoc,
    mul_le_mul_iff_left₀ right, zpow_neg, ← mul_assoc, ← div_eq_mul_inv, div_le_iff₀ ten]

/-- A grid point that passes the comparisons rounds to the number. -/
theorem includes_of_covers (pos : 0 < b.m) (h : b.covers k c = true) :
    b.Includes ((c : ℚ) * 10 ^ k) := by
  have quarter : (2 : ℚ) ^ b.q = 4 * 2 ^ (b.q - 2) := by
    rw [zpow_sub₀ two_ne_zero]
    ring
  have low : ((4 * b.m - (if b.atBoundary then 1 else 2) : Nat) : ℚ) * 2 ^ (b.q - 2) =
      (b.m - b.gap) * 2 ^ b.q := by
    rw [quarter, gap]
    split
    · rw [Nat.cast_sub (by omega)]
      push_cast
      ring
    · rw [Nat.cast_sub (by omega)]
      push_cast
      ring
  have high : ((4 * b.m + 2 : Nat) : ℚ) * 2 ^ (b.q - 2) = (b.m + 1 / 2) * 2 ^ b.q := by
    rw [quarter]
    push_cast
    ring
  unfold covers at h
  simp only [] at h
  split at h
  · next even =>
    simp only [Bool.and_eq_true, decide_eq_true_eq] at h
    rw [le_point_iff, point_le_iff, low, high] at h
    exact ⟨h.1, h.2, fun odd => by omega⟩
  · simp only [Bool.and_eq_true, decide_eq_true_eq] at h
    rw [← not_le, ← not_le, le_point_iff, point_le_iff, low, high, not_le, not_le] at h
    exact ⟨h.1.le, h.2.le, fun _ => h⟩

/-! ### Its shortest digits lie there -/

theorem value_lt_floorOn (b : Binary) (k : Int) : b.value < (b.floorOn k + 1) * 10 ^ k := by
  have cut : ¬ (b.floorOn k + 1) * b.right k ≤ 4 * b.m * b.left k :=
    Nat.not_le.2 (Nat.mul_comm (b.right k) _ ▸ Nat.lt_mul_div_succ _ (b.right_pos k))
  rw [point_le_iff, four_mul_eq, not_le] at cut
  exact_mod_cast cut

theorem abs_nearestOn_sub_le (b : Binary) (k : Int) :
    |(b.nearestOn k : ℚ) * 10 ^ k - b.value| ≤ 10 ^ k := by
  have lower := b.floorOn_le k
  have upper := b.value_lt_floorOn k
  rw [abs_le]
  rcases b.nearestOn_eq k with nearest | nearest <;> rw [nearest] <;> push_cast at upper ⊢ <;>
    constructor <;> linarith

/-- Seventeen digits after the first always suffice. -/
theorem includes_nearestOn (pos : 0 < b.m) (short : b.m < 2 ^ 53) :
    b.Includes
      ((b.nearestOn (b.magnitude - (17 : Nat)) : ℚ) * 10 ^ (b.magnitude - (17 : Nat))) := by
  refine includes_of_lt (lt_of_le_of_lt (b.abs_nearestOn_sub_le _) ?_)
  have first := (magnitude_bounds pos).1
  have short : (b.m : ℚ) < 2 ^ 53 := by exact_mod_cast short
  have place : (0 : ℚ) < 2 ^ b.q := by positivity
  rw [zpow_sub₀ (by norm_num), zpow_natCast, div_lt_iff₀ (by positivity)]
  calc (10 : ℚ) ^ b.magnitude ≤ b.m * 2 ^ b.q := first
    _ < 2 ^ 53 * 2 ^ b.q := mul_lt_mul_of_pos_right short place
    _ ≤ 1 / 4 * 10 ^ 17 * 2 ^ b.q := mul_le_mul_of_nonneg_right (by norm_num) place.le
    _ = 1 / 4 * 2 ^ b.q * 10 ^ 17 := by ring

theorem includes_firstHit (pos : 0 < b.m) (k : Int) (n : Nat)
    (last : b.Includes ((b.nearestOn (k - n) : ℚ) * 10 ^ (k - n))) :
    b.Includes (b.firstHit k n).value := by
  induction n generalizing k with
  | zero => simpa [firstHit, Digits.value] using last
  | succ n ih =>
    unfold firstHit
    cases hit : b.hitOn k with
    | some c => exact includes_of_covers pos (hitOn_eq hit).2
    | none =>
      have further : k - ((n + 1 : Nat) : Int) = k - 1 - n := by omega
      rw [further] at last
      exact ih (k - 1) last

theorem includes_shortest (pos : 0 < b.m) (short : b.m < 2 ^ 53) :
    b.Includes b.shortest.value := by
  rw [shortest, if_neg pos.ne', (value_trim _ 18).1]
  exact includes_firstHit pos _ 17 (includes_nearestOn pos short)

/-- Nothing else is rounded to the number. -/
theorem pos_of_includes {v : ℚ} (pos : 0 < b.m) (h : b.Includes v) : 0 < v := by
  have one : (1 : ℚ) ≤ b.m := by exact_mod_cast pos
  have gap := b.gap_le
  have place : (0 : ℚ) < 2 ^ b.q := by positivity
  exact lt_of_lt_of_le (mul_pos (by linarith) place) h.lower

theorem significand_shortest_pos (pos : 0 < b.m) (short : b.m < 2 ^ 53) :
    0 < b.shortest.significand := by
  have value := pos_of_includes pos (includes_shortest pos short)
  refine Nat.pos_of_ne_zero fun zero => value.ne' ?_
  rw [Digits.value, zero, Nat.cast_zero, zero_mul]

/-- The digits of a double are never far from the point. -/
theorem exponent_shortest_bounds (pos : 0 < b.m) (double : b.IsDouble) :
    -616 ≤ b.shortest.exponent ∧ b.shortest.exponent ≤ 308 := by
  obtain ⟨d, nearby, -, -, coarser⟩ := nearby_shortest pos
  have low : -616 ≤ b.shortest.exponent := by
    have one : (1 : ℚ) ≤ b.m := by exact_mod_cast pos
    have least : (10 : ℚ) ^ (-537 : Int) < 10 ^ (b.magnitude + 1) :=
      calc (10 : ℚ) ^ (-537 : Int) ≤ 4 ^ (-537 : Int) := by
            rw [zpow_neg, zpow_neg]
            exact inv_anti₀ (by positivity)
              (zpow_le_zpow_left₀ (by norm_num) (by norm_num) (by norm_num))
        _ = 2 ^ (-1074 : Int) := by
            rw [show (4 : ℚ) = 2 ^ (2 : Int) by norm_num, ← zpow_mul]
            rfl
        _ ≤ 2 ^ b.q := zpow_le_zpow_right₀ one_le_two double.low
        _ ≤ b.value := le_mul_of_one_le_left (by positivity) one
        _ < 10 ^ (b.magnitude + 1) := (magnitude_bounds pos).2
    have := (zpow_lt_zpow_iff_right₀ (by norm_num : (1 : ℚ) < 10)).1 least
    have := nearby.grid
    omega
  have high : b.shortest.exponent ≤ 308 := by
    by_contra far
    obtain ⟨e, exponent⟩ := Int.eq_ofNat_of_zero_le (show 0 ≤ b.shortest.exponent by omega)
    have := (scaled_shortest pos double.short double.fits exponent
      (significand_shortest_pos pos double.short)).1
    omega
  exact ⟨low, high⟩

/-! ### Rounding an exact value in the interval -/

variable {w : ℚ} {t : Int}

/-- The places of an exact value are not coarser than those of the double. -/
theorem Includes.place_le (h : b.Includes (w * 2 ^ t)) (d : b.IsDouble)
    (full : 2 ^ 52 ≤ w ∨ t = -1074) : t ≤ b.q := by
  by_contra coarse
  have short : (b.m : ℚ) + 1 ≤ 2 ^ 53 := by exact_mod_cast d.short
  have place : (0 : ℚ) < 2 ^ b.q := by positivity
  have upper := h.upper
  have full : (2 : ℚ) ^ 52 ≤ w := full.resolve_right (by have := d.low; omega)
  have step : (2 : ℚ) ^ (b.q + 1) ≤ 2 ^ t := zpow_le_zpow_right₀ one_le_two (by omega)
  rw [zpow_add_one₀ two_ne_zero] at step
  have := mul_le_mul full step (by positivity) (by linarith)
  have := mul_lt_mul_of_pos_right (show (b.m : ℚ) + 1 / 2 < 2 ^ 53 by linarith) place
  linarith

/-- With the same places the number is the nearest. -/
theorem Includes.isNearest (h : b.Includes (w * 2 ^ b.q)) : IsNearest b.m w := by
  have place : (0 : ℚ) < 2 ^ b.q := by positivity
  have gap := b.gap_le
  have lower := le_of_mul_le_mul_right h.lower place
  have upper := le_of_mul_le_mul_right h.upper place
  refine ⟨abs_le.2 ⟨by linarith, by linarith⟩, fun middle => ?_⟩
  by_contra notEven
  obtain ⟨above, below⟩ := h.inside (by omega)
  have above := lt_of_mul_lt_mul_right above place.le
  have below := lt_of_mul_lt_mul_right below place.le
  exact absurd middle (abs_lt.2 ⟨by linarith, by linarith⟩).ne

/-- The places of an exact value are finer only below the boundary, by one bit. -/
theorem Includes.of_finer (h : b.Includes (w * 2 ^ t)) (d : b.IsDouble) (less : w < 2 ^ 53)
    (low : -1074 ≤ t) (finer : t < b.q) :
    b.m = 2 ^ 52 ∧ t + 1 = b.q ∧ IsNearest (2 ^ 53) w := by
  have place (e : Int) : (0 : ℚ) < 2 ^ e := by positivity
  have gap := b.gap_le
  have lower := h.lower
  have high : b.q ≠ -1074 := by omega
  have first : (2 : ℚ) ^ 52 ≤ b.m := by exact_mod_cast d.full.resolve_right high
  have step : (2 : ℚ) ^ t * 2 ≤ 2 ^ b.q := by
    rw [← zpow_add_one₀ two_ne_zero]
    exact zpow_le_zpow_right₀ one_le_two (by omega)
  have below := mul_lt_mul_of_pos_right less (place t)
  have alone : b.m = 2 ^ 52 := by
    by_contra more
    have more : (2 : ℚ) ^ 52 + 1 ≤ b.m := by
      have := d.full.resolve_right high
      exact_mod_cast (show 2 ^ 52 + 1 ≤ b.m by omega)
    have := mul_le_mul_of_nonneg_right (show (2 : ℚ) ^ 52 ≤ b.m - b.gap by linarith)
      (place b.q).le
    linarith
  have quarter : b.gap = 1 / 4 := if_pos (d.edge.2 ⟨alone, high⟩)
  have whole : (b.m : ℚ) = 2 ^ 52 := by rw [alone]; norm_num
  rw [quarter, whole] at lower
  have next : t + 1 = b.q := by
    by_contra far
    have step : (2 : ℚ) ^ t * 2 * 2 ≤ 2 ^ b.q := by
      rw [← zpow_add_one₀ two_ne_zero, ← zpow_add_one₀ two_ne_zero]
      exact zpow_le_zpow_right₀ one_le_two (by omega)
    have := place b.q
    linarith
  refine ⟨alone, next, ?_⟩
  rw [← next, zpow_add_one₀ two_ne_zero, mul_comm _ (2 : ℚ), ← mul_assoc] at lower
  have lower := le_of_mul_le_mul_right lower (place t)
  exact ⟨abs_le.2 ⟨by push_cast; linarith, by push_cast; linarith⟩, fun _ => by decide⟩

end Binary

namespace Rounds

variable {s : Sign} {v : ℚ} {u : UnpackedFloat} {b : Binary}

/-- What is in the interval of a double is rounded to it. -/
theorem eq_of_includes (h : Rounds s v u) (pos : 0 < b.m) (d : b.IsDouble)
    (included : b.Includes v) : u = .finite s b.m b.q pos := by
  obtain ⟨w, r, t, rfl, nearest, less, low, full, rfl⟩ := h.steps
  rcases (included.place_le d full).eq_or_lt with rfl | finer
  · have short := d.short
    rw [nearest.eq included.isNearest, carry, dif_neg pos.ne', if_neg (by omega)]
  · obtain ⟨alone, next, near⟩ := included.of_finer d less low finer
    rw [nearest.eq near, carry, dif_neg (by decide), if_pos rfl]
    congr 1
    exact alone.symm

/-- What a double holds is rounded to it. -/
theorem eq_of_canonical {m : Nat} {q : Int} (h : Rounds s v u) (pos : 0 < m) (c : Canonical m q)
    (fits : q ≤ 971) (value : (m : ℚ) * 2 ^ q = v) : u = .finite s m q pos := by
  let b : Binary := ⟨m, q, decide (m = 2 ^ 52 ∧ q ≠ -1074)⟩
  have d : b.IsDouble := ⟨c, fits, decide_eq_true_iff⟩
  have included : b.Includes v := value ▸ b.includes_value
  exact h.eq_of_includes pos d included

end Rounds

/-! ### Naturals that a double holds -/

/-- Whether a double holds a natural: all bits after the first 53 are zeros. -/
def IsHeld (n : Nat) : Prop := 2 ^ (n.log2 - 52) ∣ n

instance (n : Nat) : Decidable (IsHeld n) := inferInstanceAs (Decidable (_ ∣ _))

theorem isNumber_of_isHeld {n : Nat} {x : Float} (pos : 0 < n) (held : IsHeld n)
    (small : n < 2 ^ 100) (h : Rounds .positive n x.toModel.unpack) :
    IsNumber .positive n x := by
  obtain ⟨c, hc⟩ := held
  have some_ : 0 < c := Nat.pos_of_ne_zero fun zero => pos.ne' (by rw [hc, zero, Nat.mul_zero])
  have log : n.log2 = c.log2 + (n.log2 - 52) := by
    conv_lhs => rw [hc, Nat.mul_comm, log2_mul_two_pow some_]
  have range : n.log2 < 100 := (Nat.log2_lt pos.ne').2 small
  have full : (c * 2 ^ (52 - n.log2)).log2 = 52 := by
    rw [log2_mul_two_pow some_]
    omega
  have positive : 0 < c * 2 ^ (52 - n.log2) := Nat.mul_pos some_ (Nat.two_pow_pos _)
  obtain ⟨lower, upper⟩ := (Nat.log2_eq_iff positive.ne').1 full
  have value : ((c * 2 ^ (52 - n.log2) : Nat) : ℚ) * 2 ^ ((n.log2 : Int) - 52) = n := by
    conv_rhs => rw [hc]
    push_cast
    rw [mul_assoc, ← zpow_natCast, ← zpow_natCast, ← zpow_add₀ two_ne_zero, mul_comm]
    congr 2
    omega
  exact ⟨_, _, positive, h.eq_of_canonical positive ⟨upper, by omega, .inl lower⟩ (by omega) value,
    value⟩

theorem isNumber_powerOfTen {n : Nat} (h : n ≤ 22) :
    IsNumber .positive (10 ^ n) (powerOfTen n) := by
  have held : ∀ n ≤ 22, IsHeld (10 ^ n) := by decide +kernel
  have rounded := rounds_powerOfTen (n := n) (by omega)
  rw [← Nat.cast_ofNat, ← Nat.cast_pow] at rounded ⊢
  exact isNumber_of_isHeld (Nat.pow_pos (by decide)) (held n h)
    (Nat.lt_of_le_of_lt (Nat.pow_le_pow_right (by decide) h) (by decide)) rounded

theorem isFinite_of_rounds {s : Sign} {v : ℚ} {x : Float} (h : Rounds s v x.toModel.unpack) :
    x.isFinite = true := by
  obtain ⟨w, r, t, -, -, -, -, -, carried⟩ := h.steps
  show x.toModel.unpack.isFinite = true
  rw [carried, carry]
  split
  · rfl
  · split <;> rfl

theorem scaled_of_nonneg {significand n : Nat} {x : Float} (le : n ≤ 308)
    (read : scaled significand n = some x) : x = ofNatural significand * powerOfTen n := by
  have notDown : ¬ (n : Int) < 0 := by omega
  have up : (n : Int) ≤ 308 := by omega
  simp only [scaled, if_neg notDown, if_pos up, Int.toNat_natCast] at read
  split at read
  · contradiction
  · exact (Option.some.inj read).symm

theorem scaled_neg {significand n : Nat} {x : Float} (pos : 0 < n)
    (read : scaled significand (-(n : Int)) = some x) :
    x = scaleDown (ofNatural significand) n := by
  have down : -(n : Int) < 0 := by omega
  rw [scaled, if_pos down, Int.natAbs_neg, Int.natAbs_natCast] at read
  exact (Option.some.inj read).symm

theorem two_le_pow_ten {n : Nat} (pos : 0 < n) : (2 : ℚ) ≤ 10 ^ n :=
  calc (2 : ℚ) ≤ 10 ^ 1 := by norm_num
    _ ≤ 10 ^ n := pow_le_pow_right₀ (by norm_num) pos

/-- Where significand and power of ten are held exactly, reading rounds only once. -/
theorem rounds_scaled {significand : Nat} {exponent : Int} {x : Float} (pos : 0 < significand)
    (fits : significand < 2 ^ 64) (held : IsHeld significand) (near : exponent.natAbs ≤ 22)
    (read : scaled significand exponent = some x) :
    Rounds .positive (significand * 10 ^ exponent) x.toModel.unpack := by
  have whole := isNumber_of_isHeld pos held (Nat.lt_trans fits (by decide))
    (rounds_ofNatural pos fits)
  have finite := isFinite_scaled read
  rcases lt_or_ge exponent 0 with down | up
  · obtain ⟨n, rfl⟩ := Int.exists_eq_neg_ofNat down.le
    have positive : 0 < n := by omega
    rw [scaled_neg positive read, scaleDown, if_pos (by omega), zpow_neg, zpow_natCast,
      ← div_eq_mul_inv]
    exact rounds_div whole (isNumber_powerOfTen (by omega)) (two_le_pow_ten positive)
  · obtain ⟨n, rfl⟩ := Int.eq_ofNat_of_zero_le up
    rw [scaled_of_nonneg (by omega) read] at finite ⊢
    rw [zpow_natCast]
    exact rounds_mul whole (isNumber_powerOfTen (by omega)) finite

end ActualState.Decimal
