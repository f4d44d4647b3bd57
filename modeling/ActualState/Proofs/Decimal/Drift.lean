import ActualState.Proofs.Decimal.Recovery

/-!
# How far a double may drift

Scaling rounds at most five times: the significand, one or two powers of ten, and one or two
quotients. Each time a value moves by at most one part in `2 ^ 53`, or by half of the smallest
double where it is below all normal ones. The parts are counted here, with a little over for their
products.
-/
namespace ActualState.Decimal

open Float.Model (UnpackedFloat)
open Float.Model.UnpackedFloat

/-- Half of the smallest double. -/
def leastHalf : ℚ := 2 ^ (-1075 : Int)

theorem leastHalf_pos : 0 < leastHalf := by
  unfold leastHalf
  positivity

theorem part_eq : (2 : ℚ) ^ (-53 : Int) = 1 / 9007199254740992 := by norm_num

/-! ### Counting parts -/

/-- `y` is `v` up to so many parts in `2 ^ 53`. -/
def Within (parts v y : ℚ) : Prop := |y - v| ≤ parts * 2 ^ (-53 : Int) * v

namespace Within

variable {a b v w y z : ℚ}

theorem le (h : Within a v y) : y ≤ v + a * 2 ^ (-53 : Int) * v := by
  have := (abs_le.1 h).2
  linarith

theorem ge (h : Within a v y) : v - a * 2 ^ (-53 : Int) * v ≤ y := by
  have := (abs_le.1 h).1
  linarith

theorem pos (h : Within a v y) (posV : 0 < v) (few : a ≤ 8) : 0 < y := by
  have little : a * 2 ^ (-53 : Int) ≤ 1 / 32 := by
    rw [part_eq]
    linarith
  calc 0 < v - 1 / 32 * v := by linarith
    _ ≤ v - a * 2 ^ (-53 : Int) * v :=
        sub_le_sub_left (mul_le_mul_of_nonneg_right little posV.le) v
    _ ≤ y := h.ge

/-- Parts add up in a product. -/
theorem mul (hy : Within a v y) (hz : Within b w z) (posV : 0 < v) (posW : 0 < w) (fewA : a ≤ 8)
    (posB : 0 ≤ b) (fewB : b ≤ 8) : Within (a + b + 1 / 32) (v * w) (y * z) := by
  have size : |z| ≤ w + b * 2 ^ (-53 : Int) * w :=
    calc |z| = |(z - w) + w| := by rw [sub_add_cancel]
      _ ≤ |z - w| + |w| := abs_add_le _ _
      _ ≤ b * 2 ^ (-53 : Int) * w + w := add_le_add hz (abs_of_pos posW).le
      _ = w + b * 2 ^ (-53 : Int) * w := add_comm _ _
  have few : a * b ≤ 64 := by nlinarith
  have cross : a * b * 2 ^ (-53 : Int) ≤ 1 / 32 := by
    rw [part_eq]
    linarith
  have split : y * z - v * w = (y - v) * z + v * (z - w) := by ring
  have part : (0 : ℚ) < 2 ^ (-53 : Int) * (v * w) := by positivity
  calc |y * z - v * w| = |(y - v) * z + v * (z - w)| := by rw [split]
    _ ≤ |y - v| * |z| + v * |z - w| := by
        refine (abs_add_le _ _).trans_eq ?_
        rw [abs_mul, abs_mul, abs_of_pos posV]
    _ ≤ a * 2 ^ (-53 : Int) * v * (w + b * 2 ^ (-53 : Int) * w) +
          v * (b * 2 ^ (-53 : Int) * w) :=
        add_le_add (mul_le_mul hy size (abs_nonneg _) ((abs_nonneg _).trans hy))
          (mul_le_mul_of_nonneg_left hz posV.le)
    _ = (a + b + a * b * 2 ^ (-53 : Int)) * (2 ^ (-53 : Int) * (v * w)) := by ring
    _ ≤ (a + b + 1 / 32) * (2 ^ (-53 : Int) * (v * w)) :=
        mul_le_mul_of_nonneg_right (by linarith) part.le
    _ = (a + b + 1 / 32) * 2 ^ (-53 : Int) * (v * w) := by ring

theorem inv (hz : Within 1 w z) (pos : 0 < w) : Within (1 + 1 / 32) w⁻¹ z⁻¹ := by
  have lower := hz.ge
  have positive := hz.pos pos (by norm_num)
  have split : z⁻¹ - w⁻¹ = (w - z) / (w * z) := by
    field_simp
  unfold Within
  rw [split, abs_div, abs_sub_comm, abs_of_pos (mul_pos pos positive),
    div_le_iff₀ (mul_pos pos positive)]
  refine hz.trans ?_
  rw [part_eq] at lower ⊢
  field_simp
  linarith

theorem div (hy : Within a v y) (hz : Within 1 w z) (posV : 0 < v) (posW : 0 < w)
    (few : a ≤ 8) : Within (a + 17 / 16) (v / w) (y / z) := by
  have product := hy.mul (hz.inv posW) posV (inv_pos.2 posW) few (by norm_num) (by norm_num)
  have parts : a + 17 / 16 = a + (1 + 1 / 32) + 1 / 32 := by ring
  rw [div_eq_mul_inv v, div_eq_mul_inv y, parts]
  exact product

end Within

/-! ### What one rounding does -/

/-- The number that a double is, by its parts. -/
def number : UnpackedFloat → ℚ
  | .finite .positive m e _ => m * 2 ^ e
  | .finite .negative m e _ => -(m * 2 ^ e)
  | _ => 0

/-- The number that a double is. -/
def numberOf (x : Float) : ℚ := number x.toModel.unpack

theorem number_neg (u : UnpackedFloat) : number u.neg = -number u := by
  cases u with
  | finite s m e pos =>
    cases s with
    | positive => rfl
    | negative => exact (neg_neg _).symm
  | _ => simp [number, UnpackedFloat.neg]

theorem number_carry (r : Nat) (t : Int) : number (carry .positive r t) = r * 2 ^ t := by
  unfold carry
  split
  · next zero => simp [number, zero]
  · split
    · next carried =>
      rw [number, carried, zpow_add_one₀ two_ne_zero]
      push_cast
      ring
    · rfl

theorem isNumber_of_pos {x : Float} (h : 0 < number x.toModel.unpack) :
    IsNumber .positive (number x.toModel.unpack) x := by
  cases ux : x.toModel.unpack with
  | finite s m e pos =>
    cases s with
    | positive => exact ⟨_, _, pos, ux, rfl⟩
    | negative =>
      have size : (0 : ℚ) ≤ m * 2 ^ e := by positivity
      rw [ux] at h
      exact absurd (neg_pos.1 h) (not_lt.2 size)
  | _ =>
    rw [ux] at h
    exact absurd h (lt_irrefl 0)

namespace Rounds

variable {v q parts : ℚ} {u : UnpackedFloat} {x : Float}

/-- One rounding moves a value by one part, or by half of the smallest double. -/
theorem close (h : Rounds .positive v u) :
    |number u - v| ≤ max (2 ^ (-53 : Int) * v) leastHalf := by
  obtain ⟨w, r, t, rfl, nearest, -, -, full, rfl⟩ := h.steps
  have place : (0 : ℚ) < 2 ^ t := by positivity
  have moved : |number (carry .positive r t) - w * 2 ^ t| ≤ 1 / 2 * 2 ^ t := by
    rw [number_carry, ← sub_mul, abs_mul, abs_of_pos place]
    exact mul_le_mul_of_nonneg_right nearest.close place.le
  refine moved.trans ?_
  rcases full with full | rfl
  · refine le_max_of_le_left ?_
    rw [part_eq, ← mul_assoc]
    exact mul_le_mul_of_nonneg_right (by linarith) place.le
  · refine le_max_of_le_right (le_of_eq ?_)
    rw [leastHalf, show (-1074 : Int) = -1075 + 1 from rfl, zpow_add_one₀ two_ne_zero]
    ring

/-- Rounding what is close to a value already. -/
theorem close_of_within (h : Rounds .positive q u) (near : Within parts v q) (pos : 0 < v)
    (few : parts ≤ 8) :
    |number u - v| ≤ parts * 2 ^ (-53 : Int) * v +
      max (33 / 32 * 2 ^ (-53 : Int) * v) leastHalf := by
  have little : parts * 2 ^ (-53 : Int) * v ≤ 1 / 32 * v := by
    rw [part_eq]
    exact mul_le_mul_of_nonneg_right (by linarith) pos.le
  have size : 2 ^ (-53 : Int) * q ≤ 33 / 32 * 2 ^ (-53 : Int) * v := by
    have upper := near.le
    rw [part_eq] at *
    linarith
  calc |number u - v| ≤ |number u - q| + |q - v| := abs_sub_le _ _ _
    _ ≤ max (2 ^ (-53 : Int) * q) leastHalf + parts * 2 ^ (-53 : Int) * v :=
        add_le_add h.close near
    _ ≤ max (33 / 32 * 2 ^ (-53 : Int) * v) leastHalf + parts * 2 ^ (-53 : Int) * v :=
        add_le_add (max_le_max_right _ size) le_rfl
    _ = _ := add_comm _ _

theorem close_of_parts (h : Rounds .positive q u) (near : Within parts v q) (pos : 0 < v)
    (few : parts + 33 / 32 ≤ 27 / 4) :
    |number u - v| ≤ 27 / 4 * 2 ^ (-53 : Int) * v + leastHalf := by
  have part : (0 : ℚ) < 2 ^ (-53 : Int) * v := by positivity
  have sum := mul_le_mul_of_nonneg_right few part.le
  have both : max (33 / 32 * 2 ^ (-53 : Int) * v) leastHalf ≤
      33 / 32 * 2 ^ (-53 : Int) * v + leastHalf :=
    max_le_add_of_nonneg (by positivity) leastHalf_pos.le
  have close := h.close_of_within near pos (by linarith)
  linarith

/-- Half of the smallest double may be no more than a few parts. -/
theorem within_of_least (h : Rounds .positive q u) (near : Within (33 / 16) v q) (pos : 0 < v)
    (least : leastHalf ≤ 5 / 2 * 2 ^ (-53 : Int) * v) : Within (73 / 16) v (number u) := by
  have close := h.close_of_within near pos (by norm_num)
  have part : (0 : ℚ) < 2 ^ (-53 : Int) * v := by positivity
  have top : max (33 / 32 * 2 ^ (-53 : Int) * v) leastHalf ≤ 5 / 2 * 2 ^ (-53 : Int) * v :=
    max_le (by linarith) least
  unfold Within
  linarith

/-- The value of a normal double is within a part of what it was rounded from. -/
theorem within (h : Rounds .positive v x.toModel.unpack) (normal : 1 ≤ v) :
    ∃ y, IsNumber .positive y x ∧ Within 1 v y := by
  have least : leastHalf ≤ 2 ^ (-53 : Int) :=
    zpow_le_zpow_right₀ one_le_two (by norm_num)
  have near : Within 1 v (number x.toModel.unpack) := by
    refine h.close.trans (max_le (by rw [one_mul]) (least.trans ?_))
    rw [one_mul]
    exact le_mul_of_one_le_right (by positivity) normal
  have lower := near.ge
  refine ⟨_, isNumber_of_pos ?_, near⟩
  rw [part_eq] at lower
  linarith

end Rounds

/-! ### What reading does -/

theorem within_ofNatural {n : Nat} (pos : 0 < n) (fits : n < 2 ^ 64) :
    ∃ y, IsNumber .positive y (ofNatural n) ∧ Within 1 n y :=
  (rounds_ofNatural pos fits).within (by exact_mod_cast pos)

theorem within_powerOfTen {n : Nat} (h : n ≤ 308) :
    ∃ y, IsNumber .positive y (powerOfTen n) ∧ Within 1 (10 ^ n) y :=
  (rounds_powerOfTen h).within (one_le_pow₀ (by norm_num))

/-- A quotient by a power of ten. -/
theorem within_div {n : Nat} {x : Float} {v y parts : ℚ} (number_ : IsNumber .positive y x)
    (near : Within parts v y) (pos : 0 < v) (few : parts ≤ 8) (down : 0 < n) (le : n ≤ 308) :
    ∃ q, Rounds .positive q (x / powerOfTen n).toModel.unpack ∧
      Within (parts + 17 / 16) (v / 10 ^ n) q := by
  obtain ⟨p, power, close⟩ := within_powerOfTen le
  have large : 2 ≤ p := by
    have lower := close.ge
    have ten : (10 : ℚ) ≤ 10 ^ n := le_self_pow₀ (by norm_num) down.ne'
    rw [part_eq] at lower
    linarith
  exact ⟨_, rounds_div number_ power large, near.div close pos (by positivity) few⟩

/-- No natural is as small as to be lost in the first of two quotients. -/
theorem leastHalf_le {v : ℚ} (h : 1 ≤ v) :
    leastHalf ≤ 5 / 2 * 2 ^ (-53 : Int) * (v / 10 ^ 308) := by
  have powers : (2 : ℚ) * 10 ^ 308 ≤ 5 * 2 ^ 1022 := by
    exact_mod_cast (by decide +kernel : 2 * 10 ^ 308 ≤ 5 * 2 ^ 1022)
  have least : leastHalf = 2 ^ (-53 : Int) / 2 ^ 1022 := by
    rw [leastHalf, ← zpow_natCast, ← zpow_sub₀ two_ne_zero]
    rfl
  rw [least, mul_comm (5 / 2 : ℚ), mul_assoc, div_eq_mul_one_div]
  refine mul_le_mul_of_nonneg_left ?_ (by positivity)
  rw [← mul_div_assoc, div_le_div_iff₀ (by positivity) (by positivity)]
  generalize (10 : ℚ) ^ 308 = tens at powers
  have twos : (0 : ℚ) < 2 ^ 1022 := by positivity
  generalize (2 : ℚ) ^ 1022 = twos at *
  have := mul_le_mul_of_nonneg_right h twos.le
  linarith

theorem ne_zero_of_isNumber {v : ℚ} {x : Float} (h : IsNumber .positive v x) :
    (x == 0.0) = false := by
  obtain ⟨m, e, pos, ux, -⟩ := h.parts
  have packed : (0.0 : Float).toModel = Float.Model.pack (.zero .positive) := by decide +kernel
  show x.toModel.unpack.beq (0.0 : Float).toModel.unpack = false
  rw [ux, packed, unpack_pack_zero]
  rfl

/-- How far a significand drifts when it is scaled down. -/
theorem close_scaleDown {significand n : Nat} (pos : 0 < significand) (fits : significand < 2 ^ 64)
    (down : 0 < n) (near : n ≤ 616) :
    |number (scaleDown (ofNatural significand) n).toModel.unpack - significand / 10 ^ n| ≤
      27 / 4 * 2 ^ (-53 : Int) * (significand / 10 ^ n) + leastHalf := by
  have one : (1 : ℚ) ≤ significand := by exact_mod_cast pos
  have positive : (0 : ℚ) < significand := by linarith
  obtain ⟨y, whole, close⟩ := within_ofNatural pos fits
  by_cases short : n ≤ 308
  · obtain ⟨q, rounds, quotient⟩ := within_div whole close positive (by norm_num) down short
    rw [scaleDown, if_pos short]
    exact rounds.close_of_parts quotient (by positivity) (by norm_num)
  · obtain ⟨q, rounds, quotient⟩ := within_div whole close positive (by norm_num)
      (by decide : 0 < 308) le_rfl
    -- Below all normal doubles the first quotient is off by half of the smallest one, which is
    -- still only a few parts of it.
    have tiny : (0 : ℚ) < significand / 10 ^ 308 := by positivity
    have first := rounds.within_of_least (by convert quotient using 1; norm_num) tiny
      (leastHalf_le one)
    obtain ⟨q, rounds, quotient⟩ := within_div (isNumber_of_pos (first.pos tiny (by norm_num)))
      first tiny (by norm_num) (by omega : 0 < n - 308) (by omega)
    have split : (10 : ℚ) ^ n = 10 ^ 308 * 10 ^ (n - 308) := by
      rw [← pow_add, Nat.add_sub_cancel' (Nat.le_of_not_le short)]
    rw [scaleDown, if_neg short, ne_zero_of_isNumber whole, if_neg (by decide), scaleDown,
      if_pos (by omega), split, ← div_div]
    exact rounds.close_of_parts quotient (by positivity) (by norm_num)

/-- How far a significand drifts when it is scaled. -/
theorem close_scaled {significand : Nat} {exponent : Int} {x : Float} (pos : 0 < significand)
    (fits : significand < 2 ^ 64) (low : -616 ≤ exponent) (high : exponent ≤ 308)
    (read : scaled significand exponent = some x) :
    |number x.toModel.unpack - significand * 10 ^ exponent| ≤
      27 / 4 * 2 ^ (-53 : Int) * (significand * 10 ^ exponent) + leastHalf := by
  have finite := isFinite_scaled read
  rcases lt_or_ge exponent 0 with down | up
  · obtain ⟨n, rfl⟩ := Int.exists_eq_neg_ofNat down.le
    have positive : 0 < n := by omega
    rw [scaled_neg positive read, zpow_neg, zpow_natCast, ← div_eq_mul_inv]
    exact close_scaleDown pos fits positive (by omega)
  · obtain ⟨n, rfl⟩ := Int.eq_ofNat_of_zero_le up
    have positive : (0 : ℚ) < significand := by exact_mod_cast pos
    obtain ⟨y, whole, closeY⟩ := within_ofNatural pos fits
    obtain ⟨p, power, closeP⟩ := within_powerOfTen (n := n) (by omega)
    rw [scaled_of_nonneg (by omega) read] at finite ⊢
    rw [zpow_natCast]
    exact (rounds_mul whole power finite).close_of_parts
      (closeY.mul closeP positive (by positivity) (by norm_num) (by norm_num) (by norm_num))
      (by positivity) (by norm_num)

/-- What rounds to a double is at most half a place away from it. -/
theorem Binary.Includes.close {b : Binary} {v : ℚ} (h : b.Includes v) (double : b.IsDouble) :
    |v - b.value| ≤ 2 ^ (-53 : Int) * b.value + leastHalf := by
  have place : (0 : ℚ) < 2 ^ b.q := by positivity
  have lower := h.lower
  have upper := h.upper
  have gap := mul_le_mul_of_nonneg_right b.gap_le place.le
  have half : 1 / 2 * (2 : ℚ) ^ b.q ≤ 2 ^ (-53 : Int) * b.value + leastHalf := by
    have least := leastHalf_pos
    rcases double.full with full | lowest
    · have full : (2 : ℚ) ^ 52 ≤ b.m := by exact_mod_cast full
      have := mul_le_mul_of_nonneg_right full place.le
      rw [part_eq, value]
      linarith
    · have positive : (0 : ℚ) ≤ 2 ^ (-53 : Int) * b.value := by
        unfold value
        positivity
      have smallest : 1 / 2 * (2 : ℚ) ^ b.q = leastHalf := by
        rw [lowest, leastHalf, show (-1074 : Int) = -1075 + 1 from rfl, zpow_add_one₀ two_ne_zero]
        ring
      rw [smallest]
      exact le_add_of_nonneg_left positive
  refine le_trans (abs_le.2 ⟨?_, ?_⟩) half <;> rw [value] <;> linarith

/-- Writing and reading together. -/
theorem drift_le {v d y : ℚ} (nonneg : 0 ≤ v)
    (written : |d - v| ≤ 2 ^ (-53 : Int) * v + leastHalf)
    (read : |y - d| ≤ 27 / 4 * 2 ^ (-53 : Int) * d + leastHalf) :
    |y - v| ≤ 2 ^ (-50 : Int) * v + 2 ^ (-1073 : Int) := by
  have smallest : (2 : ℚ) ^ (-1073 : Int) = 4 * leastHalf := by
    rw [leastHalf, show (-1073 : Int) = -1075 + 2 from rfl, zpow_add₀ two_ne_zero, mul_comm,
      show (2 : ℚ) ^ (2 : Int) = 4 by norm_num]
  have eight : (2 : ℚ) ^ (-50 : Int) = 1 / 1125899906842624 := by norm_num
  have least := leastHalf_pos
  have apart := abs_sub_le y d v
  have most := (abs_le.1 written).2
  rw [smallest, eight]
  rw [part_eq] at *
  linarith

end ActualState.Decimal
