import ActualState.Decimal.Style
import ActualState.Proofs.Decimal.Digits
import ActualState.Proofs.Decimal.Scaling

/-!
# The shortest decimal can be read

The decimal that is written for a double may be read as a slightly different one, since reading
rounds three times. What is shown here is that it can be read at all: close to the largest double
there is just enough room.
-/
namespace ActualState.Decimal

theorem powPos_eq {base : Nat} (pos : 0 < base) (e : Int) :
    (powPos base e : ℚ) = (base : ℚ) ^ e * powPos base (-e) := by
  have nonzero : (base : ℚ) ≠ 0 := Nat.cast_ne_zero.2 pos.ne'
  have cast (n : Nat) : ((base.pow n : Nat) : ℚ) = (base : ℚ) ^ n := Nat.cast_pow base n
  unfold powPos
  rw [cast, cast, ← zpow_natCast, ← zpow_natCast, ← zpow_add₀ nonzero]
  congr 1
  omega

theorem powPos_pos {base : Nat} (pos : 0 < base) (e : Int) : 0 < powPos base e :=
  Nat.pow_pos pos

namespace Binary

variable {b : Binary} {k : Int} {c : Nat}

/-- The number itself. -/
def value (b : Binary) : ℚ := b.m * 2 ^ b.q

theorem numerator_eq (b : Binary) : (b.numerator : ℚ) = b.value * b.denominator := by
  have two := powPos_eq (by decide : 0 < 2) b.q
  rw [numerator, denominator, Nat.cast_mul, two, value, Nat.cast_ofNat]
  ring

theorem denominator_pos (b : Binary) : 0 < b.denominator := powPos_pos (by decide) _

/-- What the two factors for a comparison are for. -/
theorem left_eq (b : Binary) (k : Int) :
    (b.left k : ℚ) = 2 ^ (b.q - 2) * 10 ^ (-k) * b.right k := by
  have two := powPos_eq (by decide : 0 < 2) (b.q - 2)
  have ten := powPos_eq (by decide : 0 < 10) (-k)
  rw [Int.neg_sub] at two
  rw [Int.neg_neg] at ten
  rw [left, right, Nat.cast_mul, Nat.cast_mul, two, ten]
  push_cast
  ring

theorem right_pos (b : Binary) (k : Int) : 0 < b.right k :=
  Nat.mul_pos (powPos_pos (by decide) _) (powPos_pos (by decide) _)

/-- A grid point that is not above so many quarters of the last place. -/
theorem point_le_iff (b : Binary) (k : Int) (c x : Nat) :
    c * b.right k ≤ x * b.left k ↔ (c : ℚ) * 10 ^ k ≤ x * 2 ^ (b.q - 2) := by
  have right : (0 : ℚ) < b.right k := Nat.cast_pos.2 (b.right_pos k)
  have ten : (0 : ℚ) < 10 ^ k := by positivity
  rw [← Nat.cast_le (α := ℚ), Nat.cast_mul, Nat.cast_mul, left_eq, ← mul_assoc,
    mul_le_mul_iff_left₀ right, zpow_neg, ← mul_assoc, ← div_eq_mul_inv, le_div_iff₀ ten]

theorem four_mul_eq (b : Binary) : ((4 * b.m : Nat) : ℚ) * 2 ^ (b.q - 2) = b.value := by
  rw [value, zpow_sub₀ two_ne_zero]
  push_cast
  ring

theorem floorOn_le (b : Binary) (k : Int) : (b.floorOn k : ℚ) * 10 ^ k ≤ b.value := by
  rw [← four_mul_eq, ← point_le_iff]
  exact Nat.div_mul_le_self _ _

/-- What rounds to a number is at most half a place above it. -/
theorem le_of_covers (h : b.covers k c = true) :
    (c : ℚ) * 10 ^ k ≤ (b.m + 1 / 2) * 2 ^ b.q := by
  have upper : c * b.right k ≤ (4 * b.m + 2) * b.left k := by
    unfold covers at h
    simp only [] at h
    split at h <;> simp only [Bool.and_eq_true, decide_eq_true_eq] at h <;> omega
  refine ((b.point_le_iff k c _).1 upper).trans_eq ?_
  rw [zpow_sub₀ two_ne_zero]
  push_cast
  ring

theorem nearestOn_eq (b : Binary) (k : Int) :
    b.nearestOn k = b.floorOn k ∨ b.nearestOn k = b.floorOn k + 1 := by
  unfold nearestOn
  simp only []
  split
  · exact .inl rfl
  · split
    · exact .inr rfl
    · split
      · exact .inl rfl
      · exact .inr rfl

theorem hitOn_eq (h : b.hitOn k = some c) :
    c ≤ b.floorOn k + 1 ∧ b.covers k c = true := by
  unfold hitOn at h
  simp only [] at h
  split at h
  · next lower upper =>
    rw [← Option.some.inj h]
    rcases b.nearestOn_eq k with nearest | nearest <;> rw [nearest]
    · exact ⟨Nat.le_succ _, lower⟩
    · exact ⟨Nat.le_refl _, upper⟩
  · next lower _ =>
    rw [← Option.some.inj h]
    exact ⟨Nat.le_succ _, lower⟩
  · next _ upper =>
    rw [← Option.some.inj h]
    exact ⟨Nat.le_refl _, upper⟩
  · contradiction

end Binary

/-- The number that digits spell. -/
def Digits.value (d : Digits) : ℚ := d.significand * 10 ^ d.exponent

/-- What is known of the digits for a number: they are next to it on a grid that is not finer than
`10 ^ low`, and round to it on every coarser one. -/
structure Nearby (b : Binary) (low : Int) (d : Digits) : Prop where
  grid : low ≤ d.exponent
  close : d.significand ≤ b.floorOn d.exponent + 1
  rounds : low < d.exponent → b.covers d.exponent d.significand = true

theorem nearby_firstHit (b : Binary) (k : Int) (n : Nat) : Nearby b (k - n) (b.firstHit k n) := by
  induction n generalizing k with
  | zero =>
    refine ⟨by simp [Binary.firstHit], ?_, fun finer => by simp [Binary.firstHit] at finer⟩
    rcases b.nearestOn_eq k with nearest | nearest <;> simp [Binary.firstHit, nearest]
  | succ n ih =>
    unfold Binary.firstHit
    cases hit : b.hitOn k with
    | some c =>
      obtain ⟨close, covered⟩ := Binary.hitOn_eq hit
      exact ⟨by show k - _ ≤ k; omega, close, fun _ => covered⟩
    | none =>
      have further := ih (k - 1)
      have low : k - 1 - (n : Int) = k - (n + 1 : Nat) := by omega
      rwa [low] at further

/-- Dropping zeros changes the digits, not the number. -/
theorem value_trim (d : Digits) (n : Nat) :
    (d.trim n).value = d.value ∧ (d.trim n).significand ≤ d.significand ∧
      d.exponent ≤ (d.trim n).exponent := by
  induction n generalizing d with
  | zero => exact ⟨rfl, Nat.le_refl _, Int.le_refl _⟩
  | succ n ih =>
    unfold Digits.trim
    split
    · next zero =>
      obtain ⟨same, less, coarser⟩ := ih ⟨d.significand / 10, d.exponent + 1⟩
      refine ⟨same.trans ?_, Nat.le_trans less (Nat.div_le_self _ _),
        Int.le_trans (Int.le_add_one (Int.le_refl _)) coarser⟩
      have split : d.significand = d.significand / 10 * 10 := by omega
      have cast : (d.significand : ℚ) = (d.significand / 10 : Nat) * 10 := by
        exact_mod_cast split
      rw [Digits.value, Digits.value, cast, zpow_add_one₀ (by norm_num)]
      ring
    · exact ⟨rfl, Nat.le_refl _, Int.le_refl _⟩

namespace Binary

theorem lt_pow_digitCount {n k : Nat} (h : 0 < k) : digitCount n ≤ k ↔ n < 10 ^ k := by
  rw [digitCount, length_toDigits, length_digits_le_iff h]
  rfl

theorem digitCount_pos (n : Nat) : 0 < digitCount n := by
  rw [digitCount, length_toDigits]
  exact List.length_pos_of_ne_nil (digits_ne_nil n)

/-- The number of digits of a whole quotient says between which powers of ten it lies. -/
theorem digitCount_div {m k : Nat} (pos : 0 < k) (le : k ≤ m) :
    ∃ n, digitCount (m / k) = n + 1 ∧ 10 ^ n * k ≤ m ∧ m < 10 ^ (n + 1) * k := by
  obtain ⟨n, count⟩ : ∃ n, digitCount (m / k) = n + 1 :=
    ⟨_, (Nat.sub_add_cancel (digitCount_pos _)).symm⟩
  refine ⟨n, count, ?_, ?_⟩
  · rcases Nat.eq_zero_or_pos n with rfl | positive
    · simpa using le
    · by_contra more
      have short := (Nat.div_lt_iff_lt_mul pos).2 (Nat.not_le.1 more)
      have := (lt_pow_digitCount positive).2 short
      omega
  · have long := (lt_pow_digitCount (Nat.succ_pos n)).1 (Nat.le_of_eq count)
    exact (Nat.div_lt_iff_lt_mul pos).1 long

/-! ### The value against powers of ten, in whole numbers -/

theorem pow_le_value_iff (b : Binary) (n : Nat) :
    (10 : ℚ) ^ (n : Int) ≤ b.value ↔ 10 ^ n * b.denominator ≤ b.numerator := by
  have pos : (0 : ℚ) < b.denominator := Nat.cast_pos.2 b.denominator_pos
  rw [← Nat.cast_le (α := ℚ), Nat.cast_mul, Nat.cast_pow, numerator_eq, mul_le_mul_iff_left₀ pos,
    zpow_natCast, Nat.cast_ofNat]

theorem value_lt_pow_iff (b : Binary) (n : Nat) :
    b.value < (10 : ℚ) ^ (n : Int) ↔ b.numerator < 10 ^ n * b.denominator := by
  rw [← not_le, pow_le_value_iff, Nat.not_le]

theorem pow_neg_le_value_iff (b : Binary) (n : Nat) :
    (10 : ℚ) ^ (-(n : Int)) ≤ b.value ↔ b.denominator ≤ 10 ^ n * b.numerator := by
  have pos : (0 : ℚ) < b.denominator := Nat.cast_pos.2 b.denominator_pos
  have ten : (0 : ℚ) < 10 ^ n := by positivity
  rw [← Nat.cast_le (α := ℚ), Nat.cast_mul, Nat.cast_pow, numerator_eq, ← mul_assoc,
    le_mul_iff_one_le_left pos, zpow_neg, zpow_natCast, inv_le_iff_one_le_mul₀' ten,
    Nat.cast_ofNat]

theorem value_lt_pow_neg_iff (b : Binary) (n : Nat) :
    b.value < (10 : ℚ) ^ (-(n : Int)) ↔ 10 ^ n * b.numerator < b.denominator := by
  rw [← not_le, pow_neg_le_value_iff, Nat.not_le]

theorem one_le_value_iff (b : Binary) : 1 ≤ b.value ↔ b.denominator ≤ b.numerator := by
  simpa using b.pow_le_value_iff 0

/-- From one on, the magnitude is the exponent of the first digit. -/
theorem magnitude_of_one_le {b : Binary} (h : 1 ≤ b.value) :
    10 ^ b.magnitude ≤ b.value ∧ b.value < 10 ^ (b.magnitude + 1) := by
  have order := b.one_le_value_iff.1 h
  obtain ⟨n, count, lower, upper⟩ := digitCount_div b.denominator_pos order
  have magnitude : b.magnitude = n := by
    rw [Binary.magnitude, if_pos order, count]
    omega
  rw [magnitude]
  exact ⟨(b.pow_le_value_iff n).2 lower, (b.value_lt_pow_iff (n + 1)).2 upper⟩

/-- The magnitude is the exponent of the first digit. Below one it is found from the quotient the
other way round, which has one digit too many where it is a power of ten. -/
theorem magnitude_bounds {b : Binary} (pos : 0 < b.m) :
    10 ^ b.magnitude ≤ b.value ∧ b.value < 10 ^ (b.magnitude + 1) := by
  rcases le_or_gt 1 b.value with large | small
  · exact magnitude_of_one_le large
  · have order : b.numerator < b.denominator :=
      Nat.not_le.1 fun le => absurd (b.one_le_value_iff.2 le) (not_le.2 small)
    have top : 0 < b.numerator := Nat.mul_pos pos (powPos_pos (by decide) _)
    obtain ⟨n, count, lower, upper⟩ := digitCount_div top order.le
    unfold magnitude
    rw [if_neg (Nat.not_le.2 order)]
    simp only [count, Nat.add_sub_cancel]
    split
    · next power =>
      have power : 10 ^ n * b.numerator = b.denominator := by rw [Nat.mul_comm]; exact power
      obtain ⟨k, rfl⟩ : ∃ k, n = k + 1 :=
        Nat.exists_eq_succ_of_ne_zero fun zero => by subst zero; omega
      have less : 10 ^ k * b.numerator < b.denominator := by
        rw [← power]
        exact Nat.mul_lt_mul_of_pos_right (Nat.pow_lt_pow_succ (by decide)) top
      have here : ((k + 1 + 1 : Nat) : Int) - 1 = (k + 1 : Nat) := by omega
      have next : -((k + 1 : Nat) : Int) + 1 = -(k : Int) := by omega
      rw [here, next]
      exact ⟨(b.pow_neg_le_value_iff _).2 power.ge, (b.value_lt_pow_neg_iff k).2 less⟩
    · next other =>
      have less : 10 ^ n * b.numerator < b.denominator := by
        refine lt_of_le_of_ne lower fun same => other ?_
        rw [Nat.mul_comm] at same
        exact same
      have next : -((n + 1 : Nat) : Int) + 1 = -(n : Int) := by omega
      rw [next]
      exact ⟨(b.pow_neg_le_value_iff _).2 upper.le, (b.value_lt_pow_neg_iff n).2 less⟩

theorem floorOn_lt {b : Binary} (pos : 0 < b.m) {k : Int} (fine : b.magnitude - 17 ≤ k) :
    b.floorOn k < 10 ^ 18 := by
  have le := b.floorOn_le k
  have upper := (magnitude_bounds pos).2
  have wide : (10 : ℚ) ^ (b.magnitude + 1) ≤ 10 ^ 18 * 10 ^ k := by
    rw [← zpow_natCast, ← zpow_add₀ (by norm_num)]
    exact zpow_le_zpow_right₀ (by norm_num) (by omega)
  have lt := lt_of_mul_lt_mul_right (le.trans_lt (upper.trans_le wide)) (by positivity)
  exact_mod_cast lt

end Binary

/-- The middle between the two doubles below the largest one. -/
def nearLargest : ℚ := 18014398509481981 / 2 * 2 ^ (971 : Int)

namespace Nearby

variable {b : Binary} {d : Digits}

theorem value_le_floor (h : Nearby b (b.magnitude - 17) d) :
    d.value ≤ b.value + 10 ^ d.exponent := by
  have close : (d.significand : ℚ) ≤ b.floorOn d.exponent + 1 := by exact_mod_cast h.close
  calc d.value ≤ (b.floorOn d.exponent + 1) * 10 ^ d.exponent :=
        mul_le_mul_of_nonneg_right close (by positivity)
    _ = b.floorOn d.exponent * 10 ^ d.exponent + 10 ^ d.exponent := by ring
    _ ≤ b.value + 10 ^ d.exponent := by
        have := b.floorOn_le d.exponent
        linarith

/-- The digits of a number that is not the largest double. -/
theorem value_le (h : Nearby b (b.magnitude - 17) d) (pos : 0 < b.m) (short : b.m < 2 ^ 53)
    (fits : b.q ≤ 971) (notLargest : b.q = 971 → b.m ≠ 9007199254740991) :
    d.value ≤ nearLargest := by
  have short : (b.m : ℚ) ≤ 9007199254740991 := by exact_mod_cast Nat.le_of_lt_succ short
  have half : (b.m + 1 / 2) * 2 ^ b.q ≤ nearLargest := by
    by_cases top : b.q = 971
    · have less : b.m ≤ 9007199254740990 := by
        have := notLargest top
        omega
      have less : (b.m : ℚ) ≤ 9007199254740990 := by exact_mod_cast less
      rw [top, nearLargest]
      exact mul_le_mul_of_nonneg_right (by linarith) (by positivity)
    · have place : (2 : ℚ) ^ b.q ≤ 2 ^ (970 : Int) :=
        zpow_le_zpow_right₀ one_le_two (by omega)
      have double : (2 : ℚ) ^ (971 : Int) = 2 * 2 ^ (970 : Int) := zpow_one_add₀ two_ne_zero 970
      calc (b.m + 1 / 2) * (2 : ℚ) ^ b.q ≤ 18014398509481981 * 2 ^ (970 : Int) :=
            mul_le_mul (by linarith) place (by positivity) (by norm_num)
        _ = nearLargest := by
          rw [nearLargest, double]
          ring
  refine le_trans ?_ half
  rcases h.grid.lt_or_eq with coarse | finest
  · exact Binary.le_of_covers (h.rounds coarse)
  · have first := (Binary.magnitude_bounds pos).1
    have place : (10 : ℚ) ^ d.exponent * 10 ^ 17 ≤ b.value := by
      rw [← finest, ← zpow_natCast, ← zpow_add₀ (by norm_num)]
      convert first using 2
      omega
    have value : b.value = b.m * 2 ^ b.q := rfl
    have last : (b.m : ℚ) * 2 ^ b.q ≤ 9007199254740991 * 2 ^ b.q :=
      mul_le_mul_of_nonneg_right short (by positivity)
    have unit : (0 : ℚ) < 2 ^ b.q := by positivity
    have := h.value_le_floor
    linarith

end Nearby

/-! ### Reading digits -/

/-- Close to the largest double it is the exact digits that count. -/
theorem scaled_window : ∀ i < 72, ∀ j ≤ 17, (179769313486231490 + i) % 10 ^ j = 0 →
    (scaled ((179769313486231490 + i) / 10 ^ j) ((291 + j : Nat) : Int)).isSome = true := by
  decide +kernel

/-- Twice rounding up leaves what is not close to the largest double in range. -/
theorem room_of_lt {n : Nat} (h : n < 179769313486231490 * 10 ^ 291) :
    (n : ℚ) * (1 + 2 ^ (-52 : Int)) * (1 + 2 ^ (-52 : Int)) < largest := by
  obtain ⟨top, htop⟩ : ∃ top, top = 9007199254740991 * 2 ^ 971 := ⟨_, rfl⟩
  have cast : (top : ℚ) = largest := by
    rw [htop, Nat.cast_mul, Nat.cast_pow, largest, ← zpow_natCast]
    rfl
  have limit : 179769313486231490 * 10 ^ 291 * (2 ^ 52 + 1) * (2 ^ 52 + 1) ≤
      top * 2 ^ 52 * 2 ^ 52 := by
    rw [htop]
    decide +kernel
  have less : n * (2 ^ 52 + 1) * (2 ^ 52 + 1) < top * 2 ^ 52 * 2 ^ 52 :=
    Nat.lt_of_lt_of_le (Nat.mul_lt_mul_of_pos_right
      (Nat.mul_lt_mul_of_pos_right h (by decide)) (by decide)) limit
  have less : (n : ℚ) * (2 ^ 52 + 1) * (2 ^ 52 + 1) < top * 2 ^ 52 * 2 ^ 52 := by
    exact_mod_cast less
  rw [cast] at less
  norm_num at less ⊢
  linarith

theorem lt_of_le_nearLargest {n : Nat} (h : (n : ℚ) ≤ nearLargest) :
    n < (179769313486231490 + 72) * 10 ^ 291 := by
  obtain ⟨top, htop⟩ : ∃ top, top = 2 ^ 971 := ⟨_, rfl⟩
  have cast : (top : ℚ) = 2 ^ (971 : Int) := by
    rw [htop, Nat.cast_pow, ← zpow_natCast]
    rfl
  have limit : 18014398509481981 * top < 2 * ((179769313486231490 + 72) * 10 ^ 291) := by
    rw [htop]
    decide +kernel
  rw [nearLargest, ← cast] at h
  have le : ((2 * n : Nat) : ℚ) ≤ ((18014398509481981 * top : Nat) : ℚ) := by
    rw [Nat.cast_mul, Nat.cast_mul]
    push_cast
    linarith
  exact Nat.lt_of_mul_lt_mul_left (Nat.lt_of_le_of_lt (Nat.cast_le.1 le) limit)

theorem le_of_mul_pow_le {m n k : Nat} (h : m * 10 ^ k ≤ n * 10 ^ k) : m ≤ n :=
  Nat.le_of_mul_le_mul_right h (Nat.pow_pos (by decide))

/-- Digits that are not above `nearLargest` can be read. -/
theorem scaled_of_le {significand e : Nat} (pos : 0 < significand) (short : significand ≤ 10 ^ 18)
    (le : (significand * 10 ^ e : ℚ) ≤ nearLargest) :
    e ≤ 308 ∧ (scaled significand e).isSome = true := by
  have small := lt_of_le_nearLargest (n := significand * 10 ^ e) (by exact_mod_cast le)
  have split (k j : Nat) : significand * 10 ^ (k + j) = significand * 10 ^ j * 10 ^ k := by
    rw [Nat.pow_add, Nat.mul_comm (10 ^ k), Nat.mul_assoc]
  have reach : e ≤ 308 := by
    by_contra far
    obtain ⟨j, rfl⟩ : ∃ j, e = 291 + j := ⟨e - 291, by omega⟩
    rw [split] at small
    have upper := Nat.lt_of_mul_lt_mul_right small
    have size : 10 ^ 18 ≤ 10 ^ j := Nat.pow_le_pow_right (by decide) (by omega)
    have more := Nat.le_trans size (Nat.le_mul_of_pos_left (10 ^ j) pos)
    exact absurd (Nat.lt_of_le_of_lt more upper) (by decide)
  refine ⟨reach, ?_⟩
  by_cases roomy : significand * 10 ^ e < 179769313486231490 * 10 ^ 291
  · refine scaled_of_lt (Nat.lt_of_le_of_lt short (by decide)) reach ?_
    have room := room_of_lt roomy
    push_cast at room
    refine lt_of_eq_of_lt ?_ room
    ring
  · have near : 291 ≤ e := by
      by_contra low
      have high := Nat.pow_le_pow_right (by decide : 0 < 10) (by omega : e ≤ 290)
      have size := Nat.mul_le_mul short high
      exact absurd (Nat.lt_of_le_of_lt size (by decide +kernel)) roomy
    obtain ⟨j, rfl⟩ := Nat.exists_eq_add_of_le near
    rw [split] at small roomy
    have lower := le_of_mul_pow_le (Nat.not_lt.1 roomy)
    have upper := Nat.lt_of_mul_lt_mul_right small
    obtain ⟨i, hi⟩ := Nat.exists_eq_add_of_le lower
    have read := scaled_window i (by omega) j (by omega) (hi ▸ Nat.mul_mod_left _ _)
    rwa [← hi, Nat.mul_div_cancel _ (Nat.pow_pos (by decide))] at read

variable {b : Binary}

/-- The digits of the largest double. -/
theorem shortest_largest (atBoundary : Bool) :
    (Binary.mk 9007199254740991 971 atBoundary).shortest = ⟨17976931348623157, 292⟩ := by
  cases atBoundary <;> decide +kernel

theorem scaled_largest : (scaled 17976931348623157 (292 : Nat)).isSome = true := by decide +kernel

theorem nearby_shortest (pos : 0 < b.m) :
    ∃ d, Nearby b (b.magnitude - 17) d ∧ b.shortest.value = d.value ∧
      b.shortest.significand ≤ d.significand ∧ d.exponent ≤ b.shortest.exponent := by
  refine ⟨_, nearby_firstHit b b.magnitude 17, ?_⟩
  rw [Binary.shortest, if_neg pos.ne']
  exact value_trim _ 18

theorem significand_shortest_le (pos : 0 < b.m) : b.shortest.significand ≤ 10 ^ 18 := by
  obtain ⟨d, nearby, -, less, -⟩ := nearby_shortest pos
  exact Nat.le_trans less (Nat.le_trans nearby.close (Binary.floorOn_lt pos nearby.grid))

/-- The digits of a double can be read. -/
theorem scaled_shortest (pos : 0 < b.m) (short : b.m < 2 ^ 53) (fits : b.q ≤ 971) {e : Nat}
    (exponent : b.shortest.exponent = e) (positive : 0 < b.shortest.significand) :
    e ≤ 308 ∧ (scaled b.shortest.significand e).isSome = true := by
  by_cases largest : b.q = 971 ∧ b.m = 9007199254740991
  · obtain ⟨m, q, atBoundary⟩ := b
    obtain ⟨rfl, rfl⟩ := largest
    rw [shortest_largest] at exponent ⊢
    rw [← Int.natCast_inj.1 exponent]
    exact ⟨by decide, scaled_largest⟩
  · obtain ⟨d, nearby, same, -, -⟩ := nearby_shortest pos
    have value : b.shortest.value = b.shortest.significand * 10 ^ e := by
      rw [Digits.value, exponent, zpow_natCast]
    refine scaled_of_le positive (significand_shortest_le pos) ?_
    rw [← value, same]
    exact nearby.value_le pos short fits fun top other => largest ⟨top, other⟩

end ActualState.Decimal
