import ActualState.Decimal.Reading
import Mathlib

/-!
# Rounding to a double

A double is taken apart into `m * 2 ^ e`, and what is computed exactly is rounded back to one. The
bounds here do not depend on which way a number is rounded: of the two multiples of the last place
next to it, either will do.
-/
namespace ActualState.Decimal

open Float.Model (UnpackedFloat Format totalExponent)
open Float.Model.UnpackedFloat

/-! ### Doubles from their bits -/

/-- What a double holds: 53 bits, of which the first is only missing at the lowest exponent. -/
structure Canonical (m : Nat) (e : Int) : Prop where
  short : m < 2 ^ 53
  low : -1074 ≤ e
  full : 2 ^ 52 ≤ m ∨ e = -1074

/-- The first bit of a normal double is not written. -/
theorem toNat_append_one (m : BitVec 52) : (1#1 ++ m).toNat = 2 ^ 52 + m.toNat := by
  rw [BitVec.toNat_append, ← Nat.shiftLeft_add_eq_or_of_lt m.isLt]
  rfl

theorem unpack_packComponents (s : Sign) (e : BitVec 11) (m : BitVec 52) :
    unpack .binary64 (packComponents .binary64 s e m) =
      if e = -1#11 then (if m = 0#52 then .infinity s else .notANumber)
      else if e = 0#11 then
        (if h : m = 0#52 then .zero s
          else .finite s m.toNat (-1074)
            (by simpa [BitVec.toNat_pos, BitVec.pos_iff_ne_zero] using h))
      else .finite s (2 ^ 52 + m.toNat) (e.toNat - 1075) (by omega) := by
  unfold unpack
  simp only [unpackMantissa_packComponents, unpackExponent_packComponents,
    unpackSign_packComponents, Sign.ofBitVec_toBitVec, toNat_append_one]
  by_cases top : e = -1#11
  · simp only [if_pos top]
  · by_cases bottom : e = 0#11
    · simp only [if_neg top, if_pos bottom]
      subst bottom
      rfl
    · simp only [if_neg top, if_neg bottom]
      rfl

theorem pack_finite (s : Sign) (m : Nat) (e : Int) (h : 0 < m) :
    pack .binary64 (.finite s m e h) =
      if 2048 ≤ (e + 1075).toNat + 1 then packedInfinity .binary64 s
      else if m.log2 = 52 then
        packComponents .binary64 s (BitVec.ofNat 11 (e + 1075).toNat) (BitVec.ofNat 52 m)
      else packComponents .binary64 s 0#11 (BitVec.ofNat 52 m) := by
  have bias : e + ((1023 : Nat) : Int) + ((52 : Nat) : Int) = e + 1075 := by omega
  have digits : (m.log2 + 1 = 1 + 52) = (m.log2 = 52) := by
    rw [Nat.add_comm 1 52, Nat.add_right_cancel_iff]
  unfold pack Format.mantissaBits
  simp only [digits, bias, show Format.binary64.exponentBias = 1023 from rfl]

theorem isFinite_unpack_packComponents {e : BitVec 11} (notTop : e ≠ -1#11) (s : Sign)
    (m : BitVec 52) : (unpack .binary64 (packComponents .binary64 s e m)).isFinite = true := by
  rw [unpack_packComponents, if_neg notTop]
  split
  · split <;> rfl
  · rfl

/-- What is packed is out of range only where its exponent is too large. -/
theorem isFinite_pack_finite {s : Sign} {m : Nat} {e : Int} (h : 0 < m) (fits : e ≤ 971) :
    (Float.Model.pack (.finite s m e h)).unpack.isFinite = true := by
  show (unpack .binary64 (pack .binary64 (.finite s m e h))).isFinite = true
  rw [pack_finite, if_neg (by omega)]
  split
  · refine isFinite_unpack_packComponents ?_ s _
    intro top
    have exponent := congrArg BitVec.toNat top
    rw [BitVec.toNat_ofNat, Nat.mod_eq_of_lt (by omega)] at exponent
    have : (-1#11).toNat = 2047 := rfl
    omega
  · exact isFinite_unpack_packComponents (by decide) s _

/-- What is packed is never undefined. -/
theorem isFinite_or_isInf_pack_finite {s : Sign} {m : Nat} {e : Int} (h : 0 < m) :
    (Float.Model.pack (.finite s m e h)).unpack.isFinite = true ∨
      (Float.Model.pack (.finite s m e h)).unpack.isInf = true := by
  by_cases fits : e ≤ 971
  · exact .inl (isFinite_pack_finite h fits)
  · refine .inr ?_
    show (unpack .binary64 (pack .binary64 (.finite s m e h))).isInf = true
    rw [pack_finite, if_pos (by omega), packedInfinity]
    exact congrArg UnpackedFloat.isInf (unpack_packComponents s (-1#11) 0#52)

/-- A double that is in range comes back from its bits. -/
theorem unpack_pack {s : Sign} {m : Nat} {e : Int} (h : 0 < m) (c : Canonical m e)
    (fits : e ≤ 971) : (Float.Model.pack (.finite s m e h)).unpack = .finite s m e h := by
  show unpack .binary64 (pack .binary64 (.finite s m e h)) = _
  have low := c.low
  rw [pack_finite, if_neg (by omega)]
  by_cases normal : 2 ^ 52 ≤ m
  · have log : m.log2 = 52 := (Nat.log2_eq_iff h.ne').2 ⟨normal, c.short⟩
    have exponent : (BitVec.ofNat 11 (e + 1075).toNat).toNat = (e + 1075).toNat := by
      rw [BitVec.toNat_ofNat, Nat.mod_eq_of_lt (by omega)]
    have mantissa : (BitVec.ofNat 52 m).toNat = m - 2 ^ 52 := by
      have short := c.short
      rw [BitVec.toNat_ofNat]
      omega
    have notTop : BitVec.ofNat 11 (e + 1075).toNat ≠ -1#11 := by
      intro top
      rw [top] at exponent
      have : (-1#11).toNat = 2047 := rfl
      omega
    have notBottom : BitVec.ofNat 11 (e + 1075).toNat ≠ 0#11 := by
      intro bottom
      rw [bottom] at exponent
      have : (0#11).toNat = 0 := rfl
      omega
    rw [if_pos log, unpack_packComponents, if_neg notTop, if_neg notBottom]
    congr 1 <;> omega
  · have log : m.log2 ≠ 52 := by
      have := (Nat.log2_lt h.ne').2 (Nat.not_le.1 normal)
      omega
    have mantissa : (BitVec.ofNat 52 m).toNat = m := by
      rw [BitVec.toNat_ofNat, Nat.mod_eq_of_lt (Nat.not_le.1 normal)]
    have notZero : BitVec.ofNat 52 m ≠ 0#52 := by
      intro zero
      rw [zero] at mantissa
      exact h.ne mantissa
    have lowest : e = -1074 := c.full.resolve_left normal
    rw [if_neg log, unpack_packComponents, if_neg (by decide), if_pos rfl, dif_neg notZero]
    congr 1
    exact lowest.symm

/-- Every double but zero is in canonical form. -/
theorem canonical_unpack {x : Float} {s : Sign} {m : Nat} {e : Int} {h : 0 < m}
    (parts : x.toModel.unpack = .finite s m e h) : Canonical m e ∧ e ≤ 971 := by
  have bias : ((Format.exponentBias .binary64 : Nat) : Int) + ((52 : Nat) : Int) = 1075 := rfl
  obtain ⟨bits, hbits⟩ : ∃ bits : BitVec (Format.numBits .binary64),
      bits = x.toModel.toBits.toBitVec := ⟨_, rfl⟩
  have short : (unpackMantissa bits).toNat < 2 ^ 52 := BitVec.isLt _
  have range : (unpackExponent bits).toNat < 2 ^ 11 := BitVec.isLt _
  unfold Float.Model.unpack at parts
  rw [← hbits] at parts
  unfold unpack at parts
  simp only [bias, toNat_append_one] at parts
  split at parts
  · split at parts <;> contradiction
  · next notTop =>
    have top : (unpackExponent bits).toNat ≠ 2047 := fun top => notTop (BitVec.eq_of_toNat_eq top)
    split at parts
    · next bottom =>
      split at parts
      · contradiction
      · rw [bottom] at parts
        obtain ⟨-, rfl, rfl⟩ := parts
        exact ⟨⟨by omega, by decide, .inr rfl⟩, by decide⟩
    · next notBottom =>
      have bottom : (unpackExponent bits).toNat ≠ 0 :=
        fun bottom => notBottom (BitVec.eq_of_toNat_eq bottom)
      obtain ⟨-, rfl, rfl⟩ := parts
      exact ⟨⟨by omega, by omega, .inl (Nat.le_add_right _ _)⟩, by omega⟩

/-! ### Rounding -/

/-- The exponent of the doubles next to `m * 2 ^ e`. -/
def target (m : Nat) (e : Int) : Int := max (m.log2 + e - 52) (-1074)

theorem targetExponent_binary64 (n : Int) :
    Format.targetExponent .binary64 n = max (n - 53) (-1074) := by
  have lowest : Format.minExponent .binary64 = -1074 := by decide
  have digits : Format.mantissaBits .binary64 = 53 := rfl
  rw [Format.targetExponent, lowest, digits]
  rfl

theorem targetExponent_eq (m : Nat) (e : Int) :
    Format.targetExponent .binary64 (totalExponent m e) = target m e := by
  rw [targetExponent_binary64, totalExponent, target]
  omega

theorem shiftRight_mantissa (em : ExtendedMantissa) (k : Nat) :
    (em >>> k).mantissa = em.mantissa / 2 ^ k := by
  induction k with
  | zero => exact (Nat.div_one _).symm
  | succ k ih =>
    show (em >>> k).mantissa / 2 = _
    rw [ih, Nat.div_div_eq_div_mul, Nat.pow_succ]

theorem roundedMantissa_bounds (em : ExtendedMantissa) :
    em.mantissa ≤ em.roundedMantissa ∧ em.roundedMantissa ≤ em.mantissa + 1 := by
  obtain ⟨m, r, s⟩ := em
  cases r <;> cases s <;>
    simp only [ExtendedMantissa.roundedMantissa, ExtendedMantissa.accuracy,
      Accuracy.roundToNearestEven] <;> omega

theorem ofMantissaAndAccuracy_mantissa (m : Nat) (acc : Accuracy) :
    (ExtendedMantissa.ofMantissaAndAccuracy m acc).mantissa = m := by
  obtain _ | o := acc
  · rfl
  · cases o <;> rfl

/-- The bits of a number above those of its target. -/
def kept (m : Nat) (e : Int) : Nat := m / 2 ^ (target m e - e).toNat

theorem kept_lt (m : Nat) (e : Int) : kept m e < 2 ^ 53 := by
  have room : m.log2 + 1 ≤ 53 + (target m e - e).toNat := by
    unfold target
    omega
  rw [kept, Nat.div_lt_iff_lt_mul (Nat.two_pow_pos _), ← Nat.pow_add]
  exact Nat.lt_of_lt_of_le Nat.lt_log2_self (Nat.pow_le_pow_right (by decide) room)

theorem le_kept {m : Nat} {e : Int} (le : e ≤ target m e) :
    2 ^ 52 ≤ kept m e ∨ target m e = -1074 := by
  by_cases lowest : target m e = -1074
  · exact .inr lowest
  · have room : 52 + (target m e - e).toNat = m.log2 := by
      unfold target at *
      omega
    have pos : m ≠ 0 := by
      rintro rfl
      rw [Nat.log2_zero] at room
      omega
    rw [kept, Nat.le_div_iff_mul_le (Nat.two_pow_pos _), ← Nat.pow_add, room]
    exact .inl (Nat.log2_self_le pos)

/-- Nothing is added before rounding. -/
theorem kept_mul_le {m : Nat} {e : Int} (le : e ≤ target m e) :
    (kept m e : ℚ) * 2 ^ target m e ≤ m * 2 ^ e := by
  have split : target m e = e + ((target m e - e).toNat : Int) := by omega
  have cut : ((kept m e * 2 ^ (target m e - e).toNat : Nat) : ℚ) ≤ m :=
    Nat.cast_le.2 (Nat.div_mul_le_self m _)
  rw [Nat.cast_mul, Nat.cast_pow, Nat.cast_ofNat] at cut
  calc (kept m e : ℚ) * 2 ^ target m e
      = (kept m e * 2 ^ (target m e - e).toNat) * 2 ^ e := by
        conv_lhs => rw [split, zpow_add₀ two_ne_zero, zpow_natCast]
        ring
    _ ≤ m * 2 ^ e := mul_le_mul_of_nonneg_right cut (by positivity)

/-- The largest double. -/
def largest : ℚ := 9007199254740991 * 2 ^ (971 : Int)

theorem largest_pos : 0 < largest := mul_pos (by norm_num) (by positivity)

theorem cast_lt_largest {n : Nat} (h : n < 9007199254740991 * 2 ^ 971) : (n : ℚ) < largest := by
  have cast : (n : ℚ) < ((9007199254740991 * 2 ^ 971 : Nat) : ℚ) := Nat.cast_lt.2 h
  rwa [Nat.cast_mul, Nat.cast_pow, ← zpow_natCast] at cast

/-- A number that is not too large for a double, with room for rounding it. -/
theorem target_le {m : Nat} {e : Int} (le : e ≤ target m e)
    (small : (m : ℚ) * 2 ^ e < largest) :
    target m e ≤ 971 ∧ (target m e = 971 → kept m e + 1 < 2 ^ 53) := by
  have below := lt_of_le_of_lt (kept_mul_le le) small
  rcases le_kept le with full | lowest
  · have high : (2 ^ 52 : ℚ) * 2 ^ target m e < 2 ^ 52 * 2 ^ (972 : Int) :=
      calc (2 ^ 52 : ℚ) * 2 ^ target m e ≤ kept m e * 2 ^ target m e :=
            mul_le_mul_of_nonneg_right (by exact_mod_cast full) (by positivity)
        _ < largest := below
        _ ≤ 2 ^ 53 * 2 ^ (971 : Int) := by
          rw [largest]
          gcongr
          norm_num
        _ = 2 ^ 52 * 2 ^ (972 : Int) := by
          rw [show (972 : Int) = 971 + 1 from rfl, zpow_add_one₀ two_ne_zero]
          ring
    have range := (zpow_lt_zpow_iff_right₀ one_lt_two).1
      (lt_of_mul_lt_mul_left high (by positivity))
    refine ⟨by omega, fun top => ?_⟩
    rw [top, largest] at below
    have fewer := lt_of_mul_lt_mul_right below (by positivity)
    have fewer : kept m e < 9007199254740991 := by exact_mod_cast fewer
    omega
  · exact ⟨by omega, by omega⟩

/-- What becomes of a rounded mantissa: rounding up may have carried it to one more bit. -/
def carry (s : Sign) (r : Nat) (t : Int) : UnpackedFloat :=
  if h : r = 0 then .zero s
  else if r = 2 ^ 53 then .finite s (2 ^ 52) (t + 1) (by decide)
  else .finite s r t (Nat.pos_of_ne_zero h)

theorem shiftToTargetExponent_eq (m : Nat) (e : Int) (acc : Accuracy) :
    shiftToTargetExponent .binary64 m e acc =
      (ExtendedMantissa.ofMantissaAndAccuracy m acc >>> (target m e - e).toNat,
        e + ((target m e - e).toNat : Int)) := by
  unfold shiftToTargetExponent shiftToExponent
  rw [targetExponent_eq]

theorem shiftToTargetExponent_of_lt {r : Nat} {t : Int} (short : r < 2 ^ 53) (low : -1074 ≤ t) :
    shiftToTargetExponent .binary64 r t .exact = (⟨r, false, false⟩, t) := by
  have log : r.log2 ≤ 52 := by
    by_cases zero : r = 0
    · simp [zero]
    · have := (Nat.log2_lt zero).2 short
      omega
  have stay : (target r t - t).toNat = 0 := by
    unfold target
    omega
  rw [shiftToTargetExponent_eq, stay, Int.natCast_zero, Int.add_zero]
  rfl

theorem shiftToTargetExponent_carried {t : Int} (low : -1074 ≤ t) :
    shiftToTargetExponent .binary64 (2 ^ 53) t .exact = (⟨2 ^ 52, false, false⟩, t + 1) := by
  have one : (target (2 ^ 53) t - t).toNat = 1 := by
    rw [target, Nat.log2_two_pow]
    omega
  rw [shiftToTargetExponent_eq, one]
  rfl

/-- What is kept of a number, with its residual bits. -/
def cut (m : Nat) (e : Int) (acc : Accuracy) : ExtendedMantissa :=
  ExtendedMantissa.ofMantissaAndAccuracy m acc >>> (target m e - e).toNat

theorem mantissa_cut (m : Nat) (e : Int) (acc : Accuracy) : (cut m e acc).mantissa = kept m e := by
  rw [cut, shiftRight_mantissa, ofMantissaAndAccuracy_mantissa, kept]

/-- What is kept is rounded, and carried if it must be. -/
theorem roundWithAccuracy_cut (s : Sign) {m : Nat} {e : Int} (le : e ≤ target m e)
    (acc : Accuracy) :
    roundWithAccuracy .binary64 s m e acc =
      carry s (cut m e acc).roundedMantissa (target m e) := by
  have low : -1074 ≤ target m e := Int.le_max_right _ _
  have short := kept_lt m e
  have shifted : shiftToTargetExponent .binary64 m e acc = (cut m e acc, target m e) := by
    refine (shiftToTargetExponent_eq m e acc).trans (Prod.ext rfl ?_)
    show e + ((target m e - e).toNat : Int) = _
    omega
  have upper := (roundedMantissa_bounds (cut m e acc)).2
  rw [mantissa_cut] at upper
  have again : (cut m e acc).roundedMantissa < 2 ^ 53 ∨
      (cut m e acc).roundedMantissa = 2 ^ 53 := by omega
  unfold roundWithAccuracy carry
  simp only [shifted]
  rcases again with uncarried | carried
  · simp only [shiftToTargetExponent_of_lt uncarried low, if_neg uncarried.ne]
  · simp only [carried, shiftToTargetExponent_carried low]
    rfl

/-- A number is rounded to one of the two multiples of its target next to it. -/
theorem roundWithAccuracy_eq (s : Sign) {m : Nat} {e : Int} (le : e ≤ target m e)
    (acc : Accuracy) :
    ∃ r, kept m e ≤ r ∧ r ≤ kept m e + 1 ∧
      roundWithAccuracy .binary64 s m e acc = carry s r (target m e) := by
  obtain ⟨lower, upper⟩ := roundedMantissa_bounds (cut m e acc)
  rw [mantissa_cut] at lower upper
  exact ⟨_, lower, upper, roundWithAccuracy_cut s le acc⟩

end ActualState.Decimal
