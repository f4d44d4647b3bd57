import ActualState.Proofs.Decimal.Shortest

/-!
# Doubles and their bits

`Binary` takes the bits of a number apart as arithmetic on doubles does, the sign aside. Numbers
with the same parts are the same.
-/
namespace ActualState.Decimal

open Float.Model.UnpackedFloat

/-- A number as a double holds it; the double below is only half a gap away where the first bit
stands alone, other than at the lowest exponent. -/
structure Binary.IsDouble (b : Binary) : Prop extends Canonical b.m b.q where
  fits : b.q ≤ 971
  edge : b.atBoundary = true ↔ b.m = 2 ^ 52 ∧ b.q ≠ -1074

/-- The sign of a double, from its highest bit. -/
def signOf (bits : Nat) : Sign := if 9223372036854775808 ≤ bits then .negative else .positive

/-! ### The three fields -/

theorem toNat_unpackExponent (bits : BitVec (Float.Model.Format.numBits .binary64)) :
    (unpackExponent bits).toNat = bits.toNat / 4503599627370496 % 2048 := by
  simp [unpackExponent, BitVec.extractLsb_toNat, Nat.shiftRight_eq_div_pow]

theorem toNat_unpackMantissa (bits : BitVec (Float.Model.Format.numBits .binary64)) :
    (unpackMantissa bits).toNat = bits.toNat % 4503599627370496 := by
  simp [unpackMantissa, BitVec.extractLsb_toNat]

theorem ofBitVec_unpackSign (bits : BitVec (Float.Model.Format.numBits .binary64)) :
    Sign.ofBitVec (unpackSign bits) = signOf bits.toNat := by
  have field : (unpackSign bits).toNat = bits.toNat / 9223372036854775808 := by
    have small : bits.toNat < 18446744073709551616 := bits.isLt
    simp [unpackSign, BitVec.extractLsb_toNat, Nat.shiftRight_eq_div_pow]
    omega
  have small : bits.toNat < 18446744073709551616 := bits.isLt
  have positive : unpackSign bits = 0#1 ↔ ¬ 9223372036854775808 ≤ bits.toNat := by
    rw [← BitVec.toNat_inj, field]
    show _ = 0 ↔ _
    omega
  unfold Sign.ofBitVec signOf
  by_cases high : 9223372036854775808 ≤ bits.toNat
  · rw [if_neg fun zero => positive.1 zero high, if_pos high]
  · rw [if_pos (positive.2 high), if_neg high]

/-! ### The parts of a number -/

/-- The exponent that the bits of a number hold is not the one for what is no number. -/
theorem exponent_lt {x : Float} (h : x.isFinite = true) :
    x.toBits.toNat / 4503599627370496 % 2048 < 2047 := by
  change x.toModel.unpack.isFinite = true at h
  obtain ⟨bits, hbits⟩ : ∃ bits : BitVec (Float.Model.Format.numBits .binary64),
      bits = x.toModel.toBits.toBitVec := ⟨_, rfl⟩
  have same : x.toBits.toNat = bits.toNat := by rw [hbits]; rfl
  rw [same, ← toNat_unpackExponent]
  unfold Float.Model.unpack at h
  rw [← hbits] at h
  have notTop : unpackExponent bits ≠ -1#11 := by
    intro top
    unfold unpack at h
    simp only [] at h
    rw [if_pos top] at h
    split at h <;> contradiction
  have range : (unpackExponent bits).toNat < 2 ^ 11 := BitVec.isLt _
  have other : (unpackExponent bits).toNat ≠ 2047 := fun top => notTop (BitVec.eq_of_toNat_eq top)
  omega

/-- A number, from its bits. -/
theorem unpack_eq {x : Float} (h : x.isFinite = true) :
    x.toModel.unpack = if pos : 0 < (Binary.ofBits x.toBits.toNat).m then
        .finite (signOf x.toBits.toNat) (Binary.ofBits x.toBits.toNat).m
          (Binary.ofBits x.toBits.toNat).q pos
      else .zero (signOf x.toBits.toNat) := by
  have range := exponent_lt h
  obtain ⟨bits, hbits⟩ : ∃ bits : BitVec (Float.Model.Format.numBits .binary64),
      bits = x.toModel.toBits.toBitVec := ⟨_, rfl⟩
  have same : x.toBits.toNat = bits.toNat := by rw [hbits]; rfl
  have exponent := toNat_unpackExponent bits
  have mantissa := toNat_unpackMantissa bits
  have bias : ((Float.Model.Format.exponentBias .binary64 : Nat) : Int) + ((52 : Nat) : Int) =
    1075 := rfl
  rw [same] at range ⊢
  rw [← exponent] at range
  unfold Float.Model.unpack
  rw [← hbits]
  have notTop : unpackExponent bits ≠ -1#11 := by
    intro top
    rw [top] at range
    exact absurd range (by decide)
  unfold unpack Binary.ofBits
  simp only [bias, toNat_append_one, ofBitVec_unpackSign, if_neg notTop, ← exponent, ← mantissa]
  by_cases bottom : unpackExponent bits = 0#11
  · rw [if_pos bottom]
    simp only [bottom]
    by_cases zero : unpackMantissa bits = 0#52
    · rw [dif_pos zero]
      simp only [zero]
      rfl
    · have pos : 0 < (unpackMantissa bits).toNat := by
        simpa [BitVec.toNat_pos, BitVec.pos_iff_ne_zero] using zero
      rw [dif_neg zero]
      exact (dif_pos pos).symm
  · have nonzero : (unpackExponent bits).toNat ≠ 0 := fun zero =>
      bottom (BitVec.eq_of_toNat_eq zero)
    rw [if_neg bottom, dif_pos]
    · simp only [if_neg nonzero]
      rfl
    · simp only [if_neg nonzero]
      omega

/-- The parts of a number are those of a double. -/
theorem isDouble_ofBits {x : Float} (h : x.isFinite = true) :
    (Binary.ofBits x.toBits.toNat).IsDouble := by
  have range := exponent_lt h
  generalize x.toBits.toNat = bits at range
  unfold Binary.ofBits
  simp only []
  split
  · exact ⟨⟨by show _ % _ < _; omega, by show (-1074 : Int) ≤ -1074; decide, .inr rfl⟩,
      by show (-1074 : Int) ≤ 971; decide, by simp⟩
  · refine ⟨⟨by show _ + _ % _ < _; omega, by show (-1074 : Int) ≤ _ - _; omega,
      .inl (Nat.le_add_right _ _)⟩, by show _ - _ ≤ (971 : Int); omega, ?_⟩
    simp only [decide_eq_true_eq]
    omega

theorem mod_eq_of_ofBits {a b : Nat} (m : (Binary.ofBits a).m = (Binary.ofBits b).m)
    (q : 0 < (Binary.ofBits a).m → (Binary.ofBits a).q = (Binary.ofBits b).q) :
    a % 9223372036854775808 = b % 9223372036854775808 := by
  unfold Binary.ofBits at m q
  simp only [] at m q
  split at m <;> split at m <;> simp_all <;> omega

/-- Numbers are told apart by their parts. -/
theorem eq_of_unpack_eq {x y : Float} (hx : x.isFinite = true)
    (h : x.toModel.unpack = y.toModel.unpack) : x = y := by
  have hy : y.isFinite = true := by
    show y.toModel.unpack.isFinite = true
    rw [← h]
    exact hx
  have smallX : x.toBits.toNat < 18446744073709551616 := x.toBits.toNat_lt
  have smallY : y.toBits.toNat < 18446744073709551616 := y.toBits.toNat_lt
  have signs (same : signOf x.toBits.toNat = signOf y.toBits.toNat) :
      9223372036854775808 ≤ x.toBits.toNat ↔ 9223372036854775808 ≤ y.toBits.toNat := by
    unfold signOf at same
    split at same <;> split at same <;> first | contradiction | omega
  have parts : (9223372036854775808 ≤ x.toBits.toNat ↔ 9223372036854775808 ≤ y.toBits.toNat) ∧
      x.toBits.toNat % 9223372036854775808 = y.toBits.toNat % 9223372036854775808 := by
    rw [unpack_eq hx, unpack_eq hy] at h
    split at h <;> split at h <;> injection h
    · next sign m q => exact ⟨signs sign, mod_eq_of_ofBits m fun _ => q⟩
    · next zeroX zeroY sign =>
      exact ⟨signs sign, mod_eq_of_ofBits (by omega) fun pos => absurd pos zeroX⟩
  have bits : x.toBits = y.toBits := UInt64.toNat_inj.1 (by omega)
  obtain ⟨⟨_, _⟩⟩ := x
  obtain ⟨⟨_, _⟩⟩ := y
  exact congrArg Float.ofModel (Float.Model.mk.injEq .. ▸ bits)

theorem unpack_neg {x : Float} (h : x.isFinite = true) :
    (-x).toModel.unpack = x.toModel.unpack.neg := by
  change x.toModel.unpack.isFinite = true at h
  show (Float.Model.pack x.toModel.unpack.neg).unpack = _
  cases ux : x.toModel.unpack with
  | infinity s => rw [ux] at h; contradiction
  | notANumber => rw [ux] at h; contradiction
  | zero s => exact unpack_pack_zero _
  | finite s m e pos => exact unpack_pack pos (canonical_unpack ux).1 (canonical_unpack ux).2

/-- A double with its sign taken away comes back with it. -/
theorem eq_signed {x y : Float} (hx : x.isFinite = true) (hy : y.isFinite = true)
    (h : y.toModel.unpack =
      if pos : 0 < (Binary.ofBits x.toBits.toNat).m then
        .finite .positive (Binary.ofBits x.toBits.toNat).m (Binary.ofBits x.toBits.toNat).q pos
      else .zero .positive) :
    (if decide (9223372036854775808 ≤ x.toBits.toNat) then -y else y) = x := by
  refine (eq_of_unpack_eq hx ?_).symm
  rw [unpack_eq hx, signOf]
  by_cases high : 9223372036854775808 ≤ x.toBits.toNat
  · simp only [high, decide_true, if_true]
    rw [unpack_neg hy, h]
    split <;> rfl
  · simp only [high, decide_false, Bool.false_eq_true, if_false]
    rw [h]

end ActualState.Decimal
