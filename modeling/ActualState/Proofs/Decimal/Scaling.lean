import ActualState.Proofs.Decimal.Arithmetic

/-!
# Scaling by powers of ten

A significand that is scaled up or down gives a number or nothing at all; it gives a number
wherever the exact value leaves room for rounding three times.
-/
namespace ActualState.Decimal

open Float.Model (UnpackedFloat)

theorem isFinite_neg {x : Float} (h : x.isFinite = true) : (-x).isFinite = true := by
  change x.toModel.unpack.isFinite = true at h
  show (Float.Model.pack x.toModel.unpack.neg).unpack.isFinite = true
  generalize ux : x.toModel.unpack = u at h
  cases u with
  | infinity s => contradiction
  | notANumber => contradiction
  | zero s => exact congrArg UnpackedFloat.isFinite (unpack_pack_zero _)
  | finite s m e pos => exact isFinite_pack_finite pos (canonical_unpack ux).2

theorem isFinite_ofNatural (n : Nat) : (ofNatural n).isFinite = true := by
  have same : n.toUInt64.toNat.toUInt64 = n.toUInt64 := UInt64.ofNat_toNat
  have small : n.toUInt64.toNat < 2 ^ 64 := n.toUInt64.toNat_lt
  have finite := (atMost_ofNatural small).isFinite
  rw [ofNatural, same] at finite
  exact finite

theorem isFinite_powerOfTen {n : Nat} (h : n ≤ 308) : (powerOfTen n).isFinite = true :=
  (isAbout_powerOfTen h).atMost.isFinite

/-- A number that is scaled down is a number. -/
theorem isFinite_scaleDown {x : Float} {e : Nat} (h : x.isFinite = true) (pos : 0 < e) :
    (scaleDown x e).isFinite = true := by
  have divided {x : Float} {n : Nat} (h : x.isFinite = true) (pos : 0 < n) (le : n ≤ 308) :
      (x / powerOfTen n).isFinite = true := by
    obtain ⟨s, m, f, positive, parts, lower, -⟩ := (isAbout_powerOfTen le).parts
    refine isFinite_div h parts (le_trans ?_ lower)
    have log : 1 ≤ (10 ^ n).log2 := by
      have ten : 10 ^ 1 ≤ 10 ^ n := Nat.pow_le_pow_right (by decide) pos
      exact (Nat.le_log2 (by omega)).2 (by omega)
    have two := pow_le_pow_right₀ (one_le_two (α := ℚ)) log
    rwa [pow_one] at two
  induction x, e using scaleDown.induct with
  | case1 x e near =>
    rw [scaleDown, if_pos near]
    exact divided h pos near
  | case2 x e far zero =>
    rw [scaleDown, if_neg far, if_pos zero]
    exact h
  | case3 x e far nonzero ih =>
    rw [scaleDown, if_neg far, if_neg nonzero]
    exact ih (divided h (by decide) (by decide)) (by omega)

/-- What is read is a number. -/
theorem isFinite_scaled {significand : Nat} {exponent : Int} {x : Float}
    (h : scaled significand exponent = some x) : x.isFinite = true := by
  have start := isFinite_ofNatural significand
  unfold scaled at h
  simp only [] at h
  split at h
  · next down =>
    rw [← Option.some.inj h]
    exact isFinite_scaleDown start (by omega)
  · split at h
    · next up =>
      split at h
      · contradiction
      · next inRange =>
        rw [← Option.some.inj h]
        exact (isFinite_or_isInf_mul start (isFinite_powerOfTen (by omega))).resolve_right inRange
    · split at h
      · rw [← Option.some.inj h]
        exact start
      · contradiction

theorem scaled_of_neg {significand : Nat} {exponent : Int} (h : exponent < 0) :
    (scaled significand exponent).isSome = true := by
  simp [scaled, h]

theorem not_isInf_of_isFinite {x : Float} (h : x.isFinite = true) : x.isInf = false := by
  change x.toModel.unpack.isFinite = true at h
  show x.toModel.unpack.isInf = false
  cases ux : x.toModel.unpack <;> simp_all [UnpackedFloat.isFinite, UnpackedFloat.isInf]

/-- Where there is room for rounding, there is a number. -/
theorem scaled_of_lt {significand e : Nat} (short : significand < 2 ^ 64) (le : e ≤ 308)
    (room : (significand * (1 + 2 ^ (-52 : Int)) : ℚ) * (10 ^ e * (1 + 2 ^ (-52 : Int))) <
      largest) : (scaled significand e).isSome = true := by
  have power := (isAbout_powerOfTen le).atMost
  rw [Nat.cast_pow] at power
  have finite := isFinite_mul (atMost_ofNatural short) power room
  have notDown : ¬ (e : Int) < 0 := by omega
  have up : (e : Int) ≤ 308 := by omega
  simp [scaled, notDown, up, not_isInf_of_isFinite finite]

end ActualState.Decimal
