import ActualState.Proofs.Decimal.Drift
import ActualState.Proofs.Json.Records

/-!
# Doubles as text and back

What the text of a double is read as: the double itself where reading rounds only once, and one
close to it anywhere else.
-/
namespace ActualState.Json

open Decimal (digits Binary Digits scaled)

/-- A double is read again as its digits, scaled, with its sign. -/
theorem reread_eq_scaled {x : Float} (h : x.isFinite = true) :
    ∃ y, scaled (Binary.ofBits x.toBits.toNat).shortest.asRead.significand
        (Binary.ofBits x.toBits.toNat).shortest.asRead.exponent = some y ∧
      reread x = signed (isSigned x) y := by
  have double := Decimal.isDouble_ofBits h
  obtain ⟨y, scaled_⟩ := Option.isSome_iff_exists.1 (isSome_scaled_asRead double)
  refine ⟨y, scaled_, reread_eq h (v := .double (signed (isSigned x) y)) ?_⟩
  rw [value?_numeral_double h, scaled_, Option.map_some, Option.map_some]

/-- A zero is read as that zero. -/
theorem reread_zero {x : Float} (h : x.isFinite = true)
    (zero : (Binary.ofBits x.toBits.toNat).m = 0) : reread x = x := by
  have nothing : scaled 0 (-1) = some 0.0 := by decide +kernel
  have packed : (0.0 : Float).toModel = Float.Model.pack (.zero .positive) := by decide +kernel
  obtain ⟨y, scaled_, read_⟩ := reread_eq_scaled h
  have shortest : (Binary.ofBits x.toBits.toNat).shortest = ⟨0, 0⟩ := if_pos zero
  rw [shortest, asRead_zero] at scaled_
  obtain rfl := Option.some.inj (nothing.symm.trans scaled_)
  rw [read_]
  refine Decimal.eq_signed h (by decide +kernel) ?_
  rw [dif_neg (by omega), packed]
  exact Decimal.unpack_pack_zero _

/-- Whether the text of a double is read without rounding but once: a double holds the significand
that is gathered, and the power of ten as well. -/
def HasExactText (x : Float) : Prop :=
  let d := (Binary.ofBits x.toBits.toNat).shortest.asRead
  Decimal.IsHeld d.significand ∧ d.exponent.natAbs ≤ 22

instance (x : Float) : Decidable (HasExactText x) := inferInstanceAs (Decidable (_ ∧ _))

theorem reread_eq_self {x : Float} (h : x.isFinite = true) (exact : HasExactText x) :
    reread x = x := by
  rcases Nat.eq_zero_or_pos (Binary.ofBits x.toBits.toNat).m with zero | pos
  · exact reread_zero h zero
  · have double := Decimal.isDouble_ofBits h
    have value := value_asRead (Binary.ofBits x.toBits.toNat).shortest
    have included := Binary.includes_shortest pos double.short
    rw [← value] at included
    obtain ⟨y, scaled_, read_⟩ := reread_eq_scaled h
    have significand := asRead_pos (Binary.significand_shortest_pos pos double.short)
    have rounds := Decimal.rounds_scaled significand (asRead_lt pos) exact.1 exact.2 scaled_
    rw [read_]
    refine Decimal.eq_signed h (Decimal.isFinite_of_rounds rounds) ?_
    rw [dif_pos pos]
    exact rounds.eq_of_includes pos double included

/-! ### How far a double drifts -/

theorem numberOf_signed (negative : Bool) {y : Float} (h : y.isFinite = true) :
    Decimal.numberOf (signed negative y) =
      if negative then -Decimal.numberOf y else Decimal.numberOf y := by
  cases negative
  · rfl
  · show Decimal.number (-y).toModel.unpack = -Decimal.number y.toModel.unpack
    rw [Decimal.unpack_neg h, Decimal.number_neg]

theorem numberOf_eq {x : Float} (h : x.isFinite = true) :
    Decimal.numberOf x = if isSigned x then -(Binary.ofBits x.toBits.toNat).value
      else (Binary.ofBits x.toBits.toNat).value := by
  rw [Decimal.numberOf, Decimal.unpack_eq h, isSigned, Decimal.signOf]
  rcases Nat.eq_zero_or_pos (Binary.ofBits x.toBits.toNat).m with zero | pos
  · rw [dif_neg (by omega), Binary.value, zero]
    simp [Decimal.number]
  · rw [dif_pos pos]
    by_cases high : 9223372036854775808 ≤ x.toBits.toNat
    · simp only [high, decide_true, if_true]
      rfl
    · simp only [high, decide_false, Bool.false_eq_true, if_false]
      rfl

/-- A double that is read again has moved by at most one part in `2 ^ 50`, and twice the smallest
double. -/
theorem reread_close {x : Float} (h : x.isFinite = true) :
    |Decimal.numberOf (reread x) - Decimal.numberOf x| ≤
      2 ^ (-50 : Int) * |Decimal.numberOf x| + 2 ^ (-1073 : Int) := by
  rcases Nat.eq_zero_or_pos (Binary.ofBits x.toBits.toNat).m with zero | pos
  · rw [reread_zero h zero, sub_self, abs_zero]
    positivity
  · have double := Decimal.isDouble_ofBits h
    obtain ⟨y, scaled_, read_⟩ := reread_eq_scaled h
    obtain ⟨low, high⟩ := exponent_asRead_bounds pos double
    have finite := Decimal.isFinite_scaled scaled_
    have magnitude := numberOf_eq h
    generalize Binary.ofBits x.toBits.toNat = b at *
    have value : (b.shortest.asRead.significand : ℚ) * 10 ^ b.shortest.asRead.exponent =
        b.shortest.value := value_asRead b.shortest
    have nonneg : 0 ≤ b.value := by
      unfold Binary.value
      positivity
    have significand := asRead_pos (Binary.significand_shortest_pos pos double.short)
    have read := Decimal.close_scaled significand (asRead_lt pos) low high scaled_
    rw [value] at read
    have drift := Decimal.drift_le nonneg
      ((Binary.includes_shortest pos double.short).close double) read
    rw [read_, numberOf_signed _ finite, magnitude]
    cases isSigned x
    · rw [if_neg (by decide), if_neg (by decide), abs_of_nonneg nonneg]
      exact drift
    · rw [if_pos rfl, if_pos rfl, neg_sub_neg, abs_sub_comm, abs_neg, abs_of_nonneg nonneg]
      exact drift

end ActualState.Json
