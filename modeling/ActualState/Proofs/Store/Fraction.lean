import ActualState.Proofs.Decimal.Sums
import ActualState.Store.Usage

/-!
# The fraction of a sample

The time spent writing is divided by the length of the window in floating point and held between 0
and 1. A window that is not empty is no zero in seconds either, so that the quotient is always
defined, and what is held between two bounds lies between them.
-/
namespace ActualState

open Time (Duration)
open Decimal (IsNumber ofNatural)

namespace Decimal

/-- Naturals are read by their last 64 bits. -/
theorem ofNatural_mod (n : Nat) : ofNatural (n % 2 ^ 64) = ofNatural n := by
  unfold ofNatural
  congr 1
  exact UInt64.toNat_inj.1 (by simp)

theorem ofNatural_zero : (ofNatural 0).toModel.unpack = .zero .positive :=
  unpack_pack_zero .positive

theorem isNumber_billion : IsNumber .positive 1000000000 (1000000000.0 : Float) := by
  refine ⟨8388608000000000, -23, by decide, rfl, ?_⟩
  norm_num

theorem leastHalf_le_part : leastHalf ≤ 1 / 2 ^ 53 := by
  rw [one_div, ← zpow_natCast, ← zpow_neg]
  exact zpow_le_zpow_right₀ one_le_two (by norm_num)

/-! ### Seconds -/

/-- Nanoseconds that are less than a second, in seconds. -/
theorem exists_nanoseconds {n : Nat} (pos : 0 < n) (small : n < 1000000000) :
    ∃ v ≤ 4, IsNumber .positive v (ofNatural n / 1000000000.0) := by
  obtain ⟨y, number_, near⟩ := within_ofNatural pos (by omega)
  have size : (1 : ℚ) ≤ n := by exact_mod_cast pos
  have top : (n : ℚ) ≤ 1000000000 := by exact_mod_cast small.le
  have lower := near.ge
  have upper := near.le
  rw [part_eq] at lower upper
  have rounds := rounds_div number_ isNumber_billion (by norm_num)
  have tiny := leastHalf_le_part
  have least : leastHalf < y / 1000000000 := by
    rw [lt_div_iff₀ (by norm_num)]
    linarith
  have few : y / 1000000000 ≤ 2 := by
    rw [div_le_iff₀ (by norm_num)]
    linarith
  have moved : max (2 ^ (-53 : Int) * (y / 1000000000)) leastHalf ≤ 1 := by
    rw [part_eq]
    exact max_le (by linarith) (by linarith)
  have close := (abs_le.1 rounds.close).2
  exact ⟨_, by linarith, isNumber_of_pos (rounds.number_pos least)⟩

/-- A duration that is not zero is no zero in seconds. -/
theorem exists_seconds {a b : Nat} (fits : a < 2 ^ 64) (small : b < 1000000000)
    (pos : 0 < a ∨ 0 < b) :
    ∃ v, IsNumber .positive v (ofNatural a + ofNatural b / 1000000000.0) := by
  have noNanoseconds (zero : b = 0) :
      (ofNatural b / 1000000000.0).toModel.unpack = .zero .positive := by
    subst zero
    rfl
  rcases Nat.eq_zero_or_pos a with rfl | whole
  · obtain ⟨v, -, number_⟩ := exists_nanoseconds (pos.resolve_left (Nat.lt_irrefl 0)) small
    exact ⟨v, isNumber_zero_add ofNatural_zero number_⟩
  · obtain ⟨v, whole_, near⟩ := within_ofNatural whole fits
    rcases Nat.eq_zero_or_pos b with zero | part
    · exact ⟨v, isNumber_add_zero whole_ (noNanoseconds zero)⟩
    · obtain ⟨w, few, part_⟩ := exists_nanoseconds part small
      obtain ⟨m, e, pos, -, value⟩ := part_.parts
      have above : 0 < w := value ▸ by positivity
      have size : (1 : ℚ) ≤ a := by exact_mod_cast whole
      have top : (a : ℚ) ≤ 2 ^ 64 := by exact_mod_cast fits.le
      have lower := near.ge
      have upper := near.le
      rw [part_eq] at lower upper
      have tiny := leastHalf_le_part
      have room : v + w < largest := by
        have large : (2 : ℚ) ^ 66 < largest := by
          have := cast_lt_largest (n := 2 ^ 66) (by decide +kernel)
          exact_mod_cast this
        linarith
      exact ⟨_, isNumber_of_pos ((rounds_add whole_ part_ room).number_pos (by linarith))⟩

end Decimal

/-! ### Fractions -/

/-- Seconds are never out of range. -/
theorem isFinite_secondsOf (d : Duration) : (secondsOf d).isFinite = true := by
  have last : d % Time.second < 1000000000 := Nat.mod_lt _ (by decide)
  rw [secondsOf, ← Decimal.ofNatural_mod]
  rcases Nat.eq_zero_or_pos (d / Time.second % 2 ^ 64 + d % Time.second) with zero | pos
  · obtain ⟨whole, part⟩ := Nat.add_eq_zero_iff.1 zero
    rw [whole, part]
    rfl
  · obtain ⟨v, number_⟩ := Decimal.exists_seconds (Nat.mod_lt _ (by decide)) last
      (Nat.add_pos_iff_pos_or_pos.1 pos)
    obtain ⟨m, e, positive, parts, -⟩ := number_.parts
    exact congrArg Float.Model.UnpackedFloat.isFinite parts

/-- The fraction of a window whose length a clock can show lies between 0 and 1. -/
theorem fraction_bounds {s : UsageSample} (fits : s.window < 2 ^ 64 * Time.second) :
    0.0 ≤ s.fraction ∧ s.fraction ≤ 1.0 := by
  unfold UsageSample.fraction
  split
  · exact ⟨by decide +kernel, by decide +kernel⟩
  · next some_ =>
    have whole : s.window / Time.second < 2 ^ 64 := Nat.div_lt_of_lt_mul (by rwa [Nat.mul_comm])
    have part : s.window % Time.second < 1000000000 := Nat.mod_lt _ (by decide)
    have pos : 0 < s.window / Time.second ∨ 0 < s.window % Time.second := by
      by_contra none_
      have split := Nat.div_add_mod s.window Time.second
      rw [not_or, Nat.not_lt, Nat.not_lt, Nat.le_zero, Nat.le_zero] at none_
      rw [none_.1, none_.2] at split
      exact some_ split.symm
    obtain ⟨v, number_⟩ := Decimal.exists_seconds whole part pos
    obtain ⟨m, e, positive, parts, -⟩ := number_.parts
    have quotient := Decimal.isDefined_of_isFinite_or_isInf
      (Decimal.isFinite_or_isInf_div (isFinite_secondsOf s.busy) parts)
    have zero : Decimal.IsDefined 0.0 := nofun
    have one : Decimal.IsDefined 1.0 := nofun
    simp only []
    split
    · exact ⟨by decide +kernel, by decide +kernel⟩
    · next notBelow =>
      split
      · exact ⟨by decide +kernel, by decide +kernel⟩
      · next notAbove =>
        exact ⟨Decimal.le_of_not_lt zero quotient notBelow,
          Decimal.le_of_not_lt quotient one notAbove⟩

end ActualState
