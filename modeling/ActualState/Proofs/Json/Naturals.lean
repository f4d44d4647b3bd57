import ActualState.Proofs.Json.Records

/-!
# Literals that are read as naturals

A literal of any length is held against a bound without ever being cut short: its digits are
gathered one by one, and from the first one that takes them out of range the literal is a double,
which no natural is read from. Nor is one read from a literal with a sign, a point or an exponent.
A zero in front of further digits ends the text.
-/
namespace ActualState.Json

open Decimal (AreDigits)
open Text.Utf8 (encode)

/-! ### Gathering digits -/

/-- Digits are all gathered just where they fit. -/
theorem gather_snd_eq_zero_iff {ds : List Nat} {s : Nat} (h : s < 18446744073709551616) :
    (gather s ds).2 = 0 ↔ ds.foldl (fun n d => n * 10 + d) s < 18446744073709551616 := by
  induction ds generalizing s with
  | nil => exact ⟨fun _ => h, fun _ => rfl⟩
  | cons d ds ih =>
    rw [gather, List.foldl_cons]
    split
    · next fits => exact ih fits
    · next beyond =>
      have large := le_foldl ds (s * 10 + d)
      constructor
      · exact fun kept => absurd kept (Nat.succ_ne_zero ds.length)
      · intro small
        omega

namespace Numeral

/-- No sign, no point and no exponent. -/
structure IsBare (n : Numeral) : Prop where
  unsigned : n.negative = false
  pointless : n.fraction = none
  whole : n.exponent = none

/-- The naturals among the values of literals. -/
theorem value?_eq_natural_iff {n : Numeral} {v : Nat} :
    n.value? = some (.natural v) ↔
      n.IsBare ∧ ofDigits n.whole = v ∧ v < 18446744073709551616 := by
  have fits : (gather 0 n.whole).2 = 0 ↔ ofDigits n.whole < 18446744073709551616 :=
    gather_snd_eq_zero_iff (by decide)
  constructor
  · intro value
    unfold value? at value
    simp only [] at value
    split at value
    · next integer_ =>
      simp only [Bool.and_eq_true, decide_eq_true_eq, Option.isNone_iff_eq_none] at integer_
      obtain ⟨⟨all, pointless⟩, whole⟩ := integer_
      have small : ofDigits n.whole < 18446744073709551616 := fits.1 all
      rw [gather_of_lt small] at value
      unfold integer at value
      split at value
      · next unsigned =>
        obtain rfl := Number.natural.inj (Option.some.inj value)
        exact ⟨⟨by simpa using unsigned, pointless, whole⟩, rfl, small⟩
      · split at value <;> exact nomatch Option.some.inj value
    · obtain ⟨x, -, double⟩ := Option.map_eq_some_iff.1 value
      contradiction
  · rintro ⟨⟨unsigned, pointless, whole⟩, rfl, small⟩
    unfold value?
    rw [gather_of_lt small, unsigned, pointless, whole]
    rfl

end Numeral

/-- A natural is read from a bare literal of its value, and from no other literal. -/
theorem readNatural_number_iff {bits : Nat} (narrow_ : bits ≤ 64) {n : Numeral} {v : Nat} :
    readNatural bits (.number n) = .ok v ↔ n.IsBare ∧ ofDigits n.whole = v ∧ v < 2 ^ bits := by
  have bound : 2 ^ bits ≤ 18446744073709551616 := Nat.pow_le_pow_right (by decide) narrow_
  constructor
  · intro read_
    have small : v < 2 ^ bits := lt_of_readNatural read_
    obtain ⟨w, value, read_⟩ := bind_eq_ok.1 read_
    have natural : w = .natural v := by
      unfold narrow at read_
      cases w with
      | natural m =>
        simp only [] at read_
        split at read_
        · rw [Except.ok.inj read_]
        · contradiction
      | negative m => contradiction
      | double x => contradiction
    rw [natural, Numeral.value] at value
    split at value
    · next found =>
      obtain ⟨bare, digits, -⟩ := Numeral.value?_eq_natural_iff.1
        (found.trans (congrArg some (Except.ok.inj value)))
      exact ⟨bare, digits, small⟩
    · contradiction
  · rintro ⟨bare, digits, small⟩
    have value : n.value? = some (.natural v) :=
      Numeral.value?_eq_natural_iff.2 ⟨bare, digits, Nat.lt_of_lt_of_le small bound⟩
    have fits : v < Nat.pow 2 bits := small
    simp only [readNatural, Numeral.value, value, ok_bind, narrow, if_pos fits]

/-! ### Zeros in front -/

namespace Numeral

/-- The shape of numerals, with any digits in front. -/
structure IsShaped (n : Numeral) : Prop where
  whole : n.whole ≠ [] ∧ AreDigits n.whole
  fraction : ∀ ds ∈ n.fraction, ds ≠ [] ∧ AreDigits ds
  exponent : ∀ e ∈ n.exponent, e.digits ≠ [] ∧ AreDigits e.digits

/-- A zero in front of another digit. -/
def HasLeadingZero (n : Numeral) : Prop := ∃ d ds, n.whole = 0 :: d :: ds

theorem IsShaped.isWellFormed {n : Numeral} (h : n.IsShaped) (canonical : ¬ n.HasLeadingZero) :
    n.IsWellFormed := by
  refine ⟨h.whole.2, ?_, h.fraction, h.exponent⟩
  obtain ⟨d, ds, whole⟩ := List.exists_cons_of_ne_nil h.whole.1
  by_cases zero : d = 0
  · subst zero
    cases ds with
    | nil => exact .inl whole
    | cons e ds => exact absurd ⟨e, ds, whole⟩ canonical
  · exact .inr ⟨d, ds, whole, zero⟩

end Numeral

namespace Lexer

theorem run_halted (done : List Token) (bs : List UInt8) :
    run ⟨done, .halted⟩ bs = ⟨done, .halted⟩ := by
  induction bs with
  | nil => rfl
  | cons b bs ih => exact ih

/-- A digit behind a zero in front ends the text. -/
theorem run_of_leadingZero {n : Numeral} (shape : n.IsShaped) (zero : n.HasLeadingZero)
    {bs : List UInt8} (spelled : n.SpelledAs bs) (done : List Token) (rest : List UInt8) :
    run ⟨done, .between⟩ (bs ++ rest) = ⟨.brokenNumber .malformed :: done, .halted⟩ := by
  obtain ⟨d, ds, whole⟩ := zero
  obtain ⟨es, -, rfl⟩ := spelled
  have second : d < 10 := shape.whole.2 d (by simp [whole])
  have broken (negative : Bool) :
      step ⟨done, .number ⟨.zero, ⟨negative, [0], none, none⟩⟩⟩ (digitByte d) =
        ⟨.brokenNumber .malformed :: done, .halted⟩ := by
    simp [step, PartialNumber.next, digit?_digitByte second, halt]
  rw [Text.Utf8.encode_append, Text.Utf8.encode_append, encode_digits shape.whole.2, whole]
  cases n.negative with
  | false =>
    show run (step ⟨done, .number ⟨.zero, ⟨false, [0], none, none⟩⟩⟩ (digitByte d)) _ = _
    rw [broken, run_halted]
  | true =>
    show run (step ⟨done, .number ⟨.zero, ⟨true, [0], none, none⟩⟩⟩ (digitByte d)) _ = _
    rw [broken, run_halted]

end Lexer

end ActualState.Json
