import ActualState.Proofs.Decimal.Recovery
import ActualState.Proofs.Json.Numerals

/-!
# JSON numbers and back

A number is written as a numeral. An integer is read back from it; a double is read as a double,
though not always as the same one.
-/
namespace ActualState

/-- The significand and the exponent that the text of a decimal is read with. -/
def Decimal.Digits.asRead (d : Digits) : Digits :=
  if 0 ≤ d.exponent ∧ (digits d.significand).length + d.exponent ≤ 16 then
    ⟨d.significand * Nat.pow 10 (d.exponent.toNat + 1), -1⟩
  else d

namespace Json

open Decimal (AreDigits digits scaled Binary Digits)

/-! ### The numerals that are written -/

/-- Digits around a point that stands after `position` of them. -/
def positionalNumeral (negative : Bool) (ds : List Nat) (position : Int) : Numeral :=
  if position ≤ 0 then ⟨negative, [0], some (List.replicate (-position).toNat 0 ++ ds), none⟩
  else if ds.length ≤ position.toNat then
    ⟨negative, ds ++ List.replicate (position.toNat - ds.length) 0, some [0], none⟩
  else ⟨negative, ds.take position.toNat, some (ds.drop position.toNat), none⟩

/-- One digit before the point, and an exponent. -/
def scientificNumeral (negative : Bool) (d : Nat) (ds : List Nat) (position : Int) : Numeral :=
  ⟨negative, [d], if ds = [] then none else some ds,
    some ⟨decide (position - 1 < 0), digits (position - 1).natAbs⟩⟩

/-- The numeral of a decimal. -/
def decimalNumeral (negative : Bool) (d : Digits) : Numeral :=
  if d.significand = 0 then ⟨negative, [0], some [0], none⟩
  else
    let ds := digits d.significand
    let position := ds.length + d.exponent
    if Decimal.jsonStyle.isPositional position then positionalNumeral negative ds position
    else scientificNumeral negative (ds.headD 0) ds.tail position

/-- Whether the sign bit of a double is set. -/
def isSigned (x : Float) : Bool := decide (9223372036854775808 ≤ x.toBits.toNat)

/-- The numeral that is written for a number. -/
def Number.numeral : Number → Numeral
  | .natural n => ⟨false, digits n, none, none⟩
  | .negative n => ⟨true, digits n, none, none⟩
  | .double x => decimalNumeral (isSigned x) (Binary.ofBits x.toBits.toNat).shortest

/-- Whether a number is written as a numeral. -/
def Number.isWritten : Number → Bool
  | .natural _ | .negative _ => true
  | .double x => x.isFinite

theorem isFinite_iff (x : Float) : x.isFinite = true ↔ x.isNaN = false ∧ x.isInf = false := by
  show x.toModel.unpack.isFinite = true ↔
    x.toModel.unpack.isNaN = false ∧ x.toModel.unpack.isInf = false
  cases x.toModel.unpack <;>
    simp [Float.Model.UnpackedFloat.isFinite, Float.Model.UnpackedFloat.isNaN,
      Float.Model.UnpackedFloat.isInf]

theorem zeros_eq (n : Nat) : Decimal.zeros n = (List.replicate n 0).map Nat.digitChar := by
  rw [List.map_replicate]
  rfl

theorem spell_positionalNumeral (negative : Bool) (ds : List Nat) (position : Int) :
    (positionalNumeral negative ds position).spell =
      (if negative then ['-'] else []) ++
        Decimal.jsonStyle.positional (ds.map Nat.digitChar) position := by
  unfold positionalNumeral Decimal.Style.positional
  rw [List.length_map]
  split
  · simp [Numeral.spell, Numeral.spellFraction, Numeral.spellExponent, zeros_eq]
  · split
    · simp [Numeral.spell, Numeral.spellFraction, Numeral.spellExponent, zeros_eq,
        Decimal.jsonStyle]
    · simp [Numeral.spell, Numeral.spellFraction, Numeral.spellExponent]

theorem spell_scientificNumeral (negative : Bool) (d : Nat) (ds : List Nat) (position : Int) :
    (scientificNumeral negative d ds position).spell =
      (if negative then ['-'] else []) ++
        Decimal.Style.scientific ((d :: ds).map Nat.digitChar) position := by
  unfold scientificNumeral Decimal.Style.scientific
  cases ds with
  | nil =>
    simp [Numeral.spell, Numeral.spellFraction, Numeral.spellExponent, Decimal.toDigits_eq_map]
  | cons e es =>
    simp [Numeral.spell, Numeral.spellFraction, Numeral.spellExponent, Decimal.toDigits_eq_map]

theorem spell_decimalNumeral (negative : Bool) (d : Digits) :
    (decimalNumeral negative d).spell =
      (if negative then ['-'] else []) ++ Decimal.jsonStyle.layOut d := by
  unfold decimalNumeral Decimal.Style.layOut
  split
  · cases negative <;> rfl
  · obtain ⟨e, es, head⟩ := List.exists_cons_of_ne_nil (Decimal.digits_ne_nil d.significand)
    simp only [Decimal.toDigits_eq_map, List.length_map]
    split
    · rw [spell_positionalNumeral]
    · rw [head, List.headD_cons, List.tail_cons, spell_scientificNumeral]

theorem printNumber_eq {n : Number} (h : n.isWritten = true) :
    printNumber n = n.numeral.spell := by
  cases n with
  | natural n =>
    simp [printNumber, Number.numeral, Numeral.spell, Numeral.spellFraction,
      Numeral.spellExponent, Decimal.toDigits_eq_map]
  | negative n =>
    simp [printNumber, Number.numeral, Numeral.spell, Numeral.spellFraction,
      Numeral.spellExponent, Decimal.toDigits_eq_map]
  | double x =>
    obtain ⟨notNaN, notInf⟩ := (isFinite_iff x).1 h
    rw [Number.numeral, spell_decimalNumeral, printNumber, Decimal.Style.write]
    simp only [notNaN, notInf, Bool.false_eq_true, if_false]
    show (String.ofList (if isSigned x = true then _ else _)).toList = _
    cases isSigned x <;> simp

/-- What is no number is written as `null`. -/
theorem printNumber_of_not_isWritten {n : Number} (h : n.isWritten = false) :
    printNumber n = ['n', 'u', 'l', 'l'] := by
  cases n with
  | natural n => contradiction
  | negative n => contradiction
  | double x =>
    have other : ¬ (x.isNaN = false ∧ x.isInf = false) := fun both =>
      Bool.false_ne_true (h.symm.trans ((isFinite_iff x).2 both))
    have null : "null".toList = ['n', 'u', 'l', 'l'] := by decide
    rw [printNumber, Decimal.Style.write]
    cases nan : x.isNaN with
    | true => exact null
    | false =>
      have inf : x.isInf = true := by
        cases inf : x.isInf with
        | true => rfl
        | false => exact absurd ⟨nan, inf⟩ other
      simp only [inf, Bool.false_eq_true, if_false, if_true]
      split <;> exact null

theorem isWellFormed_of_fraction (negative : Bool) {whole fraction : List Nat}
    (hw : AreDigits whole) (start : whole = [0] ∨ ∃ d ds, whole = d :: ds ∧ d ≠ 0)
    (nonempty : fraction ≠ []) (hf : AreDigits fraction) :
    (Numeral.mk negative whole (some fraction) none).IsWellFormed where
  whole := hw
  start := start
  fraction ds hds := by
    obtain rfl := Option.some.inj hds
    exact ⟨nonempty, hf⟩
  exponent e he := by cases he

theorem isWellFormed_positionalNumeral (negative : Bool) {d : Nat} {ds : List Nat}
    (h : AreDigits (d :: ds)) (nonzero : d ≠ 0) (position : Int) :
    (positionalNumeral negative (d :: ds) position).IsWellFormed := by
  unfold positionalNumeral
  split
  · exact isWellFormed_of_fraction negative (by simp [AreDigits]) (.inl rfl) (by simp)
      ((Decimal.areDigits_replicate_zero _).append h)
  · next pos =>
    split
    · exact isWellFormed_of_fraction negative (h.append (Decimal.areDigits_replicate_zero _))
        (.inr ⟨d, _, rfl, nonzero⟩) (by simp) (by simp [AreDigits])
    · next inside =>
      obtain ⟨k, hk⟩ : ∃ k, position.toNat = k + 1 := ⟨position.toNat - 1, by omega⟩
      rw [hk] at inside ⊢
      exact isWellFormed_of_fraction negative (fun e he => h e (List.mem_of_mem_take he))
        (.inr ⟨d, _, rfl, nonzero⟩) (by simpa using inside)
        fun e he => h e (List.mem_of_mem_drop he)

theorem isWellFormed_scientificNumeral (negative : Bool) {d : Nat} {ds : List Nat}
    (h : AreDigits (d :: ds)) (nonzero : d ≠ 0) (position : Int) :
    (scientificNumeral negative d ds position).IsWellFormed := by
  have first : d < 10 := h d List.mem_cons_self
  refine ⟨by simpa [scientificNumeral, AreDigits] using first, .inr ⟨d, [], rfl, nonzero⟩, ?_, ?_⟩
  · intro es written
    cases ds with
    | nil => simp [scientificNumeral] at written
    | cons e ds =>
      obtain ⟨⟩ := written
      exact ⟨by simp, fun f hf => h f (List.mem_cons_of_mem d hf)⟩
  · rintro _ ⟨⟩
    exact ⟨Decimal.digits_ne_nil _, Decimal.areDigits_digits _⟩

theorem isWellFormed_decimalNumeral (negative : Bool) (d : Digits) :
    (decimalNumeral negative d).IsWellFormed := by
  unfold decimalNumeral
  split
  · exact isWellFormed_of_fraction negative (by simp [AreDigits]) (.inl rfl) (by simp)
      (by simp [AreDigits])
  · next nonzero =>
    obtain ⟨e, es, head, first⟩ := Decimal.head_digits (Nat.pos_of_ne_zero nonzero)
    have written := Decimal.areDigits_digits d.significand
    rw [head] at written
    simp only [head, List.headD_cons, List.tail_cons]
    split
    · exact isWellFormed_positionalNumeral negative written first.ne' _
    · exact isWellFormed_scientificNumeral negative written first.ne' _

theorem start_digits (n : Nat) :
    digits n = [0] ∨ ∃ d ds, digits n = d :: ds ∧ d ≠ 0 := by
  rcases Nat.eq_zero_or_pos n with rfl | pos
  · exact .inl (by rw [digits, if_pos (by decide)])
  · obtain ⟨d, ds, head, first⟩ := Decimal.head_digits pos
    exact .inr ⟨d, ds, head, first.ne'⟩

theorem isWellFormed_numeral (n : Number) : n.numeral.IsWellFormed := by
  cases n with
  | natural n => exact ⟨Decimal.areDigits_digits n, start_digits n, nofun, nofun⟩
  | negative n => exact ⟨Decimal.areDigits_digits n, start_digits n, nofun, nofun⟩
  | double x => exact isWellFormed_decimalNumeral _ _

/-! ### Their values -/

theorem le_foldl (ds : List Nat) (s : Nat) : s ≤ ds.foldl (fun n d => n * 10 + d) s := by
  induction ds generalizing s with
  | nil => exact Nat.le_refl s
  | cons d ds ih => exact Nat.le_trans (by omega) (ih (s * 10 + d))

/-- Digits that fit are all gathered. -/
theorem gather_of_lt {ds : List Nat} {s : Nat}
    (h : ds.foldl (fun n d => n * 10 + d) s < 18446744073709551616) :
    gather s ds = (ds.foldl (fun n d => n * 10 + d) s, 0) := by
  induction ds generalizing s with
  | nil => rfl
  | cons d ds ih =>
    rw [gather, if_pos (Nat.lt_of_le_of_lt (le_foldl ds _) h)]
    exact ih h

theorem gather_digits {n : Nat} (h : n < 18446744073709551616) : gather 0 (digits n) = (n, 0) := by
  have spelled : (digits n).foldl (fun n d => n * 10 + d) 0 = n := Decimal.ofDigits_digits n
  rw [gather_of_lt (spelled.symm ▸ h), spelled]

/-- An integer that fits is read back. -/
theorem value?_natural {n : Nat} (h : n < 18446744073709551616) :
    (Number.natural n).numeral.value? = some (.natural n) := by
  simp [Number.numeral, Numeral.value?, gather_digits h, Numeral.integer]

/-- A value with its sign. -/
def signed (negative : Bool) (x : Float) : Float := if negative then -x else x

theorem isFinite_signed (negative : Bool) {x : Float} (h : x.isFinite = true) :
    (signed negative x).isFinite = true := by
  cases negative
  · exact h
  · exact Decimal.isFinite_neg h

theorem isFinite_double {negative : Bool} {significand : Nat} {start : Int}
    {e : Option Exponent} {x : Float}
    (h : Numeral.double negative significand start e = some x) : x.isFinite = true := by
  have finite {exponent : Int} {x : Float} (h : (Decimal.scaled significand exponent).map
      (signed negative) = some x) : x.isFinite = true := by
    obtain ⟨y, read, rfl⟩ := Option.map_eq_some_iff.1 h
    exact isFinite_signed negative (Decimal.isFinite_scaled read)
  have zero : (0.0 : Float).isFinite = true := by decide +kernel
  unfold Numeral.double at h
  simp only [] at h
  split at h
  · exact finite h
  · split at h
    · exact finite h
    · split at h
      · contradiction
      · rw [← Option.some.inj h]
        exact isFinite_signed negative zero

/-- Everything that has a value is a number. -/
theorem isFinite_value {n : Numeral} {v : Number} (h : n.value? = some v) :
    v.toDouble.isFinite = true := by
  unfold Numeral.value? at h
  simp only [] at h
  split at h
  · rw [← Option.some.inj h, Numeral.integer]
    split
    · exact Decimal.isFinite_ofNatural _
    · split <;> exact Decimal.isFinite_neg (Decimal.isFinite_ofNatural _)
  · obtain ⟨x, read, rfl⟩ := Option.map_eq_some_iff.1 h
    exact isFinite_double read

/-! ### Reading what is written -/

theorem ofDigits_append_zeros (ds : List Nat) (n : Nat) :
    ofDigits (ds ++ List.replicate n 0) = ofDigits ds * 10 ^ n := by
  induction n with
  | zero => simp
  | succ n ih =>
    rw [List.replicate_succ', ← List.append_assoc, ofDigits, List.foldl_append]
    show ofDigits (ds ++ List.replicate n 0) * 10 + 0 = _
    rw [ih, Nat.pow_succ, Nat.mul_assoc, Nat.add_zero]

theorem ofDigits_zeros_append (ds : List Nat) (n : Nat) :
    ofDigits (List.replicate n 0 ++ ds) = ofDigits ds := by
  have zeros : (List.replicate n 0).foldl (fun n d => n * 10 + d) 0 = 0 := by
    simpa [ofDigits] using ofDigits_append_zeros [] n
  rw [ofDigits, List.foldl_append, zeros, ofDigits]

/-- A numeral whose digits all fit is read with all of them. -/
theorem value?_of_fits {n : Numeral} {significand : Nat}
    (point : n.fraction.isSome ∨ n.exponent.isSome)
    (gathered : ofDigits (n.whole ++ n.fraction.getD []) = significand)
    (fits : significand < 18446744073709551616) :
    n.value? = (Numeral.double n.negative significand (-((n.fraction.getD []).length : Int))
      n.exponent).map .double := by
  have split : (n.fraction.getD []).foldl (fun n d => n * 10 + d) (ofDigits n.whole) =
      significand := by
    rw [← gathered, ofDigits, ofDigits, List.foldl_append]
  have whole : ofDigits n.whole < 18446744073709551616 :=
    Nat.lt_of_le_of_lt (split ▸ le_foldl _ _) fits
  have gatheredWhole : gather 0 n.whole = (ofDigits n.whole, 0) := gather_of_lt whole
  have noInteger : (n.fraction.isNone && n.exponent.isNone) = false := by
    rcases point with point | point <;> simp [Option.isNone_eq_false_iff.2 point]
  unfold Numeral.value?
  rw [gatheredWhole]
  simp only [decide_true, Bool.true_and, noInteger, Int.natCast_zero, Int.zero_sub,
    Bool.false_eq_true, if_false, gather_of_lt (split.symm ▸ fits), split, Nat.sub_zero]

theorem double_none (negative : Bool) (significand : Nat) (start : Int) :
    Numeral.double negative significand start none =
      (scaled significand start).map (signed negative) := rfl

theorem double_some (negative : Bool) (significand : Nat) (start : Int) {e : Exponent}
    (h : ofDigits e.digits < exponentLimit) :
    Numeral.double negative significand start (some e) =
      (scaled significand (if e.negative then start - ofDigits e.digits
        else start + ofDigits e.digits)).map (signed negative) := by
  unfold Numeral.double
  simp only [if_pos h]
  rfl

variable (negative : Bool) {d : Digits}

theorem value?_positionalNumeral_eq
    (near : ((digits d.significand).length : Int) + d.exponent ≤ 16)
    (fits : d.asRead.significand < 18446744073709551616) :
    (positionalNumeral negative (digits d.significand)
        ((digits d.significand).length + d.exponent)).value? =
      ((scaled d.asRead.significand d.asRead.exponent).map (signed negative)).map .double := by
  have spelled := Decimal.ofDigits_digits d.significand
  have some_ := List.length_pos_of_ne_nil (Decimal.digits_ne_nil d.significand)
  unfold Digits.asRead at fits ⊢
  generalize digits d.significand = ds at *
  unfold positionalNumeral
  split
  · next small =>
    rw [if_neg (by omega)] at fits ⊢
    have gathered : ofDigits ([0] ++ (List.replicate (-(ds.length + d.exponent)).toNat 0 ++ ds)) =
        d.significand := by
      rw [← List.append_assoc]
      exact (ofDigits_zeros_append ds (_ + 1)).trans spelled
    rw [value?_of_fits (.inl rfl) gathered fits, double_none]
    congr 3
    show -((List.replicate _ 0 ++ ds).length : Int) = _
    rw [List.length_append, List.length_replicate]
    omega
  · next large =>
    split
    · next whole =>
      rw [if_pos ⟨by omega, near⟩] at fits ⊢
      have zeros : ((ds.length : Int) + d.exponent).toNat - ds.length = d.exponent.toNat := by omega
      have gathered : ofDigits (ds ++ List.replicate d.exponent.toNat 0 ++ [0]) =
          d.significand * Nat.pow 10 (d.exponent.toNat + 1) := by
        rw [List.append_assoc, ← List.replicate_succ', ofDigits_append_zeros, spelled]
        rfl
      rw [zeros, value?_of_fits (.inl rfl) gathered fits, double_none]
      rfl
    · next inside =>
      rw [if_neg (by omega)] at fits ⊢
      have gathered : ofDigits (ds.take ((ds.length : Int) + d.exponent).toNat ++
          ds.drop ((ds.length : Int) + d.exponent).toNat) = d.significand := by
        rw [List.take_append_drop, spelled]
      rw [value?_of_fits (.inl rfl) gathered fits, double_none]
      congr 3
      show -((ds.drop _).length : Int) = _
      rw [List.length_drop]
      omega

theorem value?_scientificNumeral_eq {e : Nat} {es : List Nat}
    (spelled : digits d.significand = e :: es) (fits : d.significand < 18446744073709551616)
    (near : (((e :: es).length : Int) + d.exponent - 1).natAbs < exponentLimit) :
    (scientificNumeral negative e es ((e :: es).length + d.exponent)).value? =
      ((scaled d.significand d.exponent).map (signed negative)).map .double := by
  have fraction : (if es = [] then none else some es).getD [] = es := by
    split
    · next none => rw [none]; rfl
    · rfl
  have gathered : ofDigits ([e] ++ (if es = [] then none else some es).getD []) =
      d.significand := by
    rw [fraction, List.singleton_append, ← spelled, Decimal.ofDigits_digits]
  unfold scientificNumeral
  rw [value?_of_fits (.inr rfl) gathered fits, double_some _ _ _ (by simpa using near), fraction]
  simp only [Decimal.ofDigits_digits, List.length_cons]
  congr 3
  split
  · next below =>
    have := of_decide_eq_true below
    omega
  · next above =>
    have := of_decide_eq_false (Bool.not_eq_true _ ▸ above)
    omega

/-- What a decimal that is written with a point or an exponent is read as. -/
theorem value?_decimalNumeral (pos : 0 < d.significand)
    (fits : d.asRead.significand < 18446744073709551616)
    (near : (((digits d.significand).length : Int) + d.exponent - 1).natAbs < exponentLimit) :
    (decimalNumeral negative d).value? =
      ((scaled d.asRead.significand d.asRead.exponent).map (signed negative)).map .double := by
  have layout (position : Int) : Decimal.jsonStyle.isPositional position = true ↔
      -4 ≤ position ∧ position ≤ 16 := by
    simp [Decimal.Style.isPositional, Decimal.jsonStyle]
  unfold decimalNumeral
  rw [if_neg pos.ne']
  simp only [layout]
  split
  · next inside => exact value?_positionalNumeral_eq negative inside.2 fits
  · next outside =>
    have some_ := List.length_pos_of_ne_nil (Decimal.digits_ne_nil d.significand)
    have asRead : d.asRead = d := if_neg (by omega)
    obtain ⟨e, es, spelled, -⟩ := Decimal.head_digits pos
    rw [asRead] at fits ⊢
    simp only [spelled, List.headD_cons, List.tail_cons] at near ⊢
    exact value?_scientificNumeral_eq negative spelled fits near

theorem asRead_pos (pos : 0 < d.significand) : 0 < d.asRead.significand := by
  unfold Digits.asRead
  split
  · exact Nat.mul_pos pos (Nat.pow_pos (by decide))
  · exact pos

theorem asRead_zero : (⟨0, 0⟩ : Digits).asRead = ⟨0, -1⟩ := by decide +kernel

theorem value_asRead (d : Digits) : d.asRead.value = d.value := by
  unfold Digits.asRead
  split
  · next whole =>
    obtain ⟨n, exponent⟩ := Int.eq_ofNat_of_zero_le whole.1
    have cast : ((d.significand * Nat.pow 10 (d.exponent.toNat + 1) : Nat) : ℚ) =
        d.significand * 10 ^ (d.exponent.toNat + 1) := by
      rw [Nat.cast_mul]
      exact congrArg _ (Nat.cast_pow 10 _)
    rw [Digits.value, Digits.value, cast, exponent, Int.toNat_natCast, zpow_natCast, pow_succ,
      zpow_neg_one, mul_assoc, mul_assoc, mul_inv_cancel₀ (by norm_num), mul_one]
  · rfl

variable {b : Binary}

theorem asRead_lt (pos : 0 < b.m) : b.shortest.asRead.significand < 18446744073709551616 := by
  have few := Decimal.significand_shortest_le pos
  unfold Digits.asRead
  split
  · next whole =>
    calc b.shortest.significand * Nat.pow 10 (b.shortest.exponent.toNat + 1)
        < 10 ^ (digits b.shortest.significand).length * 10 ^ (b.shortest.exponent.toNat + 1) :=
          Nat.mul_lt_mul_of_pos_right (Decimal.lt_pow_length _) (Nat.pow_pos (by decide))
      _ = 10 ^ ((digits b.shortest.significand).length + (b.shortest.exponent.toNat + 1)) :=
          (Nat.pow_add _ _ _).symm
      _ ≤ 10 ^ 17 := Nat.pow_le_pow_right (by decide) (by omega)
      _ < 18446744073709551616 := by decide
  · exact Nat.lt_of_le_of_lt few (by decide)

theorem exponent_asRead_bounds (pos : 0 < b.m) (double : b.IsDouble) :
    -616 ≤ b.shortest.asRead.exponent ∧ b.shortest.asRead.exponent ≤ 308 := by
  unfold Digits.asRead
  split
  · exact ⟨show (-616 : Int) ≤ -1 by decide, show (-1 : Int) ≤ 308 by decide⟩
  · exact Binary.exponent_shortest_bounds pos double

/-- A double is read as its digits, scaled, with its sign. -/
theorem value?_numeral_double {x : Float} (h : x.isFinite = true) :
    (Number.double x).numeral.value? =
      ((scaled (Binary.ofBits x.toBits.toNat).shortest.asRead.significand
        (Binary.ofBits x.toBits.toNat).shortest.asRead.exponent).map
          (signed (isSigned x))).map .double := by
  have double := Decimal.isDouble_ofBits h
  rw [Number.numeral]
  generalize Binary.ofBits x.toBits.toNat = b at *
  rcases Nat.eq_zero_or_pos b.m with zero | pos
  · have shortest : b.shortest = ⟨0, 0⟩ := if_pos zero
    have zeros : decimalNumeral (isSigned x) ⟨0, 0⟩ = ⟨isSigned x, [0], some [0], none⟩ := rfl
    rw [shortest, zeros, asRead_zero, value?_of_fits (.inl rfl) rfl (show 0 < _ by decide)]
    rfl
  · have significand := Binary.significand_shortest_pos pos double.short
    have exponent := Binary.exponent_shortest_bounds pos double
    have length : (digits b.shortest.significand).length ≤ 19 :=
      (Decimal.length_digits_le_iff (by decide)).2
        (Nat.lt_of_le_of_lt (Decimal.significand_shortest_le pos) (by decide))
    exact value?_decimalNumeral _ significand (asRead_lt pos) (by unfold exponentLimit; omega)

theorem isSome_scaled_asRead (double : b.IsDouble) :
    (scaled b.shortest.asRead.significand b.shortest.asRead.exponent).isSome = true := by
  rcases Nat.eq_zero_or_pos b.m with zero | pos
  · have shortest : b.shortest = ⟨0, 0⟩ := if_pos zero
    rw [shortest, asRead_zero]
    decide +kernel
  · by_cases down : b.shortest.asRead.exponent < 0
    · exact Decimal.scaled_of_neg down
    · have asRead : b.shortest.asRead = b.shortest := by
        unfold Digits.asRead at down ⊢
        split at down
        · exact absurd (show (-1 : Int) < 0 by decide) down
        · next large => exact if_neg large
      rw [asRead] at down ⊢
      obtain ⟨e, exponent⟩ := Int.eq_ofNat_of_zero_le (Int.not_lt.1 down)
      rw [exponent]
      exact (Decimal.scaled_shortest pos double.short double.fits exponent
        (Binary.significand_shortest_pos pos double.short)).2

/-- A double that is a number has a value when it is read. -/
theorem value?_double {x : Float} (h : x.isFinite = true) :
    (Number.double x).numeral.value?.isSome = true := by
  rw [value?_numeral_double h, Option.isSome_map, Option.isSome_map]
  exact isSome_scaled_asRead (Decimal.isDouble_ofBits h)

end Json

end ActualState
