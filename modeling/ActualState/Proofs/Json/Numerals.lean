import ActualState.Json.Printer
import ActualState.Proofs.Decimal.Digits
import ActualState.Proofs.Text.Utf8

/-!
# JSON numerals and back

A numeral that follows the grammar is read digit by digit, in each of its spellings: the exponent
may have its letter in either case, and needs no plus.
-/
namespace ActualState.Json

open Decimal (AreDigits digits)
open Text.Utf8 (byte encode)

/-- The byte of a decimal digit. -/
def digitByte (d : Nat) : UInt8 := byte (0x30 + d)

theorem digit?_digitByte {d : Nat} (h : d < 10) : digit? (digitByte d) = some d := by
  have all : ∀ k : Fin 10, digit? (digitByte k) = some k.val := by decide
  exact all ⟨d, h⟩

theorem encode_digits {ds : List Nat} (h : AreDigits ds) :
    encode (ds.map Nat.digitChar) = ds.map digitByte := by
  have one {d : Nat} (h : d < 10) : encode [Nat.digitChar d] = [digitByte d] := by
    have all : ∀ k : Fin 10, encode [Nat.digitChar k] = [digitByte k] := by decide
    exact all ⟨d, h⟩
  induction ds with
  | nil => rfl
  | cons d ds ih =>
    have first : d < 10 := h d List.mem_cons_self
    have rest : AreDigits ds := fun e he => h e (List.mem_cons_of_mem d he)
    rw [List.map_cons, ← List.singleton_append, Text.Utf8.encode_append, one first, ih rest]
    rfl

namespace Numeral

/-- The grammar of numerals. -/
structure IsWellFormed (n : Numeral) : Prop where
  whole : AreDigits n.whole
  /-- At least one digit, and no zero in front of another digit. -/
  start : n.whole = [0] ∨ ∃ d ds, n.whole = d :: ds ∧ d ≠ 0
  fraction : ∀ ds ∈ n.fraction, ds ≠ [] ∧ AreDigits ds
  exponent : ∀ e ∈ n.exponent, e.digits ≠ [] ∧ AreDigits e.digits

/-- The point and the digits after it. -/
def spellFraction : Option (List Nat) → List Char
  | none => []
  | some ds => '.' :: ds.map Nat.digitChar

/-- The exponent, always with its sign. -/
def spellExponent : Option Exponent → List Char
  | none => []
  | some e => 'e' :: (if e.negative then '-' else '+') :: e.digits.map Nat.digitChar

/-- A numeral as it is written. -/
def spell (n : Numeral) : List Char :=
  (if n.negative then ['-'] else []) ++ n.whole.map Nat.digitChar ++
    spellFraction n.fraction ++ spellExponent n.exponent

/-- The spellings of an exponent. -/
inductive SpelledExponent : Option Exponent → List UInt8 → Prop
  | none : SpelledExponent none []
  | bare {mark : UInt8} (letter : mark = 0x65 ∨ mark = 0x45) (ds : List Nat) :
      SpelledExponent (some ⟨false, ds⟩) (mark :: ds.map digitByte)
  | signed {mark : UInt8} (letter : mark = 0x65 ∨ mark = 0x45) (negative : Bool) (ds : List Nat) :
      SpelledExponent (some ⟨negative, ds⟩)
        (mark :: (if negative then 0x2D else 0x2B) :: ds.map digitByte)

/-- The spellings of a numeral; only its exponent leaves a choice. -/
def SpelledAs (n : Numeral) (bs : List UInt8) : Prop :=
  ∃ es, SpelledExponent n.exponent es ∧
    bs = encode ((if n.negative then ['-'] else []) ++ n.whole.map Nat.digitChar ++
      spellFraction n.fraction) ++ es

theorem spelledAs_spell {n : Numeral} (h : n.IsWellFormed) : n.SpelledAs (encode n.spell) := by
  refine ⟨encode (spellExponent n.exponent), ?_, Text.Utf8.encode_append _ _⟩
  cases exponent : n.exponent with
  | none => exact .none
  | some e =>
    obtain ⟨sign, ds⟩ := e
    have digits := encode_digits (h.exponent ⟨sign, ds⟩ exponent).2
    have bytes : encode (spellExponent (some ⟨sign, ds⟩)) =
        0x65 :: (if sign then 0x2D else 0x2B) :: ds.map digitByte := by
      rw [spellExponent, Text.Utf8.encode_cons, Text.Utf8.encode_cons, digits]
      cases sign <;> rfl
    rw [bytes]
    exact .signed (.inl rfl) sign ds

theorem reverse_reverse (n : Numeral) : n.reverse.reverse = n := by
  obtain ⟨negative, whole, fraction, exponent⟩ := n
  cases fraction <;> cases exponent <;> simp [reverse]

end Numeral

/-! ### Reading -/

/-- Bytes that do not go on with a numeral. -/
def IsDelimiter (b : UInt8) : Prop := digit? b = none ∧ b ≠ 0x2E ∧ b ≠ 0x65 ∧ b ≠ 0x45

/-- What may stand after a numeral. -/
def IsDelimited (rest : List UInt8) : Prop := ∀ b ∈ rest.head?, IsDelimiter b

namespace Lexer

theorem run_more {p q : PartialNumber} {b : UInt8} (next : p.next b = .more q)
    (done : List Token) (rest : List UInt8) :
    run ⟨done, .number p⟩ (b :: rest) = run ⟨done, .number q⟩ rest := by
  simp only [run_cons, step, next]

/-- A run of digits, for a literal that is determined by the digits seen, last one first. -/
theorem run_digits (literal : List Nat → PartialNumber)
    (next : ∀ seen d, d < 10 → (literal seen).next (digitByte d) = .more (literal (d :: seen)))
    {ds : List Nat} (h : AreDigits ds) (seen : List Nat) (done : List Token) (rest : List UInt8) :
    run ⟨done, .number (literal seen)⟩ (ds.map digitByte ++ rest) =
      run ⟨done, .number (literal (ds.reverse ++ seen))⟩ rest := by
  induction ds generalizing seen with
  | nil => rfl
  | cons d ds ih =>
    have more := next seen d (h d List.mem_cons_self)
    rw [List.map_cons, List.cons_append, run_more more,
      ih (fun e he => h e (List.mem_cons_of_mem d he))]
    simp

theorem run_whole {ds : List Nat} (h : AreDigits ds) (negative : Bool) (seen : List Nat)
    (done : List Token) (rest : List UInt8) :
    run ⟨done, .number ⟨.whole, ⟨negative, seen, none, none⟩⟩⟩ (ds.map digitByte ++ rest) =
      run ⟨done, .number ⟨.whole, ⟨negative, ds.reverse ++ seen, none, none⟩⟩⟩ rest :=
  run_digits (fun seen => ⟨.whole, ⟨negative, seen, none, none⟩⟩)
    (fun seen d hd => by simp [PartialNumber.next, digit?_digitByte hd, PartialNumber.addWhole])
    h seen done rest

/-- Phases before an exponent. -/
def IsOpen (phase : NumberPhase) : Prop := phase = .zero ∨ phase = .whole ∨ phase = .fraction

/-- Phases in which a numeral may end. -/
def IsComplete (phase : NumberPhase) : Prop := IsOpen phase ∨ phase = .exponent

/-- The phase after the whole part. -/
def wholePhase (whole : List Nat) : NumberPhase := if whole = [0] then .zero else .whole

theorem begin_digit {d : Nat} (h : d < 10) (nonzero : d ≠ 0) (done : List Token) :
    begin ⟨done, .between⟩ (digitByte d) = ⟨done, .number (.start false .whole [d])⟩ := by
  have all : ∀ k : Fin 10, k.val ≠ 0 → ∀ done,
      begin ⟨done, .between⟩ (digitByte k) = ⟨done, .number (.start false .whole [k.val])⟩ := by
    intro k nonzero done
    match k with
    | 0 => contradiction
    | 1 | 2 | 3 | 4 | 5 | 6 | 7 | 8 | 9 => rfl
  exact all ⟨d, h⟩ nonzero done

/-- The first digit and all that follow. -/
theorem run_start {n : Numeral} (h : n.IsWellFormed) (done : List Token) (rest : List UInt8) :
    run ⟨done, .between⟩
        (encode ((if n.negative then ['-'] else []) ++ n.whole.map Nat.digitChar) ++ rest) =
      run ⟨done, .number ⟨wholePhase n.whole,
        ⟨n.negative, n.whole.reverse, none, none⟩⟩⟩ rest := by
  rw [Text.Utf8.encode_append, encode_digits h.whole, List.append_assoc]
  rcases h.start with zero | ⟨d, ds, whole, nonzero⟩
  · rw [zero]
    cases n.negative <;> rfl
  · have first : d < 10 := h.whole d (by simp [whole])
    have others : AreDigits ds := fun e he => h.whole e (by simp [whole, he])
    have phase : wholePhase (d :: ds) = .whole := if_neg (by simp [nonzero])
    rw [whole, phase, List.reverse_cons, ← run_whole others, List.map_cons, List.cons_append]
    cases n.negative with
    | false => exact congrArg (run · _) (begin_digit first nonzero done)
    | true =>
      obtain ⟨k, rfl⟩ := Nat.exists_eq_succ_of_ne_zero nonzero
      refine run_more (p := .start true .sign []) ?_ done _
      simp [PartialNumber.next, digit?_digitByte first, PartialNumber.addWhole,
        PartialNumber.start]

theorem next_of_complete {p : PartialNumber} (complete : IsComplete p.phase) {b : UInt8}
    (delimiter : IsDelimiter b) : p.next b = .over := by
  obtain ⟨phase, n⟩ := p
  obtain ⟨digit, point, small, large⟩ := delimiter
  rcases complete with (rfl | rfl | rfl) | rfl <;>
    simp [PartialNumber.next, PartialNumber.afterWhole, digit, point, small, large]

/-- The end of a numeral. -/
theorem run_complete {p : PartialNumber} (complete : IsComplete p.phase) {rest : List UInt8}
    (delimited : IsDelimited rest) (done : List Token) :
    (run ⟨done, .number p⟩ rest).finish =
      (run ⟨.number p.numeral.reverse :: done, .between⟩ rest).finish := by
  cases rest with
  | nil =>
    obtain ⟨phase, n⟩ := p
    rcases complete with (rfl | rfl | rfl) | rfl <;> rfl
  | cons b rest =>
    have ended := next_of_complete complete (delimited b rfl)
    simp only [run_cons, step, ended, emit]

/-- The point and the digits after it. -/
theorem run_fraction (whole : List Nat) (negative : Bool) (seen : List Nat)
    {fraction : Option (List Nat)} (h : ∀ ds ∈ fraction, ds ≠ [] ∧ AreDigits ds)
    (done : List Token) (rest : List UInt8) :
    ∃ phase, IsOpen phase ∧
      run ⟨done, .number ⟨wholePhase whole, ⟨negative, seen, none, none⟩⟩⟩
          (encode (Numeral.spellFraction fraction) ++ rest) =
        run ⟨done, .number ⟨phase, ⟨negative, seen, fraction.map List.reverse, none⟩⟩⟩ rest := by
  cases fraction with
  | none =>
    refine ⟨wholePhase whole, ?_, rfl⟩
    unfold wholePhase
    split
    · exact .inl rfl
    · exact .inr (.inl rfl)
  | some ds =>
    obtain ⟨nonempty, written⟩ := h ds rfl
    obtain ⟨d, ds, rfl⟩ := List.exists_cons_of_ne_nil nonempty
    have first : d < 10 := written d List.mem_cons_self
    have others : AreDigits ds := fun e he => written e (List.mem_cons_of_mem d he)
    refine ⟨.fraction, .inr (.inr rfl), ?_⟩
    have point : PartialNumber.next ⟨wholePhase whole, ⟨negative, seen, none, none⟩⟩ 0x2E =
        .more ⟨.point, ⟨negative, seen, some [], none⟩⟩ := by
      unfold wholePhase
      split <;> rfl
    have digit : PartialNumber.next ⟨.point, ⟨negative, seen, some [], none⟩⟩ (digitByte d) =
        .more ⟨.fraction, ⟨negative, seen, some [d], none⟩⟩ := by
      simp [PartialNumber.next, digit?_digitByte first, PartialNumber.addFraction]
    have digits := run_digits
      (fun fs => ⟨.fraction, ⟨negative, seen, some fs, none⟩⟩)
      (fun fs d hd => by
        simp [PartialNumber.next, digit?_digitByte hd, PartialNumber.addFraction])
      others [d] done rest
    rw [Numeral.spellFraction, Text.Utf8.encode_cons, encode_digits written, List.map_cons]
    show run _ (0x2E :: digitByte d :: (ds.map digitByte ++ rest)) = _
    rw [run_more point, run_more digit, digits, Option.map_some, List.reverse_cons]

/-- The exponent, in each of its spellings. -/
theorem run_exponent {phase : NumberPhase} (before : IsOpen phase) (negative : Bool)
    (whole : List Nat) (fraction : Option (List Nat)) {exponent : Option Exponent}
    (h : ∀ e ∈ exponent, e.digits ≠ [] ∧ AreDigits e.digits) {es : List UInt8}
    (spelled : Numeral.SpelledExponent exponent es) (done : List Token) (rest : List UInt8) :
    ∃ phase', IsComplete phase' ∧
      run ⟨done, .number ⟨phase, ⟨negative, whole, fraction, none⟩⟩⟩ (es ++ rest) =
        run ⟨done, .number ⟨phase', ⟨negative, whole, fraction,
          exponent.map fun e => { e with digits := e.digits.reverse }⟩⟩⟩ rest := by
  have letter {mark : UInt8} (letter : mark = 0x65 ∨ mark = 0x45) :
      PartialNumber.next ⟨phase, ⟨negative, whole, fraction, none⟩⟩ mark =
        .more ⟨.mark, ⟨negative, whole, fraction, some ⟨false, []⟩⟩⟩ := by
    rcases letter with rfl | rfl <;> rcases before with rfl | rfl | rfl <;> rfl
  have digits {before : NumberPhase} (first : before = .mark ∨ before = .markSign) (sign : Bool)
      {ds : List Nat} (nonempty : ds ≠ []) (written : AreDigits ds) :
      run ⟨done, .number ⟨before, ⟨negative, whole, fraction, some ⟨sign, []⟩⟩⟩⟩
          (ds.map digitByte ++ rest) =
        run ⟨done, .number ⟨.exponent, ⟨negative, whole, fraction,
          some ⟨sign, ds.reverse⟩⟩⟩⟩ rest := by
    obtain ⟨d, ds, rfl⟩ := List.exists_cons_of_ne_nil nonempty
    have small : d < 10 := written d List.mem_cons_self
    have others : AreDigits ds := fun e he => written e (List.mem_cons_of_mem d he)
    have digit : PartialNumber.next ⟨before, ⟨negative, whole, fraction, some ⟨sign, []⟩⟩⟩
        (digitByte d) = .more ⟨.exponent, ⟨negative, whole, fraction, some ⟨sign, [d]⟩⟩⟩ := by
      rcases first with rfl | rfl <;>
        simp [PartialNumber.next, digit?_digitByte small, PartialNumber.addExponent]
    have run_ := run_digits
      (fun es => ⟨.exponent, ⟨negative, whole, fraction, some ⟨sign, es⟩⟩⟩)
      (fun es d hd => by
        simp [PartialNumber.next, digit?_digitByte hd, PartialNumber.addExponent])
      others [d] done rest
    rw [List.map_cons, List.cons_append, run_more digit, run_, List.reverse_cons]
  cases spelled with
  | none => exact ⟨phase, .inl before, rfl⟩
  | bare mark ds =>
    obtain ⟨nonempty, written⟩ := h ⟨false, ds⟩ rfl
    refine ⟨.exponent, .inr rfl, ?_⟩
    rw [List.cons_append, run_more (letter mark), digits (.inl rfl) false nonempty written]
    rfl
  | signed mark sign ds =>
    obtain ⟨nonempty, written⟩ := h ⟨sign, ds⟩ rfl
    refine ⟨.exponent, .inr rfl, ?_⟩
    have signed : PartialNumber.next ⟨.mark, ⟨negative, whole, fraction, some ⟨false, []⟩⟩⟩
        (if sign then 0x2D else 0x2B) =
        .more ⟨.markSign, ⟨negative, whole, fraction, some ⟨sign, []⟩⟩⟩ := by
      cases sign <;> rfl
    rw [List.cons_append, List.cons_append, run_more (letter mark), run_more signed,
      digits (.inr rfl) sign nonempty written]
    rfl

/-- A numeral that follows the grammar is read digit by digit. -/
theorem run_numeral {n : Numeral} (h : n.IsWellFormed) {bs : List UInt8} (spelled : n.SpelledAs bs)
    {rest : List UInt8} (delimited : IsDelimited rest) (done : List Token) :
    (run ⟨done, .between⟩ (bs ++ rest)).finish =
      (run ⟨.number n :: done, .between⟩ rest).finish := by
  obtain ⟨es, spelled, rfl⟩ := spelled
  rw [Text.Utf8.encode_append, List.append_assoc, List.append_assoc, run_start h]
  obtain ⟨phase, before, fraction⟩ := run_fraction n.whole n.negative n.whole.reverse h.fraction
    done (es ++ rest)
  obtain ⟨phase', complete, exponent⟩ := run_exponent before n.negative n.whole.reverse
    (n.fraction.map List.reverse) h.exponent spelled done rest
  rw [fraction, exponent, run_complete complete delimited]
  show (run ⟨.number n.reverse.reverse :: done, .between⟩ rest).finish = _
  rw [n.reverse_reverse]

end Lexer

end ActualState.Json
