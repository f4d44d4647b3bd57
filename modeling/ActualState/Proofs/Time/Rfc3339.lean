import ActualState.Proofs.Decimal.Digits
import ActualState.Proofs.Time.Calendar
import ActualState.Time.Rfc3339

/-!
# Moments as text and back

A moment that has a text is read back from it: the same instant to the nanosecond, seen from the
same offset.
-/
namespace ActualState.Time

open Decimal (AreDigits digits)

/-! ### Digits -/

theorem digitValue?_digitChar {d : Nat} (h : d < 10) : digitValue? (Nat.digitChar d) = some d := by
  have all : ∀ k : Fin 10, digitValue? (Nat.digitChar k) = some k.val := by decide
  exact all ⟨d, h⟩

/-- A run of digits is read as the natural it spells. -/
theorem readDigits_append {ds : List Nat} (h : AreDigits ds) (acc : Nat) (cs : List Char) :
    readDigits ds.length acc (ds.map Nat.digitChar ++ cs) =
      some (ds.foldl (fun n d => n * 10 + d) acc, cs) := by
  induction ds generalizing acc with
  | nil => rfl
  | cons d ds ih =>
    have first : d < 10 := h d List.mem_cons_self
    have rest : AreDigits ds := fun e he => h e (List.mem_cons_of_mem d he)
    simp only [List.length_cons, List.map_cons, List.cons_append, readDigits,
      digitValue?_digitChar first, List.foldl_cons]
    exact ih rest _

/-- The digits of a natural with zeros in front up to a width. -/
def paddedDigits (width n : Nat) : List Nat :=
  List.replicate (width - (digits n).length) 0 ++ digits n

theorem padded_eq_map (width n : Nat) :
    padded width n = (paddedDigits width n).map Nat.digitChar := by
  simp only [padded, paddedDigits, Decimal.toDigits_eq_map, List.length_map, List.map_append,
    List.map_replicate]
  rfl

theorem areDigits_paddedDigits (width n : Nat) : AreDigits (paddedDigits width n) :=
  (Decimal.areDigits_replicate_zero _).append (Decimal.areDigits_digits n)

theorem foldl_replicate_zero (k : Nat) :
    (List.replicate k 0).foldl (fun n d => n * 10 + d) 0 = 0 := by
  induction k with
  | zero => rfl
  | succ k ih => simpa [List.replicate_succ] using ih

theorem foldl_paddedDigits (width n : Nat) :
    (paddedDigits width n).foldl (fun n d => n * 10 + d) 0 = n := by
  rw [paddedDigits, List.foldl_append, foldl_replicate_zero]
  exact Decimal.ofDigits_digits n

theorem length_paddedDigits {width n : Nat} (pos : 0 < width) (h : n < Nat.pow 10 width) :
    (paddedDigits width n).length = width := by
  have fits := (Decimal.length_digits_le_iff pos).2 h
  rw [paddedDigits, List.length_append, List.length_replicate]
  omega

/-- A padded natural that fits its width is read back. -/
theorem readDigits_padded {width n : Nat} (pos : 0 < width) (h : n < Nat.pow 10 width)
    (cs : List Char) : readDigits width 0 (padded width n ++ cs) = some (n, cs) := by
  have read := readDigits_append (areDigits_paddedDigits width n) 0 cs
  rwa [length_paddedDigits pos h, foldl_paddedDigits, ← padded_eq_map] at read

/-! ### The fraction of a second -/

/-- What digits are worth, where the first one is worth `place`. -/
def weigh : Nat → List Nat → Nat
  | _, [] => 0
  | place, d :: ds => d * place + weigh (place / 10) ds

theorem weigh_replicate_zero (place k : Nat) : weigh place (List.replicate k 0) = 0 := by
  induction k generalizing place with
  | zero => rfl
  | succ k ih => simp [List.replicate_succ, weigh, ih]

/-- Zeros at the end are worth nothing. -/
theorem weigh_append_zeros (place : Nat) (ds : List Nat) (k : Nat) :
    weigh place (ds ++ List.replicate k 0) = weigh place ds := by
  induction ds generalizing place with
  | nil => exact weigh_replicate_zero place k
  | cons d ds ih => simp [weigh, ih]

/-- Digits that fill all places spell what they are worth. -/
theorem foldl_eq_weigh (ds : List Nat) (acc : Nat) :
    ds.foldl (fun n d => n * 10 + d) acc =
      acc * Nat.pow 10 ds.length + weigh (Nat.pow 10 ds.length / 10) ds := by
  induction ds generalizing acc with
  | nil => simp [weigh]
  | cons d ds ih =>
    have place : Nat.pow 10 (d :: ds).length = Nat.pow 10 ds.length * 10 := rfl
    have down : Nat.pow 10 ds.length * 10 / 10 = Nat.pow 10 ds.length :=
      Nat.mul_div_cancel _ (by decide)
    rw [List.foldl_cons, ih, place, weigh, down, Nat.add_mul]
    have assoc : acc * 10 * Nat.pow 10 ds.length = acc * (Nat.pow 10 ds.length * 10) := by
      rw [Nat.mul_assoc, Nat.mul_comm 10]
    omega

/-- What may stand after a run of digits: nothing, or something that is no digit. -/
def EndsDigits (cs : List Char) : Prop := ∀ c ∈ cs.head?, digitValue? c = none

theorem readFractionDigits_append {ds : List Nat} (h : AreDigits ds) (place acc : Nat)
    {cs : List Char} (ends : EndsDigits cs) :
    readFractionDigits place acc (ds.map Nat.digitChar ++ cs) = (acc + weigh place ds, cs) := by
  induction ds generalizing place acc with
  | nil =>
    cases cs with
    | nil => rfl
    | cons c cs =>
      have other : digitValue? c = none := ends c rfl
      simp [readFractionDigits, other, weigh]
  | cons d ds ih =>
    have first : d < 10 := h d List.mem_cons_self
    have rest : AreDigits ds := fun e he => h e (List.mem_cons_of_mem d he)
    simp only [List.map_cons, List.cons_append, readFractionDigits, digitValue?_digitChar first,
      ih rest, weigh, Nat.add_assoc]

/-- What is dropped from the end are zeros. -/
theorem dropTrailingZeros_append (cs : List Char) :
    ∃ k, dropTrailingZeros cs ++ List.replicate k '0' = cs := by
  have zeros : cs.reverse.takeWhile (· == '0') =
      List.replicate (cs.reverse.takeWhile (· == '0')).length '0' := by
    refine List.eq_replicate_of_mem fun c hc => ?_
    have passed := List.all_takeWhile (p := (· == '0')) (l := cs.reverse)
    simpa using List.all_eq_true.1 passed c hc
  refine ⟨(cs.reverse.takeWhile (· == '0')).length, ?_⟩
  rw [dropTrailingZeros, ← List.reverse_replicate, ← zeros, ← List.reverse_append,
    List.takeWhile_append_dropWhile, List.reverse_reverse]

theorem digitChar_eq_zero {d : Nat} (h : d < 10) (zero : Nat.digitChar d = '0') : d = 0 := by
  have all : ∀ k : Fin 10, Nat.digitChar k = '0' → k.val = 0 := by decide
  exact all ⟨d, h⟩ zero

/-- The digits that are left when zeros are dropped from the end, and how many zeros that were. -/
theorem exists_dropTrailingZeros {ds : List Nat} (h : AreDigits ds) :
    ∃ es k, dropTrailingZeros (ds.map Nat.digitChar) = es.map Nat.digitChar ∧
      ds = es ++ List.replicate k 0 := by
  obtain ⟨k, split⟩ := dropTrailingZeros_append (ds.map Nat.digitChar)
  obtain ⟨es, zs, rfl, left, right⟩ := List.map_eq_append_iff.1 split.symm
  refine ⟨es, zs.length, left.symm, ?_⟩
  have zeros : zs = List.replicate zs.length 0 := by
    refine List.eq_replicate_of_mem fun d hd => ?_
    have member : Nat.digitChar d ∈ List.replicate k '0' := right ▸ List.mem_map_of_mem hd
    exact digitChar_eq_zero (h d (List.mem_append_right es hd)) (List.eq_of_mem_replicate member)
  rw [← zeros]

/-- A fraction of a second is read back. -/
theorem readFraction_formatFraction {nanos : Nat} (h : nanos < 1000000000) {cs : List Char}
    (ends : EndsDigits cs) (point : '.' ∉ cs.head?) :
    readFraction (formatFraction nanos ++ cs) = some (nanos, cs) := by
  unfold formatFraction
  by_cases zero : nanos = 0
  · rw [if_pos zero, List.nil_append, zero]
    unfold readFraction
    split
    · exact absurd rfl point
    · exact absurd rfl point
    · rfl
  · have wide : nanos < Nat.pow 10 9 := h
    have written := areDigits_paddedDigits 9 nanos
    obtain ⟨es, k, dropped, split⟩ := exists_dropTrailingZeros written
    have kept : AreDigits es := fun d hd => written d (split ▸ List.mem_append_left _ hd)
    have worth : weigh 100000000 es = nanos := by
      have value := foldl_eq_weigh (paddedDigits 9 nanos) 0
      rw [foldl_paddedDigits, length_paddedDigits (by decide) wide, split,
        weigh_append_zeros] at value
      simpa using value.symm
    rw [if_neg zero, padded_eq_map, dropped, List.cons_append]
    cases es with
    | nil => exact absurd worth.symm zero
    | cons d es =>
      have first : d < 10 := kept d List.mem_cons_self
      have read := readFractionDigits_append kept 100000000 0 ends
      rw [worth, Nat.zero_add] at read
      simp only [List.map_cons, List.cons_append] at read ⊢
      rw [readFraction, digitValue?_digitChar first, Option.isSome_some, if_pos rfl, read]

/-! ### The offset -/

/-- Offsets that have a text: whole minutes below 24 hours. -/
def IsWritten (offset : Int) : Prop := offset.natAbs < 86400 ∧ offset.natAbs % 60 = 0

theorem readOffset_signed {sign : Char} {factor : Int}
    (signed : sign = '+' ∧ factor = 1 ∨ sign = '-' ∧ factor = -1) {h m : Nat} (hour : h < 24)
    (minute : m < 60) :
    readOffset (sign :: padded 2 h ++ ':' :: padded 2 m) =
      some (factor * (h * 3600 + m * 60)) := by
  have wideHour : h < Nat.pow 10 2 := Nat.lt_trans hour (by decide)
  have wideMinute : m < Nat.pow 10 2 := Nat.lt_trans minute (by decide)
  have readHour := readDigits_padded (by decide) wideHour (':' :: padded 2 m)
  have readMinute := readDigits_padded (by decide) wideMinute []
  rw [List.append_nil] at readMinute
  rw [List.cons_append]
  rcases signed with ⟨rfl, rfl⟩ | ⟨rfl, rfl⟩ <;>
    simp [readOffset, readHour, readChar, readMinute, hour, minute]

theorem readOffset_formatOffset {offset : Int} (h : IsWritten offset) :
    readOffset (formatOffset offset) = some offset := by
  obtain ⟨short, whole⟩ := h
  have hour : offset.natAbs / 60 / 60 < 24 := by omega
  have minute : offset.natAbs / 60 % 60 < 60 := Nat.mod_lt _ (by decide)
  unfold formatOffset
  by_cases zero : offset = 0
  · rw [if_pos zero, zero]
    rfl
  · rw [if_neg zero]
    by_cases negative : offset < 0
    · simp only [if_pos negative]
      rw [readOffset_signed (.inr ⟨rfl, rfl⟩) hour minute]
      congr 1
      omega
    · simp only [if_neg negative]
      rw [readOffset_signed (.inl ⟨rfl, rfl⟩) hour minute]
      congr 1
      omega

theorem head_formatOffset (offset : Int) :
    ∃ c cs, formatOffset offset = c :: cs ∧ (c = 'Z' ∨ c = '-' ∨ c = '+') := by
  unfold formatOffset
  split
  · exact ⟨'Z', [], rfl, .inl rfl⟩
  · split
    · exact ⟨'-', _, rfl, .inr (.inl rfl)⟩
    · exact ⟨'+', _, rfl, .inr (.inr rfl)⟩

theorem endsDigits_formatOffset (offset : Int) :
    EndsDigits (formatOffset offset) ∧ '.' ∉ (formatOffset offset).head? := by
  obtain ⟨c, cs, head, first⟩ := head_formatOffset offset
  rw [head]
  rcases first with rfl | rfl | rfl
  · exact ⟨fun c hc => by cases hc; decide, by simp⟩
  · exact ⟨fun c hc => by cases hc; decide, by simp⟩
  · exact ⟨fun c hc => by cases hc; decide, by simp⟩

/-! ### Moments -/

namespace Moment

theorem timeOfDay_lt (m : Moment) : m.timeOfDay < 86400 * 1000000000 := by
  unfold timeOfDay dayLength
  omega

/-- A moment by its local date, its time of day and its offset. -/
theorem eq_of_parts (m : Moment) :
    m = ⟨m.date.toDays * dayLength + m.timeOfDay - m.offset * 1000000000, m.offset⟩ := by
  obtain ⟨instant, offset⟩ := m
  simp only [date, Date.toDays_ofDays, timeOfDay, localTime, mk.injEq, and_true]
  unfold dayLength
  omega

/-- A text is read part by part. -/
theorem parse?_parts {year month day hour minute sec nanos : Nat} {offset : Int}
    (yearWide : year < 10000) (monthWide : month < 100) (dayWide : day < 100)
    (valid : (Date.mk year month day).isValid = true) (hourShort : hour < 24)
    (minuteShort : minute < 60) (secShort : sec < 60) (nanosShort : nanos < 1000000000)
    (written : IsWritten offset) :
    parse? (String.ofList (padded 4 year ++ '-' :: padded 2 month ++ '-' :: padded 2 day ++
        'T' :: padded 2 hour ++ ':' :: padded 2 minute ++ ':' :: padded 2 sec ++
        formatFraction nanos ++ formatOffset offset)) =
      some ⟨(Date.mk year month day).toDays * dayLength +
        ((hour * 3600 + minute * 60 + sec) * 1000000000 + nanos : Nat) - offset * 1000000000,
        offset⟩ := by
  obtain ⟨ends, point⟩ := endsDigits_formatOffset offset
  have two {n : Nat} (h : n < 100) (cs : List Char) :
      readDigits 2 0 (padded 2 n ++ cs) = some (n, cs) := readDigits_padded (by decide) h cs
  have four (cs : List Char) : readDigits 4 0 (padded 4 year ++ cs) = some (year, cs) :=
    readDigits_padded (by decide) yearWide cs
  have next {α β : Type} (a : α) (f : α → Option β) : (some a >>= f) = f a := rfl
  have noLeap : sec ≠ 60 := by omega
  simp only [parse?, String.toList_ofList, List.append_assoc, List.cons_append, four, readChar,
    two monthWide, two dayWide, two (Nat.lt_trans hourShort (by decide : 24 < 100)),
    two (Nat.lt_trans minuteShort (by decide : 60 < 100)),
    two (Nat.lt_trans secShort (by decide : 60 < 100)),
    readFraction_formatFraction nanosShort ends point, readOffset_formatOffset written, valid, next,
    if_true]
  simp [minuteShort, noLeap, Nat.not_le.2 hourShort]
  exact ⟨by decide, Nat.lt_trans secShort (by decide)⟩

/-- What has a text is read back from it. -/
theorem parse?_format {m : Moment} {text : String} (written : m.format = .ok text) :
    parse? text = some m := by
  have ofDay := m.timeOfDay_lt
  have valid : m.date.isValid = true := Date.isValid_ofDays _
  obtain ⟨month, day⟩ := Date.le_of_isValid valid
  unfold format at written
  simp only [] at written
  split at written
  · contradiction
  · next inYears =>
    split at written
    · contradiction
    · next short =>
      split at written
      · contradiction
      · next whole =>
        simp only [Bool.or_eq_true, decide_eq_true_eq, not_or] at inYears
        have year : ((m.date.year.toNat : Nat) : Int) = m.date.year := by omega
        have offset : IsWritten m.offset := ⟨by omega, by omega⟩
        have date : Date.mk m.date.year.toNat m.date.month m.date.day = m.date := by rw [year]
        have time : (m.timeOfDay / 1000000000 / 3600 * 3600 +
            m.timeOfDay / 1000000000 / 60 % 60 * 60 + m.timeOfDay / 1000000000 % 60) *
              1000000000 + m.timeOfDay % 1000000000 = m.timeOfDay := by omega
        rw [← Except.ok.inj written, parse?_parts (by omega) (by omega) (by omega)
          (date ▸ valid) (by omega) (by omega) (by omega) (by omega) offset, date, time]
        exact congrArg some m.eq_of_parts.symm

end Moment

end ActualState.Time
