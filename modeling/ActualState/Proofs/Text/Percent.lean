import ActualState.Proofs.Text.Utf8
import ActualState.Text.Percent

/-!
# Percent-encoding and back

Encoded bytes decode to the bytes they stand for, and are made up of letters, digits, `-._~` and
percent signs only, so that they can stand as one segment of a path.
-/
namespace ActualState.Text.Percent

theorem hexDigit?_hexDigit {n : Nat} (h : n < 16) : hexDigit? (hexDigit n) = some n := by
  have all : ∀ k : Fin 16, hexDigit? (hexDigit k) = some k.val := by decide
  exact all ⟨n, h⟩

theorem isUnreserved_hexDigit {n : Nat} (h : n < 16) : isUnreserved (hexDigit n) = true := by
  have all : ∀ k : Fin 16, isUnreserved (hexDigit k) = true := by decide
  exact all ⟨n, h⟩

/-- A byte other than the percent sign stands for itself. -/
theorem decode_cons_of_ne {b : UInt8} (h : b ≠ 0x25) (bs : List UInt8) :
    decode (b :: bs) = b :: decode bs := by
  match bs with
  | [] => rfl
  | [_] => rfl
  | _ :: _ :: _ => rw [decode, if_neg h]

theorem decode_hexDigits (b : UInt8) (bs : List UInt8) :
    decode (0x25 :: hexDigit (b.toNat / 16) :: hexDigit (b.toNat % 16) :: bs) = b :: decode bs := by
  have range : b.toNat < 256 := b.toNat_lt
  have high := hexDigit?_hexDigit (n := b.toNat / 16) (by omega)
  have low := hexDigit?_hexDigit (n := b.toNat % 16) (by omega)
  have value : b.toNat / 16 * 16 + b.toNat % 16 = b.toNat := by omega
  rw [decode, if_pos rfl, high, low]
  simp only [value, UInt8.ofNat_toNat]

theorem ne_percent_of_isUnreserved {b : UInt8} (h : isUnreserved b = true) : b ≠ 0x25 := by
  rintro rfl
  exact absurd h (by decide)

/-- Encoded bytes decode to themselves. -/
@[simp] theorem decode_encode (bs : List UInt8) : decode (encode bs) = bs := by
  induction bs with
  | nil => rfl
  | cons b bs ih =>
    rw [encode]
    split
    · next plain => rw [decode_cons_of_ne (ne_percent_of_isUnreserved plain), ih]
    · rw [decode_hexDigits, ih]

theorem mem_encode {b : UInt8} {bs : List UInt8} (h : b ∈ encode bs) :
    isUnreserved b = true ∨ b = 0x25 := by
  induction bs with
  | nil => exact absurd h List.not_mem_nil
  | cons c bs ih =>
    have range : c.toNat < 256 := c.toNat_lt
    rw [encode] at h
    split at h
    · next plain =>
      rcases List.mem_cons.1 h with rfl | h
      · exact .inl plain
      · exact ih h
    · simp only [List.mem_cons] at h
      rcases h with rfl | rfl | rfl | h
      · exact .inr rfl
      · exact .inl (isUnreserved_hexDigit (by omega))
      · exact .inl (isUnreserved_hexDigit (by omega))
      · exact ih h

/-- Encoded bytes are ASCII, and none of them is a slash, a question mark or a number sign. -/
theorem of_mem_encode {b : UInt8} {bs : List UInt8} (h : b ∈ encode bs) :
    b.toNat < 0x80 ∧ b.toNat ≠ 0x2F ∧ b.toNat ≠ 0x3F ∧ b.toNat ≠ 0x23 := by
  rcases mem_encode h with plain | rfl
  · simp [isUnreserved, UInt8.le_iff_toNat_le, ← UInt8.toNat_inj] at plain
    omega
  · decide

/-- The percent-encoding of a text. -/
def encodeText (s : String) : String :=
  String.ofList ((encode (Utf8.ofString s)).map fun b => Char.ofNat b.toNat)

theorem ofString_encodeText (s : String) :
    Utf8.ofString (encodeText s) = encode (Utf8.ofString s) := by
  rw [encodeText, Utf8.ofString, String.toList_ofList]
  exact Utf8.encode_ascii fun b hb => (of_mem_encode hb).1

/-- The percent-encoding of a text is all one segment of a path. -/
theorem of_mem_encodeText {c : Char} {s : String} (h : c ∈ (encodeText s).toList) :
    c ≠ '/' ∧ c ≠ '?' ∧ c ≠ '#' := by
  rw [encodeText, String.toList_ofList] at h
  obtain ⟨b, hb, rfl⟩ := List.mem_map.1 h
  obtain ⟨ascii, slash, query, fragment⟩ := of_mem_encode hb
  have code : (Char.ofNat b.toNat).toNat = b.toNat := Utf8.toNat_ofNat (.inl (by omega))
  have other (c : Char) (hc : b.toNat ≠ c.toNat) : Char.ofNat b.toNat ≠ c := by
    intro same
    rw [← same, code] at hc
    exact hc rfl
  exact ⟨other '/' slash, other '?' query, other '#' fragment⟩

end ActualState.Text.Percent
