import ActualState.Text.Utf8
import Mathlib.Order.Basic

/-!
# Text as UTF-8 and back

Every text is read back from its bytes, and the only bytes that are read as a text are its own.
The order of texts is the order of their bytes.
-/
namespace ActualState.Text.Utf8

theorem toNat_byte {n : Nat} (h : n < 256) : (byte n).toNat = n := by
  simp [byte, Nat.mod_eq_of_lt h]

theorem byte_toNat (b : UInt8) : byte b.toNat = b := UInt8.ofNat_toNat

/-- The code points that are characters. -/
def IsScalar (n : Nat) : Prop := n < 0xD800 ∨ (0xDFFF < n ∧ n < 0x110000)

theorem isScalar_toNat (c : Char) : IsScalar c.toNat := c.valid

theorem toNat_ofNat {n : Nat} (h : IsScalar n) : (Char.ofNat n).toNat = n := by
  have valid : n.isValidChar := h
  rw [Char.ofNat, dif_pos valid]
  rfl

/-! ### The sequences of one character -/

theorem isContinuation_iff (b : UInt8) :
    isContinuation b = true ↔ 0x80 ≤ b.toNat ∧ b.toNat ≤ 0xBF := by
  simp [isContinuation, UInt8.le_iff_toNat_le]

/-- The bytes of one character, each as a number, and its code point. -/
inductive Sequence : List UInt8 → Nat → Prop
  | one {a : UInt8} (lead : a.toNat < 0x80) : Sequence [a] a.toNat
  | two {a b : UInt8} (lead : 0xC2 ≤ a.toNat ∧ a.toNat ≤ 0xDF) (tail : isContinuation b = true) :
      Sequence [a, b] (a.toNat % 32 * 64 + low b)
  | three {a b c : UInt8} (lead : 0xE0 ≤ a.toNat ∧ a.toNat ≤ 0xEF) (second : isSecond a b = true)
      (tail : isContinuation c = true) :
      Sequence [a, b, c] (a.toNat % 16 * 4096 + low b * 64 + low c)
  | four {a b c d : UInt8} (lead : 0xF0 ≤ a.toNat ∧ a.toNat ≤ 0xF4)
      (second : isSecond a b = true) (third : isContinuation c = true)
      (tail : isContinuation d = true) :
      Sequence [a, b, c, d] (a.toNat % 8 * 262144 + low b * 4096 + low c * 64 + low d)

/-- What `isSecond` says of the second byte of a longer sequence. -/
theorem isSecond_iff (a b : UInt8) :
    isSecond a b = true ↔ 0x80 ≤ b.toNat ∧ b.toNat ≤ 0xBF ∧ (a.toNat = 0xE0 → 0xA0 ≤ b.toNat) ∧
      (a.toNat = 0xED → b.toNat ≤ 0x9F) ∧ (a.toNat = 0xF0 → 0x90 ≤ b.toNat) ∧
      (a.toNat = 0xF4 → b.toNat ≤ 0x8F) := by
  have eq (n : Nat) (k : UInt8) (hk : k.toNat = n) : a = k ↔ a.toNat = n := by
    rw [← hk, UInt8.toNat_inj]
  unfold isSecond
  simp only [eq 0xE0 0xE0 rfl, eq 0xED 0xED rfl, eq 0xF0 0xF0 rfl, eq 0xF4 0xF4 rfl]
  split_ifs <;>
    simp only [isContinuation_iff, Bool.and_eq_true, decide_eq_true_eq, UInt8.le_iff_toNat_le,
      UInt8.reduceToNat] <;> omega

theorem not_lt_of_lead {a : UInt8} (lead : 0x80 ≤ a.toNat) : ¬ a < 0x80 := by
  rw [UInt8.lt_iff_toNat_lt]
  exact Nat.not_lt.2 lead

theorem pieces_append_of_sequence {s : List UInt8} {n : Nat} (h : Sequence s n)
    (rest : List UInt8) : pieces (s ++ rest) = some (Char.ofNat n) :: pieces rest := by
  cases h with
  | @one a lead =>
    have first : a < 0x80 := UInt8.lt_iff_toNat_lt.2 lead
    rw [List.singleton_append, pieces.eq_def]
    simp only [first, if_true]
  | @two a b lead tail =>
    have first : ¬ a < 0x80 := not_lt_of_lead (by omega)
    have range : 0xC2 ≤ a ∧ a ≤ 0xDF := by simpa [UInt8.le_iff_toNat_le] using lead
    rw [List.cons_append, List.singleton_append, pieces.eq_def]
    simp only [first, range, tail, if_true, if_false, decide_true, Bool.and_self]
  | @three a b c lead second tail =>
    have first : ¬ a < 0x80 := not_lt_of_lead (by omega)
    have above : ¬ a ≤ 0xDF := by simp [UInt8.le_iff_toNat_le]; omega
    have range : 0xE0 ≤ a ∧ a ≤ 0xEF := by simpa [UInt8.le_iff_toNat_le] using lead
    rw [List.cons_append, List.cons_append, List.singleton_append, pieces.eq_def]
    simp only [first, above, range, second, tail, if_true, if_false, decide_true, decide_false,
      Bool.and_self, Bool.and_false, Bool.false_eq_true]
  | @four a b c d lead second third tail =>
    have first : ¬ a < 0x80 := not_lt_of_lead (by omega)
    have above : ¬ a ≤ 0xDF := by simp [UInt8.le_iff_toNat_le]; omega
    have above' : ¬ a ≤ 0xEF := by simp [UInt8.le_iff_toNat_le]; omega
    have range : 0xF0 ≤ a ∧ a ≤ 0xF4 := by simpa [UInt8.le_iff_toNat_le] using lead
    rw [List.cons_append, List.cons_append, List.cons_append, List.singleton_append, pieces.eq_def]
    simp only [first, above, above', range, second, third, tail, if_true, if_false, decide_true,
      decide_false, Bool.and_self, Bool.and_false, Bool.false_eq_true]

/-- The bytes of a character are a sequence. -/
theorem sequence_encodeCodePoint {n : Nat} (h : IsScalar n) : Sequence (encodeCodePoint n) n := by
  unfold IsScalar at h
  unfold encodeCodePoint
  split_ifs with one two three
  · have a : (byte n).toNat = n := toNat_byte (by omega)
    have s := Sequence.one (a := byte n) (by omega)
    rwa [a] at s
  · have a : (byte (0xC0 + n / 64)).toNat = 0xC0 + n / 64 := toNat_byte (by omega)
    have b : (byte (0x80 + n % 64)).toNat = 0x80 + n % 64 := toNat_byte (by omega)
    have s := Sequence.two (a := byte (0xC0 + n / 64)) (b := byte (0x80 + n % 64)) (by omega)
      ((isContinuation_iff _).2 (by omega))
    have value : (0xC0 + n / 64) % 32 * 64 + (0x80 + n % 64) % 64 = n := by omega
    rwa [low, a, b, value] at s
  · have a : (byte (0xE0 + n / 4096)).toNat = 0xE0 + n / 4096 := toNat_byte (by omega)
    have b : (byte (0x80 + n / 64 % 64)).toNat = 0x80 + n / 64 % 64 := toNat_byte (by omega)
    have c : (byte (0x80 + n % 64)).toNat = 0x80 + n % 64 := toNat_byte (by omega)
    have s := Sequence.three (a := byte (0xE0 + n / 4096)) (b := byte (0x80 + n / 64 % 64))
      (c := byte (0x80 + n % 64)) (by omega) ((isSecond_iff _ _).2 (by omega))
      ((isContinuation_iff _).2 (by omega))
    have value : (0xE0 + n / 4096) % 16 * 4096 + (0x80 + n / 64 % 64) % 64 * 64 +
        (0x80 + n % 64) % 64 = n := by omega
    rwa [low, low, a, b, c, value] at s
  · have a : (byte (0xF0 + n / 262144)).toNat = 0xF0 + n / 262144 := toNat_byte (by omega)
    have b : (byte (0x80 + n / 4096 % 64)).toNat = 0x80 + n / 4096 % 64 := toNat_byte (by omega)
    have c : (byte (0x80 + n / 64 % 64)).toNat = 0x80 + n / 64 % 64 := toNat_byte (by omega)
    have d : (byte (0x80 + n % 64)).toNat = 0x80 + n % 64 := toNat_byte (by omega)
    have s := Sequence.four (a := byte (0xF0 + n / 262144)) (b := byte (0x80 + n / 4096 % 64))
      (c := byte (0x80 + n / 64 % 64)) (d := byte (0x80 + n % 64)) (by omega)
      ((isSecond_iff _ _).2 (by omega)) ((isContinuation_iff _).2 (by omega))
      ((isContinuation_iff _).2 (by omega))
    have value : (0xF0 + n / 262144) % 8 * 262144 + (0x80 + n / 4096 % 64) % 64 * 4096 +
        (0x80 + n / 64 % 64) % 64 * 64 + (0x80 + n % 64) % 64 = n := by omega
    rwa [low, low, low, a, b, c, d, value] at s

/-- A sequence is the bytes of its character. -/
theorem eq_encodeCodePoint_of_sequence {s : List UInt8} {n : Nat} (h : Sequence s n) :
    IsScalar n ∧ s = encodeCodePoint n := by
  have eq_byte {b : UInt8} {k : Nat} (hk : b.toNat = k) : b = byte k := by rw [← hk, byte_toNat]
  unfold IsScalar encodeCodePoint
  cases h with
  | @one a lead =>
    rw [if_pos lead]
    exact ⟨by omega, by rw [byte_toNat]⟩
  | @two a b lead tail =>
    rw [isContinuation_iff] at tail
    unfold low
    refine ⟨by omega, ?_⟩
    rw [if_neg (by omega), if_pos (by omega)]
    simp only [List.cons.injEq]
    exact ⟨eq_byte (by omega), eq_byte (by omega), trivial⟩
  | @three a b c lead second tail =>
    rw [isSecond_iff] at second
    rw [isContinuation_iff] at tail
    unfold low
    refine ⟨by omega, ?_⟩
    rw [if_neg (by omega), if_neg (by omega), if_pos (by omega)]
    simp only [List.cons.injEq]
    exact ⟨eq_byte (by omega), eq_byte (by omega), eq_byte (by omega), trivial⟩
  | @four a b c d lead second third tail =>
    rw [isSecond_iff] at second
    rw [isContinuation_iff] at third tail
    unfold low
    refine ⟨by omega, ?_⟩
    rw [if_neg (by omega), if_neg (by omega), if_neg (by omega)]
    simp only [List.cons.injEq]
    exact ⟨eq_byte (by omega), eq_byte (by omega), eq_byte (by omega), eq_byte (by omega), trivial⟩

/-! ### Texts -/

theorem pieces_encode (cs : List Char) : pieces (encode cs) = cs.map some := by
  induction cs with
  | nil => rw [encode_nil, pieces.eq_def, List.map_nil]
  | cons c cs ih =>
    rw [encode_cons, pieces_append_of_sequence (sequence_encodeCodePoint (isScalar_toNat c)),
      Char.ofNat_toNat, ih, List.map_cons]

theorem whole_map_some (cs : List Char) : whole (cs.map some) = some cs := by
  induction cs with
  | nil => rfl
  | cons c cs ih => rw [List.map_cons, whole, ih, Option.map_some]

theorem decode_encode (cs : List Char) : decode (encode cs) = some cs := by
  rw [decode, pieces_encode, whole_map_some]

/-- A piece that is a character stands for its bytes. -/
theorem exists_sequence_of_pieces {bs : List UInt8} {c : Char} {ps : List (Option Char)} :
    pieces bs = some c :: ps →
      ∃ s n rest, Sequence s n ∧ bs = s ++ rest ∧ c = Char.ofNat n ∧ ps = pieces rest := by
  fun_cases pieces bs with
  | case2 a r lead =>
    intro h
    obtain ⟨rfl, rfl⟩ : Char.ofNat a.toNat = c ∧ pieces r = ps := by simpa using h
    exact ⟨[a], _, r, .one (UInt8.lt_iff_toNat_lt.1 lead), rfl, rfl, rfl⟩
  | case4 a first range b r tail =>
    intro h
    obtain ⟨rfl, rfl⟩ : Char.ofNat (a.toNat % 32 * 64 + low b) = c ∧ pieces r = ps := by
      simpa using h
    have lead : 0xC2 ≤ a.toNat ∧ a.toNat ≤ 0xDF := by simpa [UInt8.le_iff_toNat_le] using range
    exact ⟨[a, b], _, r, .two lead tail, rfl, rfl, rfl⟩
  | case9 a first above range b d r second tail =>
    intro h
    obtain ⟨rfl, rfl⟩ :
        Char.ofNat (a.toNat % 16 * 4096 + low b * 64 + low d) = c ∧ pieces r = ps := by
      simpa using h
    have lead : 0xE0 ≤ a.toNat ∧ a.toNat ≤ 0xEF := by simpa [UInt8.le_iff_toNat_le] using range
    exact ⟨[a, b, d], _, r, .three lead second tail, rfl, rfl, rfl⟩
  | case18 a first above above' range b d e r second third tail =>
    intro h
    obtain ⟨rfl, rfl⟩ :
        Char.ofNat (a.toNat % 8 * 262144 + low b * 4096 + low d * 64 + low e) = c ∧
          pieces r = ps := by
      simpa using h
    have lead : 0xF0 ≤ a.toNat ∧ a.toNat ≤ 0xF4 := by simpa [UInt8.le_iff_toNat_le] using range
    exact ⟨[a, b, d, e], _, r, .four lead second third tail, rfl, rfl, rfl⟩
  | _ => simp

/-- A text is read from its own bytes only. -/
theorem encode_of_decode {bs : List UInt8} {cs : List Char} (h : decode bs = some cs) :
    encode cs = bs := by
  rw [decode] at h
  induction cs generalizing bs with
  | nil =>
    have nothing : pieces bs = [] := by
      cases hp : pieces bs with
      | nil => rfl
      | cons p ps => cases p <;> simp [hp, whole] at h
    revert nothing
    fun_cases pieces bs <;> simp
  | cons c cs ih =>
    obtain ⟨ps, hp, rest⟩ : ∃ ps, pieces bs = some c :: ps ∧ whole ps = some cs := by
      cases hp : pieces bs with
      | nil => simp [hp, whole] at h
      | cons p ps => cases p <;> simp_all [whole]
    obtain ⟨s, n, r, sequence, rfl, rfl, rfl⟩ := exists_sequence_of_pieces hp
    obtain ⟨scalar, rfl⟩ := eq_encodeCodePoint_of_sequence sequence
    rw [encode_cons, toNat_ofNat scalar, ih rest]

@[simp] theorem toString?_ofString (s : String) : toString? (ofString s) = some s := by
  rw [toString?, ofString, decode_encode, Option.map_some, String.ofList_toList]

/-- The only bytes that are read as a text are its own. -/
theorem toString?_eq_some_iff {bs : List UInt8} {s : String} :
    toString? bs = some s ↔ bs = ofString s := by
  constructor
  · intro h
    obtain ⟨cs, decoded, rfl⟩ := Option.map_eq_some_iff.1 h
    rw [ofString, String.toList_ofList, encode_of_decode decoded]
  · rintro rfl
    exact toString?_ofString s

/-! ### Bytes that are a text -/

/-- Bytes that are those of a text. -/
def IsText (bs : List UInt8) : Prop := ∃ s, bs = ofString s

/-- The bytes of characters below 128 are their code points. -/
theorem encode_ascii {bs : List UInt8} (h : ∀ b ∈ bs, b.toNat < 0x80) :
    encode (bs.map fun b => Char.ofNat b.toNat) = bs := by
  induction bs with
  | nil => rfl
  | cons b bs ih =>
    have first : b.toNat < 0x80 := h b List.mem_cons_self
    have scalar : IsScalar b.toNat := .inl (by omega)
    have rest := ih fun c hc => h c (List.mem_cons_of_mem b hc)
    rw [List.map_cons, encode_cons, rest, toNat_ofNat scalar, encodeCodePoint, if_pos first,
      byte_toNat, List.singleton_append]

theorem isText_of_ascii {bs : List UInt8} (h : ∀ b ∈ bs, b.toNat < 0x80) : IsText bs :=
  ⟨String.ofList (bs.map fun b => Char.ofNat b.toNat), by
    rw [ofString, String.toList_ofList, encode_ascii h]⟩

/-! ### Order -/

theorem byte_lt_byte {m n : Nat} (hm : m < 256) (hn : n < 256) : byte m < byte n ↔ m < n := by
  rw [UInt8.lt_iff_toNat_lt, toNat_byte hm, toNat_byte hn]

theorem byte_inj {m n : Nat} (hm : m < 256) (hn : n < 256) : byte m = byte n ↔ m = n := by
  rw [← UInt8.toNat_inj, toNat_byte hm, toNat_byte hn]

/-- The bytes of two characters differ before the shorter ones end. -/
theorem encodeCodePoint_append_lt {m n : Nat} (hn : IsScalar n) (h : m < n) (r s : List UInt8) :
    encodeCodePoint m ++ r < encodeCodePoint n ++ s := by
  have bound : n < 0x110000 := by
    unfold IsScalar at hn
    omega
  unfold encodeCodePoint
  -- what follows plays no part: where all bytes are equal, the code points are
  by_cases tail : r < s <;> split_ifs <;>
    simp (disch := omega) only [List.cons_append, List.nil_append, List.cons_lt_cons_iff,
      byte_lt_byte, byte_inj, tail, and_true, and_false, or_false] <;> omega

theorem encodeCodePoint_ne_nil (n : Nat) : encodeCodePoint n ≠ [] := by
  unfold encodeCodePoint
  split_ifs <;> simp

theorem encode_lt_encode {cs ds : List Char} (h : cs < ds) : encode cs < encode ds := by
  induction cs generalizing ds with
  | nil =>
    cases ds with
    | nil => exact absurd h (List.lt_irrefl _)
    | cons d ds =>
      obtain ⟨b, bs, hb⟩ := List.exists_cons_of_ne_nil (encodeCodePoint_ne_nil d.toNat)
      rw [encode_cons, hb, List.cons_append]
      exact List.nil_lt_cons b _
  | cons c cs ih =>
    cases ds with
    | nil => exact absurd h (List.not_lt_nil _)
    | cons d ds =>
      rw [encode_cons, encode_cons]
      rcases List.cons_lt_cons_iff.1 h with first | ⟨rfl, rest⟩
      · have less : c.toNat < d.toNat := first
        exact encodeCodePoint_append_lt (isScalar_toNat d) less _ _
      · exact List.append_left_lt (ih rest)

/-- The bytes of texts stand in the order of the texts. -/
theorem ofString_lt_ofString {s t : String} (h : s < t) : ofString s < ofString t :=
  encode_lt_encode (String.lt_iff.1 h)

end ActualState.Text.Utf8
