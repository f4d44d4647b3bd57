import ActualState.Json.Printer
import ActualState.Proofs.Text.Utf8

/-!
# JSON strings

The ways in which a text may stand between quotes, and that each of them is read as that text. A
character is given by its bytes or by its UTF-16 units; a byte stands for itself, if it is plain, or
has a short escape, and a unit is four hex digits. What is written for a text is one of these ways.
-/
namespace ActualState.Json

open Text.Utf8 (byte encode encodeCodePoint)

/-! ### The items of a text -/

/-- The ways to give a character: its bytes, its number, or, past 16 bits, the numbers of a
surrogate pair. -/
inductive MeansChar (c : Char) : List Item → Prop
  | bytes : MeansChar c ((encodeCodePoint c.toNat).map .byte)
  | unit (small : c.toNat < 0x10000) : MeansChar c [.unit c.toNat]
  | pair (large : 0x10000 ≤ c.toNat) :
      MeansChar c [.unit (0xD800 + (c.toNat - 0x10000) / 0x400),
        .unit (0xDC00 + (c.toNat - 0x10000) % 0x400)]

/-- Characters in order, each given in one of the ways. -/
inductive MeansChars : List Char → List Item → Prop
  | nil : MeansChars [] []
  | cons {c : Char} {cs : List Char} {is js : List Item} (first : MeansChar c is)
      (others : MeansChars cs js) : MeansChars (c :: cs) (is ++ js)

/-- A complete literal of a text. -/
structure Literal.Means (l : Literal) (s : String) : Prop where
  complete : l.fault = none
  chars : MeansChars s.toList l.items

namespace Literal

theorem bytes_map_byte (bs : List UInt8) (rest : List Item) :
    bytes none (bs.map .byte ++ rest) = (bytes none rest).map (bs ++ ·) := by
  induction bs with
  | nil =>
    rw [List.map_nil, List.nil_append]
    cases bytes none rest <;> rfl
  | cons b bs ih =>
    rw [List.map_cons, List.cons_append, bytes, ih]
    cases bytes none rest <;> rfl

theorem bytes_of_meansChar {c : Char} {is : List Item} (h : MeansChar c is) (rest : List Item) :
    bytes none (is ++ rest) = (bytes none rest).map (encodeCodePoint c.toNat ++ ·) := by
  have scalar := Text.Utf8.isScalar_toNat c
  unfold Text.Utf8.IsScalar at scalar
  cases h with
  | bytes => exact bytes_map_byte _ _
  | unit small =>
    have trail : isTrail c.toNat = false := by
      simp only [isTrail, Bool.and_eq_false_iff, decide_eq_false_iff_not]
      omega
    have lead : isLead c.toNat = false := by
      simp only [isLead, Bool.and_eq_false_iff, decide_eq_false_iff_not]
      omega
    rw [List.singleton_append, bytes.eq_def]
    simp only [trail, lead, Bool.false_eq_true, if_false]
  | pair large =>
    have first : isTrail (0xD800 + (c.toNat - 0x10000) / 0x400) = false := by
      simp only [isTrail, Bool.and_eq_false_iff, decide_eq_false_iff_not]
      omega
    have lead : isLead (0xD800 + (c.toNat - 0x10000) / 0x400) = true := by
      simp only [isLead, Bool.and_eq_true, decide_eq_true_eq]
      omega
    have second : isTrail (0xDC00 + (c.toNat - 0x10000) % 0x400) = true := by
      simp only [isTrail, Bool.and_eq_true, decide_eq_true_eq]
      omega
    have together : pairCodePoint (0xD800 + (c.toNat - 0x10000) / 0x400)
        (0xDC00 + (c.toNat - 0x10000) % 0x400) = c.toNat := by
      unfold pairCodePoint
      omega
    rw [List.cons_append, List.singleton_append, bytes.eq_def]
    simp only [first, lead, second, together, Bool.false_eq_true, if_false, if_true]

theorem bytes_of_meansChars {cs : List Char} {is : List Item} (h : MeansChars cs is) :
    bytes none is = .ok (encode cs) := by
  induction h with
  | nil => rfl
  | cons first others ih =>
    rw [bytes_of_meansChar first, ih]
    rfl

/-- A literal is read as the text that it means. -/
theorem text_of_means {l : Literal} {s : String} (h : l.Means s) : l.text = .ok s := by
  have read : Text.Utf8.toString? (encode s.toList) = some s := Text.Utf8.toString?_ofString s
  rw [text, h.complete, bytes_of_meansChars h.chars]
  simp only [read]

end Literal

/-! ### The bytes of items -/

/-- Bytes that stand for themselves in a string. -/
def IsPlain (b : UInt8) : Prop := 0x20 ≤ b.toNat ∧ b.toNat ≠ 0x22 ∧ b.toNat ≠ 0x5C

instance (b : UInt8) : Decidable (IsPlain b) :=
  inferInstanceAs (Decidable (0x20 ≤ b.toNat ∧ b.toNat ≠ 0x22 ∧ b.toNat ≠ 0x5C))

/-- The letters of short escapes, and the bytes that they stand for. -/
def shortEscapes : List (UInt8 × UInt8) :=
  [(0x22, 0x22), (0x5C, 0x5C), (0x2F, 0x2F), (0x62, 0x08), (0x66, 0x0C), (0x6E, 0x0A),
    (0x72, 0x0D), (0x74, 0x09)]

/-- A byte that is a hex digit of either case. -/
def IsHexDigit (d : Nat) (b : UInt8) : Prop :=
  d < 16 ∧ (b = byte (Nat.digitChar d).toNat ∨ b = byte (Nat.digitChar d).toUpper.toNat)

/-- The spellings of an item. -/
inductive Item.SpelledAs : Item → List UInt8 → Prop
  | plain {b : UInt8} (plain : IsPlain b) : SpelledAs (.byte b) [b]
  | short {letter b : UInt8} (escape : (letter, b) ∈ shortEscapes) :
      SpelledAs (.byte b) [0x5C, letter]
  | hex {i j k l : Nat} {a b c d : UInt8} (first : IsHexDigit i a) (second : IsHexDigit j b)
      (third : IsHexDigit k c) (last : IsHexDigit l d) :
      SpelledAs (.unit (((i * 16 + j) * 16 + k) * 16 + l)) [0x5C, 0x75, a, b, c, d]

/-- Items in order, each in one of its spellings. -/
inductive SpelledItems : List Item → List UInt8 → Prop
  | nil : SpelledItems [] []
  | cons {i : Item} {is : List Item} {bs cs : List UInt8} (first : i.SpelledAs bs)
      (others : SpelledItems is cs) : SpelledItems (i :: is) (bs ++ cs)

theorem SpelledItems.append {is js : List Item} {bs cs : List UInt8} (h : SpelledItems is bs)
    (others : SpelledItems js cs) : SpelledItems (is ++ js) (bs ++ cs) := by
  induction h with
  | nil => exact others
  | cons first _ ih =>
    rw [List.cons_append, List.append_assoc]
    exact .cons first ih

theorem shortEscape?_of_mem {letter b : UInt8} (h : (letter, b) ∈ shortEscapes) :
    shortEscape? letter = some b ∧ letter ≠ 0x75 := by
  simp only [shortEscapes, List.mem_cons, List.not_mem_nil, or_false, Prod.mk.injEq] at h
  rcases h with ⟨rfl, rfl⟩ | ⟨rfl, rfl⟩ | ⟨rfl, rfl⟩ | ⟨rfl, rfl⟩ | ⟨rfl, rfl⟩ | ⟨rfl, rfl⟩ |
    ⟨rfl, rfl⟩ | ⟨rfl, rfl⟩ <;> exact ⟨rfl, by decide⟩

theorem hexDigit?_of_isHexDigit {d : Nat} {b : UInt8} (h : IsHexDigit d b) :
    Text.hexDigit? b = some d := by
  have all : ∀ k : Fin 16, Text.hexDigit? (byte (Nat.digitChar k).toNat) = some k.val ∧
      Text.hexDigit? (byte (Nat.digitChar k).toUpper.toNat) = some k.val := by decide
  obtain ⟨small, rfl | rfl⟩ := h
  · exact (all ⟨d, small⟩).1
  · exact (all ⟨d, small⟩).2

namespace Lexer

theorem run_item {i : Item} {bs : List UInt8} (h : i.SpelledAs bs) (done : List Token)
    (items : List Item) (rest : List UInt8) :
    run ⟨done, .string items⟩ (bs ++ rest) = run ⟨done, .string (i :: items)⟩ rest := by
  cases h with
  | @plain b plain =>
    obtain ⟨low, quote, backslash⟩ := plain
    have notQuote : b ≠ 0x22 := fun h => quote (by rw [h]; rfl)
    have notBackslash : b ≠ 0x5C := fun h => backslash (by rw [h]; rfl)
    have notControl : ¬ b < 0x20 := by
      rw [UInt8.lt_iff_toNat_lt]
      exact Nat.not_lt.2 low
    simp only [List.singleton_append, run_cons, step, if_neg notQuote, if_neg notBackslash,
      if_neg notControl]
  | short escape =>
    obtain ⟨short, other⟩ := shortEscape?_of_mem escape
    simp [step, other, short]
  | hex first second third last =>
    simp [step, unit?, hexDigit?_of_isHexDigit first, hexDigit?_of_isHexDigit second,
      hexDigit?_of_isHexDigit third, hexDigit?_of_isHexDigit last]

/-- Spelled items are read as these items. -/
theorem run_items {is : List Item} {bs : List UInt8} (h : SpelledItems is bs) (done : List Token)
    (items : List Item) (rest : List UInt8) :
    run ⟨done, .string items⟩ (bs ++ rest) =
      run ⟨done, .string (is.reverse ++ items)⟩ rest := by
  induction h generalizing items with
  | nil => rfl
  | cons first _ ih =>
    rw [List.append_assoc, run_item first, ih, List.reverse_cons, List.append_assoc,
      List.singleton_append]

end Lexer

/-! ### What is written -/

/-- Controls that are written with a short escape. -/
def hasShortEscape (n : Nat) : Bool := n = 0x08 || n = 0x09 || n = 0x0A || n = 0x0C || n = 0x0D

/-- The items that are written for a character. -/
def charItems (c : Char) : List Item :=
  if c.toNat < 0x20 && !hasShortEscape c.toNat then [.unit c.toNat]
  else (encodeCodePoint c.toNat).map .byte

/-- The literal that is written for a text. -/
def literalOf (s : String) : Literal := ⟨s.toList.flatMap charItems, none⟩

theorem meansChar_charItems (c : Char) : MeansChar c (charItems c) := by
  unfold charItems
  split
  · next control =>
    simp only [Bool.and_eq_true, decide_eq_true_eq] at control
    exact .unit (by omega)
  · exact .bytes

theorem means_literalOf (s : String) : (literalOf s).Means s where
  complete := rfl
  chars := by
    unfold literalOf
    induction s.toList with
    | nil => exact .nil
    | cons c cs ih => exact .cons (meansChar_charItems c) ih

@[simp] theorem Literal.text_literalOf (s : String) : (literalOf s).text = .ok s :=
  text_of_means (means_literalOf s)

theorem spelledItems_plain {bs : List UInt8} (plain : ∀ b ∈ bs, IsPlain b) :
    SpelledItems (bs.map .byte) bs := by
  induction bs with
  | nil => exact .nil
  | cons b bs ih =>
    exact .cons (.plain (plain b List.mem_cons_self))
      (ih fun d hd => plain d (List.mem_cons_of_mem b hd))

theorem isPlain_encodeCodePoint {n : Nat} (low : 0x20 ≤ n) (quote : n ≠ 0x22)
    (backslash : n ≠ 0x5C) (scalar : Text.Utf8.IsScalar n) :
    ∀ b ∈ encodeCodePoint n, IsPlain b := by
  have high {k : Nat} (h : 0x80 ≤ k) (small : k < 0x100) : IsPlain (byte k) := by
    unfold IsPlain
    rw [Text.Utf8.toNat_byte small]
    omega
  unfold Text.Utf8.IsScalar at scalar
  unfold encodeCodePoint
  split_ifs with one two three
  · intro b hb
    rw [List.mem_singleton.1 hb, IsPlain, Text.Utf8.toNat_byte (by omega)]
    exact ⟨low, quote, backslash⟩
  · simp only [List.mem_cons, List.not_mem_nil, or_false, forall_eq_or_imp, forall_eq]
    exact ⟨high (by omega) (by omega), high (by omega) (by omega)⟩
  · simp only [List.mem_cons, List.not_mem_nil, or_false, forall_eq_or_imp, forall_eq]
    exact ⟨high (by omega) (by omega), high (by omega) (by omega), high (by omega) (by omega)⟩
  · simp only [List.mem_cons, List.not_mem_nil, or_false, forall_eq_or_imp, forall_eq]
    exact ⟨high (by omega) (by omega), high (by omega) (by omega), high (by omega) (by omega),
      high (by omega) (by omega)⟩

theorem spelledItems_short {letter b : UInt8} (h : (letter, b) ∈ shortEscapes) :
    SpelledItems [.byte b] [0x5C, letter] :=
  .cons (.short h) .nil

theorem spelledItems_control {n : Nat} (h : n < 0x20) :
    SpelledItems [.unit n] (encode ['\\', 'u', '0', '0', hexDigit (n / 16), hexDigit n]) := by
  have digit (d : Nat) : IsHexDigit (d % 16) (byte (hexDigit d).toNat) :=
    ⟨Nat.mod_lt d (by decide), .inl rfl⟩
  have bytes : encode ['\\', 'u', '0', '0', hexDigit (n / 16), hexDigit n] =
      [0x5C, 0x75, 0x30, 0x30, byte (hexDigit (n / 16)).toNat, byte (hexDigit n).toNat] := by
    have all : ∀ k : Fin 0x20, encode ['\\', 'u', '0', '0', hexDigit (k / 16), hexDigit k] =
        [0x5C, 0x75, 0x30, 0x30, byte (hexDigit (k / 16)).toNat, byte (hexDigit k).toNat] := by
      decide
    exact all ⟨n, h⟩
  have value : ((0 * 16 + 0) * 16 + n / 16 % 16) * 16 + n % 16 = n := by omega
  have spelled := Item.SpelledAs.hex (digit 0) (digit 0) (digit (n / 16)) (digit n)
  rw [bytes]
  exact .cons (value ▸ spelled) .nil

/-- The escape of a character, or its bytes, spell its items. -/
theorem spelledItems_escapeChar (c : Char) :
    SpelledItems (charItems c) (encode (escapeChar c)) := by
  by_cases quote : c = '"'
  · subst quote
    exact spelledItems_short (by decide)
  by_cases backslash : c = '\\'
  · subst backslash
    exact spelledItems_short (by decide)
  by_cases backspace : c = '\x08'
  · subst backspace
    exact spelledItems_short (by decide)
  by_cases formFeed : c = '\x0c'
  · subst formFeed
    exact spelledItems_short (by decide)
  by_cases lineFeed : c = '\n'
  · subst lineFeed
    exact spelledItems_short (by decide)
  by_cases carriageReturn : c = '\r'
  · subst carriageReturn
    exact spelledItems_short (by decide)
  by_cases tab : c = '\t'
  · subst tab
    exact spelledItems_short (by decide)
  have code {d : Char} (h : c ≠ d) : c.toNat ≠ d.toNat := fun same => h (Char.toNat_inj.1 same)
  have long : hasShortEscape c.toNat = false := by
    simp only [hasShortEscape, Bool.or_eq_false_iff, decide_eq_false_iff_not]
    exact ⟨⟨⟨⟨code backspace, code tab⟩, code lineFeed⟩, code formFeed⟩, code carriageReturn⟩
  simp only [escapeChar, charItems, if_neg quote, if_neg backslash, if_neg backspace,
    if_neg formFeed, if_neg lineFeed, if_neg carriageReturn, if_neg tab, long, Bool.not_false,
    Bool.and_true, decide_eq_true_eq]
  by_cases control : c.toNat < 0x20
  · rw [if_pos control, if_pos control]
    exact spelledItems_control control
  · rw [if_neg control, if_neg control, Text.Utf8.encode_cons, Text.Utf8.encode_nil,
      List.append_nil]
    exact spelledItems_plain (isPlain_encodeCodePoint (Nat.not_lt.1 control) (code quote)
      (code backslash) (Text.Utf8.isScalar_toNat c))

/-- What is written between the quotes spells the literal. -/
theorem spelledItems_literalOf (s : String) :
    SpelledItems (literalOf s).items (encode (s.toList.flatMap escapeChar)) := by
  unfold literalOf
  induction s.toList with
  | nil => exact .nil
  | cons c cs ih =>
    rw [List.flatMap_cons, List.flatMap_cons, Text.Utf8.encode_append]
    exact (spelledItems_escapeChar c).append ih

end ActualState.Json
