import ActualState.Proofs.Json.Numbers
import ActualState.Proofs.Json.Spellings

/-!
# JSON values and back

A value that is written is read as the tree of its parts: what is written is one of the texts of
that tree, the one without any white space.
-/
namespace ActualState.Json

open Text.Utf8 (encode)

/-- The tree of a number. -/
def Number.toNode (n : Number) : Node :=
  if n.isWritten then .number n.numeral else .word .null

namespace Value

mutual

/-- The tree of a value. -/
def toNode : Value → Node
  | .null => .word .null
  | .boolean true => .word .true
  | .boolean false => .word .false
  | .number n => n.toNode
  | .string s => .string (literalOf s)
  | .array vs => .array (toNodes vs) .closed
  | .object ms => .object (toMembers ms) .closed

/-- The trees of elements. -/
def toNodes : List Value → List Node
  | [] => []
  | v :: vs => toNode v :: toNodes vs

/-- The trees of members. -/
def toMembers : List (String × Value) → List (Literal × Node)
  | [] => []
  | (k, v) :: ms => (literalOf k, toNode v) :: toMembers ms

end

mutual

theorem isWhole_toNode (v : Value) : v.toNode.IsWhole := by
  match v with
  | .null | .boolean true | .boolean false => trivial
  | .number n =>
    show n.toNode.IsWhole
    unfold Number.toNode
    split <;> trivial
  | .string s => rfl
  | .array vs => exact ⟨areWhole_toNodes vs, rfl⟩
  | .object ms => exact ⟨areWholeMembers_toMembers ms, rfl⟩

theorem areWhole_toNodes (vs : List Value) : Node.AreWhole (toNodes vs) := by
  match vs with
  | [] => trivial
  | v :: vs => exact ⟨isWhole_toNode v, areWhole_toNodes vs⟩

theorem areWholeMembers_toMembers (ms : List (String × Value)) :
    Node.AreWholeMembers (toMembers ms) := by
  match ms with
  | [] => trivial
  | (_, v) :: ms => exact ⟨rfl, isWhole_toNode v, areWholeMembers_toMembers ms⟩

end

end Value

/-! ### What is written -/

/-- Punctuation is a token of its own. -/
theorem SpelledTokens.mark {c : Char} {b : UInt8} {t : Token} {ts : List Token} {cs : List Char}
    {rest : List UInt8} (first : t.SpelledAs [b])
    (byte : Text.Utf8.encodeCodePoint c.toNat = [b])
    (others : SpelledTokens ts (encode cs ++ rest)) :
    SpelledTokens (t :: ts) (encode (c :: cs) ++ rest) := by
  rw [Text.Utf8.encode_cons, byte, List.append_assoc]
  exact .tight first others

theorem SpelledTokens.mark_last {c : Char} {b : UInt8} {t : Token} {ts : List Token}
    {rest : List UInt8} (first : t.SpelledAs [b]) (byte : Text.Utf8.encodeCodePoint c.toNat = [b])
    (others : SpelledTokens ts rest) : SpelledTokens (t :: ts) (encode [c] ++ rest) :=
  .mark first byte others

theorem spelledAs_printString (s : String) :
    (Token.string (literalOf s)).SpelledAs (encode (printString s)) := by
  have quotes : encode (printString s) =
      0x22 :: (encode (s.toList.flatMap escapeChar) ++ [0x22]) := by
    rw [printString, List.cons_append, Text.Utf8.encode_cons, Text.Utf8.encode_append]
    rfl
  rw [quotes]
  exact .string (spelledItems_literalOf s)

theorem spelledTokens_printNumber (n : Number) {ts : List Token} {rest : List UInt8}
    (others : SpelledTokens ts rest) :
    SpelledTokens (n.toNode.tokens ++ ts) (encode (printNumber n) ++ rest) := by
  unfold Number.toNode
  cases written : n.isWritten with
  | true =>
    rw [printNumber_eq written]
    have grammar := isWellFormed_numeral n
    exact .tight (.number grammar (Numeral.spelledAs_spell grammar)) others
  | false =>
    rw [printNumber_of_not_isWritten written]
    exact .tight (.word .null) others

/-- The key of a member and its colon. -/
theorem spelledTokens_key (k : String) {cs : List Char} {ts : List Token} {rest : List UInt8}
    (others : SpelledTokens ts (encode cs ++ rest)) :
    SpelledTokens (.string (literalOf k) :: .colon :: ts)
      (encode (printString k ++ ':' :: cs) ++ rest) := by
  rw [Text.Utf8.encode_append, List.append_assoc]
  exact .tight (spelledAs_printString k) (.mark .colon rfl others)

namespace Value

mutual

/-- What is written for a value spells the tokens of its tree. -/
theorem spelledTokens_print (v : Value) {ts : List Token} {rest : List UInt8}
    (others : SpelledTokens ts rest) :
    SpelledTokens (v.toNode.tokens ++ ts) (encode v.print ++ rest) := by
  match v with
  | .null => exact .tight (.word .null) others
  | .boolean true => exact .tight (.word .true) others
  | .boolean false => exact .tight (.word .false) others
  | .number n => exact spelledTokens_printNumber n others
  | .string s => exact .tight (spelledAs_printString s) others
  | .array [] => exact .mark .openArray rfl (.mark_last .closeArray rfl others)
  | .array (v :: vs) =>
    have first := spelledTokens_print v (spelledTokens_printElements vs others)
    rw [← List.append_assoc, ← List.append_assoc, ← Text.Utf8.encode_append] at first
    exact .mark .openArray rfl first
  | .object [] => exact .mark .openObject rfl (.mark_last .closeObject rfl others)
  | .object ((k, v) :: ms) =>
    have first := spelledTokens_print v (spelledTokens_printMembers ms others)
    rw [← List.append_assoc, ← List.append_assoc, ← Text.Utf8.encode_append] at first
    exact .mark .openObject rfl (spelledTokens_key k first)

theorem spelledTokens_printElements (vs : List Value) {ts : List Token} {rest : List UInt8}
    (others : SpelledTokens ts rest) :
    SpelledTokens (Node.elementTokens (toNodes vs) ++ ts) (encode (printElements vs) ++ rest) := by
  match vs with
  | [] => exact .mark_last .closeArray rfl others
  | v :: vs =>
    have first := spelledTokens_print v (spelledTokens_printElements vs others)
    rw [← List.append_assoc, ← List.append_assoc, ← Text.Utf8.encode_append] at first
    exact .mark .comma rfl first

theorem spelledTokens_printMembers (ms : List (String × Value)) {ts : List Token}
    {rest : List UInt8} (others : SpelledTokens ts rest) :
    SpelledTokens (Node.memberTokens (toMembers ms) ++ ts) (encode (printMembers ms) ++ rest) := by
  match ms with
  | [] => exact .mark_last .closeObject rfl others
  | (k, v) :: ms =>
    have first := spelledTokens_print v (spelledTokens_printMembers ms others)
    rw [← List.append_assoc, ← List.append_assoc, ← Text.Utf8.encode_append] at first
    exact .mark .comma rfl (spelledTokens_key k first)

end

/-- What is written for a value is a text of its tree. -/
theorem spelledAs_toBytes (v : Value) : v.toNode.SpelledAs v.toBytes where
  whole := isWhole_toNode v
  tokens := by
    have written := spelledTokens_print v (.blank isBlank_nil)
    rwa [List.append_nil, List.append_nil] at written

end Value

/-- A reader is given the tree of a value that was written. -/
theorem read_toBytes {α : Type} (reader : Reader α) (v : Value) :
    read reader v.toBytes = reader v.toNode :=
  read_of_spelledAs reader v.spelledAs_toBytes

end ActualState.Json
