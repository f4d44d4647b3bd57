import ActualState.Json.Decode
import ActualState.Proofs.Json.Numerals
import ActualState.Proofs.Json.Strings
import Mathlib.Data.List.Chain

/-!
# The texts of a JSON tree

A text of a tree is its tokens in order, each in one of its spellings, with any white space before,
between and after them. Whatever the choices, lexer and builder find the same tree. They take one
byte and one token at a time; what is shown of each is how far a whole token, or a whole tree, takes
it.
-/
namespace ActualState.Json

/-! ### Spellings -/

/-- The spellings of a token. -/
inductive Token.SpelledAs : Token → List UInt8 → Prop
  | openArray : SpelledAs .openArray [0x5B]
  | closeArray : SpelledAs .closeArray [0x5D]
  | openObject : SpelledAs .openObject [0x7B]
  | closeObject : SpelledAs .closeObject [0x7D]
  | comma : SpelledAs .comma [0x2C]
  | colon : SpelledAs .colon [0x3A]
  | word (w : Word) : SpelledAs (.word w) w.spelling
  | string {items : List Item} {bs : List UInt8} (spelled : SpelledItems items bs) :
      SpelledAs (.string ⟨items, none⟩) (0x22 :: (bs ++ [0x22]))
  | number {n : Numeral} {bs : List UInt8} (grammar : n.IsWellFormed) (spelled : n.SpelledAs bs) :
      SpelledAs (.number n) bs

/-- Nothing but white space. -/
def IsBlank (bs : List UInt8) : Prop := ∀ b ∈ bs, b ∈ [0x20, 0x09, 0x0A, 0x0D]

/-- Tokens in order, each in one of its spellings, with white space around them. -/
inductive SpelledTokens : List Token → List UInt8 → Prop
  | blank {space : List UInt8} (blank : IsBlank space) : SpelledTokens [] space
  | token {t : Token} {ts : List Token} {space bs rest : List UInt8} (blank : IsBlank space)
      (first : t.SpelledAs bs) (others : SpelledTokens ts rest) :
      SpelledTokens (t :: ts) (space ++ (bs ++ rest))

theorem isBlank_nil : IsBlank [] := nofun

theorem SpelledTokens.tight {t : Token} {ts : List Token} {bs rest : List UInt8}
    (first : t.SpelledAs bs) (others : SpelledTokens ts rest) :
    SpelledTokens (t :: ts) (bs ++ rest) :=
  .token isBlank_nil first others

namespace Node

mutual

/-- A tree with no fault in its shape. -/
def IsWhole : Node → Prop
  | .word _ | .number _ => True
  | .string l => l.fault = none
  | .array elements ending => AreWhole elements ∧ ending = .closed
  | .object members ending => AreWholeMembers members ∧ ending = .closed
  | .brokenWord _ _ | .brokenNumber _ | .absent _ => False

/-- Elements that are whole. -/
def AreWhole : List Node → Prop
  | [] => True
  | n :: ns => IsWhole n ∧ AreWhole ns

/-- Members with complete keys and whole values. -/
def AreWholeMembers : List (Literal × Node) → Prop
  | [] => True
  | (k, n) :: ms => k.fault = none ∧ IsWhole n ∧ AreWholeMembers ms

end

mutual

/-- The tokens of a tree. -/
def tokens : Node → List Token
  | .word w => [.word w]
  | .brokenWord w f => [.brokenWord w f]
  | .string l => [.string l]
  | .number n => [.number n]
  | .brokenNumber f => [.brokenNumber f]
  | .array [] _ => [.openArray, .closeArray]
  | .array (n :: ns) _ => .openArray :: (tokens n ++ elementTokens ns)
  | .object [] _ => [.openObject, .closeObject]
  | .object ((k, n) :: ms) _ =>
    .openObject :: .string k :: .colon :: (tokens n ++ memberTokens ms)
  | .absent found => found.toList

/-- The tokens of further elements and of the end of an array. -/
def elementTokens : List Node → List Token
  | [] => [.closeArray]
  | n :: ns => .comma :: (tokens n ++ elementTokens ns)

/-- The tokens of further members and of the end of an object. -/
def memberTokens : List (Literal × Node) → List Token
  | [] => [.closeObject]
  | (k, n) :: ms => .comma :: .string k :: .colon :: (tokens n ++ memberTokens ms)

end

/-- The texts of a whole tree. -/
structure SpelledAs (n : Node) (bs : List UInt8) : Prop where
  whole : n.IsWhole
  tokens : SpelledTokens n.tokens bs

end Node

/-! ### Tokens apart -/

/-- Numerals: the only tokens that may run into the next one. -/
inductive Token.IsNumber : Token → Prop
  | number (n : Numeral) : IsNumber (.number n)

/-- Tokens that need nothing between them. -/
def Apart (s t : Token) : Prop := s.IsNumber → ¬ t.IsNumber

theorem isDelimiter_of_blank {b : UInt8} (h : b ∈ [(0x20 : UInt8), 0x09, 0x0A, 0x0D]) :
    IsDelimiter b := by
  simp only [List.mem_cons, List.not_mem_nil, or_false] at h
  unfold IsDelimiter
  rcases h with rfl | rfl | rfl | rfl <;> decide

theorem exists_head_of_spelledAs {t : Token} {bs : List UInt8} (h : t.SpelledAs bs)
    (other : ¬ t.IsNumber) : ∃ b cs, bs = b :: cs ∧ IsDelimiter b := by
  unfold IsDelimiter
  cases h with
  | word w => cases w <;> exact ⟨_, _, rfl, by decide⟩
  | number => exact absurd (.number _) other
  | openArray | closeArray | openObject | closeObject | comma | colon | string =>
    exact ⟨_, _, rfl, by decide⟩

/-- Where no numeral follows, nothing that follows goes on with one. -/
theorem isDelimited_of_spelledTokens {ts : List Token} {bs : List UInt8}
    (h : SpelledTokens ts bs) (other : ∀ t ∈ ts.head?, ¬ t.IsNumber) : IsDelimited bs := by
  have spaced {space : List UInt8} (blank : IsBlank space) {rest : List UInt8}
      (others : IsDelimited rest) : IsDelimited (space ++ rest) := by
    cases space with
    | nil => exact others
    | cons b space =>
      rintro _ ⟨⟩
      exact isDelimiter_of_blank (blank b List.mem_cons_self)
  cases h with
  | blank blank =>
    rw [← List.append_nil bs]
    exact spaced blank nofun
  | token blank first _ =>
    refine spaced blank ?_
    obtain ⟨b, cs, rfl, delimiter⟩ := exists_head_of_spelledAs first (other _ rfl)
    rintro _ ⟨⟩
    exact delimiter

namespace Node

theorem head_elementTokens (ns : List Node) (rest : List Token) :
    ∀ t ∈ (elementTokens ns ++ rest).head?, ¬ t.IsNumber := by
  cases ns with
  | nil =>
    rintro _ ⟨⟩
    exact nofun
  | cons n ns =>
    rintro _ ⟨⟩
    exact nofun

theorem head_memberTokens (ms : List (Literal × Node)) (rest : List Token) :
    ∀ t ∈ (memberTokens ms ++ rest).head?, ¬ t.IsNumber := by
  cases ms with
  | nil =>
    rintro _ ⟨⟩
    exact nofun
  | cons m ms =>
    rintro _ ⟨⟩
    exact nofun

/-- A token in front that is no numeral. -/
theorem isChain_mark {t : Token} {ts : List Token} (mark : ¬ t.IsNumber) (h : ts.IsChain Apart) :
    (t :: ts).IsChain Apart :=
  List.isChain_cons.2 ⟨fun _ _ number => absurd number mark, h⟩

mutual

/-- No two numerals of a tree stand side by side. -/
theorem isChain_tokens (n : Node) {rest : List Token} (h : rest.IsChain Apart)
    (other : ∀ t ∈ rest.head?, ¬ t.IsNumber) : (n.tokens ++ rest).IsChain Apart := by
  match n with
  | .word _ | .brokenWord _ _ | .string _ | .brokenNumber _ => exact isChain_mark nofun h
  | .number _ => exact List.isChain_cons.2 ⟨fun t ht _ => other t ht, h⟩
  | .array [] _ => exact isChain_mark nofun (isChain_mark nofun h)
  | .array (n :: ns) _ =>
    have first := isChain_tokens n (isChain_elementTokens ns h) (head_elementTokens ns rest)
    rw [← List.append_assoc] at first
    exact isChain_mark nofun first
  | .object [] _ => exact isChain_mark nofun (isChain_mark nofun h)
  | .object ((k, n) :: ms) _ =>
    have first := isChain_tokens n (isChain_memberTokens ms h) (head_memberTokens ms rest)
    rw [← List.append_assoc] at first
    exact isChain_mark nofun (isChain_mark nofun (isChain_mark nofun first))
  | .absent none => exact h
  | .absent (some t) => exact List.isChain_cons.2 ⟨fun t ht _ => other t ht, h⟩

theorem isChain_elementTokens (ns : List Node) {rest : List Token} (h : rest.IsChain Apart) :
    (elementTokens ns ++ rest).IsChain Apart := by
  match ns with
  | [] => exact isChain_mark nofun h
  | n :: ns =>
    have first := isChain_tokens n (isChain_elementTokens ns h) (head_elementTokens ns rest)
    rw [← List.append_assoc] at first
    exact isChain_mark nofun first

theorem isChain_memberTokens (ms : List (Literal × Node)) {rest : List Token}
    (h : rest.IsChain Apart) : (memberTokens ms ++ rest).IsChain Apart := by
  match ms with
  | [] => exact isChain_mark nofun h
  | (k, n) :: ms =>
    have first := isChain_tokens n (isChain_memberTokens ms h) (head_memberTokens ms rest)
    rw [← List.append_assoc] at first
    exact isChain_mark nofun (isChain_mark nofun (isChain_mark nofun first))

end

end Node

/-! ### From bytes to tokens -/

namespace Lexer

theorem run_blank {space : List UInt8} (blank : IsBlank space) (done : List Token)
    (rest : List UInt8) : run ⟨done, .between⟩ (space ++ rest) = run ⟨done, .between⟩ rest := by
  induction space with
  | nil => rfl
  | cons b space ih =>
    have first : step ⟨done, .between⟩ b = ⟨done, .between⟩ := by
      have mem := blank b List.mem_cons_self
      simp only [List.mem_cons, List.not_mem_nil, or_false] at mem
      rcases mem with rfl | rfl | rfl | rfl <;> rfl
    rw [List.cons_append, run_cons, first, ih fun c hc => blank c (List.mem_cons_of_mem b hc)]

/-- A token is read in each of its spellings. -/
theorem run_token {t : Token} {bs : List UInt8} (h : t.SpelledAs bs) {rest : List UInt8}
    (delimited : t.IsNumber → IsDelimited rest) (done : List Token) :
    (run ⟨done, .between⟩ (bs ++ rest)).finish = (run ⟨t :: done, .between⟩ rest).finish := by
  cases h with
  | word w => cases w <;> rfl
  | @string items bs spelled =>
    rw [List.cons_append, List.append_assoc]
    show (run ⟨done, .string []⟩ (bs ++ ([0x22] ++ rest))).finish = _
    rw [run_items spelled]
    simp [step, emit]
  | number grammar spelled => exact run_numeral grammar spelled (delimited (.number _)) done
  | openArray | closeArray | openObject | closeObject | comma | colon => rfl

/-- Spelled tokens are read as these tokens. -/
theorem run_spelledTokens {ts : List Token} {bs : List UInt8} (h : SpelledTokens ts bs)
    (apart : ts.IsChain Apart) (done : List Token) :
    (run ⟨done, .between⟩ bs).finish = done.reverse ++ ts := by
  induction h generalizing done with
  | @blank space blank =>
    have read := run_blank blank done []
    rw [List.append_nil] at read
    rw [read, List.append_nil]
    rfl
  | @token t ts space bs rest blank first others ih =>
    obtain ⟨next, apart⟩ := List.isChain_cons.1 apart
    have delimited (number : t.IsNumber) : IsDelimited rest :=
      isDelimited_of_spelledTokens others fun s hs => next s hs number
    rw [run_blank blank, run_token first delimited, ih apart]
    simp

end Lexer

theorem tokens_of_spelledAs {n : Node} {bs : List UInt8} (h : n.SpelledAs bs) :
    Json.tokens bs = n.tokens := by
  have apart : n.tokens.IsChain Apart := by
    rw [← List.append_nil n.tokens]
    exact n.isChain_tokens .nil nofun
  exact Lexer.run_spelledTokens h.tokens apart []

/-! ### From tokens to the tree -/

namespace Builder

theorem head_tokens {n : Node} (whole : n.IsWhole) :
    ∃ t ts, n.tokens = t :: ts ∧ t ≠ .closeArray := by
  match n with
  | .word _ | .string _ | .number _ => exact ⟨_, _, rfl, nofun⟩
  | .array [] _ | .array (_ :: _) _ => exact ⟨_, _, rfl, nofun⟩
  | .object [] _ | .object ((_, _) :: _) _ => exact ⟨_, _, rfl, nofun⟩
  | .brokenWord _ _ | .brokenNumber _ | .absent _ => exact whole.elim

/-- The first element of an array is a value like any other. -/
theorem run_element {n : Node} (whole : n.IsWhole) (around : List Frame) (rest : List Token) :
    run (.element around) (n.tokens ++ rest) =
      run (.value (.array [] :: around)) (n.tokens ++ rest) := by
  obtain ⟨t, ts, head, other⟩ := head_tokens whole
  rw [head, List.cons_append, run_cons, run_cons]
  congr 1
  cases t <;> first | rfl | contradiction

mutual

/-- The tokens of a whole tree complete it. -/
theorem run_tokens (n : Node) (whole : n.IsWhole) (around : List Frame) (rest : List Token) :
    run (.value around) (n.tokens ++ rest) = run (close n around) rest := by
  match n with
  | .word _ | .number _ => rfl
  | .string ⟨items, fault⟩ =>
    obtain rfl : fault = none := whole
    rfl
  | .array [] ending =>
    obtain ⟨-, rfl⟩ := whole
    rfl
  | .array (n :: ns) ending =>
    obtain ⟨⟨first, others⟩, rfl⟩ := whole
    have one := run_tokens n first (.array [] :: around) (Node.elementTokens ns ++ rest)
    have more := run_elementTokens ns others [n] around rest
    show run (.element around) ((n.tokens ++ Node.elementTokens ns) ++ rest) = _
    rw [List.append_assoc, run_element first, one]
    exact more
  | .object [] ending =>
    obtain ⟨-, rfl⟩ := whole
    rfl
  | .object ((⟨items, fault⟩, n) :: ms) ending =>
    obtain ⟨⟨rfl, first, others⟩, rfl⟩ := whole
    have one := run_tokens n first (.object [] ⟨items, none⟩ :: around)
      (Node.memberTokens ms ++ rest)
    have more := run_memberTokens ms others [(⟨items, none⟩, n)] around rest
    show run (.value (.object [] ⟨items, none⟩ :: around))
      ((n.tokens ++ Node.memberTokens ms) ++ rest) = _
    rw [List.append_assoc, one]
    exact more
  | .brokenWord _ _ | .brokenNumber _ | .absent _ => exact whole.elim

theorem run_elementTokens (ns : List Node) (whole : Node.AreWhole ns) (elements : List Node)
    (around : List Frame) (rest : List Token) :
    run (.afterElement elements around) (Node.elementTokens ns ++ rest) =
      run (close (.array (elements.reverse ++ ns) .closed) around) rest := by
  match ns with
  | [] =>
    rw [List.append_nil]
    rfl
  | n :: ns =>
    obtain ⟨first, others⟩ := whole
    have one := run_tokens n first (.array elements :: around) (Node.elementTokens ns ++ rest)
    have more := run_elementTokens ns others (n :: elements) around rest
    show run (.value (.array elements :: around)) ((n.tokens ++ Node.elementTokens ns) ++ rest) = _
    rw [List.append_assoc, one]
    rw [List.reverse_cons, List.append_assoc] at more
    exact more

theorem run_memberTokens (ms : List (Literal × Node)) (whole : Node.AreWholeMembers ms)
    (members : List (Literal × Node)) (around : List Frame) (rest : List Token) :
    run (.afterMember members around) (Node.memberTokens ms ++ rest) =
      run (close (.object (members.reverse ++ ms) .closed) around) rest := by
  match ms with
  | [] =>
    rw [List.append_nil]
    rfl
  | (⟨items, fault⟩, n) :: ms =>
    obtain ⟨rfl, first, others⟩ := whole
    have one := run_tokens n first (.object members ⟨items, none⟩ :: around)
      (Node.memberTokens ms ++ rest)
    have more := run_memberTokens ms others ((⟨items, none⟩, n) :: members) around rest
    show run (.value (.object members ⟨items, none⟩ :: around))
      ((n.tokens ++ Node.memberTokens ms) ++ rest) = _
    rw [List.append_assoc, one]
    rw [List.reverse_cons, List.append_assoc] at more
    exact more

end

end Builder

/-- A text of a tree is read as that tree, with nothing after it. -/
theorem ofBytes_of_spelledAs {n : Node} {bs : List UInt8} (h : n.SpelledAs bs) :
    Document.ofBytes bs = ⟨n, false⟩ := by
  have built := Builder.run_tokens n h.whole [] []
  rw [List.append_nil] at built
  rw [Document.ofBytes, tokens_of_spelledAs h, Document.ofTokens, Builder.start, built]
  rfl

/-- A reader is given the tree, however it is spelled. -/
theorem read_of_spelledAs {α : Type} (reader : Reader α) {n : Node} {bs : List UInt8}
    (h : n.SpelledAs bs) : read reader bs = reader n := by
  unfold read
  rw [ofBytes_of_spelledAs h]
  simp

/-! ### Skipping -/

namespace Node

mutual

/-- A whole tree can be skipped, whatever it holds. -/
theorem skip_of_isWhole (n : Node) (whole : n.IsWhole) : n.skip = .ok () := by
  match n with
  | .word _ | .number _ => rfl
  | .string ⟨items, fault⟩ =>
    obtain rfl : fault = none := whole
    rfl
  | .array ns ending =>
    obtain ⟨others, rfl⟩ := whole
    rw [skip, skipAll_of_areWhole ns others]
    rfl
  | .object ms ending =>
    obtain ⟨others, rfl⟩ := whole
    rw [skip, skipMembers_of_areWhole ms others]
    rfl
  | .brokenWord _ _ | .brokenNumber _ | .absent _ => exact whole.elim

theorem skipAll_of_areWhole (ns : List Node) (whole : AreWhole ns) : skipAll ns = .ok () := by
  match ns with
  | [] => rfl
  | n :: ns =>
    obtain ⟨first, others⟩ := whole
    rw [skipAll, skip_of_isWhole n first]
    exact skipAll_of_areWhole ns others

theorem skipMembers_of_areWhole (ms : List (Literal × Node)) (whole : AreWholeMembers ms) :
    skipMembers ms = .ok () := by
  match ms with
  | [] => rfl
  | (⟨items, fault⟩, n) :: ms =>
    obtain ⟨rfl, first, others⟩ := whole
    rw [skipMembers, skip_of_isWhole n first]
    exact skipMembers_of_areWhole ms others

end

theorem areWhole_iff {ns : List Node} : AreWhole ns ↔ ∀ n ∈ ns, n.IsWhole := by
  induction ns with
  | nil => simp [AreWhole]
  | cons n ns ih => simp [AreWhole, ih]

end Node

end ActualState.Json
