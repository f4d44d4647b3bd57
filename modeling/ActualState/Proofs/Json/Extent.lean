import ActualState.Proofs.Json.Records
import Mathlib.Data.List.DropRight

/-!
# Where a text ends

A text whose value is an array or an object ends with the bracket of that value. At that place the
lexer has no token under way and the builder needs none any more, so that white space changes
nothing and everything else stands after the text. No part of such a text is a text of its own.
-/
namespace ActualState.Json

/-- The tokens that end a container. -/
def Token.IsClosing : Token → Prop
  | .closeArray | .closeObject => True
  | _ => False

/-- An array or an object that ends with its own bracket. -/
def Node.IsEnclosed : Node → Prop
  | .array _ ending | .object _ ending => ending = .closed
  | _ => False

/-! ### Brackets among tokens -/

namespace Builder

variable {b : Builder} {t : Token} {n : Node} {around : List Frame} {d : Document}

/-- Where a text is cut, its outermost container is cut. -/
theorem not_isEnclosed_cut (found : Option Token) (open_ : ¬ n.IsEnclosed) (around : List Frame) :
    ¬ (cut found n around).root.IsEnclosed := by
  induction around generalizing n with
  | nil => exact open_
  | cons frame around ih =>
    cases frame with
    | array elements => exact ih (by simp [Node.IsEnclosed])
    | object members name => exact ih (by simp [Node.IsEnclosed])

/-- A text that ends before its value does is no container that ends with its bracket. -/
theorem exists_finished (enclosed : b.finish.root.IsEnclosed) : ∃ d, b = .finished d := by
  have cutShort {found : Option Token} {n : Node} {around : List Frame} (open_ : ¬ n.IsEnclosed)
      (enclosed : (cut found n around).root.IsEnclosed) : ∃ d, b = .finished d :=
    absurd enclosed (not_isEnclosed_cut found open_ around)
  cases b with
  | value around =>
    cases around with
    | nil => exact cutShort (by simp [Node.IsEnclosed]) enclosed
    | cons frame around =>
      cases frame <;> exact cutShort (by simp [Node.IsEnclosed]) enclosed
  | element around => exact cutShort (by simp [Node.IsEnclosed]) enclosed
  | afterElement elements around => exact cutShort (by simp [Node.IsEnclosed]) enclosed
  | key members around => exact cutShort (by simp [Node.IsEnclosed]) enclosed
  | colon members key around => exact cutShort (by simp [Node.IsEnclosed]) enclosed
  | afterMember members around => exact cutShort (by simp [Node.IsEnclosed]) enclosed
  | finished d => exact ⟨d, rfl⟩

theorem eq_of_close (last : close n around = .finished d) : d = ⟨n, false⟩ := by
  cases around with
  | nil => exact (Builder.finished.inj last).symm
  | cons frame around => cases frame <;> contradiction

/-- A single token is no container. -/
theorem not_isEnclosed_of_takeValue (last : takeValue t around = .finished d) :
    ¬ d.root.IsEnclosed := by
  have single {n : Node} (open_ : ¬ n.IsEnclosed) (last : close n around = .finished d) :
      ¬ d.root.IsEnclosed := eq_of_close last ▸ open_
  have cutShort {found : Option Token} {n : Node} (open_ : ¬ n.IsEnclosed)
      (last : Builder.finished (cut found n around) = .finished d) : ¬ d.root.IsEnclosed :=
    Builder.finished.inj last ▸ not_isEnclosed_cut found open_ around
  unfold takeValue at last
  split at last
  · exact single (by simp [Node.IsEnclosed]) last
  · exact single (by simp [Node.IsEnclosed]) last
  · exact single (by simp [Node.IsEnclosed]) last
  · exact cutShort (by simp [Node.IsEnclosed]) last
  · exact cutShort (by simp [Node.IsEnclosed]) last
  · exact cutShort (by simp [Node.IsEnclosed]) last
  · contradiction
  · contradiction
  all_goals exact cutShort (by simp [Node.IsEnclosed]) last

/-- The token that completes a container is its bracket. -/
theorem isClosing_of_step (last : b.step t = .finished d) (enclosed : d.root.IsEnclosed)
    (sound : d.trailing = false) : t.IsClosing := by
  have cutShort {found : Option Token} {n : Node} {around : List Frame} (open_ : ¬ n.IsEnclosed)
      (last : Builder.finished (cut found n around) = .finished d) : t.IsClosing :=
    absurd enclosed (Builder.finished.inj last ▸ not_isEnclosed_cut found open_ around)
  unfold step at last
  split at last
  · exact absurd enclosed (not_isEnclosed_of_takeValue last)
  · split at last
    · trivial
    · exact absurd enclosed (not_isEnclosed_of_takeValue last)
  · split at last
    · trivial
    · contradiction
    · exact cutShort (by simp [Node.IsEnclosed]) last
  · split at last
    · contradiction
    · exact cutShort (by simp [Node.IsEnclosed]) last
    · trivial
    · exact cutShort (by simp [Node.IsEnclosed]) last
  · split at last
    · contradiction
    · exact cutShort (by simp [Node.IsEnclosed]) last
  · split at last
    · trivial
    · contradiction
    · exact cutShort (by simp [Node.IsEnclosed]) last
  · rw [← Builder.finished.inj last] at sound
    contradiction

/-- Whatever follows a complete text stands after it. -/
theorem run_finished (d : Document) {ts : List Token} (some_ : ts ≠ []) :
    run (.finished d) ts = .finished { d with trailing := true } := by
  induction ts generalizing d with
  | nil => contradiction
  | cons t ts ih =>
    rw [run_cons, step]
    by_cases last : ts = []
    · rw [last, run_nil]
    · exact ih _ last

end Builder

namespace Document

variable {ts : List Token}

theorem run_of_isEnclosed (enclosed : (ofTokens ts).root.IsEnclosed) :
    Builder.start.run ts = .finished (ofTokens ts) := by
  obtain ⟨d, complete⟩ := Builder.exists_finished enclosed
  rw [ofTokens, complete, Builder.finish]

/-- The last token of a container is its bracket. -/
theorem exists_closing (enclosed : (ofTokens ts).root.IsEnclosed)
    (sound : (ofTokens ts).trailing = false) : ∃ t ∈ ts.getLast?, t.IsClosing := by
  have complete := run_of_isEnclosed enclosed
  rcases List.eq_nil_or_concat ts with rfl | ⟨before, t, rfl⟩
  · contradiction
  · rw [List.concat_eq_append] at *
    rw [Builder.run_append, Builder.run_cons, Builder.run_nil] at complete
    exact ⟨t, by simp, Builder.isClosing_of_step complete enclosed sound⟩

/-- Tokens after the last one of a container stand after the text. -/
theorem ofTokens_append (enclosed : (ofTokens ts).root.IsEnclosed) {more : List Token}
    (some_ : more ≠ []) : ofTokens (ts ++ more) = { ofTokens ts with trailing := true } := by
  rw [ofTokens, Builder.run_append, run_of_isEnclosed enclosed, Builder.run_finished _ some_,
    Builder.finish]

end Document

/-! ### What a byte can do -/

theorem isSpace_iff {b : UInt8} : isSpace b = true ↔ b ∈ [(0x20 : UInt8), 0x09, 0x0A, 0x0D] := by
  simp [isSpace, or_assoc]

/-- A token has been begun and is not complete. -/
def Scan.IsUnderWay (s : Scan) : Prop := s ≠ .between ∧ s ≠ .halted

namespace Lexer

/-- What a byte between tokens can do. -/
inductive Begins (done : List Token) (b : UInt8) : Lexer → Prop
  | space (blank : isSpace b = true) : Begins done b ⟨done, .between⟩
  | mark (t : Token) (solid : ¬ isSpace b = true) : Begins done b ⟨t :: done, .between⟩
  | opened {scan : Scan} (underWay : scan.IsUnderWay) (solid : ¬ isSpace b = true) :
      Begins done b ⟨done, scan⟩
  | junk (solid : ¬ isSpace b = true) : Begins done b ⟨.junk :: done, .halted⟩

theorem begin_begins (l : Lexer) (b : UInt8) : Begins l.done b (l.begin b) := by
  by_cases blank : isSpace b = true
  · rw [begin, if_pos blank]
    exact .space blank
  · have either {p : Prop} [Decidable p] {j k : Lexer} (first : Begins l.done b j)
        (second : Begins l.done b k) : Begins l.done b (if p then j else k) := by
      split
      · exact first
      · exact second
    have mark (t : Token) : Begins l.done b (l.emit t) := .mark t blank
    have opened {scan : Scan} (underWay : scan.IsUnderWay) : Begins l.done b ⟨l.done, scan⟩ :=
      .opened underWay blank
    rw [begin, if_neg blank]
    iterate 6 refine either (mark _) ?_
    iterate 5 refine either (opened (by simp [Scan.IsUnderWay])) ?_
    split
    · exact opened (by simp [Scan.IsUnderWay])
    · exact opened (by simp [Scan.IsUnderWay])
    · exact .junk blank

/-- What a byte can do. -/
inductive Steps (l : Lexer) (b : UInt8) : Lexer → Prop
  | began {k : Lexer} (between : l.scan = .between) (next : Begins l.done b k) : Steps l b k
  | stuck {k : Lexer} (halted : l.scan = .halted) (same : k = l) : Steps l b k
  | more {scan : Scan} (busy : l.scan.IsUnderWay) (underWay : scan.IsUnderWay) :
      Steps l b ⟨l.done, scan⟩
  | ended {t : Token} (busy : l.scan.IsUnderWay) (inner : ¬ t.IsClosing) :
      Steps l b ⟨t :: l.done, .between⟩
  /-- The byte is the first one behind a word or a number. -/
  | followed {t : Token} {k : Lexer} (busy : l.scan.IsUnderWay) (inner : ¬ t.IsClosing)
      (next : Begins (t :: l.done) b k) : Steps l b k
  | broke {t : Token} (busy : l.scan.IsUnderWay) (inner : ¬ t.IsClosing) :
      Steps l b ⟨t :: l.done, .halted⟩

theorem step_steps (l : Lexer) (b : UInt8) : Steps l b (l.step b) := by
  obtain ⟨done, scan⟩ := l
  have emits {t : Token} (inner : ¬ t.IsClosing) (busy : scan.IsUnderWay) :
      Steps ⟨done, scan⟩ b (begin ⟨t :: done, .between⟩ b) :=
    .followed busy inner (begin_begins ⟨t :: done, .between⟩ b)
  cases scan with
  | between => exact .began rfl (begin_begins ⟨done, .between⟩ b)
  | halted => exact .stuck rfl rfl
  | word w left =>
    cases left with
    | nil => exact emits (by simp [Token.IsClosing]) (by simp [Scan.IsUnderWay])
    | cons c left =>
      simp only [step]
      split
      · split
        · exact .ended (by simp [Scan.IsUnderWay]) (by simp [Token.IsClosing])
        · exact .more (by simp [Scan.IsUnderWay]) (by simp [Scan.IsUnderWay])
      · exact .broke (by simp [Scan.IsUnderWay]) (by simp [Token.IsClosing])
  | number n =>
    simp only [step]
    split
    · exact .more (by simp [Scan.IsUnderWay]) (by simp [Scan.IsUnderWay])
    · exact emits (by simp [Token.IsClosing]) (by simp [Scan.IsUnderWay])
    · exact .broke (by simp [Scan.IsUnderWay]) (by simp [Token.IsClosing])
  | string items =>
    simp only [step]
    split
    · exact .ended (by simp [Scan.IsUnderWay]) (by simp [Token.IsClosing])
    · split
      · exact .more (by simp [Scan.IsUnderWay]) (by simp [Scan.IsUnderWay])
      · split
        · exact .broke (by simp [Scan.IsUnderWay]) (by simp [Token.IsClosing])
        · exact .more (by simp [Scan.IsUnderWay]) (by simp [Scan.IsUnderWay])
  | escape items =>
    simp only [step]
    split
    · exact .more (by simp [Scan.IsUnderWay]) (by simp [Scan.IsUnderWay])
    · split
      · exact .more (by simp [Scan.IsUnderWay]) (by simp [Scan.IsUnderWay])
      · exact .broke (by simp [Scan.IsUnderWay]) (by simp [Token.IsClosing])
  | hex items seen =>
    simp only [step]
    split
    · exact .more (by simp [Scan.IsUnderWay]) (by simp [Scan.IsUnderWay])
    · split
      · exact .more (by simp [Scan.IsUnderWay]) (by simp [Scan.IsUnderWay])
      · exact .broke (by simp [Scan.IsUnderWay]) (by simp [Token.IsClosing])

/-- At the end of a text the token under way is the last one, and no bracket. -/
theorem finish_of_underWay {l : Lexer} (busy : l.scan.IsUnderWay) :
    ∃ t, ¬ t.IsClosing ∧ l.finish = (t :: l.done).reverse := by
  obtain ⟨done, scan⟩ := l
  obtain ⟨between, halted⟩ := busy
  cases scan with
  | between => contradiction
  | halted => contradiction
  | word w left => cases left <;> exact ⟨_, by simp [Token.IsClosing], rfl⟩
  | number n =>
    refine ⟨n.finish, ?_, rfl⟩
    unfold PartialNumber.finish
    split <;> simp [Token.IsClosing]
  | string items => exact ⟨_, by simp [Token.IsClosing], rfl⟩
  | escape items => exact ⟨_, by simp [Token.IsClosing], rfl⟩
  | hex items seen => exact ⟨_, by simp [Token.IsClosing], rfl⟩

theorem finish_of_idle {l : Lexer} (idle : ¬ l.scan.IsUnderWay) : l.finish = l.done.reverse := by
  obtain ⟨done, scan⟩ := l
  cases scan with
  | between => rfl
  | halted => rfl
  | word w left => exact absurd (by simp [Scan.IsUnderWay]) idle
  | number n => exact absurd (by simp [Scan.IsUnderWay]) idle
  | string items => exact absurd (by simp [Scan.IsUnderWay]) idle
  | escape items => exact absurd (by simp [Scan.IsUnderWay]) idle
  | hex items seen => exact absurd (by simp [Scan.IsUnderWay]) idle

/-! ### Brackets among bytes -/

/-- No token is under way, and the last one is a bracket that ends a container. -/
structure IsAtBracket (l : Lexer) : Prop where
  between : l.scan = .between
  bracket : ∃ t ∈ l.done.head?, t.IsClosing

/-- A lexer that has halted did so at a token that is no such bracket. -/
def HaltsApart (l : Lexer) : Prop := l.scan = .halted → ∀ t ∈ l.done.head?, ¬ t.IsClosing

variable {l k : Lexer} {b : UInt8} {ts : List Token}

theorem Begins.haltsApart (h : Begins ts b k) : k.HaltsApart := by
  cases h with
  | space => exact nofun
  | mark => exact nofun
  | opened underWay => exact fun halted => absurd halted underWay.2
  | junk => simp [HaltsApart, Token.IsClosing]

theorem Steps.haltsApart (steps : Steps l b k) (h : l.HaltsApart) : k.HaltsApart := by
  cases steps with
  | began between next => exact next.haltsApart
  | stuck _ same => rwa [same]
  | more busy underWay => exact fun halted => absurd halted underWay.2
  | ended => exact nofun
  | followed busy inner next => exact next.haltsApart
  | broke busy inner => simpa [HaltsApart] using inner

theorem HaltsApart.run (h : l.HaltsApart) (bs : List UInt8) : (l.run bs).HaltsApart := by
  induction bs generalizing l with
  | nil => exact h
  | cons b bs ih => exact ih ((l.step_steps b).haltsApart h)

/-- Where the tokens of a text end with a bracket, the lexer is right behind it. -/
theorem isAtBracket_of_finish (h : l.HaltsApart) {t : Token} (last : t ∈ l.finish.getLast?)
    (closing : t.IsClosing) : l.IsAtBracket := by
  by_cases busy : l.scan.IsUnderWay
  · obtain ⟨s, inner, whole⟩ := finish_of_underWay busy
    obtain rfl : s = t := by simpa [whole] using last
    contradiction
  · have head : t ∈ l.done.head? := by simpa [finish_of_idle busy] using last
    refine ⟨?_, t, head, closing⟩
    by_contra other
    exact busy ⟨other, fun halted => h halted t head closing⟩

theorem IsAtBracket.finish_eq (h : l.IsAtBracket) : l.finish = l.done.reverse :=
  finish_of_idle fun busy => busy.1 h.between

/-- Behind a token that is no bracket, white space leads to no bracket. -/
theorem Begins.not_isAtBracket {t : Token} (next : Begins (t :: ts) b k)
    (blank : isSpace b = true) (inner : ¬ t.IsClosing) : ¬ k.IsAtBracket := by
  rintro ⟨between, s, head, closing⟩
  cases next with
  | space =>
    obtain rfl : t = s := Option.some.inj head
    contradiction
  | mark _ solid => contradiction
  | opened _ solid => contradiction
  | junk solid => contradiction

/-- White space that ends behind a bracket has begun there. -/
theorem Steps.eq_of_isAtBracket (steps : Steps l b k) (blank : isSpace b = true)
    (h : k.IsAtBracket) : k = l := by
  cases steps with
  | began start next =>
    cases next with
    | space => exact congrArg (Lexer.mk l.done) start.symm
    | mark _ solid => contradiction
    | opened _ solid => contradiction
    | junk solid => contradiction
  | stuck _ same => exact same
  | more _ underWay => exact absurd h.between underWay.1
  | @ended t _ inner =>
    obtain ⟨s, head, closing⟩ := h.bracket
    obtain rfl : t = s := Option.some.inj head
    contradiction
  | followed _ inner next => exact absurd h (next.not_isAtBracket blank inner)
  | broke => exact nomatch h.between

theorem run_eq_of_isAtBracket {space : List UInt8} (blank : IsBlank space)
    (h : (l.run space).IsAtBracket) : l.run space = l := by
  induction space generalizing l with
  | nil => rfl
  | cons b space ih =>
    have rest := ih (fun c hc => blank c (List.mem_cons_of_mem b hc)) h
    rw [run_cons] at h ⊢
    rw [rest] at h ⊢
    exact (l.step_steps b).eq_of_isAtBracket (isSpace_iff.2 (blank b List.mem_cons_self)) h

/-- Something has been read behind the tokens `ts`. -/
def IsPast (ts : List Token) (l : Lexer) : Prop :=
  ∃ more, l.done = more ++ ts ∧ (more ≠ [] ∨ l.scan.IsUnderWay)

/-- What a byte does behind a place that is past `ts` is past it as well. -/
theorem Begins.isPast {more : List Token} (next : Begins (more ++ ts) b k) (some_ : more ≠ []) :
    k.IsPast ts := by
  cases next with
  | space => exact ⟨more, rfl, .inl some_⟩
  | mark t => exact ⟨t :: more, rfl, .inl (by simp)⟩
  | opened underWay => exact ⟨more, rfl, .inr underWay⟩
  | junk => exact ⟨.junk :: more, rfl, .inl (by simp)⟩

theorem Steps.isPast (steps : Steps l b k) (h : l.IsPast ts) : k.IsPast ts := by
  obtain ⟨more, read, past⟩ := h
  cases steps with
  | began between next =>
    rw [read] at next
    exact next.isPast (past.resolve_right fun busy => busy.1 between)
  | stuck _ same => exact same ▸ ⟨more, read, past⟩
  | more _ underWay => exact ⟨more, read, .inr underWay⟩
  | @ended t => exact ⟨t :: more, by simp [read], .inl (by simp)⟩
  | @followed t _ _ _ next =>
    rw [read, ← List.cons_append] at next
    exact next.isPast (List.cons_ne_nil t more)
  | @broke t => exact ⟨t :: more, by simp [read], .inl (by simp)⟩

theorem IsPast.run (h : l.IsPast ts) (bs : List UInt8) : (l.run bs).IsPast ts := by
  induction bs generalizing l with
  | nil => exact h
  | cons b bs ih => exact ih ((l.step_steps b).isPast h)

theorem IsPast.exists_finish (h : l.IsPast ts) :
    ∃ more, more ≠ [] ∧ l.finish = ts.reverse ++ more := by
  obtain ⟨more, read, past⟩ := h
  by_cases busy : l.scan.IsUnderWay
  · obtain ⟨t, -, whole⟩ := finish_of_underWay busy
    exact ⟨(t :: more).reverse, by simp, by simp [whole, read]⟩
  · exact ⟨more.reverse, by simpa using past.resolve_right busy,
      by simp [finish_of_idle busy, read]⟩

/-- Between tokens, a byte that is no white space begins one. -/
theorem isPast_begin (ts : List Token) (solid : ¬ isSpace b = true) :
    (begin ⟨ts, .between⟩ b).IsPast ts := by
  generalize next : begin ⟨ts, .between⟩ b = k
  have begun : Begins ts b k := next ▸ begin_begins ⟨ts, .between⟩ b
  cases begun with
  | space => contradiction
  | mark t => exact ⟨[t], rfl, .inl (by simp)⟩
  | opened underWay => exact ⟨[], rfl, .inr underWay⟩
  | junk => exact ⟨[.junk], rfl, .inl (by simp)⟩

/-- Between tokens, bytes that are not all white space give further ones. -/
theorem isPast_run (ts : List Token) {bs : List UInt8} (solid : ¬ IsBlank bs) :
    (run ⟨ts, .between⟩ bs).IsPast ts := by
  induction bs with
  | nil => exact absurd isBlank_nil solid
  | cons b bs ih =>
    by_cases blank : isSpace b = true
    · have same : step ⟨ts, .between⟩ b = ⟨ts, .between⟩ := if_pos blank
      rw [run_cons, same]
      apply ih
      intro rest
      exact solid (List.forall_mem_cons.2 ⟨isSpace_iff.1 blank, rest⟩)
    · exact (isPast_begin ts blank).run bs

end Lexer

/-! ### Texts -/

section

variable {bs : List UInt8} {t : Token}

theorem isAtBracket_of_tokens (last : t ∈ (tokens bs).getLast?) (closing : t.IsClosing) :
    (Lexer.start.run bs).IsAtBracket := by
  have start : Lexer.start.HaltsApart := nofun
  exact Lexer.isAtBracket_of_finish (start.run bs) last closing

/-- White space behind the last bracket of a text can be left out. -/
theorem tokens_of_append_blank {space : List UInt8} (blank : IsBlank space)
    (last : t ∈ (tokens (bs ++ space)).getLast?) (closing : t.IsClosing) :
    tokens bs = tokens (bs ++ space) := by
  have behind := isAtBracket_of_tokens last closing
  rw [Lexer.run_append] at behind
  rw [tokens, tokens, Lexer.run_append, Lexer.run_eq_of_isAtBracket blank behind]

/-- White space behind the last bracket of a text changes nothing. -/
theorem tokens_append_blank {space : List UInt8} (blank : IsBlank space)
    (last : t ∈ (tokens bs).getLast?) (closing : t.IsClosing) :
    tokens (bs ++ space) = tokens bs := by
  have behind := isAtBracket_of_tokens last closing
  unfold tokens
  rw [Lexer.run_append]
  generalize Lexer.start.run bs = l at behind ⊢
  obtain ⟨ts, scan⟩ := l
  obtain rfl : scan = .between := behind.between
  have same := Lexer.run_blank blank ts []
  rw [List.append_nil] at same
  rw [same, Lexer.run_nil]

/-- Whatever else follows the last bracket of a text gives further tokens. -/
theorem exists_tokens_append {rest : List UInt8} (solid : ¬ IsBlank rest)
    (last : t ∈ (tokens bs).getLast?) (closing : t.IsClosing) :
    ∃ more, more ≠ [] ∧ tokens (bs ++ rest) = tokens bs ++ more := by
  have behind := isAtBracket_of_tokens last closing
  unfold tokens
  rw [Lexer.run_append, behind.finish_eq]
  generalize Lexer.start.run bs = l at behind ⊢
  obtain ⟨ts, scan⟩ := l
  obtain rfl : scan = .between := behind.between
  exact (Lexer.isPast_run ts solid).exists_finish

end

/-- Readers of values that are arrays or objects. -/
def Reader.IsEnclosing {α : Type} (reader : Reader α) : Prop :=
  ∀ n a, reader n = .ok a → n.IsEnclosed

namespace Reader

variable {α : Type} {reader : Reader α} {bs : List UInt8} {a : α}

/-- A text that is read is a container with nothing behind it. -/
theorem IsEnclosing.exists_closing (h : reader.IsEnclosing) (accepted : read reader bs = .ok a) :
    reader (Document.ofBytes bs).root = .ok a ∧ (Document.ofBytes bs).trailing = false ∧
      ∃ t ∈ (tokens bs).getLast?, t.IsClosing := by
  obtain ⟨b, value, accepted⟩ := bind_eq_ok.1 accepted
  split at accepted
  · contradiction
  · next sound =>
    obtain rfl : b = a := Except.ok.inj accepted
    have sound : (Document.ofBytes bs).trailing = false := by simpa using sound
    exact ⟨value, sound, Document.exists_closing (h _ _ value) sound⟩

/-- What is read does not depend on white space behind it. -/
theorem IsEnclosing.read_append_blank (h : reader.IsEnclosing) {space : List UInt8}
    (blank : IsBlank space) : read reader (bs ++ space) = .ok a ↔ read reader bs = .ok a := by
  constructor
  · intro accepted
    obtain ⟨-, -, t, last, closing⟩ := h.exists_closing accepted
    rwa [read, Document.ofBytes, tokens_of_append_blank blank last closing]
  · intro accepted
    obtain ⟨-, -, t, last, closing⟩ := h.exists_closing accepted
    rwa [read, Document.ofBytes, tokens_append_blank blank last closing]

/-- A text that is read can only be followed by white space. -/
theorem IsEnclosing.read_append (h : reader.IsEnclosing) (accepted : read reader bs = .ok a)
    {rest : List UInt8} (solid : ¬ IsBlank rest) :
    read reader (bs ++ rest) = throwFault .malformed := by
  obtain ⟨value, sound, t, last, closing⟩ := h.exists_closing accepted
  obtain ⟨more, some_, longer⟩ := exists_tokens_append solid last closing
  have enclosed : (Document.ofTokens (tokens bs)).root.IsEnclosed := h _ _ value
  have whole : Document.ofBytes (bs ++ rest) = { Document.ofBytes bs with trailing := true } := by
    rw [Document.ofBytes, longer]
    exact Document.ofTokens_append enclosed some_
  rw [read, whole]
  simp only [value, ok_bind, if_true]
  rfl

/-- Records are read from arrays and objects. -/
theorem isEnclosing_readRecord {σ : Type} (title : String) (fields : List (Field Node Problem σ))
    (start : σ) : IsEnclosing (readRecord title fields start) := by
  intro n s read_
  unfold readRecord at read_
  split at read_
  · next ms ending =>
    obtain ⟨_, -, read_⟩ := bind_eq_ok.1 read_
    obtain ⟨_, checked, -⟩ := bind_eq_ok.1 read_
    cases ending with
    | closed => rfl
    | cut => contradiction
  · next elements ending =>
    obtain ⟨⟨rest, _⟩, -, read_⟩ := bind_eq_ok.1 read_
    obtain ⟨_, checked, -⟩ := bind_eq_ok.1 read_
    unfold checkEnd at checked
    split at checked
    · contradiction
    · rfl
    · contradiction
    · contradiction
  · exact absurd read_ (unexpected_ne_ok _ _ _)

end Reader

end ActualState.Json
