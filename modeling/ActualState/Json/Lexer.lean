import ActualState.Json.Token
import ActualState.Text.Hex

/-!
# Reading JSON tokens

A `Lexer` reads a text byte by byte: `Lexer.step` takes one byte, `Lexer.finish` says what
stands at the end. Only the shape of tokens is looked at: whether a string holds characters
and whether a number is in range is decided by those who use the token. A broken token is the
last one, since nothing after it can be told apart.
-/
namespace ActualState.Json

/-- Where a number literal has got to. -/
inductive NumberPhase where
  /-- After the sign: a digit has to follow. -/
  | sign
  /-- After a leading zero: no further digit may follow. -/
  | zero
  | whole
  /-- After the point: a digit has to follow. -/
  | point
  | fraction
  /-- After `e`: a sign or a digit has to follow. -/
  | mark
  /-- After the sign of the exponent: a digit has to follow. -/
  | markSign
  | exponent
  deriving DecidableEq, Repr, Inhabited

/-- A number literal in the making; its digit lists are held last digit first. -/
structure PartialNumber where
  phase : NumberPhase
  numeral : Numeral
  deriving DecidableEq, Repr, Inhabited

/-- The token being read. String items are held last one first. -/
inductive Scan where
  | between
  | word (w : Word) (left : List UInt8)
  | number (n : PartialNumber)
  | string (items : List Item)
  | escape (items : List Item)
  | hex (items : List Item) (seen : List UInt8)
  /-- After a broken token. -/
  | halted
  deriving DecidableEq, Repr, Inhabited

/-- The tokens read so far, last one first, and the one being read. -/
structure Lexer where
  done : List Token
  scan : Scan
  deriving DecidableEq, Repr, Inhabited

/-- Insignificant white space. -/
def isSpace (b : UInt8) : Bool := b = 0x20 || b = 0x09 || b = 0x0A || b = 0x0D

/-- The value of a decimal digit. -/
def digit? (b : UInt8) : Option Nat :=
  if 0x30 ≤ b && b ≤ 0x39 then some (b.toNat - 0x30) else none

/-- The UTF-16 unit that four hex digits spell, the last digit first. -/
def unit? : List UInt8 → Option Nat
  | [d, c, b, a] => do
    let a ← Text.hexDigit? a
    let b ← Text.hexDigit? b
    let c ← Text.hexDigit? c
    let d ← Text.hexDigit? d
    return ((a * 16 + b) * 16 + c) * 16 + d
  | _ => none

/-- The byte that a short escape stands for, by the letter after the backslash. -/
def shortEscape? (b : UInt8) : Option UInt8 :=
  if b = 0x22 then some 0x22
  else if b = 0x5C then some 0x5C
  else if b = 0x2F then some 0x2F
  else if b = 0x62 then some 0x08
  else if b = 0x66 then some 0x0C
  else if b = 0x6E then some 0x0A
  else if b = 0x72 then some 0x0D
  else if b = 0x74 then some 0x09
  else none

namespace Numeral

/-- The numeral with every digit list reversed. -/
def reverse (n : Numeral) : Numeral where
  negative := n.negative
  whole := n.whole.reverse
  fraction := n.fraction.map List.reverse
  exponent := n.exponent.map fun e => { e with digits := e.digits.reverse }

end Numeral

namespace PartialNumber

/-- A numeral with nothing but its sign. -/
def start (negative : Bool) (phase : NumberPhase) (whole : List Nat) : PartialNumber :=
  ⟨phase, ⟨negative, whole, none, none⟩⟩

/-- What a byte does to a number literal: it belongs to it, or the literal ends before it
(complete or broken). -/
inductive Next where
  | more (n : PartialNumber)
  | over
  | broken

/-- The literal with one more digit in its whole part. -/
def addWhole (n : PartialNumber) (phase : NumberPhase) (d : Nat) : PartialNumber :=
  ⟨phase, { n.numeral with whole := d :: n.numeral.whole }⟩

/-- The literal with one more digit after its point. -/
def addFraction (n : PartialNumber) (d : Nat) : PartialNumber :=
  ⟨.fraction, { n.numeral with fraction := some (d :: n.numeral.fraction.getD []) }⟩

/-- The literal with one more digit in its exponent. -/
def addExponent (n : PartialNumber) (d : Nat) : PartialNumber :=
  let e := n.numeral.exponent.getD ⟨false, []⟩
  ⟨.exponent, { n.numeral with exponent := some { e with digits := d :: e.digits } }⟩

/-- The literal with the sign of its exponent. -/
def openExponent (n : PartialNumber) (phase : NumberPhase) (negative : Bool) : PartialNumber :=
  ⟨phase, { n.numeral with exponent := some ⟨negative, []⟩ }⟩

/-- After the digits of the whole part: a point, an exponent, or the end. -/
def afterWhole (n : PartialNumber) (b : UInt8) : Next :=
  if b = 0x2E then .more ⟨.point, { n.numeral with fraction := some [] }⟩
  else if b = 0x65 || b = 0x45 then .more (n.openExponent .mark false)
  else .over

/-- Reads one byte of a number literal. -/
def next (n : PartialNumber) (b : UInt8) : Next :=
  match n.phase, digit? b with
  | .sign, some 0 => .more (n.addWhole .zero 0)
  | .sign, some d => .more (n.addWhole .whole d)
  | .sign, none => .broken
  | .zero, some _ => .broken
  | .zero, none => n.afterWhole b
  | .whole, some d => .more (n.addWhole .whole d)
  | .whole, none => n.afterWhole b
  | .point, some d => .more (n.addFraction d)
  | .point, none => .broken
  | .fraction, some d => .more (n.addFraction d)
  | .fraction, none =>
    if b = 0x65 || b = 0x45 then .more (n.openExponent .mark false) else .over
  | .mark, some d => .more (n.addExponent d)
  | .mark, none =>
    if b = 0x2B then .more (n.openExponent .markSign false)
    else if b = 0x2D then .more (n.openExponent .markSign true)
    else .broken
  | .markSign, some d => .more (n.addExponent d)
  | .markSign, none => .broken
  | .exponent, some d => .more (n.addExponent d)
  | .exponent, none => .over

/-- The token, if the text ends here. -/
def finish (n : PartialNumber) : Token :=
  match n.phase with
  | .zero | .whole | .fraction | .exponent => .number n.numeral.reverse
  | .sign | .point | .mark | .markSign => .brokenNumber .ended

end PartialNumber

namespace Lexer

/-- Before the first byte. -/
def start : Lexer := ⟨[], .between⟩

/-- One more token is complete. -/
def emit (l : Lexer) (t : Token) : Lexer := ⟨t :: l.done, .between⟩

/-- A broken token: the last one. -/
def halt (l : Lexer) (t : Token) : Lexer := ⟨t :: l.done, .halted⟩

/-- Reads a byte between tokens. -/
def begin (l : Lexer) (b : UInt8) : Lexer :=
  if isSpace b then ⟨l.done, .between⟩
  else if b = 0x5B then l.emit .openArray
  else if b = 0x5D then l.emit .closeArray
  else if b = 0x7B then l.emit .openObject
  else if b = 0x7D then l.emit .closeObject
  else if b = 0x2C then l.emit .comma
  else if b = 0x3A then l.emit .colon
  else if b = 0x22 then ⟨l.done, .string []⟩
  else if b = 0x2D then ⟨l.done, .number (.start true .sign [])⟩
  else if b = 0x6E then ⟨l.done, .word .null (Word.null.spelling.drop 1)⟩
  else if b = 0x74 then ⟨l.done, .word .true (Word.true.spelling.drop 1)⟩
  else if b = 0x66 then ⟨l.done, .word .false (Word.false.spelling.drop 1)⟩
  else
    match digit? b with
    | some 0 => ⟨l.done, .number (.start false .zero [0])⟩
    | some d => ⟨l.done, .number (.start false .whole [d])⟩
    | none => l.halt .junk

/-- Reads one byte. -/
def step (l : Lexer) (b : UInt8) : Lexer :=
  match l.scan with
  | .between => l.begin b
  | .halted => l
  | .word w [] => (l.emit (.word w)).begin b
  | .word w (c :: left) =>
    if b = c then
      match left with
      | [] => l.emit (.word w)
      | _ :: _ => ⟨l.done, .word w left⟩
    else l.halt (.brokenWord w .malformed)
  | .number n =>
    match n.next b with
    | .more n => ⟨l.done, .number n⟩
    | .over => (l.emit (.number n.numeral.reverse)).begin b
    | .broken => l.halt (.brokenNumber .malformed)
  | .string items =>
    if b = 0x22 then l.emit (.string ⟨items.reverse, none⟩)
    else if b = 0x5C then ⟨l.done, .escape items⟩
    else if b < 0x20 then l.halt (.string ⟨items.reverse, some .malformed⟩)
    else ⟨l.done, .string (.byte b :: items)⟩
  | .escape items =>
    if b = 0x75 then ⟨l.done, .hex items []⟩
    else
      match shortEscape? b with
      | some c => ⟨l.done, .string (.byte c :: items)⟩
      | none => l.halt (.string ⟨items.reverse, some .malformed⟩)
  | .hex items seen =>
    if seen.length < 3 then ⟨l.done, .hex items (b :: seen)⟩
    else
      match unit? (b :: seen) with
      | some u => ⟨l.done, .string (.unit u :: items)⟩
      | none => l.halt (.string ⟨items.reverse, some .malformed⟩)

/-- The tokens, if the text ends here. -/
def finish (l : Lexer) : List Token :=
  match l.scan with
  | .between | .halted => l.done.reverse
  | .word w [] => (Token.word w :: l.done).reverse
  | .word w (_ :: _) => (Token.brokenWord w .ended :: l.done).reverse
  | .number n => (n.finish :: l.done).reverse
  | .string items | .escape items | .hex items _ =>
    (Token.string ⟨items.reverse, some .ended⟩ :: l.done).reverse

/-- Reads a run of bytes. -/
def run (l : Lexer) (bs : List UInt8) : Lexer := bs.foldl step l

@[simp] theorem run_nil (l : Lexer) : l.run [] = l := rfl

@[simp] theorem run_cons (l : Lexer) (b : UInt8) (bs : List UInt8) :
    l.run (b :: bs) = (l.step b).run bs := rfl

theorem run_append (l : Lexer) (as bs : List UInt8) : l.run (as ++ bs) = (l.run as).run bs :=
  List.foldl_append

end Lexer

/-- The tokens of a text. -/
def tokens (bs : List UInt8) : List Token := (Lexer.start.run bs).finish

end ActualState.Json
