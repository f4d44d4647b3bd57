/-!
# JSON tokens

The lexical units of a JSON text as they are found on the page: punctuation, the three
words, number literals digit by digit and string literals item by item. A unit that breaks
off is a token too; it keeps what was read and which `Fault` ended it.
-/
namespace ActualState.Json

/-- How a text stops being JSON: it ends too early, or something else stands in its place. -/
inductive Fault where
  | ended
  | malformed
  deriving DecidableEq, Repr, Inhabited

/-- The literal names of JSON. -/
inductive Word where
  | null
  | true
  | false
  deriving DecidableEq, Repr, Inhabited

/-- The bytes that spell a word. -/
def Word.spelling : Word → List UInt8
  | .null => [0x6E, 0x75, 0x6C, 0x6C]
  | .true => [0x74, 0x72, 0x75, 0x65]
  | .false => [0x66, 0x61, 0x6C, 0x73, 0x65]

/-- One item between the quotes of a string: a byte, written raw or as a short escape, or a
UTF-16 unit written with four hex digits. -/
inductive Item where
  | byte (b : UInt8)
  | unit (u : Nat)
  deriving DecidableEq, Repr, Inhabited

/-- A string literal: its items and, if the closing quote was never reached, the reason. -/
structure Literal where
  items : List Item
  fault : Option Fault := none
  deriving DecidableEq, Repr, Inhabited

/-- The exponent of a number literal: its sign and its digits, most significant first. -/
structure Exponent where
  negative : Bool
  digits : List Nat
  deriving DecidableEq, Repr, Inhabited

/-- A number literal, digit by digit, most significant digits first. -/
structure Numeral where
  negative : Bool
  whole : List Nat
  fraction : Option (List Nat)
  exponent : Option Exponent
  deriving DecidableEq, Repr, Inhabited

/-- A lexical unit of a JSON text. -/
inductive Token where
  | openArray
  | closeArray
  | openObject
  | closeObject
  | comma
  | colon
  | word (w : Word)
  | brokenWord (w : Word) (fault : Fault)
  | string (literal : Literal)
  | number (numeral : Numeral)
  /-- A literal that starts as a number and is none; `fault` is the end of the text or another
  byte where a digit belongs. -/
  | brokenNumber (fault : Fault)
  /-- A byte that starts nothing. -/
  | junk
  deriving DecidableEq, Repr, Inhabited

end ActualState.Json
