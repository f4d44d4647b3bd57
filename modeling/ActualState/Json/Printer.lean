import ActualState.Json.Value

/-!
# Writing JSON

Values are written without any white space, members in their order. Quotes, backslashes and
controls are escaped, with a short escape where there is one; all other characters are written
as they are.
-/
namespace ActualState.Json

/-- A hex digit in lower case. -/
def hexDigit (n : Nat) : Char := Nat.digitChar (n % 16)

/-- The escaped form of a character. -/
def escapeChar (c : Char) : List Char :=
  if c = '"' then ['\\', '"']
  else if c = '\\' then ['\\', '\\']
  else if c = '\x08' then ['\\', 'b']
  else if c = '\x0c' then ['\\', 'f']
  else if c = '\n' then ['\\', 'n']
  else if c = '\r' then ['\\', 'r']
  else if c = '\t' then ['\\', 't']
  else if c.toNat < 0x20 then ['\\', 'u', '0', '0', hexDigit (c.toNat / 16), hexDigit c.toNat]
  else [c]

/-- A text between quotes. -/
def printString (s : String) : List Char := '"' :: s.toList.flatMap escapeChar ++ ['"']

/-- A number; what is no number is written as `null`. -/
def printNumber : Number → List Char
  | .natural n => Nat.toDigits 10 n
  | .negative n => '-' :: Nat.toDigits 10 n
  | .double x => (Decimal.jsonStyle.write x).toList

namespace Value

mutual

/-- The characters of a value. -/
def print : Value → List Char
  | .null => ['n', 'u', 'l', 'l']
  | .boolean true => ['t', 'r', 'u', 'e']
  | .boolean false => ['f', 'a', 'l', 's', 'e']
  | .number n => printNumber n
  | .string s => printString s
  | .array [] => ['[', ']']
  | .array (v :: vs) => '[' :: (print v ++ printElements vs)
  | .object [] => ['\x7b', '\x7d']
  | .object ((k, v) :: ms) => '\x7b' :: (printString k ++ ':' :: (print v ++ printMembers ms))

/-- Further elements and the end of an array. -/
def printElements : List Value → List Char
  | [] => [']']
  | v :: vs => ',' :: (print v ++ printElements vs)

/-- Further members and the end of an object. -/
def printMembers : List (String × Value) → List Char
  | [] => ['\x7d']
  | (k, v) :: ms => ',' :: (printString k ++ ':' :: (print v ++ printMembers ms))

end

/-- The text of a value. -/
def toText (v : Value) : String := String.ofList v.print

/-- The bytes of the text of a value. -/
def toBytes (v : Value) : List UInt8 := Text.Utf8.encode v.print

end Value

end ActualState.Json
