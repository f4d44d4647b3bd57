import ActualState.Text.Printable

/-!
# Quoted text in messages

A text between double quotes, as messages show it: quotes, backslashes and the usual controls
have a short escape, a character that does not print is written by its code point in hex.
-/
namespace ActualState.Text.Quoted

/-- The escaped form of a character. -/
def escape (c : Char) : List Char :=
  if c = '"' then ['\\', '"']
  else if c = '\\' then ['\\', '\\']
  else if c = '\x00' then ['\\', '0']
  else if c = '\t' then ['\\', 't']
  else if c = '\r' then ['\\', 'r']
  else if c = '\n' then ['\\', 'n']
  else if Printable.isPrintable c then [c]
  else ['\\', 'u', '\x7b'] ++ Nat.toDigits 16 c.toNat ++ ['\x7d']

/-- The text between quotes. -/
def quote (s : String) : String :=
  String.ofList ('"' :: s.toList.flatMap escape ++ ['"'])

end ActualState.Text.Quoted
