import ActualState.Text.Hex
import ActualState.Text.Utf8

/-!
# Percent-encoding

A percent sign and two hex digits stand for a byte; a percent sign without them stands for
itself, and so does every other byte.
-/
namespace ActualState.Text.Percent

/-- The bytes that percent-encoded bytes stand for. -/
def decode : List UInt8 → List UInt8
  | a :: b :: c :: r =>
    if a = 0x25 then
      match hexDigit? b, hexDigit? c with
      | some h, some l => UInt8.ofNat (h * 16 + l) :: decode r
      | _, _ => a :: decode (b :: c :: r)
    else a :: decode (b :: c :: r)
  | [a, b] => [a, b]
  | [a] => [a]
  | [] => []

/-- The hex digit of a value below 16, in upper case. -/
def hexDigit (n : Nat) : UInt8 := UInt8.ofNat (if n < 10 then 0x30 + n else 0x37 + n)

/-- Letters, digits and `-._~` need no encoding. -/
def isUnreserved (b : UInt8) : Bool :=
  (0x30 ≤ b && b ≤ 0x39) || (0x41 ≤ b && b ≤ 0x5A) || (0x61 ≤ b && b ≤ 0x7A) ||
    b = 0x2D || b = 0x2E || b = 0x5F || b = 0x7E

/-- The encoding of bytes as part of a path. -/
def encode : List UInt8 → List UInt8
  | [] => []
  | b :: r =>
    if isUnreserved b then b :: encode r
    else 0x25 :: hexDigit (b.toNat / 16) :: hexDigit (b.toNat % 16) :: encode r

end ActualState.Text.Percent
