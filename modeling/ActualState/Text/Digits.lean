import ActualState.Text.Hex

/-!
# Numbers in digits of a base
-/
namespace ActualState.Text

/-- A decimal digit. -/
def isDigit (c : Char) : Bool := '0' ≤ c && c ≤ '9'

/-- The value of a digit in a base up to 16. -/
def digit? (base : Nat) (c : Char) : Option Nat :=
  if c.toNat < 0x80 then (hexDigit? (UInt8.ofNat c.toNat)).filter (· < base) else none

/-- The natural that digits spell, of which there must be some. -/
def natural? (base : Nat) (cs : List Char) : Option Nat :=
  if cs.isEmpty then none
  else cs.foldl (fun acc c => do return (← acc) * base + (← digit? base c)) (some 0)

end ActualState.Text
