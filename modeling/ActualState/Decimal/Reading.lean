/-!
# From decimal digits to doubles

Two ways to read `significand · 10 ^ exponent`. `nearest` rounds the exact value once.
`scaled` rounds the significand, then multiplies or divides by a rounded power of ten, so that
its last bit may be off; numbers in JSON are read that way.
-/
namespace ActualState.Decimal

/-- The double nearest to `10 ^ n`. -/
def powerOfTen (n : Nat) : Float := Float.ofScientific 1 false n

/-- The double nearest to a natural below `2 ^ 64`. -/
def ofNatural (n : Nat) : Float := n.toUInt64.toFloat

/-- Divides by `10 ^ e`, by `10 ^ 308` at a time. -/
def scaleDown (x : Float) (e : Nat) : Float :=
  if e ≤ 308 then x / powerOfTen e
  else if x == 0.0 then x
  else scaleDown (x / powerOfTen 308) (e - 308)
termination_by e

/-- The significand as a double, times or divided by the power of ten as a double. `none` if
that is too large for a double. -/
def scaled (significand : Nat) (exponent : Int) : Option Float :=
  let x := ofNatural significand
  if exponent < 0 then some (scaleDown x exponent.natAbs)
  else if exponent ≤ 308 then
    let y := x * powerOfTen exponent.toNat
    if y.isInf then none else some y
  else if x == 0.0 then some x
  else none

/-- The double nearest to the exact value. Exponents far outside the range of doubles are
settled without computing the power. -/
def nearest (significand : Nat) (exponent : Int) : Float :=
  if significand = 0 then 0.0
  else
    let position := exponent + (Nat.toDigits 10 significand).length
    if 400 < position then 1.0 / 0.0
    else if position < -400 then 0.0
    else if exponent < 0 then Float.ofScientific significand true exponent.natAbs
    else Float.ofScientific significand false exponent.toNat

end ActualState.Decimal
