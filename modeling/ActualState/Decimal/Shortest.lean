/-!
# The shortest decimal that reads back

A positive finite double is `m · 2 ^ q`, taken from its bits. The reals that round to it form
an interval, which holds its ends exactly when `m` is even. `shortest` looks for the coarsest
decimal grid with a point in that interval and takes the point nearest to the number. Everything
is exact arithmetic on naturals.
-/
namespace ActualState.Decimal

/-- The number `m · 2 ^ q`; `atBoundary` when the double below it is only half a gap away. -/
structure Binary where
  m : Nat
  q : Int
  atBoundary : Bool
  deriving DecidableEq, Repr, Inhabited

/-- The number `significand · 10 ^ exponent`. -/
structure Digits where
  significand : Nat
  exponent : Int
  deriving DecidableEq, Repr, Inhabited

/-- The magnitude of a finite double, from its 64 bits: the low 52 of them are the fraction, the
next 11 the exponent. -/
def Binary.ofBits (bits : Nat) : Binary :=
  let mantissa : Nat := bits % 4503599627370496
  let exponent : Nat := bits / 4503599627370496 % 2048
  if exponent = 0 then ⟨mantissa, -1074, false⟩
  else ⟨4503599627370496 + mantissa, (exponent : Int) - 1075, mantissa = 0 ∧ exponent ≠ 1⟩

/-- `base ^ e`, or 1 if `e` is negative. -/
def powPos (base : Nat) (e : Int) : Nat := base.pow e.toNat

namespace Binary

/-- Numerator of the number as a fraction. -/
def numerator (b : Binary) : Nat := b.m * powPos 2 b.q

/-- Denominator of the number as a fraction. -/
def denominator (b : Binary) : Nat := powPos 2 (-b.q)

/-- How many decimal digits `n` has, 1 for zero. -/
def digitCount (n : Nat) : Nat := (Nat.toDigits 10 n).length

/-- The decimal exponent `e` of a positive number: `10 ^ e ≤ b < 10 ^ (e + 1)`. -/
def magnitude (b : Binary) : Int :=
  if b.denominator ≤ b.numerator then (digitCount (b.numerator / b.denominator) : Int) - 1
  else
    let d := digitCount (b.denominator / b.numerator)
    if b.numerator * Nat.pow 10 (d - 1) = b.denominator then -((d : Int) - 1) else -(d : Int)

/-- Left factor for comparing quarters of the last binary place with the grid of step
`10 ^ k`: `x · 2 ^ (q - 2) < c · 10 ^ k` iff `x * left k < c * right k`. -/
def left (b : Binary) (k : Int) : Nat := powPos 2 (b.q - 2) * powPos 10 (-k)

/-- Right factor for the same comparison. -/
def right (b : Binary) (k : Int) : Nat := powPos 2 (2 - b.q) * powPos 10 k

/-- Whether the grid point `c · 10 ^ k` rounds to the number. -/
def covers (b : Binary) (k : Int) (c : Nat) : Bool :=
  let low := (4 * b.m - (if b.atBoundary then 1 else 2)) * b.left k
  let high := (4 * b.m + 2) * b.left k
  let point := c * b.right k
  if b.m % 2 = 0 then low ≤ point && point ≤ high else low < point && point < high

/-- The grid point at or below the number. -/
def floorOn (b : Binary) (k : Int) : Nat := 4 * b.m * b.left k / b.right k

/-- The nearer of the two neighbours on the grid, to the even one from the middle. -/
def nearestOn (b : Binary) (k : Int) : Nat :=
  let c := b.floorOn k
  let twice := 2 * (4 * b.m * b.left k)
  let middle := (2 * c + 1) * b.right k
  if twice < middle then c else if middle < twice then c + 1 else if c % 2 = 0 then c else c + 1

/-- The neighbour on the grid that rounds to the number; of two, the nearer. -/
def hitOn (b : Binary) (k : Int) : Option Nat :=
  let c := b.floorOn k
  match b.covers k c, b.covers k (c + 1) with
  | true, true => some (b.nearestOn k)
  | true, false => some c
  | false, true => some (c + 1)
  | false, false => none

/-- Tries the grids from step `10 ^ k` down, `n` of them. -/
def firstHit (b : Binary) (k : Int) : Nat → Digits
  | 0 => ⟨b.nearestOn k, k⟩
  | n + 1 =>
    match b.hitOn k with
    | some c => ⟨c, k⟩
    | none => b.firstHit (k - 1) n

end Binary

/-- Drops trailing zeros of the digits, at most `n` of them. -/
def Digits.trim (d : Digits) : Nat → Digits
  | 0 => d
  | n + 1 =>
    if d.significand ≠ 0 ∧ d.significand % 10 = 0 then
      Digits.trim ⟨d.significand / 10, d.exponent + 1⟩ n
    else d

/-- The decimal with the fewest digits that reads back as the number, and of those the nearest
to it. Seventeen digits always suffice. -/
def Binary.shortest (b : Binary) : Digits :=
  if b.m = 0 then ⟨0, 0⟩ else (b.firstHit b.magnitude 17).trim 18

end ActualState.Decimal
