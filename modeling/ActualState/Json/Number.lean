import ActualState.Json.Token
import ActualState.Decimal.Reading

/-!
# Numbers in JSON

A literal without point and exponent that fits 64 bits is an integer; everything else is a
double. Digits are gathered into a significand below `2 ^ 64`. Once the next digit does not fit,
the remaining digits of the whole part only raise the exponent and the remaining digits of the
fraction are dropped; the double is then `Decimal.scaled`, not always the nearest one.
-/
namespace ActualState.Json

/-- A number as JSON knows it. -/
inductive Number where
  | natural (n : Nat)
  /-- The negative integer `-n`. -/
  | negative (n : Nat)
  | double (x : Float)
  deriving DecidableEq, Inhabited

/-- Appends digits to a significand while it stays below `2 ^ 64`; the second part is how many
digits did not fit. -/
def gather : Nat → List Nat → Nat × Nat
  | s, [] => (s, 0)
  | s, d :: ds => if s * 10 + d < 18446744073709551616 then gather (s * 10 + d) ds else (s, ds.length + 1)

/-- The natural that digits spell. -/
def ofDigits (ds : List Nat) : Nat := ds.foldl (fun n d => n * 10 + d) 0

/-- Exponents from here on are out of reach. -/
def exponentLimit : Nat := 2147483648

namespace Numeral

/-- The value of a literal without point and exponent whose digits fit. -/
def integer (negative : Bool) (n : Nat) : Number :=
  if !negative then .natural n
  else if n = 0 || 9223372036854775808 < n then .double (-(Decimal.ofNatural n))
  else .negative n

/-- The double `significand · 10 ^ start · 10 ^ e` with its sign, where `e` is the exponent
as written. -/
def double (negative : Bool) (significand : Nat) (start : Int) (e : Option Exponent) :
    Option Float :=
  let sign (x : Float) : Float := if negative then -x else x
  match e with
  | none => (Decimal.scaled significand start).map sign
  | some e =>
    let n := ofDigits e.digits
    if n < exponentLimit then
      (Decimal.scaled significand (if e.negative then start - n else start + n)).map sign
    else if significand ≠ 0 && !e.negative then none
    else some (sign 0.0)

/-- The value of a literal, `none` if it is out of range. -/
def value? (n : Numeral) : Option Number :=
  let (whole, beyond) := gather 0 n.whole
  if beyond = 0 && n.fraction.isNone && n.exponent.isNone then some (integer n.negative whole)
  else
    let digits := n.fraction.getD []
    let (significand, dropped) := gather whole digits
    let start : Int := (beyond : Int) - ((digits.length - dropped : Nat) : Int)
    (double n.negative significand start n.exponent).map .double

end Numeral

/-- The double that stands for a number. -/
def Number.toDouble : Number → Float
  | .natural n => Decimal.ofNatural n
  | .negative n => -(Decimal.ofNatural n)
  | .double x => x

end ActualState.Json
