import ActualState.Decimal.Shortest

/-!
# Writing doubles as text

A `Style` says how a number is laid out once its shortest digits are known: between which
positions of the point it is written without an exponent, whether a whole number keeps `.0`,
and the words for what is no number. The three styles of this library stand at the end.
-/
namespace ActualState.Decimal

/-- How a double is laid out. -/
structure Style where
  /-- Without an exponent from this position of the point on; `none` for every small number. -/
  lowest : Option Int
  /-- Without an exponent up to this position of the point; `none` for every large number. -/
  highest : Option Int
  /-- Whether a whole number ends in `.0`. -/
  keepsPoint : Bool
  infinity : String
  negativeInfinity : String
  notANumber : String
  deriving Inhabited

/-- `n` zeros. -/
def zeros (n : Nat) : List Char := List.replicate n '0'

namespace Style

/-- Whether a number whose point stands after `position` digits has no exponent. -/
def isPositional (s : Style) (position : Int) : Bool :=
  (match s.lowest with
    | none => true
    | some l => l ≤ position) &&
  (match s.highest with
    | none => true
    | some h => position ≤ h)

/-- Digits around a point that stands after `position` of them. -/
def positional (s : Style) (digits : List Char) (position : Int) : List Char :=
  if position ≤ 0 then ['0', '.'] ++ zeros (-position).toNat ++ digits
  else if digits.length ≤ position.toNat then
    digits ++ zeros (position.toNat - digits.length) ++ (if s.keepsPoint then ['.', '0'] else [])
  else digits.take position.toNat ++ '.' :: digits.drop position.toNat

/-- One digit before the point, and an exponent with its sign. -/
def scientific (digits : List Char) (position : Int) : List Char :=
  let mantissa :=
    match digits with
    | [] => []
    | [d] => [d]
    | d :: ds => d :: '.' :: ds
  let e := position - 1
  mantissa ++ ['e', if e < 0 then '-' else '+'] ++ Nat.toDigits 10 e.natAbs

/-- The layout of a decimal. -/
def layOut (s : Style) (d : Digits) : List Char :=
  if d.significand = 0 then (if s.keepsPoint then ['0', '.', '0'] else ['0'])
  else
    let digits := Nat.toDigits 10 d.significand
    let position := digits.length + d.exponent
    if s.isPositional position then s.positional digits position else scientific digits position

/-- The text of a double. The highest of its 64 bits is the sign. -/
def write (s : Style) (x : Float) : String :=
  if x.isNaN then s.notANumber
  else
    let bits := x.toBits.toNat
    let negative := decide (9223372036854775808 ≤ bits)
    if x.isInf then (if negative then s.negativeInfinity else s.infinity)
    else
      let body := s.layOut (Binary.ofBits bits).shortest
      String.ofList (if negative then '-' :: body else body)

end Style

/-- Numbers in JSON: no exponent from 0.00001 up to below 10 ^ 16, and always a point or an
exponent. JSON has no word for what is no number. -/
def jsonStyle : Style := ⟨some (-4), some 16, true, "null", "null", "null"⟩

/-- Numbers in the metrics text: never an exponent, and no point in a whole number. -/
def metricsStyle : Style := ⟨none, none, false, "inf", "-inf", "NaN"⟩

/-- Numbers quoted in messages about configuration: never an exponent, always a point. -/
def messageStyle : Style := ⟨none, none, true, "inf", "-inf", "NaN"⟩

end ActualState.Decimal
