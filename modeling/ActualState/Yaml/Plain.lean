import ActualState.Decimal.Reading
import ActualState.Mismatch
import ActualState.Text.Digits

/-!
# What plain scalars stand for

The words for the empty value and for booleans, the spellings of integers and of doubles. A plain
scalar without a tag is the first of these that it spells, or else a text. A zero before further
digits makes a text of a number.
-/
namespace ActualState.Yaml

/-- Whether a scalar spells the empty value; the empty scalar is no such word. -/
def isNull (s : String) : Bool := ["null", "Null", "NULL", "~"].contains s

/-- The boolean that a scalar spells. -/
def boolean? (s : String) : Option Bool :=
  if ["true", "True", "TRUE"].contains s then some true
  else if ["false", "False", "FALSE"].contains s then some false
  else none

/-- The characters after a sign, if there is one. -/
def dropSign : List Char → List Char
  | '-' :: r | '+' :: r => r
  | r => r

/-- The characters after a plus sign, if there is one. -/
def dropPlus : List Char → List Char
  | '+' :: r => r
  | r => r

/-- Whether digits begin with a zero that keeps them from being a number. -/
def isZeroLed (cs : List Char) : Bool :=
  match dropSign cs with
  | '0' :: c :: r => (c :: r).all Text.isDigit
  | _ => false

/-- The natural that digits spell, in the base that they begin with. -/
def unsigned? (cs : List Char) : Option Nat :=
  match cs with
  | '0' :: 'x' :: r => Text.natural? 16 r
  | '0' :: 'o' :: r => Text.natural? 8 r
  | '0' :: 'b' :: r => Text.natural? 2 r
  | cs => if isZeroLed cs then none else Text.natural? 10 cs

/-- The natural that a scalar spells. -/
def natural? (s : String) : Option Nat := unsigned? (dropPlus s.toList)

/-- The integer that a scalar with a minus sign spells. -/
def negative? (s : String) : Option Int :=
  match s.toList with
  | '-' :: r => (unsigned? r).map fun n => -(n : Int)
  | _ => none

/-- The digits after a point, if there is one, and what is after them. -/
def spanFraction : List Char → List Char × List Char
  | '.' :: r => (r.takeWhile Text.isDigit, r.dropWhile Text.isDigit)
  | r => ([], r)

/-- The exponent that ends a number; it may be left out. -/
def exponent? : List Char → Option Int
  | [] => some 0
  | c :: r =>
    if c = 'e' || c = 'E' then
      match r with
      | '-' :: r => (Text.natural? 10 r).map fun n => -(n : Int)
      | r => (Text.natural? 10 (dropPlus r)).map Int.ofNat
    else none

/-- The double that digits with a point and an exponent spell. -/
def positive? (cs : List Char) : Option Float := do
  let whole := cs.takeWhile Text.isDigit
  let (fraction, rest) := spanFraction (cs.dropWhile Text.isDigit)
  let significand ← Text.natural? 10 (whole ++ fraction)
  let e ← exponent? rest
  let x := Decimal.nearest significand (e - fraction.length)
  if x.isInf then none else some x

/-- The double that a scalar spells. -/
def float? (s : String) : Option Float :=
  let cs := s.toList
  let infinities := [".inf", ".Inf", ".INF"]
  if infinities.contains (String.ofList (dropPlus cs)) then some (1.0 / 0.0)
  else if [".nan", ".NaN", ".NAN"].contains s then some (0.0 / 0.0)
  else
    match cs with
    | '-' :: r =>
      if infinities.contains (String.ofList r) then some (-(1.0 / 0.0))
      else (positive? r).map fun x => -x
    | cs => positive? (dropPlus cs)

/-- The integer that a scalar spells: of 64 bits, or of up to 128. -/
def integer? (s : String) : Option Found :=
  match natural? s, negative? s with
  | some n, _ =>
    if n < 18446744073709551616 then some (.integer n)
    else if n < 340282366920938463463374607431768211456 then some (.wideNatural n)
    else none
  | none, some n =>
    if -9223372036854775808 ≤ n then some (.integer n)
    else if -170141183460469231731687303715884105728 ≤ n then some (.wideInteger n)
    else none
  | none, none => none

/-- What a plain scalar without a tag stands for. -/
def plainValue (s : String) : Found :=
  if s.isEmpty || isNull s then .unit
  else
    match boolean? s, integer? s with
    | some b, _ => .boolean b
    | none, some found => found
    | none, none =>
      match if isZeroLed s.toList then none else float? s with
      | some x => .floating x
      | none => .text s

end ActualState.Yaml
