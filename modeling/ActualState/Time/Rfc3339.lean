import ActualState.Time.Moment

/-!
# Moments as text

`YYYY-MM-DDTHH:MM:SS`, the sub-second digits without trailing zeros if there are any, and the
offset as `Z` or `+HH:MM`. `format` fails for a moment that has no such text; `parse?` accepts
any single character but a digit between date and time, and more than nine sub-second digits.
-/
namespace ActualState.Time

/-- What keeps a moment from being written. -/
inductive FormatFault where
  | year
  | offsetHour
  | offsetSecond
  deriving DecidableEq, Repr, Inhabited

/-- The message for a moment that cannot be written. -/
def FormatFault.message (f : FormatFault) : String :=
  let component :=
    match f with
    | .year => "year"
    | .offsetHour => "offset_hour"
    | .offsetSecond => "offset_second"
  "The " ++ component ++ " component cannot be formatted into the requested format."

/-- `n` in decimal, with zeros in front up to a width. -/
def padded (width n : Nat) : List Char :=
  let ds := Nat.toDigits 10 n
  List.replicate (width - ds.length) '0' ++ ds

/-- A list without its trailing zeros. -/
def dropTrailingZeros (cs : List Char) : List Char :=
  (cs.reverse.dropWhile (· == '0')).reverse

/-- A point and the sub-second digits, or nothing. -/
def formatFraction (nanos : Nat) : List Char :=
  if nanos = 0 then [] else '.' :: dropTrailingZeros (padded 9 nanos)

/-- An offset of whole minutes. -/
def formatOffset (offset : Int) : List Char :=
  if offset = 0 then ['Z']
  else
    let minutes := offset.natAbs / 60
    (if offset < 0 then '-' else '+') :: padded 2 (minutes / 60) ++ ':' :: padded 2 (minutes % 60)

namespace Moment

/-- The text of a moment whose year is in 0..9999 and whose offset is a whole number of minutes
below 24 hours. -/
def format (m : Moment) : Except FormatFault String :=
  let d := m.date
  if d.year < 0 || 9999 < d.year then .error .year
  else if 24 ≤ m.offset.natAbs / 3600 then .error .offsetHour
  else if m.offset.natAbs % 60 ≠ 0 then .error .offsetSecond
  else
    let s := m.timeOfDay / 1000000000
    .ok (String.ofList (
      padded 4 d.year.toNat ++ '-' :: padded 2 d.month ++ '-' :: padded 2 d.day ++
        'T' :: padded 2 (s / 3600) ++ ':' :: padded 2 (s / 60 % 60) ++
        ':' :: padded 2 (s % 60) ++ formatFraction (m.timeOfDay % 1000000000) ++
        formatOffset m.offset))

end Moment

/-- The value of a decimal digit. -/
def digitValue? (c : Char) : Option Nat :=
  if '0' ≤ c && c ≤ '9' then some (c.toNat - 48) else none

/-- Reads exactly `count` digits. -/
def readDigits : Nat → Nat → List Char → Option (Nat × List Char)
  | 0, acc, cs => some (acc, cs)
  | _ + 1, _, [] => none
  | count + 1, acc, c :: cs =>
    match digitValue? c with
    | none => none
    | some d => readDigits count (acc * 10 + d) cs

/-- Reads one given character. -/
def readChar (expected : Char) : List Char → Option (List Char)
  | [] => none
  | c :: cs => if c = expected then some cs else none

/-- Reads digits of a fraction of a second into nanoseconds; `place` is what the next digit is
worth, and digits past the ninth are worth nothing. -/
def readFractionDigits : Nat → Nat → List Char → Nat × List Char
  | _, acc, [] => (acc, [])
  | place, acc, c :: cs =>
    match digitValue? c with
    | none => (acc, c :: cs)
    | some d => readFractionDigits (place / 10) (acc + d * place) cs

/-- Reads a point with at least one digit, if there is a point. -/
def readFraction : List Char → Option (Nat × List Char)
  | '.' :: c :: cs =>
    if (digitValue? c).isSome then some (readFractionDigits 100000000 0 (c :: cs)) else none
  | ['.'] => none
  | cs => some (0, cs)

/-- Reads the offset that ends a text, in seconds. -/
def readOffset : List Char → Option Int
  | ['Z'] | ['z'] => some 0
  | sign :: cs => do
    let factor : Int ← if sign = '+' then some 1 else if sign = '-' then some (-1) else none
    let (h, cs) ← readDigits 2 0 cs
    let cs ← readChar ':' cs
    let (m, cs) ← readDigits 2 0 cs
    if h < 24 && m < 60 && cs.isEmpty then some (factor * (h * 3600 + m * 60)) else none
  | [] => none

/-- Whether the UTC time of a moment is in the last second of a month. -/
def Moment.endsMonth (m : Moment) : Bool :=
  let utc : Moment := ⟨m.instant, 0⟩
  utc.isRepresentable && utc.timeOfDay / 1000000000 = 86399 &&
    utc.date.day = daysInMonth utc.date.year utc.date.month

/-- The moment of a text. A leap second is the last nanosecond before it, and only where the
instant is the end of a month. -/
def Moment.parse? (text : String) : Option Moment := do
  let (year, cs) ← readDigits 4 0 text.toList
  let cs ← readChar '-' cs
  let (month, cs) ← readDigits 2 0 cs
  let cs ← readChar '-' cs
  let (day, cs) ← readDigits 2 0 cs
  let cs ←
    match cs with
    | c :: cs => if c.toNat < 0x80 && (digitValue? c).isNone then some cs else none
    | [] => none
  let (hour, cs) ← readDigits 2 0 cs
  let cs ← readChar ':' cs
  let (minute, cs) ← readDigits 2 0 cs
  let cs ← readChar ':' cs
  let (sec, cs) ← readDigits 2 0 cs
  let (nanos, cs) ← readFraction cs
  let offset ← readOffset cs
  let date : Date := ⟨year, month, day⟩
  if !date.isValid || 24 ≤ hour || 60 ≤ minute || 61 ≤ sec then none
  else
    let isLeap := sec = 60
    let inDay : Nat :=
      (hour * 3600 + minute * 60 + (if isLeap then 59 else sec)) * 1000000000 +
        (if isLeap then 999999999 else nanos)
    let m : Moment := ⟨date.toDays * dayLength + inDay - offset * 1000000000, offset⟩
    if isLeap && !m.endsMonth then none else some m

end ActualState.Time
