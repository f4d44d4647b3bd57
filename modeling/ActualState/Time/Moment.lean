import ActualState.Time.Calendar

/-!
# Moments

A moment is an instant, in nanoseconds since 1970-01-01T00:00:00Z, seen from a UTC offset.
Two moments are compared by their instants. The calendar of a moment runs from year -9999 to
9999 in its own offset; arithmetic that would leave it has no result.
-/
namespace ActualState.Time

/-- A length of time, in nanoseconds. -/
abbrev Duration := Nat

/-- One second. -/
def second : Duration := 1000000000

/-- One millisecond. -/
def millisecond : Duration := 1000000

/-- Nanoseconds of a day. -/
def dayLength : Int := 86400 * 1000000000

/-- An instant and a UTC offset in seconds. -/
structure Moment where
  /-- Nanoseconds since the Unix epoch. -/
  instant : Int
  offset : Int
  deriving DecidableEq, Repr, Inhabited

namespace Moment

/-- The Unix epoch. -/
def epoch : Moment := ⟨0, 0⟩

/-- Nanoseconds on the local clock since local 1970-01-01T00:00:00. -/
def localTime (m : Moment) : Int := m.instant + m.offset * 1000000000

/-- The first local time of the calendar. -/
def firstLocalTime : Int := (Date.mk (-9999) 1 1).toDays * dayLength

/-- The end of the last local day of the calendar. -/
def lastLocalTime : Int := ((Date.mk 9999 12 31).toDays + 1) * dayLength

/-- Whether the local date is in the calendar. -/
def isRepresentable (m : Moment) : Bool :=
  firstLocalTime ≤ m.localTime && m.localTime < lastLocalTime

/-- The largest UTC offset, 25:59:59. -/
def largestOffset : Int := 93599

/-- The moment at an instant, seen from an offset, if both have a place in the calendar. -/
def ofInstant? (instant offset : Int) : Option Moment :=
  let m : Moment := ⟨instant, offset⟩
  if (Moment.mk instant 0).isRepresentable && offset.natAbs ≤ largestOffset && m.isRepresentable
  then some m else none

/-- The moment that much later, in the same offset. -/
def add? (m : Moment) (d : Duration) : Option Moment :=
  let later : Moment := ⟨m.instant + d, m.offset⟩
  if later.isRepresentable then some later else none

/-- How much later `a` is than `b`, in nanoseconds; negative if it is earlier. -/
def since (a b : Moment) : Int := a.instant - b.instant

/-- Whether `a` is strictly earlier than `b`. -/
def isBefore (a b : Moment) : Bool := a.instant < b.instant

/-- The local calendar date. -/
def date (m : Moment) : Date := Date.ofDays (m.localTime / dayLength)

/-- Nanoseconds since local midnight. -/
def timeOfDay (m : Moment) : Nat := (m.localTime % dayLength).toNat

/-- Whole microseconds since the epoch, rounded down. -/
def microseconds (m : Moment) : Int := m.instant / 1000

end Moment

end ActualState.Time
