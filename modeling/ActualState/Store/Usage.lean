import ActualState.Time.Moment
import ActualState.Decimal.Reading

/-!
# Usage of a store

How much of a window of time a store spent writing. The time of a write is added when the write
ends; a sample closes the window and opens the next one.
-/
namespace ActualState

open Time (Duration)

/-- The current window: when it was opened, if tracking was ever started, and how much of it
was spent writing. -/
structure UsageWindow where
  started : Option Duration := none
  busy : Duration := 0
  deriving DecidableEq, Repr, Inhabited

/-- A closed window: the time spent writing and the length of the window. -/
structure UsageSample where
  busy : Duration
  window : Duration
  deriving DecidableEq, Repr, Inhabited

namespace UsageWindow

/-- Opens a window at `now`. -/
def start (now : Duration) : UsageWindow := ⟨some now, 0⟩

/-- A write ends at `now` that began at `began`. -/
def addWrite (u : UsageWindow) (began now : Duration) : UsageWindow :=
  match u.started with
  | none => u
  | some _ => { u with busy := u.busy + (now - began) }

/-- Closes the window at `now` and opens the next one, if tracking was started. -/
def sample? (u : UsageWindow) (now : Duration) : Option (UsageSample × UsageWindow) :=
  u.started.map fun s => (⟨u.busy, now - s⟩, start now)

end UsageWindow

/-- A duration in seconds. -/
def secondsOf (d : Duration) : Float :=
  Decimal.ofNatural (d / Time.second) + Decimal.ofNatural (d % Time.second) / 1000000000.0

/-- The fraction of the window spent writing, between 0 and 1. -/
def UsageSample.fraction (s : UsageSample) : Float :=
  if s.window = 0 then 0.0
  else
    let x := secondsOf s.busy / secondsOf s.window
    if x < 0.0 then 0.0 else if 1.0 < x then 1.0 else x

end ActualState
