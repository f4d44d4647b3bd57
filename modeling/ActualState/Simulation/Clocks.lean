import ActualState.Time.Moment

/-!
# Two clocks

A wall clock that is set and moved by hand, and a monotonic clock that only moves forward. They
have nothing to do with each other.
-/
namespace ActualState.Simulation

open Time (Moment Duration)

/-- The time of a simulated world. -/
structure Clocks where
  wall : Moment
  clock : Duration := 0
  deriving DecidableEq, Repr, Inhabited

/-- What can be done to the clocks. -/
inductive ClockStep where
  /-- Sets the wall clock, if the time has a place in the calendar. -/
  | set (wall : Option Moment)
  /-- Moves the wall clock forward. -/
  | advance (span : Duration)
  /-- Moves the monotonic clock forward. -/
  | elapse (span : Duration)
  deriving DecidableEq, Repr, Inhabited

/-- Moves the clocks; none if the wall clock would leave the calendar. -/
def Clocks.step (c : Clocks) : ClockStep → Option Clocks
  | .set wall => wall.map fun m => { c with wall := m }
  | .advance d => (c.wall.add? d).map fun m => { c with wall := m }
  | .elapse d => some { c with clock := c.clock + d }

end ActualState.Simulation
