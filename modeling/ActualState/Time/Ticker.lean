import ActualState.Time.Moment

/-!
# Tickers

A ticker fires once a period on the monotonic clock, first one period after it was made. A tick
that is waited for late completes at once; if it is more than five milliseconds late, the
following ones shift with it instead of catching up.
-/
namespace ActualState.Time

/-- A running ticker: its name, its period and when the next tick is due. -/
structure Ticker where
  name : String
  period : Duration
  due : Duration
  deriving DecidableEq, Repr, Inhabited

namespace Ticker

/-- How late a tick may complete without shifting the following ones. -/
def tolerance : Duration := 5 * millisecond

/-- A ticker made at `now`; a period of zero is refused. -/
def start? (name : String) (period now : Duration) : Option Ticker :=
  if period = 0 then none else some ⟨name, period, now + period⟩

/-- When a tick that is waited for from `now` on completes. -/
def completion (t : Ticker) (now : Duration) : Duration := max now t.due

/-- The ticker after a tick that completed at `at_`. -/
def fired (t : Ticker) (at_ : Duration) : Ticker :=
  { t with due := if at_ ≤ t.due + tolerance then t.due + t.period else at_ + t.period }

/-- Waits for a tick from `now` on: when it completes, and the ticker after it. -/
def tick (t : Ticker) (now : Duration) : Duration × Ticker :=
  let at_ := t.completion now
  (at_, t.fired at_)

end Ticker

end ActualState.Time
