import ActualState.Store.Backend

/-!
# Usage trackers

What a listener samples: the usage of its own store, or a list of results given in advance, in
which `none` stands for a sample that fails. A list that is used up fails from then on. Whatever
is asked of a tracker is kept in a log of `TrackerCall`s.
-/
namespace ActualState

open Time (Duration)

/-- A source of usage samples. -/
inductive UsageTracker where
  | store
  | scripted (results : List (Option Float)) (started : Bool)
  deriving Inhabited

/-- A sample: when it was taken, and what it came to. -/
structure Sample where
  at_ : Duration
  result : Option Float
  deriving DecidableEq, Inhabited

/-- What is asked of a tracker. -/
inductive TrackerCall where
  | started (at_ : Duration)
  | measured (x : Sample)
  deriving DecidableEq, Inhabited

namespace UsageTracker

/-- Starts tracking. -/
def start (t : UsageTracker) (b : Backend) (clock : Duration) : UsageTracker × Backend :=
  match t, b with
  | .scripted rs _, b => (.scripted rs true, b)
  | .store, .file s d => (.store, .file (s.startUsage clock) d)
  | .store, b => (.store, b)

/-- Takes a sample. -/
def measure (t : UsageTracker) (b : Backend) (clock : Duration) :
    UsageTracker × Backend × Option Float :=
  match t, b with
  | .scripted [] started, b => (.scripted [] started, b, none)
  | .scripted (r :: rs) started, b => (.scripted rs started, b, r)
  | .store, .file s d =>
    let (s, sample) := s.measureUsage clock
    (.store, .file s d, sample.toOption.map UsageSample.fraction)
  | .store, b => (.store, b, none)

end UsageTracker

end ActualState
