import ActualState.Health
import ActualState.Http.Router
import ActualState.Store.UsageTracker

/-!
# A listener at work

A listener together with its store, its usage tracker, its gauges and the state of its
connection. `Service` carries the listener's effects out: reports go to the gauges and to a log,
calls go to the store. A flush goes on by itself until the store has to be waited for;
`completeFlush` takes it from there.
-/
namespace ActualState

open Time (Moment Duration)

/-- How a flush ended: with an outcome, or broken off. -/
inductive FlushEnd where
  | finished (o : SyncOutcome)
  | broken
  deriving DecidableEq, Repr, Inhabited

/-- A listener with everything it works with. -/
structure Service where
  listener : Listener
  backend : Backend
  tracker : Option UsageTracker := none
  health : HealthTracker := {}
  gauges : Gauges := {}
  /-- Everything reported so far, in order. -/
  reports : List Metric := []
  /-- Everything asked of the tracker so far, in order. -/
  trackerCalls : List TrackerCall := []
  /-- The call of the flush under way that its store has not answered. -/
  inFlight : Option InFlight := none
  deriving Inhabited

namespace Service

/-- Carries out a report. -/
def report (s : Service) (m : Metric) : Service :=
  { s with gauges := s.gauges.report m, reports := s.reports ++ [m] }

/-- Makes a call and waits for its answer. -/
def perform (s : Service) (call : StoreCall) (now : Option Moment) (clock : Duration) :
    Service × Answer :=
  match s.backend.begin call now clock with
  | (b, .answered a) => ({ s with backend := b }, a)
  | (b, .inFlight c) =>
    let (b, a) := b.complete c clock
    ({ s with backend := b }, a)

/-- What effects come to: the reports carried out, the call to make, and the end of the flush. -/
def carryOut (s : Service) : List Effect → Service × Option StoreCall × Option FlushEnd
  | [] => (s, none, none)
  | .report m :: rest => carryOut (s.report m) rest
  | .call c :: rest =>
    let (s, _, e) := carryOut s rest
    (s, some c, e)
  | .finished o :: rest =>
    let (s, c, _) := carryOut s rest
    (s, c, some (.finished o))
  | .broken :: rest =>
    let (s, c, _) := carryOut s rest
    (s, c, some .broken)

/-- Goes on with the flush until its store has to be waited for, or to its end, with at most
`calls` calls on the way. -/
def proceed : Nat → Service → List Effect → Option Moment → Duration → Service × Option FlushEnd
  | 0, s, effects, _, _ =>
    let (s, _, e) := s.carryOut effects
    (s, e)
  | calls + 1, s, effects, now, clock =>
    match s.carryOut effects with
    | (s, none, e) => (s, e)
    | (s, some call, _) =>
      match s.backend.begin call now clock with
      | (b, .inFlight c) => ({ s with backend := b, inFlight := some c }, none)
      | (b, .answered a) =>
        let (l, effects) := s.listener.answer a now clock
        proceed calls { s with backend := b, listener := l } effects now clock

/-- A flush makes at most this many calls. -/
def callsOfFlush : Nat := 2

/-- Begins a flush. -/
def beginFlush (s : Service) (now : Option Moment) (clock : Duration) :
    Service × Option FlushEnd :=
  let (l, effects) := s.listener.beginFlush clock
  proceed callsOfFlush { s with listener := l } effects now clock

/-- Completes the call that the flush under way waits for, and goes on with it. -/
def completeFlush (s : Service) (now : Option Moment) (clock : Duration) :
    Service × Option FlushEnd :=
  match s.inFlight with
  | none => (s, none)
  | some c =>
    let (b, a) := s.backend.complete c clock
    let (l, effects) := s.listener.answer a now clock
    proceed callsOfFlush { s with backend := b, inFlight := none, listener := l } effects now clock

/-- Whether the flush under way waits for the store to take its batch. -/
def isSyncing (s : Service) : Bool :=
  match s.listener.flush with
  | some ⟨_, _, .syncing _⟩ => s.inFlight.isSome
  | _ => false

/-- Takes in a message on the heartbeat topic. A message that is dropped needs no time; without
a time for one that is not, nothing happens and the answer is `none`. -/
def heartbeat (s : Service) (payload : List UInt8) (now : Option Moment) :
    Service × Option (Option Nat) :=
  match now with
  | some now =>
    let (l, pending) := s.listener.handleHeartbeat payload now
    ({ s with listener := l }, some pending)
  | none =>
    match Heartbeat.decode payload with
    | .ok _ => (s, none)
    | .error _ => (s, some none)

/-- Has the store bump its certificate. The answer is none while the bump waits for a write. -/
def renew (s : Service) (at_ : Moment) (clock : Duration) : Service × Option Answer :=
  match s.backend.enqueue? s.inFlight at_ with
  | some c => ({ s with inFlight := some c }, none)
  | none =>
    let (s, a) := s.perform (.bump at_) none clock
    (s, some a)

/-- Takes in an advertisement. The answer is whether a bump was tried, none if it was broken
off; a bump that waits is under way. -/
def advertise (s : Service) (now : Option Moment) (clock : Duration) : Service × Option Bool :=
  match now with
  | none => (s, none)
  | some wall =>
    match s.listener.handleAdvertise wall wall with
    | .call (.bump at_) :: _ =>
      match s.renew at_ clock with
      | (s, some .aborted) => (s, none)
      | (s, _) => (s, some true)
    | _ => (s, some false)

/-- Starts tracking usage, if there is a tracker. -/
def startUsage (s : Service) (clock : Duration) : Service :=
  match s.tracker with
  | none => s
  | some t =>
    let (t, b) := t.start s.backend clock
    { s with tracker := some t, backend := b, trackerCalls := s.trackerCalls ++ [.started clock] }

/-- Samples the usage, if there is a tracker; a sample that fails is skipped. -/
def measureUsage (s : Service) (clock : Duration) : Service :=
  match s.tracker with
  | none => s
  | some t =>
    let (t, b, x) := t.measure s.backend clock
    let s := { s with
      tracker := some t
      backend := b
      trackerCalls := s.trackerCalls ++ [.measured ⟨clock, x⟩] }
    match x with
    | none => s
    | some x => s.report (.usage x)

/-- What the inspection API shows at a time, after being up for so long. -/
def snapshot (s : Service) (now : Moment) (uptime : Duration) : Http.Snapshot :=
  ⟨now, uptime, s.listener.aggregation, s.backend, s.health, s.gauges⟩

end Service

end ActualState
