import ActualState.Aggregation
import ActualState.Config.Basic
import ActualState.Metrics
import ActualState.Store.FileStore

/-!
# The listener

A listener takes in heartbeats and advertisements and flushes what it has gathered to a store.
It is a state machine without a store of its own: it asks for store calls with `Effect.call`
and is told their answers, so that anything may happen in between. After each batch it decides
whether the state can be certified fresh: a batch that was written within one sync interval
renews the certificate, a batch that was refused is dropped and takes the certificate back, and
a batch that was written too slowly leaves it alone.
-/
namespace ActualState

open Time (Moment Duration)

/-- How a flush ends. -/
inductive SyncOutcome where
  | idle
  | saved (count : Nat) (bumped : Bool)
  | failed (count : Nat)
  deriving DecidableEq, Repr, Inhabited

/-- What a flush cycle remembers from the one before: the total it reported. -/
structure SyncCycle where
  previousReceived : Option Nat := none
  deriving DecidableEq, Repr, Inhabited

/-- Which call a flush waits for. -/
inductive FlushStage where
  /-- The sync that was made at `began` on the monotonic clock. -/
  | syncing (began : Duration)
  | bumping
  | revoking
  deriving DecidableEq, Repr, Inhabited

/-- A flush that waits for its store: its batch, and the total of heartbeats when it took it. -/
structure Flush where
  batch : List Heartbeat
  received : Nat
  stage : FlushStage
  deriving DecidableEq, Inhabited

/-- A listener and the flush that is under way. -/
structure Listener where
  config : ListenerConfig := {}
  aggregation : Aggregation := {}
  cycle : SyncCycle := {}
  flush : Option Flush := none
  deriving DecidableEq, Inhabited

/-- What a listener does to the world around it. -/
inductive Effect where
  | call (c : StoreCall)
  | report (m : Metric)
  /-- The end of a flush. -/
  | finished (o : SyncOutcome)
  /-- A flush ends because time leaves the calendar. -/
  | broken
  deriving DecidableEq, Inhabited

namespace Listener

/-- Takes in a message on the heartbeat topic; the second part is how many heartbeats are now
pending, none if the message was dropped. -/
def handleHeartbeat (l : Listener) (payload : List UInt8) (now : Moment) :
    Listener × Option Nat :=
  match Heartbeat.decode payload with
  | .error _ => (l, none)
  | .ok h =>
    let a := l.aggregation.record h now
    ({ l with aggregation := a }, some a.pending.length)

/-- Whether the last heartbeat is at least the freshness TTL ago. -/
def isSilent (l : Listener) (now : Moment) : Bool :=
  l.config.actualFreshnessTtl ≤ now.since l.aggregation.lastLiveness

/-- An advertisement at `now` renews the certificate if no heartbeat came in for too long. The
wall clock is read once more for the stamp. -/
def handleAdvertise (l : Listener) (now stamp : Moment) : List Effect :=
  if l.isSilent now then [.call (.bump stamp)] else []

/-- Reports the total of received heartbeats, unless it is the one reported last. -/
def reportReceived (l : Listener) (received : Nat) : Listener × List Effect :=
  if l.cycle.previousReceived = some received then (l, [])
  else ({ l with cycle := ⟨some received⟩ }, [.report (.received received)])

/-- Ends a flush. -/
def finish (l : Listener) (received : Nat) (o : SyncOutcome) : Listener × List Effect :=
  let (l, reports) := { l with flush := none }.reportReceived received
  (l, reports ++ [.finished o])

/-- Ends a flush whose batch is in the store. -/
def finishSaved (l : Listener) (f : Flush) (bumped : Bool) : Listener × List Effect :=
  let count := f.batch.length
  let a := l.aggregation.recordSaved count
  let (l, effects) := { l with aggregation := a }.finish f.received (.saved count bumped)
  (l, .report (.saved a.totalSaved) :: effects)

/-- Ends a flush without an outcome. -/
def breakOff (l : Listener) : Listener × List Effect := ({ l with flush := none }, [.broken])

/-- Begins a flush at `clock`: takes the whole buffer, and asks the store to sync it unless it
is empty. -/
def beginFlush (l : Listener) (clock : Duration) : Listener × List Effect :=
  let d := l.aggregation.drained
  let l := { l with aggregation := l.aggregation.drain }
  if d.batch.isEmpty then l.finish d.totalReceived .idle
  else
    ({ l with flush := some ⟨d.batch, d.totalReceived, .syncing clock⟩ }, [.call (.sync d.batch)])

/-- Goes on with a flush once its batch is in the store: a batch written in less than one sync
interval renews the certificate, from the wall time after the write on. -/
def afterSync (l : Listener) (f : Flush) (began : Duration) (now : Option Moment)
    (clock : Duration) : Listener × List Effect :=
  if clock - began < l.config.syncInterval then
    match now with
    | none => l.breakOff
    | some now => ({ l with flush := some { f with stage := .bumping } }, [.call (.bump now)])
  else l.finishSaved f false

/-- Goes on with a flush: its store has answered, at wall time `now` if there is one, and at
`clock` on the monotonic clock. -/
def answer (l : Listener) (a : Answer) (now : Option Moment) (clock : Duration) :
    Listener × List Effect :=
  match l.flush with
  | none => (l, [])
  | some f =>
    match a, f.stage with
    | .aborted, _ => l.breakOff
    | .done, .syncing began => l.afterSync f began now clock
    | .failed _, .syncing _ =>
      ({ l with flush := some { f with stage := .revoking } }, [.call .revoke])
    | .done, .bumping | .failed _, .bumping => l.finishSaved f true
    | .done, .revoking | .failed _, .revoking => l.finish f.received (.failed f.batch.length)

end Listener

end ActualState
