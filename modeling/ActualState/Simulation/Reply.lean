import ActualState.Http.Router
import ActualState.Listener.Basic

/-!
# Replies

What the steps of a simulation answer.
-/
namespace ActualState.Simulation

/-- The answer to a step. -/
inductive Reply where
  | ok
  | none
  | flag (b : Bool)
  | count (n : Nat)
  | fraction (x : Float)
  | outcome (o : SyncOutcome)
  | freshness (f : Option FreshnessRecord)
  | deas (r : Register DeaRecord)
  | entry (e : Entry)
  | response (r : Http.Response)
  | refused (e : StoreError)
  | unreadable (p : Json.Problem)
  /-- Time left the calendar. -/
  | broken
  /-- The loops had ended before. -/
  | stopped
  | unknownStep
  /-- The step is for a store by script only. -/
  | notScripted
  deriving Inhabited

/-- The reply to an answered call. -/
def Reply.ofAnswer : Answer → Reply
  | .done => .ok
  | .failed e => .refused e
  | .aborted => .broken

end ActualState.Simulation
