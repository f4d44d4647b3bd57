import ActualState.Listener.Basic

/-!
# Health

What a listener tells about itself: the state of its connection, its counters, and how the
store sees the actual state.
-/
namespace ActualState

open Time (Moment)

/-- The state of the connection to the broker. -/
inductive ConnectionStatus where
  | connecting
  | connected
  | reconnecting
  deriving DecidableEq, Repr, Inhabited

/-- The word for a state of the connection. -/
def ConnectionStatus.name : ConnectionStatus → String
  | .connecting => "connecting"
  | .connected => "connected"
  | .reconnecting => "reconnecting"

/-- The state of the connection and how often it was lost. -/
structure HealthTracker where
  status : ConnectionStatus := .connecting
  reconnects : UInt32 := 0
  deriving DecidableEq, Repr, Inhabited

namespace HealthTracker

/-- The broker has accepted the connection. -/
def connected (h : HealthTracker) : HealthTracker := { h with status := .connected }

/-- The connection was lost or refused. -/
def lost (h : HealthTracker) : HealthTracker := ⟨.reconnecting, h.reconnects + 1⟩

end HealthTracker

/-- A health document. -/
structure ListenerHealth where
  uptimeSeconds : Nat
  status : ConnectionStatus
  reconnects : UInt32
  totalReceived : Nat
  totalSaved : Nat
  pending : Nat
  /-- When the last heartbeat came in; none while that is the epoch. -/
  lastHeartbeat : Option Moment
  fresh : Bool
  deasTracked : Nat
  deriving DecidableEq, Inhabited

namespace ListenerHealth

/-- The health of a listener whose store says of `now` whether the state is fresh and how many
DEAs are part of it. -/
def gather (uptimeSeconds : Nat) (h : HealthTracker) (a : Aggregation) (fresh : Bool)
    (deasTracked : Nat) : ListenerHealth where
  uptimeSeconds := uptimeSeconds
  status := h.status
  reconnects := h.reconnects
  totalReceived := a.totalReceived
  totalSaved := a.totalSaved
  pending := a.pending.length
  lastHeartbeat := if a.lastLiveness.instant = Moment.epoch.instant then none else some a.lastLiveness
  fresh := fresh
  deasTracked := deasTracked

/-- The JSON value of a health document, if its date has a text. -/
def toJson (h : ListenerHealth) : Except Time.FormatFault Json.Value := do
  let lastHeartbeat : Json.Value ←
    match h.lastHeartbeat with
    | none => pure .null
    | some m => m.format.map .string
  return .object [
    ("uptime_seconds", .nat h.uptimeSeconds),
    ("mqtt_status", .string h.status.name),
    ("mqtt_reconnects", .nat h.reconnects.toNat),
    ("total_received_heartbeats", .nat h.totalReceived),
    ("total_saved_heartbeats", .nat h.totalSaved),
    ("heartbeats_pending_save", .nat h.pending),
    ("last_heartbeat", lastHeartbeat),
    ("actual_state_fresh", .boolean h.fresh),
    ("deas_tracked", .nat h.deasTracked)]

end ListenerHealth

end ActualState
