import ActualState.Heartbeat
import ActualState.Time.Moment

/-!
# Aggregation

Heartbeats that are not yet in the store, in the order in which they came in, and the counters
over all of them. A flush takes the whole buffer at once.
-/
namespace ActualState

open Time (Moment)

/-- Heartbeats waiting for the next flush, and totals since the start. -/
structure Aggregation where
  pending : List Heartbeat := []
  totalReceived : Nat := 0
  totalSaved : Nat := 0
  /-- When the last heartbeat came in, the epoch before the first one. -/
  lastLiveness : Moment := Moment.epoch
  deriving DecidableEq, Inhabited

/-- What a flush takes: the batch, and how many heartbeats had come in by then. -/
structure Drained where
  batch : List Heartbeat
  totalReceived : Nat
  deriving DecidableEq, Inhabited

namespace Aggregation

/-- Adds a heartbeat that came in at `now`. -/
def record (a : Aggregation) (h : Heartbeat) (now : Moment) : Aggregation :=
  { a with
    pending := a.pending ++ [h]
    totalReceived := a.totalReceived + 1
    lastLiveness := now }

/-- What a flush takes now. -/
def drained (a : Aggregation) : Drained := ⟨a.pending, a.totalReceived⟩

/-- The buffer after a flush has taken it. -/
def drain (a : Aggregation) : Aggregation := { a with pending := [] }

/-- Counts heartbeats as saved. -/
def recordSaved (a : Aggregation) (count : Nat) : Aggregation :=
  { a with totalSaved := a.totalSaved + count }

@[simp] theorem pending_record (a : Aggregation) (h : Heartbeat) (now : Moment) :
    (a.record h now).pending = a.pending ++ [h] := rfl

@[simp] theorem totalReceived_record (a : Aggregation) (h : Heartbeat) (now : Moment) :
    (a.record h now).totalReceived = a.totalReceived + 1 := rfl

@[simp] theorem totalSaved_record (a : Aggregation) (h : Heartbeat) (now : Moment) :
    (a.record h now).totalSaved = a.totalSaved := rfl

@[simp] theorem pending_drain (a : Aggregation) : a.drain.pending = [] := rfl

@[simp] theorem totalReceived_drain (a : Aggregation) :
    a.drain.totalReceived = a.totalReceived := rfl

@[simp] theorem totalSaved_drain (a : Aggregation) : a.drain.totalSaved = a.totalSaved := rfl

@[simp] theorem pending_recordSaved (a : Aggregation) (n : Nat) :
    (a.recordSaved n).pending = a.pending := rfl

@[simp] theorem totalReceived_recordSaved (a : Aggregation) (n : Nat) :
    (a.recordSaved n).totalReceived = a.totalReceived := rfl

@[simp] theorem totalSaved_recordSaved (a : Aggregation) (n : Nat) :
    (a.recordSaved n).totalSaved = a.totalSaved + n := rfl

end Aggregation

end ActualState
