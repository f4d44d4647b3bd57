import ActualState.Listener.Runtime
import ActualState.Simulation.Clocks
import ActualState.Simulation.ListenerSession

/-!
# Running a listener in virtual time

A started listener with a store by script, and a publisher of health documents, on a clock that
jumps from one timer to the next. Of timers that are due at the same time the one that was set
first fires first. Whatever is ready runs before the clock moves on; a loop that should stop
does so before its next round.
-/
namespace ActualState.Simulation

open Time (Moment Duration Ticker)

/-- A timer that is set. -/
inductive Timer where
  | flushTick
  | flushDone
  | usageTick
  | publish
  deriving DecidableEq, Repr, Inhabited

/-- The publisher of health documents. -/
structure Publisher where
  period : Duration
  due : Duration
  deriving DecidableEq, Repr, Inhabited

/-- A running listener and its time. -/
structure Timeline where
  runtime : Runtime
  /-- The wall time when the monotonic clock is at zero. -/
  base : Moment
  clock : Duration := 0
  publisher : Option Publisher := none
  /-- The timers that are set, in the order in which they were set. -/
  timers : List Timer := []
  /-- Health documents published so far. -/
  published : List String := []
  /-- Whether the handle of the listener is gone. -/
  released : Bool := false
  deriving Inhabited

/-- Steps of a run. -/
inductive RunStep where
  | incoming (topic : String) (payload : List UInt8)
  | sleep (d : Duration)
  | stop
  | dropHandle
  | closeBus
  | setClock (wall : Option Moment)
  | advance (span : Duration)
  | script (t : ScriptStep)
  | connected
  | connectionLost
  | unknown
  deriving Inhabited

namespace Timeline

/-- The wall time, if it has a place in the calendar. -/
def now (t : Timeline) : Option Moment := t.base.add? t.clock

/-- When a timer fires, if it is set. -/
def due (t : Timeline) : Timer → Option Duration
  | .flushTick =>
    match t.runtime.flushLoop with
    | .waiting k => some k.due
    | _ => none
  | .flushDone =>
    match t.runtime.flushLoop, t.runtime.service.inFlight with
    | .flushing _, some c => some (c.due 0)
    | _, _ => none
  | .usageTick =>
    match t.runtime.usageLoop with
    | .waiting k => some k.due
    | _ => none
  | .publish => t.publisher.map (·.due)

/-- Sets a timer that was not set or has fired. -/
def arm (t : Timeline) (k : Timer) : Timeline := { t with timers := t.timers.erase k ++ [k] }

/-- One event at the current time. -/
def event (t : Timeline) (e : Event) : Timeline :=
  { t with runtime := t.runtime.step e t.now t.clock }

/-- Sets the timer that the flush loop waits for, after what it just did. A tick that is due
already comes at once. -/
def rearmFlush (t : Timeline) : Timeline :=
  match t.runtime.flushLoop with
  | .waiting k =>
    if t.runtime.stopping then t.event .endFlushLoop
    else if k.due ≤ t.clock then
      let t := t.event .flushTick
      match t.runtime.flushLoop with
      | .waiting _ => t.arm .flushTick
      | .flushing _ => t.arm .flushDone
      | _ => t
    else t.arm .flushTick
  | .flushing _ => t.arm .flushDone
  | _ => t

/-- Publishes a health document; one without a text is left out, and without a wall time the
publisher ends. -/
def publish (t : Timeline) : Timeline :=
  match t.publisher, t.now with
  | none, _ => t
  | some _, none => { t with publisher := none }
  | some p, some now =>
    let t := ({ t with publisher := some { p with due := p.due + p.period } }).arm .publish
    match (t.runtime.service.snapshot now uptime).health.toJson with
    | .error _ => t
    | .ok v =>
      if t.runtime.busClosed then t else { t with published := t.published ++ [v.toText] }

/-- Fires a timer. -/
def fire (t : Timeline) : Timer → Timeline
  | .flushTick => (t.event .flushTick).rearmFlush
  | .flushDone => (t.event .flushAnswered).rearmFlush
  | .usageTick => (t.event .usageTick).arm .usageTick
  | .publish => t.publish

/-- The timer that fires next and when, the first set one of several. -/
def next? (t : Timeline) : Option (Duration × Timer) :=
  t.timers.foldl (fun best k =>
    match t.due k, best with
    | none, best => best
    | some d, none => some (d, k)
    | some d, some (e, j) => if d < e then some (d, k) else some (e, j)) none

/-- Lets all timers up to a time fire, at most so many, and moves the clock there. -/
def runTo (target : Duration) : Nat → Timeline → Timeline
  | 0, t => { t with clock := max t.clock target }
  | fuel + 1, t =>
    match t.next? with
    | none => { t with clock := max t.clock target }
    | some (d, k) =>
      if d ≤ target then runTo target fuel ({ t with clock := max t.clock d }.fire k)
      else { t with clock := max t.clock target }

/-- Timers have whole milliseconds, so that no more than this many fire in a span of time. -/
def firingsIn (d : Duration) : Nat := 4 * (d / Time.millisecond + 4)

/-- Lets time pass. -/
def sleep (t : Timeline) (d : Duration) : Timeline := runTo (t.clock + d) (firingsIn d) t

/-- Asks the listener to stop; what is between two rounds ends at once. -/
def release (t : Timeline) : Timeline :=
  let t := { t with released := true }
  let t := t.event .stop
  let t := t.event (.endPump .advertise)
  let t := t.event (.endPump .heartbeat)
  let t := t.event .endFlushLoop
  t.event .endUsageLoop

/-- Lets a flush that is under way come to its end. -/
def awaitStop (t : Timeline) : Timeline :=
  match t.due .flushDone with
  | none => t
  | some d => runTo d (firingsIn (d - t.clock)) t

/-- Delivers a message and lets it be handled. -/
def incoming (t : Timeline) (topic : String) (payload : List UInt8) : Timeline :=
  let t := t.event (.arrive topic payload)
  let t := t.event (.take .advertise)
  let t := t.event (.take .heartbeat)
  (t.event (.handle 0)).event (.handle 0)

/-- Changes what surrounds the loops. -/
def changeService (t : Timeline) (f : Service → Service) : Timeline :=
  { t with runtime := { t.runtime with service := f t.runtime.service } }

/-- Starts a listener at monotonic time zero, with a publisher if it has a period. -/
def start (s : Service) (base : Moment) (health : Option Duration) : Timeline :=
  let t : Timeline := { runtime := .start s, base := base }
  let t := (t.event .flushStart).rearmFlush
  let t := (t.event .usageStart).arm .usageTick
  match health with
  | some period =>
    if period = 0 then t else { t with publisher := some ⟨period, 0⟩ }.publish
  | none => t

/-- One step of a run. -/
def step (t : Timeline) : RunStep → Timeline × Reply
  | .incoming topic payload => (t.incoming topic payload, .ok)
  | .sleep d => (t.sleep d, .ok)
  | .stop => if t.released then (t, .stopped) else (t.release.awaitStop, .ok)
  | .dropHandle => if t.released then (t, .ok) else (t.release, .ok)
  | .closeBus =>
    let t := t.event .closeBus
    ((t.event (.endPump .advertise)).event (.endPump .heartbeat), .ok)
  | .setClock none => (t, .broken)
  | .setClock (some m) => ({ t with base := m }, .ok)
  | .advance d =>
    match t.base.add? d with
    | none => (t, .broken)
    | some m => ({ t with base := m }, .ok)
  | .script k => (t.changeService fun s => (script s k).getD s, .ok)
  | .connected => (t.changeService fun s => { s with health := s.health.connected }, .ok)
  | .connectionLost => (t.changeService fun s => { s with health := s.health.lost }, .ok)
  | .unknown => (t, .unknownStep)

end Timeline

end ActualState.Simulation
