import ActualState.Listener.Service
import ActualState.Time.Ticker

/-!
# A started listener

A started listener consists of tasks that run side by side: two pumps that take messages from
their subscriptions, a task for each message, the flush loop and the usage loop. A `Runtime` is
what they have got to, and an `Event` is one step of one of them, so that every way in which
they can run side by side is a list of events. An event that cannot happen changes nothing.

The tasks of the loops run for the first time some while after the start, and other things may
happen before. A request to stop is only noticed by a loop between two of its rounds: the first
round is never left out, and a flush that is under way comes to its end first.
-/
namespace ActualState

open Time (Moment Duration Ticker)

/-- The name of the ticker behind the flush loop. -/
def flushTicker : String := "HeartbeatSyncTimer"

/-- The name of the ticker behind the usage loop. -/
def usageTicker : String := "StoreUsageTimer"

/-- What the flush loop is doing. -/
inductive FlushLoop where
  /-- Its task has not run yet. -/
  | starting
  | waiting (t : Ticker)
  | flushing (t : Ticker)
  | ended
  deriving DecidableEq, Repr, Inhabited

/-- What the usage loop is doing. -/
inductive UsageLoop where
  /-- Its task has not run yet. -/
  | starting
  | waiting (t : Ticker)
  | ended
  deriving DecidableEq, Repr, Inhabited

/-- What a message is for. -/
inductive MessageKind where
  | advertise
  | heartbeat
  deriving DecidableEq, Repr, Inhabited

/-- A subscription: the messages that its pump has not taken yet. -/
structure Pump where
  isOpen : Bool := true
  queue : List (List UInt8) := []
  deriving DecidableEq, Repr, Inhabited

/-- A started listener. -/
structure Runtime where
  service : Service
  flushLoop : FlushLoop
  usageLoop : UsageLoop
  advertisements : Pump := {}
  heartbeats : Pump := {}
  /-- Messages that were taken and wait for their task to run. -/
  taken : List (MessageKind × List UInt8) := []
  stopping : Bool := false
  busClosed : Bool := false
  deriving Inhabited

/-- One step of one task, or of the world around them. -/
inductive Event where
  /-- The bus delivers a message. -/
  | arrive (topic : String) (payload : List UInt8)
  /-- A pump takes its next message. -/
  | take (k : MessageKind)
  /-- The task of a message runs. -/
  | handle (index : Nat)
  /-- The task of the flush loop runs for the first time. -/
  | flushStart
  | flushTick
  /-- The store answers the flush under way. -/
  | flushAnswered
  /-- The task of the usage loop runs for the first time. -/
  | usageStart
  | usageTick
  /-- The listener is asked to stop, or its handle is dropped. -/
  | stop
  | closeBus
  /-- The flush loop notices between two rounds that it should stop. -/
  | endFlushLoop
  /-- The usage loop notices between two rounds that it should stop. -/
  | endUsageLoop
  /-- A pump notices that it should stop, or that its subscription is over. -/
  | endPump (k : MessageKind)
  deriving DecidableEq, Repr, Inhabited

namespace Pump

/-- The subscription after a message has come in. -/
def push (p : Pump) (payload : List UInt8) : Pump :=
  if p.isOpen then { p with queue := p.queue ++ [payload] } else p

/-- The subscription that has ended. -/
def closed : Pump := ⟨false, []⟩

end Pump

namespace Runtime

/-- The subscription for messages of a kind. -/
def pump (r : Runtime) : MessageKind → Pump
  | .advertise => r.advertisements
  | .heartbeat => r.heartbeats

/-- Changes the subscription for messages of a kind. -/
def setPump (r : Runtime) (k : MessageKind) (p : Pump) : Runtime :=
  match k with
  | .advertise => { r with advertisements := p }
  | .heartbeat => { r with heartbeats := p }

/-- The topic for messages of a kind. -/
def topic (r : Runtime) : MessageKind → String
  | .advertise => r.service.listener.config.topics.advertise
  | .heartbeat => r.service.listener.config.topics.heartbeat

/-- The topics in the order in which they are subscribed. -/
def subscriptions (r : Runtime) : List String := [r.topic .advertise, r.topic .heartbeat]

/-- What the flush loop does after a flush got so far. -/
def afterFlush (t : Ticker) : Option FlushEnd → FlushLoop
  | none => .flushing t
  | some (.finished _) => .waiting t
  | some .broken => .ended

/-- A listener that is started: no task has run yet, and there is a usage loop if there is a
tracker. -/
def start (s : Service) : Runtime where
  service := s
  flushLoop := .starting
  usageLoop := if s.tracker.isSome then .starting else .ended

/-- Begins a round of the flush loop, after which it waits for a tick of `t`. -/
def beginFlush (r : Runtime) (t : Ticker) (now : Option Moment) (clock : Duration) : Runtime :=
  let (s, e) := r.service.beginFlush now clock
  { r with service := s, flushLoop := afterFlush t e }

/-- The flush loop with its ticker: the first flush begins at once. Without a ticker it ends. -/
def startFlushLoop (r : Runtime) (ticker : Option Ticker) (now : Option Moment)
    (clock : Duration) : Runtime :=
  match ticker with
  | none => { r with flushLoop := .ended }
  | some t => r.beginFlush t now clock

/-- The usage loop with its ticker: its tracker is started, and the first sample is taken at once.
Without a ticker it ends in between. -/
def startUsageLoop (r : Runtime) (ticker : Option Ticker) (clock : Duration) : Runtime :=
  let s := r.service.startUsage clock
  match ticker with
  | none => { r with service := s, usageLoop := .ended }
  | some t => { r with service := s.measureUsage clock, usageLoop := .waiting t }

/-- The ticker of a flush loop that runs for the first time. -/
def flushTicker? (r : Runtime) (clock : Duration) : Option Ticker :=
  Ticker.start? flushTicker r.service.listener.config.syncInterval clock

/-- The ticker of a usage loop that runs for the first time. -/
def usageTicker? (r : Runtime) (clock : Duration) : Option Ticker :=
  Ticker.start? usageTicker r.service.listener.config.storeUsageSampleInterval clock

/-- Takes in a message. -/
def handle (s : Service) (m : MessageKind × List UInt8) (now : Option Moment)
    (clock : Duration) : Service :=
  match m.1 with
  | .advertise => (s.advertise now clock).1
  | .heartbeat => (s.heartbeat m.2 now).1

/-- One step at wall time `now`, if there is one, and at `clock` on the monotonic clock. -/
def step (r : Runtime) (e : Event) (now : Option Moment) (clock : Duration) : Runtime :=
  match e with
  | .arrive topic payload =>
    let deliver (r : Runtime) (k : MessageKind) : Runtime :=
      if topic = r.topic k then r.setPump k ((r.pump k).push payload) else r
    if r.busClosed then r else deliver (deliver r .advertise) .heartbeat
  | .take k =>
    match (r.pump k).queue with
    | [] => r
    | m :: rest =>
      { r.setPump k { r.pump k with queue := rest } with taken := r.taken ++ [(k, m)] }
  | .handle i =>
    match r.taken[i]? with
    | none => r
    | some m => { r with service := handle r.service m now clock, taken := r.taken.eraseIdx i }
  | .flushStart =>
    match r.flushLoop with
    | .starting => r.startFlushLoop (r.flushTicker? clock) now clock
    | _ => r
  | .flushTick =>
    match r.flushLoop with
    | .waiting t => if t.due ≤ clock then r.beginFlush (t.fired clock) now clock else r
    | _ => r
  | .flushAnswered =>
    match r.flushLoop with
    | .flushing t =>
      let (s, e) := r.service.completeFlush now clock
      { r with service := s, flushLoop := afterFlush t e }
    | _ => r
  | .usageStart =>
    match r.usageLoop with
    | .starting => r.startUsageLoop (r.usageTicker? clock) clock
    | _ => r
  | .usageTick =>
    match r.usageLoop with
    | .waiting t =>
      if t.due ≤ clock then
        { r with service := r.service.measureUsage clock, usageLoop := .waiting (t.fired clock) }
      else r
    | _ => r
  | .stop => { r with stopping := true }
  | .closeBus => { r with busClosed := true }
  | .endFlushLoop =>
    match r.flushLoop, r.stopping with
    | .waiting _, true => { r with flushLoop := .ended }
    | _, _ => r
  | .endUsageLoop =>
    match r.usageLoop, r.stopping with
    | .waiting _, true => { r with usageLoop := .ended }
    | _, _ => r
  | .endPump k =>
    if r.stopping || (r.busClosed && (r.pump k).queue.isEmpty) then r.setPump k .closed else r

/-- Whether all loops and pumps have ended, which is what a request to stop waits for. -/
def isStopped (r : Runtime) : Bool :=
  r.flushLoop = .ended && r.usageLoop = .ended && !r.advertisements.isOpen && !r.heartbeats.isOpen

end Runtime

end ActualState
