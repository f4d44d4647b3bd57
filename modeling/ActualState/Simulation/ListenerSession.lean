import ActualState.Listener.Service
import ActualState.Simulation.Clocks
import ActualState.Simulation.Reply

/-!
# Trying out a listener

A listener at work, driven step by step: messages, flushes, requests to its inspection API, and
whatever happens to its store, its clocks and its connection. Other steps can happen while the
sync of a flush is under way.
-/
namespace ActualState.Simulation

open Time (Moment Duration)

/-- How long a listener on simulated clocks is up, which is counted in real time. -/
def uptime : Duration := 0

/-- A listener under trial. -/
structure ListenerSession where
  clocks : Clocks
  service : Service
  /-- The API key that requests have to bring. -/
  serverKey : Option String
  deriving Inhabited

/-- Steps that may happen during a flush. -/
inductive ListenerSideStep where
  | clock (c : ClockStep)
  | heartbeat (payload : List UInt8)
  | advertise
  | measure
  | startUsage
  | writeDelay (d : Duration)
  | failSync (on : Bool)
  | failFreshness (on : Bool)
  | connected
  | connectionLost
  | noop
  | unknown
  deriving Inhabited

/-- Steps of a trial. -/
inductive ListenerStep where
  | side (s : ListenerSideStep)
  | sync (during : List ListenerSideStep)
  | newCycle
  /-- A call of the store itself, unless its input is refused. -/
  | call (c : Except Reply StoreCall)
  | isFresh
  | file
  | block
  | unblock
  | serverKey (key : Option String)
  | http (q : Http.Request)
  deriving Inhabited

/-- The settings of a store by script. -/
inductive ScriptStep where
  | writeDelay (d : Duration)
  | failSync (on : Bool)
  | failFreshness (on : Bool)
  deriving DecidableEq, Repr, Inhabited

/-- Changes the script of a store; none if it has no script. -/
def script (s : Service) (t : ScriptStep) : Option Service :=
  match s.backend with
  | .file _ _ => none
  | .scripted b =>
    let b :=
      match t with
      | .writeDelay d => { b with writeDelay := d }
      | .failSync on => { b with failSync := on }
      | .failFreshness on => { b with failFreshness := on }
    some { s with backend := .scripted b }

namespace ListenerSession

/-- Puts something else at the path of the store, where there is one. -/
def setTarget (s : ListenerSession) (e : Entry) : ListenerSession × Reply :=
  match s.service.backend with
  | .scripted _ => (s, .ok)
  | .file b d =>
    ({ s with service := { s.service with backend := .file b { d with target := e } } }, .ok)

/-- Changes the script of the store. -/
def scriptStep (s : ListenerSession) (t : ScriptStep) : ListenerSession × Reply :=
  match script s.service t with
  | none => (s, .notScripted)
  | some service => ({ s with service := service }, .ok)

/-- A step that may happen during a flush. -/
def side (s : ListenerSession) : ListenerSideStep → ListenerSession × Reply
  | .clock c =>
    match s.clocks.step c with
    | none => (s, .broken)
    | some c => ({ s with clocks := c }, .ok)
  | .heartbeat payload =>
    match s.service.heartbeat payload (some s.clocks.wall) with
    | (service, some (some n)) => ({ s with service := service }, .count n)
    | (service, some none) => ({ s with service := service }, .none)
    | (service, none) => ({ s with service := service }, .broken)
  | .advertise =>
    match s.service.advertise (some s.clocks.wall) s.clocks.clock with
    | (service, some b) => ({ s with service := service }, .flag b)
    | (service, none) => ({ s with service := service }, .broken)
  | .measure => ({ s with service := s.service.measureUsage s.clocks.clock }, .ok)
  | .startUsage => ({ s with service := s.service.startUsage s.clocks.clock }, .ok)
  | .writeDelay d => s.scriptStep (.writeDelay d)
  | .failSync on => s.scriptStep (.failSync on)
  | .failFreshness on => s.scriptStep (.failFreshness on)
  | .connected => ({ s with service := { s.service with health := s.service.health.connected } }, .ok)
  | .connectionLost => ({ s with service := { s.service with health := s.service.health.lost } }, .ok)
  | .noop => (s, .ok)
  | .unknown => (s, .unknownStep)

/-- A run of steps during a flush. -/
def sides (s : ListenerSession) : List ListenerSideStep → ListenerSession × List Reply
  | [] => (s, [])
  | t :: rest =>
    let (s, r) := s.side t
    let (s, rs) := sides s rest
    (s, r :: rs)

/-- The reply to a flush that has ended. -/
def endReply : Option FlushEnd → Reply
  | some (.finished o) => .outcome o
  | _ => .broken

/-- Completes the call that a flush waits for, when it is due, and so on to the end of the
flush, with at most so many calls on the way. -/
def completeFlush (s : ListenerSession) (e : Option FlushEnd) :
    Nat → ListenerSession × Option FlushEnd
  | 0 => (s, e)
  | calls + 1 =>
    match e, s.service.inFlight with
    | none, some c =>
      let clock := c.due s.clocks.clock
      let (service, e) := s.service.completeFlush (some s.clocks.wall) clock
      completeFlush { s with service := service, clocks := { s.clocks with clock := clock } } e calls
    | e, _ => (s, e)

/-- A flush, with steps during its sync. -/
def sync (s : ListenerSession) (during : List ListenerSideStep) :
    ListenerSession × Reply × List Reply :=
  let (service, e) := s.service.beginFlush (some s.clocks.wall) s.clocks.clock
  let s := { s with service := service }
  if service.isSyncing then
    let (s, rs) := s.sides during
    let (s, e) := s.completeFlush e Service.callsOfFlush
    (s, endReply e, rs)
  else
    let (s, e) := s.completeFlush e Service.callsOfFlush
    let (s, rs) := s.sides during
    (s, endReply e, rs)

/-- A call of the store itself; a sync that sleeps takes its time. -/
def call (s : ListenerSession) (c : StoreCall) : ListenerSession × Reply :=
  match s.service.backend.begin c (some s.clocks.wall) s.clocks.clock with
  | (b, .answered a) => ({ s with service := { s.service with backend := b } }, .ofAnswer a)
  | (b, .inFlight f) =>
    let clock := f.due s.clocks.clock
    let (b, a) := b.complete f clock
    ({ s with
        service := { s.service with backend := b }
        clocks := { s.clocks with clock := clock } }, .ofAnswer a)

/-- What stands at the path of the store. -/
def target (s : ListenerSession) : Entry :=
  match s.service.backend with
  | .scripted _ => .absent
  | .file _ d => d.target

/-- One step: the reply to it, and the replies to the steps during its flush. -/
def step (s : ListenerSession) : ListenerStep → ListenerSession × Reply × List Reply
  | .sync during => s.sync during
  | .side t => single (s.side t)
  | .newCycle =>
    let l := { s.service.listener with cycle := {} }
    ({ s with service := { s.service with listener := l } }, .ok, [])
  | .call (.error r) => (s, r, [])
  | .call (.ok c) => single (s.call c)
  | .isFresh => (s, .flag (s.service.backend.isFresh s.clocks.wall), [])
  | .file => (s, .entry s.target, [])
  | .block => single (s.setTarget .directory)
  | .unblock => single (s.setTarget .absent)
  | .serverKey key => ({ s with serverKey := key }, .ok, [])
  | .http q => (s, .response (Http.handle s.serverKey q (s.service.snapshot s.clocks.wall uptime)), [])
where
  /-- A step during which nothing else happens. -/
  single (r : ListenerSession × Reply) : ListenerSession × Reply × List Reply := (r.1, r.2, [])

end ListenerSession

end ActualState.Simulation
