import ActualState.Store.ScriptedStore

/-!
# Stores of either kind

A listener works with a store in a file or with one by script. `Backend` is either, with the
disk where there is one. `begin` makes a call; if the store does not answer at once, the call
is in flight until `complete`. A store in a file writes one document after the other: a bump that
comes in beside a write waits for it.
-/
namespace ActualState

open Time (Moment Duration)

/-- A store of either kind. -/
inductive Backend where
  | scripted (s : ScriptedStore)
  | file (s : FileStore) (d : Disk)
  deriving Inhabited

/-- A call that a store has not answered yet. -/
inductive InFlight where
  /-- A sync that sleeps until `until_` on the monotonic clock. -/
  | sleeping (batch : List Heartbeat) (until_ : Duration)
  /-- A write, and the bumps that wait for it, in order. -/
  | writing (w : PendingWrite) (bumps : List Moment)
  deriving DecidableEq, Inhabited

/-- The state of a call that was made. -/
inductive CallState where
  | answered (a : Answer)
  | inFlight (c : InFlight)
  deriving DecidableEq, Inhabited

/-- When a call in flight can be completed: at `now`, unless it sleeps longer. -/
def InFlight.due (c : InFlight) (now : Duration) : Duration :=
  match c with
  | .sleeping _ until_ => max now until_
  | .writing _ _ => now

namespace Backend

/-- Makes a call at wall time `now`, if there is one. -/
def begin (b : Backend) (call : StoreCall) (now : Option Moment) (clock : Duration) :
    Backend × CallState :=
  match b with
  | .file s d =>
    match s.begin call now clock with
    | .error a => (.file s d, .answered a)
    | .ok w => (.file s d, .inFlight (.writing w []))
  | .scripted s =>
    let s := s.note call
    match call with
    | .sync batch =>
      if s.writeDelay = 0 then
        let (s, a) := s.completeSync batch
        (.scripted s, .answered a)
      else (.scripted s, .inFlight (.sleeping batch (clock + s.writeDelay)))
    | .bump at_ =>
      let (s, a) := s.answerBump at_
      (.scripted s, .answered a)
    | .revoke =>
      let (s, a) := s.answerRevoke
      (.scripted s, .answered a)

/-- A call in flight with one more bump that waits for it, if bumps wait for one another. A store by
script has its calls made side by side. -/
def enqueue? (b : Backend) (c : Option InFlight) (at_ : Moment) : Option InFlight :=
  match b, c with
  | .file _ _, some (.writing w bumps) => some (.writing w (bumps ++ [at_]))
  | _, _ => none

/-- Completes a call in flight, and then the bumps that wait for it. -/
def complete (b : Backend) (c : InFlight) (clock : Duration) : Backend × Answer :=
  match b, c with
  | .file s d, .writing w bumps =>
    let (s, d, a) := s.complete w d clock
    let (s, d, _) := s.bumpAll d clock bumps
    (.file s d, a)
  | .scripted s, .sleeping batch _ =>
    let (s, a) := s.completeSync batch
    (.scripted s, a)
  | b, _ => (b, .aborted)

/-- The freshness of the state. -/
def freshness : Backend → Option FreshnessRecord
  | .scripted s => s.freshness
  | .file s _ => s.freshness

/-- Whether the state is certified fresh at `now`. -/
def isFresh (b : Backend) (now : Moment) : Bool := isFreshAt b.freshness now

/-- The DEAs that are part of the state at `now`. -/
def actualState (b : Backend) (now : Moment) : Register DeaRecord :=
  match b with
  | .scripted s => s.actualState now
  | .file s _ => s.actualState now

/-- The calls noted so far, where calls are noted. -/
def calls : Backend → List StoreCall
  | .scripted s => s.calls
  | .file _ _ => []

/-- The batches accepted so far, where they are kept. -/
def synced : Backend → List (List Heartbeat)
  | .scripted s => s.synced
  | .file _ _ => []

end Backend

end ActualState
