import ActualState.Store.Disk
import ActualState.Store.Document
import ActualState.Store.Usage
import ActualState.Text.Blank

/-!
# A store in one file

The document is held in memory and, as JSON, in a file. A change is written to the file first
and taken over in memory only once it is there, so that a change that fails leaves no trace in
either. A change is made in two steps, `begin` and `complete`, and other things may happen in
between; but a change has the document to itself, so that another one waits until it is complete.
-/
namespace ActualState

open Time (Moment Duration)

/-- Why a store does not do what it is asked. -/
inductive StoreError where
  | io
  | serialization (p : Json.Problem)
  | usageNotTracked
  deriving DecidableEq, Inhabited

/-- How a call of a store ends: done, refused, or broken off by a date out of the calendar. -/
inductive Answer where
  | done
  | failed (e : StoreError)
  | aborted
  deriving DecidableEq, Inhabited

/-- A call that changes a store. -/
inductive StoreCall where
  | sync (batch : List Heartbeat)
  | bump (at_ : Moment)
  | revoke
  deriving DecidableEq, Inhabited

/-- A store that keeps its document in a file. -/
structure FileStore where
  heartbeatTtl : Duration
  freshnessTtl : Duration
  memory : Document
  usage : UsageWindow := {}
  deriving Inhabited

/-- A change on its way to the disk. -/
structure PendingWrite where
  next : Document
  content : List UInt8
  began : Duration
  deriving DecidableEq, Inhabited

namespace FileStore

/-- The document of what stands at the path of a store. -/
def load (target : Entry) : Except StoreError Document :=
  match target with
  | .absent => .ok .empty
  | .directory => .error .io
  | .file content =>
    match Text.Utf8.toString? content with
    | none => .error .io
    | some s =>
      if Text.isBlankText s then .ok .empty
      else
        match Document.decode content with
        | .ok d => .ok d
        | .error p => .error (.serialization p)

/-- Opens the store at a path. -/
def open? (heartbeatTtl freshnessTtl : Duration) (d : Disk) : Except StoreError FileStore :=
  (load d.target).map fun doc => ⟨heartbeatTtl, freshnessTtl, doc, {}⟩

/-- The document after a call at wall time `now`; none if a date leaves the calendar. Only a
sync looks at the wall time. -/
def next? (s : FileStore) (call : StoreCall) (now : Option Moment) : Option Document :=
  match call with
  | .sync batch => now.map fun now => s.memory.sync s.heartbeatTtl batch now
  | .bump at_ => s.memory.bump? s.freshnessTtl at_
  | .revoke => some s.memory.revoke

/-- Begins a call; it waits for the disk, unless it is answered at once. A document without a
text is refused before anything is written. -/
def begin (s : FileStore) (call : StoreCall) (now : Option Moment) (clock : Duration) :
    Except Answer PendingWrite :=
  match s.next? call now with
  | none => .error .aborted
  | some next =>
    match next.encode with
    | .error p => .error (.failed (.serialization p))
    | .ok content => .ok ⟨next, content, clock⟩

/-- Completes a call: the file is replaced, and then the document in memory. The time since the
call began counts as spent writing, whether it worked or not. -/
def complete (s : FileStore) (w : PendingWrite) (d : Disk) (clock : Duration) :
    FileStore × Disk × Answer :=
  let s := { s with usage := s.usage.addWrite w.began clock }
  match d.replace w.content with
  | (d, true) => ({ s with memory := w.next }, d, .done)
  | (d, false) => (s, d, .failed .io)

/-- A call without anything in between, from `began` to `ended` on the monotonic clock. -/
def perform (s : FileStore) (call : StoreCall) (now : Option Moment) (d : Disk)
    (began ended : Duration) : FileStore × Disk × Answer :=
  match s.begin call now began with
  | .error a => (s, d, a)
  | .ok w => s.complete w d ended

/-- Bumps that have waited, one after the other, and what they are answered. -/
def bumpAll (s : FileStore) (d : Disk) (clock : Duration) :
    List Moment → FileStore × Disk × List Answer
  | [] => (s, d, [])
  | at_ :: rest =>
    let (s, d, a) := s.perform (.bump at_) none d clock clock
    let (s, d, as) := bumpAll s d clock rest
    (s, d, a :: as)

/-- Starts tracking usage. -/
def startUsage (s : FileStore) (clock : Duration) : FileStore :=
  { s with usage := .start clock }

/-- Samples the usage. -/
def measureUsage (s : FileStore) (clock : Duration) : FileStore × Except StoreError UsageSample :=
  match s.usage.sample? clock with
  | none => (s, .error .usageNotTracked)
  | some (sample, u) => ({ s with usage := u }, .ok sample)

/-- The freshness of the state. -/
def freshness (s : FileStore) : Option FreshnessRecord := s.memory.freshness

/-- The DEAs that are alive at `now`. -/
def actualState (s : FileStore) (now : Moment) : Register DeaRecord :=
  s.memory.alive s.heartbeatTtl now

end FileStore

end ActualState
