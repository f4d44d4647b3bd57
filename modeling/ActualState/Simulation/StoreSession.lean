import ActualState.Simulation.Clocks
import ActualState.Simulation.Reply

/-!
# Trying out a store

A store in a file, its disk and its clocks, driven step by step. A step that writes can have
other steps happen while its write is on the way to the disk.
-/
namespace ActualState.Simulation

open Time (Moment Duration)

/-- A store under trial. -/
structure StoreSession where
  clocks : Clocks
  store : FileStore
  disk : Disk
  deriving Inhabited

/-- Steps that may happen during a write. -/
inductive StoreSideStep where
  | clock (c : ClockStep)
  | startUsage
  | measure
  | unknown
  deriving Inhabited

/-- Steps of a trial. -/
inductive StoreStep where
  | side (s : StoreSideStep)
  /-- A call, unless its input is refused; and what happens during its write. -/
  | call (c : Except Reply StoreCall) (during : List StoreSideStep)
  | freshness
  | isFresh (at_ : Option Moment)
  /-- The DEAs alive at a time, by default now. -/
  | actualState (at_ : Option (Option Moment))
  | file
  | block
  | unblock
  | writeFile (content : List UInt8)
  | reopen
  deriving Inhabited

namespace StoreSession

/-- Opens the store at a path on which something may stand already. -/
def open? (heartbeatTtl freshnessTtl : Duration) (target : Entry) (now : Moment) :
    Except StoreError StoreSession :=
  (FileStore.open? heartbeatTtl freshnessTtl { target }).map fun s => ⟨⟨now, 0⟩, s, { target }⟩

/-- A step that may happen during a write. -/
def side (s : StoreSession) : StoreSideStep → StoreSession × Reply
  | .clock c =>
    match s.clocks.step c with
    | none => (s, .broken)
    | some c => ({ s with clocks := c }, .ok)
  | .startUsage => ({ s with store := s.store.startUsage s.clocks.clock }, .ok)
  | .measure =>
    match s.store.measureUsage s.clocks.clock with
    | (store, .ok sample) => ({ s with store := store }, .fraction sample.fraction)
    | (_, .error e) => (s, .refused e)
  | .unknown => (s, .unknownStep)

/-- A run of steps during a write. -/
def sides (s : StoreSession) : List StoreSideStep → StoreSession × List Reply
  | [] => (s, [])
  | t :: rest =>
    let (s, r) := s.side t
    let (s, rs) := sides s rest
    (s, r :: rs)

/-- A call, with steps during its write. -/
def call (s : StoreSession) (c : StoreCall) (during : List StoreSideStep) :
    StoreSession × Reply × List Reply :=
  match s.store.begin c (some s.clocks.wall) s.clocks.clock with
  | .error a =>
    let (s, rs) := s.sides during
    (s, .ofAnswer a, rs)
  | .ok w =>
    let (s, rs) := s.sides during
    let (store, disk, a) := s.store.complete w s.disk s.clocks.clock
    ({ s with store := store, disk := disk }, .ofAnswer a, rs)

/-- One step: the reply to it, and the replies to the steps during its write. -/
def step (s : StoreSession) : StoreStep → StoreSession × Reply × List Reply
  | .side t =>
    let (s, r) := s.side t
    (s, r, [])
  | .call (.error r) during =>
    let (s, rs) := s.sides during
    (s, r, rs)
  | .call (.ok c) during => s.call c during
  | .freshness => (s, .freshness s.store.freshness, [])
  | .isFresh none => (s, .broken, [])
  | .isFresh (some m) => (s, .flag (isFreshAt s.store.freshness m), [])
  | .actualState none => (s, .deas (s.store.actualState s.clocks.wall), [])
  | .actualState (some none) => (s, .broken, [])
  | .actualState (some (some m)) => (s, .deas (s.store.actualState m), [])
  | .file => (s, .entry s.disk.target, [])
  | .block => ({ s with disk := { s.disk with target := .directory } }, .ok, [])
  | .unblock => ({ s with disk := { s.disk with target := .absent } }, .ok, [])
  | .writeFile content =>
    if s.disk.target = .directory then (s, .refused .io, [])
    else ({ s with disk := { s.disk with target := .file content } }, .ok, [])
  | .reopen =>
    match FileStore.open? s.store.heartbeatTtl s.store.freshnessTtl s.disk with
    | .ok store => ({ s with store := store }, .ok, [])
    | .error e => (s, .refused e, [])

end StoreSession

end ActualState.Simulation
