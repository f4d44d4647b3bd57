import ActualState.Listener.Service
import ActualState.Proofs.Listener.Run
import ActualState.Proofs.Store.Run

/-!
# Runs of a listener over a store in a file

A listener at work takes in messages and flushes what it has gathered, while its store waits for
a disk that may change at any time. An `Event` is one of these things with everything that the
world decides about it, and a `Sighting` is what can be seen of it from outside. A flush goes on
from each answer of its store until it has to wait again or is over.
-/
namespace ActualState

open Time (Moment Duration)

/-- The end of a flush that an effect is. -/
def Effect.end? : Effect → Option FlushEnd
  | .finished o => some (.finished o)
  | .broken => some .broken
  | _ => none

/-- Whether a flush ended with its batch refused. -/
def FlushEnd.isFailed : FlushEnd → Bool
  | .finished (.failed _) => true
  | _ => false

namespace Service

/-- Something that happens to a listener at work or, behind its back, to its disk. -/
inductive Event where
  | heartbeat (payload : List UInt8) (now : Option Moment)
  | advertise (now : Option Moment) (clock : Duration)
  /-- The next flush goes on from the memory of another series of flushes. -/
  | carry (c : SyncCycle)
  /-- A flush begins, unless one is under way. -/
  | begin (now : Option Moment) (clock : Duration)
  /-- The disk is done with the write that the flush under way waits for. -/
  | complete (now : Option Moment) (clock : Duration)
  | startUsage (clock : Duration)
  | measureUsage (clock : Duration)
  | disk (d : Disk)
  deriving DecidableEq, Inhabited

/-- What is seen of a step. -/
structure Sighting where
  /-- How a flush ended. -/
  ended : Option FlushEnd := none
  /-- What the store answered to advertisements that asked it to bump, in order. -/
  renewals : List Answer := []
  /-- What the store answered to the flush under way, and at which stage. -/
  answered : Option (FlushStage × Answer) := none
  deriving DecidableEq, Inhabited

/-- Whether the store has bumped the certificate. -/
def Sighting.bumped (x : Sighting) : Bool :=
  .done ∈ x.renewals || x.answered = some (.bumping, .done)

/-- Whether the store has revoked the certificate. -/
def Sighting.revoked (x : Sighting) : Bool := x.answered = some (.revoking, .done)

/-- What the store answers at once to an advertisement, if that asks it to bump. -/
def renewal (s : Service) (now : Option Moment) (clock : Duration) : Option Answer :=
  match now with
  | none => none
  | some wall => if s.listener.isSilent wall then (s.renew wall clock).2 else none

/-- A store in a file once a write is complete and the bumps that waited for it have been made, and
what they are answered. -/
def freed (f : FileStore) (w : PendingWrite) (bumps : List Moment) (d : Disk) (clock : Duration) :
    FileStore × Disk × List Answer :=
  (f.complete w d clock).1.bumpAll (f.complete w d clock).2.1 clock bumps

/-- What the store answers to the bumps that have waited for the write under way. -/
def waited (s : Service) (clock : Duration) : List Answer :=
  match s.backend, s.inFlight with
  | .file f d, some (.writing w bumps) => (freed f w bumps d clock).2.2
  | _, _ => []

/-- What the store answers to the flush that waits for it. -/
def answered (s : Service) (clock : Duration) : Option (FlushStage × Answer) :=
  match s.listener.flush, s.inFlight with
  | some f, some c => some (f.stage, (s.backend.complete c clock).2)
  | _, _ => none

/-- Puts another disk under a store in a file. -/
def withDisk (s : Service) (d : Disk) : Service :=
  match s.backend with
  | .file f _ => { s with backend := .file f d }
  | .scripted _ => s

/-- The service after an event, and what is seen of it. -/
def step (s : Service) : Event → Service × Sighting
  | .heartbeat payload now => ((s.heartbeat payload now).1, {})
  | .advertise now clock =>
    ((s.advertise now clock).1, { renewals := (s.renewal now clock).toList })
  | .carry c => ({ s with listener := (s.listener.step (.carry c)).1 }, {})
  | .begin now clock =>
    if s.listener.flush.isSome then (s, {})
    else ((s.beginFlush now clock).1, { ended := (s.beginFlush now clock).2 })
  | .complete now clock =>
    ((s.completeFlush now clock).1,
      { ended := (s.completeFlush now clock).2
        renewals := s.waited clock
        answered := s.answered clock })
  | .startUsage clock => (s.startUsage clock, {})
  | .measureUsage clock => (s.measureUsage clock, {})
  | .disk d => (s.withDisk d, {})

/-- The service after a run. -/
def after (s : Service) (es : List Event) : Service := es.foldl (fun s e => (s.step e).1) s

/-- What is seen of a run, step by step. -/
def trace (s : Service) : List Event → List Sighting
  | [] => []
  | e :: es => (s.step e).2 :: trace (s.step e).1 es

@[simp] theorem after_nil (s : Service) : s.after [] = s := rfl

@[simp] theorem after_cons (s : Service) (e : Event) (es : List Event) :
    s.after (e :: es) = (s.step e).1.after es := rfl

@[simp] theorem trace_nil (s : Service) : s.trace [] = [] := rfl

@[simp] theorem trace_cons (s : Service) (e : Event) (es : List Event) :
    s.trace (e :: es) = (s.step e).2 :: (s.step e).1.trace es := rfl

/-- A listener and a store in a file before the first event. -/
def start (c : ListenerConfig) (f : FileStore) (d : Disk) (tracker : Option UsageTracker) :
    Service :=
  { listener := .fresh c, backend := .file f d, tracker := tracker }

/-! ### Calls of a store in a file -/

theorem freshness_next? {f : FileStore} {c : StoreCall} {now : Option Moment} {next : Document}
    (made : f.next? c now = some next) :
    next.freshness = match c with
      | .sync _ => f.memory.freshness
      | .bump at_ => FreshnessRecord.from? at_ f.freshnessTtl
      | .revoke => none := by
  cases c with
  | sync batch =>
    obtain ⟨now, -, rfl⟩ := Option.map_eq_some_iff.1 made
    rfl
  | bump at_ =>
    obtain ⟨record, found, rfl⟩ := Option.map_eq_some_iff.1 made
    exact found.symm
  | revoke =>
    obtain rfl := Option.some.inj made
    rfl

/-- A write is done, and its document is in memory, or it is refused and nothing is; unless a bump
that waited is done after that, this is how the store goes on. -/
theorem memory_freed (f : FileStore) (w : PendingWrite) (bumps : List Moment) (d : Disk)
    (clock : Duration) :
    ((f.complete w d clock).2.2 = .done ∧ (.done ∉ (freed f w bumps d clock).2.2 →
        (freed f w bumps d clock).1.memory = w.next)) ∨
      ((f.complete w d clock).2.2 = .failed .io ∧ (.done ∉ (freed f w bumps d clock).2.2 →
        (freed f w bumps d clock).1.memory = f.memory)) := by
  have renewed := (f.complete w d clock).1.renewed_bumpAll (f.complete w d clock).2.1 clock bumps
  obtain ⟨-, ⟨done, memory, -⟩ | ⟨failed, memory, -⟩⟩ := f.complete_cases w d clock
  · exact .inl ⟨done, fun refused => (renewed.memory refused).trans memory⟩
  · exact .inr ⟨failed, fun refused => (renewed.memory refused).trans memory⟩

/-! ### Carrying out effects -/

/-- Reports leave all but the gauges and the log alone. -/
theorem carryOut_spec (s : Service) (es : List Effect) :
    (s.carryOut es).2 = ((callsOf es).head?, (es.filterMap Effect.end?).head?) ∧
      (s.carryOut es).1.listener = s.listener ∧ (s.carryOut es).1.backend = s.backend ∧
      (s.carryOut es).1.inFlight = s.inFlight := by
  induction es generalizing s with
  | nil => exact ⟨rfl, rfl, rfl, rfl⟩
  | cons e es ih =>
    cases e with
    | report m => exact ih (s.report m)
    | call c =>
      obtain ⟨seen, kept⟩ := ih s
      refine ⟨?_, kept⟩
      simp only [carryOut, seen]
      rfl
    | finished o =>
      obtain ⟨seen, kept⟩ := ih s
      refine ⟨?_, kept⟩
      simp only [carryOut, seen]
      rfl
    | broken =>
      obtain ⟨seen, kept⟩ := ih s
      refine ⟨?_, kept⟩
      simp only [carryOut, seen]
      rfl

theorem proceed_of_no_call (calls : Nat) (s : Service) {es : List Effect} (quiet : callsOf es = [])
    (now : Option Moment) (clock : Duration) :
    proceed calls s es now clock = ((s.carryOut es).1, (es.filterMap Effect.end?).head?) := by
  have seen := (s.carryOut_spec es).1
  rw [quiet, List.head?_nil] at seen
  cases calls with
  | zero => simp only [proceed, seen]
  | succ calls =>
    have whole : s.carryOut es = ((s.carryOut es).1, none, (es.filterMap Effect.end?).head?) := by
      rw [← seen]
    simp only [proceed]
    rw [whole]

/-- A flush goes on from an answer. -/
def goOn (calls : Nat) (s : Service) (a : Answer) (now : Option Moment) (clock : Duration) :
    Service × Option FlushEnd :=
  proceed calls { s with listener := (s.listener.answer a now clock).1 }
    (s.listener.answer a now clock).2 now clock

theorem proceed_call (calls : Nat) {s : Service} {f : FileStore} {d : Disk}
    (backend : s.backend = .file f d) (c : StoreCall) (now : Option Moment) (clock : Duration) :
    proceed (calls + 1) s [.call c] now clock =
      match f.begin c now clock with
      | .ok w => ({ s with inFlight := some (.writing w []) }, none)
      | .error a => s.goOn calls a now clock := by
  simp only [proceed, carryOut, backend, Backend.begin, goOn]
  cases f.begin c now clock with
  | ok w => simp only [← backend]
  | error a => simp only [← backend]

/-- A flush that makes no further call is over. -/
theorem goOn_of_no_call (calls : Nat) {s : Service} {a : Answer} {now : Option Moment}
    {clock : Duration} {r : Listener × List Effect}
    (answer : s.listener.answer a now clock = r) (quiet : callsOf r.2 = []) {e : FlushEnd}
    (last : (r.2.filterMap Effect.end?).head? = some e) :
    ∃ t, s.goOn calls a now clock = (t, some e) ∧ t.listener = r.1 ∧ t.backend = s.backend ∧
      t.inFlight = s.inFlight := by
  obtain ⟨-, listener, backend, inFlight⟩ := carryOut_spec { s with listener := r.1 } r.2
  refine ⟨_, ?_, listener, backend, inFlight⟩
  rw [goOn, answer, proceed_of_no_call calls _ quiet, last]

/-- A flush that makes a call waits for its disk, unless the call is answered at once. -/
theorem goOn_call (calls : Nat) {s : Service} {a : Answer} {now : Option Moment} {clock : Duration}
    {k : Listener} {c : StoreCall} {f : FileStore} {d : Disk}
    (answer : s.listener.answer a now clock = (k, [.call c])) (backend : s.backend = .file f d) :
    s.goOn (calls + 1) a now clock =
      match f.begin c now clock with
      | .ok w => ({ s with listener := k, inFlight := some (.writing w []) }, none)
      | .error b => ({ s with listener := k } : Service).goOn calls b now clock := by
  rw [goOn, answer]
  exact proceed_call calls (s := { s with listener := k }) backend c now clock

/-- The service once its disk is done with a write and with the bumps that waited for it, before the
flush hears of it. -/
def written (s : Service) (f : FileStore) (w : PendingWrite) (bumps : List Moment) (d : Disk)
    (clock : Duration) : Service :=
  { s with
    backend := .file (freed f w bumps d clock).1 (freed f w bumps d clock).2.1
    inFlight := none }

theorem completeFlush_eq {s : Service} {f : FileStore} {d : Disk} {w : PendingWrite}
    {bumps : List Moment} (backend : s.backend = .file f d)
    (inFlight : s.inFlight = some (.writing w bumps)) (now : Option Moment) (clock : Duration) :
    s.completeFlush now clock =
      (s.written f w bumps d clock).goOn callsOfFlush (f.complete w d clock).2.2 now clock := by
  simp only [completeFlush, inFlight, backend, Backend.complete]
  rfl

/-! ### Advertisements -/

theorem advertise_eq (s : Service) (wall : Moment) (clock : Duration) :
    (s.advertise (some wall) clock).1 =
      if s.listener.isSilent wall then (s.renew wall clock).1 else s := by
  simp only [advertise, Listener.handleAdvertise]
  cases s.listener.isSilent wall with
  | false => rfl
  | true =>
    simp only [if_true]
    split <;> simp_all

/-- Beside a write under way a bump waits. -/
theorem renew_of_writing {s : Service} {f : FileStore} {d : Disk} {w : PendingWrite}
    {bumps : List Moment} (backend : s.backend = .file f d)
    (inFlight : s.inFlight = some (.writing w bumps)) (at_ : Moment) (clock : Duration) :
    s.renew at_ clock = ({ s with inFlight := some (.writing w (bumps ++ [at_])) }, none) := by
  simp only [renew, backend, inFlight, Backend.enqueue?]

/-- Without a call under way a bump is made at once. -/
theorem renew_of_idle {s : Service} (idle : s.inFlight = none) (at_ : Moment) (clock : Duration) :
    s.renew at_ clock =
      ((s.perform (.bump at_) none clock).1, some (s.perform (.bump at_) none clock).2) := by
  have free : s.backend.enqueue? s.inFlight at_ = none := by
    rw [idle]
    cases s.backend <;> rfl
  simp only [renew, free]

theorem end_finish (l : Listener) (n : Nat) (o : SyncOutcome) :
    ((l.finish n o).2.filterMap Effect.end?).head? = some (.finished o) := by
  rw [Listener.finish_eq]
  split <;> rfl

theorem end_finishSaved (l : Listener) (f : Flush) (b : Bool) :
    ((l.finishSaved f b).2.filterMap Effect.end?).head? =
      some (.finished (.saved f.batch.length b)) :=
  end_finish _ _ _

end Service

end ActualState
