import ActualState.Listener.Basic

/-!
# Runs of a listener

A listener takes in messages, begins flushes and is told the answers of its store. An `Input` is
one of these events with everything that the world decides about it: the payload, the readings
of both clocks and the answer. A run is a list of inputs in any order, so messages may come in
while a flush waits, and a store may give any answer at any time. An input that cannot happen,
such as a second flush beside one under way, changes nothing. `Move` lists what one step can do;
every invariant of runs is proved from it.
-/
namespace ActualState

open Time (Moment Duration)

namespace Effect

/-- The call that an effect makes. -/
def call? : Effect → Option StoreCall
  | .call c => some c
  | _ => none

/-- The outcome of the flush that an effect ends. -/
def outcome? : Effect → Option SyncOutcome
  | .finished o => some o
  | _ => none

/-- Whether an effect ends a flush, with an outcome or without. -/
def isEnd : Effect → Bool
  | .finished _ | .broken => true
  | _ => false

end Effect

/-- The calls among effects, in order. -/
def callsOf (es : List Effect) : List StoreCall := es.filterMap Effect.call?

/-- The outcomes among effects, in order. -/
def outcomesOf (es : List Effect) : List SyncOutcome := es.filterMap Effect.outcome?

@[simp] theorem callsOf_append (es fs : List Effect) :
    callsOf (es ++ fs) = callsOf es ++ callsOf fs := List.filterMap_append

@[simp] theorem outcomesOf_append (es fs : List Effect) :
    outcomesOf (es ++ fs) = outcomesOf es ++ outcomesOf fs := List.filterMap_append

namespace Listener

/-- One event in the life of a listener. -/
inductive Input where
  | heartbeat (payload : List UInt8) (now : Moment)
  /-- The wall clock is read twice: for the silence, and for the stamp of a renewal. -/
  | advertise (now stamp : Moment)
  /-- The next flush goes on from the memory of another series of flushes. -/
  | carry (c : SyncCycle)
  | flush (clock : Duration)
  /-- The store answers the call that the flush under way waits for. -/
  | answer (a : Answer) (now : Option Moment) (clock : Duration)
  deriving DecidableEq, Inhabited

/-- The listener after an event, and what it does. -/
def step (l : Listener) : Input → Listener × List Effect
  | .heartbeat payload now => ((l.handleHeartbeat payload now).1, [])
  | .advertise now stamp => (l, l.handleAdvertise now stamp)
  | .carry c => if l.flush.isSome then (l, []) else ({ l with cycle := c }, [])
  | .flush clock => if l.flush.isSome then (l, []) else l.beginFlush clock
  | .answer a now clock => l.answer a now clock

/-- A listener before the first event. -/
def fresh (c : ListenerConfig) : Listener := { config := c }

/-- The listener after a run. -/
def after (l : Listener) (is : List Input) : Listener := is.foldl (fun l i => (l.step i).1) l

/-- Inputs, each with what the listener did about it. -/
abbrev Trace := List (Input × List Effect)

/-- What a listener does in a run, event by event. -/
def trace (l : Listener) : List Input → Trace
  | [] => []
  | i :: is => (i, (l.step i).2) :: trace (l.step i).1 is

/-- The events of a trace, in order. -/
def Trace.inputs (t : Trace) : List Input := t.map Prod.fst

/-- Everything done in a trace, in order. -/
def Trace.effects (t : Trace) : List Effect := t.flatMap Prod.snd

@[simp] theorem Trace.inputs_concat (t : Trace) (i : Input) (es : List Effect) :
    Trace.inputs (t ++ [(i, es)]) = t.inputs ++ [i] := by
  simp [Trace.inputs]

@[simp] theorem Trace.effects_concat (t : Trace) (i : Input) (es : List Effect) :
    Trace.effects (t ++ [(i, es)]) = t.effects ++ es := by
  simp [Trace.effects]

@[simp] theorem inputs_trace (l : Listener) (is : List Input) : (l.trace is).inputs = is := by
  induction is generalizing l with
  | nil => rfl
  | cons i is ih => simpa [trace, Trace.inputs] using ih (l.step i).1

theorem after_append (l : Listener) (is js : List Input) :
    l.after (is ++ js) = (l.after is).after js := List.foldl_append

theorem trace_append (l : Listener) (is js : List Input) :
    l.trace (is ++ js) = l.trace is ++ (l.after is).trace js := by
  induction is generalizing l with
  | nil => rfl
  | cons i is ih => simp [trace, after, ih (l.step i).1]

theorem Trace.effects_append (t u : Trace) :
    Trace.effects (t ++ u) = t.effects ++ u.effects := List.flatMap_append

/-- The heartbeat that an event brings, with the clock reading that is recorded with it. -/
def Input.accepted? : Input → Option (Heartbeat × Moment)
  | .heartbeat payload now => (Heartbeat.decode payload).toOption.map fun h => (h, now)
  | _ => none

/-- The heartbeats that come in, in order. -/
def accepted (is : List Input) : List (Heartbeat × Moment) := is.filterMap Input.accepted?

/-! ### How a flush ends -/

theorem finish_eq (l : Listener) (n : Nat) (o : SyncOutcome) :
    l.finish n o =
      if l.cycle.previousReceived = some n then ({ l with flush := none }, [.finished o])
      else ({ l with flush := none, cycle := ⟨some n⟩ },
        [.report (.received n), .finished o]) := by
  by_cases h : l.cycle.previousReceived = some n <;> simp [finish, reportReceived, h]

@[simp] theorem aggregation_finish (l : Listener) (n : Nat) (o : SyncOutcome) :
    (l.finish n o).1.aggregation = l.aggregation := by
  rw [finish_eq]
  split <;> rfl

@[simp] theorem config_finish (l : Listener) (n : Nat) (o : SyncOutcome) :
    (l.finish n o).1.config = l.config := by
  rw [finish_eq]
  split <;> rfl

@[simp] theorem flush_finish (l : Listener) (n : Nat) (o : SyncOutcome) :
    (l.finish n o).1.flush = none := by
  rw [finish_eq]
  split <;> rfl

@[simp] theorem callsOf_finish (l : Listener) (n : Nat) (o : SyncOutcome) :
    callsOf (l.finish n o).2 = [] := by
  rw [finish_eq]
  split <;> rfl

@[simp] theorem outcomesOf_finish (l : Listener) (n : Nat) (o : SyncOutcome) :
    outcomesOf (l.finish n o).2 = [o] := by
  rw [finish_eq]
  split <;> rfl

@[simp] theorem any_isEnd_finish (l : Listener) (n : Nat) (o : SyncOutcome) :
    (l.finish n o).2.any Effect.isEnd = true := by
  rw [finish_eq]
  split <;> rfl

@[simp] theorem aggregation_finishSaved (l : Listener) (f : Flush) (b : Bool) :
    (l.finishSaved f b).1.aggregation = l.aggregation.recordSaved f.batch.length := by
  simp [finishSaved]

@[simp] theorem config_finishSaved (l : Listener) (f : Flush) (b : Bool) :
    (l.finishSaved f b).1.config = l.config := by
  simp [finishSaved]

@[simp] theorem flush_finishSaved (l : Listener) (f : Flush) (b : Bool) :
    (l.finishSaved f b).1.flush = none := by
  simp [finishSaved]

@[simp] theorem callsOf_finishSaved (l : Listener) (f : Flush) (b : Bool) :
    callsOf (l.finishSaved f b).2 = [] := callsOf_finish _ _ _

@[simp] theorem outcomesOf_finishSaved (l : Listener) (f : Flush) (b : Bool) :
    outcomesOf (l.finishSaved f b).2 = [.saved f.batch.length b] := outcomesOf_finish _ _ _

@[simp] theorem any_isEnd_finishSaved (l : Listener) (f : Flush) (b : Bool) :
    (l.finishSaved f b).2.any Effect.isEnd = true := any_isEnd_finish _ _ _

/-! ### How a flush goes on -/

/-- The listener whose buffer a flush has just taken. -/
def drained (l : Listener) : Listener := { l with aggregation := l.aggregation.drain }

section Answers

variable {l : Listener} {f : Flush} {began : Duration} {a : Answer} {now : Option Moment}
  {clock : Duration}

theorem beginFlush_idle (nothing : l.aggregation.pending = []) :
    l.beginFlush clock = l.drained.finish l.aggregation.totalReceived .idle := by
  simp [beginFlush, Aggregation.drained, drained, nothing]

theorem beginFlush_sync (some_ : l.aggregation.pending ≠ []) :
    l.beginFlush clock =
      ({ l.drained with
        flush := some ⟨l.aggregation.pending, l.aggregation.totalReceived, .syncing clock⟩ },
        [.call (.sync l.aggregation.pending)]) := by
  simp [beginFlush, Aggregation.drained, drained, some_]

theorem answer_aborted (busy : l.flush = some f) :
    l.answer .aborted now clock = l.breakOff := by
  simp [answer, busy]

theorem answer_refused (busy : l.flush = some f) (stage : f.stage = .syncing began)
    (e : StoreError) :
    l.answer (.failed e) now clock =
      ({ l with flush := some { f with stage := .revoking } }, [.call .revoke]) := by
  simp [answer, busy, stage]

theorem answer_inTime (busy : l.flush = some f) (stage : f.stage = .syncing began)
    (early : clock - began < l.config.syncInterval) (now : Moment) :
    l.answer .done (some now) clock =
      ({ l with flush := some { f with stage := .bumping } }, [.call (.bump now)]) := by
  simp [answer, busy, stage, afterSync, early]

theorem answer_timeless (busy : l.flush = some f) (stage : f.stage = .syncing began)
    (early : clock - began < l.config.syncInterval) :
    l.answer .done none clock = l.breakOff := by
  simp [answer, busy, stage, afterSync, early]

theorem answer_tooLate (busy : l.flush = some f) (stage : f.stage = .syncing began)
    (late : ¬ clock - began < l.config.syncInterval) :
    l.answer .done now clock = l.finishSaved f false := by
  simp [answer, busy, stage, afterSync, late]

theorem answer_bumping (busy : l.flush = some f) (stage : f.stage = .bumping)
    (alive : a ≠ .aborted) : l.answer a now clock = l.finishSaved f true := by
  cases a with
  | aborted => exact absurd rfl alive
  | done => simp [answer, busy, stage]
  | failed e => simp [answer, busy, stage]

theorem answer_revoking (busy : l.flush = some f) (stage : f.stage = .revoking)
    (alive : a ≠ .aborted) :
    l.answer a now clock = l.finish f.received (.failed f.batch.length) := by
  cases a with
  | aborted => exact absurd rfl alive
  | done => simp [answer, busy, stage]
  | failed e => simp [answer, busy, stage]

end Answers

/-! ### What one step can do -/

/-- The listener after an event and what it does, case by case. -/
inductive Move (l : Listener) : Input → Listener → List Effect → Prop
  | accepted {payload : List UInt8} {now : Moment} {h : Heartbeat}
      (decoded : Heartbeat.decode payload = .ok h) :
      Move l (.heartbeat payload now) { l with aggregation := l.aggregation.record h now } []
  | dropped {payload : List UInt8} {now : Moment} {e : Json.Problem}
      (refused : Heartbeat.decode payload = .error e) : Move l (.heartbeat payload now) l []
  | renewed {now stamp : Moment} (silent : l.isSilent now = true) :
      Move l (.advertise now stamp) l [.call (.bump stamp)]
  | quiet {now stamp : Moment} (heard : l.isSilent now = false) :
      Move l (.advertise now stamp) l []
  | carried {c : SyncCycle} (free : l.flush = none) : Move l (.carry c) { l with cycle := c } []
  | carryIgnored {c : SyncCycle} (busy : l.flush.isSome = true) : Move l (.carry c) l []
  | idle {clock : Duration} (free : l.flush = none) (nothing : l.aggregation.pending = []) :
      Move l (.flush clock) (l.drained.finish l.aggregation.totalReceived .idle).1
        (l.drained.finish l.aggregation.totalReceived .idle).2
  | began {clock : Duration} (free : l.flush = none) (some_ : l.aggregation.pending ≠ []) :
      Move l (.flush clock)
        { l.drained with
          flush := some ⟨l.aggregation.pending, l.aggregation.totalReceived, .syncing clock⟩ }
        [.call (.sync l.aggregation.pending)]
  | flushIgnored {clock : Duration} (busy : l.flush.isSome = true) : Move l (.flush clock) l []
  | unasked {a : Answer} {now : Option Moment} {clock : Duration} (free : l.flush = none) :
      Move l (.answer a now clock) l []
  | aborted {f : Flush} {now : Option Moment} {clock : Duration} (busy : l.flush = some f) :
      Move l (.answer .aborted now clock) { l with flush := none } [.broken]
  | inTime {f : Flush} {began : Duration} {now : Moment} {clock : Duration}
      (busy : l.flush = some f) (stage : f.stage = .syncing began)
      (early : clock - began < l.config.syncInterval) :
      Move l (.answer .done (some now) clock)
        { l with flush := some { f with stage := .bumping } } [.call (.bump now)]
  | timeless {f : Flush} {began clock : Duration} (busy : l.flush = some f)
      (stage : f.stage = .syncing began) (early : clock - began < l.config.syncInterval) :
      Move l (.answer .done none clock) { l with flush := none } [.broken]
  | tooLate {f : Flush} {began : Duration} {now : Option Moment} {clock : Duration}
      (busy : l.flush = some f) (stage : f.stage = .syncing began)
      (late : ¬ clock - began < l.config.syncInterval) :
      Move l (.answer .done now clock) (l.finishSaved f false).1 (l.finishSaved f false).2
  | refused {f : Flush} {began : Duration} {e : StoreError} {now : Option Moment}
      {clock : Duration} (busy : l.flush = some f) (stage : f.stage = .syncing began) :
      Move l (.answer (.failed e) now clock)
        { l with flush := some { f with stage := .revoking } } [.call .revoke]
  | bumped {f : Flush} {a : Answer} {now : Option Moment} {clock : Duration}
      (busy : l.flush = some f) (stage : f.stage = .bumping) (alive : a ≠ .aborted) :
      Move l (.answer a now clock) (l.finishSaved f true).1 (l.finishSaved f true).2
  | revoked {f : Flush} {a : Answer} {now : Option Moment} {clock : Duration}
      (busy : l.flush = some f) (stage : f.stage = .revoking) (alive : a ≠ .aborted) :
      Move l (.answer a now clock) (l.finish f.received (.failed f.batch.length)).1
        (l.finish f.received (.failed f.batch.length)).2

theorem move_heartbeat (l : Listener) (payload : List UInt8) (now : Moment) :
    Move l (.heartbeat payload now) (l.handleHeartbeat payload now).1 [] := by
  unfold handleHeartbeat
  cases h : Heartbeat.decode payload with
  | error e => exact .dropped h
  | ok hb => exact .accepted h

theorem move_advertise (l : Listener) (now stamp : Moment) :
    Move l (.advertise now stamp) l (l.handleAdvertise now stamp) := by
  unfold handleAdvertise
  cases h : l.isSilent now with
  | true => exact .renewed h
  | false => exact .quiet h

theorem move_flush (l : Listener) (clock : Duration) (free : l.flush = none) :
    Move l (.flush clock) (l.beginFlush clock).1 (l.beginFlush clock).2 := by
  by_cases nothing : l.aggregation.pending = []
  · rw [beginFlush_idle nothing]
    exact .idle free nothing
  · rw [beginFlush_sync nothing]
    exact .began free nothing

theorem move_answer (l : Listener) (a : Answer) (now : Option Moment) (clock : Duration) :
    Move l (.answer a now clock) (l.answer a now clock).1 (l.answer a now clock).2 := by
  cases busy : l.flush with
  | none =>
    rw [answer, busy]
    exact .unasked busy
  | some f =>
    by_cases alive : a = .aborted
    · subst alive
      rw [answer_aborted busy]
      exact .aborted busy
    cases stage : f.stage with
    | bumping =>
      rw [answer_bumping busy stage alive]
      exact .bumped busy stage alive
    | revoking =>
      rw [answer_revoking busy stage alive]
      exact .revoked busy stage alive
    | syncing began =>
      cases a with
      | aborted => exact absurd rfl alive
      | failed e =>
        rw [answer_refused busy stage e]
        exact .refused busy stage
      | done =>
        by_cases early : clock - began < l.config.syncInterval
        · cases now with
          | none =>
            rw [answer_timeless busy stage early]
            exact .timeless busy stage early
          | some now =>
            rw [answer_inTime busy stage early]
            exact .inTime busy stage early
        · rw [answer_tooLate busy stage early]
          exact .tooLate busy stage early

/-- Every step is one of the moves. -/
theorem step_move (l : Listener) (i : Input) : Move l i (l.step i).1 (l.step i).2 := by
  cases i with
  | heartbeat payload now => exact l.move_heartbeat payload now
  | advertise now stamp => exact l.move_advertise now stamp
  | carry c =>
    cases h : l.flush with
    | none => simpa [step, h] using Move.carried (c := c) h
    | some f => simpa [step, h] using Move.carryIgnored (c := c) (by simp [h])
  | flush clock =>
    cases h : l.flush with
    | none => simpa [step, h] using l.move_flush clock h
    | some f =>
      have ignored : Move l (.flush clock) l [] := .flushIgnored (by simp [h])
      simpa [step, h] using ignored
  | answer a now clock => exact l.move_answer a now clock

/-- What holds of a listener before the first event, and is kept by every move, holds after every
run. -/
theorem run_induction {P : Listener → Trace → Prop} {l : Listener} (start : P l [])
    (next : ∀ k t i k' es, P k t → Move k i k' es → P k' (t ++ [(i, es)])) (is : List Input) :
    P (l.after is) (l.trace is) := by
  suffices h : ∀ k t, P k t → P (k.after is) (t ++ k.trace is) from h l [] start
  induction is with
  | nil => intro k t hk; simpa [after, trace] using hk
  | cons i is ih =>
    intro k t hk
    have h := ih _ _ (next k t i _ _ hk (step_move k i))
    simpa [after, trace] using h

theorem Move.config {l k : Listener} {i : Input} {es : List Effect} (m : Move l i k es) :
    k.config = l.config := by
  cases m with
  | idle => simp [drained]
  | tooLate => simp
  | bumped => simp
  | revoked => simp
  | _ => rfl

theorem config_after (l : Listener) (is : List Input) : (l.after is).config = l.config := by
  refine run_induction (P := fun k _ => k.config = l.config) rfl ?_ is
  intro k t i k' es h m
  exact m.config.trans h

end Listener

end ActualState
