import ActualState.Proofs.Listener.Run
import Mathlib.Algebra.GroupWithZero.Nat

/-!
# Conservation of heartbeats

Every heartbeat that comes in goes to exactly one batch, in the order of arrival, or still waits
in the buffer; and every batch that was taken is counted exactly once, as saved, as failed or as
under way. The account compares what the world sent with what the store was handed, so it holds
at every point of a run, also while a flush waits for its store. Only a flush that is broken off
by a date outside the calendar leaves the account: its batch has no outcome.
-/
namespace ActualState

open Time (Moment Duration)

/-- The batch that a call hands to the store. -/
def StoreCall.batch? : StoreCall → Option (List Heartbeat)
  | .sync batch => some batch
  | _ => none

/-- How many heartbeats a flush took, if it took any. -/
def SyncOutcome.count? : SyncOutcome → Option Nat
  | .idle => none
  | .saved n _ | .failed n => some n

/-- How many heartbeats a flush saved. -/
def SyncOutcome.savedCount? : SyncOutcome → Option Nat
  | .saved n _ => some n
  | _ => none

/-- How many heartbeats a flush dropped. -/
def SyncOutcome.failedCount? : SyncOutcome → Option Nat
  | .failed n => some n
  | _ => none

/-- The batches handed to the store, in order. -/
def batchesOf (es : List Effect) : List (List Heartbeat) :=
  (callsOf es).filterMap StoreCall.batch?

/-- The sizes of all batches with an outcome, in order. -/
def countsOf (es : List Effect) : List Nat := (outcomesOf es).filterMap SyncOutcome.count?

/-- The sizes of the batches that were saved, in order. -/
def savedCountsOf (es : List Effect) : List Nat :=
  (outcomesOf es).filterMap SyncOutcome.savedCount?

/-- The sizes of the batches that were dropped, in order. -/
def failedCountsOf (es : List Effect) : List Nat :=
  (outcomesOf es).filterMap SyncOutcome.failedCount?

@[simp] theorem batchesOf_append (es fs : List Effect) :
    batchesOf (es ++ fs) = batchesOf es ++ batchesOf fs := by simp [batchesOf]

@[simp] theorem countsOf_append (es fs : List Effect) :
    countsOf (es ++ fs) = countsOf es ++ countsOf fs := by simp [countsOf]

@[simp] theorem savedCountsOf_append (es fs : List Effect) :
    savedCountsOf (es ++ fs) = savedCountsOf es ++ savedCountsOf fs := by simp [savedCountsOf]

theorem sum_countsOf (es : List Effect) :
    (countsOf es).sum = (savedCountsOf es).sum + (failedCountsOf es).sum := by
  simp only [countsOf, savedCountsOf, failedCountsOf]
  induction outcomesOf es with
  | nil => rfl
  | cons o os ih =>
    cases o with
    | idle => exact ih
    | saved n b =>
      simp only [List.filterMap_cons, SyncOutcome.count?, SyncOutcome.savedCount?,
        SyncOutcome.failedCount?, List.sum_cons]
      omega
    | failed n =>
      simp only [List.filterMap_cons, SyncOutcome.count?, SyncOutcome.savedCount?,
        SyncOutcome.failedCount?, List.sum_cons]
      omega

namespace Listener

/-- The size of the batch of the flush under way, if there is one. -/
def underWay (l : Listener) : Option Nat := l.flush.map fun f => f.batch.length

@[simp] theorem accepted_concat (is : List Input) (i : Input) :
    accepted (is ++ [i]) = accepted is ++ i.accepted?.toList := by
  cases h : i.accepted? <;> simp [accepted, h]

/-- The account of a listener after a trace. -/
structure Balanced (l : Listener) (t : Trace) : Prop where
  order : (batchesOf t.effects).flatten ++ l.aggregation.pending =
    (accepted t.inputs).map Prod.fst
  sizes : (batchesOf t.effects).map List.length = countsOf t.effects ++ l.underWay.toList
  received : l.aggregation.totalReceived = (accepted t.inputs).length
  saved : l.aggregation.totalSaved = (savedCountsOf t.effects).sum

theorem balanced_fresh (c : ListenerConfig) : Balanced (fresh c) [] := ⟨rfl, rfl, rfl, rfl⟩

/-- A step that brings no heartbeat and leaves the buffer and the flush as they are keeps the
account if it neither hands over a batch nor ends a flush. -/
theorem Balanced.same {l k : Listener} {t : Trace} {i : Input} {es : List Effect}
    (h : Balanced l t) (nothing : i.accepted? = none) (agg : k.aggregation = l.aggregation)
    (flush : k.underWay = l.underWay) (calls : batchesOf es = []) (ends : outcomesOf es = []) :
    Balanced k (t ++ [(i, es)]) where
  order := by simpa [agg, calls, nothing] using h.order
  sizes := by simpa [calls, flush, countsOf, ends] using h.sizes
  received := by simpa [agg, nothing] using h.received
  saved := by simpa [agg, savedCountsOf, ends] using h.saved

/-- A flush ends: its batch moves from the one under way to those with an outcome. -/
theorem Balanced.ended {l k : Listener} {t : Trace} {i : Input} {es : List Effect}
    {o : SyncOutcome} (h : Balanced l t) (nothing : i.accepted? = none)
    (pending : k.aggregation.pending = l.aggregation.pending)
    (received : k.aggregation.totalReceived = l.aggregation.totalReceived)
    (saved : k.aggregation.totalSaved = l.aggregation.totalSaved + o.savedCount?.toList.sum)
    (free : k.flush = none) (count : o.count? = l.underWay) (calls : callsOf es = [])
    (ends : outcomesOf es = [o]) : Balanced k (t ++ [(i, es)]) := by
  have hc : countsOf es = o.count?.toList := by
    simp only [countsOf, ends]
    cases o <;> rfl
  have hs : savedCountsOf es = o.savedCount?.toList := by
    simp only [savedCountsOf, ends]
    cases o <;> rfl
  constructor
  · simpa [pending, batchesOf, calls, nothing] using h.order
  · simpa [underWay, free, hc, count, batchesOf, calls] using h.sizes
  · simpa [received, nothing] using h.received
  · simp [saved, hs, h.saved]

/-- A flush ends because its batch is saved. -/
theorem Balanced.endedSaved {l : Listener} {t : Trace} {i : Input} {f : Flush}
    (h : Balanced l t) (nothing : i.accepted? = none) (busy : l.flush = some f) (b : Bool) :
    Balanced (l.finishSaved f b).1 (t ++ [(i, (l.finishSaved f b).2)]) := by
  have count : (SyncOutcome.saved f.batch.length b).count? = l.underWay := by
    simp [underWay, busy, SyncOutcome.count?]
  exact h.ended nothing (by simp) (by simp) (by simp [SyncOutcome.savedCount?]) (by simp) count
    (by simp) (by simp)

/-- A flush takes the buffer, which is not empty, and hands it over. -/
theorem Balanced.began {l : Listener} {t : Trace} (h : Balanced l t) (free : l.flush = none)
    (clock : Duration) (stage : FlushStage) :
    Balanced
      { l.drained with
        flush := some ⟨l.aggregation.pending, l.aggregation.totalReceived, stage⟩ }
      (t ++ [(.flush clock, [.call (.sync l.aggregation.pending)])]) := by
  have calls : batchesOf [.call (.sync l.aggregation.pending)] = [l.aggregation.pending] := rfl
  have counts : countsOf [.call (.sync l.aggregation.pending)] = [] := rfl
  have saved : savedCountsOf [.call (.sync l.aggregation.pending)] = [] := rfl
  have sizes : (batchesOf t.effects).map List.length = countsOf t.effects := by
    simpa [underWay, free] using h.sizes
  constructor
  · simpa [Input.accepted?, drained, calls] using h.order
  · simp [underWay, calls, counts, sizes]
  · simpa [Input.accepted?, drained] using h.received
  · simpa [drained, saved] using h.saved

theorem Balanced.next {l k : Listener} {t : Trace} {i : Input} {es : List Effect}
    (h : Balanced l t) (unbroken : Effect.broken ∉ es) (m : Move l i k es) :
    Balanced k (t ++ [(i, es)]) := by
  cases m with
  | accepted decoded =>
    constructor
    · simp [Input.accepted?, decoded, ← h.order, Except.toOption]
    · simpa [underWay] using h.sizes
    · simp [Input.accepted?, decoded, h.received, Except.toOption]
    · simpa using h.saved
  | dropped refused =>
    exact h.same (by simp [Input.accepted?, refused, Except.toOption]) rfl rfl rfl rfl
  | renewed => exact h.same rfl rfl rfl rfl rfl
  | quiet => exact h.same rfl rfl rfl rfl rfl
  | carried => exact h.same rfl rfl rfl rfl rfl
  | carryIgnored => exact h.same rfl rfl rfl rfl rfl
  | idle free nothing =>
    have count : SyncOutcome.idle.count? = l.underWay := by
      simp [underWay, free, SyncOutcome.count?]
    exact h.ended rfl (by simp [drained, nothing]) (by simp [drained])
      (by simp [drained, SyncOutcome.savedCount?]) (by simp) count (by simp) (by simp)
  | began free waiting => exact h.began free _ _
  | flushIgnored => exact h.same rfl rfl rfl rfl rfl
  | unasked => exact h.same rfl rfl rfl rfl rfl
  | aborted => simp at unbroken
  | inTime busy => exact h.same rfl rfl (by simp [underWay, busy]) rfl rfl
  | timeless => simp at unbroken
  | tooLate busy => exact h.endedSaved rfl busy false
  | refused busy => exact h.same rfl rfl (by simp [underWay, busy]) rfl rfl
  | bumped busy => exact h.endedSaved rfl busy true
  | @revoked f _ _ _ busy =>
    have count : (SyncOutcome.failed f.batch.length).count? = l.underWay := by
      simp [underWay, busy, SyncOutcome.count?]
    exact h.ended rfl (by simp) (by simp) (by simp [SyncOutcome.savedCount?]) (by simp) count
      (by simp) (by simp)

/-- The account of a run in which no flush is broken off. -/
theorem balanced_after (c : ListenerConfig) (is : List Input)
    (unbroken : Effect.broken ∉ ((fresh c).trace is).effects) :
    Balanced ((fresh c).after is) ((fresh c).trace is) := by
  revert unbroken
  refine run_induction (P := fun l t => Effect.broken ∉ t.effects → Balanced l t) ?_ ?_ is
  · exact fun _ => balanced_fresh c
  · intro k t i k' es ih m unbroken
    simp only [Trace.effects_concat, List.mem_append, not_or] at unbroken
    exact (ih unbroken.1).next unbroken.2 m

/-- Heartbeats that came in are waiting, saved, dropped or under way. -/
theorem Balanced.total {l : Listener} {t : Trace} (h : Balanced l t) :
    l.aggregation.totalReceived = l.aggregation.pending.length + l.aggregation.totalSaved +
      (failedCountsOf t.effects).sum + l.underWay.getD 0 := by
  have order := congrArg List.length h.order
  have sizes := congrArg List.sum h.sizes
  have under : l.underWay.toList.sum = l.underWay.getD 0 := by cases l.underWay <;> simp
  simp only [List.length_append, List.length_flatten, List.length_map] at order
  simp only [List.sum_append, sum_countsOf, under] at sizes
  rw [h.received, h.saved]
  omega

/-- An event whose message is refused. -/
def Input.isRefused : Input → Bool
  | .heartbeat payload _ => (Heartbeat.decode payload).toOption.isNone
  | _ => false

theorem step_refused (l : Listener) (i : Input) (h : i.isRefused = true) : l.step i = (l, []) := by
  cases i with
  | heartbeat payload now =>
    cases d : Heartbeat.decode payload with
    | error e => simp [step, handleHeartbeat, d]
    | ok hb => simp [Input.isRefused, d, Except.toOption] at h
  | advertise _ _ | carry _ | flush _ | answer _ _ _ => simp [Input.isRefused] at h

/-- Messages that are refused leave no trace. -/
theorem run_without_refused (l : Listener) (is : List Input) :
    l.after (is.filter fun i => !i.isRefused) = l.after is ∧
      (l.trace (is.filter fun i => !i.isRefused)).effects = (l.trace is).effects := by
  induction is generalizing l with
  | nil => exact ⟨rfl, rfl⟩
  | cons i is ih =>
    cases h : i.isRefused with
    | true => simpa [after, trace, Trace.effects, h, step_refused l i h] using ih l
    | false => simpa [after, trace, Trace.effects, h] using ih (l.step i).1

/-- Every heartbeat that came in is in exactly one batch or still in the buffer, in the order of
arrival; every batch has one outcome, which counts all of it, or is under way; the totals agree
with both; and messages that are refused leave no trace. -/
theorem heartbeats_conserved (c : ListenerConfig) (is : List Input)
    (unbroken : Effect.broken ∉ ((fresh c).trace is).effects) :
    let l := (fresh c).after is
    let es := ((fresh c).trace is).effects
    let came := (accepted is).map Prod.fst
    let readable := is.filter fun i => !i.isRefused
    (batchesOf es).flatten ++ l.aggregation.pending = came ∧
      (batchesOf es).map List.length = countsOf es ++ l.underWay.toList ∧
      l.aggregation.totalReceived = came.length ∧
      l.aggregation.totalReceived = l.aggregation.pending.length + l.aggregation.totalSaved +
        (failedCountsOf es).sum + l.underWay.getD 0 ∧
      l.aggregation.totalSaved = (savedCountsOf es).sum ∧
      (fresh c).after readable = l ∧ ((fresh c).trace readable).effects = es := by
  intro l es came readable
  have h := balanced_after c is unbroken
  obtain ⟨same, sameEffects⟩ := run_without_refused (fresh c) is
  have received : l.aggregation.totalReceived = came.length := by
    simpa [came] using h.received
  have order : (batchesOf es).flatten ++ l.aggregation.pending = came := by
    simpa [came] using h.order
  exact ⟨order, h.sizes, received, h.total, h.saved, same, sameEffects⟩

/-- A heartbeat comes in while a batch is being written that then fails. -/
theorem heartbeats_conserved_arrival_in_failed_write :
    let payload : List UInt8 := [123, 34, 100, 101, 97, 34, 58, 34, 97, 34, 125]
    let now := Moment.epoch
    let is : List Input := [.heartbeat payload now, .heartbeat [] now, .flush 0,
      .heartbeat payload now, .answer (.failed .io) (some now) 1, .answer .done (some now) 2]
    let l := (fresh {}).after is
    let es := ((fresh {}).trace is).effects
    Effect.broken ∉ es ∧ (batchesOf es).flatten ++ l.aggregation.pending =
      (accepted is).map Prod.fst ∧ batchesOf es = [[⟨"a", []⟩]] ∧
      l.aggregation.totalReceived = 2 := by
  intro payload now is l es
  have effects : es = [.call (.sync [⟨"a", []⟩]), .call .revoke, .report (.received 1),
      .finished (.failed 1)] := by decide +kernel
  have unbroken : Effect.broken ∉ es := by simp [effects]
  obtain ⟨order, -, received, -⟩ := heartbeats_conserved {} is unbroken
  have came : (accepted is).map Prod.fst = [⟨"a", []⟩, ⟨"a", []⟩] := by decide +kernel
  have batches : batchesOf es = [[⟨"a", []⟩]] := by
    simp [effects, batchesOf, callsOf, Effect.call?, StoreCall.batch?]
  refine ⟨unbroken, order, batches, ?_⟩
  simp only [came, List.length_cons, List.length_nil] at received
  exact received

end Listener

end ActualState
