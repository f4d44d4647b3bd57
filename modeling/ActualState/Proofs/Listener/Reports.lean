import ActualState.Proofs.Listener.Conservation
import Mathlib.Data.List.Chain

/-!
# Reported totals

The two totals that a listener reports are compared with a `Tally` that an observer keeps of the
events and effects of a run: how many heartbeats had come in when each flush took the buffer, and
how much the store had accepted when each flush ended. Both totals only grow, the received one is
up to date at the end of every flush, and the saved one never gets ahead of it. The last holds
although a flush reports what it saved first: there is no point between the two reports at which
anybody could look.
-/
namespace ActualState

open Time (Moment Duration)

/-- The total of received heartbeats that an effect reports. -/
def Effect.receivedReport? : Effect → Option Nat
  | .report (.received n) => some n
  | _ => none

/-- The total of saved heartbeats that an effect reports. -/
def Effect.savedReport? : Effect → Option Nat
  | .report (.saved n) => some n
  | _ => none

/-- The totals of received heartbeats that are reported, in order. -/
def receivedReportsOf (es : List Effect) : List Nat := es.filterMap Effect.receivedReport?

/-- The totals of saved heartbeats that are reported, in order. -/
def savedReportsOf (es : List Effect) : List Nat := es.filterMap Effect.savedReport?

@[simp] theorem receivedReportsOf_append (es fs : List Effect) :
    receivedReportsOf (es ++ fs) = receivedReportsOf es ++ receivedReportsOf fs :=
  List.filterMap_append

@[simp] theorem savedReportsOf_append (es fs : List Effect) :
    savedReportsOf (es ++ fs) = savedReportsOf es ++ savedReportsOf fs := List.filterMap_append

/-- What an observer counts who sees the events and the effects of a run. -/
structure Tally where
  /-- How many heartbeats have come in. -/
  came : Nat := 0
  /-- How many had come in when the newest flush took the buffer. -/
  taken : Nat := 0
  /-- Whether a flush has begun and not ended. -/
  busy : Bool := false
  /-- The size of the batch that the store was handed and has not answered. -/
  asked : Option Nat := none
  /-- The total size of the batches that the store has accepted. -/
  stored : Nat := 0
  /-- For each flush that has ended, what `taken` was then. -/
  drains : List Nat := []
  /-- For each flush that has ended because its batch was saved, what `stored` was then. -/
  totals : List Nat := []
  deriving DecidableEq, Inhabited

namespace Tally

/-- The store answers what it was asked. -/
def settle (y : Tally) : Answer → Tally
  | .done => { y with asked := none, stored := y.stored + y.asked.getD 0 }
  | .failed _ | .aborted => { y with asked := none }

/-- An answer to something else than the batch. -/
theorem settle_of_none {y : Tally} (h : y.asked = none) (a : Answer) : y.settle a = y := by
  cases y
  cases a <;> simp_all [settle]

/-- Counts the effects of a flush that goes on. -/
def proceed (y : Tally) (es : List Effect) : Tally :=
  { y with
    busy := !es.any Effect.isEnd
    asked := ((batchesOf es).head?.map List.length).or y.asked
    drains := y.drains ++ (outcomesOf es).map fun _ => y.taken
    totals := y.totals ++ (savedCountsOf es).map fun _ => y.stored }

/-- Counts an event and what the listener did about it. -/
def observe (y : Tally) : Listener.Input × List Effect → Tally
  | (.heartbeat payload _, _) =>
    match Heartbeat.decode payload with
    | .ok _ => { y with came := y.came + 1 }
    | .error _ => y
  | (.advertise _ _, _) | (.carry _, _) => y
  | (.flush _, es) => if y.busy then y else { y with taken := y.came }.proceed es
  | (.answer a _ _, es) => if y.busy then (y.settle a).proceed es else y

/-- The tally of a trace. -/
def ofTrace (t : Listener.Trace) : Tally := t.foldl observe {}

@[simp] theorem ofTrace_concat (t : Listener.Trace) (s : Listener.Input × List Effect) :
    ofTrace (t ++ [s]) = (ofTrace t).observe s := by
  simp [ofTrace]

end Tally

/-! ### Totals that grow -/

theorem pairwise_lt_concat {ns : List Nat} {n : Nat} (h : ns.Pairwise (· < ·))
    (above : ∀ m ∈ ns.getLast?, m < n) : (ns ++ [n]).Pairwise (· < ·) := by
  rw [← List.isChain_iff_pairwise] at h ⊢
  rw [List.isChain_append]
  exact ⟨h, .singleton n, fun m hm k hk => by simp_all⟩

/-- Reports of what came in: `drains` are the totals that were true at the ends of flushes, and
`taken` is what the next end will have to report. -/
structure Reporting (reports drains : List Nat) (taken : Nat) : Prop where
  growing : reports.Pairwise (· < ·)
  current : reports.getLast? = drains.getLast?
  bound : ∀ n ∈ reports.getLast?, n ≤ taken

/-- The end of a flush reports the total, unless it is the one reported last. -/
theorem Reporting.next {reports drains : List Nat} {taken : Nat}
    (h : Reporting reports drains taken) :
    Reporting (reports ++ if reports.getLast? = some taken then [] else [taken])
      (drains ++ [taken]) taken := by
  split
  · next same => exact ⟨by simpa using h.growing, by simp [same], by simp [same]⟩
  · next other =>
    refine ⟨pairwise_lt_concat h.growing fun n hn => ?_, by simp, by simp⟩
    have different : n ≠ taken := fun same => other (same ▸ hn)
    have below := h.bound n hn
    omega

/-- Reports of what was saved, up to now `saved`. -/
structure Saving (reports totals : List Nat) (saved : Nat) : Prop where
  growing : reports.Pairwise (· < ·)
  true_ : reports = totals
  current : reports.getLast?.getD 0 = saved

theorem Saving.next {reports totals : List Nat} {saved count : Nat}
    (h : Saving reports totals saved) (positive : 0 < count) :
    Saving (reports ++ [saved + count]) (totals ++ [saved + count]) (saved + count) := by
  refine ⟨pairwise_lt_concat h.growing fun n hn => ?_, by rw [h.true_], by simp⟩
  have last : n = saved := by simpa [Option.mem_def.1 hn] using h.current
  omega

namespace Listener

/-- The size of the batch that the store was handed and has not answered. -/
def unanswered (l : Listener) : Option Nat :=
  l.flush.bind fun f =>
    match f.stage with
    | .syncing _ => some f.batch.length
    | .bumping | .revoking => none

/-- How much the store has accepted that is not counted as saved yet. -/
def uncounted (l : Listener) : Nat :=
  l.flush.elim 0 fun f =>
    match f.stage with
    | .bumping => f.batch.length
    | .syncing _ | .revoking => 0

/-- A tally that agrees with a listener whose effects so far are `es`, and reports that agree with
the tally. -/
structure Truthful (l : Listener) (es : List Effect) (y : Tally) : Prop where
  came : y.came = l.aggregation.totalReceived
  taken : y.taken + l.aggregation.pending.length = y.came
  busy : y.busy = l.flush.isSome
  flush : ∀ f ∈ l.flush, f.received = y.taken ∧ 0 < f.batch.length
  asked : y.asked = l.unanswered
  stored : y.stored = l.aggregation.totalSaved + l.uncounted
  previous : l.cycle.previousReceived = (receivedReportsOf es).getLast?
  received : Reporting (receivedReportsOf es) y.drains y.taken
  saved : Saving (savedReportsOf es) y.totals l.aggregation.totalSaved
  behind : l.aggregation.totalSaved ≤ (receivedReportsOf es).getLast?.getD 0
  ended : y.drains.length = (outcomesOf es).length
  counted : y.totals.length = (savedCountsOf es).length

theorem truthful_fresh (c : ListenerConfig) : Truthful (fresh c) [] {} where
  came := rfl
  taken := rfl
  busy := rfl
  flush := by simp [fresh]
  asked := rfl
  stored := rfl
  previous := rfl
  received := ⟨.nil, rfl, by simp [receivedReportsOf]⟩
  saved := ⟨.nil, rfl, rfl⟩
  behind := Nat.le_refl 0
  ended := rfl
  counted := rfl

/-! ### What the end of a flush reports -/

theorem receivedReportsOf_finish (l : Listener) (n : Nat) (o : SyncOutcome) :
    receivedReportsOf (l.finish n o).2 =
      if l.cycle.previousReceived = some n then [] else [n] := by
  rw [finish_eq]
  split <;> rfl

@[simp] theorem savedReportsOf_finish (l : Listener) (n : Nat) (o : SyncOutcome) :
    savedReportsOf (l.finish n o).2 = [] := by
  rw [finish_eq]
  split <;> rfl

@[simp] theorem previousReceived_finish (l : Listener) (n : Nat) (o : SyncOutcome) :
    (l.finish n o).1.cycle.previousReceived = some n := by
  rw [finish_eq]
  split
  · assumption
  · rfl

theorem receivedReportsOf_finishSaved (l : Listener) (f : Flush) (b : Bool) :
    receivedReportsOf (l.finishSaved f b).2 =
      if l.cycle.previousReceived = some f.received then [] else [f.received] :=
  receivedReportsOf_finish _ _ _

theorem savedReportsOf_finishSaved (l : Listener) (f : Flush) (b : Bool) :
    savedReportsOf (l.finishSaved f b).2 = [l.aggregation.totalSaved + f.batch.length] := by
  have rest := savedReportsOf_finish
    { l with aggregation := l.aggregation.recordSaved f.batch.length } f.received
    (.saved f.batch.length b)
  simp only [finishSaved, savedReportsOf, List.filterMap_cons, Effect.savedReport?]
  exact congrArg (_ :: ·) rest

@[simp] theorem previousReceived_finishSaved (l : Listener) (f : Flush) (b : Bool) :
    (l.finishSaved f b).1.cycle.previousReceived = some f.received :=
  previousReceived_finish _ _ (.saved f.batch.length b)

/-! ### One step -/

variable {l k : Listener} {t : Trace} {es fs : List Effect} {y z : Tally}

/-- A step that reports nothing and ends no flush. -/
theorem Truthful.silent (h : Truthful l es y) (cycle : k.cycle = l.cycle)
    (saved : k.aggregation.totalSaved = l.aggregation.totalSaved) (drains : z.drains = y.drains)
    (totals : z.totals = y.totals) (later : y.taken ≤ z.taken)
    (noReceived : receivedReportsOf fs = []) (noSaved : savedReportsOf fs = [])
    (goesOn : outcomesOf fs = []) (came : z.came = k.aggregation.totalReceived)
    (taken : z.taken + k.aggregation.pending.length = z.came) (busy : z.busy = k.flush.isSome)
    (flush : ∀ f ∈ k.flush, f.received = z.taken ∧ 0 < f.batch.length)
    (asked : z.asked = k.unanswered)
    (stored : z.stored = k.aggregation.totalSaved + k.uncounted) :
    Truthful k (es ++ fs) z where
  came := came
  taken := taken
  busy := busy
  flush := flush
  asked := asked
  stored := stored
  previous := by simpa [noReceived, cycle] using h.previous
  received := by
    have bound (n) (hn : n ∈ (receivedReportsOf es).getLast?) := (h.received.bound n hn).trans later
    simpa [noReceived, drains] using
      (⟨h.received.growing, h.received.current, bound⟩ : Reporting _ y.drains z.taken)
  saved := by simpa [noSaved, totals, saved] using h.saved
  behind := by simpa [noReceived, saved] using h.behind
  ended := by simpa [drains, goesOn] using h.ended
  counted := by simpa [totals, savedCountsOf, goesOn] using h.counted

/-- A step that changes nothing. -/
theorem Truthful.unchanged (h : Truthful l es y) (noReceived : receivedReportsOf fs = [])
    (noSaved : savedReportsOf fs = []) (goesOn : outcomesOf fs = []) : Truthful l (es ++ fs) y :=
  h.silent rfl rfl rfl rfl (Nat.le_refl _) noReceived noSaved goesOn h.came h.taken h.busy h.flush
    h.asked h.stored

/-- A flush ends: `z` is the tally right before its effects are counted. -/
theorem Truthful.finished (h : Truthful l es y) {o : SyncOutcome} (drains : z.drains = y.drains)
    (totals : z.totals = y.totals) (came : z.came = k.aggregation.totalReceived)
    (taken : z.taken + k.aggregation.pending.length = z.came) (later : y.taken ≤ z.taken)
    (answered : z.asked = none) (stored : z.stored = k.aggregation.totalSaved)
    (bound : k.aggregation.totalSaved ≤ z.taken) (free : k.flush = none)
    (ends : fs.any Effect.isEnd = true) (calls : callsOf fs = []) (outcome : outcomesOf fs = [o])
    (reports : receivedReportsOf fs =
      if l.cycle.previousReceived = some z.taken then [] else [z.taken])
    (previous : k.cycle.previousReceived = some z.taken)
    (saved : savedReportsOf fs = o.savedCount?.toList.map (l.aggregation.totalSaved + ·))
    (total : k.aggregation.totalSaved = l.aggregation.totalSaved + o.savedCount?.getD 0)
    (positive : ∀ n ∈ o.savedCount?, 0 < n) : Truthful k (es ++ fs) (z.proceed fs) := by
  have received : Reporting (receivedReportsOf es) z.drains z.taken :=
    ⟨h.received.growing, drains ▸ h.received.current,
      fun n hn => (h.received.bound n hn).trans later⟩
  have next := received.next
  rw [← h.previous, ← reports, ← receivedReportsOf_append] at next
  have last : (receivedReportsOf (es ++ fs)).getLast? = some z.taken :=
    next.current.trans (by simp)
  have counts : savedCountsOf fs = o.savedCount?.toList := by
    simp only [savedCountsOf, outcome]
    cases o <;> rfl
  have batches : batchesOf fs = [] := by simp [batchesOf, calls]
  constructor
  · exact came
  · exact taken
  · simp [Tally.proceed, ends, free]
  · simp [free]
  · simp [Tally.proceed, batches, answered, unanswered, free]
  · simpa [Tally.proceed, uncounted, free] using stored
  · rw [previous, last]
  · simpa [Tally.proceed, outcome] using next
  · cases count : o.savedCount? with
    | none =>
      simpa [Tally.proceed, counts, saved, total, totals, count] using h.saved
    | some n =>
      have grown := h.saved.next (positive n count)
      simp only [count, Option.getD_some] at total
      simpa [Tally.proceed, counts, saved, total, totals, count, stored] using grown
  · rw [last]
    exact bound
  · simp [Tally.proceed, drains, outcome, h.ended]
  · simp [Tally.proceed, totals, h.counted]

/-- The batch of a flush that is saved. -/
theorem Truthful.finishedSaved (h : Truthful l es y) (balanced : Balanced l t) {f : Flush}
    (busy : l.flush = some f) (drains : z.drains = y.drains) (totals : z.totals = y.totals)
    (came : z.came = y.came) (taken : z.taken = y.taken) (answered : z.asked = none)
    (stored : z.stored = l.aggregation.totalSaved + f.batch.length) (b : Bool) :
    Truthful (l.finishSaved f b).1 (es ++ (l.finishSaved f b).2)
      (z.proceed (l.finishSaved f b).2) := by
  obtain ⟨received, positive⟩ := h.flush f busy
  have total := balanced.total
  have came' := h.came
  have taken' := h.taken
  simp only [underWay, busy, Option.map_some, Option.getD_some] at total
  refine h.finished (o := .saved f.batch.length b) drains totals ?_ ?_ ?_ answered ?_ ?_ ?_ ?_ ?_ ?_
    ?_ ?_ ?_ ?_ ?_
  · simp [came, h.came]
  · simp [came, taken, h.taken]
  · exact taken.ge
  · simp [stored]
  · simp only [aggregation_finishSaved, Aggregation.totalSaved_recordSaved]
    omega
  · simp
  · simp
  · simp
  · simp
  · rw [receivedReportsOf_finishSaved, received, taken]
  · rw [previousReceived_finishSaved, received, taken]
  · rw [savedReportsOf_finishSaved]
    rfl
  · simp [SyncOutcome.savedCount?]
  · simpa [SyncOutcome.savedCount?] using positive

/-- The tally while a batch is handed over. -/
theorem Truthful.atSync (h : Truthful l es y) {f : Flush} (busy : l.flush = some f)
    {began : Duration} (stage : f.stage = .syncing began) :
    y.busy = true ∧ y.asked = some f.batch.length ∧ y.stored = l.aggregation.totalSaved := by
  rw [h.busy, h.asked, h.stored]
  simp [unanswered, uncounted, busy, stage]

/-- The tally while the certificate of a batch that was accepted is renewed. -/
theorem Truthful.atBump (h : Truthful l es y) {f : Flush} (busy : l.flush = some f)
    (stage : f.stage = .bumping) :
    y.busy = true ∧ y.asked = none ∧ y.stored = l.aggregation.totalSaved + f.batch.length := by
  rw [h.busy, h.asked, h.stored]
  simp [unanswered, uncounted, busy, stage]

/-- The tally while the certificate is revoked. -/
theorem Truthful.atRevoke (h : Truthful l es y) {f : Flush} (busy : l.flush = some f)
    (stage : f.stage = .revoking) :
    y.busy = true ∧ y.asked = none ∧ y.stored = l.aggregation.totalSaved := by
  rw [h.busy, h.asked, h.stored]
  simp [unanswered, uncounted, busy, stage]

/-- Whether an event lets the next flush go on from the memory of another series of flushes. -/
def Input.isCarry : Input → Bool
  | .carry _ => true
  | _ => false

theorem Truthful.next {i : Input} {t : Trace} (h : Truthful l t.effects (.ofTrace t))
    (balanced : Balanced l t) (oneSeries : i.isCarry = false) (unbroken : Effect.broken ∉ es)
    (m : Move l i k es) : Truthful k (t.effects ++ es) ((Tally.ofTrace t).observe (i, es)) := by
  have came := h.came
  have taken := h.taken
  have total := balanced.total
  cases m with
  | accepted decoded =>
    simp only [Tally.observe, decoded]
    exact h.silent rfl rfl rfl rfl (Nat.le_refl _) rfl rfl rfl (by simp [came])
      (by simp [← taken, Nat.add_assoc]) h.busy h.flush h.asked h.stored
  | dropped refused =>
    simp only [Tally.observe, refused]
    exact h.unchanged rfl rfl rfl
  | renewed => exact h.unchanged rfl rfl rfl
  | quiet => exact h.unchanged rfl rfl rfl
  | carried => contradiction
  | carryIgnored => contradiction
  | idle free nothing =>
    have idle : (Tally.ofTrace t).busy = false := by simp [h.busy, free]
    simp only [Tally.observe, idle, Bool.false_eq_true, if_false]
    refine h.finished (o := .idle) rfl rfl ?_ ?_ ?_ ?_ ?_ ?_ (by simp) (by simp) (by simp) (by simp)
      ?_ ?_ (by simp [SyncOutcome.savedCount?]) (by simp [drained, SyncOutcome.savedCount?])
      (by simp [SyncOutcome.savedCount?])
    · simp [drained, came]
    · simp [drained]
    · show (Tally.ofTrace t).taken ≤ (Tally.ofTrace t).came
      omega
    · simp [h.asked, unanswered, free]
    · simp [drained, h.stored, uncounted, free]
    · simp only [aggregation_finish, drained, Aggregation.totalSaved_drain]
      omega
    · rw [receivedReportsOf_finish, ← came]
      rfl
    · rw [previousReceived_finish, ← came]
  | began free waiting =>
    have idle : (Tally.ofTrace t).busy = false := by simp [h.busy, free]
    have stored : (Tally.ofTrace t).stored = l.aggregation.totalSaved := by
      simp [h.stored, uncounted, free]
    simp only [Tally.observe, idle, Bool.false_eq_true, if_false]
    refine h.silent rfl rfl (List.append_nil _) (List.append_nil _) ?_ rfl rfl rfl came rfl rfl ?_
      rfl stored
    · show (Tally.ofTrace t).taken ≤ (Tally.ofTrace t).came
      omega
    · rintro f ⟨rfl⟩
      exact ⟨came.symm, List.length_pos_of_ne_nil waiting⟩
  | flushIgnored busy =>
    have same : (Tally.ofTrace t).busy = true := h.busy.trans busy
    simp only [Tally.observe, same, if_true]
    exact h.unchanged rfl rfl rfl
  | unasked free =>
    have idle : (Tally.ofTrace t).busy = false := by simp [h.busy, free]
    simp only [Tally.observe, idle, Bool.false_eq_true, if_false]
    exact h.unchanged rfl rfl rfl
  | aborted => simp at unbroken
  | @inTime f began now clock busy stage early =>
    obtain ⟨same, asked, stored⟩ := h.atSync busy stage
    simp only [Tally.observe, same, if_true]
    refine h.silent rfl rfl (List.append_nil _) (List.append_nil _) (Nat.le_refl _) rfl rfl rfl came
      taken rfl ?_ rfl ?_
    · rintro g ⟨rfl⟩
      exact h.flush f busy
    · simp [Tally.proceed, Tally.settle, uncounted, asked, stored]
  | timeless => simp at unbroken
  | @tooLate f began now clock busy stage late =>
    obtain ⟨same, asked, stored⟩ := h.atSync busy stage
    simp only [Tally.observe, same, if_true]
    exact h.finishedSaved (z := (Tally.ofTrace t).settle .done) balanced busy rfl rfl rfl rfl rfl
      (by simp [Tally.settle, asked, stored]) false
  | @refused f began e now clock busy stage =>
    obtain ⟨same, asked, stored⟩ := h.atSync busy stage
    simp only [Tally.observe, same, if_true]
    refine h.silent rfl rfl (List.append_nil _) (List.append_nil _) (Nat.le_refl _) rfl rfl rfl came
      taken rfl ?_ rfl stored
    rintro g ⟨rfl⟩
    exact h.flush f busy
  | @bumped f a now clock busy stage alive =>
    obtain ⟨same, asked, stored⟩ := h.atBump busy stage
    simp only [Tally.observe, same, if_true, Tally.settle_of_none asked]
    exact h.finishedSaved balanced busy rfl rfl rfl rfl asked stored true
  | @revoked f a now clock busy stage alive =>
    obtain ⟨same, asked, stored⟩ := h.atRevoke busy stage
    obtain ⟨received, -⟩ := h.flush f busy
    simp only [Tally.observe, same, if_true, Tally.settle_of_none asked]
    refine h.finished (o := .failed f.batch.length) rfl rfl (by simpa using came)
      (by simpa using taken) (Nat.le_refl _) asked (by simpa using stored) ?_ (by simp) (by simp)
      (by simp) (by simp) ?_ ?_ (by simp [SyncOutcome.savedCount?])
      (by simp [SyncOutcome.savedCount?]) (by simp [SyncOutcome.savedCount?])
    · rw [aggregation_finish]
      omega
    · rw [receivedReportsOf_finish, received]
    · rw [previousReceived_finish, received]

/-- The tally of a run agrees with the listener after it. -/
theorem truthful_after (c : ListenerConfig) (is : List Input)
    (oneSeries : ∀ i ∈ is, i.isCarry = false)
    (unbroken : Effect.broken ∉ ((fresh c).trace is).effects) :
    Truthful ((fresh c).after is) ((fresh c).trace is).effects (.ofTrace ((fresh c).trace is)) := by
  rw [← inputs_trace (fresh c) is] at oneSeries
  revert oneSeries unbroken
  have both := run_induction
    (P := fun l t => (∀ i ∈ t.inputs, i.isCarry = false) → Effect.broken ∉ t.effects →
      Balanced l t ∧ Truthful l t.effects (.ofTrace t)) (l := fresh c) ?_ ?_ is
  · exact fun oneSeries unbroken => (both oneSeries unbroken).2
  · exact fun _ _ => ⟨balanced_fresh c, truthful_fresh c⟩
  · intro l t i k es ih m oneSeries unbroken
    simp only [Trace.inputs_concat, List.mem_append, List.mem_singleton] at oneSeries
    simp only [Trace.effects_concat, List.mem_append, not_or] at unbroken
    obtain ⟨balanced, truthful⟩ := ih (fun j hj => oneSeries j (.inl hj)) unbroken.1
    refine ⟨balanced.next unbroken.2 m, ?_⟩
    simpa using truthful.next balanced (oneSeries i (.inr rfl)) unbroken.2 m

/-- At every point of a run: both totals that were reported so far grow; every flush that has
ended has left the received total at what had come in before it took the buffer; every flush that
ended saved has reported once what the store had accepted by then, and no other has; and the saved
total is not ahead of the received one. -/
theorem reports_are_true (c : ListenerConfig) (is : List Input)
    (oneSeries : ∀ i ∈ is, i.isCarry = false)
    (unbroken : Effect.broken ∉ ((fresh c).trace is).effects) :
    let es := ((fresh c).trace is).effects
    let y := Tally.ofTrace ((fresh c).trace is)
    (receivedReportsOf es).Pairwise (· < ·) ∧
      (outcomesOf es ≠ [] → receivedReportsOf es ≠ []) ∧
      (receivedReportsOf es).getLast? = y.drains.getLast? ∧
      y.drains.length = (outcomesOf es).length ∧
      (savedReportsOf es).Pairwise (· < ·) ∧
      savedReportsOf es = y.totals ∧
      (savedReportsOf es).length = (savedCountsOf es).length ∧
      (savedReportsOf es).getLast?.getD 0 ≤ (receivedReportsOf es).getLast?.getD 0 := by
  intro es y
  have h : Truthful ((fresh c).after is) es y := truthful_after c is oneSeries unbroken
  have reported : outcomesOf es ≠ [] → receivedReportsOf es ≠ [] := by
    intro some_ none_
    have drains : y.drains = [] := by simpa [none_] using h.received.current.symm
    have ended := h.ended
    rw [drains, List.length_nil] at ended
    exact some_ (List.length_eq_zero_iff.1 ended.symm)
  have behind : (savedReportsOf es).getLast?.getD 0 ≤ (receivedReportsOf es).getLast?.getD 0 := by
    rw [h.saved.current]
    exact h.behind
  have counted : (savedReportsOf es).length = (savedCountsOf es).length := by
    rw [h.saved.true_]
    exact h.counted
  exact ⟨h.received.growing, reported, h.received.current, h.ended, h.saved.growing,
    h.saved.true_, counted, behind⟩

/-- An idle flush, one that saves while a heartbeat comes in, one that fails, and an idle one: the
failed batch is received and not saved, and the last flush has nothing new to report. -/
theorem reports_are_true_failed_write :
    let payload : List UInt8 := [123, 34, 100, 101, 97, 34, 58, 34, 97, 34, 125]
    let now := Moment.epoch
    let is : List Input := [.flush 0, .heartbeat payload now, .flush 1, .heartbeat payload now,
      .answer .done (some now) 2, .answer .done none 3, .flush 4, .answer (.failed .io) none 5,
      .answer .done none 6, .flush 7]
    let es := ((fresh {}).trace is).effects
    (∀ i ∈ is, i.isCarry = false) ∧ Effect.broken ∉ es ∧ receivedReportsOf es = [0, 1, 2] ∧
      savedReportsOf es = [1] ∧
      (Tally.ofTrace ((fresh {}).trace is)).drains.getLast? = some 2 := by
  intro payload now is es
  have oneSeries : ∀ i ∈ is, i.isCarry = false := by simp [is, Input.isCarry]
  have effects : es = [.report (.received 0), .finished .idle, .call (.sync [⟨"a", []⟩]),
      .call (.bump now), .report (.saved 1), .report (.received 1), .finished (.saved 1 true),
      .call (.sync [⟨"a", []⟩]), .call .revoke, .report (.received 2), .finished (.failed 1),
      .finished .idle] := by decide +kernel
  have unbroken : Effect.broken ∉ es := by simp [effects]
  obtain ⟨-, -, current, -⟩ := reports_are_true {} is oneSeries unbroken
  have reports : receivedReportsOf es = [0, 1, 2] := by
    rw [effects]
    rfl
  have saves : savedReportsOf es = [1] := by
    rw [effects]
    rfl
  refine ⟨oneSeries, unbroken, reports, saves, ?_⟩
  rw [← current]
  exact congrArg List.getLast? reports

end Listener

end ActualState
