import ActualState.Proofs.Runtime.Run
import ActualState.Proofs.Listener.Decisions
import ActualState.Proofs.Listener.Reports
import Mathlib.Data.List.Perm.Basic

/-!
# Stopping a listener

A listener may be asked to stop at any moment, also while a flush waits for its store. The flush
loop ends only between two flushes, so whenever it has ended the account of every flush is closed
(`Settled`), unless a date left the calendar and broke a flush off, and the loop with it. Once all
loops and pumps have ended, which is what a request to stop waits for, only messages that were
taken before can still be handled, and nothing else happens (`Aftermath`).
-/
namespace ActualState

open Time (Moment Duration Ticker)

namespace Listener

/-! ### What a listener does about messages -/

theorem step_message {l : Listener} {i : Input} (message : i.isMessage = true) :
    (l.step i).1.flush = l.flush ∧ l.aggregation.pending <+: (l.step i).1.aggregation.pending ∧
      reportsOf (l.step i).2 = [] ∧ ∀ c ∈ callsOf (l.step i).2, ∃ at_, c = .bump at_ := by
  have m := l.step_move i
  generalize (l.step i).1 = k, (l.step i).2 = es at m
  cases m with
  | accepted => exact ⟨rfl, List.prefix_append _ _, rfl, by simp⟩
  | dropped => exact ⟨rfl, List.prefix_rfl, rfl, by simp⟩
  | @renewed now stamp => exact ⟨rfl, List.prefix_rfl, rfl, by simp⟩
  | quiet => exact ⟨rfl, List.prefix_rfl, rfl, by simp⟩
  | carried | carryIgnored | idle | began | flushIgnored | unasked | aborted | inTime | timeless
  | tooLate | refused | bumped | revoked => simp [Input.isMessage] at message

theorem after_messages {l : Listener} {is : List Input}
    (messages : ∀ i ∈ is, i.isMessage = true) :
    (l.after is).flush = l.flush ∧
      l.aggregation.pending <+: (l.after is).aggregation.pending ∧
      reportsOf (l.trace is).effects = [] ∧
      ∀ c ∈ callsOf (l.trace is).effects, ∃ at_, c = .bump at_ := by
  induction is generalizing l with
  | nil => exact ⟨rfl, List.prefix_rfl, rfl, by simp⟩
  | cons i is ih =>
    obtain ⟨flush, pending, reports, calls⟩ := step_message (l := l) (messages i List.mem_cons_self)
    obtain ⟨flush', pending', reports', calls'⟩ :=
      ih (l := (l.step i).1) fun j hj => messages j (List.mem_cons_of_mem _ hj)
    refine ⟨flush'.trans flush, pending.trans pending', by simp [reports, reports'], ?_⟩
    intro c made
    rw [effects_trace_cons, callsOf_append, List.mem_append] at made
    exact made.elim (calls c) (calls' c)

/-- A listener reports nothing but its totals. -/
theorem isTotal_reports_finish (l : Listener) (n : Nat) (o : SyncOutcome) :
    ∀ m ∈ reportsOf (l.finish n o).2, m.isTotal = true := by
  rw [finish_eq]
  split
  · simp [reportsOf, Effect.report?]
  · simp [reportsOf, Effect.report?, Metric.isTotal]

theorem isTotal_reports_finishSaved (l : Listener) (f : Flush) (b : Bool) :
    ∀ m ∈ reportsOf (l.finishSaved f b).2, m.isTotal = true := by
  intro m reported
  rcases List.mem_cons.1 reported with rfl | reported
  · rfl
  · exact isTotal_reports_finish _ _ _ m reported

theorem isTotal_reports (l : Listener) (is : List Input) :
    ∀ m ∈ reportsOf (l.trace is).effects, m.isTotal = true := by
  refine run_induction (P := fun _ t => ∀ m ∈ reportsOf t.effects, m.isTotal = true)
    (by simp [Trace.effects]) ?_ is
  intro l t i k es ih move m reported
  rw [Trace.effects_concat, reportsOf_append, List.mem_append] at reported
  rcases reported with reported | reported
  · exact ih m reported
  · cases move with
    | idle => exact isTotal_reports_finish _ _ _ m reported
    | tooLate => exact isTotal_reports_finishSaved _ _ _ m reported
    | bumped => exact isTotal_reports_finishSaved _ _ _ m reported
    | revoked => exact isTotal_reports_finish _ _ _ m reported
    | accepted | dropped | renewed | quiet | carried | carryIgnored | began | flushIgnored | unasked
    | aborted | inTime | timeless | refused => simp [reportsOf, Effect.report?] at reported

/-! ### Pages of flushes that are over -/

/-- The pages of a diary of flushes: all have an outcome and, if they have a batch, the answer to
it, but for the newest while its flush is under way. -/
structure Closed (l : Listener) (d : Diary) (es : List Effect) : Prop where
  older : ∀ p ∈ d.flushes.tail, p.batch ≠ [] → p.answer.isSome = true
  newest : l.flush = none → ∀ p ∈ d.flushes.head?, p.batch ≠ [] → p.answer.isSome = true
  ends : d.flushes.length = (outcomesOf es).length + l.flush.toList.length

variable {c : ListenerConfig} {l k : Listener} {d d' : Diary} {es fs : List Effect}

theorem Closed.all (h : Closed l d es) (free : l.flush = none) :
    ∀ p ∈ d.flushes, p.batch ≠ [] → p.answer.isSome = true := by
  have older := h.older
  have newest := h.newest free
  cases pages : d.flushes with
  | nil => simp
  | cons q qs =>
    rw [pages] at older newest
    intro p hp
    rcases List.mem_cons.1 hp with rfl | hp
    · exact newest p rfl
    · exact older p hp

theorem Closed.same (h : Closed l d es) (pages : d'.flushes = d.flushes)
    (flush : k.flush = l.flush) (ends : outcomesOf fs = []) : Closed k d' (es ++ fs) := by
  refine ⟨pages ▸ h.older, fun free => pages ▸ h.newest (flush ▸ free), ?_⟩
  rw [pages, flush, h.ends, outcomesOf_append, ends, List.append_nil]

/-- A flush opens a new page, which has a batch only if the flush goes on. -/
theorem Closed.opened (h : Closed l d es) (free : l.flush = none) {p : FlushPage}
    (pages : d'.flushes = p :: d.flushes) (nothing : k.flush = none → p.batch = [])
    (ends : (outcomesOf fs).length + k.flush.toList.length = 1) : Closed k d' (es ++ fs) := by
  refine ⟨?_, fun isOver => ?_, ?_⟩
  · rw [pages]
    exact h.all free
  · rw [pages]
    rintro q ⟨rfl⟩ some_
    exact absurd (nothing isOver) some_
  · have before := h.ends
    rw [free] at before
    rw [pages, List.length_cons, before, outcomesOf_append, List.length_append]
    simp only [Option.toList_none, List.length_nil]
    omega

/-- The newest page takes an answer. -/
theorem Closed.answered (h : Closed l d es) {f : Flush} (busy : l.flush = some f) {p q : FlushPage}
    {rest : List FlushPage} (before : d.flushes = p :: rest) (pages : d'.flushes = q :: rest)
    (answered : q.answer.isSome = true)
    (ends : (outcomesOf fs).length + k.flush.toList.length = 1) : Closed k d' (es ++ fs) := by
  have older := h.older
  have length := h.ends
  rw [before] at older length
  rw [busy] at length
  refine ⟨?_, fun isOver => ?_, ?_⟩
  · rw [pages]
    exact older
  · rw [pages]
    rintro r ⟨rfl⟩ _
    exact answered
  · rw [pages, outcomesOf_append, List.length_append]
    simp only [List.length_cons, Option.toList_some, List.length_nil] at length ⊢
    omega

theorem Closed.next {i : Input} {log : List StoreCall} (h : Closed l d es)
    (tracks : Tracks c l d log) (unbroken : Effect.broken ∉ fs) (m : Move l i k fs) :
    Closed k (d.observe (i, fs)) (es ++ fs) := by
  have page (f : Flush) (busy : l.flush = some f) (a : Answer) (now : Option Moment)
      (clock : Duration) : ∃ p q rest, d.flushes = p :: rest ∧
        (d.observe (.answer a now clock, fs)).flushes = q :: rest ∧ q.answer.isSome = true := by
    obtain ⟨p, rest, pages, -⟩ := tracks.newest f busy
    have waiting : d.busy = true := by simp [tracks.busy, busy]
    exact ⟨p, Diary.answered p ⟨a, now, clock⟩ fs, rest, pages,
      by simp [Diary.observe, waiting, pages], rfl⟩
  cases m with
  | accepted decoded => exact h.same (by simp [Diary.observe, decoded]) rfl rfl
  | dropped refused => exact h.same (by simp [Diary.observe, refused]) rfl rfl
  | renewed => exact h.same rfl rfl rfl
  | quiet => exact h.same rfl rfl rfl
  | carried => exact h.same rfl rfl rfl
  | carryIgnored => exact h.same rfl rfl rfl
  | idle free nothing =>
    have idle : d.busy = false := by simp [tracks.busy, free]
    refine h.opened free (by simp only [Diary.observe, idle]; rfl) (fun _ => ?_) (by simp)
    exact tracks.arrived.trans nothing
  | began free waiting =>
    have idle : d.busy = false := by simp [tracks.busy, free]
    exact h.opened free (by simp only [Diary.observe, idle]; rfl) (by simp) rfl
  | flushIgnored busy => exact h.same (by simp [Diary.observe, tracks.busy, busy]) rfl rfl
  | unasked free => exact h.same (by simp [Diary.observe, tracks.busy, free]) rfl rfl
  | aborted | timeless => simp at unbroken
  | @inTime f began now clock busy =>
    obtain ⟨p, q, rest, before, pages, answered⟩ := page f busy .done (some now) clock
    exact h.answered busy before pages answered rfl
  | @tooLate f began now clock busy =>
    obtain ⟨p, q, rest, before, pages, answered⟩ := page f busy .done now clock
    exact h.answered busy before pages answered (by simp)
  | @refused f began e now clock busy =>
    obtain ⟨p, q, rest, before, pages, answered⟩ := page f busy (.failed e) now clock
    exact h.answered busy before pages answered rfl
  | @bumped f a now clock busy =>
    obtain ⟨p, q, rest, before, pages, answered⟩ := page f busy a now clock
    exact h.answered busy before pages answered (by simp)
  | @revoked f a now clock busy =>
    obtain ⟨p, q, rest, before, pages, answered⟩ := page f busy a now clock
    exact h.answered busy before pages answered (by simp)

theorem closed_after (c : ListenerConfig) (is : List Input)
    (unbroken : Effect.broken ∉ ((fresh c).trace is).effects) :
    Closed ((fresh c).after is) (.ofTrace ((fresh c).trace is)) ((fresh c).trace is).effects := by
  have both := run_induction (P := fun l t => Tracks c l (.ofTrace t) (callsOf t.effects) ∧
    (Effect.broken ∉ t.effects → Closed l (.ofTrace t) t.effects)) (l := fresh c) ?_ ?_ is
  · exact both.2 unbroken
  · exact ⟨tracks_fresh c, fun _ => ⟨by simp [Diary.ofTrace], by simp [Diary.ofTrace], rfl⟩⟩
  · rintro l t i k es ⟨tracks, closed⟩ m
    refine ⟨by simpa using tracks.next m, fun unbroken => ?_⟩
    rw [Trace.effects_concat, List.mem_append, not_or] at unbroken
    simpa using (closed unbroken.1).next tracks unbroken.2 m

end Listener

/-- Whether a pump that has ended has nothing left to take. -/
def Pump.IsSound (p : Pump) : Prop := p.isOpen = false → p.queue = []

theorem Pump.isSound_closed : Pump.closed.IsSound := fun _ => rfl

theorem Pump.IsSound.push {p : Pump} (h : p.IsSound) (payload : List UInt8) :
    (p.push payload).IsSound := by
  unfold Pump.push
  split
  · next open_ => exact fun ended => absurd (open_.symm.trans ended) (by simp)
  · exact h

theorem Pump.IsSound.tail {p : Pump} (h : p.IsSound) {m : List UInt8} {rest : List (List UInt8)}
    (queue : p.queue = m :: rest) : Pump.IsSound { p with queue := rest } := by
  intro ended
  have empty := h ended
  rw [queue] at empty
  cases empty

/-- Whether an event can still do something to a listener that has stopped. -/
def Event.reaches : Event → Bool
  | .handle _ | .stop | .closeBus => true
  | _ => false

namespace Runtime

/-- What a listener was told before it was started and in a run of it. -/
def toldSince (early : List Listener.Input) (s : Service) (os : List Occurrence) :
    List Listener.Input :=
  early ++ (start s).toldIn os

/-- The account of every flush is closed: none is under way; each one has an outcome, and one that
took a batch has its store's answer and has made the calls that were due after it; what was saved
is counted, and both totals are reported as they were when the last flush ended. -/
structure Settled (r : Runtime) (c : ListenerConfig) (t : Listener.Trace) : Prop where
  free : r.service.listener.flush = none
  idle : r.service.inFlight = none
  outcomes : (outcomesOf t.effects).length = (Diary.ofTrace t).flushes.length
  batches : (batchesOf t.effects).map List.length = countsOf t.effects
  answers : ∀ p ∈ (Diary.ofTrace t).flushes, p.batch ≠ [] → p.answer.isSome = true
  decisions : ∀ p ∈ (Diary.ofTrace t).flushes, p.calls = p.due c.syncInterval
  saved : r.service.listener.aggregation.totalSaved = (savedCountsOf t.effects).sum
  savedReported : (savedReportsOf t.effects).getLast?.getD 0 =
    r.service.listener.aggregation.totalSaved
  drains : (Tally.ofTrace t).drains.length = (outcomesOf t.effects).length
  receivedReported : (receivedReportsOf t.effects).getLast? = (Tally.ofTrace t).drains.getLast?
  passedOn : r.service.totals = reportsOf t.effects

/-! ### The end of the flush loop -/

theorem not_isCarry_of_isMessage {i : Listener.Input} (message : i.isMessage = true) :
    i.isCarry = false := by
  cases i <;> first | rfl | cases message

theorem not_isCarry_of_isAnswerAt {i : Listener.Input} {clock : Duration}
    (answer : i.IsAnswerAt clock) : i.isCarry = false := by
  obtain ⟨a, now, rfl⟩ := answer
  rfl

theorem not_isCarry_toldAtFlush (s : Service) (now : Option Moment) (clock : Duration) :
    ∀ i ∈ s.toldAtFlush now clock, i.isCarry = false := by
  intro i told
  rcases List.mem_cons.1 told with rfl | told
  · rfl
  · exact not_isCarry_of_isAnswerAt (Service.isAnswerAt_answersAtOnce _ _ _ _ _ i told)

theorem not_isCarry_told (r : Runtime) (o : Occurrence) :
    ∀ i ∈ r.told o, i.isCarry = false := by
  have m := r.occur_spec o
  generalize r.told o = is, r.occur o = q at m
  intro i told
  cases m with
  | beside aside => exact not_isCarry_of_isMessage (aside.messages i told)
  | refused => cases told
  | began => exact not_isCarry_toldAtFlush _ _ _ i told
  | answered => exact not_isCarry_of_isAnswerAt (r.service.isAnswerAt_toldAtCompletion _ _ i told)
  | ended => cases told

theorem not_isCarry_toldIn (r : Runtime) (os : List Occurrence) :
    ∀ i ∈ r.toldIn os, i.isCarry = false := by
  induction os generalizing r with
  | nil => simp [toldIn]
  | cons o os ih =>
    intro i told
    exact (List.mem_append.1 told).elim (r.not_isCarry_told o i) (ih _ i)

variable {c : ListenerConfig} {early : List Listener.Input}

theorem not_isCarry_toldSince (messages : ∀ i ∈ early, i.isMessage = true) (s : Service)
    (os : List Occurrence) : ∀ i ∈ toldSince early s os, i.isCarry = false := by
  intro i told
  rcases List.mem_append.1 told with told | told
  · exact not_isCarry_of_isMessage (messages i told)
  · exact not_isCarry_toldIn _ os i told

/-- In every run a listener is where everything it was told leads, and its totals were passed on. -/
theorem after_start (messages : ∀ i ∈ early, i.isMessage = true) {s : Service}
    (listener : s.listener = (Listener.fresh c).after early) (idle : s.inFlight = none)
    (silent : s.totals = []) (os : List Occurrence) :
    Coherent ((start s).after os) ∧
      ((start s).after os).service.listener = (Listener.fresh c).after (toldSince early s os) ∧
      ((start s).after os).service.totals =
        reportsOf ((Listener.fresh c).trace (toldSince early s os)).effects := by
  obtain ⟨flush, -, quiet, -⟩ := Listener.after_messages (l := .fresh c) messages
  have free : s.listener.flush = none := by rw [listener, flush]; rfl
  obtain ⟨still, heard⟩ := after_spec (coherent_start free idle) os
  have from_ : (start s).service = s := rfl
  rw [from_] at heard
  have totals := heard.totals
  rw [silent, List.nil_append, List.nil_append,
    List.filter_eq_self.2 (Listener.isTotal_reports _ _)] at totals
  refine ⟨still, ?_, ?_⟩
  · rw [heard.listener, listener, toldSince, ← Listener.after_append]
  · rw [totals, toldSince, Listener.trace_append (.fresh c), Listener.Trace.effects_append,
      reportsOf_append, quiet, List.nil_append, listener]

/-- The flush loop ends only between two flushes. -/
theorem settled_of_ended {r : Runtime} (coherent : Coherent r) {is : List Listener.Input}
    (oneSeries : ∀ i ∈ is, i.isCarry = false)
    (listener : r.service.listener = (Listener.fresh c).after is)
    (totals : r.service.totals = reportsOf ((Listener.fresh c).trace is).effects)
    (unbroken : Effect.broken ∉ ((Listener.fresh c).trace is).effects)
    (ended : r.flushLoop = .ended) : Settled r c ((Listener.fresh c).trace is) := by
  have free : r.service.listener.flush = none := by
    simpa [ended, FlushLoop.isFlushing] using coherent.flush
  have idle : r.service.inFlight = none := by
    simpa [ended, FlushLoop.isFlushing] using coherent.inFlight
  have balanced := Listener.balanced_after c is unbroken
  have truthful := Listener.truthful_after c is oneSeries unbroken
  have tracks := Listener.tracks_after c is
  have closed := Listener.closed_after c is unbroken
  rw [← listener] at balanced truthful tracks closed
  exact {
    free := free
    idle := idle
    outcomes := by simpa [free] using closed.ends.symm
    batches := by simpa [Listener.underWay, free] using balanced.sizes
    answers := closed.all free
    decisions := tracks.flushes
    saved := balanced.saved
    savedReported := truthful.saved.current
    drains := truthful.ended
    receivedReported := truthful.received.current
    passedOn := totals }

/-! ### What is left of a stopped listener -/

/-- The message that is handled in an occurrence, if there is one. -/
def handledBy (r : Runtime) (o : Occurrence) : List (MessageKind × List UInt8) :=
  match o.what with
  | .event (.handle i) => (r.taken[i]?).toList
  | _ => []

/-- The messages that are handled in a run, in order. -/
def handledIn (r : Runtime) : List Occurrence → List (MessageKind × List UInt8)
  | [] => []
  | o :: os => r.handledBy o ++ handledIn (r.occur o) os

/-- What happens after a listener has stopped: it stays stopped; the only calls are bumps, and they
are the only ones a store notes that notes its calls; nothing is reported, no gauge moves and
nothing is asked of the tracker; only messages are handled that had been taken before; and no
heartbeat leaves the buffer. -/
structure Aftermath (r : Runtime) (more : List Occurrence) : Prop where
  stopped : (r.after more).isStopped = true
  calls : ∀ x ∈ callsOf (r.service.listener.trace (r.toldIn more)).effects, ∃ at_, x = .bump at_
  noted : r.service.backend.notesCalls = true → (r.after more).service.backend.calls =
    r.service.backend.calls ++ callsOf (r.service.listener.trace (r.toldIn more)).effects
  reports : (r.after more).service.reports = r.service.reports
  gauges : (r.after more).service.gauges = r.service.gauges
  tracker : (r.after more).service.tracker = r.service.tracker
  trackerCalls : (r.after more).service.trackerCalls = r.service.trackerCalls
  handled : (r.handledIn more ++ (r.after more).taken).Perm r.taken
  pending : r.service.listener.aggregation.pending <+:
    (r.after more).service.listener.aggregation.pending

theorem isSound_pumps_step {r : Runtime} (sound : ∀ k, (r.pump k).IsSound) (e : Event)
    (now : Option Moment) (clock : Duration) : ∀ k, ((r.step e now clock).pump k).IsSound := by
  cases e with
  | arrive topic payload =>
    rw [step_arrive]
    split
    · exact sound
    · intro k
      cases k with
      | advertise =>
        show Pump.IsSound (if _ then _ else _)
        split
        · exact (sound .advertise).push payload
        · exact sound .advertise
      | heartbeat =>
        show Pump.IsSound (if _ then _ else _)
        split
        · exact (sound .heartbeat).push payload
        · exact sound .heartbeat
  | take k =>
    simp only [step]
    split
    · exact sound
    · next m rest queue =>
      intro j
      show ((r.setPump k _).pump j).IsSound
      rw [pump_setPump]
      split
      · exact (sound k).tail queue
      · exact sound j
  | handle i =>
    simp only [step]
    split <;> exact sound
  | flushStart =>
    simp only [step]
    split
    · rwa [pump_startFlushLoop]
    · exact sound
  | flushTick =>
    simp only [step]
    repeat' split
    · rwa [pump_beginFlush]
    · exact sound
    · exact sound
  | flushAnswered =>
    simp only [step]
    split <;> exact sound
  | usageStart =>
    simp only [step]
    split
    · rwa [pump_startUsageLoop]
    · exact sound
  | usageTick =>
    simp only [step]
    repeat' split
    all_goals exact sound
  | stop => exact sound
  | closeBus => exact sound
  | endFlushLoop =>
    simp only [step]
    split <;> exact sound
  | endUsageLoop =>
    simp only [step]
    split <;> exact sound
  | endPump k =>
    simp only [step]
    split
    · intro j
      rw [pump_setPump]
      split
      · exact Pump.isSound_closed
      · exact sound j
    · exact sound

theorem isSound_pumps_after {r : Runtime} (sound : ∀ k, (r.pump k).IsSound)
    (os : List Occurrence) : ∀ k, ((r.after os).pump k).IsSound := by
  induction os generalizing r with
  | nil => exact sound
  | cons o os ih =>
    refine ih (r := r.occur o) ?_
    obtain ⟨what, now, clock⟩ := o
    cases what with
    | event e => exact isSound_pumps_step sound e now clock
    | disturbance x => exact sound

/-- All loops and pumps have ended. -/
structure Stopped (r : Runtime) : Prop where
  flushLoop : r.flushLoop = .ended
  usageLoop : r.usageLoop = .ended
  pumps : ∀ k, r.pump k = .closed

theorem isStopped_iff {r : Runtime} (sound : ∀ k, (r.pump k).IsSound) :
    r.isStopped = true ↔ Stopped r := by
  have closed (k) (ended : (r.pump k).isOpen = false) : r.pump k = .closed := by
    have queue := sound k ended
    generalize r.pump k = p at ended queue
    obtain ⟨isOpen, queue⟩ := p
    subst ended queue
    rfl
  constructor
  · intro h
    simp only [isStopped, Bool.and_eq_true, decide_eq_true_eq, Bool.not_eq_true'] at h
    obtain ⟨⟨⟨flushLoop, usageLoop⟩, advertisements⟩, heartbeats⟩ := h
    refine ⟨flushLoop, usageLoop, fun k => ?_⟩
    cases k with
    | advertise => exact closed .advertise advertisements
    | heartbeat => exact closed .heartbeat heartbeats
  · rintro ⟨flushLoop, usageLoop, pumps⟩
    have advertisements : r.advertisements = .closed := pumps .advertise
    have heartbeats : r.heartbeats = .closed := pumps .heartbeat
    simp [isStopped, flushLoop, usageLoop, advertisements, heartbeats, Pump.closed]

/-- What the books of a service say of reports and usage. -/
structure SameBooks (s k : Service) : Prop where
  reports : k.reports = s.reports
  gauges : k.gauges = s.gauges
  tracker : k.tracker = s.tracker
  trackerCalls : k.trackerCalls = s.trackerCalls

theorem SameBooks.refl (s : Service) : SameBooks s s := ⟨rfl, rfl, rfl, rfl⟩

theorem SameBooks.trans {s k m : Service} (first : SameBooks s k) (second : SameBooks k m) :
    SameBooks s m where
  reports := second.reports.trans first.reports
  gauges := second.gauges.trans first.gauges
  tracker := second.tracker.trans first.tracker
  trackerCalls := second.trackerCalls.trans first.trackerCalls

/-- Loops and pumps that have ended take no step. -/
theorem Stopped.step_eq {r : Runtime} (h : Stopped r) {e : Event} (unreached : e.reaches = false)
    (now : Option Moment) (clock : Duration) : r.step e now clock = r := by
  cases e with
  | arrive topic payload =>
    have closed (k : MessageKind) : (r.pump k).push payload = r.pump k := by
      rw [h.pumps k]
      rfl
    have advertisements : r.advertisements.push payload = r.advertisements := closed .advertise
    have heartbeats : r.heartbeats.push payload = r.heartbeats := closed .heartbeat
    rw [step_arrive, advertisements, heartbeats, ite_self, ite_self]
    exact ite_self _
  | take k =>
    simp only [step, h.pumps k]
    rfl
  | flushStart | flushTick | flushAnswered | endFlushLoop => simp only [step, h.flushLoop]
  | usageStart | usageTick | endUsageLoop => simp only [step, h.usageLoop]
  | endPump k =>
    have closed : r.setPump k .closed = r := by
      have pump := h.pumps k
      cases k <;> exact congrArg (r.setPump _) pump.symm
    simp only [step, closed, ite_self]
  | handle | stop | closeBus => cases unreached

/-- Once it has stopped, a listener is told of nothing but the messages that are handled. -/
theorem Stopped.told_eq_nil {r : Runtime} (h : Stopped r) {e : Event}
    (other : ∀ i, e ≠ .handle i) (now : Option Moment) (clock : Duration) :
    r.told ⟨.event e, now, clock⟩ = [] := by
  cases e with
  | handle i => exact absurd rfl (other i)
  | flushStart | flushTick | flushAnswered => simp only [told, toldByEvent, h.flushLoop]
  | _ => rfl

/-- What an occurrence can do to a stopped listener. -/
structure Still (r : Runtime) (o : Occurrence) (q : Runtime) : Prop where
  stopped : Stopped q
  books : SameBooks r.service q.service
  messages : ∀ i ∈ r.told o, i.isMessage = true
  handled : (r.handledBy o ++ q.taken).Perm r.taken

/-- A message that was taken before the listener stopped is handled. -/
theorem Stopped.still_handle {r : Runtime} (h : Stopped r) (i : Nat) (now : Option Moment)
    (clock : Duration) :
    Still r ⟨.event (.handle i), now, clock⟩ (r.step (.handle i) now clock) := by
  cases found : r.taken[i]? with
  | none =>
    have unmoved : r.step (.handle i) now clock = r := by simp only [step, found]
    rw [unmoved]
    exact ⟨h, .refl _, by simp [told, toldByEvent, found], by simp [handledBy, found]⟩
  | some m =>
    obtain ⟨alone, -⟩ := r.service.leftAlone_handle m now clock
    have step_eq : r.step (.handle i) now clock =
        { r with service := handle r.service m now clock, taken := r.taken.eraseIdx i } := by
      simp only [step, found]
    have told_eq : r.told ⟨.event (.handle i), now, clock⟩ = toldByMessage m now := by
      simp only [told, toldByEvent, found]
    have handled_eq : r.handledBy ⟨.event (.handle i), now, clock⟩ = [m] := by
      simp only [handledBy, found, Option.toList_some]
    obtain ⟨inside, rfl⟩ := List.getElem?_eq_some_iff.1 found
    rw [step_eq]
    refine ⟨⟨h.flushLoop, h.usageLoop, h.pumps⟩,
      ⟨alone.reports, alone.gauges, alone.tracker, alone.trackerCalls⟩, ?_, ?_⟩
    · rw [told_eq]
      exact fun j hj => isMessage_of_mem_toldByMessage hj
    · rw [handled_eq]
      exact List.getElem_cons_eraseIdx_perm inside

theorem Stopped.still {r : Runtime} (h : Stopped r) (o : Occurrence) : Still r o (r.occur o) := by
  obtain ⟨what, now, clock⟩ := o
  cases what with
  | disturbance x =>
    exact ⟨⟨h.flushLoop, h.usageLoop, h.pumps⟩, ⟨rfl, rfl, rfl, rfl⟩, by simp [told], .rfl⟩
  | event e =>
    show Still r _ (r.step e now clock)
    have silent (other : ∀ i, e ≠ .handle i) :
        ∀ i ∈ r.told ⟨.event e, now, clock⟩, i.isMessage = true := by
      simp [h.told_eq_nil other]
    cases e with
    | handle i => exact h.still_handle i now clock
    | stop | closeBus =>
      exact ⟨⟨h.flushLoop, h.usageLoop, h.pumps⟩, .refl _, silent (by simp), .rfl⟩
    | _ =>
      rw [h.step_eq rfl]
      exact ⟨h, .refl _, silent (by simp), .rfl⟩

theorem Stopped.after {r : Runtime} (h : Stopped r) (more : List Occurrence) :
    Stopped (r.after more) ∧ SameBooks r.service (r.after more).service ∧
      (∀ i ∈ r.toldIn more, i.isMessage = true) ∧
      (r.handledIn more ++ (r.after more).taken).Perm r.taken := by
  induction more generalizing r with
  | nil => exact ⟨h, .refl _, by simp [toldIn], .rfl⟩
  | cons o os ih =>
    have first := h.still o
    obtain ⟨stopped, books, messages, handled⟩ := ih first.stopped
    refine ⟨stopped, first.books.trans books, ?_, ?_⟩
    · intro i told
      exact (List.mem_append.1 told).elim (first.messages i) (messages i)
    · rw [handledIn, List.append_assoc]
      exact (handled.append_left _).trans first.handled

theorem aftermath_of_isStopped {r : Runtime} (coherent : Coherent r)
    (sound : ∀ k, (r.pump k).IsSound) (stopped : r.isStopped = true) (more : List Occurrence) :
    Aftermath r more := by
  obtain ⟨still, books, messages, handled⟩ := ((isStopped_iff sound).1 stopped).after more
  obtain ⟨-, heard⟩ := after_spec coherent more
  obtain ⟨-, pending, -, calls⟩ := Listener.after_messages (l := r.service.listener) messages
  exact {
    stopped := (isStopped_iff (isSound_pumps_after sound more)).2 still
    calls := calls
    noted := fun notes => (heard.calls notes).2
    reports := books.reports
    gauges := books.gauges
    tracker := books.tracker
    trackerCalls := books.trackerCalls
    handled := handled
    pending := by rw [heard.listener]; exact pending }

theorem flushLoop_of_isStopped {r : Runtime} (stopped : r.isStopped = true) :
    r.flushLoop = .ended := by
  simp only [isStopped, Bool.and_eq_true, decide_eq_true_eq] at stopped
  exact stopped.1.1.1

theorem isSound_pumps_start (s : Service) : ∀ k, ((start s).pump k).IsSound := by
  intro k
  cases k <;> exact fun _ => rfl

/-- Whatever has happened to a started listener, and whenever it was asked to stop: if its flush
loop has ended, and no flush was broken off by a date outside the calendar, the account of every
flush is closed; and if all loops and pumps have ended, only messages that were taken before are
still handled. -/
theorem stop_is_clean (c : ListenerConfig) (early : List Listener.Input) (b : Backend)
    (tracker : Option UsageTracker) (os more : List Occurrence)
    (messages : ∀ i ∈ early, i.isMessage = true) :
    let s : Service :=
      { listener := (Listener.fresh c).after early, backend := b, tracker := tracker }
    let r := (start s).after os
    let t := (Listener.fresh c).trace (toldSince early s os)
    (r.isStopped = true → r.flushLoop = .ended) ∧
      (Effect.broken ∉ t.effects → r.flushLoop = .ended → Settled r c t) ∧
      (r.isStopped = true → Aftermath r more) := by
  intro s r t
  obtain ⟨coherent, listener, totals⟩ := after_start (s := s) messages rfl rfl rfl os
  refine ⟨flushLoop_of_isStopped, fun unbroken ended => ?_, fun stopped => ?_⟩
  · exact settled_of_ended coherent (not_isCarry_toldSince messages s os) listener totals unbroken
      ended
  · exact aftermath_of_isStopped coherent (isSound_pumps_after (isSound_pumps_start s) os) stopped
      more

/-- The listener is asked to stop while a batch is being written and while a message that came in
meanwhile is taken and another one is not: the flush comes to its end, the message that was taken
is handled later, and the other one is dropped. -/
theorem stop_is_clean_during_write :
    let ms := Time.millisecond
    let payload : List UInt8 := [123, 34, 100, 101, 97, 34, 58, 34, 97, 34, 125]
    let s : Service :=
      { listener := (Listener.fresh {}).after [], backend := .scripted { writeDelay := 500 * ms } }
    let at_ (e : Event) (clock : Duration) : Occurrence := ⟨.event e, some .epoch, clock⟩
    let arrival := at_ (.arrive "symbion/dea/heartbeat@v1" payload)
    let os := [at_ .flushStart 0, arrival 0, at_ (.take .heartbeat) 0, at_ (.handle 0) 0,
      at_ .flushTick (1000 * ms), arrival (1100 * ms), at_ (.take .heartbeat) (1100 * ms),
      arrival (1200 * ms), at_ .stop (1200 * ms), at_ (.endPump .advertise) (1200 * ms),
      at_ (.endPump .heartbeat) (1200 * ms), at_ .endFlushLoop (1200 * ms),
      at_ .endUsageLoop (1200 * ms), at_ .flushAnswered (1500 * ms), at_ .endFlushLoop (1500 * ms)]
    let more := [arrival (1600 * ms), at_ (.take .heartbeat) (1600 * ms),
      at_ (.handle 0) (1600 * ms), at_ .flushTick (2000 * ms)]
    let r := (start s).after os
    let es := ((Listener.fresh {}).trace (toldSince [] s os)).effects
    (∀ i ∈ ([] : List Listener.Input), i.isMessage = true) ∧ Effect.broken ∉ es ∧
      r.isStopped = true ∧ r.service.listener.aggregation.totalSaved = 1 ∧ countsOf es = [1] ∧
      (batchesOf es).map List.length = [1] ∧ (r.after more).service.reports = r.service.reports ∧
      (r.after more).taken = [] ∧
      (r.after more).service.listener.aggregation.pending = [⟨"a", []⟩] := by
  intro ms payload s at_ arrival os more r es
  have messages : ∀ i ∈ ([] : List Listener.Input), i.isMessage = true := by simp
  have effects : es = [.report (.received 0), .finished .idle, .call (.sync [⟨"a", []⟩]),
      .call (.bump .epoch), .report (.saved 1), .report (.received 1),
      .finished (.saved 1 true)] := by
    decide +kernel
  have unbroken : Effect.broken ∉ es := by simp [effects]
  have stopped : r.isStopped = true := by decide +kernel
  obtain ⟨ended, settles, calms⟩ :=
    stop_is_clean {} [] (.scripted { writeDelay := 500 * ms }) none os more messages
  have settled := settles unbroken (ended stopped)
  have counts : countsOf es = [1] := by
    rw [effects]
    rfl
  have batches : (batchesOf es).map List.length = [1] := by
    rw [← counts]
    exact settled.batches
  have calm : Aftermath r more := calms stopped
  refine ⟨messages, unbroken, stopped, ?_, counts, batches, calm.reports, ?_, ?_⟩
  · decide +kernel
  · decide +kernel
  · decide +kernel

/-- A listener is asked to stop while a batch is being written ten seconds before the end of the
calendar. The batch is accepted, but the certificate that is due would end in the year 10000: the
flush is broken off, its loop ends, the listener has stopped, and the batch is neither counted nor
reported. -/
theorem stop_breaks_off_beyond_calendar :
    let ms := Time.millisecond
    let payload : List UInt8 := [123, 34, 100, 101, 97, 34, 58, 34, 97, 34, 125]
    let wall : Moment := ⟨253402300790000000000, 0⟩
    let s : Service := { listener := .fresh {}, backend := .scripted { writeDelay := 500 * ms } }
    let at_ (e : Event) (clock : Duration) : Occurrence := ⟨.event e, wall.add? clock, clock⟩
    let os := [at_ .flushStart 0, at_ (.arrive "symbion/dea/heartbeat@v1" payload) 0,
      at_ (.take .heartbeat) 0, at_ (.handle 0) 0, at_ .flushTick (1000 * ms),
      at_ .stop (1200 * ms), at_ (.endPump .advertise) (1200 * ms),
      at_ (.endPump .heartbeat) (1200 * ms), at_ .flushAnswered (1500 * ms)]
    let r := (start s).after os
    let es := ((Listener.fresh {}).trace (toldSince [] s os)).effects
    r.isStopped = true ∧ batchesOf es = [[⟨"a", []⟩]] ∧ r.service.backend.synced = [[⟨"a", []⟩]] ∧
      countsOf es = [] ∧ r.service.listener.aggregation.totalSaved = 0 ∧
      r.service.totals = [.received 0] := by
  decide +kernel

end Runtime

end ActualState
