import ActualState.Proofs.Service.Arrivals

/-!
# Runs turn by turn

A `Turn` is one thing that happens to a listener at work, over before the next one begins. Over a
store in a file a flush takes two writes, and messages come in beside either; over a store by
script it takes no time, and they come in before it or after it. If the store does all that it is
asked, and in no time, a flush comes to the same over either (`Listener.flushed`), by the same calls
(`Listener.duties`).
-/
namespace ActualState

open Time (Moment Duration)

/-! ### Turns -/

namespace Service

/-- One thing that happens to a listener at work, over before the next one begins. -/
inductive Turn where
  | heartbeat (payload : List UInt8) (now : Moment)
  | advertise (now : Moment) (clock : Duration)
  /-- The next flush goes on from the memory of another series of flushes. -/
  | carry (c : SyncCycle)
  /-- A flush of which the monotonic clock takes no notice. The wall clock reads `write` when the
  batch goes to the store and `stamp` when it is there. While the batch was being written,
  advertisements came in at `ahead` and then the messages `during` on the heartbeat topic, and
  `since` came in while its certificate was. An advertisement after one of `during` would have its
  bump made before that of the flush; by script the flush is over before such a heartbeat. -/
  | flush (write stamp : Moment) (clock : Duration) (ahead : List Moment) (during : List Message)
    (since : List Arrival)

namespace Turn

/-- What happens in a turn over a store in a file, which has to be waited for twice. -/
def overFile : Turn → List Event
  | .heartbeat payload now => [.heartbeat payload now]
  | .advertise now clock => [.advertise now clock]
  | .carry c => [.carry c]
  | .flush write stamp clock ahead during since =>
    .begin write clock :: arrivals clock (ahead.map .advertise ++ during.map .heartbeat) ++
      .complete stamp clock :: arrivals clock since ++ [.complete stamp clock]

/-- What happens in a turn over a store by script, which answers at once. -/
def overScript : Turn → List Event
  | .heartbeat payload now => [.heartbeat payload now]
  | .advertise now clock => [.advertise now clock]
  | .carry c => [.carry c]
  | .flush _ stamp clock ahead during since =>
    arrivals clock (ahead.map .advertise) ++
      .begin stamp clock :: arrivals clock (during.map .heartbeat ++ since)

/-- When a batch goes to the store in a turn. -/
def written? : Turn → Option Moment
  | .flush write .. => some write
  | _ => none

end Turn

end Service

/-! ### A flush without a failure -/

/-- What a flush comes to if the store does all that it is asked, in no time. -/
def Listener.flushed (l : Listener) : Listener × List Effect :=
  if l.aggregation.pending = [] then l.drained.finish l.aggregation.totalReceived .idle
  else
    l.drained.finishSaved ⟨l.aggregation.pending, l.aggregation.totalReceived, .bumping⟩
      (0 < l.config.syncInterval)

theorem Listener.flush_flushed (l : Listener) : l.flushed.1.flush = none := by
  rw [flushed]
  split
  · exact flush_finish ..
  · exact flush_finishSaved ..

theorem Listener.flushed_hearsAlike (l : Listener) : HearsAlike l.flushed.1 l := by
  rw [flushed]
  split
  · refine ⟨config_finish .., ?_⟩
    rw [aggregation_finish]
    rfl
  · refine ⟨config_finishSaved .., ?_⟩
    rw [aggregation_finishSaved]
    rfl

/-- The calls of such a flush, each with the reading of the wall clock when it is made. -/
def Listener.duties (l : Listener) (write stamp : Moment) : List (StoreCall × Moment) :=
  if l.aggregation.pending = [] then []
  else
    (.sync l.aggregation.pending, write) ::
      if 0 < l.config.syncInterval then [(.bump stamp, stamp)] else []

/-- The calls of a turn with such a flush: some bumps come before it, and some after. -/
def Listener.errands (l : Listener) (write stamp : Moment) (ahead : List Moment)
    (during : List Message) (since : List Arrival) : List (StoreCall × Moment) :=
  Service.bumps (l.asked (ahead.map .advertise)) ++
    (l.duties write stamp ++ Service.bumps ((l.hear during).asked since))

namespace Service

theorem reports_carryOut (s : Service) (es : List Effect) :
    (s.carryOut es).1.reports = s.reports ++ reportsOf es := by
  induction es generalizing s with
  | nil => exact (List.append_nil _).symm
  | cons e es ih =>
    cases e with
    | report m =>
      have rest := ih (s.report m)
      rw [carryOut, rest, report, List.append_assoc]
      rfl
    | call c => exact ih s
    | finished o => exact ih s
    | broken => exact ih s

theorem ends_finish (l : Listener) (n : Nat) (o : SyncOutcome) :
    (l.finish n o).2.filterMap Effect.end? = [.finished o] := by
  rw [Listener.finish_eq]
  split <;> rfl

/-- A service `t` that has come through a flush of `s` while some messages came in. -/
structure CameThrough (s t : Service) (ms : List Message) : Prop where
  listener : t.listener = s.listener.flushed.1.hear ms
  reports : t.reports = s.reports ++ reportsOf s.listener.flushed.2
  inFlight : t.inFlight = none

namespace CameThrough

variable {s t : Service} {ms : List Message}

theorem hear (h : CameThrough s t ms) (ns : List Message) (b : Backend) :
    CameThrough s { t.hear ns with backend := b } (ms ++ ns) where
  listener := by simp only [Service.hear, h.listener, Listener.hear, Aggregation.hear_append]
  reports := h.reports
  inFlight := h.inFlight

theorem asked (h : CameThrough s t ms) (xs : List Arrival) :
    t.listener.asked xs = (s.listener.hear ms).asked xs := by
  rw [h.listener]
  exact (s.listener.flushed_hearsAlike.hear ms).asked xs

/-- Messages that come in after a flush over a store in a file. -/
theorem arrivals_overFile (h : CameThrough s t ms) {f : FileStore} {d : Disk}
    (backend : t.backend = .file f d) {clock : Duration} {xs : List Arrival}
    (unfailing : ∀ a ∈ t.repliesIn (arrivals clock xs), a = .done) :
    ∃ f' d', CameThrough s (t.after (arrivals clock xs)) (ms ++ messagesOf xs) ∧
      (t.after (arrivals clock xs)).backend = .file f' d' ∧
      DidAll f (bumps ((s.listener.hear ms).asked xs)) f' := by
  obtain ⟨f', d', did, after_⟩ := arrivals_idle backend h.inFlight unfailing
  rw [h.asked] at did
  rw [after_]
  exact ⟨f', d', h.hear _ _, rfl, did⟩

end CameThrough

/-- A flush whose batch is stored ends the same way whatever came in meanwhile. -/
theorem finishSaved_hear (l : Listener) (x : Option Flush) (f : Flush) (stage : FlushStage)
    (b : Bool) (ms : List Message) :
    ({ l.hear ms with flush := x } : Listener).finishSaved { f with stage } b =
      ((l.finishSaved f b).1.hear ms, (l.finishSaved f b).2) := by
  have total : (l.aggregation.hear ms).totalSaved = l.aggregation.totalSaved :=
    l.aggregation.totalSaved_hear ms
  simp only [Listener.finishSaved, Listener.finish_eq, Listener.hear,
    Aggregation.totalSaved_recordSaved, total]
  split <;> simp only [Aggregation.hear_recordSaved]

/-- The flush that takes the buffer of a service, at some stage. -/
def flushAt (s : Service) (stage : FlushStage) : Flush :=
  ⟨s.listener.aggregation.pending, s.listener.aggregation.totalReceived, stage⟩

/-- The listener while that flush waits for its store, after some messages. -/
def busy (s : Service) (stage : FlushStage) (ms : List Message) : Listener :=
  { s.listener.drained.hear ms with flush := some (s.flushAt stage) }

theorem asked_busy (s : Service) (stage : FlushStage) (ms : List Message) (xs : List Arrival) :
    (s.busy stage ms).asked xs = (s.listener.hear ms).asked xs := by
  have drained : Listener.HearsAlike s.listener.drained s.listener := ⟨rfl, rfl⟩
  have same : Listener.HearsAlike (s.busy stage ms) (s.listener.drained.hear ms) := ⟨rfl, rfl⟩
  rw [same.asked, (drained.hear ms).asked]

/-- A batch is stored within the interval, and is certified next. -/
theorem answer_busy_inTime (s : Service) (ms : List Message)
    (early : 0 < s.listener.config.syncInterval) (stamp : Moment) (clock : Duration) :
    (s.busy (.syncing clock) ms).answer .done (some stamp) clock =
      (s.busy .bumping ms, [.call (.bump stamp)]) := by
  rw [Listener.answer_inTime rfl rfl (by rwa [Nat.sub_self])]
  rfl

/-- If no time at all is too long, a flush is over with its batch. -/
theorem answer_busy_tooLate (s : Service) (ms : List Message)
    (late : ¬ 0 < s.listener.config.syncInterval) (now : Option Moment) (clock : Duration) :
    (s.busy (.syncing clock) ms).answer .done now clock =
      (s.busy (.syncing clock) ms).finishSaved (s.flushAt (.syncing clock))
        (0 < s.listener.config.syncInterval) := by
  rw [decide_eq_false late]
  exact Listener.answer_tooLate rfl rfl (by rwa [Nat.sub_self])

/-- A flush is over with its certificate. -/
theorem answer_busy_bumping (s : Service) (ms : List Message)
    (early : 0 < s.listener.config.syncInterval) (now : Option Moment) (clock : Duration) :
    (s.busy .bumping ms).answer .done now clock =
      (s.busy .bumping ms).finishSaved (s.flushAt .bumping)
        (0 < s.listener.config.syncInterval) := by
  rw [decide_eq_true early]
  exact Listener.answer_bumping rfl rfl (by simp)

/-- A flush that was busy with a batch, has stored it and has nothing more to ask. -/
theorem goOn_saved {s u : Service} {ms : List Message} {stage : FlushStage} {a : Answer}
    {now : Option Moment} {clock : Duration} (calls : Nat)
    (some_ : s.listener.aggregation.pending ≠ []) (listener : u.listener = s.busy stage ms)
    (reports : u.reports = s.reports) (idle : u.inFlight = none)
    (saved : (s.busy stage ms).answer a now clock =
      (s.busy stage ms).finishSaved (s.flushAt stage) (0 < s.listener.config.syncInterval)) :
    CameThrough s (u.goOn calls a now clock).1 ms ∧
      (u.goOn calls a now clock).1.backend = u.backend ∧
      (u.goOn calls a now clock).2.toList = s.listener.flushed.2.filterMap Effect.end? := by
  let r := (s.busy stage ms).finishSaved (s.flushAt stage) (0 < s.listener.config.syncInterval)
  have flushed : r = (s.listener.flushed.1.hear ms, s.listener.flushed.2) := by
    simp only [Listener.flushed, if_neg some_]
    exact finishSaved_hear s.listener.drained (some (s.flushAt stage)) (s.flushAt .bumping) stage
      (0 < s.listener.config.syncInterval) ms
  have whole : u.goOn calls a now clock =
      (({ u with listener := r.1 } : Service).carryOut r.2 |>.1,
        (r.2.filterMap Effect.end?).head?) := by
    rw [goOn, listener, saved]
    exact proceed_of_no_call calls _ (Listener.callsOf_finishSaved ..) now clock
  obtain ⟨-, kept, backend, inFlight⟩ :=
    carryOut_spec ({ u with listener := r.1 } : Service) r.2
  rw [whole]
  refine ⟨⟨?_, ?_, inFlight.trans idle⟩, backend, ?_⟩
  · rw [kept, flushed]
  · rw [reports_carryOut, flushed, ← reports]
  · have last : s.listener.flushed.2.filterMap Effect.end? =
        [.finished (.saved s.listener.aggregation.pending.length
          (0 < s.listener.config.syncInterval))] := by
      rw [Listener.flushed, if_neg some_]
      exact ends_finish _ _ _
    rw [flushed, last]
    rfl

/-! ### A flush over a store in a file -/

section File

variable {s : Service} {f : FileStore} {d : Disk} {now : Option Moment} {clock : Duration}

/-- A call that is done has reached the disk. -/
theorem begins_of_answersAtOnce {calls : Nat} {c : StoreCall} (backend : s.backend = .file f d)
    (unfailing : ∀ a ∈ (answersAtOnce (calls + 1) s [.call c] now clock).filterMap
      Listener.Input.answer?, a = .done) : ∃ w, f.begin c now clock = .ok w := by
  cases begun : f.begin c now clock with
  | ok w => exact ⟨w, rfl⟩
  | error a =>
    have first : a ∈ (answersAtOnce (calls + 1) s [.call c] now clock).filterMap
        Listener.Input.answer? := by
      simp [answersAtOnce, carryOut, backend, Backend.begin, begun, Listener.Input.answer?]
    exact absurd (unfailing a first) (FileStore.ne_done_of_begin begun)

theorem replies_complete {w : PendingWrite} {ts : List Moment} (backend : s.backend = .file f d)
    (inFlight : s.inFlight = some (.writing w ts)) :
    s.replies (.complete now clock) =
      (f.complete w d clock).2.2 :: (answersAtOnce callsOfFlush
        { s.written f w ts d clock with
          listener := (s.listener.answer (f.complete w d clock).2.2 now clock).1 }
        (s.listener.answer (f.complete w d clock).2.2 now clock).2 now clock).filterMap
          Listener.Input.answer? ++ (freed f w ts d clock).2.2 := by
  simp only [replies, toldAtCompletion, waited, inFlight, backend, Backend.complete]
  rfl

/-- A write that is done, and the bumps that have waited for it. -/
theorem didAll_freed {c : StoreCall} {m : Moment} {w : PendingWrite} {ts : List Moment}
    {began : Duration} (begun : f.begin c (some m) began = .ok w)
    (done : (f.complete w d clock).2.2 = .done)
    (renewed : ∀ a ∈ (freed f w ts d clock).2.2, a = .done) :
    DidAll f ((c, m) :: bumps ts) (freed f w ts d clock).1 :=
  .cons (did_of_complete begun done) (didAll_bumpAll renewed)

theorem step_begin (free : s.listener.flush = none) (now : Option Moment) (clock : Duration) :
    s.step (.begin now clock) =
      ((s.beginFlush now clock).1, { ended := (s.beginFlush now clock).2 }) := by
  simp [step, free]

theorem step_complete_of_none (inFlight : s.inFlight = none) (now : Option Moment)
    (clock : Duration) :
    s.step (.complete now clock) = (s, {}) := by
  cases backend : s.backend <;> simp [step, completeFlush, answered, waited, inFlight, backend]

/-- A flush of an empty buffer is over at once, whatever the store. -/
theorem beginFlush_of_nothing (nothing : s.listener.aggregation.pending = [])
    (idle : s.inFlight = none) (now : Option Moment) (clock : Duration) :
    CameThrough s (s.beginFlush now clock).1 [] ∧
      (s.beginFlush now clock).2.toList = s.listener.flushed.2.filterMap Effect.end? ∧
      (s.beginFlush now clock).1.backend = s.backend := by
  let r := s.listener.drained.finish s.listener.aggregation.totalReceived .idle
  let t : Service := { s with listener := r.1 }
  have whole : s.beginFlush now clock =
      ((t.carryOut r.2).1, (r.2.filterMap Effect.end?).head?) := by
    rw [beginFlush, Listener.beginFlush_idle nothing]
    exact proceed_of_no_call callsOfFlush t (Listener.callsOf_finish _ _ _) now clock
  have flushed : s.listener.flushed = r := by simp [Listener.flushed, nothing, r]
  obtain ⟨-, listener, backend, inFlight⟩ := t.carryOut_spec r.2
  rw [whole]
  refine ⟨⟨?_, ?_, inFlight.trans idle⟩, ?_, backend⟩
  · simp only [listener, flushed, t]
    rfl
  · simp only [reports_carryOut, flushed, t]
  · rw [flushed, ends_finish]
    rfl

/-- A service `u` in which a flush of `s` waits for a call to be written, and the bumps `ts` wait
for that. -/
structure Waits (s u : Service) (stage : FlushStage) (ms : List Message) (ts : List Moment)
    (f : FileStore) (d : Disk) (c : StoreCall) (m : Moment) (clock : Duration) : Prop where
  listener : u.listener = s.busy stage ms
  reports : u.reports = s.reports
  backend : u.backend = .file f d
  write : ∃ w, u.inFlight = some (.writing w ts) ∧ f.begin c (some m) clock = .ok w

variable {u : Service} {stage : FlushStage} {ms : List Message} {ts : List Moment} {c : StoreCall}
  {write stamp m : Moment}

theorem Waits.arrive (h : Waits s u stage ms ts f d c m clock) (xs : List Arrival) :
    Waits s (u.after (arrivals clock xs)) stage (ms ++ messagesOf xs)
      (ts ++ (s.listener.hear ms).asked xs) f d c m clock := by
  obtain ⟨w, inFlight, begun⟩ := h.write
  rw [arrivals_beside h.backend inFlight, h.listener, asked_busy]
  refine ⟨?_, h.reports, h.backend, w, rfl, begun⟩
  simp only [Service.hear, h.listener, busy, Listener.hear, Aggregation.hear_append]

/-- A batch is on its way. -/
theorem waits_begin (backend : s.backend = .file f d) (free : s.listener.flush = none)
    (some_ : s.listener.aggregation.pending ≠ [])
    (unfailing : ∀ a ∈ s.replies (.begin (some write) clock), a = .done) :
    Waits s (s.step (.begin (some write) clock)).1 (.syncing clock) [] [] f d
        (.sync s.listener.aggregation.pending) write clock ∧
      (s.step (.begin (some write) clock)).2.ended = none := by
  let t : Service := { s with listener := s.busy (.syncing clock) [] }
  have asked : s.listener.beginFlush clock =
      (s.busy (.syncing clock) [], [.call (.sync s.listener.aggregation.pending)]) :=
    Listener.beginFlush_sync some_
  have replies : s.replies (.begin (some write) clock) =
      (answersAtOnce callsOfFlush t [.call (.sync s.listener.aggregation.pending)] (some write)
        clock).filterMap Listener.Input.answer? := by
    simp only [Service.replies, toldAtFlush, free, asked, Option.isSome_none, Bool.false_eq_true,
      if_false, t]
    rfl
  rw [replies] at unfailing
  obtain ⟨w, begun⟩ := begins_of_answersAtOnce (s := t) backend unfailing
  have whole : s.beginFlush (some write) clock =
      ({ t with inFlight := some (.writing w []) }, none) := by
    rw [beginFlush, asked, callsOfFlush]
    simp only
    rw [proceed_call 1 (s := t) backend, begun]
  rw [step_begin free, whole]
  exact ⟨⟨rfl, rfl, backend, w, rfl, begun⟩, rfl⟩

/-- A batch is in the store, and so are the bumps that have waited for it. It is certified next,
unless no time at all is too long. -/
theorem Waits.synced (h : Waits s u (.syncing clock) ms ts f d
      (.sync s.listener.aggregation.pending) write clock)
    (some_ : s.listener.aggregation.pending ≠ [])
    (unfailing : ∀ a ∈ u.replies (.complete (some stamp) clock), a = .done) :
    let r := u.step (.complete (some stamp) clock)
    ∃ f' d', DidAll f ((.sync s.listener.aggregation.pending, write) :: bumps ts) f' ∧
      ((0 < s.listener.config.syncInterval ∧ r.2.ended = none ∧
          Waits s r.1 .bumping ms [] f' d' (.bump stamp) stamp clock) ∨
        (¬ 0 < s.listener.config.syncInterval ∧ CameThrough s r.1 ms ∧
          r.1.backend = .file f' d' ∧
          r.2.ended.toList = s.listener.flushed.2.filterMap Effect.end?)) := by
  intro r
  obtain ⟨w, inFlight, begun⟩ := h.write
  rw [replies_complete h.backend inFlight] at unfailing
  obtain ⟨own, renewed⟩ := List.forall_mem_append.1 unfailing
  obtain ⟨done, later⟩ := List.forall_mem_cons.1 own
  have whole : r = ((u.completeFlush (some stamp) clock).1,
    { ended := (u.completeFlush (some stamp) clock).2
      renewals := u.waited clock
      answered := u.answered clock }) := rfl
  rw [done] at later
  rw [completeFlush_eq h.backend inFlight, done] at whole
  refine ⟨_, (freed f w ts d clock).2.1, didAll_freed begun done renewed, ?_⟩
  by_cases early : 0 < s.listener.config.syncInterval
  · refine .inl ⟨early, ?_⟩
    have asked : u.listener.answer .done (some stamp) clock =
        (s.busy .bumping ms, [.call (.bump stamp)]) := by
      rw [h.listener, s.answer_busy_inTime ms early]
    rw [asked] at later
    obtain ⟨w', begun'⟩ := begins_of_answersAtOnce rfl later
    rw [callsOfFlush, goOn_call 1 (s := u.written f w ts d clock) asked rfl, begun'] at whole
    rw [whole]
    exact ⟨rfl, rfl, h.reports, rfl, w', rfl, begun'⟩
  · refine .inr ⟨early, ?_⟩
    rw [whole]
    exact goOn_saved (u := u.written f w ts d clock) callsOfFlush some_ h.listener h.reports rfl
      (s.answer_busy_tooLate ms early _ clock)

/-- A certificate is in the store, and so are the bumps that have waited for it. -/
theorem Waits.bumped (h : Waits s u .bumping ms ts f d (.bump stamp) stamp clock)
    (some_ : s.listener.aggregation.pending ≠ []) (early : 0 < s.listener.config.syncInterval)
    (unfailing : ∀ a ∈ u.replies (.complete now clock), a = .done) :
    let r := u.step (.complete now clock)
    ∃ f' d', DidAll f ((.bump stamp, stamp) :: bumps ts) f' ∧ CameThrough s r.1 ms ∧
      r.1.backend = .file f' d' ∧
      r.2.ended.toList = s.listener.flushed.2.filterMap Effect.end? := by
  intro r
  obtain ⟨w, inFlight, begun⟩ := h.write
  rw [replies_complete h.backend inFlight] at unfailing
  obtain ⟨own, renewed⟩ := List.forall_mem_append.1 unfailing
  have done := (List.forall_mem_cons.1 own).1
  have whole : r = ((u.completeFlush now clock).1,
    { ended := (u.completeFlush now clock).2
      renewals := u.waited clock
      answered := u.answered clock }) := rfl
  rw [completeFlush_eq h.backend inFlight, done] at whole
  rw [whole]
  exact ⟨_, _, didAll_freed begun done renewed, goOn_saved (u := u.written f w ts d clock)
    callsOfFlush some_ h.listener h.reports rfl (s.answer_busy_bumping ms early now clock)⟩

/-- Once a flush is over, nothing is left to complete. -/
theorem CameThrough.complete {t : Service} (h : CameThrough s t ms) (now : Option Moment)
    (clock : Duration) : t.step (.complete now clock) = (t, {}) :=
  step_complete_of_none h.inFlight now clock

/-- A flush over a store in a file, with two writes or with one, or with none if nothing came in. -/
theorem flush_overFile (backend : s.backend = .file f d) (free : s.listener.flush = none)
    (idle : s.inFlight = none) {ahead : List Moment} {during : List Message} {since : List Arrival}
    (unfailing : ∀ a ∈ s.repliesIn (Turn.flush write stamp clock ahead during since).overFile,
      a = .done) :
    let es := (Turn.flush write stamp clock ahead during since).overFile
    CameThrough s (s.after es) (during ++ messagesOf since) ∧
      s.endsIn es = s.listener.flushed.2.filterMap Effect.end? ∧
      ∃ f' d', (s.after es).backend = .file f' d' ∧
        DidAll f (s.listener.errands write stamp ahead during since) f' := by
  intro es
  let first : List Arrival := ahead.map .advertise ++ during.map .heartbeat
  let s₁ := (s.step (.begin (some write) clock)).1
  let s₂ := s₁.after (arrivals clock first)
  let s₃ := (s₂.step (.complete (some stamp) clock)).1
  let s₄ := s₃.after (arrivals clock since)
  let s₅ := (s₄.step (.complete (some stamp) clock)).1
  have messages : messagesOf first = during := by simp [first]
  have asked (l : Listener) : l.asked first = l.asked (ahead.map .advertise) := by
    simp [first, Listener.asked_append]
  have after_ : s.after es = s₅ := by
    simp only [es, Turn.overFile, List.cons_append, after_cons, after_append, after_nil, s₅, s₄, s₃,
      s₂, s₁, first]
  have ends : s.endsIn es = (s.step (.begin (some write) clock)).2.ended.toList ++
      ((s₂.step (.complete (some stamp) clock)).2.ended.toList ++
        (s₄.step (.complete (some stamp) clock)).2.ended.toList) := by
    simp only [es, Turn.overFile, List.cons_append, endsIn_cons, endsIn_append, endsIn_arrivals,
      after_append, after_cons, List.nil_append, s₄, s₃, s₂, s₁, first]
    simp [endsIn]
  have answers : s.repliesIn es = s.replies (.begin (some write) clock) ++
      (s₁.repliesIn (arrivals clock first) ++ (s₂.replies (.complete (some stamp) clock) ++
        (s₃.repliesIn (arrivals clock since) ++ s₄.replies (.complete (some stamp) clock)))) := by
    simp only [es, Turn.overFile, List.cons_append, repliesIn, repliesIn_append, List.append_assoc,
      List.append_nil, s₄, s₃, s₂, s₁, first]
  change ∀ a ∈ s.repliesIn es, a = .done at unfailing
  rw [answers] at unfailing
  simp only [List.forall_mem_append] at unfailing
  obtain ⟨begun, beside, completed, later, certified⟩ := unfailing
  rw [after_, ends, Listener.errands]
  by_cases nothing : s.listener.aggregation.pending = []
  · -- The flush is over at once, and there is nothing to wait for.
    have over_ := step_begin free (some write) clock
    obtain ⟨came, ended, kept⟩ := beginFlush_of_nothing nothing idle (some write) clock
    rw [show (s.beginFlush (some write) clock).1 = s₁ from (congrArg Prod.fst over_).symm]
      at came kept
    obtain ⟨f₂, d₂, came₂, file₂, did₂⟩ := came.arrivals_overFile (kept.trans backend) beside
    rw [messages, List.nil_append] at came₂
    change CameThrough s s₂ during at came₂
    change s₂.backend = _ at file₂
    have none₂ := came₂.complete (some stamp) clock
    have same₃ : s₃ = s₂ := congrArg Prod.fst none₂
    rw [← same₃] at came₂ file₂
    obtain ⟨f₄, d₄, came₄, file₄, did₄⟩ := came₂.arrivals_overFile file₂ later
    have none₄ := came₄.complete (some stamp) clock
    have same₅ : s₅ = s₄ := congrArg Prod.fst none₄
    rw [same₅, over_, none₂, none₄, ended]
    refine ⟨came₄, by simp, f₄, d₄, file₄, ?_⟩
    rw [asked] at did₂
    rw [Listener.duties, if_pos nothing]
    exact did₂.append did₄
  · obtain ⟨waits, quiet⟩ := waits_begin backend free nothing begun
    have waits₂ := waits.arrive first
    rw [messages, asked] at waits₂
    obtain ⟨f', d', synced, ⟨early, still, next⟩ | ⟨late, came, backend', ended⟩⟩ :=
      waits₂.synced nothing completed
    · obtain ⟨f'', d'', bumped, came, backend', ended⟩ :=
        (next.arrive since).bumped nothing early certified
      refine ⟨came, by rw [quiet, still, ended]; rfl, f'', d'', backend', ?_⟩
      rw [Listener.duties, if_neg nothing, if_pos early]
      simpa using synced.sync_last.append bumped
    · obtain ⟨f₄, d₄, came₄, file₄, did₄⟩ := came.arrivals_overFile backend' later
      have none₄ := came₄.complete (some stamp) clock
      have same₅ : s₅ = s₄ := congrArg Prod.fst none₄
      rw [same₅, quiet, ended, none₄]
      refine ⟨came₄, by simp, f₄, d₄, file₄, ?_⟩
      rw [Listener.duties, if_neg nothing, if_neg late]
      simpa using synced.sync_last.append did₄

end File

/-! ### A flush over a store by script -/

section Script

variable {s : Service} {b b' : ScriptedStore} {write stamp : Moment} {clock : Duration}

theorem proceed_of_obeys (calls : Nat) {c : StoreCall} {now : Option Moment}
    (backend : s.backend = .scripted b) (obeys : Obeys b c b') :
    proceed (calls + 1) s [.call c] now clock =
      ({ s with backend := .scripted b' } : Service).goOn calls .done now clock := by
  simp only [proceed, carryOut, backend, obeys now clock, goOn]

theorem goOn_of_obeys (calls : Nat) {c : StoreCall} {a : Answer} {now : Option Moment}
    {k : Listener} (answer : s.listener.answer a now clock = (k, [.call c]))
    (backend : s.backend = .scripted b) (obeys : Obeys b c b') :
    s.goOn (calls + 1) a now clock =
      ({ s with listener := k, backend := .scripted b' } : Service).goOn calls .done now clock := by
  rw [goOn, answer]
  exact proceed_of_obeys calls (s := { s with listener := k }) backend obeys

/-- A service `u` in which a flush of `s` works with a store by script. -/
structure Works (s u : Service) (stage : FlushStage) (b : ScriptedStore) : Prop where
  listener : u.listener = s.busy stage []
  reports : u.reports = s.reports
  backend : u.backend = .scripted b
  inFlight : u.inFlight = none

/-- The certificate is in the store, and the flush is over. -/
theorem Works.bumped {u : Service} (h : Works s u .bumping b)
    (some_ : s.listener.aggregation.pending ≠ []) (early : 0 < s.listener.config.syncInterval)
    (now : Option Moment) (clock : Duration) (calls : Nat) :
    let r := u.goOn calls .done now clock
    CameThrough s r.1 [] ∧ r.2.toList = s.listener.flushed.2.filterMap Effect.end? ∧
      r.1.backend = .scripted b := by
  obtain ⟨came, backend, ended⟩ := goOn_saved calls some_ h.listener h.reports h.inFlight
    (s.answer_busy_bumping [] early now clock)
  exact ⟨came, ended, backend.trans h.backend⟩

/-- A batch is in the store, and the flush goes on to its end. -/
theorem Works.synced {u : Service} (h : Works s u (.syncing clock) b)
    (some_ : s.listener.aggregation.pending ≠ [])
    (obeys : ObeysAll b
      (if 0 < s.listener.config.syncInterval then [(.bump stamp, stamp)] else []) b') :
    let r := u.goOn 1 .done (some stamp) clock
    CameThrough s r.1 [] ∧ r.2.toList = s.listener.flushed.2.filterMap Effect.end? ∧
      r.1.backend = .scripted b' := by
  by_cases early : 0 < s.listener.config.syncInterval
  · rw [if_pos early] at obeys
    cases obeys with
    | cons bumped rest =>
      cases rest
      have asked : u.listener.answer .done (some stamp) clock =
          (s.busy .bumping [], [.call (.bump stamp)]) := by
        rw [h.listener, s.answer_busy_inTime [] early]
      have next : Works s { u with listener := s.busy .bumping [], backend := .scripted b' }
          .bumping b' := ⟨rfl, h.reports, rfl, h.inFlight⟩
      rw [goOn_of_obeys 0 asked h.backend bumped]
      exact next.bumped some_ early (some stamp) clock 0
  · rw [if_neg early] at obeys
    cases obeys
    obtain ⟨came, backend, ended⟩ := goOn_saved 1 some_ h.listener h.reports h.inFlight
      (s.answer_busy_tooLate [] early (some stamp) clock)
    exact ⟨came, ended, backend.trans h.backend⟩

/-- A flush over a store by script is over before anything else happens. -/
theorem beginFlush_overScript (backend : s.backend = .scripted b) (idle : s.inFlight = none)
    (obeys : ObeysAll b (s.listener.duties write stamp) b') :
    CameThrough s (s.beginFlush (some stamp) clock).1 [] ∧
      (s.beginFlush (some stamp) clock).2.toList = s.listener.flushed.2.filterMap Effect.end? ∧
      (s.beginFlush (some stamp) clock).1.backend = .scripted b' := by
  by_cases nothing : s.listener.aggregation.pending = []
  · obtain ⟨came, ended, kept⟩ := beginFlush_of_nothing nothing idle (some stamp) clock
    rw [Listener.duties, if_pos nothing] at obeys
    cases obeys
    exact ⟨came, ended, kept.trans backend⟩
  · have asked : s.listener.beginFlush clock =
        (s.busy (.syncing clock) [], [.call (.sync s.listener.aggregation.pending)]) :=
      Listener.beginFlush_sync nothing
    rw [Listener.duties, if_neg nothing] at obeys
    cases obeys with
    | @cons _ b₁ _ _ _ _ synced others =>
      have works : Works s
          { s with listener := s.busy (.syncing clock) [], backend := .scripted b₁ }
          (.syncing clock) b₁ := ⟨rfl, rfl, rfl, idle⟩
      rw [beginFlush, asked]
      simp only
      rw [callsOfFlush,
        proceed_of_obeys 1 (s := { s with listener := s.busy (.syncing clock) [] }) backend synced]
      exact works.synced nothing others

/-- A turn with a flush over a store by script: what came in before the flush, and after it. -/
theorem flush_overScript (backend : s.backend = .scripted b) (free : s.listener.flush = none)
    (idle : s.inFlight = none) {ahead : List Moment} {during : List Message} {since : List Arrival}
    (obeys : ObeysAll b (s.listener.errands write stamp ahead during since) b')
    (clock : Duration) :
    let es := (Turn.flush write stamp clock ahead during since).overScript
    CameThrough s (s.after es) (during ++ messagesOf since) ∧
      s.endsIn es = s.listener.flushed.2.filterMap Effect.end? ∧
      (s.after es).backend = .scripted b' := by
  intro es
  obtain ⟨b₀, before, others⟩ := obeys.split
  obtain ⟨b₁, own, after⟩ := others.split
  let s₀ : Service := { s with backend := .scripted b₀ }
  have ahead_ : s.after (arrivals clock (ahead.map .advertise)) = s₀ := by
    rw [arrivals_overScript backend before, messagesOf_advertisements]
    rfl
  have begins := step_begin (s := s₀) free (some stamp) clock
  obtain ⟨came, ended, kept⟩ := beginFlush_overScript (s := s₀) rfl idle own
  have asked : (s₀.beginFlush (some stamp) clock).1.listener.asked
      (during.map .heartbeat ++ since) = (s.listener.hear during).asked since := by
    rw [came.asked, Listener.asked_append, Listener.asked_heartbeats, messagesOf_heartbeats]
    rfl
  have after_ : s.after es = ((s₀.beginFlush (some stamp) clock).1).after
      (arrivals clock (during.map .heartbeat ++ since)) := by
    simp only [es, Turn.overScript, after_append, after_cons, ahead_, begins]
  have ends : s.endsIn es = (s₀.beginFlush (some stamp) clock).2.toList := by
    simp only [es, Turn.overScript, endsIn_append, endsIn_cons, endsIn_arrivals, ahead_, begins,
      List.append_nil, List.nil_append]
  rw [after_, ends, arrivals_overScript kept (asked ▸ after)]
  refine ⟨?_, ended, rfl⟩
  have whole := came.hear (messagesOf (during.map .heartbeat ++ since)) (.scripted b')
  rw [List.nil_append, messagesOf_append, messagesOf_heartbeats] at whole
  rw [messagesOf_append, messagesOf_heartbeats]
  exact ⟨whole.listener, whole.reports, whole.inFlight⟩

end Script

end Service

end ActualState
