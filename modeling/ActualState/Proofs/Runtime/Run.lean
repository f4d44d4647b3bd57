import ActualState.Listener.Runtime
import ActualState.Proofs.Service.Run

/-!
# Runs of a started listener

A started listener goes on as its tasks happen to be scheduled, and its store is disturbed from
outside at any time. An `Occurrence` is one of these things with the readings of both clocks, and
a run is a list of them in any order. `told` is what an observer between the tasks and the
listener writes down: every input the listener is given, in order. That the listener has come to
where these inputs lead, that its totals were passed on and that its calls were made is `Heard`;
it is proved once for every occurrence, so that what holds of every run of a listener holds of
every run of a started one.
-/
namespace ActualState

open Time (Moment Duration Ticker)

/-- The report that an effect makes. -/
def Effect.report? : Effect → Option Metric
  | .report m => some m
  | _ => none

/-- The reports among effects, in order. -/
def reportsOf (es : List Effect) : List Metric := es.filterMap Effect.report?

@[simp] theorem reportsOf_append (es fs : List Effect) :
    reportsOf (es ++ fs) = reportsOf es ++ reportsOf fs := List.filterMap_append

@[simp] theorem reportsOf_nil : reportsOf [] = [] := rfl

@[simp] theorem callsOf_nil : callsOf [] = [] := rfl

@[simp] theorem reportsOf_call (c : StoreCall) (es : List Effect) :
    reportsOf (.call c :: es) = reportsOf es := rfl

@[simp] theorem callsOf_call (c : StoreCall) (es : List Effect) :
    callsOf (.call c :: es) = c :: callsOf es := rfl

@[simp] theorem Listener.effects_trace_nil (l : Listener) : (l.trace []).effects = [] := rfl

@[simp] theorem Listener.effects_trace_cons (l : Listener) (i : Listener.Input)
    (is : List Listener.Input) :
    (l.trace (i :: is)).effects = (l.step i).2 ++ ((l.step i).1.trace is).effects := rfl

/-- Whether a report is one of the two totals. -/
def Metric.isTotal : Metric → Bool
  | .received _ | .saved _ => true
  | .usage _ => false

/-- Something that happens to a store behind the listener's back. -/
inductive Disturbance where
  | script (writeDelay : Duration) (failSync failFreshness : Bool)
  | disk (d : Disk)
  deriving DecidableEq, Inhabited

namespace Backend

/-- A store after a disturbance; one for a store of the other kind changes nothing. -/
def disturb : Backend → Disturbance → Backend
  | .scripted s, .script delay failSync failFreshness =>
    .scripted { s with
      writeDelay := delay, failSync := failSync, failFreshness := failFreshness }
  | .file s _, .disk d => .file s d
  | b, _ => b

/-- Whether a store notes its calls. -/
def notesCalls : Backend → Bool
  | .scripted _ => true
  | .file _ _ => false

theorem notesCalls_begin (b : Backend) (c : StoreCall) (now : Option Moment) (clock : Duration)
    (notes : b.notesCalls = true) :
    (b.begin c now clock).1.notesCalls = true ∧
      (b.begin c now clock).1.calls = b.calls ++ [c] := by
  cases b with
  | file f d => simp [notesCalls] at notes
  | scripted s =>
    cases c with
    | sync batch =>
      simp only [begin, ScriptedStore.completeSync]
      repeat' split
      all_goals exact ⟨rfl, rfl⟩
    | bump at_ =>
      simp only [begin, ScriptedStore.answerBump]
      repeat' split
      all_goals exact ⟨rfl, rfl⟩
    | revoke =>
      simp only [begin, ScriptedStore.answerRevoke]
      repeat' split
      all_goals exact ⟨rfl, rfl⟩

theorem enqueue?_of_notesCalls (b : Backend) (c : Option InFlight) (at_ : Moment)
    (notes : b.notesCalls = true) : b.enqueue? c at_ = none := by
  cases b with
  | file f d => simp [notesCalls] at notes
  | scripted s => rfl

theorem isSome_of_enqueue? {b : Backend} {c : Option InFlight} {at_ : Moment} {queued : InFlight}
    (waits : b.enqueue? c at_ = some queued) : c.isSome = true := by
  cases c with
  | none => cases b <;> simp [enqueue?] at waits
  | some c => rfl

theorem notesCalls_complete (b : Backend) (c : InFlight) (clock : Duration)
    (notes : b.notesCalls = true) :
    (b.complete c clock).1.notesCalls = true ∧ (b.complete c clock).1.calls = b.calls := by
  cases b with
  | file f d => simp [notesCalls] at notes
  | scripted s =>
    cases c with
    | writing w bumps => exact ⟨rfl, rfl⟩
    | sleeping batch until_ =>
      simp only [complete, ScriptedStore.completeSync]
      split
      all_goals exact ⟨rfl, rfl⟩

end Backend

/-- A sample leaves a store that notes its calls as it is. -/
theorem UsageTracker.measure_of_notesCalls (t : UsageTracker) (b : Backend) (clock : Duration)
    (notes : b.notesCalls = true) : (t.measure b clock).2.1 = b := by
  cases b with
  | file f d => simp [Backend.notesCalls] at notes
  | scripted s =>
    cases t with
    | store => rfl
    | scripted results started => cases results <;> rfl

/-- Whether an input is an answer that comes at an instant. -/
def Listener.Input.IsAnswerAt (i : Listener.Input) (clock : Duration) : Prop :=
  ∃ a now, i = .answer a now clock

namespace Service

/-- The totals reported so far, in order. -/
def totals (s : Service) : List Metric := s.reports.filter Metric.isTotal

/-- The answers that a flush gets at once when it goes on from effects, as inputs. -/
def answersAtOnce : Nat → Service → List Effect → Option Moment → Duration → List Listener.Input
  | 0, _, _, _, _ => []
  | calls + 1, s, effects, now, clock =>
    match (s.carryOut effects).2.1 with
    | none => []
    | some call =>
      match s.backend.begin call now clock with
      | (_, .inFlight _) => []
      | (b, .answered a) =>
        .answer a now clock ::
          answersAtOnce calls
            { (s.carryOut effects).1 with
              backend := b, listener := (s.listener.answer a now clock).1 }
            (s.listener.answer a now clock).2 now clock

/-- A flush, and the answers that it gets at once. -/
def toldAtFlush (s : Service) (now : Option Moment) (clock : Duration) : List Listener.Input :=
  .flush clock ::
    answersAtOnce callsOfFlush { s with listener := (s.listener.beginFlush clock).1 }
      (s.listener.beginFlush clock).2 now clock

/-- The answer to the flush under way, and those that it gets at once when it goes on. -/
def toldAtCompletion (s : Service) (now : Option Moment) (clock : Duration) :
    List Listener.Input :=
  match s.inFlight with
  | none => []
  | some c =>
    let (b, a) := s.backend.complete c clock
    .answer a now clock ::
      answersAtOnce callsOfFlush
        { s with
          backend := b, inFlight := none, listener := (s.listener.answer a now clock).1 }
        (s.listener.answer a now clock).2 now clock

theorem isAnswerAt_answersAtOnce (calls : Nat) (s : Service) (es : List Effect)
    (now : Option Moment) (clock : Duration) :
    ∀ i ∈ s.answersAtOnce calls es now clock, i.IsAnswerAt clock := by
  induction calls generalizing s es with
  | zero => simp [answersAtOnce]
  | succ calls ih =>
    simp only [answersAtOnce]
    split
    · simp
    · split
      · simp
      · next b a _ =>
        intro i told
        rcases List.mem_cons.1 told with rfl | told
        · exact ⟨a, now, rfl⟩
        · exact ih _ _ i told

theorem isAnswerAt_toldAtCompletion (s : Service) (now : Option Moment) (clock : Duration) :
    ∀ i ∈ s.toldAtCompletion now clock, i.IsAnswerAt clock := by
  intro i told
  unfold toldAtCompletion at told
  split at told
  · cases told
  · rcases List.mem_cons.1 told with rfl | told
    · exact ⟨_, _, rfl⟩
    · exact isAnswerAt_answersAtOnce _ _ _ _ _ i told

end Service

/-- A message that is handled; without a wall time it does not get as far as the listener. -/
def toldByMessage (m : MessageKind × List UInt8) (now : Option Moment) : List Listener.Input :=
  match now, m.1 with
  | none, _ => []
  | some wall, .advertise => [.advertise wall wall]
  | some wall, .heartbeat => [.heartbeat m.2 wall]

/-- Something that happens to a started listener. -/
inductive Happening where
  | event (e : Event)
  | disturbance (x : Disturbance)
  deriving DecidableEq, Inhabited

/-- Something that happens, at wall time `now`, if there is one, and at `clock` on the monotonic
clock. -/
structure Occurrence where
  what : Happening
  now : Option Moment
  clock : Duration
  deriving DecidableEq, Inhabited

namespace Runtime

/-- The runtime after an occurrence. -/
def occur (r : Runtime) (o : Occurrence) : Runtime :=
  match o.what with
  | .event e => r.step e o.now o.clock
  | .disturbance x =>
    { r with service := { r.service with backend := r.service.backend.disturb x } }

/-- The runtime after a run. -/
def after (r : Runtime) (os : List Occurrence) : Runtime := os.foldl occur r

@[simp] theorem after_nil (r : Runtime) : r.after [] = r := rfl

@[simp] theorem after_cons (r : Runtime) (o : Occurrence) (os : List Occurrence) :
    r.after (o :: os) = (r.occur o).after os := rfl

/-- What the listener is told in a step. -/
def toldByEvent (r : Runtime) (e : Event) (now : Option Moment) (clock : Duration) :
    List Listener.Input :=
  match e with
  | .handle i =>
    match r.taken[i]? with
    | none => []
    | some m => toldByMessage m now
  | .flushStart =>
    match r.flushLoop with
    | .starting => if (r.flushTicker? clock).isSome then r.service.toldAtFlush now clock else []
    | _ => []
  | .flushTick =>
    match r.flushLoop with
    | .waiting t => if t.due ≤ clock then r.service.toldAtFlush now clock else []
    | _ => []
  | .flushAnswered =>
    match r.flushLoop with
    | .flushing _ => r.service.toldAtCompletion now clock
    | _ => []
  | _ => []

/-- What the listener is told in an occurrence. -/
def told (r : Runtime) (o : Occurrence) : List Listener.Input :=
  match o.what with
  | .event e => r.toldByEvent e o.now o.clock
  | .disturbance _ => []

/-- What the listener is told in a run, in order. -/
def toldIn (r : Runtime) : List Occurrence → List Listener.Input
  | [] => []
  | o :: os => r.told o ++ toldIn (r.occur o) os

end Runtime

/-! ### What a flush may still ask for -/

/-- How many calls a flush makes from a stage on, at most. -/
def FlushStage.callsLeft : FlushStage → Nat
  | .syncing _ => 2
  | .bumping | .revoking => 1

namespace Listener

/-- A listener on its way through a flush that does `es` and makes at most `calls` calls: either
the flush is over, or `es` is the call that it waits for. -/
inductive Pursuit (calls : Nat) (l : Listener) (es : List Effect) : Prop
  | finished (free : l.flush = none) (quiet : callsOf es = []) (ends : es.any Effect.isEnd = true)
  | asks {f : Flush} {c : StoreCall} (busy : l.flush = some f)
      (enough : f.stage.callsLeft ≤ calls) (only : es = [.call c])

theorem pursuit_beginFlush (l : Listener) (clock : Duration) (free : l.flush = none) :
    Pursuit Service.callsOfFlush (l.beginFlush clock).1 (l.beginFlush clock).2 := by
  have m := l.move_flush clock free
  generalize (l.beginFlush clock).1 = k, (l.beginFlush clock).2 = es at m
  cases m with
  | idle => exact .finished (by simp) (by simp) (by simp)
  | began => exact .asks rfl (Nat.le_refl _) rfl
  | flushIgnored busy => simp [free] at busy

theorem pursuit_answer {calls : Nat} {l : Listener} {f : Flush} (busy : l.flush = some f)
    (enough : f.stage.callsLeft ≤ calls + 1) (a : Answer) (now : Option Moment)
    (clock : Duration) :
    Pursuit calls (l.answer a now clock).1 (l.answer a now clock).2 := by
  have m := l.move_answer a now clock
  generalize (l.answer a now clock).1 = k, (l.answer a now clock).2 = es at m
  have fewer {g : Flush} {began : Duration} (same : l.flush = some g)
      (stage : g.stage = .syncing began) : 1 ≤ calls := by
    obtain rfl := Option.some.inj (busy.symm.trans same)
    simpa [stage, FlushStage.callsLeft] using enough
  cases m with
  | unasked free => simp [free] at busy
  | aborted => exact .finished rfl rfl rfl
  | inTime same stage => exact .asks rfl (fewer same stage) rfl
  | timeless => exact .finished rfl rfl rfl
  | tooLate => exact .finished (by simp) (by simp) (by simp)
  | refused same stage => exact .asks rfl (fewer same stage) rfl
  | bumped => exact .finished (by simp) (by simp) (by simp)
  | revoked => exact .finished (by simp) (by simp) (by simp)

theorem callsLeft_le (stage : FlushStage) : stage.callsLeft ≤ Service.callsOfFlush := by
  cases stage <;> simp [FlushStage.callsLeft, Service.callsOfFlush]

end Listener

namespace Service

/-! ### What the listener is told -/

/-- The service `k` has come from `s` by carrying out `es` and by telling its listener `is`. -/
structure Heard (s : Service) (es : List Effect) (is : List Listener.Input) (k : Service) :
    Prop where
  listener : k.listener = s.listener.after is
  totals : k.totals = s.totals ++
    (reportsOf (es ++ (s.listener.trace is).effects)).filter Metric.isTotal
  calls : s.backend.notesCalls = true → k.backend.notesCalls = true ∧
    k.backend.calls = s.backend.calls ++ callsOf (es ++ (s.listener.trace is).effects)

theorem Heard.nothing {s k : Service} (listener : k.listener = s.listener)
    (totals : k.totals = s.totals)
    (calls : s.backend.notesCalls = true →
      k.backend.notesCalls = true ∧ k.backend.calls = s.backend.calls) : Heard s [] [] k :=
  ⟨listener, by simp [totals], by simpa using calls⟩

theorem Heard.refl (s : Service) : Heard s [] [] s :=
  .nothing rfl rfl fun notes => ⟨notes, rfl⟩

theorem Heard.trans {s k m : Service} {es : List Effect} {is js : List Listener.Input}
    (first : Heard s es is k) (second : Heard k [] js m) : Heard s es (is ++ js) m := by
  have effects : (s.listener.trace (is ++ js)).effects =
      (s.listener.trace is).effects ++ (k.listener.trace js).effects := by
    rw [Listener.trace_append, Listener.Trace.effects_append, first.listener]
  constructor
  · rw [second.listener, first.listener, Listener.after_append]
  · rw [second.totals, first.totals, effects]
    simp
  · intro notes
    obtain ⟨noting, before⟩ := first.calls notes
    obtain ⟨still, later⟩ := second.calls noting
    rw [later, before, effects]
    exact ⟨still, by simp⟩

/-- The listener of `s` is told `i`, and `k` goes on from what it does about it. -/
theorem Heard.cons {s k m : Service} {before es : List Effect} {i : Listener.Input}
    {is : List Listener.Input} (rest : Heard k es is m)
    (step : s.listener.step i = (k.listener, es)) (totals : k.totals = s.totals)
    (silent : reportsOf before = [])
    (calls : s.backend.notesCalls = true → k.backend.notesCalls = true ∧
      k.backend.calls = s.backend.calls ++ callsOf before) : Heard s before (i :: is) m := by
  constructor
  · simpa [Listener.after, step] using rest.listener
  · simp [rest.totals, totals, silent, step]
  · intro notes
    obtain ⟨noting, made⟩ := calls notes
    obtain ⟨still, later⟩ := rest.calls noting
    exact ⟨still, by simp [later, made, step]⟩

theorem totals_carryOut (s : Service) (es : List Effect) :
    (s.carryOut es).1.totals = s.totals ++ (reportsOf es).filter Metric.isTotal := by
  induction es generalizing s with
  | nil => simp [carryOut, reportsOf]
  | cons e es ih =>
    cases e with
    | report m =>
      have one : (s.report m).totals = s.totals ++ [m].filter Metric.isTotal := by
        simp [totals, report]
      show ((s.report m).carryOut es).1.totals = _
      rw [ih, one, List.append_assoc, ← List.filter_append]
      rfl
    | call c => exact ih s
    | finished o => exact ih s
    | broken => exact ih s

/-- A flush has come to rest: it waits for its store, or it is over. -/
structure Rests (s : Service) (e : Option FlushEnd) : Prop where
  flush : s.listener.flush.isSome = e.isNone
  inFlight : s.inFlight.isSome = e.isNone

theorem isSome_end {es : List Effect} (ends : es.any Effect.isEnd = true) :
    ((es.filterMap Effect.end?).head?).isSome = true := by
  induction es with
  | nil => simp at ends
  | cons e es ih =>
    cases e with
    | finished o => rfl
    | broken => rfl
    | call c => exact ih (by simpa [Effect.isEnd] using ends)
    | report m => exact ih (by simpa [Effect.isEnd] using ends)

theorem proceed_over (calls : Nat) (s : Service) {es : List Effect} (free : s.listener.flush = none)
    (idle : s.inFlight = none) (quiet : callsOf es = []) (ends : es.any Effect.isEnd = true)
    (now : Option Moment) (clock : Duration) :
    Rests (proceed calls s es now clock).1 (proceed calls s es now clock).2 ∧
      Heard s es (answersAtOnce calls s es now clock) (proceed calls s es now clock).1 := by
  obtain ⟨seen, listener, backend, inFlight⟩ := s.carryOut_spec es
  have none_ : (s.carryOut es).2.1 = none := by simp [seen, quiet]
  have silent : answersAtOnce calls s es now clock = [] := by
    cases calls with
    | zero => rfl
    | succ calls => simp [answersAtOnce, none_]
  rw [proceed_of_no_call calls s quiet, silent]
  refine ⟨?_, ?_⟩
  · obtain ⟨e, he⟩ := Option.isSome_iff_exists.1 (isSome_end ends)
    rw [he]
    exact ⟨by simp [listener, free], by simp [inFlight, idle]⟩
  · exact ⟨listener, by simp [totals_carryOut], by simp [backend, quiet]⟩

/-- A flush goes on from effects until it rests, and its listener hears all answers on the way. -/
theorem proceed_spec (calls : Nat) (s : Service) (es : List Effect) (idle : s.inFlight = none)
    (pursuit : Listener.Pursuit calls s.listener es) (now : Option Moment) (clock : Duration) :
    Rests (proceed calls s es now clock).1 (proceed calls s es now clock).2 ∧
      Heard s es (answersAtOnce calls s es now clock) (proceed calls s es now clock).1 := by
  induction calls generalizing s es with
  | zero =>
    cases pursuit with
    | finished free quiet ends => exact proceed_over 0 s free idle quiet ends now clock
    | @asks f c busy enough only =>
      cases stage : f.stage <;> simp [stage, FlushStage.callsLeft] at enough
  | succ calls ih =>
    cases pursuit with
    | finished free quiet ends => exact proceed_over (calls + 1) s free idle quiet ends now clock
    | @asks f c busy enough only =>
      subst only
      have noted := s.backend.notesCalls_begin c now clock
      simp only [proceed, answersAtOnce, carryOut]
      cases begun : s.backend.begin c now clock with
      | mk b state =>
        rw [begun] at noted
        cases state with
        | inFlight w => exact ⟨⟨by simp [busy], rfl⟩, rfl, by simp [totals], by simpa using noted⟩
        | answered a =>
          obtain ⟨rests, heard⟩ := ih
            { s with backend := b, listener := (s.listener.answer a now clock).1 }
            (s.listener.answer a now clock).2 idle
            (Listener.pursuit_answer busy enough a now clock)
          exact ⟨rests, heard.cons rfl rfl rfl noted⟩

theorem beginFlush_spec (s : Service) (free : s.listener.flush = none) (idle : s.inFlight = none)
    (now : Option Moment) (clock : Duration) :
    Rests (s.beginFlush now clock).1 (s.beginFlush now clock).2 ∧
      Heard s [] (s.toldAtFlush now clock) (s.beginFlush now clock).1 := by
  obtain ⟨rests, heard⟩ := proceed_spec callsOfFlush
    { s with listener := (s.listener.beginFlush clock).1 } (s.listener.beginFlush clock).2 idle
    (s.listener.pursuit_beginFlush clock free) now clock
  have first : s.listener.step (.flush clock) = s.listener.beginFlush clock := by
    simp [Listener.step, free]
  exact ⟨rests, heard.cons first rfl rfl (by simp)⟩

theorem completeFlush_spec (s : Service) {f : Flush} (busy : s.listener.flush = some f)
    {c : InFlight} (waiting : s.inFlight = some c) (now : Option Moment) (clock : Duration) :
    Rests (s.completeFlush now clock).1 (s.completeFlush now clock).2 ∧
      Heard s [] (s.toldAtCompletion now clock) (s.completeFlush now clock).1 := by
  have noted := s.backend.notesCalls_complete c clock
  simp only [completeFlush, toldAtCompletion, waiting]
  cases completed : s.backend.complete c clock with
  | mk b a =>
    rw [completed] at noted
    have enough : f.stage.callsLeft ≤ callsOfFlush + 1 :=
      Nat.le_succ_of_le (Listener.callsLeft_le _)
    obtain ⟨rests, heard⟩ := proceed_spec callsOfFlush
      { s with backend := b, inFlight := none, listener := (s.listener.answer a now clock).1 }
      (s.listener.answer a now clock).2 rfl (Listener.pursuit_answer busy enough a now clock)
      now clock
    exact ⟨rests, heard.cons rfl rfl rfl (by simpa using noted)⟩

/-- What a message leaves alone. -/
structure LeftAlone (s k : Service) : Prop where
  flush : k.listener.flush = s.listener.flush
  inFlight : k.inFlight.isSome = s.inFlight.isSome
  reports : k.reports = s.reports
  gauges : k.gauges = s.gauges
  tracker : k.tracker = s.tracker
  trackerCalls : k.trackerCalls = s.trackerCalls

theorem LeftAlone.refl (s : Service) : LeftAlone s s := ⟨rfl, rfl, rfl, rfl, rfl, rfl⟩

theorem leftAlone_heartbeat (s : Service) (payload : List UInt8) (now : Option Moment) :
    LeftAlone s (s.heartbeat payload now).1 ∧
      Heard s [] (toldByMessage (.heartbeat, payload) now) (s.heartbeat payload now).1 := by
  cases now with
  | some wall =>
    have same : (s.listener.handleHeartbeat payload wall).1.flush = s.listener.flush := by
      unfold Listener.handleHeartbeat
      split <;> rfl
    have heard : Heard (s.heartbeat payload (some wall)).1 [] []
        (s.heartbeat payload (some wall)).1 := .refl _
    exact ⟨⟨same, rfl, rfl, rfl, rfl, rfl⟩,
      heard.cons rfl rfl rfl fun notes => ⟨notes, by simp [heartbeat]⟩⟩
  | none =>
    have same : (s.heartbeat payload none).1 = s := by
      simp only [heartbeat]
      split <;> rfl
    rw [same]
    exact ⟨.refl s, .refl s⟩

/-- A call that is waited for leaves all but the store alone. -/
theorem perform_leaves (s : Service) (c : StoreCall) (now : Option Moment) (clock : Duration) :
    (∃ b, (s.perform c now clock).1 = { s with backend := b }) ∧
      (s.backend.notesCalls = true → (s.perform c now clock).1.backend.notesCalls = true ∧
        (s.perform c now clock).1.backend.calls = s.backend.calls ++ [c]) := by
  have noted := s.backend.notesCalls_begin c now clock
  simp only [perform]
  cases begun : s.backend.begin c now clock with
  | mk b state =>
    rw [begun] at noted
    cases state with
    | answered a => exact ⟨⟨b, rfl⟩, noted⟩
    | inFlight w =>
      refine ⟨⟨_, rfl⟩, fun notes => ?_⟩
      obtain ⟨noting, before⟩ := noted notes
      obtain ⟨still, later⟩ := b.notesCalls_complete w clock noting
      exact ⟨still, later.trans before⟩

/-- A bump leaves all but the store alone, and the call under way if it has to wait for that. -/
theorem renew_leaves (s : Service) (at_ : Moment) (clock : Duration) :
    (∃ b c, (s.renew at_ clock).1 = { s with backend := b, inFlight := c } ∧
      c.isSome = s.inFlight.isSome) ∧
      (s.backend.notesCalls = true → (s.renew at_ clock).1.backend.notesCalls = true ∧
        (s.renew at_ clock).1.backend.calls = s.backend.calls ++ [.bump at_]) := by
  unfold renew
  cases waits : s.backend.enqueue? s.inFlight at_ with
  | some c =>
    refine ⟨⟨s.backend, some c, rfl, ?_⟩, fun notes => ?_⟩
    · rw [Backend.isSome_of_enqueue? waits]
      rfl
    · simp [s.backend.enqueue?_of_notesCalls _ _ notes] at waits
  | none =>
    obtain ⟨⟨b, alone⟩, noted⟩ := s.perform_leaves (.bump at_) none clock
    exact ⟨⟨b, s.inFlight, alone, rfl⟩, noted⟩

theorem leftAlone_advertise (s : Service) (payload : List UInt8) (now : Option Moment)
    (clock : Duration) :
    LeftAlone s (s.advertise now clock).1 ∧
      Heard s [] (toldByMessage (.advertise, payload) now) (s.advertise now clock).1 := by
  cases now with
  | none => exact ⟨.refl s, .refl s⟩
  | some wall =>
    rw [advertise_eq]
    cases silent : s.listener.isSilent wall with
    | false =>
      have quiet : s.listener.step (.advertise wall wall) = (s.listener, []) := by
        simp [Listener.step, Listener.handleAdvertise, silent]
      have heard : Heard s [] [] s := .refl _
      exact ⟨⟨rfl, rfl, rfl, rfl, rfl, rfl⟩, heard.cons quiet rfl rfl (by simp)⟩
    | true =>
      obtain ⟨⟨b, c, alone, same⟩, noted⟩ := s.renew_leaves wall clock
      simp only [if_true]
      rw [alone] at noted ⊢
      refine ⟨⟨rfl, same, rfl, rfl, rfl, rfl⟩, ?_, ?_, ?_⟩
      · rfl
      · simp [totals, toldByMessage, Listener.step, Listener.handleAdvertise, silent]
      · simpa [toldByMessage, Listener.step, Listener.handleAdvertise, silent] using noted

theorem leftAlone_handle (s : Service) (m : MessageKind × List UInt8) (now : Option Moment)
    (clock : Duration) :
    LeftAlone s (Runtime.handle s m now clock) ∧
      Heard s [] (toldByMessage m now) (Runtime.handle s m now clock) := by
  obtain ⟨kind, payload⟩ := m
  cases kind with
  | advertise => exact s.leftAlone_advertise payload now clock
  | heartbeat => exact s.leftAlone_heartbeat payload now

theorem heard_startUsage (s : Service) (clock : Duration) :
    (s.startUsage clock).inFlight = s.inFlight ∧ Heard s [] [] (s.startUsage clock) := by
  unfold startUsage
  cases s.tracker with
  | none => exact ⟨rfl, .refl _⟩
  | some t =>
    refine ⟨rfl, .nothing rfl rfl fun notes => ?_⟩
    cases b : s.backend with
    | file f d => simp [b, Backend.notesCalls] at notes
    | scripted c => cases t <;> exact ⟨rfl, rfl⟩

theorem heard_measureUsage (s : Service) (clock : Duration) :
    (s.measureUsage clock).inFlight = s.inFlight ∧ Heard s [] [] (s.measureUsage clock) := by
  unfold measureUsage
  cases s.tracker with
  | none => exact ⟨rfl, .refl _⟩
  | some t =>
    have same := t.measure_of_notesCalls s.backend clock
    cases measured : t.measure s.backend clock with
    | mk u rest =>
      obtain ⟨b, x⟩ := rest
      simp only [measured] at same ⊢
      have calls (notes : s.backend.notesCalls = true) :
          b.notesCalls = true ∧ b.calls = s.backend.calls := by
        rw [same notes]
        exact ⟨notes, rfl⟩
      cases x with
      | none => exact ⟨rfl, .nothing rfl rfl calls⟩
      | some x => exact ⟨rfl, .nothing rfl (by simp [totals, report, Metric.isTotal]) calls⟩

end Service

/-- Whether the listener is told of a message. -/
def Listener.Input.isMessage : Listener.Input → Bool
  | .heartbeat _ _ | .advertise _ _ => true
  | _ => false

theorem isMessage_of_mem_toldByMessage {m : MessageKind × List UInt8} {now : Option Moment}
    {i : Listener.Input} (told : i ∈ toldByMessage m now) : i.isMessage = true := by
  obtain ⟨kind, payload⟩ := m
  cases now with
  | none => cases kind <;> simp [toldByMessage] at told
  | some wall =>
    cases kind <;>
    · simp only [toldByMessage, List.mem_singleton] at told
      subst told
      rfl

/-- Whether a flush is under way. -/
def FlushLoop.isFlushing : FlushLoop → Bool
  | .flushing _ => true
  | _ => false

namespace Runtime

@[simp] theorem isFlushing_afterFlush (t : Ticker) (e : Option FlushEnd) :
    (afterFlush t e).isFlushing = e.isNone := by
  rcases e with - | - | - <;> rfl

/-! ### What an occurrence does to the flush loop -/

/-- The runtime `q` has come from `r` beside the flush loop, and the listener was told `is`. -/
structure Beside (r : Runtime) (is : List Listener.Input) (q : Runtime) : Prop where
  loop : q.flushLoop = r.flushLoop
  flush : q.service.listener.flush = r.service.listener.flush
  inFlight : q.service.inFlight.isSome = r.service.inFlight.isSome
  messages : ∀ i ∈ is, i.isMessage = true
  heard : r.service.Heard [] is q.service

theorem Beside.sameService {r q : Runtime} (loop : q.flushLoop = r.flushLoop)
    (service : q.service = r.service) : Beside r [] q :=
  ⟨loop, by rw [service], by rw [service], by simp, service ▸ .refl _⟩

theorem Beside.sampled {r q : Runtime} (loop : q.flushLoop = r.flushLoop)
    (inFlight : q.service.inFlight = r.service.inFlight) (heard : r.service.Heard [] [] q.service) :
    Beside r [] q :=
  ⟨loop, congrArg Listener.flush heard.listener, by rw [inFlight], by simp, heard⟩

theorem beside_startUsageLoop (r : Runtime) (ticker : Option Ticker) (clock : Duration) :
    Beside r [] (r.startUsageLoop ticker clock) := by
  obtain ⟨started, heard⟩ := r.service.heard_startUsage clock
  cases ticker with
  | none => exact .sampled rfl started heard
  | some t =>
    obtain ⟨measured, later⟩ := (r.service.startUsage clock).heard_measureUsage clock
    exact .sampled rfl (measured.trans started) (heard.trans later)

/-- The flush loop begins a round in an occurrence, after which it waits for a tick of `t`. -/
inductive Fires (r : Runtime) (o : Occurrence) : Ticker → Prop
  | first {t : Ticker} (starting : r.flushLoop = .starting) (what : o.what = .event .flushStart)
      (ticker : r.flushTicker? o.clock = some t) : Fires r o t
  | tick {t : Ticker} (waiting : r.flushLoop = .waiting t) (due : t.due ≤ o.clock) :
      Fires r o (t.fired o.clock)

/-- What an occurrence does to the flush loop, and what the listener is told in it. -/
inductive FlushMove (r : Runtime) (o : Occurrence) : List Listener.Input → Runtime → Prop
  | beside {is : List Listener.Input} {q : Runtime} (aside : Beside r is q) : FlushMove r o is q
  | refused {q : Runtime} (starting : r.flushLoop = .starting)
      (what : o.what = .event .flushStart) (ticker : r.flushTicker? o.clock = none)
      (service : q.service = r.service) (loop : q.flushLoop = .ended) : FlushMove r o [] q
  | began {q : Runtime} {t : Ticker} (fires : Fires r o t)
      (service : q.service = (r.service.beginFlush o.now o.clock).1)
      (loop : q.flushLoop = afterFlush t (r.service.beginFlush o.now o.clock).2) :
      FlushMove r o (r.service.toldAtFlush o.now o.clock) q
  | answered {q : Runtime} {t : Ticker} (flushing : r.flushLoop = .flushing t)
      (service : q.service = (r.service.completeFlush o.now o.clock).1)
      (loop : q.flushLoop = afterFlush t (r.service.completeFlush o.now o.clock).2) :
      FlushMove r o (r.service.toldAtCompletion o.now o.clock) q
  | ended {q : Runtime} {t : Ticker} (waiting : r.flushLoop = .waiting t)
      (stopping : r.stopping = true) (service : q.service = r.service)
      (loop : q.flushLoop = .ended) : FlushMove r o [] q

@[simp] theorem flushLoop_setPump (r : Runtime) (k : MessageKind) (p : Pump) :
    (r.setPump k p).flushLoop = r.flushLoop := by cases k <;> rfl

@[simp] theorem service_setPump (r : Runtime) (k : MessageKind) (p : Pump) :
    (r.setPump k p).service = r.service := by cases k <;> rfl

theorem pump_setPump (r : Runtime) (k j : MessageKind) (p : Pump) :
    (r.setPump k p).pump j = if j = k then p else r.pump j := by
  cases k <;> cases j <;> rfl

@[simp] theorem pump_beginFlush (r : Runtime) (t : Ticker) (now : Option Moment)
    (clock : Duration) : (r.beginFlush t now clock).pump = r.pump := by
  -- The flush itself must not be unfolded: only the record around it matters.
  simp only [beginFlush]
  generalize r.service.beginFlush now clock = begun
  rfl

@[simp] theorem pump_startFlushLoop (r : Runtime) (ticker : Option Ticker) (now : Option Moment)
    (clock : Duration) : (r.startFlushLoop ticker now clock).pump = r.pump := by
  cases ticker with
  | none => rfl
  | some t => exact r.pump_beginFlush t now clock

@[simp] theorem pump_startUsageLoop (r : Runtime) (ticker : Option Ticker) (clock : Duration) :
    (r.startUsageLoop ticker clock).pump = r.pump := by
  cases ticker <;> rfl

/-- A message gets to the pumps that are subscribed to its topic. -/
theorem step_arrive (r : Runtime) (topic : String) (payload : List UInt8) (now : Option Moment)
    (clock : Duration) :
    r.step (.arrive topic payload) now clock =
      if r.busClosed then r
      else { r with
        advertisements :=
          if topic = r.topic .advertise then r.advertisements.push payload else r.advertisements
        heartbeats :=
          if topic = r.topic .heartbeat then r.heartbeats.push payload else r.heartbeats } := by
  simp only [step]
  split
  · rfl
  · by_cases first : topic = r.topic .advertise
    · rw [if_pos first, if_pos first]
      by_cases second : topic = r.topic .heartbeat
      · rw [if_pos second]
        exact if_pos second
      · rw [if_neg second]
        exact if_neg second
    · rw [if_neg first, if_neg first]
      by_cases second : topic = r.topic .heartbeat
      · rw [if_pos second, if_pos second]
        rfl
      · rw [if_neg second, if_neg second]

theorem step_spec (r : Runtime) (e : Event) (now : Option Moment) (clock : Duration) :
    FlushMove r ⟨.event e, now, clock⟩ (r.toldByEvent e now clock) (r.step e now clock) := by
  cases e with
  | arrive topic payload =>
    refine .beside (.sameService ?_ ?_)
    · rw [step_arrive]; split <;> rfl
    · rw [step_arrive]; split <;> rfl
  | take k =>
    refine .beside (.sameService ?_ ?_)
    · simp only [step]; split <;> simp
    · simp only [step]; split <;> simp
  | handle i =>
    simp only [toldByEvent, step]
    cases r.taken[i]? with
    | none => exact .beside (.sameService rfl rfl)
    | some m =>
      obtain ⟨alone, heard⟩ := r.service.leftAlone_handle m now clock
      exact .beside ⟨rfl, alone.flush, alone.inFlight,
        fun i told => isMessage_of_mem_toldByMessage told, heard⟩
  | flushStart =>
    simp only [toldByEvent, step]
    cases loop : r.flushLoop with
    | starting =>
      cases ticker : r.flushTicker? clock with
      | none => exact .refused loop rfl ticker rfl rfl
      | some t => exact .began (.first loop rfl ticker) rfl rfl
    | waiting t => exact .beside (.sameService rfl rfl)
    | flushing t => exact .beside (.sameService rfl rfl)
    | ended => exact .beside (.sameService rfl rfl)
  | flushTick =>
    simp only [toldByEvent, step]
    cases loop : r.flushLoop with
    | starting => exact .beside (.sameService rfl rfl)
    | waiting t =>
      by_cases due : t.due ≤ clock
      · simp only [due, if_true]
        exact .began (.tick loop due) rfl rfl
      · simp only [due, if_false]
        exact .beside (.sameService rfl rfl)
    | flushing t => exact .beside (.sameService rfl rfl)
    | ended => exact .beside (.sameService rfl rfl)
  | flushAnswered =>
    simp only [toldByEvent, step]
    cases loop : r.flushLoop with
    | starting => exact .beside (.sameService rfl rfl)
    | flushing t => exact .answered loop rfl rfl
    | waiting t => exact .beside (.sameService rfl rfl)
    | ended => exact .beside (.sameService rfl rfl)
  | usageStart =>
    simp only [toldByEvent, step]
    cases r.usageLoop with
    | starting => exact .beside (r.beside_startUsageLoop (r.usageTicker? clock) clock)
    | waiting t => exact .beside (.sameService rfl rfl)
    | ended => exact .beside (.sameService rfl rfl)
  | usageTick =>
    simp only [toldByEvent, step]
    cases loop : r.usageLoop with
    | starting => exact .beside (.sameService rfl rfl)
    | ended => exact .beside (.sameService rfl rfl)
    | waiting t =>
      by_cases due : t.due ≤ clock
      · simp only [due, if_true]
        obtain ⟨inFlight, heard⟩ := r.service.heard_measureUsage clock
        exact .beside (.sampled rfl inFlight heard)
      · simp only [due, if_false]
        exact .beside (.sameService rfl rfl)
  | stop => exact .beside (.sameService rfl rfl)
  | closeBus => exact .beside (.sameService rfl rfl)
  | endFlushLoop =>
    simp only [toldByEvent, step]
    cases loop : r.flushLoop with
    | waiting t =>
      cases stopping : r.stopping with
      | true => exact .ended loop stopping rfl rfl
      | false => exact .beside (.sameService rfl rfl)
    | starting => exact .beside (.sameService rfl rfl)
    | flushing t => exact .beside (.sameService rfl rfl)
    | ended => exact .beside (.sameService rfl rfl)
  | endUsageLoop =>
    refine .beside (.sameService ?_ ?_)
    · simp only [step]; split <;> rfl
    · simp only [step]; split <;> rfl
  | endPump k =>
    refine .beside (.sameService ?_ ?_)
    · simp only [step]; split <;> simp
    · simp only [step]; split <;> simp

theorem notesCalls_disturb (b : Backend) (x : Disturbance) :
    (b.disturb x).notesCalls = b.notesCalls ∧ (b.disturb x).calls = b.calls := by
  cases b <;> cases x <;> exact ⟨rfl, rfl⟩

theorem occur_spec (r : Runtime) (o : Occurrence) : FlushMove r o (r.told o) (r.occur o) := by
  obtain ⟨what, now, clock⟩ := o
  cases what with
  | event e => exact r.step_spec e now clock
  | disturbance x =>
    obtain ⟨notes, calls⟩ := notesCalls_disturb r.service.backend x
    exact .beside ⟨rfl, rfl, rfl, by simp [told],
      .nothing rfl rfl fun noting => ⟨notes.trans noting, calls⟩⟩

/-! ### The first round -/

/-- Only its own first step leaves a flush loop that has not run yet. -/
theorem beside_of_starting {r : Runtime} {o : Occurrence} (starting : r.flushLoop = .starting)
    (what : o.what ≠ .event .flushStart) : Beside r (r.told o) (r.occur o) := by
  have m := r.occur_spec o
  generalize r.told o = is, r.occur o = q at m
  cases m with
  | beside aside => exact aside
  | refused _ first => exact absurd first what
  | began fires =>
    cases fires with
    | first _ first => exact absurd first what
    | tick waiting => simp [starting] at waiting
  | answered flushing => simp [starting] at flushing
  | ended waiting => simp [starting] at waiting

theorem first_round {r : Runtime} {o : Occurrence} {t : Ticker}
    (starting : r.flushLoop = .starting) (what : o.what = .event .flushStart)
    (ticker : r.flushTicker? o.clock = some t) :
    r.told o = r.service.toldAtFlush o.now o.clock ∧
      (r.occur o).flushLoop = afterFlush t (r.service.beginFlush o.now o.clock).2 := by
  simp only [told, toldByEvent, occur, step, what, starting, ticker]
  exact ⟨rfl, rfl⟩

/-! ### Runs -/

/-- The flush loop and the listener agree on whether a flush is under way. -/
structure Coherent (r : Runtime) : Prop where
  flush : r.service.listener.flush.isSome = r.flushLoop.isFlushing
  inFlight : r.service.inFlight.isSome = r.flushLoop.isFlushing

theorem Coherent.free {r : Runtime} (h : Coherent r) (rests : r.flushLoop.isFlushing = false) :
    r.service.listener.flush = none ∧ r.service.inFlight = none := by
  have flush := h.flush
  have inFlight := h.inFlight
  rw [rests] at flush inFlight
  exact ⟨by simpa using flush, by simpa using inFlight⟩

theorem Coherent.busy {r : Runtime} {t : Ticker} (h : Coherent r)
    (flushing : r.flushLoop = .flushing t) :
    ∃ f c, r.service.listener.flush = some f ∧ r.service.inFlight = some c := by
  have busy := h.flush
  have waiting := h.inFlight
  rw [flushing] at busy waiting
  obtain ⟨f, busy⟩ := Option.isSome_iff_exists.1 busy
  obtain ⟨c, waiting⟩ := Option.isSome_iff_exists.1 waiting
  exact ⟨f, c, busy, waiting⟩

/-- A flush loop that is between two rounds ends. -/
theorem Coherent.of_ended {r q : Runtime} (h : Coherent r) (rests : r.flushLoop.isFlushing = false)
    (service : q.service = r.service) (loop : q.flushLoop = .ended) :
    Coherent q ∧ r.service.Heard [] [] q.service := by
  obtain ⟨free, idle⟩ := h.free rests
  rw [service]
  exact ⟨⟨by rw [service, loop, free]; rfl, by rw [service, loop, idle]; rfl⟩,
    .refl _⟩

/-- A flush loop agrees with a flush that has come to rest. -/
theorem Coherent.of_rests {q : Runtime} {s : Service} {t : Ticker} {e : Option FlushEnd}
    (rests : s.Rests e) (service : q.service = s) (loop : q.flushLoop = afterFlush t e) :
    Coherent q := by
  subst service
  exact ⟨by rw [loop, rests.flush, isFlushing_afterFlush],
    by rw [loop, rests.inFlight, isFlushing_afterFlush]⟩

theorem Fires.isFlushing {r : Runtime} {o : Occurrence} {t : Ticker} (fires : Fires r o t) :
    r.flushLoop.isFlushing = false := by
  cases fires with
  | first starting => rw [starting]; rfl
  | tick waiting => rw [waiting]; rfl

theorem FlushMove.next {r q : Runtime} {o : Occurrence} {is : List Listener.Input}
    (m : FlushMove r o is q) (h : Coherent r) : Coherent q ∧ r.service.Heard [] is q.service := by
  cases m with
  | beside aside =>
    exact ⟨⟨by rw [aside.flush, aside.loop, h.flush],
      by rw [aside.inFlight, aside.loop, h.inFlight]⟩, aside.heard⟩
  | refused starting what ticker service loop =>
    exact h.of_ended (by rw [starting]; rfl) service loop
  | began fires service loop =>
    obtain ⟨free, idle⟩ := h.free fires.isFlushing
    obtain ⟨rests, heard⟩ := r.service.beginFlush_spec free idle o.now o.clock
    exact ⟨.of_rests rests service loop, service ▸ heard⟩
  | answered flushing service loop =>
    obtain ⟨f, c, busy, waiting⟩ := h.busy flushing
    obtain ⟨rests, heard⟩ := r.service.completeFlush_spec busy waiting o.now o.clock
    exact ⟨.of_rests rests service loop, service ▸ heard⟩
  | ended waiting stopping service loop =>
    exact h.of_ended (by rw [waiting]; rfl) service loop

/-- In every run the listener has come to where what it was told leads, and its totals and calls
have been passed on. -/
theorem after_spec {r : Runtime} (h : Coherent r) (os : List Occurrence) :
    Coherent (r.after os) ∧ r.service.Heard [] (r.toldIn os) (r.after os).service := by
  induction os generalizing r with
  | nil => exact ⟨h, .refl _⟩
  | cons o os ih =>
    obtain ⟨coherent, heard⟩ := (r.occur_spec o).next h
    obtain ⟨still, later⟩ := ih coherent
    exact ⟨still, heard.trans later⟩

/-! ### The start -/

/-- A listener that has no flush under way can be started. -/
theorem coherent_start {s : Service} (free : s.listener.flush = none) (idle : s.inFlight = none) :
    Coherent (start s) :=
  ⟨congrArg Option.isSome free, congrArg Option.isSome idle⟩

/-- When a loop runs for the first time in a run, if it does. -/
def firstTime (e : Event) (os : List Occurrence) : Option Duration :=
  (os.find? fun o => o.what = .event e).map Occurrence.clock

theorem firstTime_cons_of_eq {e : Event} {o : Occurrence} (what : o.what = .event e)
    (os : List Occurrence) : firstTime e (o :: os) = some o.clock := by
  simp [firstTime, what]

theorem firstTime_cons_of_ne {e : Event} {o : Occurrence} (what : o.what ≠ .event e)
    (os : List Occurrence) : firstTime e (o :: os) = firstTime e os := by
  simp [firstTime, what]

end Runtime

end ActualState
