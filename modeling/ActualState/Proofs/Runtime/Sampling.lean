import ActualState.Proofs.Runtime.Cadence
import ActualState.Proofs.Runtime.Stop
import ActualState.Proofs.Store.Fraction
import ActualState.Proofs.Store.Workload

/-!
# The sampling of usage

The usage loop of a started listener, when it first runs, starts its tracker, takes a sample at
once and then one after every tick. A service keeps a log of what is asked of its tracker. In every
run this log grows by one start, before everything else, and by samples, which are taken one period
apart as long as no tick is late; and what is reported is what was measured, less the samples that
failed. A store in a file that was told to track is never caught without a window.
-/
namespace ActualState

open Time (Moment Duration Ticker)

/-- The fraction that a report of usage gives. -/
def Metric.usage? : Metric → Option Float
  | .usage x => some x
  | _ => none

/-- The sample that a call takes. -/
def TrackerCall.sample? : TrackerCall → Option Sample
  | .measured x => some x
  | .started _ => none

/-- The samples among calls, in order. -/
def samplesOf (calls : List TrackerCall) : List Sample := calls.filterMap TrackerCall.sample?

/-- Whether the clock may go on from `last` to `clock` without a late tick: a loop that waits does
not let it pass the instant at which its tick completes. -/
def UsageLoop.allows (loop : UsageLoop) (last clock : Duration) : Bool :=
  match loop with
  | .waiting t => clock ≤ t.completion last
  | .starting | .ended => true

namespace Service

/-- The fractions reported so far, in order. -/
def usages (s : Service) : List Float := s.reports.filterMap Metric.usage?

/-- What was sampled on the way from `s` to `k`, in order. -/
def samplesSince (s k : Service) : List Sample :=
  samplesOf (k.trackerCalls.drop s.trackerCalls.length)

end Service

theorem samplesOf_measured (xs : List Sample) : samplesOf (xs.map .measured) = xs := by
  induction xs with
  | nil => rfl
  | cons x xs ih => exact congrArg (x :: ·) ih

/-! ### What flushes and messages leave alone -/

/-- A store in a file that tracks its usage. -/
def Backend.isTracked : Backend → Bool
  | .file f _ => f.usage.started.isSome
  | .scripted _ => false

namespace Backend

/-- A store stays in a file, and goes on tracking its usage. -/
structure KeepsTracking (b b' : Backend) : Prop where
  file : b.notesCalls = false → b'.notesCalls = false
  tracks : b.isTracked = true → b'.isTracked = true

theorem KeepsTracking.refl (b : Backend) : b.KeepsTracking b := ⟨id, id⟩

theorem KeepsTracking.trans {a b c : Backend} (h : a.KeepsTracking b) (h' : b.KeepsTracking c) :
    a.KeepsTracking c := ⟨h'.file ∘ h.file, h'.tracks ∘ h.tracks⟩

theorem KeepsTracking.scripted (s : ScriptedStore) (b : Backend) :
    (Backend.scripted s).KeepsTracking b := ⟨nofun, nofun⟩

theorem keepsTracking_begin (b : Backend) (c : StoreCall) (now : Option Moment)
    (clock : Duration) : b.KeepsTracking (b.begin c now clock).1 := by
  cases b with
  | scripted s => exact .scripted s _
  | file f d =>
    simp only [begin]
    cases f.begin c now clock <;> exact .refl _

theorem keepsTracking_complete (b : Backend) (c : InFlight) (clock : Duration) :
    b.KeepsTracking (b.complete c clock).1 := by
  cases b with
  | scripted s => exact .scripted s _
  | file f d =>
    cases c with
    | sleeping batch until_ => exact .refl _
    | writing w bumps =>
      have written := f.started_complete w d clock
      have renewed :=
        (f.complete w d clock).1.renewed_bumpAll (f.complete w d clock).2.1 clock bumps
      refine ⟨fun _ => rfl, fun tracks => ?_⟩
      exact (congrArg Option.isSome (renewed.started.trans written)).trans tracks

theorem keepsTracking_disturb (b : Backend) (x : Disturbance) : b.KeepsTracking (b.disturb x) := by
  cases b with
  | scripted s => exact .scripted s _
  | file f d => cases x <;> exact ⟨fun _ => rfl, id⟩

end Backend

/-- The listener reports nothing but its totals. -/
theorem Listener.isTotal_reports_beginFlush (l : Listener) (clock : Duration) :
    ∀ m ∈ reportsOf (l.beginFlush clock).2, m.isTotal = true := by
  simp only [beginFlush]
  split
  · exact isTotal_reports_finish _ _ _
  · exact List.forall_mem_nil _

theorem Listener.config_beginFlush (l : Listener) (clock : Duration) :
    (l.beginFlush clock).1.config = l.config := by
  simp only [beginFlush]
  split
  · exact config_finish _ _ _
  · rfl

theorem Listener.isTotal_reports_answer (l : Listener) (a : Answer) (now : Option Moment)
    (clock : Duration) : ∀ m ∈ reportsOf (l.answer a now clock).2, m.isTotal = true := by
  have all := l.isTotal_reports [.answer a now clock]
  rwa [effects_trace_cons, effects_trace_nil, List.append_nil] at all

namespace Service

/-- The service `k` has come from `s`; on the way `xs` was sampled, and nothing else was asked of
the tracker. -/
structure Sampled (s : Service) (xs : List Sample) (k : Service) : Prop where
  config : k.listener.config = s.listener.config
  calls : k.trackerCalls = s.trackerCalls ++ xs.map .measured
  tracker : k.tracker.isSome = s.tracker.isSome
  usages : k.usages = s.usages ++ xs.filterMap Sample.result
  scripted : ∀ rs b, s.tracker = some (.scripted rs b) →
    k.tracker = some (.scripted (rs.drop xs.length) b) ∧
      xs.map Sample.result = (List.range xs.length).map fun i => rs.getD i none
  backend : s.backend.KeepsTracking k.backend
  stored : s.tracker = some .store → k.tracker = some .store ∧ (s.backend.isTracked = true →
    ∀ x ∈ xs, ∃ v, x.result = some v ∧
      (x.at_ < 2 ^ 64 * Time.second → 0.0 ≤ v ∧ v ≤ 1.0))

namespace Sampled

variable {s k m : Service} {xs ys : List Sample}

theorem nothing (config : k.listener.config = s.listener.config)
    (calls : k.trackerCalls = s.trackerCalls) (tracker : k.tracker = s.tracker)
    (usages : k.usages = s.usages) (backend : s.backend.KeepsTracking k.backend) :
    Sampled s [] k where
  config := config
  calls := by rw [calls, List.map_nil, List.append_nil]
  tracker := by rw [tracker]
  usages := by rw [usages, List.filterMap_nil, List.append_nil]
  scripted := fun rs b found => ⟨tracker.trans found, rfl⟩
  backend := backend
  stored := fun found => ⟨tracker.trans found, fun _ => nofun⟩

theorem refl (s : Service) : Sampled s [] s := .nothing rfl rfl rfl rfl (.refl _)

theorem trans (first : Sampled s xs k) (second : Sampled k ys m) : Sampled s (xs ++ ys) m where
  config := second.config.trans first.config
  calls := by rw [second.calls, first.calls, List.map_append, List.append_assoc]
  tracker := second.tracker.trans first.tracker
  usages := by rw [second.usages, first.usages, List.filterMap_append, List.append_assoc]
  scripted := by
    intro rs b found
    obtain ⟨found, results⟩ := first.scripted rs b found
    obtain ⟨found, later⟩ := second.scripted _ b found
    refine ⟨by rw [found, List.drop_drop, List.length_append], ?_⟩
    rw [List.map_append, results, later, List.length_append, List.range_add, List.map_append,
      List.map_map]
    congr 2
    funext i
    simp [List.getD_eq_getElem?_getD, List.getElem?_drop]
  backend := first.backend.trans second.backend
  stored := by
    intro found
    obtain ⟨found, early⟩ := first.stored found
    obtain ⟨found, late⟩ := second.stored found
    refine ⟨found, fun tracks x hx => ?_⟩
    rcases List.mem_append.1 hx with hx | hx
    · exact early tracks x hx
    · exact late (first.backend.tracks tracks) x hx

/-- What was sampled can be read off the log. -/
theorem samplesSince_eq (h : Sampled s xs k) : s.samplesSince k = xs := by
  rw [samplesSince, h.calls, List.drop_left, samplesOf_measured]

end Sampled

variable {s : Service}

theorem sampled_carryOut (s : Service) {es : List Effect}
    (totals : ∀ m ∈ reportsOf es, m.isTotal = true) : Sampled s [] (s.carryOut es).1 := by
  induction es generalizing s with
  | nil => exact .refl _
  | cons e es ih =>
    cases e with
    | report m =>
      obtain ⟨first, others⟩ := List.forall_mem_cons.1 (show ∀ n ∈ m :: reportsOf es, _ from totals)
      have one : Sampled s [] (s.report m) := by
        refine .nothing rfl rfl rfl ?_ (.refl _)
        cases m with
        | usage x => contradiction
        | received n => simp [usages, report, Metric.usage?]
        | saved n => simp [usages, report, Metric.usage?]
      exact one.trans (ih (s.report m) others)
    | call c => exact ih s totals
    | finished o => exact ih s totals
    | broken => exact ih s totals

/-- A flush takes no sample, however far it goes. -/
theorem sampled_proceed (calls : Nat) (s : Service) {es : List Effect}
    (totals : ∀ m ∈ reportsOf es, m.isTotal = true) (now : Option Moment) (clock : Duration) :
    Sampled s [] (proceed calls s es now clock).1 := by
  induction calls generalizing s es with
  | zero => exact s.sampled_carryOut totals
  | succ calls ih =>
    have carried := s.sampled_carryOut totals
    obtain ⟨-, -, backend, -⟩ := s.carryOut_spec es
    simp only [proceed]
    generalize s.carryOut es = out at carried backend
    obtain ⟨k, call, e⟩ := out
    cases call with
    | none => exact carried
    | some call =>
      have tracked := k.backend.keepsTracking_begin call now clock
      simp only [] at carried ⊢
      generalize k.backend.begin call now clock = begun at tracked
      obtain ⟨b, state⟩ := begun
      cases state with
      | inFlight c => exact carried.trans (.nothing rfl rfl rfl rfl tracked)
      | answered a =>
        have asked : Sampled k [] { k with
            backend := b, listener := (k.listener.answer a now clock).1 } :=
          .nothing (k.listener.move_answer a now clock).config rfl rfl rfl tracked
        exact (carried.trans asked).trans
          (ih _ (k.listener.isTotal_reports_answer a now clock))

theorem sampled_beginFlush (s : Service) (now : Option Moment) (clock : Duration) :
    Sampled s [] (s.beginFlush now clock).1 := by
  have told : Sampled s [] { s with listener := (s.listener.beginFlush clock).1 } :=
    .nothing (s.listener.config_beginFlush clock) rfl rfl rfl (.refl _)
  exact told.trans (sampled_proceed _ _ (s.listener.isTotal_reports_beginFlush clock) now clock)

theorem sampled_completeFlush (s : Service) (now : Option Moment) (clock : Duration) :
    Sampled s [] (s.completeFlush now clock).1 := by
  simp only [completeFlush]
  cases s.inFlight with
  | none => exact .refl _
  | some c =>
    have tracked := s.backend.keepsTracking_complete c clock
    simp only []
    generalize s.backend.complete c clock = completed at tracked
    obtain ⟨b, a⟩ := completed
    have told : Sampled s [] { s with
        backend := b, inFlight := none, listener := (s.listener.answer a now clock).1 } :=
      .nothing (s.listener.move_answer a now clock).config rfl rfl rfl tracked
    exact told.trans (sampled_proceed _ _ (s.listener.isTotal_reports_answer a now clock) now clock)

theorem keepsTracking_perform (s : Service) (c : StoreCall) (now : Option Moment)
    (clock : Duration) : s.backend.KeepsTracking (s.perform c now clock).1.backend := by
  have begun := s.backend.keepsTracking_begin c now clock
  simp only [perform]
  generalize s.backend.begin c now clock = call at begun
  obtain ⟨b, state⟩ := call
  cases state with
  | answered a => exact begun
  | inFlight w => exact begun.trans (b.keepsTracking_complete w clock)

theorem keepsTracking_renew (s : Service) (at_ : Moment) (clock : Duration) :
    s.backend.KeepsTracking (s.renew at_ clock).1.backend := by
  unfold renew
  split
  · exact .refl _
  · exact s.keepsTracking_perform (.bump at_) none clock

theorem sampled_heartbeat (s : Service) (payload : List UInt8) (now : Option Moment) :
    Sampled s [] (s.heartbeat payload now).1 := by
  cases now with
  | none =>
    have same : (s.heartbeat payload none).1 = s := by
      simp only [heartbeat]
      split <;> rfl
    rw [same]
    exact .refl _
  | some now =>
    exact .nothing (s.listener.move_heartbeat payload now).config rfl rfl rfl (.refl _)

theorem sampled_advertise (s : Service) (now : Option Moment) (clock : Duration) :
    Sampled s [] (s.advertise now clock).1 := by
  cases now with
  | none => exact .refl _
  | some wall =>
    rw [advertise_eq]
    split
    · have kept := s.keepsTracking_renew wall clock
      obtain ⟨⟨b, c, alone, -⟩, -⟩ := s.renew_leaves wall clock
      rw [alone] at kept ⊢
      exact .nothing rfl rfl rfl rfl kept
    · exact .refl _

/-- A message leads to no sample. -/
theorem sampled_handle (s : Service) (m : MessageKind × List UInt8) (now : Option Moment)
    (clock : Duration) : Sampled s [] (Runtime.handle s m now clock) := by
  obtain ⟨kind, payload⟩ := m
  cases kind with
  | heartbeat => exact s.sampled_heartbeat payload now
  | advertise => exact s.sampled_advertise now clock

theorem measureUsage_of_some {t : UsageTracker} (found : s.tracker = some t) (clock : Duration) :
    (s.measureUsage clock).tracker = some (t.measure s.backend clock).1 ∧
      (s.measureUsage clock).backend = (t.measure s.backend clock).2.1 ∧
      (s.measureUsage clock).usages = s.usages ++ (t.measure s.backend clock).2.2.toList ∧
      (s.measureUsage clock).trackerCalls =
        s.trackerCalls ++ [.measured ⟨clock, (t.measure s.backend clock).2.2⟩] := by
  unfold measureUsage
  rw [found]
  simp only []
  generalize t.measure s.backend clock = measured
  obtain ⟨t, b, x⟩ := measured
  cases x <;> simp [usages, report, Metric.usage?]

theorem keepsTracking_measure (t : UsageTracker) (b : Backend) (clock : Duration) :
    b.KeepsTracking (t.measure b clock).2.1 := by
  cases b with
  | scripted s => exact .scripted s _
  | file f d =>
    cases t with
    | scripted rs started => cases rs <;> exact .refl _
    | store =>
      refine ⟨fun _ => rfl, fun tracks => ?_⟩
      obtain ⟨o, window⟩ := Option.isSome_iff_exists.1
        (show f.usage.started.isSome = true from tracks)
      simp only [UsageTracker.measure, FileStore.measureUsage, UsageWindow.sample?, window,
        Option.map_some]
      rfl

/-- A sample of a store that tracks its usage does not fail. -/
theorem measure_store {b : Backend} (tracks : b.isTracked = true) (clock : Duration) :
    ∃ v, (UsageTracker.store.measure b clock).2.2 = some v ∧
      (clock < 2 ^ 64 * Time.second → 0.0 ≤ v ∧ v ≤ 1.0) := by
  cases b with
  | scripted s => contradiction
  | file f d =>
    obtain ⟨o, window⟩ := Option.isSome_iff_exists.1
      (show f.usage.started.isSome = true from tracks)
    simp only [UsageTracker.measure, FileStore.measureUsage, UsageWindow.sample?, window,
      Option.map_some]
    exact ⟨_, rfl, fun fits => fraction_bounds (Nat.lt_of_le_of_lt (Nat.sub_le clock o) fits)⟩

/-- A service whose tracker has just been started: that is in the log, the script of one given in
advance is the same, and a store in a file has a window. -/
structure Tracking (s : Service) (clock : Duration) (k : Service) : Prop where
  calls : k.trackerCalls = s.trackerCalls ++ [.started clock]
  isSome : k.tracker.isSome = true
  usages : k.usages = s.usages
  scripted : ∀ rs b, s.tracker = some (.scripted rs b) → k.tracker = some (.scripted rs true)
  stored : s.tracker = some .store → s.backend.notesCalls = false →
    k.tracker = some .store ∧ k.backend.isTracked = true

theorem tracking_startUsage {t : UsageTracker} (found : s.tracker = some t) (clock : Duration) :
    Tracking s clock (s.startUsage clock) := by
  unfold startUsage
  rw [found]
  refine ⟨rfl, rfl, rfl, fun rs b same => ?_, fun same file => ?_⟩
  · obtain rfl := Option.some.inj (found.symm.trans same)
    rfl
  · obtain rfl := Option.some.inj (found.symm.trans same)
    cases backend : s.backend with
    | scripted c => simp [backend, Backend.notesCalls] at file
    | file f d => exact ⟨rfl, rfl⟩

/-- The tracker may as well be started some while later. -/
theorem Sampled.tracking {k m : Service} {clock : Duration} (first : Sampled s [] k)
    (tracking : Tracking k clock m) : Tracking s clock m where
  calls := by rw [tracking.calls, first.calls, List.map_nil, List.append_nil]
  isSome := tracking.isSome
  usages := by rw [tracking.usages, first.usages, List.filterMap_nil, List.append_nil]
  scripted := fun rs b found => tracking.scripted rs b (first.scripted rs b found).1
  stored := fun found file => tracking.stored (first.stored found).1 (first.backend.file file)

/-- A sample is what the tracker says, and is reported unless it failed. -/
theorem sampled_measureUsage (tracked : s.tracker.isSome = true) (clock : Duration) :
    ∃ x, x.at_ = clock ∧ Sampled s [x] (s.measureUsage clock) := by
  obtain ⟨t, found⟩ := Option.isSome_iff_exists.1 tracked
  obtain ⟨tracker, backend, usages_, calls⟩ := measureUsage_of_some found clock
  refine ⟨⟨clock, (t.measure s.backend clock).2.2⟩, rfl,
    congrArg Listener.config (s.heard_measureUsage clock).2.listener, calls,
    by rw [tracker, found]; rfl, ?_, ?_, backend ▸ keepsTracking_measure _ _ _, ?_⟩
  · rw [usages_]
    cases (t.measure s.backend clock).2.2 <;> rfl
  · intro rs b same
    obtain rfl := Option.some.inj (found.symm.trans same)
    rw [tracker]
    cases rs <;> exact ⟨rfl, rfl⟩
  · intro same
    obtain rfl := Option.some.inj (found.symm.trans same)
    refine ⟨?_, fun tracks x hx => ?_⟩
    · rw [tracker]
      cases s.backend <;> rfl
    · obtain rfl := List.mem_singleton.1 hx
      exact measure_store tracks clock

end Service

namespace Runtime

/-! ### What an occurrence does to the usage loop -/

/-- What an occurrence does to the usage loop. -/
inductive UsageMove (r : Runtime) (o : Occurrence) : Runtime → Prop
  | beside {q : Runtime} (loop : q.usageLoop = r.usageLoop)
      (unsampled : r.service.Sampled [] q.service) : UsageMove r o q
  | refused {q : Runtime} (starting : r.usageLoop = .starting)
      (what : o.what = .event .usageStart) (ticker : r.usageTicker? o.clock = none)
      (loop : q.usageLoop = .ended) (service : q.service = r.service.startUsage o.clock) :
      UsageMove r o q
  | started {q : Runtime} {t : Ticker} (starting : r.usageLoop = .starting)
      (what : o.what = .event .usageStart) (ticker : r.usageTicker? o.clock = some t)
      (loop : q.usageLoop = .waiting t)
      (service : q.service = (r.service.startUsage o.clock).measureUsage o.clock) :
      UsageMove r o q
  | sampled {q : Runtime} {t : Ticker} (waiting : r.usageLoop = .waiting t) (due : t.due ≤ o.clock)
      (loop : q.usageLoop = .waiting (t.fired o.clock))
      (service : q.service = r.service.measureUsage o.clock) : UsageMove r o q
  | ended {q : Runtime} {t : Ticker} (waiting : r.usageLoop = .waiting t)
      (loop : q.usageLoop = .ended) (service : q.service = r.service) : UsageMove r o q

@[simp] theorem usageLoop_setPump (r : Runtime) (k : MessageKind) (p : Pump) :
    (r.setPump k p).usageLoop = r.usageLoop := by cases k <;> rfl

theorem UsageMove.same {r q : Runtime} {o : Occurrence} (loop : q.usageLoop = r.usageLoop)
    (service : q.service = r.service) : UsageMove r o q :=
  .beside loop (service ▸ .refl _)

theorem step_usage (r : Runtime) (e : Event) (now : Option Moment) (clock : Duration) :
    UsageMove r ⟨.event e, now, clock⟩ (r.step e now clock) := by
  cases e with
  | arrive topic payload =>
    refine .same ?_ ?_
    · rw [step_arrive]; split <;> rfl
    · rw [step_arrive]; split <;> rfl
  | take k =>
    refine .same ?_ ?_
    · simp only [step]; split <;> simp
    · simp only [step]; split <;> simp
  | handle i =>
    simp only [step]
    cases r.taken[i]? with
    | none => exact .same rfl rfl
    | some m => exact .beside rfl (r.service.sampled_handle m now clock)
  | flushStart =>
    simp only [step]
    cases r.flushLoop with
    | starting =>
      cases r.flushTicker? clock with
      | none => exact .same rfl rfl
      | some t => exact .beside rfl (r.service.sampled_beginFlush now clock)
    | waiting t => exact .same rfl rfl
    | flushing t => exact .same rfl rfl
    | ended => exact .same rfl rfl
  | flushTick =>
    simp only [step]
    cases r.flushLoop with
    | starting => exact .same rfl rfl
    | waiting t =>
      simp only []
      split
      · exact .beside rfl (r.service.sampled_beginFlush now clock)
      · exact .same rfl rfl
    | flushing t => exact .same rfl rfl
    | ended => exact .same rfl rfl
  | flushAnswered =>
    simp only [step]
    cases r.flushLoop with
    | starting => exact .same rfl rfl
    | flushing t => exact .beside rfl (r.service.sampled_completeFlush now clock)
    | waiting t => exact .same rfl rfl
    | ended => exact .same rfl rfl
  | usageStart =>
    simp only [step]
    cases loop : r.usageLoop with
    | starting =>
      cases ticker : r.usageTicker? clock with
      | none => exact .refused loop rfl ticker rfl rfl
      | some t => exact .started loop rfl ticker rfl rfl
    | waiting t => exact .same rfl rfl
    | ended => exact .same rfl rfl
  | usageTick =>
    simp only [step]
    cases loop : r.usageLoop with
    | starting => exact .same rfl rfl
    | ended => exact .same rfl rfl
    | waiting t =>
      by_cases due : t.due ≤ clock
      · simp only [due, if_true]
        exact .sampled loop due rfl rfl
      · simp only [due, if_false]
        exact .same rfl rfl
  | stop => exact .same rfl rfl
  | closeBus => exact .same rfl rfl
  | endFlushLoop =>
    refine .same ?_ ?_
    · simp only [step]; split <;> rfl
    · simp only [step]; split <;> rfl
  | endUsageLoop =>
    simp only [step]
    split
    · next waiting _ => exact .ended waiting rfl rfl
    · exact .same rfl rfl
  | endPump k =>
    refine .same ?_ ?_
    · simp only [step]; split <;> simp
    · simp only [step]; split <;> simp

theorem occur_usage (r : Runtime) (o : Occurrence) : UsageMove r o (r.occur o) := by
  obtain ⟨what, now, clock⟩ := o
  cases what with
  | event e => exact r.step_usage e now clock
  | disturbance x =>
    exact .beside rfl (.nothing rfl rfl rfl rfl (r.service.backend.keepsTracking_disturb x))

/-- Once its loop has ended, nothing is asked of the tracker. -/
theorem unsampled_of_ended {r : Runtime} (ended_ : r.usageLoop = .ended) (os : List Occurrence) :
    r.service.Sampled [] (r.after os).service ∧ (r.after os).usageLoop = .ended := by
  induction os generalizing r with
  | nil => exact ⟨.refl _, ended_⟩
  | cons o os ih =>
    cases r.occur_usage o with
    | beside loop unsampled =>
      obtain ⟨later, still⟩ := ih (loop.trans ended_)
      exact ⟨unsampled.trans later, still⟩
    | refused starting => simp [ended_] at starting
    | started starting => simp [ended_] at starting
    | sampled waiting => simp [ended_] at waiting
    | ended waiting => simp [ended_] at waiting

/-- Only its own first step leaves a usage loop that has not run yet. -/
theorem unsampled_of_starting {r : Runtime} {o : Occurrence} (starting : r.usageLoop = .starting)
    (what : o.what ≠ .event .usageStart) :
    r.service.Sampled [] (r.occur o).service ∧ (r.occur o).usageLoop = .starting := by
  cases r.occur_usage o with
  | beside loop unsampled => exact ⟨unsampled, loop.trans starting⟩
  | refused _ first => exact absurd first what
  | started _ first => exact absurd first what
  | sampled waiting => simp [starting] at waiting
  | ended waiting => simp [starting] at waiting

/-- A usage loop that has begun goes on to sample, and does not start its tracker again. -/
theorem sampled_after {r : Runtime} (running : r.usageLoop ≠ .starting)
    (tracked : r.service.tracker.isSome = true) (os : List Occurrence) :
    ∃ xs, r.service.Sampled xs (r.after os).service := by
  induction os generalizing r with
  | nil => exact ⟨[], .refl _⟩
  | cons o os ih =>
    have goOn {xs : List Sample} (first : r.service.Sampled xs (r.occur o).service)
        (still : (r.occur o).usageLoop ≠ .starting) :
        ∃ ys, r.service.Sampled ys (r.after (o :: os)).service := by
      obtain ⟨ys, later⟩ := ih still (first.tracker.trans tracked)
      exact ⟨xs ++ ys, first.trans later⟩
    cases r.occur_usage o with
    | beside loop unsampled => exact goOn unsampled (loop ▸ running)
    | refused starting => exact absurd starting running
    | started starting => exact absurd starting running
    | sampled waiting due loop service =>
      obtain ⟨x, -, one⟩ := Service.sampled_measureUsage tracked o.clock
      exact goOn (service ▸ one) (by simp [loop])
    | ended waiting loop service =>
      have unsampled : r.service.Sampled [] (r.occur o).service := by
        rw [service]
        exact .refl _
      exact goOn unsampled (by simp [loop])

/-! ### Beats -/

/-- Whether no tick of the usage loop is late in a run that goes on from `last`. -/
def isUsagePrompt (r : Runtime) (last : Duration) : List Occurrence → Bool
  | [] => true
  | o :: os => r.usageLoop.allows last o.clock && isUsagePrompt (r.occur o) o.clock os

/-- The ticker of a usage loop that is on the beat: its tick is the `n`th from `start` on, and it is
at most one period ahead. -/
structure OnUsageBeat (p start : Duration) (n : Nat) (last : Duration) (t : Ticker) : Prop where
  period : t.period = p
  due : t.due = start + n * p
  ahead : last ≤ t.due
  next : t.due ≤ last + p

/-- The clock may go on to a beat without leaving it. -/
theorem OnUsageBeat.later {p start last clock : Duration} {n : Nat} {t : Ticker}
    (h : OnUsageBeat p start n last t) (later : last ≤ clock) (notLate : clock ≤ t.due) :
    OnUsageBeat p start n clock t :=
  ⟨h.period, h.due, notLate, h.next.trans (Nat.add_le_add_right later p)⟩

/-- A tick that fires at its instant is followed by the next beat. -/
theorem OnUsageBeat.fired {p start last : Duration} {n : Nat} {t : Ticker}
    (h : OnUsageBeat p start n last t) : OnUsageBeat p start (n + 1) t.due (t.fired t.due) := by
  have fired : (t.fired t.due).due = t.due + p := by
    rw [Ticker.fired, if_pos (Nat.le_add_right _ _), h.period]
  refine ⟨h.period, ?_, ?_, Nat.le_of_eq fired⟩
  · rw [fired, h.due, Nat.add_assoc, ← Nat.succ_mul]
  · rw [fired]
    exact Nat.le_add_right _ _

/-- The beats from the `n`th on: the `n`th, and those from the next on. -/
theorem beat_cons_beats (p start n k : Nat) :
    (start + n * p) :: (List.range k).map (fun i => start + (n + 1 + i) * p) =
      (List.range (k + 1)).map fun i => start + (n + i) * p := by
  rw [List.range_succ_eq_map, List.map_cons, List.map_map]
  refine congrArg (_ :: ·) (List.map_congr_left fun i _ => ?_)
  show start + (n + 1 + i) * p = start + (n + (i + 1)) * p
  rw [Nat.add_assoc, Nat.add_comm 1]

/-- How many periods have passed between two beats. -/
theorem beats_until {start last p n : Nat} (before : last < start + (n + 1) * p)
    (within : start + (n + 1) * p ≤ last + p) : (last - start) / p = n := by
  rw [Nat.succ_mul] at before within
  refine Nat.div_eq_of_lt_le (by omega) ?_
  rw [Nat.succ_mul]
  omega

theorem OnUsageBeat.count {p start last : Duration} {n : Nat} {t : Ticker}
    (h : OnUsageBeat p start (n + 1) last t) (before : last < t.due) : (last - start) / p = n :=
  beats_until (h.due ▸ before) (h.due ▸ h.next)

/-- Samples that are taken while no tick is late are on the beat, and none is left out. -/
theorem onUsageBeat_after {p start last : Duration} {n : Nat} {r : Runtime} {t : Ticker}
    (waiting : r.usageLoop = .waiting t) (beat : OnUsageBeat p start n last t)
    (tracked : r.service.tracker.isSome = true) {os : List Occurrence}
    (forward : (last :: os.map Occurrence.clock).IsChain (· ≤ ·))
    (prompt : isUsagePrompt r last os = true) (goesOn : (r.after os).usageLoop ≠ .ended) :
    ∃ xs, r.service.Sampled xs (r.after os).service ∧
      xs.map Sample.at_ = (List.range xs.length).map (fun i => start + (n + i) * p) ∧
      ∃ u, (r.after os).usageLoop = .waiting u ∧
        OnUsageBeat p start (n + xs.length) (clockAfter last os) u := by
  induction os generalizing r n last t with
  | nil => exact ⟨[], .refl _, rfl, t, waiting, beat⟩
  | cons o os ih =>
    rw [List.map_cons, List.isChain_cons_cons] at forward
    obtain ⟨later, forward⟩ := forward
    rw [isUsagePrompt, Bool.and_eq_true, waiting] at prompt
    obtain ⟨inTime, prompt⟩ := prompt
    have notLate : o.clock ≤ t.due :=
      (of_decide_eq_true inTime).trans (Nat.max_le.2 ⟨beat.ahead, Nat.le_refl _⟩)
    cases r.occur_usage o with
    | beside loop unsampled =>
      obtain ⟨xs, rest, beats⟩ := ih (loop.trans waiting) (beat.later later notLate)
        (unsampled.tracker.trans tracked) forward prompt goesOn
      exact ⟨xs, unsampled.trans rest, beats⟩
    | refused starting => simp [waiting] at starting
    | started starting => simp [waiting] at starting
    | @sampled u waiting' due loop service =>
      obtain rfl : u = t := UsageLoop.waiting.inj (waiting'.symm.trans waiting)
      have now : o.clock = u.due := Nat.le_antisymm notLate due
      have next : OnUsageBeat p start (n + 1) o.clock (u.fired o.clock) := now ▸ beat.fired
      obtain ⟨x, at_, one⟩ := Service.sampled_measureUsage tracked o.clock
      rw [← service] at one
      obtain ⟨ys, rest, times, v, loop, later⟩ :=
        ih loop next (one.tracker.trans tracked) forward prompt goesOn
      refine ⟨x :: ys, one.trans rest, ?_, v, loop, ?_⟩
      · rw [List.map_cons, times, at_, now, beat.due, beat_cons_beats, List.length_cons]
      · rwa [List.length_cons, Nat.add_comm ys.length, ← Nat.add_assoc]
    | ended waiting' loop service => exact absurd (unsampled_of_ended loop os).2 goesOn

/-! ### The first round -/

/-- The usage loop runs for the first time: it starts its tracker and takes a sample. -/
theorem first_sample {r : Runtime} {o : Occurrence} (starting : r.usageLoop = .starting)
    (tracked : r.service.tracker.isSome = true)
    (positive : 0 < r.service.listener.config.storeUsageSampleInterval)
    (what : o.what = .event .usageStart) :
    let p := r.service.listener.config.storeUsageSampleInterval
    ∃ k x t, r.service.Tracking o.clock k ∧ k.Sampled [x] (r.occur o).service ∧ x.at_ = o.clock ∧
      (r.occur o).usageLoop = .waiting t ∧ OnUsageBeat p o.clock 1 o.clock t := by
  intro p
  obtain ⟨t, ticker, period, due⟩ :
      ∃ t, r.usageTicker? o.clock = some t ∧ t.period = p ∧ t.due = o.clock + p :=
    ⟨⟨usageTicker, p, o.clock + p⟩, if_neg (Nat.ne_of_gt positive), rfl, rfl⟩
  obtain ⟨found, has⟩ := Option.isSome_iff_exists.1 tracked
  have tracking := Service.tracking_startUsage has o.clock
  obtain ⟨x, at_, one⟩ := Service.sampled_measureUsage tracking.isSome o.clock
  have next : r.occur o = r.startUsageLoop (some t) o.clock := by
    simp only [occur, what, step, starting, ticker]
  rw [next]
  refine ⟨_, x, t, tracking, one, at_, rfl, period, ?_, ?_, ?_⟩
  · rw [due, Nat.one_mul]
  · exact due ▸ Nat.le_add_right _ _
  · exact Nat.le_of_eq due

/-- Until the usage loop runs for the first time nothing is asked of its tracker; then that is
started once, and from then on samples are taken, on the beat as long as the loop goes on and no
tick is late. -/
theorem sampled_run {r : Runtime} (starting : r.usageLoop = .starting)
    (tracked : r.service.tracker.isSome = true)
    (positive : 0 < r.service.listener.config.storeUsageSampleInterval) (last : Duration)
    (os : List Occurrence) :
    let p := r.service.listener.config.storeUsageSampleInterval
    (firstTime .usageStart os = none ∧ r.service.Sampled [] (r.after os).service) ∨
      ∃ begin_ k x xs, firstTime .usageStart os = some begin_ ∧ r.service.Tracking begin_ k ∧
        k.Sampled (x :: xs) (r.after os).service ∧ x.at_ = begin_ ∧
        ((last :: os.map Occurrence.clock).IsChain (· ≤ ·) → isUsagePrompt r last os = true →
          (r.after os).usageLoop ≠ .ended →
          (x :: xs).map Sample.at_ = (List.range (xs.length + 1)).map (fun i => begin_ + i * p) ∧
            ∃ t, (r.after os).usageLoop = .waiting t ∧
              OnUsageBeat p begin_ (xs.length + 1) (clockAfter last os) t) := by
  intro p
  induction os generalizing r last with
  | nil => exact .inl ⟨rfl, .refl _⟩
  | cons o os ih =>
    by_cases what : o.what = .event .usageStart
    · obtain ⟨k, x, t, tracking, one, at_, loop, beat⟩ :=
        first_sample starting tracked positive what
      have still : (r.occur o).service.tracker.isSome = true := one.tracker.trans tracking.isSome
      obtain ⟨xs, rest⟩ := sampled_after (by simp [loop]) still os
      refine .inr ⟨o.clock, k, x, xs, firstTime_cons_of_eq what os, tracking, one.trans rest, at_,
        fun forward prompt goesOn => ?_⟩
      rw [List.map_cons, List.isChain_cons_cons] at forward
      rw [isUsagePrompt, Bool.and_eq_true] at prompt
      obtain ⟨ys, same, times, u, later, onBeat⟩ :=
        onUsageBeat_after loop beat still forward.2 prompt.2 goesOn
      obtain rfl : ys = xs := same.samplesSince_eq.symm.trans rest.samplesSince_eq
      have beats := beat_cons_beats p o.clock 0 ys.length
      simp only [Nat.zero_mul, Nat.zero_add, Nat.add_zero] at beats
      refine ⟨?_, u, later, Nat.add_comm 1 ys.length ▸ onBeat⟩
      rw [List.map_cons, times, at_, beats]
    · obtain ⟨unsampled, loop⟩ := unsampled_of_starting starting what
      have rest := ih loop (unsampled.tracker.trans tracked) (by rwa [unsampled.config]) o.clock
      rw [unsampled.config] at rest
      rw [firstTime_cons_of_ne what]
      obtain ⟨none_, later⟩ | ⟨begin_, k, x, xs, first, tracking, later, at_, beats⟩ := rest
      · exact .inl ⟨none_, unsampled.trans later⟩
      · refine .inr ⟨begin_, k, x, xs, first, unsampled.tracking tracking, later, at_,
          fun forward prompt goesOn => ?_⟩
        rw [List.map_cons, List.isChain_cons_cons] at forward
        rw [isUsagePrompt, Bool.and_eq_true] at prompt
        exact beats forward.2 prompt.2 goesOn

/-- The ways of a log: nothing is asked of a tracker, or it is started once and then sampled. -/
theorem log_since_start (s : Service) (clock : Duration) (os : List Occurrence)
    (positive : 0 < s.listener.config.storeUsageSampleInterval) :
    let p := s.listener.config.storeUsageSampleInterval
    let q := (start s).after os
    (s.Sampled [] q.service ∧
      (s.tracker.isSome = true → firstTime .usageStart os = none) ∧
      (q.usageLoop = .ended ∨ firstTime .usageStart os = none)) ∨
      ∃ begin_ k x xs, s.tracker.isSome = true ∧ firstTime .usageStart os = some begin_ ∧
        s.Tracking begin_ k ∧ k.Sampled (x :: xs) q.service ∧ x.at_ = begin_ ∧
        ((clock :: os.map Occurrence.clock).IsChain (· ≤ ·) →
          isUsagePrompt (start s) clock os = true → q.usageLoop ≠ .ended →
          (x :: xs).map Sample.at_ = (List.range (xs.length + 1)).map (fun i => begin_ + i * p) ∧
            ∃ t, q.usageLoop = .waiting t ∧
              OnUsageBeat p begin_ (xs.length + 1) (clockAfter clock os) t) := by
  intro p q
  by_cases tracked : s.tracker.isSome = true
  · have starting : (start s).usageLoop = .starting := if_pos tracked
    obtain ⟨none_, unsampled⟩ | ⟨begin_, k, x, xs, first, rest⟩ :=
      sampled_run starting tracked positive clock os
    · exact .inl ⟨unsampled, fun _ => none_, .inr none_⟩
    · exact .inr ⟨begin_, k, x, xs, tracked, first, rest⟩
  · have ended_ : (start s).usageLoop = .ended := if_neg tracked
    obtain ⟨unsampled, still⟩ := unsampled_of_ended ended_ os
    exact .inl ⟨unsampled, fun has => absurd has tracked, .inl still⟩

/-- The log of a started listener: tracking is started once, when the usage loop first runs, and the
first sample is taken at once; what is reported is what the samples came to, less those that failed.
The results of a script are taken one by one; a sample of a store in a file never fails, and lies
between 0 and 1 at every instant that a clock with 64 bits of seconds can show. While the loop goes
on and no tick is late, samples are taken exactly one period apart from the first on, and none is
left out. Without a tracker nothing is asked of one. -/
theorem usage_is_sampled_on_the_beat (s : Service) (clock : Duration) (os : List Occurrence)
    (positive : 0 < s.listener.config.storeUsageSampleInterval) :
    let p := s.listener.config.storeUsageSampleInterval
    let r := start s
    let q := r.after os
    let calls := q.service.trackerCalls.drop s.trackerCalls.length
    let xs := samplesOf calls
    q.service.trackerCalls = s.trackerCalls ++ calls ∧
      (s.tracker = none → calls = []) ∧
      (s.tracker.isSome = true → firstTime .usageStart os = none → calls = []) ∧
      (s.tracker.isSome = true → ∀ begin_, firstTime .usageStart os = some begin_ →
        calls = .started begin_ :: xs.map .measured ∧ xs.head?.map Sample.at_ = some begin_) ∧
      q.service.usages = s.usages ++ xs.filterMap Sample.result ∧
      (∀ rs b, s.tracker = some (.scripted rs b) →
        q.service.tracker = some (.scripted (rs.drop xs.length) (b || !calls.isEmpty)) ∧
          xs.map Sample.result = (List.range xs.length).map fun i => rs.getD i none) ∧
      (∀ f d, s.tracker = some .store → s.backend = .file f d →
        ∀ x ∈ xs, ∃ v, x.result = some v ∧
          (x.at_ < 2 ^ 64 * Time.second → 0.0 ≤ v ∧ v ≤ 1.0)) ∧
      (∀ begin_, firstTime .usageStart os = some begin_ →
        (clock :: os.map Occurrence.clock).IsChain (· ≤ ·) → isUsagePrompt r clock os = true →
        q.usageLoop ≠ .ended →
          let last := clockAfter clock os
          xs.map Sample.at_ = (List.range xs.length).map (fun i => begin_ + i * p) ∧
            ∃ t, q.usageLoop = .waiting t ∧ t.due = begin_ + xs.length * p ∧ last ≤ t.due ∧
              (last < t.due → xs.length = (last - begin_) / p + 1)) := by
  intro p r q calls xs
  obtain ⟨unsampled, unbegun, quiet⟩ |
    ⟨begin_, k, x, ys, tracked, first, tracking, rest, at_, beats⟩ :=
    log_since_start s clock os positive
  · have log : q.service.trackerCalls = s.trackerCalls ++ [] := unsampled.calls
    have none_ : calls = [] := by
      show q.service.trackerCalls.drop s.trackerCalls.length = []
      rw [log, List.drop_left]
    have samples : xs = [] := congrArg samplesOf none_
    rw [none_, samples]
    refine ⟨log, fun _ => rfl, fun _ _ => rfl, ?_, unsampled.usages, ?_, fun _ _ _ _ => nofun, ?_⟩
    · intro tracked begin_ first
      simp [unbegun tracked] at first
    · intro rs b found
      obtain ⟨found, results⟩ := unsampled.scripted rs b found
      exact ⟨by rw [found]; simp, results⟩
    · intro begin_ first _ _ goesOn
      rcases quiet with ended_ | none_
      · exact absurd ended_ goesOn
      · simp [none_] at first
  · have log : q.service.trackerCalls =
        s.trackerCalls ++ .started begin_ :: (x :: ys).map .measured := by
      rw [rest.calls, tracking.calls, List.append_assoc, List.singleton_append]
    have called : calls = .started begin_ :: (x :: ys).map .measured := by
      show q.service.trackerCalls.drop s.trackerCalls.length = _
      rw [log, List.drop_left]
    have samples : xs = x :: ys := by
      show samplesOf calls = x :: ys
      rw [called]
      exact samplesOf_measured (x :: ys)
    rw [called, samples]
    refine ⟨log, ?_, ?_, ?_, ?_, ?_, ?_, ?_⟩
    · intro none_
      simp [none_] at tracked
    · intro _ none_
      simp [none_] at first
    · intro _ begin_' same
      obtain rfl := Option.some.inj (first.symm.trans same)
      exact ⟨rfl, congrArg some at_⟩
    · rw [rest.usages, tracking.usages]
    · intro rs b found
      obtain ⟨found, results⟩ := rest.scripted rs true (tracking.scripted rs b found)
      exact ⟨by rw [found]; simp, results⟩
    · intro f d found file
      obtain ⟨store, tracks⟩ := tracking.stored found (by rw [file]; rfl)
      exact (rest.stored store).2 tracks
    · intro begin_' same forward prompt goesOn
      obtain rfl := Option.some.inj (first.symm.trans same)
      obtain ⟨times, t, loop, beat⟩ := beats forward prompt goesOn
      refine ⟨times, t, loop, beat.due, beat.ahead, fun more => ?_⟩
      rw [List.length_cons, beat.count more]

/-- The second of three samples fails, and a flush comes between the ticks. -/
theorem usage_is_sampled_on_the_beat_second_fails :
    let results := [some 0.25, none, some 0.5]
    let s : Service :=
      { listener := .fresh {}, backend := .scripted {}, tracker := some (.scripted results false) }
    let p := s.listener.config.storeUsageSampleInterval
    let at_ (e : Event) (clock : Duration) : Occurrence := ⟨.event e, some .epoch, clock⟩
    let os := [at_ .flushStart 0, at_ .usageStart 0, at_ .flushTick Time.second, at_ .usageTick p,
      at_ .usageTick (2 * p), at_ .closeBus (2 * p + 1)]
    let calls := ((start s).after os).service.trackerCalls.drop s.trackerCalls.length
    let xs := samplesOf calls
    0 < p ∧ isUsagePrompt (start s) 0 os = true ∧ ((start s).after os).usageLoop ≠ .ended ∧
      xs = [⟨0, some 0.25⟩, ⟨p, none⟩, ⟨2 * p, some 0.5⟩] ∧
      calls = .started 0 :: xs.map .measured ∧ xs.length = (2 * p + 1) / p + 1 ∧
      ((start s).after os).service.usages = [0.25, 0.5] := by
  intro results s p at_ os calls xs
  have positive : 0 < s.listener.config.storeUsageSampleInterval := by decide +kernel
  have forward : (0 :: os.map Occurrence.clock).IsChain (· ≤ ·) := by decide +kernel
  have prompt : isUsagePrompt (start s) 0 os = true := by decide +kernel
  have goesOn : ((start s).after os).usageLoop ≠ .ended := by decide +kernel
  have samples : xs = [⟨0, some 0.25⟩, ⟨p, none⟩, ⟨2 * p, some 0.5⟩] := by decide +kernel
  obtain ⟨-, -, -, log, reported, -, -, cadence⟩ := usage_is_sampled_on_the_beat s 0 os positive
  have first : firstTime .usageStart os = some 0 := by decide +kernel
  obtain ⟨t, -, due, -, count⟩ := (cadence 0 first forward prompt goesOn).2
  have end_ : clockAfter 0 os = 2 * p + 1 := rfl
  rw [end_] at count
  have more : 2 * p + 1 < t.due := by
    rw [due]
    show 2 * p + 1 < 0 + xs.length * p
    rw [samples]
    decide +kernel
  refine ⟨positive, prompt, goesOn, samples, (log rfl 0 first).1, count more, reported.trans ?_⟩
  show [] ++ xs.filterMap Sample.result = _
  rw [samples]
  rfl

end Runtime

end ActualState
