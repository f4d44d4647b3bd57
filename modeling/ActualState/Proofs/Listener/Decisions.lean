import ActualState.Proofs.Listener.Run

/-!
# Freshness decisions

Which calls a listener makes is decided by what its surroundings can see. A `Diary` is kept by an
observer who knows the events and the effects of a run, but not the listener: it has a page for
every flush and one for every advertisement, each with the calls that were made there. The calls
on a page are compared with those that are due by the rules: a flush syncs all that came in since
the flush before it, unless that is nothing, and then certifies the state if the write was done in
less than one sync interval, or revokes the certificate if the write failed; an advertisement
renews the certificate if the last heartbeat is at least the freshness TTL ago.
-/
namespace ActualState

open Time (Moment Duration)

/-- An answer with the wall time, if there is one, and the monotonic time at which it came. -/
structure TimedAnswer where
  answer : Answer
  now : Option Moment
  clock : Duration
  deriving DecidableEq, Inhabited

/-- A flush in a diary. -/
structure FlushPage where
  /-- What came in since the flush before it began. -/
  batch : List Heartbeat
  began : Duration
  calls : List StoreCall
  /-- The answer to its first call. -/
  answer : Option TimedAnswer := none
  deriving DecidableEq, Inhabited

/-- An advertisement in a diary. -/
structure AdvertPage where
  now : Moment
  /-- The wall clock read once more. -/
  stamp : Moment
  /-- The clock reading of the last heartbeat before it, the epoch if there was none. -/
  lastSeen : Moment
  calls : List StoreCall
  deriving DecidableEq, Inhabited

/-- The freshness call that is due after a sync that began at `began`. -/
def TimedAnswer.due (t : TimedAnswer) (interval began : Duration) : List StoreCall :=
  match t.answer, t.now with
  | .done, some now => if t.clock - began < interval then [.bump now] else []
  | .failed _, _ => [.revoke]
  | .done, none | .aborted, _ => []

/-- The calls that are due in a flush. -/
def FlushPage.due (p : FlushPage) (interval : Duration) : List StoreCall :=
  match p.batch with
  | [] => []
  | _ :: _ => .sync p.batch :: p.answer.elim [] (·.due interval p.began)

/-- The calls that are due at an advertisement. -/
def AdvertPage.due (p : AdvertPage) (ttl : Duration) : List StoreCall :=
  if ttl ≤ p.now.since p.lastSeen then [.bump p.stamp] else []

/-- What an observer of a listener has written down, the newest page first. -/
structure Diary where
  lastSeen : Moment := .epoch
  /-- What came in since the last flush began. -/
  arrived : List Heartbeat := []
  /-- Whether a flush has begun and not ended. -/
  busy : Bool := false
  flushes : List FlushPage := []
  adverts : List AdvertPage := []
  deriving DecidableEq, Inhabited

namespace Diary

/-- A page with the calls that an answer led to. -/
def answered (p : FlushPage) (t : TimedAnswer) (es : List Effect) : FlushPage :=
  { p with calls := p.calls ++ callsOf es, answer := some (p.answer.getD t) }

/-- Writes down an event and what the listener did about it. -/
def observe (d : Diary) : Listener.Input × List Effect → Diary
  | (.heartbeat payload now, _) =>
    match Heartbeat.decode payload with
    | .ok h => { d with lastSeen := now, arrived := d.arrived ++ [h] }
    | .error _ => d
  | (.advertise now stamp, es) =>
    { d with adverts := ⟨now, stamp, d.lastSeen, callsOf es⟩ :: d.adverts }
  | (.carry _, _) => d
  | (.flush clock, es) =>
    if d.busy then d
    else { d with
      arrived := []
      busy := !es.any Effect.isEnd
      flushes := ⟨d.arrived, clock, callsOf es, none⟩ :: d.flushes }
  | (.answer a now clock, es) =>
    match d.busy, d.flushes with
    | true, p :: rest =>
      { d with busy := !es.any Effect.isEnd, flushes := answered p ⟨a, now, clock⟩ es :: rest }
    | _, _ => d

/-- The diary of a trace. -/
def ofTrace (t : Listener.Trace) : Diary := t.foldl observe {}

@[simp] theorem ofTrace_concat (t : Listener.Trace) (s : Listener.Input × List Effect) :
    ofTrace (t ++ [s]) = (ofTrace t).observe s := by
  simp [ofTrace]

/-- All calls on the pages of a diary. -/
def calls (d : Diary) : List StoreCall :=
  d.flushes.flatMap FlushPage.calls ++ d.adverts.flatMap AdvertPage.calls

/-- A page that is answered already keeps its answer. -/
theorem answered_of_isSome {p : FlushPage} (h : p.answer.isSome = true) (t : TimedAnswer)
    (es : List Effect) (quiet : callsOf es = []) : answered p t es = p := by
  obtain ⟨u, hu⟩ := Option.isSome_iff_exists.mp h
  cases p
  simp_all [answered]

/-- The first answer decides which call is due next. -/
theorem answered_of_none {p : FlushPage} {interval : Duration} (waiting : p.answer = none)
    (some_ : p.batch ≠ []) (h : p.calls = p.due interval) {t : TimedAnswer} {es : List Effect}
    (due : callsOf es = t.due interval p.began) :
    (answered p t es).calls = (answered p t es).due interval := by
  obtain ⟨b, bs, hb⟩ := List.exists_cons_of_ne_nil some_
  simp_all [answered, FlushPage.due]

end Diary

namespace Listener

/-- How the newest page of a diary stands to the flush under way. -/
def Open (f : Flush) (p : FlushPage) : Prop :=
  p.batch = f.batch ∧ f.batch ≠ [] ∧
    match f.stage with
    | .syncing began => p.began = began ∧ p.answer = none
    | .bumping | .revoking => p.answer.isSome = true

/-- A diary that is true of a listener, whose calls so far are `log`. -/
structure Tracks (c : ListenerConfig) (l : Listener) (d : Diary) (log : List StoreCall) :
    Prop where
  config : l.config = c
  lastSeen : d.lastSeen = l.aggregation.lastLiveness
  arrived : d.arrived = l.aggregation.pending
  busy : d.busy = l.flush.isSome
  flushes : ∀ p ∈ d.flushes, p.calls = p.due c.syncInterval
  adverts : ∀ p ∈ d.adverts, p.calls = p.due c.actualFreshnessTtl
  newest : ∀ f, l.flush = some f → ∃ p rest, d.flushes = p :: rest ∧ Open f p
  complete : log.Perm d.calls

theorem tracks_fresh (c : ListenerConfig) : Tracks c (fresh c) {} [] where
  config := rfl
  lastSeen := rfl
  arrived := rfl
  busy := rfl
  flushes := by simp
  adverts := by simp
  newest := by simp [fresh]
  complete := by simp [Diary.calls]

variable {c : ListenerConfig} {l k : Listener} {d : Diary} {log : List StoreCall}

theorem Tracks.accepted (h : Tracks c l d log) {payload : List UInt8} {now : Moment}
    {hb : Heartbeat} (decoded : Heartbeat.decode payload = .ok hb) (es : List Effect) :
    Tracks c { l with aggregation := l.aggregation.record hb now }
      (d.observe (.heartbeat payload now, es)) log := by
  simp only [Diary.observe, decoded]
  exact {
    config := h.config
    lastSeen := rfl
    arrived := by simp [h.arrived]
    busy := h.busy
    flushes := h.flushes
    adverts := h.adverts
    newest := h.newest
    complete := h.complete }

theorem Tracks.carried (h : Tracks c l d log) {m : SyncCycle} {es : List Effect} :
    Tracks c { l with cycle := m } (d.observe (.carry m, es)) log :=
  ⟨h.config, h.lastSeen, h.arrived, h.busy, h.flushes, h.adverts, h.newest, h.complete⟩

theorem Tracks.advertised (h : Tracks c l d log) (now stamp : Moment) :
    Tracks c l (d.observe (.advertise now stamp, l.handleAdvertise now stamp))
      (log ++ callsOf (l.handleAdvertise now stamp)) where
  config := h.config
  lastSeen := h.lastSeen
  arrived := h.arrived
  busy := h.busy
  flushes := h.flushes
  adverts := by
    have due : callsOf (l.handleAdvertise now stamp) =
        (AdvertPage.mk now stamp d.lastSeen (callsOf (l.handleAdvertise now stamp))).due
          c.actualFreshnessTtl := by
      rw [AdvertPage.due, h.lastSeen, ← h.config]
      unfold handleAdvertise isSilent
      split <;> simp_all [callsOf, Effect.call?]
    intro p hp
    rcases List.mem_cons.mp hp with rfl | hp
    · exact due
    · exact h.adverts p hp
  newest := h.newest
  complete := by
    simp only [Diary.observe, Diary.calls, List.flatMap_cons]
    refine (h.complete.append_right _).trans ?_
    simp only [Diary.calls, List.append_assoc]
    exact List.Perm.append_left _ List.perm_append_comm

/-- A flush begins and leaves a new page behind, whether it ends at once or waits. -/
theorem Tracks.flushed (h : Tracks c l d log) (free : l.flush = none) (clock : Duration)
    {es : List Effect} (config : k.config = l.config)
    (aggregation : k.aggregation = l.aggregation.drain)
    (ends : es.any Effect.isEnd = k.flush.isNone)
    (due : callsOf es =
      (FlushPage.mk l.aggregation.pending clock (callsOf es) none).due c.syncInterval)
    (newest : ∀ f, k.flush = some f →
      Open f (FlushPage.mk l.aggregation.pending clock (callsOf es) none)) :
    Tracks c k (d.observe (.flush clock, es)) (log ++ callsOf es) := by
  have idle : d.busy = false := by simp [h.busy, free]
  simp only [Diary.observe, idle, h.arrived, ends, Bool.false_eq_true, if_false]
  exact {
    config := config.trans h.config
    lastSeen := by simpa [aggregation, Aggregation.drain] using h.lastSeen
    arrived := by simp [aggregation]
    busy := by cases k.flush <;> rfl
    flushes := by
      intro p hp
      rcases List.mem_cons.mp hp with rfl | hp
      · exact due
      · exact h.flushes p hp
    adverts := h.adverts
    newest := fun f hf => ⟨_, _, rfl, newest f hf⟩
    complete := by
      simp only [Diary.calls, List.flatMap_cons, List.append_assoc]
      exact (h.complete.append_right _).trans List.perm_append_comm }

/-- An answer goes on the newest page, and the page stays as it is due. -/
theorem Tracks.answered (h : Tracks c l d log) {f : Flush} (busy : l.flush = some f)
    {t : TimedAnswer} {es : List Effect} (config : k.config = l.config)
    (pending : k.aggregation.pending = l.aggregation.pending)
    (seen : k.aggregation.lastLiveness = l.aggregation.lastLiveness)
    (ends : es.any Effect.isEnd = k.flush.isNone)
    (page : ∀ p, Open f p → p.calls = p.due c.syncInterval →
      (Diary.answered p t es).calls = (Diary.answered p t es).due c.syncInterval ∧
        ∀ g, k.flush = some g → Open g (Diary.answered p t es)) :
    Tracks c k (d.observe (.answer t.answer t.now t.clock, es)) (log ++ callsOf es) := by
  obtain ⟨p, rest, pages, open_⟩ := h.newest f busy
  have waiting : d.busy = true := by simp [h.busy, busy]
  obtain ⟨due, next⟩ := page p open_ (h.flushes p (by simp [pages]))
  simp only [Diary.observe, waiting, pages, ends]
  exact {
    config := config.trans h.config
    lastSeen := by simpa [seen] using h.lastSeen
    arrived := by simpa [pending] using h.arrived
    busy := by cases k.flush <;> rfl
    flushes := by
      intro q hq
      rcases List.mem_cons.mp hq with rfl | hq
      · exact due
      · exact h.flushes q (by simp [pages, hq])
    adverts := h.adverts
    newest := fun g hg => ⟨_, _, rfl, next g hg⟩
    complete := by
      have before : log.Perm (p.calls ++ (rest.flatMap FlushPage.calls ++
          d.adverts.flatMap AdvertPage.calls)) := by
        simpa [Diary.calls, pages] using h.complete
      simp only [Diary.calls, Diary.answered, List.flatMap_cons, List.append_assoc]
      refine (before.append_right _).trans ?_
      rw [List.append_assoc]
      exact List.Perm.append_left _ List.perm_append_comm }

/-- The answer to a bump or to a revocation ends the flush without a further call. -/
theorem Tracks.ended (h : Tracks c l d log) {f : Flush} (busy : l.flush = some f)
    {t : TimedAnswer} {es : List Effect} (late : ∀ began, f.stage ≠ .syncing began)
    (config : k.config = l.config) (pending : k.aggregation.pending = l.aggregation.pending)
    (seen : k.aggregation.lastLiveness = l.aggregation.lastLiveness) (free : k.flush = none)
    (ends : es.any Effect.isEnd = true) (quiet : callsOf es = []) :
    Tracks c k (d.observe (.answer t.answer t.now t.clock, es)) (log ++ callsOf es) := by
  refine h.answered busy config pending seen (by simp [ends, free]) fun p open_ due => ?_
  have isSome : p.answer.isSome = true := by
    obtain ⟨-, -, stage⟩ := open_
    cases hs : f.stage with
    | syncing began => exact absurd hs (late began)
    | bumping => simpa [hs] using stage
    | revoking => simpa [hs] using stage
  rw [Diary.answered_of_isSome isSome t es quiet]
  exact ⟨due, by simp [free]⟩

/-- The answer to a sync decides what the flush does next. -/
theorem Tracks.decided (h : Tracks c l d log) {f : Flush} (busy : l.flush = some f)
    {began : Duration} (stage : f.stage = .syncing began) {t : TimedAnswer} {es : List Effect}
    (config : k.config = l.config) (pending : k.aggregation.pending = l.aggregation.pending)
    (seen : k.aggregation.lastLiveness = l.aggregation.lastLiveness)
    (ends : es.any Effect.isEnd = k.flush.isNone)
    (due : callsOf es = t.due c.syncInterval began)
    (next : ∀ g, k.flush = some g →
      g.batch = f.batch ∧ (g.stage = .bumping ∨ g.stage = .revoking)) :
    Tracks c k (d.observe (.answer t.answer t.now t.clock, es)) (log ++ callsOf es) := by
  refine h.answered busy config pending seen ends fun p open_ calls => ?_
  obtain ⟨batch, some_, at_⟩ := open_
  simp only [stage] at at_
  obtain ⟨rfl, waiting⟩ := at_
  refine ⟨Diary.answered_of_none waiting (batch ▸ some_) calls due, fun g hg => ?_⟩
  obtain ⟨same, stage | stage⟩ := next g hg
  · exact ⟨batch.trans same.symm, same ▸ some_, by simp [stage, Diary.answered]⟩
  · exact ⟨batch.trans same.symm, same ▸ some_, by simp [stage, Diary.answered]⟩

/-- An event that changes nothing and is not an advertisement leaves no mark. -/
theorem Tracks.unchanged (h : Tracks c l d log) {s : Input × List Effect}
    (same : d.observe s = d) (quiet : callsOf s.2 = []) :
    Tracks c l (d.observe s) (log ++ callsOf s.2) := by
  rw [same, quiet, List.append_nil]
  exact h

theorem Tracks.next {i : Input} {es : List Effect} (h : Tracks c l d log) (m : Move l i k es) :
    Tracks c k (d.observe (i, es)) (log ++ callsOf es) := by
  cases m with
  | accepted decoded => simpa [callsOf] using h.accepted decoded []
  | dropped refused => exact h.unchanged (by simp [Diary.observe, refused]) rfl
  | @renewed now stamp silent => simpa [handleAdvertise, silent] using h.advertised now stamp
  | @quiet now stamp heard => simpa [handleAdvertise, heard] using h.advertised now stamp
  | carried free => simpa [callsOf] using h.carried
  | carryIgnored busy => exact h.unchanged rfl rfl
  | idle free nothing =>
    refine h.flushed free _ (by simp [drained]) (by simp [drained]) (by simp) ?_ (by simp)
    simp [FlushPage.due, nothing]
  | began free waiting =>
    obtain ⟨b, bs, hb⟩ := List.exists_cons_of_ne_nil waiting
    refine h.flushed free _ rfl rfl rfl ?_ ?_
    · simp [FlushPage.due, callsOf, Effect.call?, hb]
    · rintro f ⟨rfl⟩
      exact ⟨rfl, waiting, rfl, rfl⟩
  | flushIgnored busy => exact h.unchanged (by simp [Diary.observe, h.busy, busy]) rfl
  | unasked free => exact h.unchanged (by simp [Diary.observe, h.busy, free]) rfl
  | @aborted f now clock busy =>
    cases stage : f.stage with
    | syncing began =>
      exact h.decided busy stage (t := ⟨.aborted, now, clock⟩) rfl rfl rfl rfl rfl (by simp)
    | bumping =>
      exact h.ended busy (t := ⟨.aborted, now, clock⟩) (by simp [stage]) rfl rfl rfl rfl rfl rfl
    | revoking =>
      exact h.ended busy (t := ⟨.aborted, now, clock⟩) (by simp [stage]) rfl rfl rfl rfl rfl rfl
  | @inTime f began now clock busy stage early =>
    rw [h.config] at early
    refine h.decided busy stage (t := ⟨.done, some now, clock⟩) rfl rfl rfl rfl ?_ ?_
    · simp [TimedAnswer.due, early, callsOf, Effect.call?]
    · rintro g ⟨rfl⟩
      exact ⟨rfl, .inl rfl⟩
  | @timeless f began clock busy stage early =>
    exact h.decided busy stage (t := ⟨.done, none, clock⟩) rfl rfl rfl rfl rfl (by simp)
  | @tooLate f began now clock busy stage late =>
    rw [h.config] at late
    refine h.decided busy stage (t := ⟨.done, now, clock⟩) (by simp) (by simp)
      (by simp [Aggregation.recordSaved]) (by simp) ?_ (by simp)
    cases now <;> simp [TimedAnswer.due, late]
  | @refused f began e now clock busy stage =>
    refine h.decided busy stage (t := ⟨.failed e, now, clock⟩) rfl rfl rfl rfl rfl ?_
    rintro g ⟨rfl⟩
    exact ⟨rfl, .inr rfl⟩
  | @bumped f a now clock busy stage alive =>
    exact h.ended busy (t := ⟨a, now, clock⟩) (by simp [stage]) (by simp) (by simp)
      (by simp [Aggregation.recordSaved]) (by simp) (by simp) (by simp)
  | @revoked f a now clock busy stage alive =>
    exact h.ended busy (t := ⟨a, now, clock⟩) (by simp [stage]) (by simp) (by simp)
      (by simp) (by simp) (by simp) (by simp)

/-- The diary of a run is true of the listener after it. -/
theorem tracks_after (c : ListenerConfig) (is : List Input) :
    Tracks c ((fresh c).after is) (.ofTrace ((fresh c).trace is))
      (callsOf ((fresh c).trace is).effects) := by
  refine run_induction (P := fun l t => Tracks c l (.ofTrace t) (callsOf t.effects)) ?_ ?_ is
  · exact tracks_fresh c
  · intro k t i k' es h m
    simpa using h.next m

/-- Every flush and every advertisement has made the calls that were due, in this order and no
others; there are no calls besides; and an advertisement changes nothing in the listener. -/
theorem calls_are_due (c : ListenerConfig) (is : List Input) :
    let t := (fresh c).trace is
    let d := Diary.ofTrace t
    (∀ p ∈ d.flushes, p.calls = p.due c.syncInterval) ∧
      (∀ p ∈ d.adverts, p.calls = p.due c.actualFreshnessTtl) ∧
      (callsOf t.effects).Perm d.calls ∧
      ∀ now stamp, (((fresh c).after is).step (.advertise now stamp)).1 = (fresh c).after is := by
  have h := tracks_after c is
  exact ⟨h.flushes, h.adverts, h.complete, fun _ _ => rfl⟩

end Listener

end ActualState
