import ActualState.Proofs.Service.Run
import ActualState.Proofs.Store.Batches

/-!
# Where one flush ends and the next begins

While the wall clock stands still and no batch is refused, what a listener leaves in its store
does not depend on when it flushed. An `Account` says which of the heartbeats that came in are in
the store, which a flush has taken and which still wait; `Phase` adds how far the flush under way
has come, and `Leads` is what a step of the flush keeps of both.
-/
namespace ActualState

open Time (Moment Duration)

namespace FileStore

/-- A store that was opened as `o` and has taken in some heartbeats, all at `now`. -/
structure Holds (o : FileStore) (now : Moment) (f : FileStore) (d : Disk)
    (stored : List Heartbeat) : Prop where
  ttl : f.heartbeatTtl = o.heartbeatTtl
  memory : f.memory.deas = o.memory.deasAfter o.heartbeatTtl stored now
  sound : f.memory.IsSound
  file : load d.target = .ok (f.memory.onDisk !stored.isEmpty)

namespace Holds

variable {o f f' : FileStore} {now : Moment} {d d' : Disk} {stored : List Heartbeat}
  {w : PendingWrite}

theorem opened {heartbeatTtl freshnessTtl : Duration}
    (opened : open? heartbeatTtl freshnessTtl d = .ok o) (now : Moment) : Holds o now o d [] := by
  obtain ⟨doc, loaded, rfl⟩ := Json.map_eq_ok.1 opened
  exact ⟨rfl, rfl, isSound_of_load loaded, loaded⟩

/-- What was not written has changed nothing. -/
theorem kept (h : Holds o now f d stored) (ttl : f'.heartbeatTtl = f.heartbeatTtl)
    (memory : f'.memory = f.memory) (target : d'.target = d.target) : Holds o now f' d' stored :=
  ⟨ttl.trans h.ttl, memory ▸ h.memory, memory ▸ h.sound, by rw [target, memory, h.file]⟩

/-- A batch is in memory and in the file. -/
theorem synced (h : Holds o now f d stored) {batch : List Heartbeat} (some_ : batch ≠ [])
    (heard : ∀ b ∈ batch, b.IsSound) (next : w.next = f.memory.sync f.heartbeatTtl batch now)
    (text : w.next.encode = .ok w.content) (ttl : f'.heartbeatTtl = f.heartbeatTtl)
    (memory : f'.memory = w.next) (target : d'.target = .file w.content) :
    Holds o now f' d' (stored ++ batch) := by
  have sound : w.next.IsSound := next ▸ h.sound.sync heard f.heartbeatTtl now
  have more : (stored ++ batch).isEmpty = false := by simp [some_]
  refine ⟨ttl.trans h.ttl, ?_, memory ▸ sound, ?_⟩
  · rw [memory, next, h.ttl]
    exact Document.deasAfter_append h.memory some_
  · rw [target, more, load_of_isText sound (Document.isText_of_encode text), memory]
    rfl

/-- A new certificate is in memory and in the file, over the same DEAs. -/
theorem bumped (h : Holds o now f d stored) (some_ : stored ≠ [])
    (next : w.next.deas = f.memory.deas) (text : w.next.encode = .ok w.content)
    (ttl : f'.heartbeatTtl = f.heartbeatTtl) (memory : f'.memory = w.next)
    (target : d'.target = .file w.content) : Holds o now f' d' stored := by
  have sound : w.next.IsSound := by
    intro e he
    exact h.sound e (next ▸ he)
  have more : stored.isEmpty = false := by simp [some_]
  refine ⟨ttl.trans h.ttl, ?_, memory ▸ sound, ?_⟩
  · rw [memory, next, h.memory]
  · rw [target, more, load_of_isText sound (Document.isText_of_encode text), memory]
    rfl

end Holds

end FileStore

namespace Service

/-! ### What came in and where it is -/

/-- Of the heartbeats that came in, `stored` are in the store, `taken` are with a flush, and the
rest waits in the buffer. Unless a flush broke off, all that are stored are counted but for
`uncounted`. -/
structure Account (unbroken : Prop) (a : Aggregation) (heard stored taken : List Heartbeat)
    (uncounted : Nat) : Prop where
  came : stored ++ taken ++ a.pending = heard
  counted : unbroken → a.totalSaved + uncounted = stored.length

theorem Account.weaken {unbroken p : Prop} {a : Aggregation} {heard stored taken : List Heartbeat}
    {n : Nat} (h : Account unbroken a heard stored taken n) (weaker : p → unbroken) :
    Account p a heard stored taken n := ⟨h.came, fun whole => h.counted (weaker whole)⟩

/-- How far a flush has come, and where the heartbeats are that came in. -/
inductive Phase (o : FileStore) (now : Moment) (unbroken : Prop) (s : Service)
    (heard : List Heartbeat) : Prop
  | free {f : FileStore} {d : Disk} {stored : List Heartbeat} (backend : s.backend = .file f d)
      (holds : o.Holds now f d stored) (flush : s.listener.flush = none)
      (inFlight : s.inFlight = none)
      (account : Account unbroken s.listener.aggregation heard stored [] 0)
  | syncing {f : FileStore} {d : Disk} {stored : List Heartbeat} {l : Flush} {began : Duration}
      {w : PendingWrite} (backend : s.backend = .file f d) (holds : o.Holds now f d stored)
      (flush : s.listener.flush = some l) (stage : l.stage = .syncing began)
      (inFlight : s.inFlight = some (.writing w [])) (some_ : l.batch ≠ [])
      (next : w.next = f.memory.sync f.heartbeatTtl l.batch now)
      (text : w.next.encode = .ok w.content)
      (account : Account unbroken s.listener.aggregation heard stored l.batch 0)
  | bumping {f : FileStore} {d : Disk} {stored : List Heartbeat} {l : Flush} {w : PendingWrite}
      (backend : s.backend = .file f d) (holds : o.Holds now f d stored)
      (flush : s.listener.flush = some l) (stage : l.stage = .bumping)
      (inFlight : s.inFlight = some (.writing w [])) (some_ : stored ≠ [])
      (next : w.next.deas = f.memory.deas) (text : w.next.encode = .ok w.content)
      (account : Account unbroken s.listener.aggregation heard stored [] l.batch.length)
  /-- The batch was refused, and the flush will end so. -/
  | revoking {f : FileStore} {d : Disk} {l : Flush} {w : PendingWrite}
      (backend : s.backend = .file f d) (flush : s.listener.flush = some l)
      (stage : l.stage = .revoking) (inFlight : s.inFlight = some (.writing w []))

/-- What a flush has come to, unless it ended with its batch refused. -/
def Leads (o : FileStore) (now : Moment) (unbroken : Prop) (heard : List Heartbeat)
    (r : Service × Option FlushEnd) : Prop :=
  r.2.any FlushEnd.isFailed = false → Phase o now (unbroken ∧ r.2 ≠ some .broken) r.1 heard

section Leads

variable {o f : FileStore} {d : Disk} {now : Moment} {unbroken : Prop} {s : Service}
  {heard stored : List Heartbeat} {l : Flush} {clock : Duration}

/-- A flush that is over leads to the next one, with all that it stored counted unless it broke
off. -/
theorem leads_of_over (calls : Nat) {a : Answer} {r : Listener × List Effect} {e : FlushEnd}
    (backend : s.backend = .file f d) (idle : s.inFlight = none)
    (answer : s.listener.answer a (some now) clock = r) (quiet : callsOf r.2 = [])
    (last : (r.2.filterMap Effect.end?).head? = some e) (free : r.1.flush = none)
    (holds : o.Holds now f d stored)
    (account : Account (unbroken ∧ some e ≠ some .broken) r.1.aggregation heard stored [] 0) :
    Leads o now unbroken heard (s.goOn calls a (some now) clock) := by
  obtain ⟨t, over_, listener, kept, inFlight⟩ := goOn_of_no_call calls answer quiet last
  rw [over_]
  intro _
  exact .free (kept.trans backend) holds (by rw [listener, free]) (inFlight.trans idle)
    (by rw [listener]; exact account)

/-- A flush that ends with its batch refused leads nowhere. -/
theorem leads_of_failed (calls : Nat) {a : Answer} {r : Listener × List Effect} {n : Nat}
    (answer : s.listener.answer a (some now) clock = r) (quiet : callsOf r.2 = [])
    (last : (r.2.filterMap Effect.end?).head? = some (.finished (.failed n))) :
    Leads o now unbroken heard (s.goOn calls a (some now) clock) := by
  obtain ⟨t, over_, -⟩ := goOn_of_no_call calls answer quiet last
  rw [over_]
  intro kept
  cases kept

/-- Whatever a revocation is answered, the flush ends with its batch refused. -/
theorem leads_revoking (calls : Nat) (flush : s.listener.flush = some l)
    (stage : l.stage = .revoking) {a : Answer} (alive : a ≠ .aborted) :
    Leads o now unbroken heard (s.goOn calls a (some now) clock) :=
  leads_of_failed calls (Listener.answer_revoking flush stage alive)
    (Listener.callsOf_finish _ _ _) (end_finish _ _ _)

/-- A batch that is refused is not kept, whether the revocation is written or not. -/
theorem leads_refused (calls : Nat) (backend : s.backend = .file f d)
    (flush : s.listener.flush = some l) {began : Duration} (stage : l.stage = .syncing began)
    (e : StoreError) :
    Leads o now unbroken heard (s.goOn (calls + 1) (.failed e) (some now) clock) := by
  rw [goOn_call calls (Listener.answer_refused flush stage e) backend]
  -- The revocation waits for the disk, or has no text; it cannot break off.
  cases begun : f.begin .revoke (some now) clock with
  | ok w =>
    intro _
    exact .revoking backend rfl rfl rfl
  | error a =>
    rcases FileStore.begin_eq_error begun with ⟨-, none_⟩ | ⟨e, rfl⟩
    · cases none_
    · exact leads_revoking calls (l := { l with stage := .revoking }) rfl rfl (by simp)

/-- Whatever a bump is answered, the batch is in the store; it is counted unless the flush breaks
off. -/
theorem leads_bumping (calls : Nat) (backend : s.backend = .file f d) (idle : s.inFlight = none)
    (flush : s.listener.flush = some l) (stage : l.stage = .bumping) (a : Answer)
    (holds : o.Holds now f d stored)
    (account : Account unbroken s.listener.aggregation heard stored [] l.batch.length) :
    Leads o now unbroken heard (s.goOn calls a (some now) clock) := by
  by_cases alive : a = .aborted
  · subst alive
    refine leads_of_over calls backend idle (Listener.answer_aborted flush) rfl rfl rfl holds ?_
    exact ⟨account.came, fun whole => absurd rfl whole.2⟩
  · refine leads_of_over calls backend idle (Listener.answer_bumping flush stage alive)
      (Listener.callsOf_finishSaved _ _ _) (end_finishSaved _ _ _)
      (Listener.flush_finishSaved _ _ _) holds ?_
    rw [Listener.aggregation_finishSaved]
    exact ⟨account.came, fun whole => account.counted whole.1⟩

/-- Once its batch is in the store, a flush bumps or is over. -/
theorem leads_synced (calls : Nat) (backend : s.backend = .file f d) (idle : s.inFlight = none)
    (flush : s.listener.flush = some l) {began : Duration} (stage : l.stage = .syncing began)
    (holds : o.Holds now f d stored) (some_ : stored ≠ [])
    (account : Account unbroken s.listener.aggregation heard stored [] l.batch.length) :
    Leads o now unbroken heard (s.goOn (calls + 1) .done (some now) clock) := by
  by_cases early : clock - began < s.listener.config.syncInterval
  · rw [goOn_call calls (Listener.answer_inTime flush stage early now) backend]
    cases begun : f.begin (.bump now) (some now) clock with
    | ok w =>
      intro _
      obtain ⟨made, text⟩ := FileStore.begin_eq_ok begun
      have next : w.next.deas = f.memory.deas := by rw [FileStore.next?_bump made]
      exact .bumping backend holds rfl rfl rfl some_ next text (account.weaken And.left)
    | error a =>
      exact leads_bumping (l := { l with stage := .bumping })
        (s := { s with listener := { s.listener with flush := some { l with stage := .bumping } } })
        calls backend idle rfl rfl a holds account
  · refine leads_of_over (calls + 1) backend idle (Listener.answer_tooLate flush stage early)
      (Listener.callsOf_finishSaved _ _ _) (end_finishSaved _ _ _)
      (Listener.flush_finishSaved _ _ _) holds ?_
    rw [Listener.aggregation_finishSaved]
    exact ⟨account.came, fun whole => account.counted whole.1⟩

/-- A flush begins. -/
theorem leads_begin (backend : s.backend = .file f d) (holds : o.Holds now f d stored)
    (idle : s.inFlight = none)
    (account : Account unbroken s.listener.aggregation heard stored [] 0) (clock : Duration) :
    Leads o now unbroken heard (s.beginFlush (some now) clock) := by
  have came := account.came
  rw [List.append_nil] at came
  by_cases nothing : s.listener.aggregation.pending = []
  · let l := s.listener.drained
    let n := s.listener.aggregation.totalReceived
    let t : Service := { s with listener := (l.finish n .idle).1 }
    obtain ⟨-, listener, kept, inFlight⟩ := t.carryOut_spec (l.finish n .idle).2
    have whole : s.beginFlush (some now) clock =
        ((t.carryOut (l.finish n .idle).2).1, some (.finished .idle)) := by
      rw [beginFlush, Listener.beginFlush_idle nothing, ← end_finish l n .idle]
      exact proceed_of_no_call callsOfFlush t (l.callsOf_finish n .idle) (some now) clock
    rw [whole]
    intro _
    refine .free (kept.trans backend) holds (by rw [listener, Listener.flush_finish])
      (inFlight.trans idle) ?_
    rw [listener, Listener.aggregation_finish]
    exact ⟨by simpa [l, Listener.drained, nothing] using came, fun whole => account.counted whole.1⟩
  · let l : Flush :=
      ⟨s.listener.aggregation.pending, s.listener.aggregation.totalReceived, .syncing clock⟩
    let t : Service := { s with listener := { s.listener.drained with flush := some l } }
    have whole : s.beginFlush (some now) clock =
        proceed callsOfFlush t [.call (.sync l.batch)] (some now) clock := by
      rw [beginFlush, Listener.beginFlush_sync nothing]
    rw [whole, callsOfFlush,
      proceed_call 1 (s := t) backend (.sync l.batch) (some now) clock]
    cases begun : f.begin (.sync l.batch) (some now) clock with
    | ok w =>
      intro _
      obtain ⟨made, text⟩ := FileStore.begin_eq_ok begun
      exact .syncing (l := l) backend holds rfl rfl rfl nothing (Option.some.inj made).symm text
        ⟨by simpa [t, l, Listener.drained] using came, fun whole => account.counted whole.1⟩
    | error a =>
      rcases FileStore.begin_eq_error begun with ⟨-, none_⟩ | ⟨e, rfl⟩
      · cases none_
      · exact leads_refused (s := t) (l := l) 0 backend rfl rfl e

/-- The write under way ends. -/
theorem leads_complete (h : Phase o now unbroken s heard) (sound : ∀ b ∈ heard, b.IsSound)
    (clock : Duration) : Leads o now unbroken heard (s.completeFlush (some now) clock) := by
  cases h with
  | @free f d stored backend holds flush inFlight account =>
    have still : s.completeFlush (some now) clock = (s, none) := by simp [completeFlush, inFlight]
    rw [still]
    intro _
    exact .free backend holds flush inFlight (account.weaken And.left)
  | @syncing f d stored l began w backend holds flush stage inFlight some_ next text account =>
    rw [completeFlush_eq backend inFlight]
    obtain ⟨ttl, ⟨done, memory, target⟩ | ⟨failed, memory, target⟩⟩ := f.complete_cases w d clock
    · have heard : ∀ b ∈ l.batch, b.IsSound := fun b hb => sound b (by simp [← account.came, hb])
      rw [done]
      refine leads_synced (s := s.written f w [] d clock) 1 rfl rfl flush stage
        (holds.synced some_ heard next text ttl memory target) (by simp [some_]) ?_
      refine ⟨by simpa [written] using account.came, fun whole => ?_⟩
      rw [List.length_append, ← account.counted whole]
      rfl
    · rw [failed]
      exact leads_refused (s := s.written f w [] d clock) 1 rfl flush stage .io
  | @bumping f d stored l w backend holds flush stage inFlight some_ next text account =>
    rw [completeFlush_eq backend inFlight]
    obtain ⟨ttl, ⟨done, memory, target⟩ | ⟨failed, memory, target⟩⟩ := f.complete_cases w d clock
    · exact leads_bumping (s := s.written f w [] d clock) 2 rfl rfl flush stage _
        (holds.bumped some_ next text ttl memory target) account
    · exact leads_bumping (s := s.written f w [] d clock) 2 rfl rfl flush stage _
        (holds.kept ttl memory target) account
  | @revoking f d l w backend flush stage inFlight =>
    rw [completeFlush_eq backend inFlight]
    have alive : (f.complete w d clock).2.2 ≠ .aborted := by
      rcases (f.complete_cases w d clock).2 with ⟨done, -⟩ | ⟨failed, -⟩
      · simp [done]
      · simp [failed]
    exact leads_revoking (s := s.written f w [] d clock) 2 flush stage alive

end Leads

/-! ### Runs while the wall clock stands still -/

/-- Whether an event is a message that comes in or a part of a flush, with the wall clock at a
reading. -/
def Event.IsAt (now : Moment) : Event → Prop
  | .heartbeat _ m | .begin m _ | .complete m _ => m = some now
  | _ => False

/-- Whether a flush ended with its batch refused. -/
def Sighting.lost (x : Sighting) : Bool := x.ended.any FlushEnd.isFailed

/-- The heartbeat that an event brings. -/
def Event.heard? : Event → Option Heartbeat
  | .heartbeat payload _ => (Heartbeat.decode payload).toOption
  | _ => none

/-- The heartbeats that come in during a run, in order. -/
def heardIn (es : List Event) : List Heartbeat := es.filterMap Event.heard?

@[simp] theorem heardIn_cons (e : Event) (es : List Event) :
    heardIn (e :: es) = e.heard?.toList ++ heardIn es := by
  cases h : e.heard? <;> simp [heardIn, h]

theorem Event.isSound_of_heard? {e : Event} {b : Heartbeat} (brought : e.heard? = some b) :
    b.IsSound := by
  cases e with
  | heartbeat payload m =>
    cases decoded : Heartbeat.decode payload with
    | error p => simp [heard?, decoded, Except.toOption] at brought
    | ok c =>
      obtain rfl : c = b := by simpa [heard?, decoded, Except.toOption] using brought
      exact Heartbeat.isSound_of_decode decoded
  | _ => cases brought

variable {o : FileStore} {now : Moment} {unbroken : Prop} {s : Service} {heard : List Heartbeat}

theorem Account.hear {a : Aggregation} {stored taken : List Heartbeat} {n : Nat}
    (h : Account unbroken a heard stored taken n) (b : Heartbeat) (m : Moment) :
    Account unbroken (a.record b m) (heard ++ [b]) stored taken n where
  came := by simp [← h.came]
  counted := h.counted

/-- A heartbeat waits in the buffer, whatever a flush is doing. -/
theorem Phase.hear (h : Phase o now unbroken s heard) (b : Heartbeat) (m : Moment) :
    Phase o now unbroken
      { s with listener := { s.listener with aggregation := s.listener.aggregation.record b m } }
      (heard ++ [b]) := by
  cases h with
  | free backend holds flush inFlight account =>
    exact .free backend holds flush inFlight (account.hear b m)
  | syncing backend holds flush stage inFlight some_ next text account =>
    exact .syncing backend holds flush stage inFlight some_ next text (account.hear b m)
  | bumping backend holds flush stage inFlight some_ next text account =>
    exact .bumping backend holds flush stage inFlight some_ next text (account.hear b m)
  | revoking backend flush stage inFlight => exact .revoking backend flush stage inFlight

theorem Phase.weaken (h : Phase o now unbroken s heard) {p : Prop} (weaker : p → unbroken) :
    Phase o now p s heard := by
  cases h with
  | free backend holds flush inFlight account =>
    exact .free backend holds flush inFlight (account.weaken weaker)
  | syncing backend holds flush stage inFlight some_ next text account =>
    exact .syncing backend holds flush stage inFlight some_ next text (account.weaken weaker)
  | bumping backend holds flush stage inFlight some_ next text account =>
    exact .bumping backend holds flush stage inFlight some_ next text (account.weaken weaker)
  | revoking backend flush stage inFlight => exact .revoking backend flush stage inFlight

/-- A step that ends no flush with its batch refused leads on. -/
theorem Phase.step (h : Phase o now unbroken s heard) (sound : ∀ b ∈ heard, b.IsSound) {e : Event}
    (still : e.IsAt now) :
    Leads o now unbroken (heard ++ e.heard?.toList) ((s.step e).1, (s.step e).2.ended) := by
  cases e with
  | heartbeat payload m =>
    obtain rfl : m = some now := still
    cases decoded : Heartbeat.decode payload with
    | error p =>
      have same : (s.step (.heartbeat payload (some now))).1 = s := by
        simp [Service.step, heartbeat, Listener.handleHeartbeat, decoded]
      rw [same, Event.heard?, decoded]
      intro _
      simpa [Except.toOption] using h.weaken And.left
    | ok b =>
      have same : (s.step (.heartbeat payload (some now))).1 =
          { s with
            listener := { s.listener with aggregation := s.listener.aggregation.record b now } } := by
        simp [Service.step, heartbeat, Listener.handleHeartbeat, decoded]
      rw [same, Event.heard?, decoded]
      intro _
      exact (h.hear b now).weaken And.left
  | begin m clock =>
    obtain rfl : m = some now := still
    have nothing : heard ++ (Event.begin (some now) clock).heard?.toList = heard :=
      List.append_nil heard
    rw [nothing]
    cases busy : s.listener.flush with
    | some l =>
      simp only [Service.step, busy, Option.isSome_some, if_true]
      intro _
      exact h.weaken And.left
    | none =>
      simp only [Service.step, busy, Option.isSome_none, Bool.false_eq_true, if_false]
      cases h with
      | free backend holds flush inFlight account =>
        exact leads_begin backend holds inFlight account clock
      | syncing _ _ flush => cases busy.symm.trans flush
      | bumping _ _ flush => cases busy.symm.trans flush
      | revoking _ flush => cases busy.symm.trans flush
  | complete m clock =>
    obtain rfl : m = some now := still
    have nothing : heard ++ (Event.complete (some now) clock).heard?.toList = heard :=
      List.append_nil heard
    rw [nothing]
    exact leads_complete h sound clock
  | advertise m clock => cases still
  | carry c => cases still
  | startUsage clock => cases still
  | measureUsage clock => cases still
  | disk d => cases still

/-- A run without a refused batch. -/
theorem Phase.after (h : Phase o now unbroken s heard) (sound : ∀ b ∈ heard, b.IsSound)
    {es : List Event} (still : ∀ e ∈ es, e.IsAt now)
    (kept : ∀ x ∈ s.trace es, x.lost = false) :
    Phase o now (unbroken ∧ ∀ x ∈ s.trace es, x.ended ≠ some .broken) (s.after es)
      (heard ++ heardIn es) := by
  -- Each step leads to a phase of its own, from which the rest of the run goes on.
  induction es generalizing s heard unbroken with
  | nil => exact (List.append_nil heard).symm ▸ h.weaken And.left
  | cons e es ih =>
    have first := h.step sound (still e List.mem_cons_self) (kept _ List.mem_cons_self)
    have sound' : ∀ b ∈ heard ++ e.heard?.toList, b.IsSound := by
      intro b hb
      rcases List.mem_append.1 hb with old | new
      · exact sound b old
      · exact Event.isSound_of_heard? (Option.mem_toList.1 new)
    have rest := ih first sound' (fun d hd => still d (List.mem_cons_of_mem e hd))
      fun x hx => kept x (List.mem_cons_of_mem _ hx)
    rw [heardIn_cons, ← List.append_assoc]
    refine rest.weaken fun whole => ⟨⟨whole.1, whole.2 _ List.mem_cons_self⟩, fun x hx => ?_⟩
    exact whole.2 x (List.mem_cons_of_mem _ hx)

theorem phase_start {heartbeatTtl freshnessTtl : Duration} {d : Disk}
    (opened : FileStore.open? heartbeatTtl freshnessTtl d = .ok o) (c : ListenerConfig)
    (tracker : Option UsageTracker) (now : Moment) :
    Phase o now True (start c o d tracker) [] :=
  .free rfl (.opened opened now) rfl rfl ⟨rfl, fun _ => rfl⟩

/-- A run with the wall clock at one reading in which no flush ends with its batch refused, and
after which none is under way and nothing waits for the next one. -/
structure Standstill (s : Service) (now : Moment) (es : List Event) : Prop where
  still : ∀ e ∈ es, e.IsAt now
  kept : ∀ x ∈ s.trace es, x.lost = false
  free : (s.after es).listener.flush = none
  empty : (s.after es).listener.aggregation.pending = []

/-- All that came in during such a run is in the store, and counted unless a flush broke off. -/
theorem Standstill.stored {heartbeatTtl freshnessTtl : Duration} {d : Disk} {c : ListenerConfig}
    {tracker : Option UsageTracker} {es : List Event}
    (run : Standstill (start c o d tracker) now es)
    (opened : FileStore.open? heartbeatTtl freshnessTtl d = .ok o) :
    ∃ f' d', ((start c o d tracker).after es).backend = .file f' d' ∧
      o.Holds now f' d' (heardIn es) ∧
      ((∀ x ∈ (start c o d tracker).trace es, x.ended ≠ some .broken) →
        ((start c o d tracker).after es).listener.aggregation.totalSaved = (heardIn es).length) := by
  have phase := (phase_start opened c tracker now).after (List.forall_mem_nil _) run.still run.kept
  rw [List.nil_append] at phase
  have free := run.free
  cases phase with
  | @free f' d' stored backend holds flush inFlight account =>
    have all : stored = heardIn es := by simpa [run.empty] using account.came
    subst all
    exact ⟨f', d', backend, holds, fun whole => account.counted ⟨trivial, whole⟩⟩
  | syncing _ _ flush => cases free.symm.trans flush
  | bumping _ _ flush => cases free.symm.trans flush
  | revoking _ flush => cases free.symm.trans flush

/-- Two runs from the same store with the wall clock at the same reading: if the same heartbeats
of each DEA came in, in the same order, both leave the same DEAs in memory and in the file,
wherever their flushes began and ended; and if no flush broke off because its certificate would
end outside the calendar, both have counted the same. -/
theorem flush_boundaries_do_not_matter (c : ListenerConfig) (tracker : Option UsageTracker)
    {heartbeatTtl freshnessTtl : Duration} {d : Disk} {f : FileStore}
    (opened : FileStore.open? heartbeatTtl freshnessTtl d = .ok f) {now : Moment}
    {es₁ es₂ : List Event} (run₁ : Standstill (start c f d tracker) now es₁)
    (run₂ : Standstill (start c f d tracker) now es₂)
    (same : SameReports (heardIn es₁) (heardIn es₂)) :
    let s := start c f d tracker
    let s₁ := s.after es₁
    let s₂ := s.after es₂
    ∃ f₁ d₁ f₂ d₂, s₁.backend = .file f₁ d₁ ∧ s₂.backend = .file f₂ d₂ ∧
      f₁.memory.deas = f₂.memory.deas ∧
      (∃ doc₁ doc₂, FileStore.load d₁.target = .ok doc₁ ∧ FileStore.load d₂.target = .ok doc₂ ∧
        doc₁.deas = doc₂.deas) ∧
      ((∀ x ∈ s.trace es₁ ++ s.trace es₂, x.ended ≠ some .broken) →
        s₁.listener.aggregation.totalSaved = s₂.listener.aggregation.totalSaved) := by
  intro s s₁ s₂
  obtain ⟨f₁, d₁, backend₁, holds₁, counted₁⟩ := run₁.stored opened
  obtain ⟨f₂, d₂, backend₂, holds₂, counted₂⟩ := run₂.stored opened
  have memory : f₁.memory.deas = f₂.memory.deas := by
    rw [holds₁.memory, holds₂.memory, f.memory.deasAfter_of_sameReports f.heartbeatTtl same now]
  have file : (f₁.memory.onDisk !(heardIn es₁).isEmpty).deas =
      (f₂.memory.onDisk !(heardIn es₂).isEmpty).deas := by
    rw [same.isEmpty_eq]
    exact Document.deas_onDisk_congr memory _
  refine ⟨f₁, d₁, f₂, d₂, backend₁, backend₂, memory, ⟨_, _, holds₁.file, holds₂.file, file⟩,
    fun whole => ?_⟩
  rw [counted₁ fun x hx => whole x (List.mem_append_left _ hx),
    counted₂ fun x hx => whole x (List.mem_append_right _ hx), same.perm.length_eq]

/-- A record of the file runs out while three heartbeats come in. In one run each flush takes what
is there; in the other, where the heartbeats of two DEAs have changed places, one comes in during
a write. -/
theorem flush_boundaries_do_not_matter_during_write :
    let d : Disk := { target := .file (Text.Utf8.ofString
      ("\x7b\"deas\":\x7b\"z\":\x7b\"instance_heartbeats\":[]," ++
        "\"updated_at\":\"1970-01-01T00:00:00Z\"\x7d\x7d,\"freshness\":null\x7d")) }
    let f : FileStore :=
      ⟨30 * Time.second, 10 * Time.second, ⟨.insert .empty "z" ⟨[], ⟨0, 0⟩⟩, none⟩, {}⟩
    let now : Moment := ⟨100 * Time.second, 0⟩
    let a : Event := .heartbeat (Text.Utf8.ofString "\x7b\"dea\":\"a\"\x7d") now
    let b : Event := .heartbeat (Text.Utf8.ofString "\x7b\"dea\":\"b\"\x7d") now
    let again : Event := .heartbeat (Heartbeat.sample "a").encode now
    let begins : Event := .begin now 0
    let ends : Event := .complete now 0
    let es₁ := [a, begins, ends, ends, b, again, begins, ends, ends]
    let es₂ := [b, a, begins, again, ends, ends, begins, ends, ends]
    let s := start {} f d none
    FileStore.open? (30 * Time.second) (10 * Time.second) d = .ok f ∧
      Standstill s now es₁ ∧ Standstill s now es₂ ∧ SameReports (heardIn es₁) (heardIn es₂) ∧
      (∃ f₁ d₁ f₂ d₂, (s.after es₁).backend = .file f₁ d₁ ∧ (s.after es₂).backend = .file f₂ d₂ ∧
        f₁.memory.deas = f₂.memory.deas) ∧
      (s.after es₁).listener.aggregation.totalSaved =
        (s.after es₂).listener.aggregation.totalSaved := by
  intro d f now a b again begins ends es₁ es₂ s
  have loaded : FileStore.load d.target = .ok f.memory := by decide +kernel
  have opened : FileStore.open? (30 * Time.second) (10 * Time.second) d = .ok f :=
    FileStore.open?_of_load loaded ..
  have run₁ : Standstill s now es₁ :=
    ⟨by simp [es₁, a, b, again, begins, ends, Event.IsAt], by decide +kernel, by decide +kernel,
      by decide +kernel⟩
  have run₂ : Standstill s now es₂ :=
    ⟨by simp [es₂, a, b, again, begins, ends, Event.IsAt], by decide +kernel, by decide +kernel,
      by decide +kernel⟩
  have heard₁ : heardIn es₁ = [⟨"a", []⟩, ⟨"b", []⟩, .sample "a"] := by decide +kernel
  have heard₂ : heardIn es₂ = [⟨"b", []⟩, ⟨"a", []⟩, .sample "a"] := by decide +kernel
  have same : SameReports (heardIn es₁) (heardIn es₂) := by
    rw [heard₁, heard₂]
    exact SameReports.swap (by decide) [] [.sample "a"]
  have unbroken : ∀ x ∈ s.trace es₁ ++ s.trace es₂, x.ended ≠ some .broken := by decide +kernel
  refine ⟨opened, run₁, run₂, same, ?_⟩
  -- What is left does not depend on what the runs are, and they are long to compute.
  clear_value es₁ es₂ f d now
  obtain ⟨f₁, d₁, f₂, d₂, backend₁, backend₂, memory, -, counted⟩ :=
    flush_boundaries_do_not_matter {} none opened run₁ run₂ same
  exact ⟨⟨f₁, d₁, f₂, d₂, backend₁, backend₂, memory⟩, counted unbroken⟩

end Service

end ActualState
