import ActualState.Proofs.Service.Run

/-!
# Where the certificate of a service stands

Of a whole service a run needs little to tell when its state is certified fresh: the certificate
in memory, and the certificate that the write under way would leave there. That is its `Standing`,
and `Move` lists what one step can do to it. Bumps that wait for a write are made as soon as it is
complete, before the flush goes on; where the certificate stands then depends on whether one of them
was done.
-/
namespace ActualState

open Time (Moment Duration)

namespace Service

/-- The stage of a flush under way, and the certificate that its write would leave. -/
abbrev Pending := Option (FlushStage × Option FreshnessRecord)

/-- The certificate of a service over a file, and what its flush is about to write. -/
inductive Standing (s : Service) (c : Option FreshnessRecord) : Pending → Prop
  | free {f : FileStore} {d : Disk} (backend : s.backend = .file f d)
      (certificate : f.memory.freshness = c) (flush : s.listener.flush = none)
      (inFlight : s.inFlight = none) : Standing s c none
  | waiting {f : FileStore} {d : Disk} {l : Flush} {w : PendingWrite} {bumps : List Moment}
      (backend : s.backend = .file f d) (certificate : f.memory.freshness = c)
      (flush : s.listener.flush = some l) (inFlight : s.inFlight = some (.writing w bumps)) :
      Standing s c (some (l.stage, w.next.freshness))

theorem Standing.file {s : Service} {c : Option FreshnessRecord} {p : Pending}
    (h : Standing s c p) : ∃ f d, s.backend = .file f d ∧ f.memory.freshness = c := by
  cases h with
  | free backend certificate => exact ⟨_, _, backend, certificate⟩
  | waiting backend certificate => exact ⟨_, _, backend, certificate⟩

/-- What leaves the flush under way alone leaves what it is about to write. -/
theorem Standing.frame {s t : Service} {c c' : Option FreshnessRecord} {p : Pending}
    (h : Standing s c p) (flush : t.listener.flush = s.listener.flush)
    (inFlight : t.inFlight = s.inFlight)
    (file : ∃ f d, t.backend = .file f d ∧ f.memory.freshness = c') : Standing t c' p := by
  obtain ⟨f, d, backend, certificate⟩ := file
  cases h with
  | free _ _ free idle => exact .free backend certificate (flush.trans free) (inFlight.trans idle)
  | waiting _ _ busy writing =>
    exact .waiting backend certificate (flush.trans busy) (inFlight.trans writing)

/-- A flush has an answer to go on from. -/
structure Resumed (s : Service) (c : Option FreshnessRecord) (l : Flush) : Prop where
  backend : ∃ f d, s.backend = .file f d ∧ f.memory.freshness = c
  flush : s.listener.flush = some l
  inFlight : s.inFlight = none

/-- What a flush has come to: it is over, and `c` stands. -/
def Over (r : Service × Option FlushEnd) (c : Option FreshnessRecord) (e : FlushEnd) : Prop :=
  r.2 = some e ∧ Standing r.1 c none

/-- A flush that makes no further call is over. -/
theorem over_of_no_call {s : Service} {c : Option FreshnessRecord} {es : List Effect}
    (backend : ∃ f d, s.backend = .file f d ∧ f.memory.freshness = c)
    (free : s.listener.flush = none) (idle : s.inFlight = none) (quiet : callsOf es = [])
    {e : FlushEnd} (last : (es.filterMap Effect.end?).head? = some e) (calls : Nat)
    (now : Option Moment) (clock : Duration) : Over (proceed calls s es now clock) c e := by
  obtain ⟨f, d, file, certificate⟩ := backend
  obtain ⟨-, listener, kept, inFlight⟩ := s.carryOut_spec es
  rw [proceed_of_no_call calls s quiet]
  exact ⟨last, .free (kept.trans file) certificate (by rw [listener, free]) (inFlight.trans idle)⟩

namespace Resumed

variable {s : Service} {c : Option FreshnessRecord} {l : Flush} (calls : Nat) (now : Option Moment)
  (clock : Duration)

theorem finishes (h : Resumed s c l) {a : Answer} {es : List Effect}
    (effects : (s.listener.answer a now clock).2 = es) (quiet : callsOf es = [])
    (free : (s.listener.answer a now clock).1.flush = none) {e : FlushEnd}
    (last : (es.filterMap Effect.end?).head? = some e) : Over (s.goOn calls a now clock) c e := by
  rw [goOn, effects]
  exact over_of_no_call (s := { s with listener := (s.listener.answer a now clock).1 })
    h.backend free h.inFlight quiet last calls now clock

/-- A flush that makes a call waits for its disk, unless the call is refused at once. -/
theorem asks (h : Resumed s c l) {a : Answer} {call : StoreCall} {l' : Flush}
    (effects : (s.listener.answer a now clock).2 = [.call call])
    (flush : (s.listener.answer a now clock).1.flush = some l') :
    let t : Service := { s with listener := (s.listener.answer a now clock).1 }
    Resumed t c l' ∧
    ((∃ w : PendingWrite,
        (∃ f : FileStore, f.memory.freshness = c ∧ f.next? call now = some w.next) ∧
        (s.goOn (calls + 1) a now clock).2 = none ∧
        Standing (s.goOn (calls + 1) a now clock).1 c (some (l'.stage, w.next.freshness))) ∨
      ∃ b, b ≠ .done ∧ s.goOn (calls + 1) a now clock = t.goOn calls b now clock) := by
  intro t
  obtain ⟨f, d, backend, certificate⟩ := h.backend
  refine ⟨⟨⟨f, d, backend, certificate⟩, flush, h.inFlight⟩, ?_⟩
  have whole : s.goOn (calls + 1) a now clock = proceed (calls + 1) t [.call call] now clock := by
    rw [goOn, effects]
  rw [whole, proceed_call calls (s := t) backend call now clock]
  cases began : f.begin call now clock with
  | ok w =>
    exact .inl ⟨w, ⟨f, certificate, (FileStore.begin_eq_ok began).1⟩, rfl,
      .waiting backend certificate flush rfl⟩
  | error b =>
    exact .inr ⟨b, FileStore.ne_done_of_begin began, rfl⟩

/-- A flush is over when a date leaves the calendar. -/
theorem aborted (h : Resumed s c l) : Over (s.goOn calls .aborted now clock) c .broken := by
  have answer : s.listener.answer .aborted now clock = s.listener.breakOff :=
    Listener.answer_aborted h.flush
  exact h.finishes calls now clock (congrArg Prod.snd answer) rfl (by rw [answer]; rfl) rfl

/-- Whatever a bump is answered, the batch was saved. -/
theorem bumping (h : Resumed s c l) (stage : l.stage = .bumping) (a : Answer) :
    ∃ e, Over (s.goOn calls a now clock) c e ∧ e.isFailed = false := by
  have saved (alive : a ≠ .aborted) :
      s.listener.answer a now clock = s.listener.finishSaved l true :=
    Listener.answer_bumping h.flush stage alive
  by_cases alive : a = .aborted
  · subst alive
    exact ⟨.broken, h.aborted calls now clock, rfl⟩
  · exact ⟨_, h.finishes calls now clock (congrArg Prod.snd (saved alive))
      (Listener.callsOf_finishSaved _ _ _)
      (by rw [saved alive, Listener.flush_finishSaved]) (end_finishSaved _ _ _), rfl⟩

/-- Whatever a revocation is answered, the flush is over. -/
theorem revoking (h : Resumed s c l) (stage : l.stage = .revoking) (a : Answer) :
    ∃ e, Over (s.goOn calls a now clock) c e := by
  have failed (alive : a ≠ .aborted) :
      s.listener.answer a now clock = s.listener.finish l.received (.failed l.batch.length) :=
    Listener.answer_revoking h.flush stage alive
  by_cases alive : a = .aborted
  · subst alive
    exact ⟨.broken, h.aborted calls now clock⟩
  · exact ⟨_, h.finishes calls now clock (congrArg Prod.snd (failed alive))
      (Listener.callsOf_finish _ _ _)
      (by rw [failed alive, Listener.flush_finish]) (end_finish _ _ _)⟩

/-- A flush whose batch was refused revokes, if it can. -/
theorem refused (h : Resumed s c l) {b : Duration} (stage : l.stage = .syncing b) {a : Answer}
    (refused : a ≠ .done) :
    let r := s.goOn (calls + 1) a now clock
    (r.2 = none ∧ Standing r.1 c (some (.revoking, none))) ∨ ∃ e, Over r c e := by
  intro r
  cases a with
  | done => exact absurd rfl refused
  | aborted => exact .inr ⟨.broken, h.aborted (calls + 1) now clock⟩
  | failed e =>
    have answer : s.listener.answer (.failed e) now clock =
        ({ s.listener with flush := some { l with stage := .revoking } }, [.call .revoke]) :=
      Listener.answer_refused h.flush stage e
    obtain ⟨next, ⟨w, ⟨f, -, made⟩, waits, standing⟩ | ⟨a, -, atOnce⟩⟩ :=
      h.asks calls _ clock (congrArg Prod.snd answer) (by rw [answer])
    · rw [freshness_next? made] at standing
      exact .inl ⟨waits, standing⟩
    · right
      show ∃ o, Over (s.goOn (calls + 1) (.failed e) now clock) c o
      rw [atOnce]
      exact next.revoking calls now clock rfl a

/-- A flush whose batch is written bumps, if it was in time and if it can. -/
theorem synced (h : Resumed s c l) {b : Duration} (stage : l.stage = .syncing b) :
    let r := s.goOn (calls + 1) .done now clock
    (∃ n, r.2 = none ∧ Standing r.1 c (some (.bumping, n))) ∨
      ∃ e, Over r c e ∧ e.isFailed = false := by
  intro r
  by_cases early : clock - b < s.listener.config.syncInterval
  · cases now with
    | none =>
      have answer : s.listener.answer .done none clock = s.listener.breakOff :=
        Listener.answer_timeless h.flush stage early
      exact .inr ⟨.broken, h.finishes (calls + 1) none clock (congrArg Prod.snd answer) rfl
        (by rw [answer]; rfl) rfl, rfl⟩
    | some wall =>
      have answer : s.listener.answer .done (some wall) clock =
          ({ s.listener with flush := some { l with stage := .bumping } },
            [.call (.bump wall)]) :=
        Listener.answer_inTime h.flush stage early wall
      obtain ⟨next, ⟨w, -, waits, standing⟩ | ⟨a, -, atOnce⟩⟩ :=
        h.asks calls _ clock (congrArg Prod.snd answer) (by rw [answer])
      · exact .inl ⟨_, waits, standing⟩
      · right
        show ∃ e, Over (s.goOn (calls + 1) .done (some wall) clock) c e ∧ e.isFailed = false
        rw [atOnce]
        exact next.bumping calls _ clock rfl a
  · have answer : s.listener.answer .done now clock = s.listener.finishSaved l false :=
      Listener.answer_tooLate h.flush stage early
    exact .inr ⟨_, h.finishes (calls + 1) now clock (congrArg Prod.snd answer)
      (Listener.callsOf_finishSaved _ _ _) (by rw [answer, Listener.flush_finishSaved])
      (end_finishSaved _ _ _), rfl⟩

end Resumed

/-! ### What one step can do -/

/-- Where the certificate stands after bumps that were answered `as`: where it stood, unless one of
them was done. -/
def Renews (as : List Answer) (c c' : Option FreshnessRecord) : Prop := .done ∉ as → c' = c

theorem Renews.eq {c c' : Option FreshnessRecord} (h : Renews [] c c') : c' = c :=
  h List.not_mem_nil

/-- The certificate and the flush under way after a step, and what is seen of it, case by case. -/
inductive Move (c : Option FreshnessRecord) (p : Pending) :
    Sighting → Option FreshnessRecord → Pending → Prop
  | renewed {as : List Answer} {c' : Option FreshnessRecord} (renews : Renews as c c') :
      Move c p { renewals := as } c' p
  | began {b : Duration} (free : p = none) : Move c p {} c (some (.syncing b, c))
  | beganRevoking (free : p = none) : Move c p {} c (some (.revoking, none))
  | overAtOnce {e : FlushEnd} (free : p = none) : Move c p { ended := some e } c none
  | synced {b : Duration} {n m c' : Option FreshnessRecord} {as : List Answer}
      (waiting : p = some (.syncing b, n)) (renews : Renews as n c') :
      Move c p { renewals := as, answered := some (.syncing b, .done) } c' (some (.bumping, m))
  | saved {b : Duration} {n c' : Option FreshnessRecord} {e : FlushEnd} {as : List Answer}
      (waiting : p = some (.syncing b, n)) (kept : e.isFailed = false) (renews : Renews as n c') :
      Move c p { ended := some e, renewals := as, answered := some (.syncing b, .done) } c' none
  | refused {b : Duration} {n c' : Option FreshnessRecord} {a : Answer} {as : List Answer}
      (waiting : p = some (.syncing b, n)) (refused : a ≠ .done) (renews : Renews as c c') :
      Move c p { renewals := as, answered := some (.syncing b, a) } c' (some (.revoking, none))
  | dropped {b : Duration} {n c' : Option FreshnessRecord} {a : Answer} {e : FlushEnd}
      {as : List Answer} (waiting : p = some (.syncing b, n)) (refused : a ≠ .done)
      (renews : Renews as c c') :
      Move c p { ended := some e, renewals := as, answered := some (.syncing b, a) } c' none
  | bumped {n c' : Option FreshnessRecord} {e : FlushEnd} {as : List Answer}
      (waiting : p = some (.bumping, n)) (kept : e.isFailed = false) (renews : Renews as n c') :
      Move c p { ended := some e, renewals := as, answered := some (.bumping, .done) } c' none
  | notBumped {n c' : Option FreshnessRecord} {a : Answer} {e : FlushEnd} {as : List Answer}
      (waiting : p = some (.bumping, n)) (refused : a ≠ .done) (kept : e.isFailed = false)
      (renews : Renews as c c') :
      Move c p { ended := some e, renewals := as, answered := some (.bumping, a) } c' none
  | revoked {n c' : Option FreshnessRecord} {e : FlushEnd} {as : List Answer}
      (waiting : p = some (.revoking, n)) (renews : Renews as n c') :
      Move c p { ended := some e, renewals := as, answered := some (.revoking, .done) } c' none
  | notRevoked {n c' : Option FreshnessRecord} {a : Answer} {e : FlushEnd} {as : List Answer}
      (waiting : p = some (.revoking, n)) (refused : a ≠ .done) (renews : Renews as c c') :
      Move c p { ended := some e, renewals := as, answered := some (.revoking, a) } c' none

theorem Move.quiet {c : Option FreshnessRecord} {p : Pending} : Move c p {} c p :=
  .renewed fun _ => rfl

/-- A step of a service whose certificate stands at `c`, with `p` on its way. -/
def Moves (c : Option FreshnessRecord) (p : Pending) (r : Service × Sighting) : Prop :=
  ∃ c' p', Standing r.1 c' p' ∧ Move c p r.2 c' p'

variable {s : Service} {c : Option FreshnessRecord} {p : Pending}

/-- What leaves the flush under way and the document alone is not seen. -/
theorem moves_quiet {t : Service} (h : Standing s c p)
    (flush : t.listener.flush = s.listener.flush) (inFlight : t.inFlight = s.inFlight)
    (backend : ∀ f d, s.backend = .file f d →
      ∃ f' d', t.backend = .file f' d' ∧ f'.memory = f.memory) : Moves c p (t, {}) := by
  obtain ⟨f, d, file, certificate⟩ := h.file
  obtain ⟨f', d', file', memory⟩ := backend f d file
  exact ⟨c, p, h.frame flush inFlight ⟨f', d', file', by rw [memory, certificate]⟩, .quiet⟩

theorem moves_begin (h : Standing s c none) (now : Option Moment) (clock : Duration) :
    Moves c none ((s.beginFlush now clock).1, { ended := (s.beginFlush now clock).2 }) := by
  obtain ⟨f, d, backend, certificate, free, idle⟩ : ∃ f d, s.backend = .file f d ∧
      f.memory.freshness = c ∧ s.listener.flush = none ∧ s.inFlight = none := by
    cases h with
    | free backend certificate free idle => exact ⟨_, _, backend, certificate, free, idle⟩
  by_cases nothing : s.listener.aggregation.pending = []
  · let l := s.listener.drained
    let n := s.listener.aggregation.totalReceived
    obtain ⟨ended, standing⟩ : Over (s.beginFlush now clock) c (.finished .idle) := by
      rw [beginFlush, Listener.beginFlush_idle nothing]
      exact over_of_no_call (s := { s with listener := (l.finish n .idle).1 })
        ⟨f, d, backend, certificate⟩ (l.flush_finish n .idle) idle (l.callsOf_finish n .idle)
        (end_finish l n .idle) callsOfFlush now clock
    refine ⟨_, _, standing, ?_⟩
    rw [ended]
    exact .overAtOnce rfl
  · let l : Flush :=
      ⟨s.listener.aggregation.pending, s.listener.aggregation.totalReceived, .syncing clock⟩
    let t : Service := { s with listener := { s.listener.drained with flush := some l } }
    have whole : s.beginFlush now clock = proceed 2 t [.call (.sync l.batch)] now clock := by
      rw [beginFlush, Listener.beginFlush_sync nothing]
      rfl
    have called := proceed_call 1 (s := t) backend (.sync l.batch) now clock
    cases began : f.begin (.sync l.batch) now clock with
    | ok w =>
      rw [whole, called, began]
      have next := freshness_next? (FileStore.begin_eq_ok began).1
      have standing : Standing { t with inFlight := some (.writing w []) } c
          (some (l.stage, w.next.freshness)) := .waiting backend certificate rfl rfl
      rw [next, certificate] at standing
      exact ⟨_, _, standing, .began rfl⟩
    | error a =>
      rw [whole, called, began]
      have resumed : Resumed t c l := ⟨⟨f, d, backend, certificate⟩, rfl, idle⟩
      rcases resumed.refused 0 now clock rfl
        (FileStore.ne_done_of_begin began) with ⟨waits, standing⟩ | ⟨e, ended, standing⟩
      · refine ⟨_, _, standing, ?_⟩
        rw [waits]
        exact .beganRevoking rfl
      · refine ⟨_, _, standing, ?_⟩
        rw [ended]
        exact .overAtOnce rfl

theorem moves_complete (h : Standing s c p) (now : Option Moment) (clock : Duration) :
    Moves c p ((s.completeFlush now clock).1,
      { ended := (s.completeFlush now clock).2
        renewals := s.waited clock
        answered := s.answered clock }) := by
  cases h with
  | @free f d backend certificate free idle =>
    have still : s.completeFlush now clock = (s, none) := by simp [completeFlush, idle]
    have unanswered : s.answered clock = none := by simp [answered, free]
    have nothing : s.waited clock = [] := by simp [waited, backend, idle]
    rw [still, unanswered, nothing]
    exact ⟨c, none, .free backend certificate free idle, .quiet⟩
  | @waiting f d l w bumps backend certificate busy writing =>
    let t : Service := s.written f w bumps d clock
    let a : Answer := (f.complete w d clock).2.2
    let g : FileStore := (freed f w bumps d clock).1
    let as : List Answer := (freed f w bumps d clock).2.2
    have whole : s.completeFlush now clock = t.goOn 2 a now clock :=
      completeFlush_eq backend writing now clock
    have seen : s.answered clock = some (l.stage, a) := by
      simp [answered, busy, writing, backend, Backend.complete, a]
    have renewals : s.waited clock = as := by simp only [waited, backend, writing, as]
    rw [whole, seen, renewals]
    have r : Resumed t g.memory.freshness l := ⟨⟨_, _, rfl, rfl⟩, busy, rfl⟩
    rcases memory_freed f w bumps d clock with ⟨done, memory⟩ | ⟨failed, memory⟩
    · have answer : a = .done := done
      have renews : Renews as w.next.freshness g.memory.freshness :=
        fun refused => congrArg Document.freshness (memory refused)
      rw [answer]
      cases stage : l.stage with
      | syncing b =>
        rcases r.synced 1 now clock stage with
          ⟨n, waits, standing⟩ | ⟨e, ⟨ended, standing⟩, kept⟩
        · rw [waits]
          exact ⟨_, _, standing, .synced rfl renews⟩
        · rw [ended]
          exact ⟨_, _, standing, .saved rfl kept renews⟩
      | bumping =>
        obtain ⟨e, ⟨ended, standing⟩, kept⟩ :=
          r.bumping 2 now clock stage .done
        rw [ended]
        exact ⟨_, _, standing, .bumped rfl kept renews⟩
      | revoking =>
        obtain ⟨e, ended, standing⟩ := r.revoking 2 now clock stage .done
        rw [ended]
        exact ⟨_, _, standing, .revoked rfl renews⟩
    · have answer : a = .failed .io := failed
      have refused : a ≠ .done := by simp [answer]
      have renews : Renews as c g.memory.freshness := fun refused => by
        rw [memory refused, certificate]
      cases stage : l.stage with
      | syncing b =>
        rcases r.refused 1 now clock stage refused with
          ⟨waits, standing⟩ | ⟨e, ended, standing⟩
        · rw [waits]
          exact ⟨_, _, standing, .refused rfl refused renews⟩
        · rw [ended]
          exact ⟨_, _, standing, .dropped rfl refused renews⟩
      | bumping =>
        obtain ⟨e, ⟨ended, standing⟩, kept⟩ :=
          r.bumping 2 now clock stage a
        rw [ended]
        exact ⟨_, _, standing, .notBumped rfl refused kept renews⟩
      | revoking =>
        obtain ⟨e, ended, standing⟩ := r.revoking 2 now clock stage a
        rw [ended]
        exact ⟨_, _, standing, .notRevoked rfl refused renews⟩

/-- A bump without anything in between leaves all but the store alone. -/
theorem perform_bump {f : FileStore} {d : Disk} (backend : s.backend = .file f d) (at_ : Moment)
    (now : Option Moment) (clock : Duration) :
    ∃ f' d', s.perform (.bump at_) now clock =
        ({ s with backend := .file f' d' }, (f.perform (.bump at_) now d clock clock).2.2) ∧
      f.Renewed [(f.perform (.bump at_) now d clock clock).2.2] f' := by
  have renewed := f.renewed_perform at_ now d clock clock
  refine ⟨(f.perform (.bump at_) now d clock clock).1,
    (f.perform (.bump at_) now d clock clock).2.1, ?_, renewed⟩
  simp only [perform, backend, Backend.begin, FileStore.perform]
  cases f.begin (.bump at_) now clock with
  | error a => rfl
  | ok w => rfl

theorem moves_advertise (h : Standing s c p) (now : Option Moment) (clock : Duration) :
    Moves c p ((s.advertise now clock).1, { renewals := (s.renewal now clock).toList }) := by
  cases now with
  | none => exact ⟨c, p, h, .quiet⟩
  | some wall =>
    rw [advertise_eq, renewal]
    cases s.listener.isSilent wall with
    | false => exact ⟨c, p, h, .quiet⟩
    | true =>
      simp only [if_true]
      cases h with
      | @free f d backend certificate free idle =>
        obtain ⟨f', d', performed, renewed⟩ := perform_bump backend wall none clock
        rw [renew_of_idle idle, performed]
        refine ⟨f'.memory.freshness, none, .free rfl rfl free idle, .renewed fun refused => ?_⟩
        rw [renewed.memory refused, certificate]
      | waiting backend certificate busy writing =>
        rw [renew_of_writing backend writing]
        exact ⟨c, _, .waiting backend certificate busy rfl, .quiet⟩

theorem heartbeat_spec (s : Service) (payload : List UInt8) (now : Option Moment) :
    let t := (s.heartbeat payload now).1
    t.listener.flush = s.listener.flush ∧ t.inFlight = s.inFlight ∧ t.backend = s.backend := by
  intro t
  cases now with
  | some now =>
    have flush : (s.listener.handleHeartbeat payload now).1.flush = s.listener.flush := by
      unfold Listener.handleHeartbeat
      split <;> rfl
    exact ⟨flush, rfl, rfl⟩
  | none =>
    have kept : t = s := by
      simp only [t, heartbeat]
      split <;> rfl
    rw [kept]
    exact ⟨rfl, rfl, rfl⟩

theorem startUsage_spec (s : Service) (clock : Duration) {f : FileStore} {d : Disk}
    (backend : s.backend = .file f d) :
    let t := s.startUsage clock
    t.listener = s.listener ∧ t.inFlight = s.inFlight ∧
      ∃ f' d', t.backend = .file f' d' ∧ f'.memory = f.memory := by
  simp only [startUsage, backend]
  cases s.tracker with
  | none => exact ⟨rfl, rfl, f, d, backend, rfl⟩
  | some t =>
    cases t with
    | store => exact ⟨rfl, rfl, f.startUsage clock, d, rfl, rfl⟩
    | scripted rs started => exact ⟨rfl, rfl, f, d, rfl, rfl⟩

theorem measureUsage_spec (s : Service) (clock : Duration) {f : FileStore} {d : Disk}
    (backend : s.backend = .file f d) :
    let t := s.measureUsage clock
    t.listener = s.listener ∧ t.inFlight = s.inFlight ∧
      ∃ f' d', t.backend = .file f' d' ∧ f'.memory = f.memory := by
  have sampled : (f.measureUsage clock).1.memory = f.memory := by
    unfold FileStore.measureUsage
    split <;> rfl
  simp only [measureUsage, backend]
  cases s.tracker with
  | none => exact ⟨rfl, rfl, f, d, backend, rfl⟩
  | some t =>
    cases t with
    | store =>
      simp only [UsageTracker.measure]
      split
      · exact ⟨rfl, rfl, _, _, rfl, sampled⟩
      · exact ⟨rfl, rfl, _, _, rfl, sampled⟩
    | scripted rs started =>
      cases rs with
      | nil => exact ⟨rfl, rfl, f, d, rfl, rfl⟩
      | cons r rs =>
        cases r with
        | none => exact ⟨rfl, rfl, f, d, rfl, rfl⟩
        | some x => exact ⟨rfl, rfl, f, d, rfl, rfl⟩

/-- Every step is one of the moves. -/
theorem step_moves (h : Standing s c p) (e : Event) : Moves c p (s.step e) := by
  obtain ⟨f, d, file, -⟩ := h.file
  cases e with
  | heartbeat payload now =>
    obtain ⟨flush, inFlight, backend⟩ := s.heartbeat_spec payload now
    exact moves_quiet h flush inFlight fun f d file => ⟨f, d, backend.trans file, rfl⟩
  | advertise now clock => exact moves_advertise h now clock
  | carry cycle =>
    refine moves_quiet h ?_ rfl fun f d file => ⟨f, d, file, rfl⟩
    simp only [Listener.step]
    split <;> rfl
  | begin now clock =>
    simp only [step]
    split
    · exact ⟨c, p, h, .quiet⟩
    · next free =>
      cases h with
      | free backend certificate flush idle =>
        exact moves_begin (.free backend certificate flush idle) now clock
      | waiting _ _ busy => exact absurd (by rw [busy]; rfl) free
  | complete now clock => exact moves_complete h now clock
  | startUsage clock =>
    obtain ⟨listener, inFlight, kept⟩ := s.startUsage_spec clock file
    refine moves_quiet h (congrArg _ listener) inFlight fun f' d' file' => ?_
    obtain ⟨rfl, rfl⟩ := Backend.file.inj (file.symm.trans file')
    exact kept
  | measureUsage clock =>
    obtain ⟨listener, inFlight, kept⟩ := s.measureUsage_spec clock file
    refine moves_quiet h (congrArg _ listener) inFlight fun f' d' file' => ?_
    obtain ⟨rfl, rfl⟩ := Backend.file.inj (file.symm.trans file')
    exact kept
  | disk d =>
    refine moves_quiet h ?_ ?_ fun f d' file' => ?_
    · simp only [withDisk, file]
    · simp only [withDisk, file]
    · exact ⟨f, d, by simp only [withDisk, file'], rfl⟩

/-- What is seen of a run, and where the certificate stands after it. -/
theorem standing_start (config : ListenerConfig) (f : FileStore) (d : Disk)
    (tracker : Option UsageTracker) :
    Standing (start config f d tracker) f.memory.freshness none := .free rfl rfl rfl rfl

theorem Standing.after (h : Standing s c p) (es : List Event) :
    ∃ c' p', Standing (s.after es) c' p' := by
  induction es generalizing s c p with
  | nil => exact ⟨c, p, h⟩
  | cons e es ih =>
    obtain ⟨c', p', next, -⟩ := step_moves h e
    exact ih next

end Service

end ActualState
