import ActualState.Proofs.Store.Run

/-!
# Failed calls of a store

A call that fails may leave a temporary file behind, and the time that it took counts as spent
writing. No later call looks at either. A run and the same run without the calls that failed are
therefore followed side by side: they stay `Alike`, and every call that is left is answered as
it was.
-/
namespace ActualState

open Time (Moment Duration)

namespace Site

variable {s t : Site}

theorem Alike.begin_eq (h : Alike s t) (c : StoreCall) (now : Option Moment) (clock : Duration) :
    s.store.begin c now clock = t.store.begin c now clock := by
  have next : s.store.next? c now = t.store.next? c now := by
    cases c <;> simp [FileStore.next?, h.memory, h.heartbeatTtl, h.freshnessTtl]
  rw [FileStore.begin, next, FileStore.begin]

/-- Stores that are alike answer a call alike, and stay alike. -/
theorem Alike.call (h : Alike s t) (c : StoreCall) (now : Option Moment) (began ended : Duration) :
    (s.call c now began ended).2 = (t.call c now began ended).2 ∧
      Alike (s.call c now began ended).1 (t.call c now began ended).1 := by
  unfold Site.call FileStore.perform
  rw [h.begin_eq]
  cases t.store.begin c now began with
  | error a => exact ⟨rfl, h⟩
  | ok w =>
    simp only [FileStore.complete, Disk.replace_eq, h.accepts]
    cases t.disk.accepts w.content with
    | true =>
      exact ⟨rfl, h.heartbeatTtl, h.freshnessTtl, rfl, rfl, h.room, h.movable, .rfl⟩
    | false =>
      have blocked : s.disk.leftover w.content = .directory ↔
          t.disk.leftover w.content = .directory := by
        rw [Disk.leftover_eq_directory, Disk.leftover_eq_directory, h.blocked]
      exact ⟨rfl, h.heartbeatTtl, h.freshnessTtl, h.memory, h.target, h.room, h.movable, blocked⟩

theorem Alike.step (h : Alike s t) (e : Event) :
    (s.step e).2 = (t.step e).2 ∧ Alike (s.step e).1 (t.step e).1 := by
  cases e with
  | call c now began ended =>
    obtain ⟨answer, alike⟩ := h.call c now began ended
    exact ⟨congrArg some answer, alike⟩
  | permit room movable =>
    exact ⟨rfl, h.heartbeatTtl, h.freshnessTtl, h.memory, h.target, rfl, rfl, h.blocked⟩
  | place e =>
    exact ⟨rfl, h.heartbeatTtl, h.freshnessTtl, h.memory, rfl, h.room, h.movable, h.blocked⟩
  | litter e =>
    exact ⟨rfl, h.heartbeatTtl, h.freshnessTtl, h.memory, h.target, h.room, h.movable, .rfl⟩

/-- Whether a step is a call that was not done. -/
def isFailure (x : Event × Option Answer) : Bool := x.2.any (· ≠ .done)

/-- A trace without the calls that were not done. -/
def Trace.withoutFailures (t : Trace) : Trace := t.filter fun x => !isFailure x

/-- The events of a trace. -/
def Trace.events (t : Trace) : List Event := t.map Prod.fst

/-- A call that is not done leaves everything in place that a later call looks at. -/
theorem Outcome.alike {c : StoreCall} {now : Option Moment} {a : Answer} (o : Outcome s c now t a)
    (refused : a ≠ .done) : Alike t s := by
  cases o with
  | done => exact absurd rfl refused
  | undone refused alike => exact alike

theorem alike_of_isFailure {e : Event} (failed : isFailure (e, (s.step e).2) = true) :
    Alike (s.step e).1 s := by
  cases e with
  | call c now began ended =>
    have refused : (s.call c now began ended).2 ≠ .done := by
      simpa [isFailure, Site.step] using failed
    exact (call_outcome s c now began ended).alike refused
  | permit room movable => simp [isFailure, Site.step] at failed
  | place e => simp [isFailure, Site.step] at failed
  | litter e => simp [isFailure, Site.step] at failed

/-- A run beside the same run without its failed calls. -/
theorem Alike.withoutFailures (h : Alike s t) (es : List Event) :
    t.trace (s.trace es).withoutFailures.events = (s.trace es).withoutFailures ∧
      Alike (s.after es) (t.after (s.trace es).withoutFailures.events) := by
  induction es generalizing s t with
  | nil => exact ⟨rfl, h⟩
  | cons e es ih =>
    cases failed : isFailure (e, (s.step e).2) with
    | true =>
      have next := ih ((alike_of_isFailure failed).trans h)
      simpa [Site.trace, Trace.withoutFailures, failed] using next
    | false =>
      obtain ⟨answer, alike⟩ := h.step e
      have next := ih alike
      rw [answer] at failed
      simpa [Site.trace, Trace.withoutFailures, Trace.events, failed, answer] using next

/-- After a call that was done, the file has the text of the document in memory. -/
theorem Outcome.persisted {c : StoreCall} {now : Option Moment} {a : Answer}
    (o : Outcome s c now t a) (done : a = .done) :
    ∃ content, t.store.memory.encode = .ok content ∧ t.disk.target = .file content := by
  cases o with
  | @done next content made text heartbeatTtl freshnessTtl memory disk =>
    exact ⟨content, memory ▸ text, by rw [disk]⟩
  | undone refused alike => exact absurd done refused

/-- A call that fails leaves the document in memory and the file as they are, and a run with
failed calls leaves them as if these had never been made: all other calls are answered as they
were, and what they write is the document in memory. -/
theorem failed_calls_never_happened (s : Site) (es : List Event) :
    let done := (s.trace es).withoutFailures
    let r := s.after es
    let k := s.after done.events
    s.trace done.events = done ∧
      k.store.memory = r.store.memory ∧
      k.store.freshness = r.store.freshness ∧
      (∀ t, isFreshAt k.store.freshness t = isFreshAt r.store.freshness t) ∧
      (∀ t, k.store.actualState t = r.store.actualState t) ∧
      k.disk.target = r.disk.target ∧
      FileStore.load k.disk.target = FileStore.load r.disk.target ∧
      ∀ c now began ended,
        let x := r.call c now began ended
        (x.2 ≠ .done → x.1.store.memory = r.store.memory ∧ x.1.disk.target = r.disk.target) ∧
        (x.2 = .done → ∃ content, x.1.store.memory.encode = .ok content ∧
          x.1.disk.target = .file content) := by
  intro done r k
  obtain ⟨trace, alike⟩ := (Alike.refl s).withoutFailures es
  have memory : k.store.memory = r.store.memory := alike.memory.symm
  have heartbeatTtl : k.store.heartbeatTtl = r.store.heartbeatTtl := alike.heartbeatTtl.symm
  have target : k.disk.target = r.disk.target := alike.target.symm
  have freshness : k.store.freshness = r.store.freshness := by
    rw [FileStore.freshness, memory, FileStore.freshness]
  refine ⟨trace, memory, freshness, fun t => by rw [freshness], fun t => ?_, target,
    by rw [target], fun c now began ended => ⟨fun refused => ?_, fun done => ?_⟩⟩
  · rw [FileStore.actualState, memory, heartbeatTtl, FileStore.actualState]
  · have same := (call_outcome r c now began ended).alike refused
    exact ⟨same.memory, same.target⟩
  · exact (call_outcome r c now began ended).persisted done

/-- A batch fails on a full disk and leaves a part of its text behind, then a bump succeeds. -/
theorem failed_calls_never_happened_full_disk :
    let s : Site := ⟨⟨10, 5, .empty, {}⟩, {}⟩
    let bump : Event := .call (.bump ⟨101, 0⟩) none 0 0
    let es : List Event := [.permit (some 3) true, .call (.sync [⟨"a", []⟩]) (some ⟨100, 0⟩) 0 0,
      .permit none true, bump]
    let done := (s.trace es).withoutFailures
    let r := s.after es
    (s.trace es).map Prod.snd = [none, some (.failed .io), none, some .done] ∧
      done.events = [.permit (some 3) true, .permit none true, bump] ∧
      (s.after done.events).store.memory = r.store.memory ∧
      (s.after done.events).disk.target = r.disk.target ∧
      r.store.memory = ⟨.empty, some ⟨⟨101, 0⟩, ⟨106, 0⟩⟩⟩ := by
  intro s bump es
  obtain ⟨-, memory, -, -, -, target, -⟩ := failed_calls_never_happened s es
  exact ⟨by decide +kernel, by decide +kernel, memory, target, by decide +kernel⟩

end Site

end ActualState
