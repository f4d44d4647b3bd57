import ActualState.Proofs.Store.Run

/-!
# The history of a store

A store keeps one record of a DEA, and a batch of heartbeats drops the records that its clock
finds too old. A `History` is what a store would keep if it only ever appended: all changes that
were made since it was opened. Readers see no difference, as long as their clock is not behind the
clock readings of the batches, whose own order does not matter.
-/
namespace ActualState

open Time (Moment Duration)

/-- A change that a store has made. -/
inductive Change where
  | heard (batch : List Heartbeat) (now : Moment)
  | certified (at_ : Moment)
  | revoked
  deriving DecidableEq, Inhabited

namespace Change

/-- The change that was made in an event; none if it was no call, or a call that was not done. -/
def ofStep? : Site.Event × Option Answer → Option Change
  | (.call (.sync batch) (some now) _ _, some .done) => some (.heard batch now)
  | (.call (.bump at_) _ _ _, some .done) => some (.certified at_)
  | (.call .revoke _ _ _, some .done) => some .revoked
  | _ => none

theorem ofStep?_of_ne_done {a : Answer} (refused : a ≠ .done) (c : StoreCall)
    (now : Option Moment) (began ended : Duration) :
    ofStep? (.call c now began ended, some a) = none := by
  unfold ofStep?
  split <;> simp_all

/-- The heartbeats of a change, each with the clock reading of its batch. -/
def reports : Change → List (Heartbeat × Moment)
  | .heard batch now => batch.map fun h => (h, now)
  | .certified _ | .revoked => []

/-- The clock reading of a batch. -/
def reading? : Change → Option Moment
  | .heard _ now => some now
  | .certified _ | .revoked => none

/-- What a change makes of the certificate of freshness, if it concerns it. -/
def certificate? (ttl : Duration) : Change → Option (Option FreshnessRecord)
  | .heard _ _ => none
  | .certified at_ => some (some ⟨at_, ⟨at_.instant + ttl, at_.offset⟩⟩)
  | .revoked => some none

end Change

/-- The changes that a store has made since it was opened, the oldest first. -/
abbrev History := List Change

namespace History

/-- The history of a run. -/
def ofTrace (t : Site.Trace) : History := t.filterMap Change.ofStep?

/-- All heartbeats, each with the clock reading of its batch. -/
def reports (h : History) : List (Heartbeat × Moment) := h.flatMap Change.reports

/-- The clock readings of all batches. -/
def readings (h : History) : List Moment := h.filterMap Change.reading?

/-- The record of a DEA by its last heartbeat; without one, as it was when the store was opened. -/
def lastRecord (h : History) (opened : Document) (guid : String) : Option DeaRecord :=
  ((h.reports.reverse.find? fun r => r.1.deaGuid = guid).map fun r => ⟨r.1.instances, r.2⟩).or
    (opened.deas.get? guid)

/-- The certificate by the last change that concerns it; without one, as it was when the store
was opened. -/
def lastCertificate (h : History) (opened : Document) (ttl : Duration) : Option FreshnessRecord :=
  (h.reverse.findSome? (Change.certificate? ttl)).getD opened.freshness

@[simp] theorem ofTrace_concat (t : Site.Trace) (x : Site.Event × Option Answer) :
    ofTrace (t ++ [x]) = ofTrace t ++ (Change.ofStep? x).toList := by
  cases h : Change.ofStep? x <;> simp [ofTrace, h]

/-- The last heartbeat of a batch counts, if it has one of that DEA. -/
theorem lastRecord_heard (h : History) (opened : Document) (batch : List Heartbeat)
    (now : Moment) (guid : String) :
    lastRecord (h ++ [.heard batch now]) opened guid =
      ((batch.reverse.find? fun b => b.deaGuid = guid).map fun b => ⟨b.instances, now⟩).or
        (h.lastRecord opened guid) := by
  have reports : reports (h ++ [.heard batch now]) = h.reports ++ batch.map fun b => (b, now) := by
    simp [reports, Change.reports]
  have newest : ((batch.map fun b => (b, now)).reverse.find? fun r => r.1.deaGuid = guid) =
      (batch.reverse.find? fun b => b.deaGuid = guid).map fun b => (b, now) := by
    rw [← List.map_reverse, List.find?_map]
    rfl
  rw [lastRecord, reports, List.reverse_append, List.find?_append, newest]
  cases batch.reverse.find? fun b => b.deaGuid = guid with
  | none => rfl
  | some b => rfl

/-- A change without heartbeats leaves all records as they are. -/
theorem lastRecord_of_reports_nil (h : History) (opened : Document) {x : Change}
    (silent : x.reports = []) (guid : String) :
    lastRecord (h ++ [x]) opened guid = h.lastRecord opened guid := by
  simp [lastRecord, reports, silent]

theorem lastCertificate_concat (h : History) (opened : Document) (ttl : Duration) (x : Change) :
    lastCertificate (h ++ [x]) opened ttl =
      (x.certificate? ttl).getD (h.lastCertificate opened ttl) := by
  cases hx : x.certificate? ttl <;> simp [lastCertificate, hx]

end History

/-- A record that is dead stays dead. -/
theorem DeaRecord.isAlive_eq_false_of_le {r : DeaRecord} {ttl : Duration} {m t : Moment}
    (dead : r.isAlive ttl m = false) (later : m.instant ≤ t.instant) :
    r.isAlive ttl t = false := by
  have old : ¬ m.since r.updatedAt < ttl := of_decide_eq_false dead
  have older : ¬ t.since r.updatedAt < ttl := by
    unfold Moment.since at old ⊢
    omega
  exact decide_eq_false older

namespace Document

theorem get?_record (d : Document) (batch : List Heartbeat) (now : Moment) (guid : String) :
    (d.record batch now).deas.get? guid =
      ((batch.reverse.find? fun b => b.deaGuid = guid).map fun b => ⟨b.instances, now⟩).or
        (d.deas.get? guid) := by
  have entries := Register.get?_foldl_insert
    (batch.map fun b => (b.deaGuid, (⟨b.instances, now⟩ : DeaRecord))) d.deas guid
  rw [List.foldl_map, ← List.map_reverse, List.find?_map] at entries
  simpa [record, Function.comp_def] using entries

theorem get?_alive (d : Document) (ttl : Duration) (now : Moment) (guid : String) :
    (d.alive ttl now).get? guid = (d.deas.get? guid).filter (·.isAlive ttl now) :=
  Register.get?_filter ..

end Document

/-- Whether a freshness holds is up to its end. -/
theorem isFreshAt_iff (f : Option FreshnessRecord) (t : Moment) :
    isFreshAt f t = true ↔ ∃ r, f = some r ∧ t.instant < r.expiresAt.instant := by
  cases f with
  | none => simp [isFreshAt]
  | some r => simp [isFreshAt, Moment.isBefore]

namespace FileStore

variable {s : FileStore} {now : Option Moment} {next : Document}

theorem next?_sync {batch : List Heartbeat} (made : s.next? (.sync batch) now = some next) :
    ∃ m, now = some m ∧ next = s.memory.sync s.heartbeatTtl batch m := by
  cases now with
  | none => simp [next?] at made
  | some m =>
    simp only [next?, Option.map_some, Option.some.injEq] at made
    exact ⟨m, rfl, made.symm⟩

theorem next?_bump {at_ : Moment} (made : s.next? (.bump at_) now = some next) :
    next = { s.memory with
      freshness := some ⟨at_, ⟨at_.instant + s.freshnessTtl, at_.offset⟩⟩ } := by
  simp only [next?, Document.bump?, FreshnessRecord.from?, Moment.add?] at made
  split at made <;> simp_all

theorem next?_revoke (made : s.next? .revoke now = some next) :
    next = { s.memory with freshness := none } :=
  (Option.some.inj made).symm

end FileStore

namespace Site

/-- How a store that was opened as `opened` stands to the history of its changes. It may have
forgotten a record, but only one that was dead at the clock reading of some batch. -/
structure Remembers (opened : FileStore) (h : History) (s : FileStore) : Prop where
  heartbeatTtl : s.heartbeatTtl = opened.heartbeatTtl
  freshnessTtl : s.freshnessTtl = opened.freshnessTtl
  record : ∀ guid, s.memory.deas.get? guid = h.lastRecord opened.memory guid ∨
    s.memory.deas.get? guid = none ∧ ∃ r, h.lastRecord opened.memory guid = some r ∧
      ∃ m ∈ h.readings, r.isAlive opened.heartbeatTtl m = false
  certificate : s.freshness = h.lastCertificate opened.memory opened.freshnessTtl

theorem Remembers.refl (s : FileStore) : Remembers s [] s where
  heartbeatTtl := rfl
  freshnessTtl := rfl
  record := fun _ => .inl rfl
  certificate := rfl

variable {opened s k : FileStore} {h : History}

/-- Only the memory and the lifetimes count. -/
theorem Remembers.congr (r : Remembers opened h s) (heartbeatTtl : k.heartbeatTtl = s.heartbeatTtl)
    (freshnessTtl : k.freshnessTtl = s.freshnessTtl) (memory : k.memory = s.memory) :
    Remembers opened h k where
  heartbeatTtl := heartbeatTtl.trans r.heartbeatTtl
  freshnessTtl := freshnessTtl.trans r.freshnessTtl
  record := memory ▸ r.record
  certificate := by
    rw [FileStore.freshness, memory]
    exact r.certificate

/-- A batch replaces the records it has heartbeats for. Every record that it drops is dead at its
own clock reading. -/
theorem Remembers.heard (r : Remembers opened h s) (batch : List Heartbeat) (now : Moment) :
    Remembers opened (h ++ [.heard batch now])
      { s with memory := s.memory.sync s.heartbeatTtl batch now } where
  heartbeatTtl := r.heartbeatTtl
  freshnessTtl := r.freshnessTtl
  record := by
    intro guid
    have readings : History.readings (h ++ [.heard batch now]) = h.readings ++ [now] := by
      simp [History.readings, Change.reading?]
    simp only [Document.sync, Document.prune, Register.get?_filter, Document.get?_record,
      History.lastRecord_heard, r.heartbeatTtl, readings]
    have drops : ∀ o : Option DeaRecord, o.filter (·.isAlive opened.heartbeatTtl now) = o ∨
        o.filter (·.isAlive opened.heartbeatTtl now) = none ∧
          ∃ d, o = some d ∧ d.isAlive opened.heartbeatTtl now = false := by
      intro o
      cases o with
      | none => exact .inl rfl
      | some d => cases ha : d.isAlive opened.heartbeatTtl now <;> simp [Option.filter, ha]
    rcases r.record guid with same | ⟨gone, d, last, m, hm, dead⟩
    · rw [same]
      rcases drops _ with kept | ⟨dropped, d, hd, dead⟩
      · exact .inl kept
      · exact .inr ⟨dropped, d, hd, now, by simp, dead⟩
    · rw [gone]
      cases batch.reverse.find? fun b => b.deaGuid = guid with
      | none => exact .inr ⟨rfl, d, last, m, by simp [hm], dead⟩
      | some b =>
        rcases drops (some ⟨b.instances, now⟩) with kept | ⟨dropped, d, hd, dead⟩
        · exact .inl kept
        · exact .inr ⟨dropped, d, hd, now, by simp, dead⟩
  certificate := by
    rw [History.lastCertificate_concat]
    exact r.certificate

/-- A change without heartbeats only concerns the certificate. -/
theorem Remembers.decreed (r : Remembers opened h s) {x : Change} {f : Option FreshnessRecord}
    (silent : x.reports = []) (unread : x.reading? = none)
    (decree : x.certificate? opened.freshnessTtl = some f) :
    Remembers opened (h ++ [x]) { s with memory := { s.memory with freshness := f } } where
  heartbeatTtl := r.heartbeatTtl
  freshnessTtl := r.freshnessTtl
  record := by
    intro guid
    have readings : History.readings (h ++ [x]) = h.readings := by
      simp [History.readings, unread]
    rw [History.lastRecord_of_reports_nil h opened.memory silent, readings]
    exact r.record guid
  certificate := by
    rw [History.lastCertificate_concat, decree]
    rfl

/-- A call that is done makes the change that it asks for, every other call makes none. -/
theorem Remembers.called {r t : Site} (m : Remembers opened h r.store) {c : StoreCall}
    {now : Option Moment} {a : Answer} (o : Outcome r c now t a) (began ended : Duration) :
    Remembers opened (h ++ (Change.ofStep? (.call c now began ended, some a)).toList) t.store := by
  cases o with
  | undone refused alike =>
    rw [Change.ofStep?_of_ne_done refused]
    simpa using m.congr alike.heartbeatTtl alike.freshnessTtl alike.memory
  | done made text heartbeatTtl freshnessTtl memory disk =>
    cases c with
    | sync batch =>
      obtain ⟨now, rfl, synced⟩ := FileStore.next?_sync made
      exact (m.heard batch now).congr heartbeatTtl freshnessTtl (memory.trans synced)
    | bump at_ =>
      have bumped := FileStore.next?_bump made
      rw [m.freshnessTtl] at bumped
      exact (m.decreed (x := .certified at_) rfl rfl rfl).congr heartbeatTtl freshnessTtl
        (memory.trans bumped)
    | revoke =>
      exact (m.decreed (x := .revoked) rfl rfl rfl).congr heartbeatTtl freshnessTtl
        (memory.trans (FileStore.next?_revoke made))

theorem Remembers.next {r : Site} (m : Remembers opened h r.store) (e : Event) :
    Remembers opened (h ++ (Change.ofStep? (e, (r.step e).2)).toList) (r.step e).1.store := by
  cases e with
  | call c now began ended => exact m.called (call_outcome r c now began ended) began ended
  | permit room movable => simpa [step, Change.ofStep?] using m
  | place e => simpa [step, Change.ofStep?] using m
  | litter e => simpa [step, Change.ofStep?] using m

theorem remembers_after (s : Site) (es : List Event) :
    Remembers s.store (.ofTrace (s.trace es)) (s.after es).store := by
  refine run_induction (P := fun r t => Remembers s.store (.ofTrace t) r.store) ?_ ?_ es
  · exact .refl s.store
  · intro r t e m
    rw [History.ofTrace_concat]
    exact m.next e

/-- What a store has forgotten was dead already for every reader who is not behind. -/
theorem Remembers.actualState (m : Remembers opened h s) {t : Moment}
    (later : ∀ m ∈ h.readings, m.instant ≤ t.instant) (guid : String) :
    (s.actualState t).get? guid =
      (h.lastRecord opened.memory guid).filter (·.isAlive opened.heartbeatTtl t) := by
  rw [FileStore.actualState, Document.get?_alive, m.heartbeatTtl]
  rcases m.record guid with same | ⟨gone, r, last, reading, hr, dead⟩
  · rw [same]
  · rw [gone, last]
    simp [Option.filter, DeaRecord.isAlive_eq_false_of_le dead (later reading hr)]

/-- A batch does not touch the certificate. -/
theorem Outcome.freshness_eq {s t : Site} {batch : List Heartbeat} {now : Option Moment}
    {a : Answer} (o : Outcome s (.sync batch) now t a) :
    t.store.freshness = s.store.freshness := by
  cases o with
  | undone refused alike => rw [FileStore.freshness, alike.memory, FileStore.freshness]
  | done made text heartbeatTtl freshnessTtl memory disk =>
    obtain ⟨now, rfl, synced⟩ := FileStore.next?_sync made
    rw [FileStore.freshness, memory, synced]
    rfl

/-- Every other call does not touch the records. -/
theorem Outcome.actualState_eq {s t : Site} {c : StoreCall} {now : Option Moment} {a : Answer}
    (o : Outcome s c now t a) (decree : ∀ batch, c ≠ .sync batch) (u : Moment) :
    t.store.actualState u = s.store.actualState u := by
  cases o with
  | undone refused alike =>
    rw [FileStore.actualState, alike.memory, alike.heartbeatTtl, FileStore.actualState]
  | done made text heartbeatTtl freshnessTtl memory disk =>
    rw [FileStore.actualState, memory, heartbeatTtl]
    cases c with
    | sync batch => exact absurd rfl (decree batch)
    | bump at_ =>
      rw [FileStore.next?_bump made]
      rfl
    | revoke =>
      rw [FileStore.next?_revoke made]
      rfl

/-- A store shows its readers the last heartbeat of every DEA as if no record had ever been
dropped, and the last certificate; batches do not touch the certificate, nor the certificates
the records. -/
theorem readers_see_history (s : Site) (es : List Event) :
    let h := History.ofTrace (s.trace es)
    let r := s.after es
    (∀ t : Moment, (∀ m ∈ h.readings, m.instant ≤ t.instant) → ∀ guid,
      (r.store.actualState t).get? guid = (h.lastRecord s.store.memory guid).filter
        fun d => t.since d.updatedAt < s.store.heartbeatTtl) ∧
      r.store.freshness = h.lastCertificate s.store.memory s.store.freshnessTtl ∧
      (∀ t, isFreshAt r.store.freshness t = true ↔
        ∃ f, h.lastCertificate s.store.memory s.store.freshnessTtl = some f ∧
          t.instant < f.expiresAt.instant) ∧
      (∀ batch now began ended,
        (r.call (.sync batch) now began ended).1.store.freshness = r.store.freshness) ∧
      ∀ c now began ended, (∀ batch, c ≠ .sync batch) →
        ∀ t, (r.call c now began ended).1.store.actualState t = r.store.actualState t := by
  have m := remembers_after s es
  refine ⟨fun t later guid => m.actualState later guid, m.certificate, fun t => ?_, ?_, ?_⟩
  · rw [m.certificate]
    exact isFreshAt_iff _ t
  · exact fun batch now began ended => (call_outcome _ _ now began ended).freshness_eq
  · exact fun c now began ended decree t =>
      (call_outcome _ c now began ended).actualState_eq decree t

/-- The clock steps back between two batches, and a third one drops a record. -/
theorem readers_see_history_dropped_record :
    let s : Site := ⟨⟨10, 5, .empty, {}⟩, {}⟩
    let es : List Event := [
      .call (.sync [⟨"a", []⟩, ⟨"b", []⟩]) (some ⟨100, 0⟩) 0 0,
      .call (.sync [⟨"a", []⟩]) (some ⟨95, 0⟩) 0 0,
      .call (.bump ⟨101, 0⟩) none 0 0,
      .call (.sync [⟨"c", []⟩]) (some ⟨108, 0⟩) 0 0]
    let h := History.ofTrace (s.trace es)
    let r := s.after es
    (∀ m ∈ h.readings, m.instant ≤ 108) ∧
      h.lastRecord s.store.memory "a" = some ⟨[], ⟨95, 0⟩⟩ ∧
      r.store.memory.deas.get? "a" = none ∧
      (r.store.actualState ⟨108, 0⟩).get? "a" = none ∧
      (r.store.actualState ⟨108, 0⟩).get? "b" = some ⟨[], ⟨100, 0⟩⟩ ∧
      r.store.freshness = some ⟨⟨101, 0⟩, ⟨106, 0⟩⟩ := by
  intro s es h r
  have later : ∀ m ∈ h.readings, m.instant ≤ (⟨108, 0⟩ : Moment).instant := by decide +kernel
  obtain ⟨records, certificate, -⟩ := readers_see_history s es
  have seen := records ⟨108, 0⟩ later
  have lastA : h.lastRecord s.store.memory "a" = some ⟨[], ⟨95, 0⟩⟩ := by decide +kernel
  have lastB : h.lastRecord s.store.memory "b" = some ⟨[], ⟨100, 0⟩⟩ := by decide +kernel
  refine ⟨later, lastA, ?_, ?_, ?_, ?_⟩
  · decide +kernel
  · rw [seen, lastA]
    decide
  · rw [seen, lastB]
    decide
  · rw [certificate]
    decide +kernel

end Site

end ActualState
