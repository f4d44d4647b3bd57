import ActualState.Proofs.Service.Turns
import ActualState.Proofs.Store.Batches

/-!
# The store by script stands for the store in a file

A listener cannot tell the two kinds of store apart while neither fails and neither needs time.
`Mirrors` says how the two are kept alike: one overwrites and prunes what the other piles up, and
as long as no record has reached its age, the last heartbeat of each DEA is in both. Calls keep it,
and with it turns and runs.
-/
namespace ActualState

open Time (Moment Duration)

namespace Service

/-! ### How the two stores are kept alike -/

/-- Whether two readings of the wall clock lie less than `ttl` apart. -/
def Within (ttl : Duration) (a b : Moment) : Prop := (a.since b).natAbs < ttl

theorem Within.symm {ttl : Duration} {a b : Moment} (h : Within ttl a b) : Within ttl b a := by
  have same (i j : Int) : (i - j).natAbs = (j - i).natAbs := by omega
  rwa [Within, Moment.since, same]

/-- Less than `ttl` apart is more than nothing. -/
theorem within_self {ttl : Duration} {a b : Moment} (h : Within ttl a b) : Within ttl b b := by
  rw [Within, Moment.since, Int.sub_self]
  exact Nat.zero_lt_of_lt h

/-- When a batch is written by a call. -/
def written? : StoreCall × Moment → Option Moment
  | (.sync _, m) => some m
  | _ => none

theorem filterMap_written?_bumps (ts : List Moment) : (bumps ts).filterMap written? = [] := by
  induction ts with
  | nil => rfl
  | cons t ts ih => exact ih

/-- The latest instances of a DEA in some batches. -/
def lastInstances (batches : List (List Heartbeat)) (guid : String) :
    Option (List InstanceHeartbeat) :=
  (batches.flatten.reverse.find? (·.deaGuid = guid)).map (·.instances)

theorem lastInstances_concat (batches : List (List Heartbeat)) (batch : List Heartbeat)
    (guid : String) :
    lastInstances (batches ++ [batch]) guid =
      ((batch.reverse.find? (·.deaGuid = guid)).map (·.instances)).or
        (lastInstances batches guid) := by
  simp [lastInstances, List.find?_append, Option.map_or]

/-- A store by script and a store in a file that have done the same calls, with batches at
`written`. As long as these lie within the lifetime of a record, nothing has been pruned. -/
structure Mirrors (f : FileStore) (b : ScriptedStore) (written : List Moment) : Prop where
  freshnessTtl : f.freshnessTtl = ScriptedStore.freshnessTtl
  writeDelay : b.writeDelay = 0
  failSync : b.failSync = false
  failFreshness : b.failFreshness = false
  freshness : f.memory.freshness = b.freshness
  dated : ∀ guid r, f.memory.deas.get? guid = some r → r.updatedAt ∈ written
  instances : ∀ now, (now :: written).Pairwise (Within f.heartbeatTtl) →
    ∀ guid, (f.memory.deas.get? guid).map (·.instances) = lastInstances b.synced guid

namespace Mirrors

variable {f f' : FileStore} {b : ScriptedStore} {written : List Moment}

theorem weaken (h : Mirrors f b written) {more : List Moment} (sub : written.Sublist more) :
    Mirrors f b more where
  freshnessTtl := h.freshnessTtl
  writeDelay := h.writeDelay
  failSync := h.failSync
  failFreshness := h.failFreshness
  freshness := h.freshness
  dated := fun guid r found => sub.subset (h.dated guid r found)
  instances := fun now close => h.instances now (close.sublist (sub.cons_cons now))

theorem isAlive_of_within {r : DeaRecord} {ttl : Duration} {now : Moment}
    (close : Within ttl now r.updatedAt) : r.isAlive ttl now = true := by
  have below (i : Int) (n : Nat) (small : i.natAbs < n) : i < n := by omega
  exact decide_eq_true (below _ _ close)

/-- What is in the document after a batch, before the old records are dropped. -/
theorem filter_isAlive {ttl : Duration} {now : Moment} {x : Option DeaRecord}
    (close : ∀ r, x = some r → Within ttl now r.updatedAt) : x.filter (·.isAlive ttl now) = x := by
  cases x with
  | none => rfl
  | some r => simp [Option.filter, isAlive_of_within (close r rfl)]

/-- A batch leaves nothing behind but its own time and those before it. -/
theorem dated_sync (h : Mirrors f b written) (batch : List Heartbeat) (m : Moment) (guid : String)
    {r : DeaRecord}
    (found : ((batch.reverse.find? (·.deaGuid = guid)).map fun b => ⟨b.instances, m⟩).or
      (f.memory.deas.get? guid) = some r) : r.updatedAt = m ∨ r.updatedAt ∈ written := by
  rcases Option.or_eq_some_iff.1 found with new | ⟨-, old⟩
  · obtain ⟨c, -, rfl⟩ := Option.map_eq_some_iff.1 new
    exact .inl rfl
  · exact .inr (h.dated guid r old)

theorem synced (h : Mirrors f b written) {batch : List Heartbeat} {m : Moment}
    (did : Did f (.sync batch) (some m) f') (calls : List StoreCall) :
    Mirrors f' { b with calls, synced := b.synced ++ [batch] } (written ++ [m]) := by
  obtain ⟨_, same, memory⟩ := FileStore.next?_sync did.made
  cases same
  have get (guid : String) := congrArg (fun d => d.deas.get? guid) memory
  simp only [Document.get?_sync] at get
  refine ⟨did.freshnessTtl.trans h.freshnessTtl, h.writeDelay, h.failSync, h.failFreshness, ?_, ?_,
    ?_⟩
  · rw [memory]
    exact h.freshness
  · intro guid r found
    rw [get, Option.filter_eq_some_iff] at found
    rcases h.dated_sync batch m guid found.1 with now | before
    · simp [now]
    · simp [before]
  · intro now close guid
    rw [did.heartbeatTtl, ← List.cons_append] at close
    obtain ⟨before, -, last⟩ := List.pairwise_append.1 close
    have close' (w : Moment) (at_ : w = m ∨ w ∈ written) : Within f.heartbeatTtl m w := by
      rcases at_ with rfl | earlier
      · have near := last now List.mem_cons_self w (List.mem_singleton_self w)
        exact within_self near
      · exact (last w (List.mem_cons_of_mem now earlier) m (List.mem_singleton_self m)).symm
    rw [get, filter_isAlive fun r found => close' _ (h.dated_sync batch m guid found),
      lastInstances_concat, ← h.instances now before guid, Option.map_or, Option.map_map]
    rfl

/-- A call that is about the certificate alone. -/
theorem decreed (h : Mirrors f b written) {c : StoreCall} {m : Moment}
    (did : Did f c (some m) f') {x : Option FreshnessRecord}
    (made : f'.memory = { f.memory with freshness := x }) (calls : List StoreCall) :
    Mirrors f' { b with calls, freshness := x } written where
  freshnessTtl := did.freshnessTtl.trans h.freshnessTtl
  writeDelay := h.writeDelay
  failSync := h.failSync
  failFreshness := h.failFreshness
  freshness := by rw [made]
  dated := by rw [made]; exact h.dated
  instances := by rw [made, did.heartbeatTtl]; exact h.instances

/-- A call that the store in a file has done, the store by script does too. -/
theorem obeys (h : Mirrors f b written) {c : StoreCall} {m : Moment} (did : Did f c (some m) f') :
    ∃ b', Obeys b c b' ∧ Mirrors f' b' (written ++ (written? (c, m)).toList) := by
  cases c with
  | sync batch =>
    refine ⟨{ b.note (.sync batch) with synced := b.synced ++ [batch] }, ?_, h.synced did _⟩
    intro now clock
    simp [Backend.begin, ScriptedStore.note, ScriptedStore.completeSync, h.writeDelay, h.failSync]
  | bump at_ =>
    obtain ⟨record, found, made⟩ := Option.map_eq_some_iff.1 did.made
    rw [h.freshnessTtl] at found
    refine ⟨{ b.note (.bump at_) with freshness := some record }, ?_, ?_⟩
    · intro now clock
      simp [Backend.begin, ScriptedStore.note, ScriptedStore.answerBump, h.failFreshness, found]
    · exact (h.decreed did made.symm _).weaken (List.sublist_append_left ..)
  | revoke =>
    have made := FileStore.next?_revoke did.made
    refine ⟨{ b.note .revoke with freshness := none }, ?_, ?_⟩
    · intro now clock
      simp [Backend.begin, ScriptedStore.note, ScriptedStore.answerRevoke, h.failFreshness]
    · exact (h.decreed did made _).weaken (List.sublist_append_left ..)

/-- What the store in a file has done, the store by script does too. -/
theorem obeysAll {calls : List (StoreCall × Moment)} (h : Mirrors f b written)
    (did : DidAll f calls f') :
    ∃ b', ObeysAll b calls b' ∧ Mirrors f' b' (written ++ calls.filterMap written?) := by
  induction did generalizing b written with
  | nil f => exact ⟨b, .nil b, h.weaken (List.sublist_append_left ..)⟩
  | @cons f f' f'' c m rest first others ih =>
    obtain ⟨b', obeys, next⟩ := h.obeys first
    obtain ⟨b'', rest_, last⟩ := ih next
    refine ⟨b'', .cons obeys rest_, ?_⟩
    have whole : written ++ ((c, m) :: rest).filterMap written? =
        written ++ (written? (c, m)).toList ++ rest.filterMap written? := by
      cases seen : written? (c, m) <;> simp [seen]
    rwa [whole]

/-- While no record has reached its age, both show the same instances of the same DEAs. -/
theorem actualState (h : Mirrors f b written) {now : Moment}
    (close : (now :: written).Pairwise (Within f.heartbeatTtl)) (guid : String) :
    ((f.actualState now).get? guid).map (·.instances) =
      ((b.actualState now).get? guid).map (·.instances) := by
  have near := (List.pairwise_cons.1 close).1
  have piled : (b.actualState now).get? guid =
      (b.synced.flatten.reverse.find? (·.deaGuid = guid)).map fun c => ⟨c.instances, now⟩ := by
    have entries := Register.get?_foldl_insert
      (b.synced.flatten.map fun c => (c.deaGuid, (⟨c.instances, now⟩ : DeaRecord))) .empty guid
    rw [← List.map_reverse, List.find?_map] at entries
    simpa [ScriptedStore.actualState, Register.ofList, Function.comp_def] using entries
  rw [FileStore.actualState, Document.get?_alive,
    filter_isAlive fun r found => near _ (h.dated guid r found), h.instances now close, piled,
    lastInstances, Option.map_map]
  rfl

end Mirrors

/-! ### Runs side by side -/

/-- A listener over a store in a file and one over a store by script, between two turns. -/
structure Matched (ttl : Duration) (s t : Service) (written : List Moment) : Prop where
  listener : s.listener = t.listener
  reports : s.reports = t.reports
  free : s.listener.flush = none
  idle : s.inFlight = none ∧ t.inFlight = none
  stores : ∃ f d b, s.backend = .file f d ∧ t.backend = .scripted b ∧ f.heartbeatTtl = ttl ∧
    Mirrors f b written

namespace Matched

variable {ttl : Duration} {s t : Service} {written : List Moment}

theorem start {d : Disk} {f : FileStore} (absent : d.target = .absent)
    (opened : FileStore.open? ttl ScriptedStore.freshnessTtl d = .ok f) (c : ListenerConfig)
    (tracker : Option UsageTracker) :
    Matched ttl (start c f d tracker)
      { listener := .fresh c, backend := .scripted {}, tracker := tracker } [] where
  listener := rfl
  reports := rfl
  free := rfl
  idle := ⟨rfl, rfl⟩
  stores := by
    have empty : f = ⟨ttl, ScriptedStore.freshnessTtl, .empty, {}⟩ := by
      rw [FileStore.open?, absent] at opened
      exact (Except.ok.inj opened).symm
    subst empty
    exact ⟨_, d, {}, rfl, rfl, rfl, rfl, rfl, rfl, rfl, rfl, by simp [Document.empty],
      by simp [Document.empty, lastInstances]⟩

theorem weaken (h : Matched ttl s t written) {more : List Moment} (sub : written.Sublist more) :
    Matched ttl s t more where
  listener := h.listener
  reports := h.reports
  free := h.free
  idle := h.idle
  stores := by
    obtain ⟨f, d, b, file, script, same, mirrors⟩ := h.stores
    exact ⟨f, d, b, file, script, same, mirrors.weaken sub⟩

/-- Over both stores the same messages lead to the same. -/
theorem arrive (h : Matched ttl s t written) (clock : Duration) (xs : List Arrival)
    (unfailing : ∀ a ∈ s.repliesIn (arrivals clock xs), a = .done) :
    Matched ttl (s.after (arrivals clock xs)) (t.after (arrivals clock xs)) written ∧
      s.endsIn (arrivals clock xs) = t.endsIn (arrivals clock xs) := by
  obtain ⟨f, d, b, file, script, same, mirrors⟩ := h.stores
  obtain ⟨f', d', did, heard⟩ := arrivals_idle file h.idle.1 unfailing
  obtain ⟨b', obeys, next⟩ := mirrors.obeysAll did
  rw [h.listener] at obeys
  rw [heard, arrivals_overScript script obeys, endsIn_arrivals, endsIn_arrivals]
  refine ⟨⟨?_, h.reports, h.free, h.idle, f', d', b', rfl, rfl, did.heartbeatTtl.trans same, ?_⟩,
    rfl⟩
  · exact congrArg (Listener.hear · (messagesOf xs)) h.listener
  · rwa [filterMap_written?_bumps, List.append_nil] at next

/-- The next flush remembers the same total over both stores. -/
theorem carry (h : Matched ttl s t written) (m : SyncCycle) :
    Matched ttl (s.step (.carry m)).1 (t.step (.carry m)).1 written where
  listener := by
    simp only [step]
    rw [h.listener]
  reports := h.reports
  free := by simp [step, Listener.step, h.free]
  idle := h.idle
  stores := h.stores

/-- Over both stores a flush comes to the same. -/
theorem flush (h : Matched ttl s t written) {write stamp : Moment} {clock : Duration}
    {ahead : List Moment} {during : List Message} {since : List Arrival}
    (unfailing : ∀ a ∈ s.repliesIn (Turn.flush write stamp clock ahead during since).overFile,
      a = .done) :
    Matched ttl (s.after (Turn.flush write stamp clock ahead during since).overFile)
        (t.after (Turn.flush write stamp clock ahead during since).overScript)
        (written ++ [write]) ∧
      s.endsIn (Turn.flush write stamp clock ahead during since).overFile =
        t.endsIn (Turn.flush write stamp clock ahead during since).overScript := by
  obtain ⟨f, d, b, file, script, same, mirrors⟩ := h.stores
  obtain ⟨came, ends, f', d', file', did⟩ := flush_overFile file h.free h.idle.1 unfailing
  obtain ⟨b', obeys, next⟩ := mirrors.obeysAll did
  rw [h.listener] at obeys
  obtain ⟨came', ends', script'⟩ :=
    flush_overScript script (h.listener ▸ h.free) h.idle.2 obeys clock
  refine ⟨⟨?_, ?_, ?_, ⟨came.inFlight, came'.inFlight⟩, f', d', b', file', script', ?_, ?_⟩, ?_⟩
  · rw [came.listener, came'.listener, h.listener]
  · rw [came.reports, came'.reports, h.listener, h.reports]
  · rw [came.listener]
    exact s.listener.flush_flushed
  · exact did.heartbeatTtl.trans same
  · refine next.weaken (List.Sublist.append_left ?_ written)
    rw [Listener.errands, List.filterMap_append, List.filterMap_append, filterMap_written?_bumps,
      filterMap_written?_bumps, List.append_nil, List.nil_append, Listener.duties]
    split
    · exact List.nil_sublist _
    · split <;> exact List.Sublist.refl _
  · rw [ends, ends', h.listener]

/-- A turn in which no call of the store in a file fails. -/
theorem turn (h : Matched ttl s t written) (x : Turn)
    (unfailing : ∀ a ∈ s.repliesIn x.overFile, a = .done) :
    Matched ttl (s.after x.overFile) (t.after x.overScript) (written ++ x.written?.toList) ∧
      s.endsIn x.overFile = t.endsIn x.overScript := by
  cases x with
  | heartbeat payload now =>
    obtain ⟨next, ends⟩ := h.arrive 0 [.heartbeat (payload, now)] unfailing
    exact ⟨next.weaken (List.sublist_append_left ..), ends⟩
  | advertise now clock =>
    obtain ⟨next, ends⟩ := h.arrive clock [.advertise now] unfailing
    exact ⟨next.weaken (List.sublist_append_left ..), ends⟩
  | carry m => exact ⟨(h.carry m).weaken (List.sublist_append_left ..), rfl⟩
  | flush write stamp clock ahead during since => exact h.flush unfailing

/-- A run in which no call of the store in a file fails. -/
theorem run (h : Matched ttl s t written) (xs : List Turn)
    (unfailing : ∀ a ∈ s.repliesIn (xs.flatMap Turn.overFile), a = .done) :
    Matched ttl (s.after (xs.flatMap Turn.overFile)) (t.after (xs.flatMap Turn.overScript))
        (written ++ xs.filterMap Turn.written?) ∧
      s.endsIn (xs.flatMap Turn.overFile) = t.endsIn (xs.flatMap Turn.overScript) := by
  induction xs generalizing s t written with
  | nil => exact ⟨h.weaken (List.sublist_append_left ..), rfl⟩
  | cons x xs ih =>
    rw [List.flatMap_cons, repliesIn_append] at unfailing
    obtain ⟨first, ends⟩ := h.turn x fun a ha => unfailing a (List.mem_append_left _ ha)
    obtain ⟨rest, ends'⟩ := ih first fun a ha => unfailing a (List.mem_append_right _ ha)
    have whole : written ++ (x :: xs).filterMap Turn.written? =
        written ++ x.written?.toList ++ xs.filterMap Turn.written? := by
      cases seen : x.written? <;> simp [seen]
    simp only [List.flatMap_cons, after_append, endsIn_append, whole, ends, ends']
    exact ⟨rest, trivial⟩

end Matched

/-- A run over a store that was opened on a path where nothing stood and whose certificates last
thirty seconds, and the same run over a new store by script. If the store in the file does all
that it is asked, the flushes of both runs end alike, and after every turn the listeners and what
they have reported are the same, as is the certificate at any time. If the wall clock moved by
less than the lifetime of a record between any two batches and up to `now`, the same DEAs with the
same instances are part of both states. -/
theorem script_stands_for_file (c : ListenerConfig) (tracker : Option UsageTracker)
    {heartbeatTtl : Duration} {d : Disk} {f : FileStore} (absent : d.target = .absent)
    (opened : FileStore.open? heartbeatTtl (30 * Time.second) d = .ok f) (xs : List Turn)
    (unfailing : ∀ a ∈ (start c f d tracker).repliesIn (xs.flatMap Turn.overFile), a = .done) :
    let real := start c f d tracker
    let double : Service :=
      { listener := .fresh c, backend := .scripted {}, tracker := tracker }
    real.endsIn (xs.flatMap Turn.overFile) = double.endsIn (xs.flatMap Turn.overScript) ∧
      ∀ past, past <+: xs →
        let s := real.after (past.flatMap Turn.overFile)
        let t := double.after (past.flatMap Turn.overScript)
        s.listener = t.listener ∧ s.reports = t.reports ∧
          s.backend.freshness = t.backend.freshness ∧
          (∀ m, s.backend.isFresh m = t.backend.isFresh m) ∧
          ∀ now, (now :: past.filterMap Turn.written?).Pairwise (Within heartbeatTtl) →
            ∀ guid, ((s.backend.actualState now).get? guid).map (·.instances) =
              ((t.backend.actualState now).get? guid).map (·.instances) := by
  intro real double
  have started : Matched heartbeatTtl real double [] := .start absent opened c tracker
  refine ⟨(started.run xs unfailing).2, ?_⟩
  rintro past ⟨rest, rfl⟩ s t
  rw [List.flatMap_append, repliesIn_append] at unfailing
  have matched := (started.run past fun a ha => unfailing a (List.mem_append_left _ ha)).1
  obtain ⟨f', d', b', file, script, ttl, mirrors⟩ := matched.stores
  have freshness : s.backend.freshness = t.backend.freshness := by
    rw [file, script]
    exact mirrors.freshness
  refine ⟨matched.listener, matched.reports, freshness, ?_, ?_⟩
  · intro m
    rw [Backend.isFresh, Backend.isFresh, freshness]
  · intro now close guid
    subst ttl
    rw [file, script]
    exact mirrors.actualState close guid

/-- A heartbeat that comes in while a batch is being written is in the next one. After a silence an
advertisement renews the certificate; beside the batch and beside its certificate the bump waits. -/
theorem script_stands_for_file_message_during_write :
    let at_ (n : Nat) : Moment := ⟨n * Time.second, 0⟩
    let d : Disk := {}
    let f : FileStore := ⟨300 * Time.second, 30 * Time.second, .empty, {}⟩
    let message (guid : String) := (Heartbeat.sample guid).encode
    let xs : List Turn := [
      .heartbeat (message "a") (at_ 100),
      .flush (at_ 140) (at_ 141) 0 [at_ 140] [(message "b", at_ 140), (message "a", at_ 141)]
        [.advertise (at_ 180)],
      .flush (at_ 190) (at_ 190) 0 [] [] [],
      .advertise (at_ 200) 0]
    let real := start {} f d none
    let double : Service := { listener := .fresh {}, backend := .scripted {}, tracker := none }
    (d.target = .absent ∧ FileStore.open? (300 * Time.second) (30 * Time.second) d = .ok f ∧
        ∀ a ∈ real.repliesIn (xs.flatMap Turn.overFile), a = .done) ∧
      (at_ 200 :: xs.filterMap Turn.written?).Pairwise (Within (300 * Time.second)) ∧
      real.endsIn (xs.flatMap Turn.overFile) = double.endsIn (xs.flatMap Turn.overScript) ∧
      (real.after (xs.flatMap Turn.overFile)).backend.freshness =
        (double.after (xs.flatMap Turn.overScript)).backend.freshness ∧
      ∀ guid,
        (((real.after (xs.flatMap Turn.overFile)).backend.actualState (at_ 200)).get? guid).map
            (·.instances) =
          (((double.after (xs.flatMap Turn.overScript)).backend.actualState
            (at_ 200)).get? guid).map (·.instances) := by
  intro at_ d f message xs real double
  have absent : d.target = .absent := rfl
  have opened : FileStore.open? (300 * Time.second) (30 * Time.second) d = .ok f := rfl
  have unfailing : ∀ a ∈ real.repliesIn (xs.flatMap Turn.overFile), a = .done := by
    decide +kernel
  have close : (at_ 200 :: xs.filterMap Turn.written?).Pairwise (Within (300 * Time.second)) := by
    have times : xs.filterMap Turn.written? = [at_ 140, at_ 190] := rfl
    simp [times, at_, Within, Moment.since, Time.second]
  -- What is left does not depend on what the run is, and it is long to compute.
  clear_value xs f d
  obtain ⟨ends, points⟩ := script_stands_for_file {} none absent opened xs unfailing
  obtain ⟨-, -, freshness, -, states⟩ := points xs (List.prefix_refl xs)
  exact ⟨⟨absent, opened, unfailing⟩, close, ends, freshness, states (at_ 200) close⟩

end Service

end ActualState
