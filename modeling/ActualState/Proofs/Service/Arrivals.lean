import ActualState.Proofs.Runtime.Run

/-!
# What comes in, and what the store answers

`replies` is all that a store answers in a run. An `Arrival` is a message that comes in between two
steps of a flush, or while none is under way: a heartbeat goes to the buffer, and an advertisement
may ask the store to bump. `Listener.asked` says which bumps are asked for. Without a call under way
they are made one by one, by a store of either kind; a store in a file that is writing makes them
wait, and has made them by the time the flush hears of the write.
-/
namespace ActualState

open Time (Moment Duration)

/-! ### What the store answers -/

/-- The answer that an input is. -/
def Listener.Input.answer? : Listener.Input → Option Answer
  | .answer a _ _ => some a
  | _ => none

namespace Service

/-- All that the store answers in a step: to an advertisement, to a flush, and to the bumps that
have waited for one. -/
def replies (s : Service) : Event → List Answer
  | .advertise now clock => (s.renewal now clock).toList
  | .begin now clock =>
    if s.listener.flush.isSome then []
    else (s.toldAtFlush now clock).filterMap Listener.Input.answer?
  | .complete now clock =>
    (s.toldAtCompletion now clock).filterMap Listener.Input.answer? ++ s.waited clock
  | _ => []

/-- All that the store answers in a run. -/
def repliesIn (s : Service) : List Event → List Answer
  | [] => []
  | e :: es => s.replies e ++ repliesIn (s.step e).1 es

/-- How the flushes of a run ended, in order. -/
def endsIn (s : Service) (es : List Event) : List FlushEnd := (s.trace es).filterMap (·.ended)

theorem after_append (s : Service) (es fs : List Event) :
    s.after (es ++ fs) = (s.after es).after fs := List.foldl_append

theorem repliesIn_append (s : Service) (es fs : List Event) :
    s.repliesIn (es ++ fs) = s.repliesIn es ++ (s.after es).repliesIn fs := by
  induction es generalizing s with
  | nil => rfl
  | cons e es ih => simp [repliesIn, ih]

@[simp] theorem endsIn_cons (s : Service) (e : Event) (es : List Event) :
    s.endsIn (e :: es) = (s.step e).2.ended.toList ++ (s.step e).1.endsIn es := by
  cases h : (s.step e).2.ended <;> simp [endsIn, h]

theorem endsIn_append (s : Service) (es fs : List Event) :
    s.endsIn (es ++ fs) = s.endsIn es ++ (s.after es).endsIn fs := by
  induction es generalizing s with
  | nil => rfl
  | cons e es ih => simp [ih]

end Service

/-! ### Messages on the heartbeat topic -/

/-- A message on the heartbeat topic and the time it came in. -/
abbrev Message := List UInt8 × Moment

/-- The buffer after some messages; those that cannot be read are dropped. -/
def Aggregation.hear (a : Aggregation) (ms : List Message) : Aggregation :=
  ms.foldl (fun a m =>
    match Heartbeat.decode m.1 with
    | .ok h => a.record h m.2
    | .error _ => a) a

namespace Aggregation

theorem hear_append (a : Aggregation) (ms ns : List Message) :
    a.hear (ms ++ ns) = (a.hear ms).hear ns := List.foldl_append

theorem totalSaved_hear (a : Aggregation) (ms : List Message) :
    (a.hear ms).totalSaved = a.totalSaved := by
  induction ms generalizing a with
  | nil => rfl
  | cons m ms ih =>
    simp only [hear, List.foldl_cons] at ih ⊢
    cases Heartbeat.decode m.1 with
    | error p => exact ih a
    | ok h => exact ih (a.record h m.2)

/-- Counting a batch as saved has nothing to do with what comes in meanwhile. -/
theorem hear_recordSaved (a : Aggregation) (n : Nat) (ms : List Message) :
    (a.recordSaved n).hear ms = (a.hear ms).recordSaved n := by
  induction ms generalizing a with
  | nil => rfl
  | cons m ms ih =>
    simp only [hear, List.foldl_cons] at ih ⊢
    cases Heartbeat.decode m.1 with
    | error p => exact ih a
    | ok h => exact ih (a.record h m.2)

/-- When the last heartbeat came in does not depend on the rest of the buffer. -/
theorem lastLiveness_hear {a b : Aggregation} (same : a.lastLiveness = b.lastLiveness)
    (ms : List Message) : (a.hear ms).lastLiveness = (b.hear ms).lastLiveness := by
  induction ms generalizing a b with
  | nil => exact same
  | cons m ms ih =>
    simp only [hear, List.foldl_cons] at ih ⊢
    cases Heartbeat.decode m.1 with
    | error p => exact ih same
    | ok h => exact ih (a := a.record h m.2) (b := b.record h m.2) rfl

end Aggregation

/-! ### Arrivals -/

/-- A message that comes in. -/
inductive Arrival where
  | heartbeat (m : Message)
  | advertise (now : Moment)
  deriving DecidableEq, Inhabited

/-- The message on the heartbeat topic that came in, if it was on that one. -/
def Arrival.message? : Arrival → Option Message
  | .heartbeat m => some m
  | .advertise _ => none

/-- The messages on the heartbeat topic among arrivals, in order. -/
def messagesOf (xs : List Arrival) : List Message := xs.filterMap Arrival.message?

@[simp] theorem messagesOf_append (xs ys : List Arrival) :
    messagesOf (xs ++ ys) = messagesOf xs ++ messagesOf ys := List.filterMap_append

@[simp] theorem messagesOf_heartbeats (ms : List Message) :
    messagesOf (ms.map .heartbeat) = ms := by
  induction ms with
  | nil => rfl
  | cons m ms ih => exact congrArg (m :: ·) ih

@[simp] theorem messagesOf_advertisements (ts : List Moment) :
    messagesOf (ts.map .advertise) = [] := by
  induction ts with
  | nil => rfl
  | cons t ts ih => exact ih

namespace Listener

/-- The listener after some messages on the heartbeat topic. -/
def hear (l : Listener) (ms : List Message) : Listener :=
  { l with aggregation := l.aggregation.hear ms }

@[simp] theorem hear_nil (l : Listener) : l.hear [] = l := rfl

/-- The bumps that arrivals lead to, in order: one for each advertisement after a silence. -/
def asked (l : Listener) : List Arrival → List Moment
  | [] => []
  | .heartbeat m :: xs => asked (l.hear [m]) xs
  | .advertise now :: xs => if l.isSilent now then now :: asked l xs else asked l xs

@[simp] theorem asked_heartbeats (l : Listener) (ms : List Message) :
    l.asked (ms.map .heartbeat) = [] := by
  induction ms generalizing l with
  | nil => rfl
  | cons m ms ih => exact ih (l.hear [m])

theorem asked_append (l : Listener) (xs ys : List Arrival) :
    l.asked (xs ++ ys) = l.asked xs ++ (l.hear (messagesOf xs)).asked ys := by
  induction xs generalizing l with
  | nil => rfl
  | cons x xs ih =>
    cases x with
    | heartbeat m =>
      have next := ih (l.hear [m])
      rwa [hear, hear, ← Aggregation.hear_append] at next
    | advertise now =>
      simp only [List.cons_append, asked, ih]
      split <;> rfl

/-- Two listeners of which the same arrivals ask the same bumps. -/
structure HearsAlike (l k : Listener) : Prop where
  config : l.config = k.config
  lastLiveness : l.aggregation.lastLiveness = k.aggregation.lastLiveness

namespace HearsAlike

variable {l k : Listener}

theorem hear (h : HearsAlike l k) (ms : List Message) : HearsAlike (l.hear ms) (k.hear ms) :=
  ⟨h.config, Aggregation.lastLiveness_hear h.lastLiveness ms⟩

theorem isSilent (h : HearsAlike l k) (now : Moment) : l.isSilent now = k.isSilent now := by
  rw [Listener.isSilent, Listener.isSilent, h.config, h.lastLiveness]

theorem asked (h : HearsAlike l k) (xs : List Arrival) : l.asked xs = k.asked xs := by
  induction xs generalizing l k with
  | nil => rfl
  | cons x xs ih =>
    cases x with
    | heartbeat m => exact ih (h.hear [m])
    | advertise now => simp only [Listener.asked, h.isSilent now, ih h]

end HearsAlike

end Listener

namespace Service

/-- The service after some messages on the heartbeat topic. -/
def hear (s : Service) (ms : List Message) : Service := { s with listener := s.listener.hear ms }

/-- Arrivals as events, of which the monotonic clock takes no notice. -/
def arrivals (clock : Duration) (xs : List Arrival) : List Event :=
  xs.map fun
    | .heartbeat m => .heartbeat m.1 (some m.2)
    | .advertise now => .advertise (some now) clock

theorem step_heartbeat (s : Service) (m : Message) :
    s.step (.heartbeat m.1 (some m.2)) = (s.hear [m], {}) := by
  cases decoded : Heartbeat.decode m.1 with
  | error p =>
    simp [step, heartbeat, Listener.handleHeartbeat, hear, Listener.hear, Aggregation.hear, decoded]
  | ok h =>
    simp [step, heartbeat, Listener.handleHeartbeat, hear, Listener.hear, Aggregation.hear, decoded]

theorem step_advertise (s : Service) (now : Moment) (clock : Duration) :
    (s.step (.advertise (some now) clock)).1 =
      if s.listener.isSilent now then (s.renew now clock).1 else s := s.advertise_eq now clock

@[simp] theorem endsIn_arrivals (s : Service) (clock : Duration) (xs : List Arrival) :
    s.endsIn (arrivals clock xs) = [] := by
  induction xs generalizing s with
  | nil => rfl
  | cons x xs ih =>
    cases x with
    | heartbeat m => exact ih _
    | advertise now => exact ih _

theorem hear_hear (s : Service) (ms ns : List Message) :
    (s.hear ms).hear ns = s.hear (ms ++ ns) := by
  simp only [hear, Listener.hear, Aggregation.hear_append]

/-! ### Calls that are done -/

/-- Bumps as calls, each with the reading of the wall clock that it certifies. -/
def bumps (ts : List Moment) : List (StoreCall × Moment) := ts.map fun t => (.bump t, t)

/-- A store in a file that a call has been done by. -/
structure Did (f : FileStore) (c : StoreCall) (now : Option Moment) (f' : FileStore) : Prop where
  heartbeatTtl : f'.heartbeatTtl = f.heartbeatTtl
  freshnessTtl : f'.freshnessTtl = f.freshnessTtl
  made : f.next? c now = some f'.memory

/-- A store in a file that some calls have been done by, one after the other. -/
inductive DidAll : FileStore → List (StoreCall × Moment) → FileStore → Prop
  | nil (f : FileStore) : DidAll f [] f
  | cons {f f' f'' : FileStore} {c : StoreCall} {m : Moment} {rest : List (StoreCall × Moment)}
      (first : Did f c (some m) f') (others : DidAll f' rest f'') : DidAll f ((c, m) :: rest) f''

/-- A store by script that does a call at once. -/
def Obeys (b : ScriptedStore) (c : StoreCall) (b' : ScriptedStore) : Prop :=
  ∀ now clock, (Backend.scripted b).begin c now clock = (.scripted b', .answered .done)

/-- A store by script that does some calls at once, one after the other. -/
inductive ObeysAll : ScriptedStore → List (StoreCall × Moment) → ScriptedStore → Prop
  | nil (b : ScriptedStore) : ObeysAll b [] b
  | cons {b b' b'' : ScriptedStore} {c : StoreCall} {m : Moment} {rest : List (StoreCall × Moment)}
      (first : Obeys b c b') (others : ObeysAll b' rest b'') : ObeysAll b ((c, m) :: rest) b''

theorem ObeysAll.split {b b' : ScriptedStore} {calls more : List (StoreCall × Moment)}
    (obeys : ObeysAll b (calls ++ more) b') :
    ∃ between, ObeysAll b calls between ∧ ObeysAll between more b' := by
  induction calls generalizing b with
  | nil => exact ⟨b, .nil b, obeys⟩
  | cons c calls ih =>
    cases obeys with
    | cons first others =>
      obtain ⟨between, before, after⟩ := ih others
      exact ⟨between, .cons first before, after⟩

namespace DidAll

variable {f g h : FileStore} {calls more : List (StoreCall × Moment)}

theorem heartbeatTtl (did : DidAll f calls g) : g.heartbeatTtl = f.heartbeatTtl := by
  induction did with
  | nil => rfl
  | cons first _ ih => exact ih.trans first.heartbeatTtl

theorem append (did : DidAll f calls g) (then_ : DidAll g more h) :
    DidAll f (calls ++ more) h := by
  induction did with
  | nil => exact then_
  | cons first _ ih => exact .cons first (ih then_)

end DidAll

/-- A bump does not look at the wall clock. -/
theorem Did.bump_at {f g : FileStore} {t : Moment} {now : Option Moment}
    (did : Did f (.bump t) now g) (now' : Option Moment) : Did f (.bump t) now' g :=
  ⟨did.heartbeatTtl, did.freshnessTtl, did.made⟩

/-- A batch and a bump may as well be done the other way round. -/
theorem Did.swap {f g h : FileStore} {batch : List Heartbeat} {write t : Moment}
    {now : Option Moment} (synced : Did f (.sync batch) (some write) g)
    (bumped : Did g (.bump t) now h) :
    ∃ g', Did f (.bump t) now g' ∧ Did g' (.sync batch) (some write) h := by
  obtain ⟨record, found, memory⟩ := Option.map_eq_some_iff.1 bumped.made
  have document : g.memory = f.memory.sync f.heartbeatTtl batch write :=
    (Option.some.inj synced.made).symm
  rw [synced.freshnessTtl] at found
  refine ⟨{ f with memory := { f.memory with freshness := some record } },
    ⟨rfl, rfl, Option.map_eq_some_iff.2 ⟨record, found, rfl⟩⟩,
    bumped.heartbeatTtl.trans synced.heartbeatTtl, bumped.freshnessTtl.trans synced.freshnessTtl,
    ?_⟩
  rw [← memory, document]
  rfl

/-- A batch may as well be done after the bumps that have waited for it. -/
theorem DidAll.sync_last {f g : FileStore} {batch : List Heartbeat} {write : Moment}
    {ts : List Moment} (did : DidAll f ((.sync batch, write) :: bumps ts) g) :
    DidAll f (bumps ts ++ [(.sync batch, write)]) g := by
  induction ts generalizing f with
  | nil => exact did
  | cons t ts ih =>
    cases did with
    | cons synced others =>
      cases others with
      | cons bumped rest =>
        obtain ⟨g', first, next⟩ := synced.swap bumped
        exact .cons first (ih (.cons next rest))

/-! ### Bumps of a store in a file -/

section File

variable {s : Service} {f : FileStore} {d : Disk} {now : Option Moment} {clock : Duration}

/-- A write that is done is in memory. -/
theorem did_of_complete {c : StoreCall} {w : PendingWrite} {began : Duration}
    (begun : f.begin c now began = .ok w) (done : (f.complete w d clock).2.2 = .done) :
    Did f c now (f.complete w d clock).1 := by
  obtain ⟨made, -⟩ := FileStore.begin_eq_ok begun
  obtain ⟨heartbeatTtl, ⟨-, memory, -⟩ | ⟨failed, -⟩⟩ := f.complete_cases w d clock
  · refine ⟨heartbeatTtl, ?_, by rw [memory, made]⟩
    unfold FileStore.complete
    split <;> rfl
  · cases failed.symm.trans done

theorem did_of_perform {c : StoreCall} {began ended : Duration}
    (done : (f.perform c now d began ended).2.2 = .done) :
    Did f c now (f.perform c now d began ended).1 := by
  unfold FileStore.perform at done ⊢
  cases begun : f.begin c now began with
  | error a =>
    rw [begun] at done
    exact absurd done (FileStore.ne_done_of_begin begun)
  | ok w =>
    rw [begun] at done
    exact did_of_complete begun done

theorem didAll_bumpAll {ts : List Moment} (done : ∀ a ∈ (f.bumpAll d clock ts).2.2, a = .done) :
    DidAll f (bumps ts) (f.bumpAll d clock ts).1 := by
  induction ts generalizing f d with
  | nil => exact .nil f
  | cons t ts ih =>
    have first (done : (f.perform (.bump t) none d clock clock).2.2 = .done) := did_of_perform done
    unfold FileStore.bumpAll at done ⊢
    generalize f.perform (.bump t) none d clock clock = r at first done
    obtain ⟨g, e, a⟩ := r
    obtain ⟨now, later⟩ := List.forall_mem_cons.1 done
    exact .cons ((first now).bump_at _) (ih later)

/-- A call made beside a flush and done at once. -/
theorem perform_of_done {c : StoreCall} (backend : s.backend = .file f d)
    (done : (s.perform c now clock).2 = .done) :
    ∃ f' d', Did f c now f' ∧ (s.perform c now clock).1 = { s with backend := .file f' d' } := by
  cases begun : f.begin c now clock with
  | error a =>
    have answer : (s.perform c now clock).2 = a := by
      simp only [perform, backend, Backend.begin, begun]
    exact absurd (answer.symm.trans done) (FileStore.ne_done_of_begin begun)
  | ok w =>
    have whole : s.perform c now clock = ({ s with
        backend := .file (f.complete w d clock).1 (f.complete w d clock).2.1 },
        (f.complete w d clock).2.2) := by
      simp only [perform, backend, Backend.begin, begun, Backend.complete, FileStore.bumpAll]
    rw [whole] at done ⊢
    exact ⟨_, _, did_of_complete begun done, rfl⟩

theorem replies_advertise (idle : s.inFlight = none) (now : Moment) (clock : Duration) :
    s.replies (.advertise (some now) clock) =
      if s.listener.isSilent now then [(s.perform (.bump now) none clock).2] else [] := by
  cases silent : s.listener.isSilent now <;>
    simp [replies, renewal, silent, renew_of_idle idle]

/-- Without a call under way the bumps that arrivals lead to are made one by one. -/
theorem arrivals_idle {xs : List Arrival} (backend : s.backend = .file f d)
    (idle : s.inFlight = none) (unfailing : ∀ a ∈ s.repliesIn (arrivals clock xs), a = .done) :
    ∃ f' d', DidAll f (bumps (s.listener.asked xs)) f' ∧
      s.after (arrivals clock xs) = { s.hear (messagesOf xs) with backend := .file f' d' } := by
  induction xs generalizing s f d with
  | nil => exact ⟨f, d, .nil f, by rw [← backend]; rfl⟩
  | cons x xs ih =>
    obtain ⟨first, later⟩ := List.forall_mem_append.1 unfailing
    cases x with
    | heartbeat m =>
      have heard := congrArg Prod.fst (s.step_heartbeat m)
      rw [heard] at later
      obtain ⟨f', d', did, rest⟩ := ih (s := s.hear [m]) backend idle later
      refine ⟨f', d', did, ?_⟩
      show (s.step (.heartbeat m.1 (some m.2))).1.after (arrivals clock xs) = _
      rw [heard, rest, hear_hear]
      rfl
    | advertise now =>
      have step := s.step_advertise now clock
      have replies := replies_advertise idle now clock
      show ∃ f' d', _ ∧ (s.step (.advertise (some now) clock)).1.after (arrivals clock xs) = _
      simp only [Listener.asked]
      cases silent : s.listener.isSilent now with
      | false =>
        rw [silent, if_neg Bool.false_ne_true] at step
        rw [step] at later ⊢
        exact ih backend idle later
      | true =>
        rw [silent, if_pos rfl, renew_of_idle idle] at step
        rw [silent, if_pos rfl] at replies
        have done := first _ (replies ▸ List.mem_singleton_self _)
        obtain ⟨g, e, bumped, made⟩ := perform_of_done backend done
        rw [made] at step
        rw [step] at later ⊢
        obtain ⟨f', d', did, rest⟩ := ih (s := { s with backend := .file g e }) rfl idle later
        exact ⟨f', d', .cons (bumped.bump_at _) did, rest⟩

/-- Beside a write the bumps that arrivals lead to wait. -/
theorem arrivals_beside {w : PendingWrite} {ts : List Moment} (backend : s.backend = .file f d)
    (inFlight : s.inFlight = some (.writing w ts)) (clock : Duration) (xs : List Arrival) :
    s.after (arrivals clock xs) =
      { s.hear (messagesOf xs) with
        inFlight := some (.writing w (ts ++ s.listener.asked xs)) } := by
  induction xs generalizing s ts with
  | nil =>
    rw [Listener.asked, List.append_nil, ← inFlight]
    rfl
  | cons x xs ih =>
    cases x with
    | heartbeat m =>
      show (s.step (.heartbeat m.1 (some m.2))).1.after (arrivals clock xs) = _
      rw [s.step_heartbeat m, ih (s := s.hear [m]) backend inFlight, hear_hear]
      rfl
    | advertise now =>
      show (s.step (.advertise (some now) clock)).1.after (arrivals clock xs) = _
      rw [s.step_advertise now clock]
      simp only [Listener.asked]
      cases s.listener.isSilent now with
      | false => exact ih backend inFlight
      | true =>
        rw [if_pos rfl, renew_of_writing backend inFlight, ih (s := { s with
          inFlight := some (.writing w (ts ++ [now])) }) backend rfl]
        simp only [List.append_assoc, List.singleton_append]
        rfl

end File

/-! ### Bumps of a store by script -/

section Script

variable {s : Service} {b b' : ScriptedStore} {clock : Duration}

theorem perform_of_obeys {c : StoreCall} {now : Option Moment} (backend : s.backend = .scripted b)
    (obeys : Obeys b c b') :
    s.perform c now clock = ({ s with backend := .scripted b' }, .done) := by
  simp only [perform, backend, obeys now clock]

/-- A store by script makes the bumps that arrivals lead to one by one. -/
theorem arrivals_overScript {xs : List Arrival} (backend : s.backend = .scripted b)
    (obeys : ObeysAll b (bumps (s.listener.asked xs)) b') :
    s.after (arrivals clock xs) = { s.hear (messagesOf xs) with backend := .scripted b' } := by
  induction xs generalizing s b with
  | nil =>
    cases obeys
    rw [← backend]
    rfl
  | cons x xs ih =>
    cases x with
    | heartbeat m =>
      show (s.step (.heartbeat m.1 (some m.2))).1.after (arrivals clock xs) = _
      rw [s.step_heartbeat m, ih (s := s.hear [m]) backend obeys, hear_hear]
      rfl
    | advertise now =>
      show (s.step (.advertise (some now) clock)).1.after (arrivals clock xs) = _
      rw [s.step_advertise now clock]
      simp only [Listener.asked] at obeys
      cases silent : s.listener.isSilent now with
      | false =>
        rw [silent] at obeys
        exact ih backend obeys
      | true =>
        rw [silent] at obeys
        cases obeys with
        | cons first others =>
          have free : s.backend.enqueue? s.inFlight now = none := by rw [backend]; rfl
          simp only [if_true, renew, free]
          rw [perform_of_obeys backend first]
          exact ih (s := { s with backend := .scripted _ }) rfl others

end Script

end Service

end ActualState
