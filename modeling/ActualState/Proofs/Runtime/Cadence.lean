import ActualState.Proofs.Runtime.Run
import Mathlib.Data.List.Chain

/-!
# The cadence of flushes

The flush loop of a started listener flushes when it first runs and then after every tick. An
observer with a monotonic clock who sees what the listener is told and does writes down a `Span` for
every flush. Spans never overlap; a flush begins at most the tolerance of the ticker earlier than
one period after the flush before it, however long that took, so that a slow flush shifts the
following ones and nothing is caught up. Where no tick is late and every flush is over when the next
one is due, the flushes are exactly one period apart.
-/
namespace ActualState

open Time (Moment Duration Ticker)

/-- A flush as an observer with a monotonic clock sees it. -/
structure Span where
  began : Duration
  ended : Option Duration := none
  deriving DecidableEq, Inhabited

namespace Span

/-- Writes down an input and what the listener did about it; the newest flush comes first. -/
def observe (spans : List Span) : Listener.Input × List Effect → List Span
  | (.flush clock, es) => ⟨clock, if es.any Effect.isEnd then some clock else none⟩ :: spans
  | (.answer _ _ clock, es) =>
    match spans with
    | a :: rest => if es.any Effect.isEnd then { a with ended := some clock } :: rest else spans
    | [] => []
  | _ => spans

/-- What is written down of a listener that is told `is`. -/
def observeAll (spans : List Span) (l : Listener) (is : List Listener.Input) : List Span :=
  (l.trace is).foldl observe spans

/-- The flushes of a listener that is told `is`, in order. -/
def flushesOf (l : Listener) (is : List Listener.Input) : List Span :=
  (observeAll [] l is).reverse

/-- A flush `b` comes after a flush `a`, that has ended, and keeps its distance. -/
def KeepsDistance (p : Duration) (a b : Span) : Prop :=
  ∃ e, a.ended = some e ∧ a.began ≤ e ∧ e ≤ b.began ∧ a.began + p ≤ b.began + Ticker.tolerance

/-- Whether a flush was over at an instant. -/
def IsOverBy (a : Span) (clock : Duration) : Prop := ∃ e, a.ended = some e ∧ e ≤ clock

/-! ### What is written down -/

theorem observeAll_append (spans : List Span) (l : Listener) (is js : List Listener.Input) :
    observeAll spans l (is ++ js) = observeAll (observeAll spans l is) (l.after is) js := by
  simp [observeAll, Listener.trace_append]

theorem observeAll_messages (spans : List Span) (l : Listener) {is : List Listener.Input}
    (messages : ∀ i ∈ is, i.isMessage = true) : observeAll spans l is = spans := by
  induction is generalizing l with
  | nil => rfl
  | cons i is ih =>
    have rest := ih (l.step i).1 fun j hj => messages j (List.mem_cons_of_mem _ hj)
    have first : i.isMessage = true := messages i List.mem_cons_self
    cases i with
    | heartbeat payload now => exact rest
    | advertise now stamp => exact rest
    | carry c => simp [Listener.Input.isMessage] at first
    | flush clock => simp [Listener.Input.isMessage] at first
    | answer a now clock => simp [Listener.Input.isMessage] at first

theorem any_isEnd_beginFlush (l : Listener) (clock : Duration) (free : l.flush = none) :
    (l.beginFlush clock).2.any Effect.isEnd = (l.beginFlush clock).1.flush.isNone := by
  have m := l.move_flush clock free
  generalize (l.beginFlush clock).1 = k, (l.beginFlush clock).2 = es at m
  cases m with
  | idle => simp
  | began => rfl
  | flushIgnored busy => simp [free] at busy

theorem any_isEnd_answer (l : Listener) (a : Answer) (now : Option Moment) (clock : Duration) :
    (l.answer a now clock).2.any Effect.isEnd =
      (l.flush.isSome && (l.answer a now clock).1.flush.isNone) := by
  have m := l.move_answer a now clock
  generalize (l.answer a now clock).1 = k, (l.answer a now clock).2 = es at m
  cases m with
  | unasked free => simp [free]
  | aborted busy => simp [busy, Effect.isEnd]
  | inTime busy => simp [Effect.isEnd]
  | timeless busy => simp [busy, Effect.isEnd]
  | tooLate busy => simp [busy]
  | refused busy => simp [Effect.isEnd]
  | bumped busy => simp [busy]
  | revoked busy => simp [busy]

theorem answer_of_free {l : Listener} (free : l.flush = none) (a : Answer) (now : Option Moment)
    (clock : Duration) : l.answer a now clock = (l, []) := by
  simp [Listener.answer, free]

theorem after_answers_of_free {l : Listener} (free : l.flush = none) {clock : Duration}
    {is : List Listener.Input} (answers : ∀ i ∈ is, i.IsAnswerAt clock) : l.after is = l := by
  induction is with
  | nil => rfl
  | cons i is ih =>
    obtain ⟨a, now, rfl⟩ := answers i List.mem_cons_self
    have stays : (l.step (.answer a now clock)).1 = l := by
      simp [Listener.step, answer_of_free free]
    show (l.step (.answer a now clock)).1.after is = l
    rw [stays]
    exact ih fun j hj => answers j (List.mem_cons_of_mem _ hj)

theorem observeAll_answers_of_free (spans : List Span) {l : Listener} (free : l.flush = none)
    {clock : Duration} {is : List Listener.Input} (answers : ∀ i ∈ is, i.IsAnswerAt clock) :
    observeAll spans l is = spans := by
  induction is with
  | nil => rfl
  | cons i is ih =>
    obtain ⟨a, now, rfl⟩ := answers i List.mem_cons_self
    have stays : observe spans (.answer a now clock, (l.answer a now clock).2) = spans := by
      rw [answer_of_free free]
      cases spans <;> rfl
    show (((l.answer a now clock).1.trace is).foldl observe
      (observe spans (.answer a now clock, (l.answer a now clock).2))) = spans
    rw [stays, answer_of_free free]
    exact ih fun j hj => answers j (List.mem_cons_of_mem _ hj)

/-- The newest flush, which is under way, is over with the answers at an instant, or goes on. -/
theorem observeAll_answers (a : Span) (rest : List Span) {l : Listener}
    (busy : l.flush.isSome = true) {clock : Duration} {is : List Listener.Input}
    (answers : ∀ i ∈ is, i.IsAnswerAt clock) :
    observeAll (a :: rest) l is =
      (if (l.after is).flush.isSome then a else { a with ended := some clock }) :: rest := by
  induction is generalizing l with
  | nil => simp [observeAll, Listener.trace, Listener.after, busy]
  | cons i is ih =>
    obtain ⟨x, now, rfl⟩ := answers i List.mem_cons_self
    have later : ∀ j ∈ is, j.IsAnswerAt clock := fun j hj => answers j (List.mem_cons_of_mem _ hj)
    have ends := any_isEnd_answer l x now clock
    rw [busy, Bool.true_and] at ends
    show observeAll (observe (a :: rest) (.answer x now clock, (l.answer x now clock).2))
        (l.answer x now clock).1 is =
      (if ((l.answer x now clock).1.after is).flush.isSome then _ else _) :: rest
    cases next : (l.answer x now clock).1.flush with
    | none =>
      rw [next] at ends
      rw [after_answers_of_free next later, observeAll_answers_of_free _ next later]
      simp [observe, ends, next]
    | some f =>
      rw [next] at ends
      have same : observe (a :: rest) (.answer x now clock, (l.answer x now clock).2) =
          a :: rest := by simp [observe, ends]
      rw [same]
      exact ih (by simp [next]) later

theorem observeAll_toldAtFlush (spans : List Span) (s : Service) (free : s.listener.flush = none)
    (idle : s.inFlight = none) (now : Option Moment) (clock : Duration) :
    observeAll spans s.listener (s.toldAtFlush now clock) =
      ⟨clock, if (s.beginFlush now clock).2.isNone then none else some clock⟩ :: spans := by
  obtain ⟨rests, heard⟩ := s.beginFlush_spec free idle now clock
  have answers := Service.isAnswerAt_answersAtOnce Service.callsOfFlush
    { s with listener := (s.listener.beginFlush clock).1 } (s.listener.beginFlush clock).2 now clock
  have first : s.listener.step (.flush clock) = s.listener.beginFlush clock := by
    simp [Listener.step, free]
  have ends := any_isEnd_beginFlush s.listener clock free
  rw [← rests.flush, heard.listener]
  unfold Service.toldAtFlush
  generalize Service.answersAtOnce _ _ _ now clock = is at answers ⊢
  show observeAll (observe spans (.flush clock, (s.listener.step (.flush clock)).2))
      (s.listener.step (.flush clock)).1 is =
    ⟨clock, if ((s.listener.step (.flush clock)).1.after is).flush.isSome then _ else _⟩ :: spans
  rw [first]
  cases next : (s.listener.beginFlush clock).1.flush with
  | none =>
    rw [after_answers_of_free next answers, observeAll_answers_of_free _ next answers]
    simp [observe, ends, next]
  | some f =>
    have begun : observe spans (.flush clock, (s.listener.beginFlush clock).2) =
        ⟨clock, none⟩ :: spans := by simp [observe, ends, next]
    rw [begun, observeAll_answers _ _ (by simp [next]) answers]
    split <;> rfl

theorem observeAll_toldAtCompletion (a : Span) (rest : List Span) (s : Service) {f : Flush}
    (busy : s.listener.flush = some f) {c : InFlight} (waiting : s.inFlight = some c)
    (now : Option Moment) (clock : Duration) :
    observeAll (a :: rest) s.listener (s.toldAtCompletion now clock) =
      (if (s.completeFlush now clock).2.isNone then a else { a with ended := some clock }) ::
        rest := by
  obtain ⟨rests, heard⟩ := s.completeFlush_spec busy waiting now clock
  rw [← rests.flush, heard.listener]
  exact observeAll_answers a rest (by simp [busy]) (s.isAnswerAt_toldAtCompletion now clock)

end Span

/-- The ticker behind a flush loop that goes on. -/
def FlushLoop.ticker? : FlushLoop → Option Ticker
  | .waiting t | .flushing t => some t
  | .starting | .ended => none

/-- Whether the clock may go on from `last` to `clock` without a late tick: a loop that waits does
not let it pass the instant at which its tick completes. -/
def FlushLoop.allows (loop : FlushLoop) (last clock : Duration) : Bool :=
  match loop with
  | .waiting t => clock ≤ t.completion last
  | .starting | .flushing _ | .ended => true

namespace Runtime

open ActualState.Span (observeAll KeepsDistance IsOverBy)

theorem ticker_afterFlush {t u : Ticker} {e : Option FlushEnd}
    (found : (afterFlush t e).ticker? = some u) : u = t := by
  cases e with
  | none => exact (Option.some.inj found).symm
  | some e =>
    cases e with
    | finished o => exact (Option.some.inj found).symm
    | broken => simp [afterFlush, FlushLoop.ticker?] at found

theorem afterFlush_ne_starting (t : Ticker) (e : Option FlushEnd) :
    afterFlush t e ≠ .starting := by
  rcases e with - | - | - <;> simp [afterFlush]

/-! ### One beat -/

/-- What an occurrence at an instant does to a flush loop that has begun and to what is written
down of the flushes, the newest first. -/
inductive Beat (clock : Duration) : FlushLoop → List Span → FlushLoop → List Span → Prop
  | still {loop : FlushLoop} {spans : List Span} : Beat clock loop spans loop spans
  | began {t : Ticker} {spans : List Span} (e : Option FlushEnd) (due : t.due ≤ clock) :
      Beat clock (.waiting t) spans (afterFlush (t.fired clock) e)
        (⟨clock, if e.isNone then none else some clock⟩ :: spans)
  | answered {t : Ticker} {a : Span} {rest : List Span} (e : Option FlushEnd) :
      Beat clock (.flushing t) (a :: rest) (afterFlush t e)
        ((if e.isNone then a else { a with ended := some clock }) :: rest)
  | stopped {t : Ticker} {spans : List Span} : Beat clock (.waiting t) spans .ended spans

theorem occur_beat {r : Runtime} (h : Coherent r) (running : r.flushLoop ≠ .starting)
    (o : Occurrence) (a : Span) (rest : List Span) :
    Beat o.clock r.flushLoop (a :: rest) (r.occur o).flushLoop
      (observeAll (a :: rest) r.service.listener (r.told o)) := by
  have m := r.occur_spec o
  generalize r.told o = is, r.occur o = q at m
  cases m with
  | beside aside =>
    rw [aside.loop, Span.observeAll_messages _ _ aside.messages]
    exact .still
  | refused starting => exact absurd starting running
  | began fires service loop =>
    obtain ⟨free, idle⟩ := h.free fires.isFlushing
    rw [loop, Span.observeAll_toldAtFlush _ _ free idle]
    cases fires with
    | first starting => exact absurd starting running
    | tick waiting due =>
      rw [waiting]
      exact .began _ due
  | answered flushing service loop =>
    obtain ⟨f, c, busy, waits⟩ := h.busy flushing
    rw [loop, flushing, Span.observeAll_toldAtCompletion _ _ _ busy waits]
    exact .answered _
  | ended waiting stopping service loop =>
    rw [loop, waiting]
    exact .stopped

/-! ### Distances -/

/-- The distances between flushes, the newest first; the first of all began at `start`. -/
structure Spaced (p start : Duration) (spans : List Span) : Prop where
  first : spans.getLast?.map Span.began = some start
  distances : spans.IsChain fun y x => KeepsDistance p x y
  second : ∀ before y x, spans = before ++ [y, x] → x.began + p ≤ y.began

theorem Spaced.close {p start : Duration} {a : Span} {rest : List Span}
    (h : Spaced p start (a :: rest)) (clock : Duration) :
    Spaced p start ({ a with ended := some clock } :: rest) where
  first := by
    have first := h.first
    cases rest with
    | nil => simpa using first
    | cons b bs => simpa [List.getLast?_cons_cons] using first
  distances := by
    obtain ⟨newest, others⟩ := List.isChain_cons.1 h.distances
    exact List.isChain_cons.2 ⟨newest, others⟩
  second := by
    intro before y x eq
    cases before with
    | nil =>
      obtain ⟨rfl, rfl⟩ := List.cons.inj eq
      exact h.second [] a x rfl
    | cons b bs =>
      obtain ⟨rfl, rfl⟩ := List.cons.inj eq
      exact h.second (a :: bs) y x rfl

theorem Spaced.cons {p start : Duration} {a b : Span} {rest : List Span}
    (h : Spaced p start (a :: rest)) (distance : KeepsDistance p a b)
    (second : rest = [] → a.began + p ≤ b.began) : Spaced p start (b :: a :: rest) where
  first := by simpa [List.getLast?_cons_cons] using h.first
  distances := List.isChain_cons_cons.2 ⟨distance, h.distances⟩
  second := by
    intro before y x eq
    cases before with
    | nil =>
      obtain ⟨rfl, others⟩ := List.cons.inj eq
      obtain ⟨rfl, rfl⟩ := List.cons.inj others
      exact second rfl
    | cons c cs => exact h.second cs y x (List.cons.inj eq).2

/-- The flushes that have begun, the newest of which is `a`, keep their distances, and so will the
tick that is waited for next. -/
structure Paced (p start : Duration) (loop : FlushLoop) (a : Span) (rest : List Span)
    (last : Duration) : Prop where
  spaced : Spaced p start (a :: rest)
  began : a.began ≤ last
  ended : ∀ e, a.ended = some e → a.began ≤ e ∧ e ≤ last
  underWay : a.ended.isNone = loop.isFlushing
  ticker : ∀ t, loop.ticker? = some t → t.period = p ∧
    a.began + p ≤ t.due + Ticker.tolerance ∧ (rest = [] → a.began + p ≤ t.due)
  running : loop ≠ .starting

theorem fired_due (t : Ticker) (clock : Duration) :
    clock + t.period ≤ (t.fired clock).due + Ticker.tolerance := by
  simp only [Ticker.fired]
  split <;> grind

/-- The first flush begins with a ticker that is due one period later. -/
theorem Paced.first {p clock : Duration} {t : Ticker} (period : t.period = p)
    (due : t.due = clock + p) (e : Option FlushEnd) :
    Paced p clock (afterFlush t e) ⟨clock, if e.isNone then none else some clock⟩ [] clock where
  spaced := ⟨rfl, .singleton _, fun before y x eq => by simpa using congrArg List.length eq⟩
  began := Nat.le_refl _
  ended := by
    intro x overAt
    cases e with
    | none => simp at overAt
    | some e =>
      obtain rfl := Option.some.inj overAt
      exact ⟨Nat.le_refl _, Nat.le_refl _⟩
  underWay := by cases e <;> simp
  ticker := by
    intro u found
    obtain rfl := ticker_afterFlush found
    exact ⟨period, due ▸ Nat.le_add_right _ _, fun _ => Nat.le_of_eq due.symm⟩
  running := afterFlush_ne_starting _ _

theorem Paced.next {p start last clock : Duration} {loop loop' : FlushLoop} {a : Span}
    {rest spans : List Span} (h : Paced p start loop a rest last) (later : last ≤ clock)
    (beat : Beat clock loop (a :: rest) loop' spans) :
    ∃ b rest', spans = b :: rest' ∧ Paced p start loop' b rest' clock := by
  have began : a.began ≤ clock := h.began.trans later
  have ended (e) (ended_ : a.ended = some e) : a.began ≤ e ∧ e ≤ clock :=
    ⟨(h.ended e ended_).1, (h.ended e ended_).2.trans later⟩
  cases beat with
  | still => exact ⟨a, rest, rfl, h.spaced, began, ended, h.underWay, h.ticker, h.running⟩
  | stopped =>
    exact ⟨a, rest, rfl, h.spaced, began, ended, h.underWay, by simp [FlushLoop.ticker?], by simp⟩
  | @answered t _ _ e =>
    have ticker (u) (found : (afterFlush t e).ticker? = some u) :=
      h.ticker u (ticker_afterFlush found ▸ rfl)
    cases e with
    | none =>
      exact ⟨a, rest, rfl, h.spaced, began, ended, h.underWay, ticker, afterFlush_ne_starting _ _⟩
    | some e =>
      refine ⟨_, rest, rfl, h.spaced.close clock, began, fun x overAt => ?_, by simp, ticker,
        afterFlush_ne_starting _ _⟩
      obtain rfl := Option.some.inj overAt
      exact ⟨began, Nat.le_refl _⟩
  | @began t _ e due =>
    obtain ⟨period, due_, first⟩ := h.ticker t rfl
    have isOver : a.ended.isSome = true := by simpa [FlushLoop.isFlushing] using h.underWay
    obtain ⟨finish, hfinish⟩ := Option.isSome_iff_exists.1 isOver
    obtain ⟨order, before⟩ := h.ended finish hfinish
    refine ⟨_, a :: rest, rfl,
      h.spaced.cons ⟨finish, hfinish, order, before.trans later, ?_⟩ ?_, ?_, ?_, ?_, ?_,
      afterFlush_ne_starting _ _⟩
    · exact due_.trans (Nat.add_le_add_right due _)
    · exact fun only => (first only).trans due
    · exact Nat.le_refl _
    · intro x overAt
      cases e with
      | none => simp at overAt
      | some e =>
        obtain rfl := Option.some.inj overAt
        exact ⟨Nat.le_refl _, Nat.le_refl _⟩
    · cases e <;> simp
    · intro u found
      obtain rfl := ticker_afterFlush found
      exact ⟨period, period ▸ fired_due t clock, by simp⟩

/-! ### Exact beats -/

/-- Whether every flush was over when the next one was due, if they are one period apart. -/
def Punctual (p start : Duration) (fs : List Span) : Prop :=
  ∀ (k : Nat) (a : Span), fs[k]? = some a → a.IsOverBy (start + (k + 1) * p)

theorem punctual_concat (p start : Duration) (fs : List Span) (a : Span) :
    Punctual p start (fs ++ [a]) ↔
      Punctual p start fs ∧ a.IsOverBy (start + (fs.length + 1) * p) := by
  constructor
  · intro h
    refine ⟨fun k b found => h k b ?_, h fs.length a (by simp)⟩
    rw [List.getElem?_append_left (List.getElem?_eq_some_iff.1 found).1, found]
  · rintro ⟨h, last⟩ k b found
    rcases Nat.lt_trichotomy k fs.length with before | rfl | after
    · exact h k b (by rwa [List.getElem?_append_left before] at found)
    · rw [List.getElem?_concat_length] at found
      exact Option.some.inj found ▸ last
    · rw [List.getElem?_eq_none (by simp; omega)] at found
      cases found

/-- Flushes that follow punctual ones begin exactly on the beat, and so will the next tick. -/
structure OnBeat (p start : Duration) (loop : FlushLoop) (a : Span) (rest : List Span)
    (last : Duration) : Prop where
  began : ∀ before b rest', a :: rest = before ++ b :: rest' → Punctual p start rest'.reverse →
    b.began = start + rest'.length * p
  due : Punctual p start rest.reverse → ∀ t, loop.ticker? = some t →
    t.due = start + (rest.length + 1) * p
  inTime : Punctual p start (a :: rest).reverse → ∀ t, loop = .waiting t → last ≤ t.due

theorem OnBeat.first {p clock : Duration} {t : Ticker} (due : t.due = clock + p)
    (e : Option FlushEnd) :
    OnBeat p clock (afterFlush t e) ⟨clock, if e.isNone then none else some clock⟩ [] clock where
  began := by
    intro before b rest eq _
    cases before with
    | nil =>
      obtain ⟨rfl, rfl⟩ := List.cons.inj eq
      simp
    | cons c cs => simp at eq
  due := by
    intro _ u found
    obtain rfl := ticker_afterFlush found
    simpa using due
  inTime := by
    intro _ u waiting
    obtain rfl := ticker_afterFlush (congrArg FlushLoop.ticker? waiting)
    exact due ▸ Nat.le_add_right _ _

theorem OnBeat.next {p start last clock : Duration} {loop loop' : FlushLoop} {a b : Span}
    {rest rest' : List Span} (h : OnBeat p start loop a rest last)
    (period : ∀ t, loop.ticker? = some t → t.period = p)
    (prompt : loop.allows last clock = true)
    (beat : Beat clock loop (a :: rest) loop' (b :: rest')) :
    OnBeat p start loop' b rest' clock := by
  cases beat with
  | still =>
    refine ⟨h.began, h.due, fun punctual t waiting => ?_⟩
    rw [waiting] at prompt
    exact (of_decide_eq_true prompt).trans
      (Nat.max_le.2 ⟨h.inTime punctual t waiting, Nat.le_refl _⟩)
  | stopped => exact ⟨h.began, by simp [FlushLoop.ticker?], by simp⟩
  | @answered t _ _ e =>
    have due (punctual) (u) (found : (afterFlush t e).ticker? = some u) :=
      h.due punctual u (ticker_afterFlush found ▸ rfl)
    cases e with
    | none => exact ⟨h.began, due, by simp [afterFlush]⟩
    | some e =>
      refine ⟨?_, due, ?_⟩
      · intro before c cs eq punctual
        cases before with
        | nil =>
          obtain ⟨rfl, rfl⟩ := List.cons.inj eq
          exact h.began [] a _ rfl punctual
        | cons d ds =>
          obtain ⟨rfl, rfl⟩ := List.cons.inj eq
          exact h.began (a :: ds) c cs rfl punctual
      · intro punctual u waiting
        rw [List.reverse_cons, punctual_concat, List.length_reverse] at punctual
        obtain ⟨earlier, x, overAt, inTime⟩ := punctual
        obtain rfl := Option.some.inj overAt
        rw [due earlier u (by rw [waiting]; rfl)]
        exact inTime
  | @began t _ e dueNow =>
    have onTime (punctual : Punctual p start (a :: rest).reverse) :
        clock = t.due ∧ t.due = start + (rest.length + 1) * p := by
      have earlier := punctual
      rw [List.reverse_cons, punctual_concat] at earlier
      have notLate : clock ≤ t.due :=
        (of_decide_eq_true prompt).trans (Nat.max_le.2 ⟨h.inTime punctual t rfl, Nat.le_refl _⟩)
      exact ⟨Nat.le_antisymm notLate dueNow, h.due earlier.1 t rfl⟩
    have next (punctual : Punctual p start (a :: rest).reverse) :
        (t.fired clock).due = clock + p := by
      obtain ⟨now, -⟩ := onTime punctual
      rw [Ticker.fired, if_pos (now ▸ Nat.le_add_right _ _), ← now, period t rfl]
    refine ⟨?_, ?_, ?_⟩
    · intro before c cs eq punctual
      cases before with
      | nil =>
        obtain ⟨rfl, rfl⟩ := List.cons.inj eq
        obtain ⟨now, due⟩ := onTime punctual
        exact now.trans due
      | cons d ds => exact h.began ds c cs (List.cons.inj eq).2 punctual
    · intro punctual u found
      obtain ⟨now, due⟩ := onTime punctual
      rw [ticker_afterFlush found, next punctual, now, due, Nat.add_assoc, ← Nat.succ_mul]
      rfl
    · intro punctual u waiting
      rw [List.reverse_cons, punctual_concat] at punctual
      have found : (afterFlush (t.fired clock) e).ticker? = some u := by rw [waiting]; rfl
      rw [ticker_afterFlush found, next punctual.1]
      exact Nat.le_add_right _ _

/-! ### Runs -/

/-- The monotonic clock after a run. -/
def clockAfter (clock : Duration) : List Occurrence → Duration
  | [] => clock
  | o :: os => clockAfter o.clock os

/-- Whether no tick of the flush loop is late in a run that goes on from `last`. -/
def isPrompt (r : Runtime) (last : Duration) : List Occurrence → Bool
  | [] => true
  | o :: os => r.flushLoop.allows last o.clock && isPrompt (r.occur o) o.clock os

theorem paced_after {p start last : Duration} {r : Runtime} {a : Span} {rest : List Span}
    (h : Coherent r) (paced : Paced p start r.flushLoop a rest last) (os : List Occurrence)
    (forward : (last :: os.map Occurrence.clock).IsChain (· ≤ ·)) :
    ∃ b rest', observeAll (a :: rest) r.service.listener (r.toldIn os) = b :: rest' ∧
      Paced p start (r.after os).flushLoop b rest' (clockAfter last os) ∧
      (OnBeat p start r.flushLoop a rest last → isPrompt r last os = true →
        OnBeat p start (r.after os).flushLoop b rest' (clockAfter last os)) := by
  induction os generalizing r a rest last with
  | nil => exact ⟨a, rest, rfl, paced, fun onBeat _ => onBeat⟩
  | cons o os ih =>
    rw [List.map_cons, List.isChain_cons_cons] at forward
    obtain ⟨coherent, heard⟩ := (r.occur_spec o).next h
    have beat := occur_beat h paced.running o a rest
    obtain ⟨b, rest', eq, next⟩ := paced.next forward.1 beat
    rw [eq] at beat
    obtain ⟨c, rest'', spans, later, exactly⟩ := ih coherent next forward.2
    refine ⟨c, rest'', ?_, later, fun onBeat prompt => ?_⟩
    · rw [toldIn, Span.observeAll_append, eq, ← heard.listener, spans]
    · rw [isPrompt, Bool.and_eq_true] at prompt
      exact exactly (onBeat.next (fun t found => (paced.ticker t found).1) prompt.1 beat) prompt.2

/-- The flush loop runs for the first time, and begins its first flush. -/
theorem paced_first {r : Runtime} (h : Coherent r) (starting : r.flushLoop = .starting)
    (positive : 0 < r.service.listener.config.syncInterval) {o : Occurrence}
    (what : o.what = .event .flushStart) :
    let p := r.service.listener.config.syncInterval
    ∃ a, observeAll [] r.service.listener (r.told o) = [a] ∧
      Paced p o.clock (r.occur o).flushLoop a [] o.clock ∧
      OnBeat p o.clock (r.occur o).flushLoop a [] o.clock := by
  intro p
  obtain ⟨t, ticker, period, due⟩ :
      ∃ t, r.flushTicker? o.clock = some t ∧ t.period = p ∧ t.due = o.clock + p :=
    ⟨⟨flushTicker, p, o.clock + p⟩, if_neg (Nat.ne_of_gt positive), rfl, rfl⟩
  obtain ⟨told, loop⟩ := first_round starting what ticker
  obtain ⟨free, idle⟩ := h.free (by rw [starting]; rfl)
  rw [told, loop, Span.observeAll_toldAtFlush _ _ free idle]
  exact ⟨_, rfl, .first period due _, .first due _⟩

/-- Until the flush loop runs for the first time nothing is flushed; from then on the flushes keep
their distances. -/
theorem paced_run {r : Runtime} {last : Duration} (h : Coherent r)
    (starting : r.flushLoop = .starting) (positive : 0 < r.service.listener.config.syncInterval)
    (os : List Occurrence) (forward : (last :: os.map Occurrence.clock).IsChain (· ≤ ·)) :
    let p := r.service.listener.config.syncInterval
    (firstTime .flushStart os = none ∧ observeAll [] r.service.listener (r.toldIn os) = []) ∨
      ∃ begin_ a rest, firstTime .flushStart os = some begin_ ∧
        observeAll [] r.service.listener (r.toldIn os) = a :: rest ∧
        Paced p begin_ (r.after os).flushLoop a rest (clockAfter last os) ∧
        (isPrompt r last os = true →
          OnBeat p begin_ (r.after os).flushLoop a rest (clockAfter last os)) := by
  intro p
  induction os generalizing r last with
  | nil => exact .inl ⟨rfl, rfl⟩
  | cons o os ih =>
    rw [List.map_cons, List.isChain_cons_cons] at forward
    obtain ⟨coherent, heard⟩ := (r.occur_spec o).next h
    by_cases what : o.what = .event .flushStart
    · obtain ⟨a, first, paced, onBeat⟩ := paced_first h starting positive what
      obtain ⟨b, rest, spans, later, exactly⟩ := paced_after coherent paced os forward.2
      refine .inr ⟨o.clock, b, rest, firstTime_cons_of_eq what os, ?_, later, fun prompt => ?_⟩
      · rw [toldIn, Span.observeAll_append, first, ← heard.listener, spans]
      · rw [isPrompt, Bool.and_eq_true] at prompt
        exact exactly onBeat prompt.2
    · have aside := beside_of_starting starting what
      have config : (r.occur o).service.listener.config = r.service.listener.config := by
        rw [heard.listener, Listener.config_after]
      have same : observeAll [] r.service.listener (r.toldIn (o :: os)) =
          observeAll [] (r.occur o).service.listener ((r.occur o).toldIn os) := by
        rw [toldIn, Span.observeAll_append, Span.observeAll_messages _ _ aside.messages,
          ← heard.listener]
      have rest := ih coherent (aside.loop.trans starting) (by rwa [config]) forward.2
      rw [config] at rest
      rw [firstTime_cons_of_ne what, same, isPrompt, starting]
      exact rest

/-- The flushes of a started listener, in order: the first begins when the flush loop first runs;
each is over before the next begins, which is at most the tolerance earlier than one period later;
the second is a whole period after the first. If no tick is late, a flush begins exactly on the
beat as long as every flush before it was over when the next was due, and none is left out while
the loop goes on. -/
theorem flushes_keep_their_pace (s : Service) (clock : Duration) (os : List Occurrence)
    (positive : 0 < s.listener.config.syncInterval) (free : s.listener.flush = none)
    (idle : s.inFlight = none)
    (forward : (clock :: os.map Occurrence.clock).IsChain (· ≤ ·)) :
    let r := start s
    let p := s.listener.config.syncInterval
    let fs := Span.flushesOf s.listener (r.toldIn os)
    fs.head?.map Span.began = firstTime .flushStart os ∧
      fs.IsChain (KeepsDistance p) ∧
      (∀ a b rest, fs = a :: b :: rest → a.began + p ≤ b.began) ∧
      (∀ begin_, firstTime .flushStart os = some begin_ → isPrompt r clock os = true →
        (∀ done a rest, fs = done ++ a :: rest → Punctual p begin_ done →
          a.began = begin_ + done.length * p) ∧
        (Punctual p begin_ fs → (r.after os).flushLoop ≠ .ended →
          clockAfter clock os ≤ begin_ + fs.length * p)) := by
  intro r p fs
  obtain ⟨none_, quiet⟩ | ⟨begin_, b, rest, first, spans, later, onBeat⟩ :=
    paced_run (coherent_start free idle) rfl positive os forward
  · have empty : fs = [] := congrArg List.reverse quiet
    rw [empty, none_]
    exact ⟨rfl, .nil, by simp, by simp⟩
  have reversed : fs = (b :: rest).reverse := congrArg List.reverse spans
  rw [reversed, first]
  refine ⟨?_, ?_, ?_, fun begin_' same prompt => ?_⟩
  · rw [List.head?_reverse]
    exact later.spaced.first
  · exact List.isChain_reverse.2 later.spaced.distances
  · intro x y zs eq
    refine later.spaced.second zs.reverse y x ?_
    rw [← List.reverse_reverse (b :: rest), eq]
    simp
  · obtain rfl := Option.some.inj same
    have onTime := onBeat prompt
    refine ⟨fun done x rest' eq punctual => ?_, fun punctual goesOn => ?_⟩
    · have split : b :: rest = rest'.reverse ++ x :: done.reverse := by
        rw [← List.reverse_reverse (b :: rest), eq]
        simp
      have exact_ := onTime.began _ _ _ split (by rwa [List.reverse_reverse])
      rwa [List.length_reverse] at exact_
    · have all := punctual
      rw [List.reverse_cons, punctual_concat, List.length_reverse] at punctual
      obtain ⟨earlier, e, ended_, -⟩ := punctual
      have underWay := later.underWay
      rw [List.length_reverse, List.length_cons]
      cases loop : (r.after os).flushLoop with
      | starting => exact absurd loop later.running
      | waiting t =>
        have due := onTime.due earlier t (congrArg FlushLoop.ticker? loop)
        exact (onTime.inTime all t loop).trans (Nat.le_of_eq due)
      | flushing t =>
        rw [loop, ended_] at underWay
        cases underWay
      | ended => exact absurd loop goesOn

/-- A write that takes two and a half periods shifts the flushes after it: the one that was due
meanwhile comes at once, and the next a whole period later. -/
theorem flushes_keep_their_pace_slow_write :
    let half := 500 * Time.millisecond
    let payload : List UInt8 := [123, 34, 100, 101, 97, 34, 58, 34, 97, 34, 125]
    let s : Service := { listener := .fresh {}, backend := .scripted { writeDelay := 5 * half } }
    let at_ (e : Event) (clock : Duration) : Occurrence := ⟨.event e, some .epoch, clock⟩
    let os := [at_ .flushStart 0, at_ (.arrive "symbion/dea/heartbeat@v1" payload) half,
      at_ (.take .heartbeat) half, at_ (.handle 0) half, at_ .flushTick (2 * half),
      at_ .flushAnswered (7 * half), at_ .flushTick (7 * half), at_ .flushTick (9 * half)]
    let fs := Span.flushesOf s.listener ((start s).toldIn os)
    0 < s.listener.config.syncInterval ∧ s.listener.flush = none ∧ s.inFlight = none ∧
      (0 :: os.map Occurrence.clock).IsChain (· ≤ ·) ∧
      isPrompt (start s) 0 os = true ∧ fs.IsChain (KeepsDistance (2 * half)) ∧
      fs = [⟨0, some 0⟩, ⟨2 * half, some (7 * half)⟩, ⟨7 * half, some (7 * half)⟩,
        ⟨9 * half, some (9 * half)⟩] ∧
      Punctual (2 * half) 0 [⟨0, some 0⟩] ∧ 2 * half = 0 + 1 * (2 * half) := by
  intro half payload s at_ os fs
  have positive : 0 < s.listener.config.syncInterval := by decide +kernel
  have forward : (0 :: os.map Occurrence.clock).IsChain (· ≤ ·) := by decide +kernel
  obtain ⟨-, distances, -, exactly⟩ := flushes_keep_their_pace s 0 os positive rfl rfl forward
  have period : s.listener.config.syncInterval = 2 * half := by decide +kernel
  rw [period] at distances exactly
  have prompt : isPrompt (start s) 0 os = true := by decide +kernel
  have flushes : fs = [⟨0, some 0⟩, ⟨2 * half, some (7 * half)⟩, ⟨7 * half, some (7 * half)⟩,
      ⟨9 * half, some (9 * half)⟩] := by decide +kernel
  have punctual : Punctual (2 * half) 0 [⟨0, some 0⟩] := by
    intro k a found
    cases k with
    | zero => exact ⟨0, Option.some.inj found ▸ rfl, Nat.zero_le _⟩
    | succ k => simp at found
  have onBeat := (exactly 0 rfl prompt).1 [⟨0, some 0⟩] _ _ flushes punctual
  exact ⟨positive, rfl, rfl, forward, prompt, distances, flushes, punctual, onBeat⟩

end Runtime

end ActualState
