import ActualState.Store.FileStore
import Mathlib.Algebra.BigOperators.Group.List.Basic
import Mathlib.Algebra.GroupWithZero.Nat
import Mathlib.Algebra.Order.Field.Basic
import Mathlib.Algebra.Order.Field.Rat
import Mathlib.Data.Rat.Cast.Order
import Mathlib.Order.Interval.Finset.Nat

/-!
# What the usage of a store measures

A write may be under way when usage is measured, or when tracking starts. An observer writes down
when each write begins and ends and when each window is opened, and so knows how much of a window
was spent writing. The store counts otherwise: a write is added as a whole to the window in which
it ends. What a write took before that window is there too much, what the write under way has
taken so far is missing, and `recent_add_tail` says that this is all.
-/
namespace ActualState

open Time (Moment Duration)

/-- The share of its window that a sample tells, without the rounding of `fraction`. -/
def UsageSample.share (s : UsageSample) : ℚ :=
  if s.window = 0 then 0 else min 1 (s.busy / s.window)

/-- A write that has ended: two readings of the monotonic clock, in nanoseconds. -/
structure WriteSpan where
  began : Nat
  ended : Nat
  deriving DecidableEq, Inhabited

namespace WriteSpan

/-- How long a write took. -/
def length (w : WriteSpan) : Nat := w.ended - w.began

/-- How much of a write lies in a window. -/
def within (w : WriteSpan) (opened closed : Nat) : Nat :=
  min w.ended closed - max w.began opened

/-- Whether a write is under way at an instant. -/
def covers (w : WriteSpan) (t : Nat) : Bool := w.began ≤ t && t < w.ended

theorem covers_iff {w : WriteSpan} {t : Nat} :
    w.covers t = true ↔ w.began ≤ t ∧ t < w.ended := by
  simp [covers]

theorem within_of_ended {w : WriteSpan} {opened : Nat} (early : w.ended ≤ opened)
    (closed : Nat) : w.within opened closed = 0 := by
  unfold within
  omega

/-- A write that ends in a window has what lies in it, and what it took before. -/
theorem length_eq {w : WriteSpan} {opened closed : Nat} (forward : w.began ≤ w.ended)
    (late : opened ≤ w.ended) (done : w.ended ≤ closed) :
    w.length = w.within opened closed + (opened - w.began) := by
  unfold length within
  omega

/-- The instants of a window at which a write is under way. -/
theorem card_covers (w : WriteSpan) (opened closed : Nat) :
    ((Finset.Ico opened closed).filter fun t => w.covers t = true).card =
      w.within opened closed := by
  have same : ((Finset.Ico opened closed).filter fun t => w.covers t = true) =
      Finset.Ico (max w.began opened) (min w.ended closed) := by
    ext t
    simp only [Finset.mem_filter, Finset.mem_Ico, covers_iff]
    omega
  rw [same, Nat.card_Ico, within]

/-- Of writes one after the other, the instants add up. -/
theorem card_any_covers {ws : List WriteSpan} (apart : ws.Pairwise fun a b => a.ended ≤ b.began)
    (opened closed : Nat) :
    ((Finset.Ico opened closed).filter fun t => ws.any (·.covers t) = true).card =
      (ws.map (·.within opened closed)).sum := by
  induction ws with
  | nil => simp
  | cons w ws ih =>
    obtain ⟨first, rest⟩ := List.pairwise_cons.1 apart
    -- The first write is over before any other begins.
    have disjoint : Disjoint ((Finset.Ico opened closed).filter fun t => w.covers t = true)
        ((Finset.Ico opened closed).filter fun t => ws.any (·.covers t) = true) := by
      rw [Finset.disjoint_filter]
      intro t _ here later
      obtain ⟨v, hv, there⟩ := List.any_eq_true.1 later
      have before := first v hv
      rw [covers_iff] at here there
      omega
    simp only [List.any_cons, Bool.or_eq_true, List.map_cons, List.sum_cons]
    rw [Finset.filter_or, Finset.card_union_of_disjoint disjoint, card_covers, ih rest]

end WriteSpan

/-- A file store with its disk, the monotonic clock, and the write on its way to the disk. -/
structure MeteredStore where
  store : FileStore
  disk : Disk
  clock : Duration := 0
  write : Option PendingWrite := none
  deriving Inhabited

namespace MeteredStore

/-- Something that happens to a store. -/
inductive Event where
  | elapse (d : Duration)
  /-- A call begins. One that finds a write under way waits for the document: it begins once
  that write is complete. -/
  | begin (c : StoreCall) (now : Option Moment)
  /-- The write under way ends, whether it works or not. -/
  | complete
  | startTracking
  | measure
  /-- The disk changes behind the back of the store. -/
  | disk (d : Disk)
  deriving Inhabited

/-- What is seen of an event. -/
inductive Reply where
  | nothing
  /-- A write is on its way. -/
  | writing
  | answered (a : Answer)
  | measured (r : Except StoreError UsageSample)
  deriving DecidableEq, Inhabited

/-- The store after an event, and what is seen of it. -/
def step (s : MeteredStore) : Event → MeteredStore × Reply
  | .elapse d => ({ s with clock := s.clock + d }, .nothing)
  | .begin c now =>
    if s.write.isSome then (s, .nothing)
    else
      match s.store.begin c now s.clock with
      | .error a => (s, .answered a)
      | .ok w => ({ s with write := some w }, .writing)
  | .complete =>
    match s.write with
    | none => (s, .nothing)
    | some w =>
      let (store, disk, a) := s.store.complete w s.disk s.clock
      ({ s with store, disk, write := none }, .answered a)
  | .startTracking => ({ s with store := s.store.startUsage s.clock }, .nothing)
  | .measure =>
    let (store, r) := s.store.measureUsage s.clock
    ({ s with store }, .measured r)
  | .disk d => ({ s with disk := d }, .nothing)

/-- A store that was just opened. -/
def opened (heartbeatTtl freshnessTtl : Duration) (doc : Document) (d : Disk) : MeteredStore :=
  ⟨⟨heartbeatTtl, freshnessTtl, doc, {}⟩, d, 0, none⟩

/-- The store after a run. -/
def after (s : MeteredStore) (es : List Event) : MeteredStore := es.foldl (fun s e => (s.step e).1) s

/-- What is seen of a run. -/
def trace (s : MeteredStore) : List Event → List (Event × Reply)
  | [] => []
  | e :: es => (e, (s.step e).2) :: trace (s.step e).1 es

end MeteredStore

/-- What an observer of a store has written down. -/
structure Logbook where
  clock : Nat := 0
  /-- When the last measurement was made, or tracking was started. -/
  opened : Option Nat := none
  /-- The writes that ended before tracking was started. -/
  earlier : List WriteSpan := []
  /-- The writes that ended since, in windows that are closed. -/
  counted : List WriteSpan := []
  /-- The writes that ended since the window was opened. -/
  recent : List WriteSpan := []
  /-- When the write under way began. -/
  current : Option Nat := none
  /-- The samples since tracking was started. -/
  samples : List UsageSample := []
  deriving DecidableEq, Inhabited

namespace Logbook

/-- The write under way as if it ended now. -/
def unfinished (l : Logbook) : List WriteSpan := (l.current.map (⟨·, l.clock⟩)).toList

/-- Writes down an event and what is seen of it. -/
def observe (l : Logbook) : MeteredStore.Event × MeteredStore.Reply → Logbook
  | (.elapse d, _) => { l with clock := l.clock + d }
  | (.begin _ _, .writing) => { l with current := some l.clock }
  | (.complete, .answered _) =>
    { l with
      recent := l.recent ++ l.unfinished
      current := none }
  | (.startTracking, _) =>
    { l with
      opened := some l.clock
      earlier := l.earlier ++ l.counted ++ l.recent
      counted := []
      recent := []
      samples := [] }
  | (.measure, .measured (.ok sample)) =>
    { l with
      opened := some l.clock
      counted := l.counted ++ l.recent
      recent := []
      samples := l.samples ++ [sample] }
  | _ => l

/-- The logbook of what was seen. -/
def ofTrace (t : List (MeteredStore.Event × MeteredStore.Reply)) : Logbook := t.foldl observe {}

/-- All writes that have ended. -/
def writes (l : Logbook) : List WriteSpan := l.earlier ++ l.counted ++ l.recent

/-- Whether a write is under way at an instant up to now. -/
def isWriting (l : Logbook) (t : Nat) : Bool :=
  l.writes.any (·.covers t) || l.current.any (· ≤ t)

/-- How much of the time from an instant until now a write was under way. -/
def writingTime (l : Logbook) (opened : Nat) : Nat :=
  ((Finset.Ico opened l.clock).filter fun t => l.isWriting t = true).card

/-- What the writes that ended in the window had taken before it was opened. -/
def lead (l : Logbook) (opened : Nat) : Nat := (l.recent.map fun w => opened - w.began).sum

/-- What the write under way has taken of the window so far. -/
def tail (l : Logbook) (opened : Nat) : Nat :=
  (l.unfinished.map (·.within opened l.clock)).sum

/-- Until when every write that is written down has ended. -/
def edge (l : Logbook) : Nat := l.current.getD l.clock

/-- A logbook whose dates can be true: writes come one after the other, and windows too. -/
structure IsOrderly (l : Logbook) : Prop where
  apart : l.writes.Pairwise fun a b => a.ended ≤ b.began
  ended : ∀ w ∈ l.writes, w.began ≤ w.ended ∧ w.ended ≤ l.edge
  edge : l.edge ≤ l.clock
  opened : ∀ o, l.opened = some o → o ≤ l.clock
  closed : ∀ o, l.opened = some o → ∀ w ∈ l.earlier ++ l.counted, w.ended ≤ o
  recent : ∀ o, l.opened = some o → ∀ w ∈ l.recent, o ≤ w.ended

variable {l : Logbook}

theorem isOrderly_empty : IsOrderly {} where
  apart := List.Pairwise.nil
  ended := by simp [writes]
  edge := Nat.le_refl 0
  opened := by simp
  closed := by simp
  recent := by simp

namespace IsOrderly

theorem ended_le_clock (h : IsOrderly l) {w : WriteSpan} (hw : w ∈ l.writes) :
    w.ended ≤ l.clock := Nat.le_trans (h.ended w hw).2 h.edge

/-- The write under way is after all that have ended. -/
theorem apart_unfinished (h : IsOrderly l) :
    (l.writes ++ l.unfinished).Pairwise fun a b => a.ended ≤ b.began := by
  refine List.pairwise_append.2 ⟨h.apart, ?_, fun a ha b hb => ?_⟩
  · cases current : l.current <;> simp [unfinished, current]
  · cases current : l.current with
    | none => simp [unfinished, current] at hb
    | some began =>
      have late := (h.ended a ha).2
      obtain rfl : b = ⟨began, l.clock⟩ := by simpa [unfinished, current] using hb
      simpa [Logbook.edge, current] using late

theorem elapse (h : IsOrderly l) (d : Nat) : IsOrderly { l with clock := l.clock + d } := by
  have later : l.edge ≤ Logbook.edge { l with clock := l.clock + d } := by
    cases current : l.current <;> simp [Logbook.edge, current]
  exact {
    apart := h.apart
    ended := fun w hw => ⟨(h.ended w hw).1, Nat.le_trans (h.ended w hw).2 later⟩
    edge := by
      have edge := h.edge
      cases current : l.current with
      | none => simp [Logbook.edge]
      | some began =>
        simp only [Logbook.edge, current, Option.getD_some] at edge ⊢
        exact Nat.le_trans edge (Nat.le_add_right _ _)
    opened := fun o ho => Nat.le_trans (h.opened o ho) (Nat.le_add_right _ _)
    closed := h.closed
    recent := h.recent }

theorem begin (h : IsOrderly l) : IsOrderly { l with current := some l.clock } where
  apart := h.apart
  ended w hw := ⟨(h.ended w hw).1, h.ended_le_clock hw⟩
  edge := Nat.le_refl _
  opened := h.opened
  closed := h.closed
  recent := h.recent

theorem complete (h : IsOrderly l) :
    IsOrderly { l with recent := l.recent ++ l.unfinished, current := none } := by
  have all : Logbook.writes { l with recent := l.recent ++ l.unfinished, current := none } =
      l.writes ++ l.unfinished := (List.append_assoc _ _ _).symm
  have edge : ∀ w ∈ l.unfinished, w.began ≤ l.clock ∧ w.ended = l.clock := by
    intro w hw
    have began := h.edge
    cases current : l.current with
    | none => simp [unfinished, current] at hw
    | some b =>
      obtain rfl : w = ⟨b, l.clock⟩ := by simpa [unfinished, current] using hw
      simpa [Logbook.edge, current] using began
  exact {
    apart := all ▸ h.apart_unfinished
    ended := by
      intro w hw
      rw [all, List.mem_append] at hw
      rcases hw with hw | hw
      · exact ⟨(h.ended w hw).1, h.ended_le_clock hw⟩
      · obtain ⟨began, ended⟩ := edge w hw
        exact ⟨by rw [ended]; exact began, Nat.le_of_eq ended⟩
    edge := Nat.le_refl _
    opened := h.opened
    closed := h.closed
    recent := by
      intro o ho w hw
      rcases List.mem_append.1 hw with hw | hw
      · exact h.recent o ho w hw
      · rw [(edge w hw).2]
        exact h.opened o ho }

/-- A new window is opened now, whatever is counted of the writes so far. -/
theorem reopen (h : IsOrderly l) {earlier counted : List WriteSpan} {samples : List UsageSample}
    (same : earlier ++ counted = l.writes) :
    IsOrderly { l with opened := some l.clock, earlier, counted, recent := [], samples } := by
  have all : Logbook.writes
      { l with opened := some l.clock, earlier, counted, recent := [], samples } = l.writes := by
    simpa [writes] using same
  exact {
    apart := all ▸ h.apart
    ended := fun w hw => h.ended w (all ▸ hw)
    edge := h.edge
    opened := by
      rintro o ⟨rfl⟩
      exact Nat.le_refl _
    closed := by
      rintro o ⟨rfl⟩ w hw
      exact h.ended_le_clock (same ▸ hw)
    recent := by simp }

theorem observe (h : IsOrderly l) (seen : MeteredStore.Event × MeteredStore.Reply) :
    IsOrderly (l.observe seen) := by
  unfold Logbook.observe
  split
  · exact h.elapse _
  · exact h.begin
  · exact h.complete
  · exact h.reopen (List.append_nil _)
  · exact h.reopen (List.append_assoc _ _ _).symm
  · exact h

/-- The time spent writing is what lies in the window of each write. -/
theorem writingTime_eq (h : IsOrderly l) (opened : Nat) :
    l.writingTime opened = (l.writes.map (·.within opened l.clock)).sum + l.tail opened := by
  have same : ((Finset.Ico opened l.clock).filter fun t => l.isWriting t = true) =
      (Finset.Ico opened l.clock).filter fun t =>
        (l.writes ++ l.unfinished).any (·.covers t) = true := by
    refine Finset.filter_congr fun t ht => ?_
    have now := (Finset.mem_Ico.1 ht).2
    cases current : l.current <;>
      simp [isWriting, unfinished, current, WriteSpan.covers, now]
  rw [writingTime, same, WriteSpan.card_any_covers h.apart_unfinished, List.map_append,
    List.sum_append, tail]

/-- The writes that ended in the window, and what is missing of the one under way, are the time
spent writing and what those had taken before. -/
theorem recent_add_tail (h : IsOrderly l) {opened : Nat} (window : l.opened = some opened) :
    (l.recent.map WriteSpan.length).sum + l.tail opened =
      l.writingTime opened + l.lead opened := by
  -- Of the writes that ended in earlier windows nothing lies in this one.
  have before : ((l.earlier ++ l.counted).map (·.within opened l.clock)).sum = 0 := by
    refine List.sum_eq_zero fun n hn => ?_
    obtain ⟨w, hw, rfl⟩ := List.mem_map.1 hn
    exact WriteSpan.within_of_ended (h.closed opened window w hw) l.clock
  have lengths : l.recent.map WriteSpan.length =
      l.recent.map fun w => w.within opened l.clock + (opened - w.began) := by
    refine List.map_congr_left fun w hw => ?_
    have listed : w ∈ l.writes := List.mem_append_right _ hw
    exact WriteSpan.length_eq (h.ended w listed).1 (h.recent opened window w hw)
      (h.ended_le_clock listed)
  rw [h.writingTime_eq, writes, List.map_append, List.sum_append, before, lengths,
    List.sum_map_add, lead]
  omega

end IsOrderly

theorem writingTime_le (l : Logbook) (opened : Nat) : l.writingTime opened ≤ l.clock - opened := by
  refine (Finset.card_filter_le _ _).trans ?_
  rw [Nat.card_Ico]

end Logbook

namespace FileStore

theorem began_of_begin {s : FileStore} {c : StoreCall} {now : Option Moment} {clock : Duration}
    {w : PendingWrite} (begun : s.begin c now clock = .ok w) : w.began = clock := by
  unfold begin at begun
  split at begun
  · contradiction
  · split at begun
    · contradiction
    · obtain ⟨⟩ := begun
      rfl

theorem usage_complete (s : FileStore) (w : PendingWrite) (d : Disk) (clock : Duration) :
    (s.complete w d clock).1.usage = s.usage.addWrite w.began clock := by
  unfold complete
  split <;> rfl

end FileStore

namespace MeteredStore

/-- A logbook that is true of a store, and what the store has counted by then. -/
structure Metered (s : MeteredStore) (l : Logbook) : Prop where
  clock : l.clock = s.clock
  current : l.current = s.write.map PendingWrite.began
  opened : l.opened = s.store.usage.started
  busy : l.opened.isSome = true → s.store.usage.busy = (l.recent.map WriteSpan.length).sum
  sampled : (l.samples.map UsageSample.busy).sum = (l.counted.map WriteSpan.length).sum

theorem metered_opened (heartbeatTtl freshnessTtl : Duration) (doc : Document) (d : Disk) :
    Metered (opened heartbeatTtl freshnessTtl doc d) {} where
  clock := rfl
  current := rfl
  opened := rfl
  busy := by simp
  sampled := rfl

variable {s : MeteredStore} {l : Logbook}

theorem Metered.begun (h : Metered s l) (c : StoreCall) (now : Option Moment) :
    Metered (s.step (.begin c now)).1 (l.observe (.begin c now, (s.step (.begin c now)).2)) := by
  cases free : s.write with
  | some w => simpa [step, free, Logbook.observe] using h
  | none =>
    cases begun : s.store.begin c now s.clock with
    | error a => simpa [step, free, begun, Logbook.observe] using h
    | ok w =>
      simp only [step, free, begun, Logbook.observe, Option.isSome_none, Bool.false_eq_true,
        if_false]
      exact {
        clock := h.clock
        current := by simp [h.clock, FileStore.began_of_begin begun]
        opened := h.opened
        busy := h.busy
        sampled := h.sampled }

theorem Metered.completed (h : Metered s l) :
    Metered (s.step .complete).1 (l.observe (.complete, (s.step .complete).2)) := by
  cases under_ : s.write with
  | none => simpa [step, under_, Logbook.observe] using h
  | some w =>
    have current : l.unfinished = [⟨w.began, s.clock⟩] := by
      simp [Logbook.unfinished, h.current, under_, h.clock]
    simp only [step, under_, Logbook.observe, current]
    exact {
      clock := h.clock
      current := rfl
      opened := by
        rw [FileStore.usage_complete, h.opened, UsageWindow.addWrite]
        split <;> simp_all
      busy := by
        intro tracked
        obtain ⟨o, ho⟩ := Option.isSome_iff_exists.1 tracked
        have started : s.store.usage.started = some o := h.opened ▸ ho
        rw [FileStore.usage_complete, UsageWindow.addWrite, started, h.busy tracked,
          List.map_append, List.sum_append]
        simp [WriteSpan.length]
      sampled := h.sampled }

theorem Metered.started (h : Metered s l) :
    Metered (s.step .startTracking).1 (l.observe (.startTracking, (s.step .startTracking).2)) where
  clock := h.clock
  current := h.current
  opened := by simp [step, Logbook.observe, FileStore.startUsage, UsageWindow.start, h.clock]
  busy := by simp [step, Logbook.observe, FileStore.startUsage, UsageWindow.start]
  sampled := rfl

/-- What a measurement tells: the writes that ended in the window. -/
theorem Metered.sample (h : Metered s l) {o : Nat} (window : l.opened = some o) :
    s.store.measureUsage s.clock =
      ({ s.store with usage := .start s.clock },
        .ok ⟨(l.recent.map WriteSpan.length).sum, l.clock - o⟩) := by
  have started : s.store.usage.started = some o := h.opened ▸ window
  have busy := h.busy (by simp [window])
  simp [FileStore.measureUsage, UsageWindow.sample?, started, busy, h.clock]

theorem Metered.refused (h : Metered s l) (untracked : l.opened = none) :
    s.store.measureUsage s.clock = (s.store, .error .usageNotTracked) := by
  have started : s.store.usage.started = none := h.opened ▸ untracked
  simp [FileStore.measureUsage, UsageWindow.sample?, started]

theorem Metered.measured (h : Metered s l) :
    Metered (s.step .measure).1 (l.observe (.measure, (s.step .measure).2)) := by
  cases window : l.opened with
  | none => simpa [step, h.refused window, Logbook.observe] using h
  | some o =>
    simp only [step, h.sample window, Logbook.observe]
    exact {
      clock := h.clock
      current := h.current
      opened := by simp [UsageWindow.start, h.clock]
      busy := by simp [UsageWindow.start]
      sampled := by simp [h.sampled] }

theorem Metered.next (h : Metered s l) (e : Event) :
    Metered (s.step e).1 (l.observe (e, (s.step e).2)) := by
  cases e with
  | elapse d => exact ⟨congrArg (· + d) h.clock, h.current, h.opened, h.busy, h.sampled⟩
  | begin c now => exact h.begun c now
  | complete => exact h.completed
  | startTracking => exact h.started
  | measure => exact h.measured
  | disk d => exact ⟨h.clock, h.current, h.opened, h.busy, h.sampled⟩

theorem metered_after (h : Metered s l) (orderly : l.IsOrderly) (es : List Event) :
    Metered (s.after es) ((s.trace es).foldl Logbook.observe l) ∧
      ((s.trace es).foldl Logbook.observe l).IsOrderly := by
  induction es generalizing s l with
  | nil => exact ⟨h, orderly⟩
  | cons e es ih => exact ih (h.next e) (orderly.observe (e, (s.step e).2))

end MeteredStore

/-- When a sample tells the share of its window that it should: if what it has too much is what it
misses, or if all of the window was spent writing and the cut at 1 hides what is too much. -/
theorem UsageSample.share_eq_iff {busy window writing lead tail : Nat}
    (balance : busy + tail = writing + lead) (part : writing ≤ window) :
    (UsageSample.mk busy window).share = (writing : ℚ) / window ↔
      lead = tail ∨ (writing = window ∧ tail ≤ lead) := by
  by_cases empty : window = 0
  · have none_ : writing = 0 := by omega
    simp only [share, empty, none_, Nat.cast_zero, div_zero, if_true, true_iff,
      true_and]
    omega
  · have positive : (0 : ℚ) < window := by exact_mod_cast Nat.pos_of_ne_zero empty
    rw [share, if_neg empty]
    rcases Nat.lt_or_ge window busy with full | fits
    · have one_le : (1 : ℚ) ≤ busy / window := by
        rw [one_le_div positive]
        exact_mod_cast full.le
      rw [min_eq_left one_le, eq_div_iff positive.ne', one_mul, Nat.cast_inj]
      omega
    · have le_one : (busy / window : ℚ) ≤ 1 := by
        rw [div_le_one positive]
        exact_mod_cast fits
      rw [min_eq_right le_one, div_left_inj' positive.ne', Nat.cast_inj]
      omega

namespace MeteredStore

/-- After every run of a store with its usage tracked, a measurement adds up the writes that ended
in its window, each as a whole. That is the time of the window that was spent writing, with what
those writes had taken before it, and without what the write under way has taken of it; and it
tells the share of the window spent writing exactly if these two are equal or the whole window was
spent writing and the cut at 1 hides the rest. The samples since tracking was started count each
write that ended in one of their windows once. -/
theorem usage_counts_ended_writes (heartbeatTtl freshnessTtl : Duration) (doc : Document)
    (d : Disk) (es : List Event) :
    let s := (opened heartbeatTtl freshnessTtl doc d).after es
    let log := Logbook.ofTrace ((opened heartbeatTtl freshnessTtl doc d).trace es)
    (log.opened = none → (s.step .measure).2 = .measured (.error .usageNotTracked)) ∧
    (∀ o, log.opened = some o → ∃ sample, (s.step .measure).2 = .measured (.ok sample) ∧
      sample.window = s.clock - o ∧
      sample.busy = (log.recent.map WriteSpan.length).sum ∧
      sample.busy + log.tail o = log.writingTime o + log.lead o ∧
      (sample.share = (log.writingTime o : ℚ) / sample.window ↔
        log.lead o = log.tail o ∨ (log.writingTime o = sample.window ∧ log.tail o ≤ log.lead o))) ∧
    (log.samples.map UsageSample.busy).sum = (log.counted.map WriteSpan.length).sum := by
  intro s log
  obtain ⟨metered, orderly⟩ : Metered s log ∧ log.IsOrderly :=
    metered_after (metered_opened heartbeatTtl freshnessTtl doc d) Logbook.isOrderly_empty es
  refine ⟨fun untracked => ?_, fun o window => ?_, metered.sampled⟩
  · simp [step, metered.refused untracked]
  · have balance := orderly.recent_add_tail window
    refine ⟨_, by rw [step, metered.sample window], by rw [metered.clock], rfl, balance, ?_⟩
    exact UsageSample.share_eq_iff balance (log.writingTime_le o)

/-- A write lies around a measurement: the sample after it has too much. -/
theorem usage_counts_ended_writes_around_measurement :
    let es : List Event := [.startTracking, .begin .revoke none, .elapse 1, .measure, .elapse 1,
      .complete, .elapse 1]
    let s := (opened 0 0 .empty {}).after es
    let log := Logbook.ofTrace ((opened 0 0 .empty {}).trace es)
    log.opened = some 1 ∧ ∃ sample, (s.step .measure).2 = .measured (.ok sample) ∧
      sample.window = 2 ∧ sample.busy = 2 ∧ log.writingTime 1 = 1 ∧ log.lead 1 = 1 ∧
      sample.share ≠ (log.writingTime 1 : ℚ) / sample.window := by
  intro es s log
  have opened : log.opened = some 1 := by decide +kernel
  have recent : log.recent = [⟨0, 2⟩] := by decide +kernel
  have clock : s.clock = 3 := by decide +kernel
  have writing : log.writingTime 1 = 1 := by decide +kernel
  have lead : log.lead 1 = 1 := by decide +kernel
  have tail : log.tail 1 = 0 := by decide +kernel
  obtain ⟨-, tracked, -⟩ := usage_counts_ended_writes 0 0 .empty {} es
  obtain ⟨sample, told, window, busy, -, exactly⟩ := tracked 1 opened
  rw [clock] at window
  rw [recent] at busy
  refine ⟨opened, sample, told, window, busy, writing, lead, fun same => ?_⟩
  rcases exactly.1 same with even | ⟨whole, -⟩
  · rw [lead, tail] at even
    exact Nat.one_ne_zero even
  · rw [writing, window] at whole
    exact absurd whole (by decide)

/-- Tracking is started, a write begins at once and takes two units of time. A measurement after
one of them tells that none of the window was spent writing, and one after three that all of the
second window was. It was all of the first, and half of the second. -/
theorem write_is_missed_then_counted_whole :
    let start := opened 0 0 .empty {}
    let es : List Event := [.startTracking, .begin .revoke none, .elapse 1]
    let fs : List Event := es ++ [.measure, .elapse 1, .complete, .elapse 1]
    let log (es : List Event) : Logbook := Logbook.ofTrace (start.trace es)
    (((start.after es).step .measure).2 = .measured (.ok ⟨0, 1⟩) ∧
      (UsageSample.mk 0 1).fraction = 0.0 ∧
      (log es).opened = some 0 ∧ (log es).writingTime 0 = 1) ∧
    (((start.after fs).step .measure).2 = .measured (.ok ⟨2, 2⟩) ∧
      (UsageSample.mk 2 2).fraction = 1.0 ∧
      (log fs).opened = some 1 ∧ (log fs).writingTime 1 = 1) := by
  decide +kernel

end MeteredStore

end ActualState
