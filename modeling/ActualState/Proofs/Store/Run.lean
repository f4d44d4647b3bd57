import ActualState.Store.FileStore

/-!
# Runs of a store

A store in a file is called again and again, while behind its back its disk fills up, comes
free, refuses to move files or has something else put at one of the two paths of the store. Every
pattern of failures is a run of such events: a call fails because a date has no text, because the
temporary file cannot be written or because it cannot be moved.

What a call does is said once, in `Outcome`. Whether it works depends on the document in memory
and on the disk, but of a temporary file that was left behind only on whether it is a directory;
`Alike` is what two stores have to share to go on in the same way.
-/
namespace ActualState

open Time (Moment Duration)

namespace Disk

/-- Whether a file can be replaced by so much content. -/
def accepts (d : Disk) (content : List UInt8) : Bool :=
  d.temporary ≠ .directory && d.hasRoom content.length && d.target ≠ .directory && d.movable

/-- What is left at the temporary path when a file could not be replaced. -/
def leftover (d : Disk) (content : List UInt8) : Entry :=
  if d.temporary = .directory then .directory
  else if d.hasRoom content.length then .file content
  else .file (content.take (d.room.getD 0))

theorem replace_eq (d : Disk) (content : List UInt8) :
    d.replace content =
      if d.accepts content then ({ d with target := .file content, temporary := .absent }, true)
      else ({ d with temporary := d.leftover content }, false) := by
  by_cases ht : d.temporary = .directory
  · have hd : { d with temporary := .directory } = d := by rw [← ht]
    simp [replace, writeTemporary, accepts, leftover, ht, hd]
  · by_cases hr : d.hasRoom content.length = true
    · by_cases hm : d.target = .directory ∨ d.movable = false
      · rcases hm with hm | hm <;>
          simp [replace, writeTemporary, rename, accepts, leftover, ht, hr, hm]
      · obtain ⟨hm, hv⟩ := not_or.mp hm
        simp [replace, writeTemporary, rename, accepts, ht, hr, hm, hv]
    · simp [replace, writeTemporary, accepts, leftover, ht, hr]

theorem leftover_eq_directory (d : Disk) (content : List UInt8) :
    d.leftover content = .directory ↔ d.temporary = .directory := by
  unfold leftover
  split
  · simp_all
  · split <;> simp_all

end Disk

namespace FileStore

variable {s : FileStore} {c : StoreCall} {now : Option Moment} {clock : Duration}

/-- A call that waits for the disk is about to write the document that it makes. -/
theorem begin_eq_ok {w : PendingWrite} (begun : s.begin c now clock = .ok w) :
    s.next? c now = some w.next ∧ w.next.encode = .ok w.content := by
  unfold begin at begun
  split at begun
  · contradiction
  · next next made =>
    split at begun
    · contradiction
    · next content text =>
      obtain ⟨⟩ := begun
      exact ⟨made, text⟩

/-- A call that is answered at once is broken off or has no text. -/
theorem begin_eq_error {a : Answer} (refused : s.begin c now clock = .error a) :
    (a = .aborted ∧ s.next? c now = none) ∨ ∃ e, a = .failed e := by
  unfold begin at refused
  split at refused
  · next none_ =>
    obtain ⟨⟩ := refused
    exact .inl ⟨rfl, none_⟩
  · split at refused
    · obtain ⟨⟩ := refused
      exact .inr ⟨_, rfl⟩
    · contradiction

/-- A call that is answered before it reaches the disk is not done. -/
theorem ne_done_of_begin {a : Answer} (refused : s.begin c now clock = .error a) : a ≠ .done := by
  rcases begin_eq_error refused with ⟨rfl, -⟩ | ⟨e, rfl⟩
  · simp
  · simp

/-- How a write ends: with its document in memory and its text in the file, or with both as they
were. -/
theorem complete_cases (f : FileStore) (w : PendingWrite) (d : Disk) (clock : Duration) :
    (f.complete w d clock).1.heartbeatTtl = f.heartbeatTtl ∧
      (((f.complete w d clock).2.2 = .done ∧ (f.complete w d clock).1.memory = w.next ∧
          (f.complete w d clock).2.1.target = .file w.content) ∨
        ((f.complete w d clock).2.2 = .failed .io ∧
          (f.complete w d clock).1.memory = f.memory ∧
          (f.complete w d clock).2.1.target = d.target)) := by
  unfold complete
  rw [Disk.replace_eq]
  cases d.accepts w.content with
  | true => exact ⟨rfl, .inl ⟨rfl, rfl, rfl⟩⟩
  | false => exact ⟨rfl, .inr ⟨rfl, rfl, rfl⟩⟩

theorem started_complete (f : FileStore) (w : PendingWrite) (d : Disk) (clock : Duration) :
    (f.complete w d clock).1.usage.started = f.usage.started := by
  have added : (f.usage.addWrite w.began clock).started = f.usage.started := by
    unfold UsageWindow.addWrite
    split <;> simp_all
  unfold complete
  split <;> exact added

/-- The store `f'` has come from `f` by bumps that were answered `as`: they leave the DEAs alone,
and the whole document unless one of them was done. -/
structure Renewed (f : FileStore) (as : List Answer) (f' : FileStore) : Prop where
  heartbeatTtl : f'.heartbeatTtl = f.heartbeatTtl
  deas : f'.memory.deas = f.memory.deas
  memory : .done ∉ as → f'.memory = f.memory
  started : f'.usage.started = f.usage.started

theorem Renewed.nothing (f : FileStore) {as : List Answer} : Renewed f as f :=
  ⟨rfl, rfl, fun _ => rfl, rfl⟩

theorem Renewed.cons {f g h : FileStore} {a : Answer} {as : List Answer} (first : Renewed f [a] g)
    (rest : Renewed g as h) : Renewed f (a :: as) h where
  heartbeatTtl := rest.heartbeatTtl.trans first.heartbeatTtl
  deas := rest.deas.trans first.deas
  memory := by
    intro refused
    obtain ⟨now, later⟩ := not_or.1 (mt List.mem_cons.2 refused)
    exact (rest.memory later).trans (first.memory (by simpa using now))
  started := rest.started.trans first.started

theorem renewed_perform (f : FileStore) (at_ : Moment) (now : Option Moment) (d : Disk)
    (began ended : Duration) :
    Renewed f [(f.perform (.bump at_) now d began ended).2.2]
      (f.perform (.bump at_) now d began ended).1 := by
  unfold perform
  cases begun : f.begin (.bump at_) now began with
  | error a => exact .nothing f
  | ok w =>
    obtain ⟨record, -, next⟩ := Option.map_eq_some_iff.1 (begin_eq_ok begun).1
    have started := f.started_complete w d ended
    obtain ⟨heartbeatTtl, ⟨done, memory, -⟩ | ⟨-, memory, -⟩⟩ := f.complete_cases w d ended
    · refine ⟨heartbeatTtl, by rw [memory, ← next], fun refused => ?_, started⟩
      exact absurd (List.mem_singleton.2 done.symm) refused
    · exact ⟨heartbeatTtl, congrArg _ memory, fun _ => memory, started⟩

theorem renewed_bumpAll (f : FileStore) (d : Disk) (clock : Duration) (bumps : List Moment) :
    Renewed f (f.bumpAll d clock bumps).2.2 (f.bumpAll d clock bumps).1 := by
  induction bumps generalizing f d with
  | nil => exact .nothing f
  | cons at_ bumps ih =>
    have first := f.renewed_perform at_ none d clock clock
    unfold bumpAll
    generalize f.perform (.bump at_) none d clock clock = r at first
    obtain ⟨g, e, a⟩ := r
    exact first.cons (ih g e)

end FileStore

/-- A store and its disk. -/
structure Site where
  store : FileStore
  disk : Disk
  deriving Inhabited

namespace Site

/-- Something that happens to a store or, behind its back, to its disk. -/
inductive Event where
  | call (c : StoreCall) (now : Option Moment) (began ended : Duration)
  /-- The disk changes what it permits. -/
  | permit (room : Option Nat) (movable : Bool)
  /-- Something else is put at the path of the store. -/
  | place (e : Entry)
  /-- Something else is put at the path of the temporary file. -/
  | litter (e : Entry)
  deriving DecidableEq, Inhabited

/-- A call of the store. -/
def call (s : Site) (c : StoreCall) (now : Option Moment) (began ended : Duration) :
    Site × Answer :=
  let (store, disk, a) := s.store.perform c now s.disk began ended
  (⟨store, disk⟩, a)

/-- The site after an event, and the answer if it was a call. -/
def step (s : Site) : Event → Site × Option Answer
  | .call c now began ended =>
    let (s, a) := s.call c now began ended
    (s, some a)
  | .permit room movable => ({ s with disk := { s.disk with room, movable } }, none)
  | .place e => ({ s with disk := { s.disk with target := e } }, none)
  | .litter e => ({ s with disk := { s.disk with temporary := e } }, none)

/-- The site after a run. -/
def after (s : Site) (es : List Event) : Site := es.foldl (fun s e => (s.step e).1) s

/-- Events, each with the answer if it was a call. -/
abbrev Trace := List (Event × Option Answer)

/-- The events of a run with their answers. -/
def trace (s : Site) : List Event → Trace
  | [] => []
  | e :: es => (e, (s.step e).2) :: trace (s.step e).1 es

@[simp] theorem after_nil (s : Site) : s.after [] = s := rfl

@[simp] theorem after_cons (s : Site) (e : Event) (es : List Event) :
    s.after (e :: es) = (s.step e).1.after es := rfl

/-- What holds at first, and is kept by every step, holds after every run. -/
theorem run_induction {P : Site → Trace → Prop} {s : Site} (start : P s [])
    (next : ∀ r t e, P r t → P (r.step e).1 (t ++ [(e, (r.step e).2)])) (es : List Event) :
    P (s.after es) (s.trace es) := by
  suffices h : ∀ r t, P r t → P (r.after es) (t ++ r.trace es) from h s [] start
  induction es with
  | nil => intro r t hr; simpa [trace] using hr
  | cons e es ih =>
    intro r t hr
    have h := ih _ _ (next r t e hr)
    simpa [trace] using h

/-- What two sites share that go on in the same way: all but the usage of the store and what a
failed write has left at the temporary path. -/
structure Alike (s t : Site) : Prop where
  heartbeatTtl : s.store.heartbeatTtl = t.store.heartbeatTtl
  freshnessTtl : s.store.freshnessTtl = t.store.freshnessTtl
  memory : s.store.memory = t.store.memory
  target : s.disk.target = t.disk.target
  room : s.disk.room = t.disk.room
  movable : s.disk.movable = t.disk.movable
  blocked : s.disk.temporary = .directory ↔ t.disk.temporary = .directory

theorem Alike.refl (s : Site) : Alike s s := ⟨rfl, rfl, rfl, rfl, rfl, rfl, .rfl⟩

theorem Alike.trans {s t u : Site} (h : Alike s t) (k : Alike t u) : Alike s u :=
  ⟨h.heartbeatTtl.trans k.heartbeatTtl, h.freshnessTtl.trans k.freshnessTtl,
    h.memory.trans k.memory, h.target.trans k.target, h.room.trans k.room,
    h.movable.trans k.movable, h.blocked.trans k.blocked⟩

theorem Alike.accepts {s t : Site} (h : Alike s t) (content : List UInt8) :
    s.disk.accepts content = t.disk.accepts content := by
  simp [Disk.accepts, Disk.hasRoom, h.target, h.room, h.movable, h.blocked]

/-- How a call ends. -/
inductive Outcome (s : Site) (c : StoreCall) (now : Option Moment) : Site → Answer → Prop
  | done {t : Site} {next : Document} {content : List UInt8}
      (made : s.store.next? c now = some next) (text : next.encode = .ok content)
      (heartbeatTtl : t.store.heartbeatTtl = s.store.heartbeatTtl)
      (freshnessTtl : t.store.freshnessTtl = s.store.freshnessTtl)
      (memory : t.store.memory = next)
      (disk : t.disk = { s.disk with target := .file content, temporary := .absent }) :
      Outcome s c now t .done
  | undone {t : Site} {a : Answer} (refused : a ≠ .done) (alike : Alike t s) :
      Outcome s c now t a

theorem call_outcome (s : Site) (c : StoreCall) (now : Option Moment) (began ended : Duration) :
    Outcome s c now (s.call c now began ended).1 (s.call c now began ended).2 := by
  unfold call FileStore.perform FileStore.begin
  cases made : s.store.next? c now with
  | none => exact .undone (by simp) (.refl s)
  | some next =>
    cases text : next.encode with
    | error p =>
      simp only [text]
      exact .undone (by simp) (.refl s)
    | ok content =>
      simp only [text, FileStore.complete, Disk.replace_eq]
      cases accepted : s.disk.accepts content with
      | true => exact .done made text rfl rfl rfl rfl
      | false =>
        exact .undone (by simp)
          ⟨rfl, rfl, rfl, rfl, rfl, rfl, s.disk.leftover_eq_directory content⟩

end Site

end ActualState
