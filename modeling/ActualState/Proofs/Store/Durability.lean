import ActualState.Proofs.Store.Encoding
import ActualState.Proofs.Store.History
import ActualState.Proofs.Text.Utf8

/-!
# Opening a store again

The file of a store always holds a whole document, since only a move puts one there. It is the
document in memory, except in the moment between the move and the change in memory: whoever opens
the store then finds the document that is about to be taken over. Up to the first write the file
is what it was when the store was opened; from then on it is a text of the document in memory, and
what is read from any such text, whatever the order of its DEAs, is that document up to its
timestamps.
-/
namespace ActualState

open Time (Moment Duration)

namespace Document

/-- The document that is found in the file: up to the first write the one that was opened, then
the one that was written. -/
def onDisk (written : Bool) (d : Document) : Document := if written then d.reread else d

theorem isSound_empty : empty.IsSound := by
  intro e he
  contradiction

/-- Batches of sound heartbeats keep a document sound. -/
theorem IsSound.sync {d : Document} (sound : d.IsSound) {batch : List Heartbeat}
    (heard : ∀ h ∈ batch, h.IsSound) (ttl : Duration) (now : Moment) :
    (d.sync ttl batch now).IsSound := by
  intro e he
  have recorded : e ∈ (d.record batch now).deas.entries := (List.mem_filter.1 he).1
  have entries : (d.record batch now).deas =
      (batch.map fun h => (h.deaGuid, (⟨h.instances, now⟩ : DeaRecord))).foldl
        (fun r e => r.insert e.1 e.2) d.deas := by
    rw [List.foldl_map]
    rfl
  rw [entries] at recorded
  rcases Register.mem_foldl_insert recorded with given | old
  · obtain ⟨h, hh, rfl⟩ := List.mem_map.1 given
    exact heard h hh
  · exact sound e old

/-- The text of a document is that of an object. -/
theorem exists_of_isText {d : Document} {content : List UInt8} (text : d.IsText content) :
    ∃ cs, content = Text.Utf8.encode ('\x7b' :: cs) := by
  obtain ⟨es, -, written⟩ := text
  obtain ⟨v, value, rfl⟩ := Json.map_eq_ok.1 written
  obtain ⟨deas, -, value⟩ := Json.bind_eq_ok.1 value
  obtain ⟨freshness, -, value⟩ := Json.bind_eq_ok.1 value
  obtain ⟨⟩ := value
  exact ⟨_, rfl⟩

end Document

/-- Calls as they are made: the heartbeats of a batch are as messages hold them. -/
def StoreCall.IsSound : StoreCall → Prop
  | .sync batch => ∀ h ∈ batch, h.IsSound
  | .bump _ | .revoke => True

namespace FileStore

/-- A document that is opened is empty or was read. -/
theorem isSound_of_load {target : Entry} {d : Document} (loaded : load target = .ok d) :
    d.IsSound := by
  unfold load at loaded
  split at loaded
  · obtain ⟨⟩ := loaded
    exact Document.isSound_empty
  · contradiction
  · split at loaded
    · contradiction
    · split at loaded
      · obtain ⟨⟩ := loaded
        exact Document.isSound_empty
      · split at loaded
        · next decoded =>
          obtain ⟨⟩ := loaded
          exact Document.isSound_of_decode decoded
        · contradiction

/-- A file with a text of a document can be opened, and yields that document. -/
theorem load_of_isText {d : Document} {content : List UInt8} (sound : d.IsSound)
    (text : d.IsText content) : load (.file content) = .ok d.reread := by
  obtain ⟨cs, written⟩ := Document.exists_of_isText text
  have isText : Text.Utf8.toString? content = some (String.ofList ('\x7b' :: cs)) := by
    rw [written, Text.Utf8.toString?, Text.Utf8.decode_encode, Option.map_some]
  have visible : Text.isBlankText (String.ofList ('\x7b' :: cs)) = false := by
    rw [Text.isBlankText, String.toList_ofList, List.all_cons,
      show Text.isBlank '\x7b' = false by decide, Bool.false_and]
  simp only [load, isText, visible, Bool.false_eq_true, if_false,
    Document.decode_of_isText sound text]

/-- Calls keep what is in memory sound. -/
theorem isSound_of_next? {s : FileStore} {c : StoreCall} {now : Option Moment} {next : Document}
    (sound : s.memory.IsSound) (call : c.IsSound) (made : s.next? c now = some next) :
    next.IsSound := by
  cases c with
  | sync batch =>
    obtain ⟨now, -, rfl⟩ := next?_sync made
    exact sound.sync call s.heartbeatTtl now
  | bump at_ =>
    rw [next?_bump made]
    exact sound
  | revoke =>
    rw [next?_revoke made]
    exact sound

theorem open?_of_load {d : Disk} {doc : Document} (loaded : load d.target = .ok doc)
    (heartbeatTtl freshnessTtl : Duration) :
    open? heartbeatTtl freshnessTtl d = .ok ⟨heartbeatTtl, freshnessTtl, doc, {}⟩ := by
  rw [open?, loaded, Except.map]

end FileStore

namespace Disk

/-- What a disk passes through while a file is replaced: nothing has happened yet, a part of the
content or all of it stands at the temporary path, or it was moved. -/
inductive Passes (d : Disk) (content : List UInt8) : Disk → Prop
  | untouched : Passes d content d
  | writing (n : Nat) : Passes d content { d with temporary := .file (content.take n) }
  | moved : Passes d content { d with target := .file content, temporary := .absent }

theorem passes_writeTemporary (d : Disk) (content : List UInt8) :
    d.Passes content (d.writeTemporary content).1 := by
  unfold writeTemporary
  split
  · exact .untouched
  · split
    · have all : d.Passes content { d with temporary := .file (content.take content.length) } :=
        .writing content.length
      rwa [List.take_length] at all
    · exact .writing _

theorem eq_of_writeTemporary {d e : Disk} {content : List UInt8}
    (worked : d.writeTemporary content = (e, true)) :
    e = { d with temporary := .file content } := by
  unfold writeTemporary at worked
  split at worked
  · simp at worked
  · split at worked <;> simp_all

theorem passes_replace (d : Disk) (content : List UInt8) :
    d.Passes content (d.replace content).1 := by
  have first := d.passes_writeTemporary content
  unfold replace
  split
  · next e failed =>
    rwa [failed] at first
  · next e worked =>
    rw [worked] at first
    unfold rename
    split
    · exact first
    · rw [eq_of_writeTemporary worked]
      exact .moved

end Disk

/-- The disk when a write is complete is the last one it passes through. -/
theorem FileStore.passes_complete (s : FileStore) (w : PendingWrite) (d : Disk) (clock : Duration) :
    d.Passes w.content (s.complete w d clock).2.1 := by
  have passed := d.passes_replace w.content
  unfold complete
  split
  · next e worked =>
    rwa [worked] at passed
  · next e failed =>
    rwa [failed] at passed

namespace Site

/-- Events of a run in which nobody but the store writes its file. -/
def Event.IsOwn : Event → Prop
  | .call c _ _ _ => c.IsSound
  | .permit _ _ | .litter _ => True
  | .place _ => False

/-- Whether a call was done, and with that the file written. -/
def Trace.hasWritten (t : Trace) : Bool := t.any fun x => x.2 = some .done

/-- How the file of a store stands to its memory. -/
structure Lasts (s : Site) (written : Bool) : Prop where
  sound : s.store.memory.IsSound
  file : FileStore.load s.disk.target = .ok (s.store.memory.onDisk written)
  text : written = true → ∃ content, s.disk.target = .file content ∧ s.store.memory.IsText content

variable {s t : Site} {written : Bool}

theorem Lasts.called (l : s.Lasts written) {c : StoreCall} (call : c.IsSound)
    {now : Option Moment} {a : Answer} (o : Outcome s c now t a) :
    t.Lasts (written || a = .done) := by
  cases o with
  | undone refused alike =>
    have same : (written || decide (a = .done)) = written := by simp [refused]
    rw [same]
    exact ⟨alike.memory ▸ l.sound, by rw [alike.target, alike.memory, l.file],
      by rw [alike.target, alike.memory]; exact l.text⟩
  | @done next content made text heartbeatTtl freshnessTtl memory disk =>
    have sound : next.IsSound := FileStore.isSound_of_next? l.sound call made
    have isText : next.IsText content := Document.isText_of_encode text
    refine ⟨memory ▸ sound, ?_, fun _ => ⟨content, by rw [disk], memory ▸ isText⟩⟩
    simp [disk, memory, FileStore.load_of_isText sound isText, Document.onDisk]

theorem Lasts.next (l : s.Lasts written) {e : Event} (own : e.IsOwn) :
    (s.step e).1.Lasts (written || (s.step e).2 = some .done) := by
  cases e with
  | call c now began ended =>
    simpa [step] using l.called own (call_outcome s c now began ended)
  | permit room movable =>
    exact ⟨l.sound, by simpa [step] using l.file, by simpa [step] using l.text⟩
  | place e => exact own.elim
  | litter e => exact ⟨l.sound, by simpa [step] using l.file, by simpa [step] using l.text⟩

theorem mem_of_mem_trace {s : Site} {es : List Event} {x : Event × Option Answer}
    (h : x ∈ s.trace es) : x.1 ∈ es := by
  induction es generalizing s with
  | nil => contradiction
  | cons e es ih =>
    rcases List.mem_cons.1 h with rfl | later
    · exact List.mem_cons_self
    · exact List.mem_cons_of_mem e (ih later)

theorem lasts_after (start : s.Lasts false) {es : List Event} (own : ∀ e ∈ es, e.IsOwn) :
    (s.after es).Lasts (s.trace es).hasWritten := by
  have run : (∀ x ∈ s.trace es, x.1.IsOwn) → (s.after es).Lasts (s.trace es).hasWritten := by
    refine run_induction (P := fun r t => (∀ x ∈ t, x.1.IsOwn) → r.Lasts t.hasWritten) ?_ ?_ es
    · exact fun _ => start
    · intro r t e before own
      have l := before fun x hx => own x (List.mem_append_left _ hx)
      have last : e.IsOwn := own _ (List.mem_append_right t List.mem_cons_self)
      simpa [Trace.hasWritten] using l.next last
  exact run fun x hx => own x.1 (mem_of_mem_trace hx)

/-- Whatever a write has come to, the store opens: with what is in memory as long as the file has
not been replaced, then with what the call makes of it. -/
theorem Lasts.open?_of_passes (l : s.Lasts written) {c : StoreCall} (call : c.IsSound)
    {now : Option Moment} {clock : Duration} {w : PendingWrite}
    (begun : s.store.begin c now clock = .ok w) {content : List UInt8}
    (text : w.next.IsText content) {d : Disk} (passes : s.disk.Passes content d)
    (heartbeatTtl freshnessTtl : Duration) :
    d.target = s.disk.target ∧ FileStore.open? heartbeatTtl freshnessTtl d =
        .ok ⟨heartbeatTtl, freshnessTtl, s.store.memory.onDisk written, {}⟩ ∨
      d.target = .file content ∧ FileStore.open? heartbeatTtl freshnessTtl d =
        .ok ⟨heartbeatTtl, freshnessTtl, w.next.reread, {}⟩ := by
  obtain ⟨made, -⟩ := FileStore.begin_eq_ok begun
  have sound := FileStore.isSound_of_next? l.sound call made
  cases passes with
  | untouched => exact .inl ⟨rfl, FileStore.open?_of_load l.file ..⟩
  | writing n => exact .inl ⟨rfl, FileStore.open?_of_load l.file ..⟩
  | moved => exact .inr ⟨rfl, FileStore.open?_of_load (FileStore.load_of_isText sound text) ..⟩

/-- A store whose file nobody else writes can be opened again at any time. Between calls that
yields what is in memory, once the file was written with the timestamps as they are read from
their texts. In the middle of a write it yields what is in memory or what the call makes of it.
The order in which the DEAs stand in the file makes no difference: any text of a document does for
the one that is written here. -/
theorem reopens_to_memory {heartbeatTtl freshnessTtl : Duration} {d : Disk} {s : FileStore}
    (opened : FileStore.open? heartbeatTtl freshnessTtl d = .ok s) (es : List Event)
    (own : ∀ e ∈ es, e.IsOwn) :
    let r := (Site.mk s d).after es
    let hasWritten := ((Site.mk s d).trace es).hasWritten
    let kept := r.store.memory.onDisk hasWritten
    (∀ h f, FileStore.open? h f r.disk = .ok ⟨h, f, kept, {}⟩) ∧
      (hasWritten = true →
        (∃ content, r.disk.target = .file content ∧ r.store.memory.IsText content) ∧
        ∀ content, r.store.memory.IsText content → ∀ h f,
          FileStore.open? h f { r.disk with target := .file content } = .ok ⟨h, f, kept, {}⟩) ∧
      (∀ e ∈ r.store.memory.deas.entries, ∀ i ∈ e.2.instances,
        Json.read Json.readDouble (Json.Value.double i.stateTimestamp).toBytes =
          .ok (Json.reread i.stateTimestamp)) ∧
      ∀ c now clock w, c.IsSound → r.store.begin c now clock = .ok w →
        w.next.IsText w.content ∧
        (∀ ended, r.disk.Passes w.content (r.store.complete w r.disk ended).2.1) ∧
        ∀ content, w.next.IsText content → ∀ crashed, r.disk.Passes content crashed → ∀ h f,
          crashed.target = r.disk.target ∧
              FileStore.open? h f crashed = .ok ⟨h, f, kept, {}⟩ ∨
            crashed.target = .file content ∧
              FileStore.open? h f crashed = .ok ⟨h, f, w.next.reread, {}⟩ := by
  intro r hasWritten kept
  have start : Lasts ⟨s, d⟩ false := by
    obtain ⟨doc, loaded, rfl⟩ := Json.map_eq_ok.1 opened
    exact ⟨FileStore.isSound_of_load loaded, loaded, fun written => nomatch written⟩
  have l : r.Lasts hasWritten := lasts_after start own
  refine ⟨fun h f => FileStore.open?_of_load l.file h f, fun written => ⟨l.text written, ?_⟩,
    fun e he i hi => ?_, fun c now clock w call begun => ⟨?_, ?_, ?_⟩⟩
  · intro content text h f
    have loaded : FileStore.load (.file content) = .ok kept := by
      rw [FileStore.load_of_isText l.sound text]
      simp [kept, written, Document.onDisk]
    exact FileStore.open?_of_load loaded h f
  · rw [Json.read_toBytes, Json.readDouble_double (l.sound e he i hi).timestamp]
  · exact Document.isText_of_encode (FileStore.begin_eq_ok begun).2
  · exact fun ended => r.store.passes_complete w r.disk ended
  · exact fun content text crashed passes h f => l.open?_of_passes call begun text passes h f

/-- The timestamps of a batch come back as they were, and a bump that breaks off in the middle of
its write leaves no trace. -/
theorem reopens_to_memory_torn_write :
    let s : FileStore := ⟨10, 5, .empty, {}⟩
    let es : List Event := [.call (.sync [.sample "a"]) (some ⟨100, 0⟩) 0 0]
    let r := (Site.mk s {}).after es
    r.store.memory.freshness = none ∧
      r.store.memory.deas.get? "a" = some ⟨(Heartbeat.sample "a").instances, ⟨100, 0⟩⟩ ∧
      FileStore.open? 10 5 r.disk = .ok ⟨10, 5, r.store.memory, {}⟩ ∧
      ∃ w, r.store.begin (.bump ⟨101, 0⟩) none 0 = .ok w ∧
        FileStore.open? 10 5 { r.disk with temporary := .file (w.content.take 3) } =
          .ok ⟨10, 5, r.store.memory, {}⟩ := by
  intro s es r
  have own : ∀ e ∈ es, e.IsOwn := by
    intro e he
    rw [List.mem_singleton.1 he]
    intro h hh
    rw [List.mem_singleton.1 hh]
    exact Heartbeat.isSound_sample "a"
  have same : r.store.memory.reread = r.store.memory := by decide +kernel
  have written : ((Site.mk s {}).trace es).hasWritten = true := by decide +kernel
  obtain ⟨again, -, -, crash⟩ := reopens_to_memory (d := {}) (s := s) rfl es own
  simp only [written, Document.onDisk, if_true] at again crash
  have begins : (r.store.begin (.bump ⟨101, 0⟩) none 0).toOption.any
      (fun w => r.disk.target ≠ .file w.content) = true := by decide +kernel
  refine ⟨by decide +kernel, by decide +kernel, same ▸ again 10 5, ?_⟩
  cases begun : r.store.begin (.bump ⟨101, 0⟩) none 0 with
  | error a =>
    rw [begun] at begins
    contradiction
  | ok w =>
    rw [begun] at begins
    refine ⟨w, rfl, ?_⟩
    obtain ⟨text, -, reopened⟩ := crash (.bump _) _ _ w trivial begun
    rcases reopened w.content text _ (.writing 3) 10 5 with ⟨-, old⟩ | ⟨moved, -⟩
    · exact same ▸ old
    · exact absurd moved (of_decide_eq_true begins)

end Site

end ActualState
