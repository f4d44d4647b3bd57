import ActualState.Proofs.Store.Durability

/-!
# Heartbeats in batches

At one wall time it makes no difference how heartbeats are cut into batches: a record that one
batch prunes is one that every later batch would prune, and the last heartbeat of a DEA decides
about it wherever its batch begins. So what is in the document after some heartbeats depends on
those of each DEA by itself, and, as the first batch prunes what was there before, on whether
there were any.
-/
namespace ActualState

open Time (Moment Duration)

/-- Heartbeats of each DEA in one order, whatever lies between them. -/
def SameReports (b b' : List Heartbeat) : Prop :=
  ∀ guid, b.filter (·.deaGuid = guid) = b'.filter (·.deaGuid = guid)

namespace SameReports

variable {b b' : List Heartbeat}

/-- They are the same heartbeats, in another order. -/
theorem perm (h : SameReports b b') : b.Perm b' := by
  refine List.perm_iff_count.2 fun a => ?_
  have own (c : List Heartbeat) : (c.filter (·.deaGuid = a.deaGuid)).count a = c.count a :=
    List.count_filter (decide_eq_true rfl)
  rw [← own b, ← own b', h a.deaGuid]

theorem isEmpty_eq (h : SameReports b b') : b.isEmpty = b'.isEmpty := h.perm.isEmpty_eq

/-- Heartbeats of two DEAs that follow one another can change places. -/
theorem swap {x y : Heartbeat} (other : x.deaGuid ≠ y.deaGuid) (before after : List Heartbeat) :
    SameReports (before ++ x :: y :: after) (before ++ y :: x :: after) := by
  intro guid
  rw [List.filter_append, List.filter_append]
  by_cases first : x.deaGuid = guid
  · have second : ¬ y.deaGuid = guid := fun also => other (first.trans also.symm)
    simp [first, second]
  · simp [List.filter_cons, first]

theorem find?_reverse (h : SameReports b b') (guid : String) :
    b.reverse.find? (·.deaGuid = guid) = b'.reverse.find? (·.deaGuid = guid) := by
  rw [← List.head?_filter, ← List.head?_filter, List.filter_reverse, List.filter_reverse, h guid]

end SameReports

namespace Document

/-- Of two readings of a record the later one counts, and it is looked at for its age once. -/
theorem filter_or_filter {α : Type} (p : α → Bool) (a b : Option α) :
    (a.or (b.filter p)).filter p = (a.or b).filter p := by
  cases a with
  | none => cases b <;> simp [Option.filter_filter]
  | some a => rfl

theorem get?_sync (d : Document) (ttl : Duration) (batch : List Heartbeat) (now : Moment)
    (guid : String) :
    (d.sync ttl batch now).deas.get? guid =
      (((batch.reverse.find? (·.deaGuid = guid)).map fun b => ⟨b.instances, now⟩).or
        (d.deas.get? guid)).filter (·.isAlive ttl now) := by
  rw [sync, prune, Register.get?_filter, get?_record]

/-- A batch works on the DEAs alone. -/
theorem deas_sync_congr {d d' : Document} (same : d.deas = d'.deas) (ttl : Duration)
    (batch : List Heartbeat) (now : Moment) :
    (d.sync ttl batch now).deas = (d'.sync ttl batch now).deas := by
  simp only [sync, prune, record, same]

/-- Two batches at one time are one batch. -/
theorem deas_sync_append (d : Document) (ttl : Duration) (b b' : List Heartbeat) (now : Moment) :
    ((d.sync ttl b now).sync ttl b' now).deas = (d.sync ttl (b ++ b') now).deas := by
  refine Register.ext_get? fun guid => ?_
  rw [get?_sync, get?_sync, filter_or_filter, get?_sync, List.reverse_append, List.find?_append,
    ← Option.or_assoc, Option.map_or]

/-- A batch does what its heartbeats of each DEA do. -/
theorem deas_sync_of_sameReports (d : Document) (ttl : Duration) {b b' : List Heartbeat}
    (h : SameReports b b') (now : Moment) :
    (d.sync ttl b now).deas = (d.sync ttl b' now).deas := by
  refine Register.ext_get? fun guid => ?_
  rw [get?_sync, get?_sync, h.find?_reverse]

/-- The DEAs after heartbeats at one wall time, in whatever batches they are stored. -/
def deasAfter (d : Document) (ttl : Duration) (heard : List Heartbeat) (now : Moment) :
    Register DeaRecord :=
  if heard = [] then d.deas else (d.sync ttl heard now).deas

@[simp] theorem deasAfter_nil (d : Document) (ttl : Duration) (now : Moment) :
    d.deasAfter ttl [] now = d.deas := rfl

/-- The next batch goes on from those before. -/
theorem deasAfter_append {d e : Document} {ttl : Duration} {heard : List Heartbeat} {now : Moment}
    (before : e.deas = d.deasAfter ttl heard now) {batch : List Heartbeat} (some_ : batch ≠ []) :
    (e.sync ttl batch now).deas = d.deasAfter ttl (heard ++ batch) now := by
  have more : heard ++ batch ≠ [] := by simp [some_]
  rw [deasAfter, if_neg more]
  by_cases first : heard = []
  · rw [first, deasAfter_nil] at before
    rw [deas_sync_congr before, first, List.nil_append]
  · rw [deasAfter, if_neg first] at before
    rw [deas_sync_congr before, deas_sync_append]

theorem deasAfter_of_sameReports (d : Document) (ttl : Duration) {b b' : List Heartbeat}
    (h : SameReports b b') (now : Moment) : d.deasAfter ttl b now = d.deasAfter ttl b' now := by
  have empty : b = [] ↔ b' = [] := by
    rw [← List.isEmpty_iff, h.isEmpty_eq, List.isEmpty_iff]
  simp only [deasAfter, empty, d.deas_sync_of_sameReports ttl h now]

/-- Of the DEAs in memory the file has the text, whenever it was written. -/
theorem deas_onDisk_congr {d e : Document} (same : d.deas = e.deas) (written : Bool) :
    (d.onDisk written).deas = (e.onDisk written).deas := by
  cases written with
  | false => exact same
  | true => exact congrArg (Register.mapValues DeaRecord.reread) same

end Document

end ActualState
