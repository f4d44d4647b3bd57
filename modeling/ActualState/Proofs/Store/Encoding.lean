import ActualState.Proofs.Json.Records
import ActualState.Proofs.Register
import ActualState.Proofs.Time.Rfc3339
import ActualState.Store.Document

/-!
# Documents as text and back

What is read from the text of a document is that document: the same records under the same guids,
the same moments, the same freshness. Only the timestamps of instances may differ, each by what
reading does to the text of a double.
-/
namespace ActualState

open Time (Moment)
open Json (ok_bind)

namespace InstanceHeartbeat

/-- Instances as messages hold them: the index has 32 bits, and the timestamp is a number. -/
structure IsSound (i : InstanceHeartbeat) : Prop where
  index : i.instanceIndex < 4294967296
  timestamp : i.stateTimestamp.isFinite = true

/-- The instance with its timestamp as it is read again. -/
def reread (i : InstanceHeartbeat) : InstanceHeartbeat :=
  { i with stateTimestamp := Json.reread i.stateTimestamp }

theorem keeps_fields : Json.Keeps fields IsSound := by
  intro f hf n s t stored sound
  simp only [fields, List.mem_cons, List.not_mem_nil, or_false] at hf
  rcases hf with rfl | rfl | rfl | rfl | rfl | rfl | rfl <;>
    obtain ⟨a, given, rfl⟩ := Json.map_eq_ok.1 stored
  · exact ⟨sound.index, sound.timestamp⟩
  · exact ⟨sound.index, sound.timestamp⟩
  · exact ⟨sound.index, sound.timestamp⟩
  · exact ⟨sound.index, sound.timestamp⟩
  · exact ⟨Json.lt_of_readNatural given, sound.timestamp⟩
  · exact ⟨sound.index, sound.timestamp⟩
  · exact ⟨sound.index, Json.isFinite_readDouble given⟩

/-- Every instance that is read is sound. -/
theorem isSound_of_read {n : Json.Node} {i : InstanceHeartbeat} (h : reader n = .ok i) :
    i.IsSound :=
  Json.readRecord_keeps keeps_fields ⟨by decide, by decide +kernel⟩ h

/-- An instance that is written is read back. -/
theorem read_toJson {i : InstanceHeartbeat} (h : i.IsSound) :
    reader i.toJson.toNode = .ok i.reread := by
  have distinct : (fields.map (·.name)).Nodup := by decide
  have state : InstanceState.variants.lookup i.state.name = some i.state := by
    cases i.state <;> decide
  have written := Json.readRecord_object distinct
    [.string i.ccPartition, .string i.appGuid, .string i.appVersion,
      .string i.instanceGuid, .nat i.instanceIndex, .string i.state.name,
      .double i.stateTimestamp] rfl "struct InstanceHeartbeat" ⟨"", "", "", "", 0, .starting, 0⟩
  refine written.trans ?_
  simp only [fields, field, List.map_cons, List.map_nil, List.zip_cons_cons, List.zip_nil_left,
    Json.storeAll, Json.readText_string, Json.readNatural_nat h.index,
    Json.readVariant_string state, Json.readDouble_double h.timestamp, Except.map, ok_bind]
  rfl

end InstanceHeartbeat

namespace Heartbeat

/-- Heartbeats as messages hold them. -/
def IsSound (h : Heartbeat) : Prop := ∀ i ∈ h.instances, i.IsSound

theorem keeps_fields : Json.Keeps fields IsSound := by
  intro f hf n s t stored sound
  simp only [fields, List.mem_cons, List.not_mem_nil, or_false] at hf
  rcases hf with rfl | rfl <;> obtain ⟨a, given, rfl⟩ := Json.map_eq_ok.1 stored
  · exact sound
  · intro i hi
    obtain ⟨m, read_⟩ := Json.readList_mem given hi
    exact InstanceHeartbeat.isSound_of_read read_

/-- Every heartbeat that is read is sound. -/
theorem isSound_of_decode {payload : List UInt8} {h : Heartbeat}
    (decoded : decode payload = .ok h) : h.IsSound := by
  obtain ⟨n, read_⟩ := Json.exists_of_read decoded
  refine Json.readRecord_keeps keeps_fields ?_ read_
  intro _ none_
  contradiction

theorem isSound_sample (dea : String) : (sample dea).IsSound := by
  intro i hi
  obtain rfl := List.mem_singleton.1 hi
  have number : (1700000000.5 : Float).isFinite = true := by decide +kernel
  exact ⟨Nat.zero_lt_succ _, number⟩

end Heartbeat

/-! ### Moments -/

theorem readMoment_of_momentToJson {m : Moment} {v : Json.Value}
    (written : momentToJson m = .ok v) : readMoment v.toNode = .ok m := by
  unfold momentToJson at written
  split at written
  · next s formatted =>
    obtain ⟨⟩ := written
    have node : (Json.Value.string s).toNode = .string (Json.literalOf s) := rfl
    simp only [node, readMoment, Json.Literal.text_literalOf, ok_bind,
      Moment.parse?_format formatted]
    rfl
  · contradiction

namespace FreshnessRecord

/-- A freshness that is written is read back. -/
theorem read_toJson {f : FreshnessRecord} {v : Json.Value} (written : f.toJson = .ok v) :
    reader v.toNode = .ok f := by
  obtain ⟨freshAt, first, written⟩ := Json.bind_eq_ok.1 written
  obtain ⟨expiresAt, second, written⟩ := Json.bind_eq_ok.1 written
  obtain ⟨⟩ := written
  have distinct : (fields.map (·.name)).Nodup := by decide
  refine (Json.readRecord_object distinct [freshAt, expiresAt] rfl
    "struct FreshnessRecord" ⟨.epoch, .epoch⟩).trans ?_
  simp only [fields, List.map_cons, List.map_nil, List.zip_cons_cons, List.zip_nil_left,
    Json.storeAll, readMoment_of_momentToJson first, readMoment_of_momentToJson second,
    Except.map, ok_bind]

end FreshnessRecord

namespace DeaRecord

/-- Records as they can be read. -/
def IsSound (r : DeaRecord) : Prop := ∀ i ∈ r.instances, i.IsSound

/-- The record with its timestamps as they are read again. -/
def reread (r : DeaRecord) : DeaRecord :=
  { r with instances := r.instances.map InstanceHeartbeat.reread }

theorem keeps_fields : Json.Keeps fields IsSound := by
  intro f hf n s t stored sound
  simp only [fields, List.mem_cons, List.not_mem_nil, or_false] at hf
  rcases hf with rfl | rfl <;> obtain ⟨a, given, rfl⟩ := Json.map_eq_ok.1 stored
  · intro i hi
    obtain ⟨m, read_⟩ := Json.readList_mem given hi
    exact InstanceHeartbeat.isSound_of_read read_
  · exact sound

theorem isSound_of_read {n : Json.Node} {r : DeaRecord} (h : reader n = .ok r) : r.IsSound := by
  refine Json.readRecord_keeps keeps_fields ?_ h
  intro _ none_
  contradiction

/-- A record that is written is read back. -/
theorem read_toJson {r : DeaRecord} {v : Json.Value} (sound : r.IsSound)
    (written : r.toJson = .ok v) : reader v.toNode = .ok r.reread := by
  obtain ⟨updatedAt, moment, written⟩ := Json.bind_eq_ok.1 written
  obtain ⟨⟩ := written
  have distinct : (fields.map (·.name)).Nodup := by decide
  have instances : Json.readList InstanceHeartbeat.reader
      (Json.Value.list InstanceHeartbeat.toJson r.instances).toNode =
        .ok (r.instances.map InstanceHeartbeat.reread) :=
    Json.readList_list fun i hi => InstanceHeartbeat.read_toJson (sound i hi)
  refine (Json.readRecord_object distinct
    [.list InstanceHeartbeat.toJson r.instances, updatedAt] rfl
    "struct DeaRecord" ⟨[], .epoch⟩).trans ?_
  simp only [fields, List.map_cons, List.map_nil, List.zip_cons_cons, List.zip_nil_left,
    Json.storeAll, instances, readMoment_of_momentToJson moment, Except.map, ok_bind]
  rfl

end DeaRecord

namespace Document

/-- Documents as they can be read. -/
def IsSound (d : Document) : Prop := ∀ e ∈ d.deas.entries, e.2.IsSound

/-- The document with its timestamps as they are read again. -/
def reread (d : Document) : Document := { d with deas := d.deas.mapValues DeaRecord.reread }

theorem keeps_fields : Json.Keeps fields IsSound := by
  intro f hf n s t stored sound
  simp only [fields, List.mem_cons, List.not_mem_nil, or_false] at hf
  rcases hf with rfl | rfl <;> obtain ⟨a, given, rfl⟩ := Json.map_eq_ok.1 stored
  · intro e he
    obtain ⟨m, read_⟩ := Json.readMap_mem given (Register.mem_ofList he)
    exact DeaRecord.isSound_of_read read_
  · exact sound

/-- Every document that is read is sound. -/
theorem isSound_of_decode {content : List UInt8} {d : Document} (decoded : decode content = .ok d) :
    d.IsSound := by
  obtain ⟨n, read_⟩ := Json.exists_of_read decoded
  refine Json.readRecord_keeps keeps_fields ?_ read_
  intro _ none_
  contradiction

theorem readEntries_entriesToJson {es : List (String × DeaRecord)}
    {ms : List (String × Json.Value)} (sound : ∀ e ∈ es, e.2.IsSound)
    (written : entriesToJson es = .ok ms) :
    Json.readEntries DeaRecord.reader (Json.Value.toMembers ms) =
      .ok (es.map fun e => (e.1, e.2.reread)) := by
  induction es generalizing ms with
  | nil =>
    obtain ⟨⟩ := written
    rfl
  | cons e es ih =>
    obtain ⟨v, first, written⟩ := Json.bind_eq_ok.1 written
    obtain ⟨vs, others, written⟩ := Json.bind_eq_ok.1 written
    obtain ⟨⟩ := written
    have rest := ih (fun d hd => sound d (List.mem_cons_of_mem e hd)) others
    simp only [Json.Value.toMembers, Json.readEntries, Json.Literal.text_literalOf, ok_bind,
      DeaRecord.read_toJson (sound e List.mem_cons_self) first, rest, List.map_cons]
    rfl

theorem readOption_freshnessToJson {f : Option FreshnessRecord} {v : Json.Value}
    (written : freshnessToJson f = .ok v) :
    Json.readOption FreshnessRecord.reader v.toNode = .ok f := by
  cases f with
  | none =>
    obtain ⟨⟩ := written
    rfl
  | some f =>
    have read_ := FreshnessRecord.read_toJson written
    obtain ⟨freshAt, -, written⟩ := Json.bind_eq_ok.1 written
    obtain ⟨expiresAt, -, written⟩ := Json.bind_eq_ok.1 written
    obtain ⟨⟩ := written
    rw [Json.readOption_object, read_]
    rfl

/-- A text of a document, in which its DEAs may stand in any order. -/
def IsText (d : Document) (content : List UInt8) : Prop :=
  ∃ es, es.Perm d.deas.entries ∧
    (listingToJson es d.freshness).map Json.Value.toBytes = .ok content

/-- What is written of a document is one of its texts. -/
theorem isText_of_encode {d : Document} {content : List UInt8} (written : d.encode = .ok content) :
    d.IsText content :=
  ⟨d.deas.entries, .refl _, written⟩

/-- Every text of a document is read as that document, up to its timestamps. -/
theorem decode_of_isText {d : Document} {content : List UInt8} (sound : d.IsSound)
    (text : d.IsText content) : decode content = .ok d.reread := by
  obtain ⟨es, listing, written⟩ := text
  obtain ⟨v, value, rfl⟩ := Json.map_eq_ok.1 written
  obtain ⟨deas, entries, value⟩ := Json.bind_eq_ok.1 value
  obtain ⟨freshness, certificate, value⟩ := Json.bind_eq_ok.1 value
  obtain ⟨⟩ := value
  have distinct : (fields.map (·.name)).Nodup := by decide
  have listed : ∀ e ∈ es, e.2.IsSound := fun e he => sound e (listing.mem_iff.1 he)
  have map : Json.readMap DeaRecord.reader (Json.Value.object deas).toNode =
      .ok (es.map fun e => (e.1, e.2.reread)) := by
    rw [Json.Value.toNode, Json.readMap, readEntries_entriesToJson listed entries]
    rfl
  have register : Register.ofList (es.map fun e => (e.1, e.2.reread)) = d.reread.deas :=
    Register.ofList_perm (listing.map _)
  rw [decode, Json.read_toBytes]
  refine (Json.readRecord_object distinct [.object deas, freshness] rfl
    "struct ActualStateDocument" empty).trans ?_
  simp only [fields, List.map_cons, List.map_nil, List.zip_cons_cons, List.zip_nil_left,
    Json.storeAll, map, readOption_freshnessToJson certificate, Except.map, ok_bind, register]
  rfl

end Document

end ActualState
