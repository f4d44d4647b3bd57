import ActualState.Proofs.Json.Doubles
import ActualState.Proofs.Store.Encoding

/-!
# Heartbeats as text and back

A heartbeat that was read is written and read back with the same guid and the same instances, field
by field. Only a timestamp may come back as another double, since the reader of numbers rounds more
than once: it comes back itself wherever its text is exact, and never moves by more than a few units
in the last place.
-/
namespace ActualState

namespace Heartbeat

/-- The heartbeat with its timestamps as they are read again. -/
def reread (h : Heartbeat) : Heartbeat :=
  { h with instances := h.instances.map InstanceHeartbeat.reread }

theorem read_toJson {h : Heartbeat} (sound : h.IsSound) :
    reader h.toJson.toNode = .ok h.reread := by
  have distinct : (fields.map (·.name)).Nodup := by decide
  have instances : Json.readList InstanceHeartbeat.reader
      (Json.Value.list InstanceHeartbeat.toJson h.instances).toNode =
        .ok (h.instances.map InstanceHeartbeat.reread) :=
    Json.readList_list fun i hi => InstanceHeartbeat.read_toJson (sound i hi)
  refine (Json.readRecord_object distinct
    [.string h.deaGuid, .list InstanceHeartbeat.toJson h.instances] rfl
    "struct Heartbeat" ⟨"", []⟩).trans ?_
  simp only [fields, List.map_cons, List.map_nil, List.zip_cons_cons, List.zip_nil_left,
    Json.storeAll, Json.readText_string, instances, Except.map, Json.ok_bind]
  rfl

theorem decode_encode {h : Heartbeat} (sound : h.IsSound) : decode h.encode = .ok h.reread := by
  rw [decode, encode, Json.read_toBytes]
  exact read_toJson sound

theorem reread_eq_self_iff (h : Heartbeat) :
    h.reread = h ↔ ∀ i ∈ h.instances, Json.reread i.stateTimestamp = i.stateTimestamp := by
  have each (i : InstanceHeartbeat) :
      i.reread = i ↔ Json.reread i.stateTimestamp = i.stateTimestamp :=
    ⟨congrArg InstanceHeartbeat.stateTimestamp, fun same => by rw [InstanceHeartbeat.reread, same]⟩
  constructor
  · intro same i hi
    have instances : h.instances.map InstanceHeartbeat.reread = h.instances.map id :=
      (congrArg Heartbeat.instances same).trans (List.map_id _).symm
    exact (each i).1 (List.map_inj_left.1 instances i hi)
  · intro same
    have instances : h.instances.map InstanceHeartbeat.reread = h.instances :=
      (List.map_congr_left fun i hi => (each i).2 (same i hi)).trans (List.map_id _)
    rw [reread, instances]

/-- A heartbeat that was read comes back from what is written for it, with its timestamps as their
own texts are read: each with an exact text as itself, any other close to where it was. -/
theorem encode_is_read_back {payload : List UInt8} {h : Heartbeat}
    (accepted : decode payload = .ok h) :
    decode h.encode = .ok h.reread ∧
      (decode h.encode = .ok h ↔
        ∀ i ∈ h.instances, Json.reread i.stateTimestamp = i.stateTimestamp) ∧
      ∀ i ∈ h.instances,
        (Json.HasExactText i.stateTimestamp → Json.reread i.stateTimestamp = i.stateTimestamp) ∧
        |Decimal.numberOf (Json.reread i.stateTimestamp) - Decimal.numberOf i.stateTimestamp| ≤
          2 ^ (-50 : Int) * |Decimal.numberOf i.stateTimestamp| + 2 ^ (-1073 : Int) := by
  have sound := isSound_of_decode accepted
  have back := decode_encode sound
  refine ⟨back, ?_, fun i hi => ⟨Json.reread_eq_self (sound i hi).timestamp,
    Json.reread_close (sound i hi).timestamp⟩⟩
  rw [back, ← reread_eq_self_iff]
  exact ⟨Except.ok.inj, congrArg Except.ok⟩

/-- A message about one running instance, with a timestamp as it is spelled. -/
def runningText (timestamp : String) : List UInt8 := Text.Utf8.ofString
  ("\x7b\"dea\":\"a\",\"droplets\":[\x7b\"cc_partition\":\"p\",\"droplet\":\"d\"," ++
    "\"version\":\"v\",\"instance\":\"i\",\"index\":0,\"state\":\"RUNNING\"," ++
    "\"state_timestamp\":" ++ timestamp ++ "\x7d]\x7d")

/-- What such a message says. -/
def running (timestamp : Float) : Heartbeat :=
  ⟨"a", [⟨"p", "d", "v", "i", 0, .running, timestamp⟩]⟩

theorem encode_is_read_back_microseconds :
    decode (runningText "1750185906.265894000") = .ok (running 1750185906.265894) ∧
      Json.HasExactText 1750185906.265894 ∧
      decode (running 1750185906.265894).encode = .ok (running 1750185906.265894) := by
  have accepted : decode (runningText "1750185906.265894000") =
      .ok (running 1750185906.265894) := by
    decide +kernel
  have exact : Json.HasExactText 1750185906.265894 := by decide +kernel
  obtain ⟨-, same, each⟩ := encode_is_read_back accepted
  refine ⟨accepted, exact, same.2 fun i hi => (each i hi).1 ?_⟩
  rw [List.mem_singleton.1 hi]
  exact exact

/-- A timestamp that was given to the nanosecond comes back one unit in the last place later. -/
theorem encode_is_not_read_back :
    decode (runningText "1750185906.265894651") = .ok (running 1750185906.2658947) ∧
      decode (running 1750185906.2658947).encode ≠ .ok (running 1750185906.2658947) := by
  constructor <;> decide +kernel

end Heartbeat

end ActualState
