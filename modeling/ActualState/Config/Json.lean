import ActualState.Config.Fields
import ActualState.Json.Printer

/-!
# Settings in JSON values

Settings from a JSON value, and back. A record may be an object, or a list of the values of its
fields that is cut short anywhere.
-/
namespace ActualState.Config

open Json (Value Problem)

/-- What a value is, for a message. -/
def foundIn : Value → Found
  | .null => .unit
  | .boolean b => .boolean b
  | .number (.natural n) => .integer n
  | .number (.negative n) => .integer (-n)
  | .number (.double x) => .floating x
  | .string s => .text s
  | .array _ => .sequence
  | .object _ => .map

/-- Something else was expected. -/
def unexpectedValue {α : Type} (v : Value) (expected : String) : Except Problem α :=
  Json.throwMismatch (.wrongType (foundIn v) expected)

/-- Every member of an object has its name, and any value can be skipped. -/
def valueMembers : Members String Value Problem := ⟨.ok, fun _ => .ok (), .mismatch⟩

/-- Fills the first fields of a record from a list; the rest is what is left over. -/
def fillFields {σ : Type} :
    List (Field Value Problem σ) → List Value → σ → Except Problem (List Value × σ)
  | [], vs, s => .ok (vs, s)
  | _ :: _, [], s => .ok ([], s)
  | f :: fields, v :: vs, s => do
    let s ← f.store v s
    fillFields fields vs s

/-- A record of optional fields. -/
def recordOfValue {σ : Type} (title : String) (fields : List (Field Value Problem σ)) (start : σ) :
    Value → Except Problem σ
  | .object ms => do
    let (_, s) ← Record.readMembers valueMembers fields ms [] start
    return s
  | .array vs => do
    let (rest, s) ← fillFields fields vs start
    if rest.isEmpty then return s
    else Json.throwMismatch (.wrongLength vs.length "fewer elements in array")
  | v => unexpectedValue v title

/-- Settings from JSON values. -/
def valueSource : Source Value Problem where
  text
    | .string s => .ok s
    | v => unexpectedValue v "a string"
  optionalText
    | .null => .ok none
    | .string s => .ok (some s)
    | v => unexpectedValue v "a string"
  natural bits
    | .number n => Json.narrow bits n
    | v => unexpectedValue v ("u" ++ toString bits)
  flag
    | .boolean b => .ok b
    | v => unexpectedValue v "a boolean"
  record := recordOfValue

/-- Settings from a JSON value. -/
def ofJson (v : Value) : Except Problem ListenerConfig := readListener valueSource v

/-- Settings of the broker from a JSON value. -/
def mqttOfJson (v : Value) : Except Problem MqttConfig :=
  recordOfValue "struct MqttConf" (mqttFields valueSource) {} v

/-- The JSON value of all settings. -/
def toJson (c : ListenerConfig) : Value := .object [
  ("heartbeat_period_secs", .nat c.heartbeatPeriodSecs.toNat),
  ("heartbeat_ttl_in_heartbeats", .nat c.heartbeatTtlInHeartbeats.toNat),
  ("actual_freshness_ttl_in_heartbeats", .nat c.actualFreshnessTtlInHeartbeats.toNat),
  ("listener_heartbeat_sync_interval_ms", .nat c.syncIntervalMs.toNat),
  ("store_usage_sample_in_heartbeats", .nat c.storeUsageSampleInHeartbeats.toNat),
  ("track_store_usage", .boolean c.trackStoreUsage),
  ("store", .object [("path", .string c.store.path)]),
  ("mqtt", .object [
    ("host", .string c.mqtt.host),
    ("port", .nat c.mqtt.port.toNat),
    ("client_id", .option .string c.mqtt.clientId),
    ("keep_alive_secs", .nat c.mqtt.keepAliveSecs.toNat)]),
  ("topics", .object [
    ("heartbeat", .string c.topics.heartbeat),
    ("advertise", .string c.topics.advertise)]),
  ("http", .object [("bind", .string c.http.bind)])]

end ActualState.Config
