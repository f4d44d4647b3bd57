import ActualState.Config.Basic
import ActualState.Record

/-!
# The settings by name

Every setting may be left out, a whole section too; what is left out has its default. A
`Source` is a format that settings can be read from.
-/
namespace ActualState.Config

/-- How a format reads the values that settings have. -/
structure Source (ν ε : Type) where
  text : ν → Except ε String
  optionalText : ν → Except ε (Option String)
  /-- A natural below `2 ^ bits`. -/
  natural : (bits : Nat) → ν → Except ε Nat
  flag : ν → Except ε Bool
  /-- A record with a title, its fields and its starting value. -/
  record : {σ : Type} → String → List (Field ν ε σ) → σ → ν → Except ε σ

variable {ν ε : Type}

/-- A field that may be left out. -/
def field {σ α : Type} (name : String) (read : ν → Except ε α) (set : α → σ → σ) :
    Field ν ε σ :=
  ⟨name, fun v s => (read v).map fun a => set a s, .optional⟩

/-- The settings of the store. -/
def storeFields (src : Source ν ε) : List (Field ν ε StoreConfig) := [
  field "path" src.text fun a c => { c with path := a }]

/-- The settings of the broker. -/
def mqttFields (src : Source ν ε) : List (Field ν ε MqttConfig) := [
  field "host" src.text fun a c => { c with host := a },
  field "port" (src.natural 16) fun a c => { c with port := .ofNat a },
  field "client_id" src.optionalText fun a c => { c with clientId := a },
  field "keep_alive_secs" (src.natural 64) fun a c => { c with keepAliveSecs := .ofNat a }]

/-- The settings of the topics. -/
def topicsFields (src : Source ν ε) : List (Field ν ε TopicsConfig) := [
  field "heartbeat" src.text fun a c => { c with heartbeat := a },
  field "advertise" src.text fun a c => { c with advertise := a }]

/-- The settings of the inspection API. -/
def httpFields (src : Source ν ε) : List (Field ν ε HttpConfig) := [
  field "bind" src.text fun a c => { c with bind := a }]

/-- All settings. -/
def listenerFields (src : Source ν ε) : List (Field ν ε ListenerConfig) := [
  field "heartbeat_period_secs" (src.natural 64)
    fun a c => { c with heartbeatPeriodSecs := .ofNat a },
  field "heartbeat_ttl_in_heartbeats" (src.natural 64)
    fun a c => { c with heartbeatTtlInHeartbeats := .ofNat a },
  field "actual_freshness_ttl_in_heartbeats" (src.natural 64)
    fun a c => { c with actualFreshnessTtlInHeartbeats := .ofNat a },
  field "listener_heartbeat_sync_interval_ms" (src.natural 64)
    fun a c => { c with syncIntervalMs := .ofNat a },
  field "store_usage_sample_in_heartbeats" (src.natural 64)
    fun a c => { c with storeUsageSampleInHeartbeats := .ofNat a },
  field "track_store_usage" src.flag fun a c => { c with trackStoreUsage := a },
  field "store" (src.record "struct StoreConf" (storeFields src) {})
    fun a c => { c with store := a },
  field "mqtt" (src.record "struct MqttConf" (mqttFields src) {})
    fun a c => { c with mqtt := a },
  field "topics" (src.record "struct TopicsConf" (topicsFields src) {})
    fun a c => { c with topics := a },
  field "http" (src.record "struct HttpConf" (httpFields src) {})
    fun a c => { c with http := a }]

/-- Reads all settings. -/
def readListener (src : Source ν ε) (v : ν) : Except ε ListenerConfig :=
  src.record "struct ListenerConfig" (listenerFields src) {} v

end ActualState.Config
