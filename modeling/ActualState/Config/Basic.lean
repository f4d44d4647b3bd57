import ActualState.Time.Moment

/-!
# Configuration

What can be set, the defaults, the durations that follow from the settings, and the check that
they make sense. Durations counted in heartbeats are safe to ask for before the check: where the
exact product does not exist they are one year, the longest duration that the check lets pass.
-/
namespace ActualState

open Time (Duration)

/-- Where the actual state is kept. -/
structure StoreConfig where
  path : String := "./data/actual_state.json"
  deriving DecidableEq, Repr, Inhabited

/-- How to reach the message broker. -/
structure MqttConfig where
  host : String := "localhost"
  port : UInt16 := 1883
  clientId : Option String := none
  keepAliveSecs : UInt64 := 15
  deriving DecidableEq, Repr, Inhabited

/-- The topics of incoming messages. -/
structure TopicsConfig where
  heartbeat : String := "symbion/dea/heartbeat@v1"
  advertise : String := "symbion/dea/advertise@v1"
  deriving DecidableEq, Repr, Inhabited

/-- Where the inspection API listens. -/
structure HttpConfig where
  bind : String := "0.0.0.0:8080"
  deriving DecidableEq, Repr, Inhabited

/-- All settings of a listener. -/
structure ListenerConfig where
  heartbeatPeriodSecs : UInt64 := 10
  /-- How long a DEA stays in the store without a heartbeat, in heartbeat periods. -/
  heartbeatTtlInHeartbeats : UInt64 := 3
  actualFreshnessTtlInHeartbeats : UInt64 := 3
  syncIntervalMs : UInt64 := 1000
  storeUsageSampleInHeartbeats : UInt64 := 3
  trackStoreUsage : Bool := true
  store : StoreConfig := {}
  mqtt : MqttConfig := {}
  topics : TopicsConfig := {}
  http : HttpConfig := {}
  deriving DecidableEq, Repr, Inhabited

/-- The longest duration that can be configured: one year. -/
def maxDuration : Duration := 365 * 24 * 3600 * Time.second

/-- A setting that the check can refuse. -/
inductive Setting where
  | heartbeatPeriod
  | syncInterval
  | heartbeatTtl
  | actualFreshnessTtl
  | storeUsageSample
  | topics
  deriving DecidableEq, Repr, Inhabited

/-- Why the check refuses a setting. -/
inductive Reason where
  | overflows
  | zero
  | tooLong
  | sameTopics
  deriving DecidableEq, Repr, Inhabited

/-- The name of a setting in a configuration file. -/
def Setting.name : Setting → String
  | .heartbeatPeriod => "heartbeat_period_secs"
  | .syncInterval => "listener_heartbeat_sync_interval_ms"
  | .heartbeatTtl => "heartbeat_ttl_in_heartbeats"
  | .actualFreshnessTtl => "actual_freshness_ttl_in_heartbeats"
  | .storeUsageSample => "store_usage_sample_in_heartbeats"
  | .topics => "topics"

/-- A reason in words. -/
def Reason.text : Reason → String
  | .overflows => "duration overflows"
  | .zero => "must be greater than zero"
  | .tooLong => "must not exceed one year"
  | .sameTopics => "heartbeat and advertise topics must differ"

/-- A refused setting. -/
structure Invalid where
  setting : Setting
  reason : Reason
  deriving DecidableEq, Repr, Inhabited

/-- The message for a refused setting. -/
def Invalid.message (i : Invalid) : String :=
  "invalid value for " ++ i.setting.name ++ ": " ++ i.reason.text

/-- Refuses a duration that does not exist, is zero or is longer than a year. -/
def checkDuration (setting : Setting) : Option Duration → Except Invalid Unit
  | none => .error ⟨setting, .overflows⟩
  | some d =>
    if d = 0 then .error ⟨setting, .zero⟩
    else if maxDuration < d then .error ⟨setting, .tooLong⟩
    else .ok ()

namespace ListenerConfig

/-- The time between two heartbeats of a DEA. -/
def heartbeatPeriod (c : ListenerConfig) : Duration := c.heartbeatPeriodSecs.toNat * Time.second

/-- The time between two flushes. -/
def syncInterval (c : ListenerConfig) : Duration := c.syncIntervalMs.toNat * Time.millisecond

/-- `count` heartbeat periods; none if the count takes more than 32 bits or the seconds take
more than 64. -/
def inHeartbeats (c : ListenerConfig) (count : UInt64) : Option Duration :=
  if count.toNat < 4294967296 ∧
      c.heartbeatPeriodSecs.toNat * count.toNat < 18446744073709551616 then
    some (c.heartbeatPeriodSecs.toNat * count.toNat * Time.second)
  else none

/-- `count` heartbeat periods, but no more than a year. -/
def cappedHeartbeats (c : ListenerConfig) (count : UInt64) : Duration :=
  match c.inHeartbeats count with
  | none => maxDuration
  | some d => min d maxDuration

/-- How long a DEA stays in the actual state without a heartbeat. -/
def heartbeatTtl (c : ListenerConfig) : Duration := c.cappedHeartbeats c.heartbeatTtlInHeartbeats

/-- How long the actual state stays fresh; also the silence after which an advertisement renews
its freshness. -/
def actualFreshnessTtl (c : ListenerConfig) : Duration :=
  c.cappedHeartbeats c.actualFreshnessTtlInHeartbeats

/-- The time between two samples of the store's usage. -/
def storeUsageSampleInterval (c : ListenerConfig) : Duration :=
  c.cappedHeartbeats c.storeUsageSampleInHeartbeats

/-- Refuses settings that make no sense, the first of them in a fixed order. -/
def validate (c : ListenerConfig) : Except Invalid Unit := do
  checkDuration .heartbeatPeriod (some c.heartbeatPeriod)
  checkDuration .syncInterval (some c.syncInterval)
  checkDuration .heartbeatTtl (c.inHeartbeats c.heartbeatTtlInHeartbeats)
  checkDuration .actualFreshnessTtl (c.inHeartbeats c.actualFreshnessTtlInHeartbeats)
  checkDuration .storeUsageSample (c.inHeartbeats c.storeUsageSampleInHeartbeats)
  if c.topics.heartbeat = c.topics.advertise then .error ⟨.topics, .sameTopics⟩ else .ok ()

end ListenerConfig

end ActualState
