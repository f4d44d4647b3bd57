import ActualState.Json.Printer

/-!
# Heartbeats

A heartbeat is the full report of one DEA: its guid and the instances that run there. `decode`
reads a heartbeat from a message, `encode` writes it; fields are written in the order in which
a heartbeat that is a bare list must have them.
-/
namespace ActualState

/-- What an instance is doing. -/
inductive InstanceState where
  | starting
  | running
  | crashed
  | evacuating
  deriving DecidableEq, Repr, Inhabited

/-- The state of one instance as its DEA reports it. -/
structure InstanceHeartbeat where
  ccPartition : String
  appGuid : String
  appVersion : String
  instanceGuid : String
  /-- Which of the instances of its app it is; below `2 ^ 32`. -/
  instanceIndex : Nat
  state : InstanceState
  stateTimestamp : Float
  deriving DecidableEq, Inhabited

/-- The report of one DEA. -/
structure Heartbeat where
  deaGuid : String
  instances : List InstanceHeartbeat
  deriving DecidableEq, Inhabited

namespace InstanceState

/-- The word for a state in messages. -/
def name : InstanceState → String
  | .starting => "STARTING"
  | .running => "RUNNING"
  | .crashed => "CRASHED"
  | .evacuating => "EVACUATING"

/-- All states, by their words. -/
def variants : List (String × InstanceState) :=
  [.starting, .running, .crashed, .evacuating].map fun s => (s.name, s)

end InstanceState

namespace InstanceHeartbeat

/-- A field that every instance has to give. -/
def field {α : Type} (name : String) (read : Json.Reader α)
    (set : α → InstanceHeartbeat → InstanceHeartbeat) :
    Field Json.Node Json.Problem InstanceHeartbeat :=
  ⟨name, fun n i => (read n).map fun a => set a i, .required⟩

/-- The fields of an instance. -/
def fields : List (Field Json.Node Json.Problem InstanceHeartbeat) := [
  field "cc_partition" Json.readText fun a i => { i with ccPartition := a },
  field "droplet" Json.readText fun a i => { i with appGuid := a },
  field "version" Json.readText fun a i => { i with appVersion := a },
  field "instance" Json.readText fun a i => { i with instanceGuid := a },
  field "index" (Json.readNatural 32) fun a i => { i with instanceIndex := a },
  field "state" (Json.readVariant InstanceState.variants) fun a i => { i with state := a },
  field "state_timestamp" Json.readDouble fun a i => { i with stateTimestamp := a }]

/-- Reads an instance. -/
def reader : Json.Reader InstanceHeartbeat :=
  Json.readRecord "struct InstanceHeartbeat" fields ⟨"", "", "", "", 0, .starting, 0⟩

/-- The JSON value of an instance. -/
def toJson (i : InstanceHeartbeat) : Json.Value := .object [
  ("cc_partition", .string i.ccPartition),
  ("droplet", .string i.appGuid),
  ("version", .string i.appVersion),
  ("instance", .string i.instanceGuid),
  ("index", .nat i.instanceIndex),
  ("state", .string i.state.name),
  ("state_timestamp", .double i.stateTimestamp)]

end InstanceHeartbeat

namespace Heartbeat

/-- The fields of a heartbeat: the guid, and the instances unless there are none. -/
def fields : List (Field Json.Node Json.Problem Heartbeat) := [
  ⟨"dea", fun n h => (Json.readText n).map fun a => { h with deaGuid := a }, .required⟩,
  ⟨"droplets",
    fun n h => (Json.readList InstanceHeartbeat.reader n).map fun a => { h with instances := a },
    .optional⟩]

/-- Reads a heartbeat. -/
def reader : Json.Reader Heartbeat := Json.readRecord "struct Heartbeat" fields ⟨"", []⟩

/-- The heartbeat in a message. -/
def decode (payload : List UInt8) : Except Json.Problem Heartbeat := Json.read reader payload

/-- The JSON value of a heartbeat. -/
def toJson (h : Heartbeat) : Json.Value := .object [
  ("dea", .string h.deaGuid),
  ("droplets", .list InstanceHeartbeat.toJson h.instances)]

/-- The message with a heartbeat. -/
def encode (h : Heartbeat) : List UInt8 := h.toJson.toBytes

/-- A heartbeat to try things out with: one running instance, named after its DEA. -/
def sample (dea : String) : Heartbeat where
  deaGuid := dea
  instances := [{
    ccPartition := "default"
    appGuid := "app-" ++ dea
    appVersion := "v1"
    instanceGuid := "instance-" ++ dea
    instanceIndex := 0
    state := .running
    stateTimestamp := 1700000000.5 }]

end Heartbeat

end ActualState
