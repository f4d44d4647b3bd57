import ActualState.Heartbeat
import ActualState.Register
import ActualState.Time.Rfc3339

/-!
# The actual state as a document

What is known of every DEA, and until when the whole counts as fresh. A heartbeat replaces all
that was known of its DEA; a DEA without a heartbeat for `ttl` is no longer part of the state,
and the next batch of heartbeats removes it from the document.
-/
namespace ActualState

open Time (Moment Duration)

/-- Since when and until when the actual state counts as fresh. -/
structure FreshnessRecord where
  freshAt : Moment
  expiresAt : Moment
  deriving DecidableEq, Repr, Inhabited

/-- What is known of one DEA, and since when. -/
structure DeaRecord where
  instances : List InstanceHeartbeat
  updatedAt : Moment
  deriving DecidableEq, Inhabited

/-- All DEAs by guid, and the freshness of the whole. -/
structure Document where
  deas : Register DeaRecord
  freshness : Option FreshnessRecord
  deriving DecidableEq, Inhabited

/-- Whether a record has had a heartbeat less than `ttl` before `now`. -/
def DeaRecord.isAlive (r : DeaRecord) (ttl : Duration) (now : Moment) : Bool :=
  now.since r.updatedAt < ttl

/-- The freshness of a state that is fresh from `at_` on for `ttl`, if that has an end. -/
def FreshnessRecord.from? (at_ : Moment) (ttl : Duration) : Option FreshnessRecord :=
  (at_.add? ttl).map fun e => ⟨at_, e⟩

/-- Whether a freshness still holds at `now`. -/
def isFreshAt (freshness : Option FreshnessRecord) (now : Moment) : Bool :=
  match freshness with
  | none => false
  | some f => now.isBefore f.expiresAt

namespace Document

/-- The document that knows nothing. -/
def empty : Document := ⟨.empty, none⟩

/-- Takes over a batch of heartbeats in order. -/
def record (d : Document) (batch : List Heartbeat) (now : Moment) : Document :=
  { d with
    deas := batch.foldl (fun r h => r.insert h.deaGuid ⟨h.instances, now⟩) d.deas }

/-- Drops the DEAs that have not been heard of for `ttl`. -/
def prune (d : Document) (ttl : Duration) (now : Moment) : Document :=
  { d with deas := d.deas.filter fun _ r => r.isAlive ttl now }

/-- A batch of heartbeats that came in at `now`. -/
def sync (d : Document) (ttl : Duration) (batch : List Heartbeat) (now : Moment) : Document :=
  (d.record batch now).prune ttl now

/-- Certifies the state as fresh from `at_` on, if that has an end. -/
def bump? (d : Document) (ttl : Duration) (at_ : Moment) : Option Document :=
  (FreshnessRecord.from? at_ ttl).map fun f => { d with freshness := some f }

/-- Takes the certificate back. -/
def revoke (d : Document) : Document := { d with freshness := none }

/-- The DEAs that are alive at `now`. -/
def alive (d : Document) (ttl : Duration) (now : Moment) : Register DeaRecord :=
  (d.prune ttl now).deas

end Document

/-! ### Reading and writing -/

/-- Reads a moment. -/
def readMoment : Json.Reader Moment
  | .string l => do
    let s ← l.text
    match Moment.parse? s with
    | some m => return m
    | none => Json.throwMismatch .unreadableDate
  | n => n.unexpected "an RFC3339-formatted `OffsetDateTime`"

/-- The JSON value of a moment that has a text. -/
def momentToJson (m : Moment) : Except Json.Problem Json.Value :=
  match m.format with
  | .ok s => .ok (.string s)
  | .error _ => Json.throwMismatch .unreadableDate

namespace FreshnessRecord

/-- The fields of a freshness. -/
def fields : List (Field Json.Node Json.Problem FreshnessRecord) := [
  ⟨"fresh_at", fun n f => (readMoment n).map fun a => { f with freshAt := a }, .required⟩,
  ⟨"expires_at", fun n f => (readMoment n).map fun a => { f with expiresAt := a }, .required⟩]

/-- Reads a freshness. -/
def reader : Json.Reader FreshnessRecord :=
  Json.readRecord "struct FreshnessRecord" fields ⟨.epoch, .epoch⟩

/-- The JSON value of a freshness. -/
def toJson (f : FreshnessRecord) : Except Json.Problem Json.Value := do
  let freshAt ← momentToJson f.freshAt
  let expiresAt ← momentToJson f.expiresAt
  return .object [("fresh_at", freshAt), ("expires_at", expiresAt)]

end FreshnessRecord

namespace DeaRecord

/-- The fields of what is known of a DEA. -/
def fields : List (Field Json.Node Json.Problem DeaRecord) := [
  ⟨"instance_heartbeats",
    fun n r => (Json.readList InstanceHeartbeat.reader n).map fun a => { r with instances := a },
    .required⟩,
  ⟨"updated_at", fun n r => (readMoment n).map fun a => { r with updatedAt := a }, .required⟩]

/-- Reads what is known of a DEA. -/
def reader : Json.Reader DeaRecord := Json.readRecord "struct DeaRecord" fields ⟨[], .epoch⟩

/-- The JSON value of what is known of a DEA. -/
def toJson (r : DeaRecord) : Except Json.Problem Json.Value := do
  let updatedAt ← momentToJson r.updatedAt
  return .object [
    ("instance_heartbeats", .list InstanceHeartbeat.toJson r.instances),
    ("updated_at", updatedAt)]

end DeaRecord

namespace Document

/-- The fields of a document; where fields have names, the freshness may be left out. -/
def fields : List (Field Json.Node Json.Problem Document) := [
  ⟨"deas",
    fun n d => (Json.readMap DeaRecord.reader n).map fun es => { d with deas := .ofList es },
    .required⟩,
  ⟨"freshness",
    fun n d => (Json.readOption FreshnessRecord.reader n).map fun f => { d with freshness := f },
    .optionalByName⟩]

/-- Reads a document. -/
def reader : Json.Reader Document :=
  Json.readRecord "struct ActualStateDocument" fields empty

/-- The document of a text. -/
def decode (content : List UInt8) : Except Json.Problem Document := Json.read reader content

/-- The JSON members of a run of entries, if all their dates have a text. -/
def entriesToJson : List (String × DeaRecord) → Except Json.Problem (List (String × Json.Value))
  | [] => .ok []
  | (guid, r) :: rest => do
    let v ← r.toJson
    let vs ← entriesToJson rest
    return (guid, v) :: vs

/-- The JSON value of a freshness that may be missing. -/
def freshnessToJson : Option FreshnessRecord → Except Json.Problem Json.Value
  | none => .ok .null
  | some f => f.toJson

/-- The JSON value of a run of entries and a freshness, if all their dates have a text. -/
def listingToJson (es : List (String × DeaRecord)) (f : Option FreshnessRecord) :
    Except Json.Problem Json.Value := do
  let deas ← entriesToJson es
  let freshness ← freshnessToJson f
  return .object [("deas", .object deas), ("freshness", freshness)]

/-- The JSON value of a document, if all its dates have a text. The order of the DEAs is of no
account; here they stand in that of their guids. -/
def toJson (d : Document) : Except Json.Problem Json.Value :=
  listingToJson d.deas.entries d.freshness

/-- The text of a document, if all its dates have one. -/
def encode (d : Document) : Except Json.Problem (List UInt8) := d.toJson.map Json.Value.toBytes

end Document

end ActualState
