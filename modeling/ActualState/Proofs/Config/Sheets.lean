import ActualState.Config.Basic
import ActualState.Proofs.Yaml.Trees
import Mathlib.Data.List.Nodup

/-!
# Sheets of settings

A sheet gives some of the settings, in any order and among keys that mean nothing here; a section
is given in the same way. What a sheet gives stands in the place of the defaults, on its own level
and in each of its sections. The two levels are alike: a `Layout` is how the keys of a record are
written and what they set.
-/
namespace ActualState.Config

open Yaml (Word Printable Scalar Item Page Node)

/-! ### Lines -/

/-- How the keys of a record `σ` are written and what they set. A key with its value is an `α`,
what is written at it a `β`. -/
structure Layout (α β σ : Type) where
  /-- The names of all keys. -/
  names : List String
  key : α → Word
  value : α → β
  /-- The known keys in the section that is written at a key. -/
  inner : α → List String
  set : α → σ → σ

/-- What can be written at a key. Scalars can be. -/
class Content (β : Type) where
  scalar : Scalar → β
  node : β → Node
  node_scalar (v : Scalar) : node (scalar v) = v.node

instance : Content Scalar := ⟨id, Scalar.node, fun _ => rfl⟩

instance : Content Item := ⟨.scalar, Item.node, fun _ => rfl⟩

/-- A known key with its value, or another key with an integer. -/
inductive Line {α β σ : Type} (l : Layout α β σ) where
  | known (a : α)
  | unknown (w : Word) (strange : w.text ∉ l.names) (i : Int)

section Lines

variable {α β σ : Type} {l : Layout α β σ}

namespace Line

/-- What is written. -/
def entry [Content β] : Line l → Word × β
  | known a => (l.key a, l.value a)
  | unknown w _ i => (w, Content.scalar (.integer i))

/-- The name of a known key. -/
def name? : Line l → Option String
  | known a => some (l.key a).text
  | unknown _ _ _ => none

/-- The known keys of a section. -/
def inner : Line l → List String
  | known a => l.inner a
  | unknown _ _ _ => []

/-- A record with what a line gives in place of what was there. -/
def apply (s : σ) : Line l → σ
  | known a => l.set a s
  | unknown _ _ _ => s

end Line

/-- The known keys of some lines. -/
def known (lines : List (Line l)) : List String := lines.filterMap Line.name?

/-- No known key is given twice in one mapping. -/
def IsDistinct (lines : List (Line l)) : Prop :=
  (known lines).Nodup ∧ ∀ line ∈ lines, line.inner.Nodup

instance (lines : List (Line l)) : Decidable (IsDistinct lines) :=
  inferInstanceAs (Decidable (_ ∧ _))

/-- A record with what lines give laid over it. -/
def overlay (s : σ) (lines : List (Line l)) : σ := lines.foldl Line.apply s

variable {lines : List (Line l)} {a : α} {w : Word} {strange : w.text ∉ l.names} {i : Int}

@[simp] theorem known_cons_known : known (.known a :: lines) = (l.key a).text :: known lines := rfl

@[simp] theorem known_cons_unknown : known (.unknown w strange i :: lines) = known lines := rfl

theorem isDistinct_cons_known : IsDistinct (.known a :: lines) ↔
    (l.key a).text ∉ known lines ∧ (l.inner a).Nodup ∧ IsDistinct lines := by
  simp only [IsDistinct, known_cons_known, List.nodup_cons, List.forall_mem_cons, Line.inner]
  tauto

theorem isDistinct_cons_unknown :
    IsDistinct (.unknown w strange i :: lines) ↔ IsDistinct lines := by
  simp [IsDistinct, Line.inner]

/-- Where different keys set different things, their order does not matter. -/
theorem overlay_perm (independent : ∀ a b s, (l.key a).text ≠ (l.key b).text →
      l.set a (l.set b s) = l.set b (l.set a s)) {lines' : List (Line l)}
    (perm : lines.Perm lines') (once : (known lines).Nodup) (s : σ) :
    overlay s lines = overlay s lines' := by
  induction perm generalizing s with
  | nil => rfl
  | cons line _ ih =>
    refine ih ?_ (line.apply s)
    cases line with
    | known a => exact (List.nodup_cons.1 once).2
    | unknown w strange i => exact once
  | swap first second lines =>
    have commute : (first.apply (second.apply s)) = second.apply (first.apply s) := by
      cases first with
      | unknown w strange i => rfl
      | known a =>
        cases second with
        | unknown w strange i => rfl
        | known b =>
          refine independent a b s fun same => (List.nodup_cons.1 once).1 ?_
          exact List.mem_cons.2 (.inl same.symm)
    exact congrArg (overlay · lines) commute
  | trans before _ ih ih' =>
    have once' := (before.filterMap Line.name?).nodup_iff.1 once
    exact (ih once s).trans (ih' once' s)

/-- Lines of a section as they are written. -/
def asSection {l : Layout α Scalar σ} (lines : List (Line l)) : Item :=
  .rows (lines.map Line.entry)

end Lines

/-! ### The settings -/

/-- An integer. -/
def natural (n : Nat) : Scalar := .integer n

/-- What can be given of the store. -/
inductive StoreGiven where
  | path (s : Printable)

def storeLayout : Layout StoreGiven Scalar StoreConfig where
  names := ["path"]
  key
    | .path _ => ⟨"path", by decide, by decide⟩
  value
    | .path s => .text s
  inner _ := []
  set
    | .path s, c => { c with path := s.text }

/-- What can be given of the broker. -/
inductive MqttGiven where
  | host (s : Printable)
  | port (n : UInt16)
  | clientId (s : Printable)
  | keepAliveSecs (n : UInt64)

def mqttLayout : Layout MqttGiven Scalar MqttConfig where
  names := ["host", "port", "client_id", "keep_alive_secs"]
  key
    | .host _ => ⟨"host", by decide, by decide⟩
    | .port _ => ⟨"port", by decide, by decide⟩
    | .clientId _ => ⟨"client_id", by decide, by decide⟩
    | .keepAliveSecs _ => ⟨"keep_alive_secs", by decide, by decide⟩
  value
    | .host s | .clientId s => .text s
    | .port n => natural n.toNat
    | .keepAliveSecs n => natural n.toNat
  inner _ := []
  set
    | .host s, c => { c with host := s.text }
    | .port n, c => { c with port := n }
    | .clientId s, c => { c with clientId := some s.text }
    | .keepAliveSecs n, c => { c with keepAliveSecs := n }

/-- What can be given of the topics. -/
inductive TopicsGiven where
  | heartbeat (s : Printable)
  | advertise (s : Printable)

def topicsLayout : Layout TopicsGiven Scalar TopicsConfig where
  names := ["heartbeat", "advertise"]
  key
    | .heartbeat _ => ⟨"heartbeat", by decide, by decide⟩
    | .advertise _ => ⟨"advertise", by decide, by decide⟩
  value
    | .heartbeat s | .advertise s => .text s
  inner _ := []
  set
    | .heartbeat s, c => { c with heartbeat := s.text }
    | .advertise s, c => { c with advertise := s.text }

/-- What can be given of the inspection API. -/
inductive HttpGiven where
  | bind (s : Printable)

def httpLayout : Layout HttpGiven Scalar HttpConfig where
  names := ["bind"]
  key
    | .bind _ => ⟨"bind", by decide, by decide⟩
  value
    | .bind s => .text s
  inner _ := []
  set
    | .bind s, c => { c with bind := s.text }

/-- What can be given of all settings. -/
inductive Given where
  | heartbeatPeriodSecs (n : UInt64)
  | heartbeatTtlInHeartbeats (n : UInt64)
  | actualFreshnessTtlInHeartbeats (n : UInt64)
  | syncIntervalMs (n : UInt64)
  | storeUsageSampleInHeartbeats (n : UInt64)
  | trackStoreUsage (b : Bool)
  | store (lines : List (Line storeLayout))
  | mqtt (lines : List (Line mqttLayout))
  | topics (lines : List (Line topicsLayout))
  | http (lines : List (Line httpLayout))

/-- A section that is given in part has the defaults for the rest. -/
def listenerLayout : Layout Given Item ListenerConfig where
  names := ["heartbeat_period_secs", "heartbeat_ttl_in_heartbeats",
    "actual_freshness_ttl_in_heartbeats", "listener_heartbeat_sync_interval_ms",
    "store_usage_sample_in_heartbeats", "track_store_usage", "store", "mqtt", "topics", "http"]
  key
    | .heartbeatPeriodSecs _ => ⟨"heartbeat_period_secs", by decide, by decide⟩
    | .heartbeatTtlInHeartbeats _ => ⟨"heartbeat_ttl_in_heartbeats", by decide, by decide⟩
    | .actualFreshnessTtlInHeartbeats _ =>
      ⟨"actual_freshness_ttl_in_heartbeats", by decide, by decide⟩
    | .syncIntervalMs _ => ⟨"listener_heartbeat_sync_interval_ms", by decide, by decide⟩
    | .storeUsageSampleInHeartbeats _ =>
      ⟨"store_usage_sample_in_heartbeats", by decide, by decide⟩
    | .trackStoreUsage _ => ⟨"track_store_usage", by decide, by decide⟩
    | .store _ => ⟨"store", by decide, by decide⟩
    | .mqtt _ => ⟨"mqtt", by decide, by decide⟩
    | .topics _ => ⟨"topics", by decide, by decide⟩
    | .http _ => ⟨"http", by decide, by decide⟩
  value
    | .heartbeatPeriodSecs n | .heartbeatTtlInHeartbeats n | .actualFreshnessTtlInHeartbeats n
    | .syncIntervalMs n | .storeUsageSampleInHeartbeats n => .scalar (natural n.toNat)
    | .trackStoreUsage b => .scalar (.flag b)
    | .store lines => asSection lines
    | .mqtt lines => asSection lines
    | .topics lines => asSection lines
    | .http lines => asSection lines
  inner
    | .store lines => known lines
    | .mqtt lines => known lines
    | .topics lines => known lines
    | .http lines => known lines
    | _ => []
  set
    | .heartbeatPeriodSecs n, c => { c with heartbeatPeriodSecs := n }
    | .heartbeatTtlInHeartbeats n, c => { c with heartbeatTtlInHeartbeats := n }
    | .actualFreshnessTtlInHeartbeats n, c => { c with actualFreshnessTtlInHeartbeats := n }
    | .syncIntervalMs n, c => { c with syncIntervalMs := n }
    | .storeUsageSampleInHeartbeats n, c => { c with storeUsageSampleInHeartbeats := n }
    | .trackStoreUsage b, c => { c with trackStoreUsage := b }
    | .store lines, c => { c with store := overlay {} lines }
    | .mqtt lines, c => { c with mqtt := overlay {} lines }
    | .topics lines, c => { c with topics := overlay {} lines }
    | .http lines, c => { c with http := overlay {} lines }

/-- Some of the settings, in the order of the text. -/
abbrev Sheet := List (Line listenerLayout)

/-- The text of a sheet. -/
def Sheet.text (sheet : Sheet) : String := .ofList (Page.chars (sheet.map Line.entry))

/-- The defaults with what a sheet gives in their place. -/
def Sheet.config (sheet : Sheet) : ListenerConfig := overlay {} sheet

/-- The settings that a sheet comes to do not depend on the order of its keys. -/
theorem Sheet.config_perm {sheet sheet' : Sheet} (perm : sheet.Perm sheet')
    (distinct : IsDistinct sheet) : sheet.config = sheet'.config := by
  refine overlay_perm ?_ perm distinct.1 {}
  intro a b c other
  cases a <;> cases b <;> first | rfl | exact absurd rfl other

end ActualState.Config
