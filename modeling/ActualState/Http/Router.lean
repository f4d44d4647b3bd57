import ActualState.Health
import ActualState.Http.Route
import ActualState.Store.Backend

/-!
# The inspection API

Read access to what the listener has gathered and what the store certifies. Everything but the
paths that begin with `/health` or `/metrics` needs the API key, and that is settled before the
path is looked at any further.
-/
namespace ActualState.Http

open Time (Moment Duration)
open Json (Value)

/-- A request: its method, its target, and the values of its `x-api-key` headers. -/
structure Request where
  method : String
  /-- The path with its query, as it is left when a target names a host before it. -/
  target : String
  apiKeys : List (List UInt8)
  deriving DecidableEq, Inhabited

/-- A response. -/
structure Response where
  status : Nat
  contentType : Option String := none
  allow : Option String := none
  body : String := ""
  deriving DecidableEq, Repr, Inhabited

/-- What the API shows: a listener, its store, its connection and its gauges, at one time. -/
structure Snapshot where
  now : Moment
  /-- How long the listener has been up. -/
  uptime : Duration
  aggregation : Aggregation
  backend : Backend
  tracker : HealthTracker
  gauges : Gauges
  deriving Inhabited

/-- The health document at that time. -/
def Snapshot.health (s : Snapshot) : ListenerHealth :=
  .gather (s.uptime / Time.second) s.tracker s.aggregation (s.backend.isFresh s.now)
    (s.backend.actualState s.now).size

/-- Plain text. -/
def plainText : String := "text/plain; charset=utf-8"

/-- A text. -/
def textResponse (status : Nat) (body : String) : Response :=
  { status := status, contentType := some plainText, body := body }

/-- A JSON document. -/
def jsonResponse (v : Value) : Response :=
  { status := 200, contentType := some "application/json", body := v.toText }

/-- A value of visible characters, spaces and tabs. -/
def isVisible (value : List UInt8) : Bool :=
  value.all fun b => (0x20 ≤ b && b < 0x7F) || b = 0x09

/-- The key that the environment expects by a variable: none if that is not set or not text. -/
def expectedKey (setting : Option (List UInt8)) : Option String :=
  setting.bind Text.Utf8.toString?

/-- Whether the first key of a request is the expected one. An empty or missing expectation
admits nobody. -/
def isAuthorized (expected : Option String) (keys : List (List UInt8)) : Bool :=
  match expected, keys with
  | some e, k :: _ => !e.isEmpty && isVisible k && k == Text.Utf8.ofString e
  | _, _ => false

/-- Whole seconds since a record was updated, none if that is still to come. -/
def ageSeconds (r : DeaRecord) (now : Moment) : Nat := (now.since r.updatedAt).toNat / Time.second

/-- A moment as text, empty if it has none. -/
def textOrEmpty (m : Moment) : String := (m.format.toOption).getD ""

/-- A moment as text, `null` if it has none. -/
def textOrNull (m : Option Moment) : Value :=
  .option .string (m.bind fun m => m.format.toOption)

/-- What the API shows of a DEA. -/
def deaView (guid : String) (r : DeaRecord) (now : Moment) : Value := .object [
  ("dea_guid", .string guid),
  ("updated_at", .string (textOrEmpty r.updatedAt)),
  ("age_seconds", .nat (ageSeconds r now)),
  ("instances", .list InstanceHeartbeat.toJson r.instances)]

/-- The health document, or why it has no text. -/
def systemHealth (s : Snapshot) : Response :=
  match s.health.toJson with
  | .ok v => jsonResponse v
  | .error f => textResponse 500 f.message

/-- The freshness of the state. -/
def freshness (s : Snapshot) : Response :=
  let record := s.backend.freshness
  jsonResponse (.object [
    ("fresh", .boolean (isFreshAt record s.now)),
    ("fresh_at", textOrNull (record.map (·.freshAt))),
    ("expires_at", textOrNull (record.map (·.expiresAt)))])

/-- All DEAs that are alive, by guid, which is the order that their register keeps. -/
def deas (s : Snapshot) : Response :=
  jsonResponse (.list (fun e => deaView e.1 e.2 s.now) (s.backend.actualState s.now).entries)

/-- One DEA. -/
def dea (segment : String) (s : Snapshot) : Response :=
  match decodeSegment? segment with
  | none => textResponse 400 "Invalid URL: Invalid UTF-8 in `id`"
  | some guid =>
    match (s.backend.actualState s.now).get? guid with
    | none => { status := 404 }
    | some r => jsonResponse (deaView guid r s.now)

/-- The answer to reading a resource. -/
def read (r : Route) (s : Snapshot) : Response :=
  match r with
  | .health => textResponse 200 "ok"
  | .metrics => textResponse 200 s.gauges.render
  | .systemHealth => systemHealth s
  | .freshness => freshness s
  | .deas => deas s
  | .dea segment => dea segment s

/-- The answer to a request that may be answered. -/
def respond (method : String) (route : Option Route) (s : Snapshot) : Response :=
  match route with
  | none => { status := 404 }
  | some r =>
    if method = "GET" then read r s
    else if method = "HEAD" then { read r s with body := "" }
    else { status := 405 }

/-- The methods to try instead, where a resource has none by that name. -/
def allowed (method : String) (route : Option Route) : Option String :=
  if route.isSome && method != "GET" && method != "HEAD" then some "GET,HEAD" else none

/-- The answer to a request, where `expected` is the API key. -/
def handle (expected : Option String) (q : Request) (s : Snapshot) : Response :=
  let path := pathOf q.target
  let route := Route.ofPath? path
  let response :=
    if isOpen path || isAuthorized expected q.apiKeys then respond q.method route s
    else { status := 401 }
  { response with allow := allowed q.method route }

end ActualState.Http
