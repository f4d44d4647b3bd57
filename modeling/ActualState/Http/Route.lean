import ActualState.Text.Percent

/-!
# Routes

Which resource a request is for. Routes are matched against the path as it is written, without
its query; only the guid of a single DEA is percent-decoded.
-/
namespace ActualState.Http

/-- A resource of the inspection API. -/
inductive Route where
  | health
  | metrics
  | systemHealth
  | freshness
  | deas
  /-- One DEA; its guid is still percent-encoded. -/
  | dea (segment : String)
  deriving DecidableEq, Repr, Inhabited

/-- The path of a request target that begins with it: everything before a query or a fragment. -/
def pathOf (target : String) : String :=
  String.ofList (target.toList.takeWhile fun c => c != '?' && c != '#')

/-- A path that begins with given characters. -/
def beginsWith (path start : String) : Bool := start.toList.isPrefixOf path.toList

/-- The single non-empty segment after `/deas/`, if there is just one. -/
def deaSegment? (path : String) : Option String :=
  let start := "/deas/".toList
  let rest := path.toList.drop start.length
  if start.isPrefixOf path.toList && !rest.isEmpty && !rest.contains '/' then
    some (String.ofList rest)
  else none

/-- The resource at a path. -/
def Route.ofPath? (path : String) : Option Route :=
  if path = "/health" then some .health
  else if path = "/metrics" then some .metrics
  else if path = "/system/health" then some .systemHealth
  else if path = "/actual/freshness" then some .freshness
  else if path = "/deas" then some .deas
  else (deaSegment? path).map .dea

/-- Paths that need no key. -/
def isOpen (path : String) : Bool := beginsWith path "/health" || beginsWith path "/metrics"

/-- The guid that a segment stands for, if it is text. -/
def decodeSegment? (segment : String) : Option String :=
  Text.Utf8.toString? (Text.Percent.decode (Text.Utf8.ofString segment))

end ActualState.Http
