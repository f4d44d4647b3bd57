/-!
# Routing messages to subscriptions

A message goes to the open subscriptions of exactly its topic, in the order in which they were
made. A topic that was subscribed once keeps its place in the table, with or without
subscriptions that are still open.
-/
namespace ActualState.Bus

/-- A subscription and everything it has received, oldest first. -/
structure Subscription where
  topic : String
  isOpen : Bool := true
  received : List (List UInt8) := []
  deriving DecidableEq, Repr, Inhabited

/-- The subscriptions, by number, and the numbers that each topic leads to. -/
structure Routing where
  routes : List (String × List Nat) := []
  subscriptions : List Subscription := []
  deriving DecidableEq, Repr, Inhabited

namespace Routing

/-- The topics that were ever subscribed, each once. -/
def topics (r : Routing) : List String := r.routes.map Prod.fst

/-- Whether a subscription is open. -/
def isOpen (r : Routing) (number : Nat) : Bool := (r.subscriptions[number]?).any (·.isOpen)

/-- Adds a number to the route of a topic. -/
def addRoute (topic : String) (number : Nat) :
    List (String × List Nat) → List (String × List Nat)
  | [] => [(topic, [number])]
  | (t, ns) :: rest =>
    if t = topic then (t, ns ++ [number]) :: rest else (t, ns) :: addRoute topic number rest

/-- Another subscription; its number is the number of those before it. -/
def subscribe (r : Routing) (topic : String) : Routing where
  routes := addRoute topic r.subscriptions.length r.routes
  subscriptions := r.subscriptions ++ [{ topic }]

/-- Closes a subscription. -/
def close (r : Routing) (number : Nat) : Routing :=
  { r with subscriptions := r.subscriptions.modify number fun s => { s with isOpen := false } }

/-- Gives a message to a subscription. -/
def receive (payload : List UInt8) (ss : List Subscription) (number : Nat) : List Subscription :=
  ss.modify number fun s => { s with received := s.received ++ [payload] }

/-- Routes a message. Closed subscriptions leave the route; the second part says whether any was
open. -/
def dispatch (r : Routing) (topic : String) (payload : List UInt8) : Routing × Bool :=
  match r.routes.lookup topic with
  | none => (r, false)
  | some numbers =>
    let kept := numbers.filter r.isOpen
    ({ routes := r.routes.map fun (t, ns) => if t = topic then (t, kept) else (t, ns)
       subscriptions := kept.foldl (receive payload) r.subscriptions },
      !kept.isEmpty)

end Routing

end ActualState.Bus
