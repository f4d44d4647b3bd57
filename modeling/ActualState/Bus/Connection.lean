import ActualState.Bus.Routing
import ActualState.Health

/-!
# The connection to the broker

Requests wait in a queue of limited length, and go out while there is a connection. A call whose
request finds the queue full waits until there is room. Every time the broker accepts a
connection all topics are requested again, in whatever order the table of topics is gone through;
for this nobody waits, so a request that finds the queue full is lost. A step that cannot happen
changes nothing.
-/
namespace ActualState.Bus

/-- What is asked of the broker. -/
inductive Request where
  | subscribe (topic : String)
  | publish (topic : String) (payload : List UInt8)
  deriving DecidableEq, Repr, Inhabited

/-- The only way in which the bus refuses something: a message whose topic is a pattern. -/
def refusalText : String := "MQTT client error: Failed to send mqtt requests to eventloop"

/-- Whether a topic is a pattern for topics. -/
def isPattern (topic : String) : Bool := topic.contains '+' || topic.contains '#'

/-- A connection, with what waits for it. -/
structure Connection where
  routing : Routing := {}
  queue : List Request := []
  /-- The requests of calls that wait for room in the queue. -/
  waiting : List Request := []
  health : HealthTracker := {}
  deriving DecidableEq, Repr, Inhabited

/-- What can happen to a connection. -/
inductive Step where
  | subscribe (topic : String)
  | publish (topic : String) (payload : List UInt8)
  /-- A subscription is given up. -/
  | close (number : Nat)
  /-- The broker accepts the connection, and all topics are gone through in this order. -/
  | accepted (order : List String)
  /-- The connection is lost, refused or not possible. -/
  | lost
  /-- The broker delivers a message. -/
  | incoming (topic : String) (payload : List UInt8)
  /-- The oldest request goes out. -/
  | send
  deriving DecidableEq, Repr, Inhabited

namespace Connection

/-- How many requests the queue holds. -/
def capacity : Nat := 64

/-- Whether the broker has accepted the connection. -/
def isUp (c : Connection) : Bool := c.health.status = .connected

/-- Queues a request, or has its call wait. -/
def request (c : Connection) (r : Request) : Connection :=
  if c.queue.length < capacity then { c with queue := c.queue ++ [r] }
  else { c with waiting := c.waiting ++ [r] }

/-- Queues a request if there is room. -/
def tryRequest (c : Connection) (r : Request) : Connection :=
  if c.queue.length < capacity then { c with queue := c.queue ++ [r] } else c

/-- Subscribes to a topic, once more if need be. -/
def subscribe (c : Connection) (topic : String) : Connection :=
  { c with routing := c.routing.subscribe topic }.request (.subscribe topic)

/-- Publishes a message, unless its topic is a pattern. -/
def publish? (c : Connection) (topic : String) (payload : List UInt8) : Option Connection :=
  if isPattern topic then none else some (c.request (.publish topic payload))

/-- Requests topics without waiting. -/
def requestAll (c : Connection) (topics : List String) : Connection :=
  topics.foldl (fun c topic => c.tryRequest (.subscribe topic)) c

/-- The broker has accepted the connection, and topics are requested in order. -/
def accepted (c : Connection) (order : List String) : Connection :=
  { c with health := c.health.connected }.requestAll order

/-- Sends the oldest request, which makes room for the first that waits. -/
def send (c : Connection) : Connection :=
  if c.isUp then
    match c.waiting with
    | [] => { c with queue := c.queue.tail }
    | r :: rest => { c with queue := c.queue.tail ++ [r], waiting := rest }
  else c

/-- One step. -/
def step (c : Connection) : Step → Connection
  | .subscribe topic => c.subscribe topic
  | .publish topic payload => (c.publish? topic payload).getD c
  | .close number => { c with routing := c.routing.close number }
  | .accepted order => if order.isPerm c.routing.topics then c.accepted order else c
  | .lost => { c with health := c.health.lost }
  | .incoming topic payload => { c with routing := (c.routing.dispatch topic payload).1 }
  | .send => c.send

end Connection

end ActualState.Bus
