import ActualState.Bus.Connection

/-!
# A bus out of reach of its broker

Steps on a connection that is never accepted: requests gather in its queue, nothing is delivered,
and a step that waits for the broker waits in vain.
-/
namespace ActualState.Simulation

/-- Steps of a bus. -/
inductive BusStep where
  /-- Waits until the broker answers the connection. -/
  | accept
  | disconnect
  | subscribe (topic : String)
  | unsubscribe (number : Nat)
  | publish (topic : String) (payload : List UInt8)
  | deliver (topic : String) (payload : List UInt8)
  | unknown
  deriving DecidableEq, Repr, Inhabited

/-- The answer to a step of a bus. -/
inductive BusReply where
  | ok
  | topic (t : String)
  | flag (b : Bool)
  /-- The topic of the message is a pattern. -/
  | refused
  | unknownStep
  deriving DecidableEq, Repr, Inhabited

namespace BusSession

open Bus (Connection)

/-- The connection, unless a call waits in vain. -/
def settled (c : Connection) (r : BusReply) : Option (Connection × BusReply) :=
  if c.waiting.isEmpty then some (c, r) else none

/-- One step; none if it never ends. -/
def step (c : Connection) : BusStep → Option (Connection × BusReply)
  | .accept => none
  | .disconnect => some (c, .ok)
  | .subscribe topic => settled (c.subscribe topic) (.topic topic)
  | .unsubscribe number =>
    some (c.step (.close number), .flag (c.routing.isOpen number))
  | .publish topic payload =>
    match c.publish? topic payload with
    | none => some (c, .refused)
    | some c => settled c .ok
  | .deliver topic payload =>
    some (if c.isUp then c.step (.incoming topic payload) else c, .ok)
  | .unknown => some (c, .unknownStep)

/-- All steps; none if one of them never ends. -/
def play (c : Connection) : List BusStep → Option (List (Connection × BusReply))
  | [] => some []
  | s :: rest => do
    let (c, r) ← step c s
    return (c, r) :: (← play c rest)

end BusSession

end ActualState.Simulation
