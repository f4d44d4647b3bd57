import ActualState.Decimal.Style
import ActualState.Decimal.Reading

/-!
# Metrics

Three gauges and their text for scraping. The two totals are held as signed 64-bit numbers.
-/
namespace ActualState

/-- A value reported by the listener. -/
inductive Metric where
  | received (total : Nat)
  | saved (total : Nat)
  | usage (fraction : Float)
  deriving DecidableEq, Inhabited

/-- The gauges, each with the last value reported. -/
structure Gauges where
  received : Int := 0
  saved : Int := 0
  usage : Float := 0.0
  deriving Inhabited

namespace Gauges

/-- A total of 64 bits read as a signed number. -/
def wrap (n : Nat) : Int := Int.bmod n 18446744073709551616

/-- Takes over a reported value. -/
def report (g : Gauges) : Metric → Gauges
  | .received n => { g with received := wrap n }
  | .saved n => { g with saved := wrap n }
  | .usage x => { g with usage := x }

/-- The double nearest to a signed 64-bit number. -/
def ofSigned (n : Int) : Float :=
  if n < 0 then -(Decimal.ofNatural n.natAbs) else Decimal.ofNatural n.natAbs

/-- A gauge with its help line. -/
def line (name help : String) (value : Float) : String :=
  let full := "symbion_listener_" ++ name
  "# HELP " ++ full ++ " " ++ help ++ "\n# TYPE " ++ full ++ " gauge\n" ++
    full ++ " " ++ Decimal.metricsStyle.write value ++ "\n"

/-- All gauges, by name. -/
def render (g : Gauges) : String :=
  line "actual_state_listener_store_usage_fraction"
      "Fraction of time the store spent writing over the last sample window" g.usage ++
    line "received_heartbeats" "Total heartbeats decoded since start" (ofSigned g.received) ++
    line "saved_heartbeats" "Total heartbeats committed to the store" (ofSigned g.saved)

end Gauges

end ActualState
