import Reachability.Agent.Metrics
import Reachability.History.Store

/-!
# Where observations go

Each observation is handed to the metrics, with its latency only when it succeeded, then
to the observation store and to the aggregator, when there are such. The agent's log of
observations, when asked for, is not part of the state.
-/

namespace Reachability.Agent

open Reachability.Probe
open Reachability.History
open Reachability.Time

/-- The consumers of observations. -/
structure Sinks where
  metrics : Metrics := {}
  store : Option HourlyStore := none
  aggregator : Option Aggregator := none
deriving Repr

/-- Hands an observation arriving at `now` to every consumer. -/
def Sinks.dispatch (s : Sinks) (o : Observation) (now : Instant) : Sinks :=
  { metrics := s.metrics.observe o.srcHost o.destHost o.jobId o.ok
      (if o.ok then o.latency else none),
    store := s.store.map (·.add o),
    aggregator := s.aggregator.map (·.add o now) }

end Reachability.Agent
