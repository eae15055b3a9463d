import Reachability.Time.Instant

/-!
# Observations

An observation is the outcome of one probe run from a source host to a destination host:
whether the destination answered, how long the probe took, when it ran, which job ran it
and a line of text about the result. Time and latency are kept in their wire form, so a
stored observation reads back exactly as it was written; `time` and `latency` interpret
them.
-/

namespace Reachability.Probe

open Reachability.Time

/-- The outcome of one probe run against one destination. -/
structure Observation where
  srcHost : String
  destHost : String
  timestamp : Option Stamp
  duration : Option Lapse
  ok : Bool
  jobId : String
  result : String
deriving DecidableEq, Repr

namespace Observation

/-- The observation of a run at `at`, with its latency if one was measured. -/
def make (src dest job : String) (ok : Bool) (latency : Option Elapsed) (at_ : Instant)
    (result : String) : Observation :=
  { srcHost := src, destHost := dest, timestamp := some at_.toStamp,
    duration := latency.map Lapse.ofElapsed, ok := ok, jobId := job, result := result }

/-- When the probe ran; an observation without a timestamp ran at the epoch. -/
def time (o : Observation) : Instant :=
  match o.timestamp with
  | some s => Instant.ofStamp s
  | none => Instant.epoch

/-- The probe's latency, if one was recorded. -/
def latency (o : Observation) : Option Elapsed := o.duration.map Lapse.toElapsed

/-- The edge of an observation: its source and destination. -/
def edge (o : Observation) : String × String := (o.srcHost, o.destHost)

end Observation

end Reachability.Probe
