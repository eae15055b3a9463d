import Reachability.Probe.Factory
import Reachability.Probe.Observation

/-!
# One run of a port probe

A run connects to every target in order, each within a timeout of five seconds, and
reports one observation per target: a success with the time the connection took, or a
failure with the reason. How each connection goes is up to the network, so it is given.
-/

namespace Reachability.Probe

open Reachability.Time

/-- How a connection attempt went. -/
inductive Connection where
  | connected (took : Elapsed)
  | failed (reason : String)
  | timedOut
deriving DecidableEq, Repr

/-- The time a connection may take. -/
def connectTimeout : Elapsed := Elapsed.ofSeconds 5

/-- The address of a target, `ip:port`. -/
def Target.address (t : Target) : String := t.ip ++ ":" ++ toString t.port

/-- The observation of one connection attempt from `source` at `at_`. -/
def observe (source jobId : String) (t : Target) (c : Connection) (at_ : Instant) : Observation :=
  match c with
  | .connected took =>
    Observation.make source t.hostname jobId true (some took) at_ ("connected to " ++ t.address)
  | .failed reason =>
    Observation.make source t.hostname jobId false none at_
      ("cannot connect to " ++ t.address ++ ": " ++ reason)
  | .timedOut =>
    Observation.make source t.hostname jobId false none at_
      ("timeout connecting to " ++ t.address ++ " after " ++ connectTimeout.exactText)

/-- The observations of one run of a job at `at_`, given how each connection goes. -/
def ProbeJob.run (j : ProbeJob) (connect : Target → Connection) (at_ : Instant) :
    List Observation :=
  j.targets.map fun t => observe j.source j.config.id t (connect t) at_

end Reachability.Probe
