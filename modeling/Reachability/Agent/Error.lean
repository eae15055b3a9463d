import Reachability.Config.Load

/-!
# Agent errors

What can go wrong in an agent, each with its message: settings that cannot be loaded, a
probe job that cannot be built, observations with nowhere to go, and failures of storage,
of watching the settings files, of encoding a report, of the metrics and of input and
output.
-/

namespace Reachability.Agent

open Reachability.Config

/-- Why an agent's step failed. -/
inductive AgentError where
  | config (e : ConfigError)
  | invalidJob (jobId reason : String)
  | noWriter
  | storage (message : String)
  | watch (message : String)
  | encode (message : String)
  | metrics (message : String)
  | io (message : String)
deriving DecidableEq, Repr

/-- The message of an agent error. -/
def AgentError.message : AgentError → String
  | .config e => "configuration error: " ++ e.message
  | .invalidJob id reason => "invalid job " ++ id ++ ": " ++ reason
  | .noWriter => "no observation writer configured"
  | .storage m => "storage error: " ++ m
  | .watch m => "config watch error: " ++ m
  | .encode m => "cannot encode report: " ++ m
  | .metrics m => "metrics error: " ++ m
  | .io m => "IO error: " ++ m

end Reachability.Agent
