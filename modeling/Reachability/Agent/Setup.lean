import Reachability.Agent.Manager
import Reachability.Agent.Dispatch
import Reachability.Probe.Run
import Reachability.CommandLine.Parse

/-!
# Starting an agent

An agent is started from its settings file, its cluster file, the network mode, the
name of its node (the source of its observations), the tick of its scheduler and the
directory of its reports.

Setting up reads the agent's settings, creates the aggregator with their report period
and window (and the report directory), and loads both files through the manager, which
builds the jobs; the metrics and the aggregator hear what the manager decided. Any failure
stops the start.

The agent's command line names the files, the mode, the query port, the report
directory and the tick in milliseconds; a failed start ends the program with status 1 and
the chain of causes of the error.
-/

namespace Reachability.Agent

open Reachability.Config
open Reachability.CommandLine
open Reachability.Files
open Reachability.Time
open Reachability.Number

/-- What an agent is started with. -/
structure Options where
  configFile : String
  clusterFile : String
  hostNetwork : Bool
  nodeName : String
  tickPeriod : Elapsed
  logDir : String
  grpcPort : Nat
deriving DecidableEq, Repr

/-- A started agent. -/
structure Started where
  options : Options
  manager : Manager
  sinks : Sinks

/-- Tells the metrics and the aggregator what applying settings decided. -/
def Sinks.hear (s : Sinks) (r : Reconciled) : Sinks :=
  { s with
    metrics := (s.metrics.evictJobIds r.obsolete).evictInvalidDestHosts r.validHosts,
    aggregator := s.aggregator.map (·.updateValidEdges r.edges) }

/-- Sets an agent up at `now` on the scheduler's clock; a new job's first run is placed
`offset id` nanoseconds before now. -/
def setup (o : Options) (now : Int) (offset : String → Nat) (v : Dir) :
    Except AgentError (Started × Dir) := do
  let initial ← (Agent.load v o.configFile).mapError AgentError.config
  let (aggregator, v) ← Aggregator.create (Elapsed.ofSeconds initial.reportPeriod)
    (Elapsed.ofSeconds initial.window) o.logDir o.hostNetwork v
  let m : Manager :=
    { agentFile := o.configFile, clusterFile := o.clusterFile, hostNetwork := o.hostNetwork,
      nodeName := o.nodeName }
  let (m, v, r) ← m.load now offset v
  let sinks : Sinks := { store := m.store, aggregator := some aggregator }
  pure ({ options := o, manager := m, sinks := sinks.hear r }, v)

/-- The causes of an error, outermost first. -/
def AgentError.causes (e : AgentError) : List String :=
  e.message :: match e with
    | .config c => c.message :: match c with
      | .read _ m => [m]
      | .parse _ d => [d.message]
      | .invalid _ => []
    | .io m => [m]
    | _ => []

/-- A cause as listed: numbered when there are several, each further line indented. -/
def causeText (number : Option Nat) (text : String) : String :=
  let lines := text.splitOn "\n"
  let head := match number with
    | some n => String.ofList (List.replicate (5 - min 5 (toString n).length) ' ') ++ toString n ++ ": "
    | none => "    "
  let indent := if number.isSome then "       " else "    "
  head ++ ("\n" ++ indent).intercalate lines

/-- The report of an error with its context: the context, then its causes. -/
def errorReport (context : String) (causes : List String) : String :=
  "Error: " ++ context ++
    (if causes.isEmpty then ""
    else "\n\nCaused by:" ++ String.join ((causes.zipIdx).map fun (c, i) =>
      "\n" ++ causeText (if causes.length > 1 then some i else none) c)) ++ "\n"

/-- How the agent ends when it cannot start. -/
def startFailure (e : AgentError) : Ending :=
  { exit := 1, stderr := errorReport "failed to start agent" e.causes }

/-- The command line of the agent. -/
def agentProgram : Program where
  root := {
    name := "nwpd-agent",
    about := "Network problem detector agent",
    options := [
      { name := "config", long := "config", valueName := "CONFIG", arity := .single,
        about := "Agent configuration file", default := some "/etc/nwpd/agent-config.yaml",
        order := 0, check := pathCheck },
      { name := "cluster_config", long := "cluster-config", valueName := "CLUSTER_CONFIG",
        arity := .single, about := "Cluster configuration file",
        default := some "/etc/nwpd/cluster-config.yaml", order := 1, check := pathCheck },
      { name := "host_network", long := "host-network",
        about := "Run the host network jobs instead of the pod network jobs", order := 2 },
      { name := "grpc_port", long := "grpc-port", valueName := "GRPC_PORT", arity := .single,
        about := "Port of the gRPC query API", default := some "8880", order := 3,
        check := portCheck },
      { name := "log_dir", long := "log-dir", valueName := "LOG_DIR", arity := .single,
        about := "Directory for aggregation reports", default := some "/var/log/nwpd", order := 4,
        check := pathCheck },
      { name := "tick_period_ms", long := "tick-period-ms", valueName := "TICK_PERIOD_MS",
        arity := .single, about := "Scheduler tick in milliseconds", default := some "50",
        order := 5, check := countCheck },
      { name := "verbose", long := "verbose", short := some 'v', about := "Enable verbose logging",
        order := 6 }] }
  version := some "0.0.1"

/-- The options of a parsed command line, for a node of the given name. -/
def Options.ofParsed (p : Parsed) (nodeName : String) : Options :=
  let count (name : String) (fallback : Nat) : Nat :=
    ((p.value? name).bind fun v => (readUnsignedBits 64 v).toOption).getD fallback
  { configFile := (p.value? "config").getD "", clusterFile := (p.value? "cluster_config").getD "",
    hostNetwork := p.flag "host_network", nodeName,
    tickPeriod := Elapsed.ofMillis (max (count "tick_period_ms" 50) 1),
    logDir := (p.value? "log_dir").getD "",
    grpcPort := ((p.value? "grpc_port").bind portValue).getD 8880 }

/-- How the agent's program ends before it starts, or the options it starts with; the
first argument is the program's path. -/
def startAgent (args : List String) (nodeName : String) : Except Ending Options :=
  match agentProgram.parse args with
  | .error e => .error e.ending
  | .ok p => .ok (Options.ofParsed p nodeName)

end Reachability.Agent
