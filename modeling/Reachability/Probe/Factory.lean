import Reachability.Agent.Error
import Reachability.CommandLine.Parse
import Reachability.Time.Human
import Reachability.Text.Quoted
import Reachability.Text.Blank

/-!
# Building probe jobs

A job's arguments are a command line whose first word names the probe. The one probe is
`checkTCPPort`, which connects to a list of targets:

* `--endpoints host:ip:port,...`, any number of times;
* `--node-port <port>`: every node of the cluster, at its internal address;
* `--endpoint-internal-kube-apiserver` and `--endpoint-kube-apiserver`: the cluster's API
  server as seen from inside and from outside, when the cluster names one;
* `--period <duration>`: how often the job runs; the default period when it is missing or
  zero.

The targets are listed in that order. A job with no target is skipped: it is valid, but
has nothing to do in this cluster. An endpoint must have exactly three parts, and its port
must be a 16-bit count. The command line has no help option.
-/

namespace Reachability.Probe

open Reachability.Config
open Reachability.CommandLine
open Reachability.Time
open Reachability.Agent
open Reachability.Number

/-- A host a probe connects to. -/
structure Target where
  hostname : String
  ip : String
  port : Nat
deriving DecidableEq, Repr

/-- The name of the port probe. -/
def portProbeName : String := "checkTCPPort"

/-- Values that are durations. -/
def durationCheck (s : String) : Option ValueFault :=
  match readDuration s with
  | .ok _ => none
  | .error e => some (.invalid e.message)

/-- The command line of the port probe. -/
def portProbe : Program where
  root := { name := portProbeName, options := [
    { name := "endpoints", long := "endpoints", valueName := "ENDPOINTS",
      arity := .repeated (some ','), about := "Endpoints as hostname:ip:port", order := 0 },
    { name := "node_port", long := "node-port", valueName := "NODE_PORT", arity := .single,
      about := "Port to probe on every cluster node", order := 1, check := portCheck },
    { name := "endpoint_internal_kube_apiserver", long := "endpoint-internal-kube-apiserver",
      order := 2 },
    { name := "endpoint_kube_apiserver", long := "endpoint-kube-apiserver", order := 3 },
    { name := "period", long := "period", valueName := "PERIOD", arity := .single, order := 4,
      check := durationCheck }] }
  hasHelp := false

/-- Reads an endpoint `hostname:ip:port`. -/
def readEndpoint (s : String) : Except String Target :=
  match s.splitOn ":" with
  | [hostname, ip, port] =>
    match readUnsignedBits 16 port with
    | .ok p => .ok { hostname, ip, port := p }
    | .error e => .error ("invalid port in endpoint " ++ s ++ ": " ++ e.message)
  | _ => .error ("invalid endpoint " ++ s ++ ", expected hostname:ip:port")

/-- A target for a server of the cluster. -/
def Target.ofEndpoint (e : Endpoint) : Target := { hostname := e.hostname, ip := e.ip, port := e.port }

/-- The targets a parsed command line names in a cluster, or why an endpoint is wrong. -/
def targets (cluster : Cluster) (p : Parsed) : Except String (List Target) := do
  let listed ← (p.values "endpoints").mapM readEndpoint
  let nodes := match (p.value? "node_port").bind portValue with
    | some port => cluster.nodes.map fun n => { hostname := n.hostname, ip := n.internalIp, port }
    | none => []
  let inner := if p.flag "endpoint_internal_kube_apiserver" then
      (cluster.internalApiServer.map Target.ofEndpoint).toList else []
  let outer := if p.flag "endpoint_kube_apiserver" then
      (cluster.apiServer.map Target.ofEndpoint).toList else []
  pure (listed ++ nodes ++ inner ++ outer)

/-- A probe job ready to run: its settings, its period, the host it probes from and its
targets. -/
structure ProbeJob where
  config : Job
  period : Elapsed
  source : String
  targets : List Target
deriving DecidableEq, Repr

namespace ProbeJob

/-- The hosts the job probes, in order. -/
def destHosts (j : ProbeJob) : List String := j.targets.map (·.hostname)

/-- What the job does, in short. -/
def description (j : ProbeJob) : String := toString j.targets.length ++ " endpoints"

/-- The job as diagnostics show it; `lastRun` is the text of its last start. -/
def debugText (j : ProbeJob) (lastRun : String) : String :=
  "Job \x7b job_id: " ++ Text.quoteVisible j.config.id ++ ", args: [" ++
    ", ".intercalate (j.config.args.map Text.quoteVisible) ++ "], period: " ++
    j.period.exactText ++ ", last_run: " ++ lastRun ++ " \x7d"

end ProbeJob

/-- Builds the job of a job's settings in a cluster, probing from `source`: none when it
has no target. -/
def buildJob (source : String) (cluster : Cluster) (job : Job) (defaultPeriod : Elapsed) :
    Except AgentError (Option ProbeJob) :=
  let invalid (reason : String) : AgentError := .invalidJob job.id reason
  match job.args with
  | [] => .error (invalid "no job args")
  | command :: _ =>
    if command != portProbeName then .error (invalid ("unknown command " ++ command))
    else
      match portProbe.parse job.args with
      | .error e => .error (invalid (Text.trimEndBlanks e.text))
      | .ok p =>
        match targets cluster p with
        | .error reason => .error (invalid reason)
        | .ok [] => .ok none
        | .ok ts =>
          let period := match (p.value? "period").bind fun v => (readDuration v).toOption with
            | some d => if d.nanos = 0 then defaultPeriod else d
            | none => defaultPeriod
          .ok (some { config := job, period, source, targets := ts })

end Reachability.Probe
