import Reachability.Agent.Registry
import Reachability.Agent.Aggregator
import Reachability.Probe.Factory
import Reachability.History.Store
import Reachability.Files.Parent

/-!
# Keeping the jobs in line with the settings

The manager holds the settings in force (the agent's and the cluster's) and keeps the
registry of probe jobs in line with them. Applying new settings is all or nothing: every
job of the network mode is built first, and if one cannot be, nothing changes.

When every job is built:

* the observation store is created, once, from the first settings naming an output
  directory, with the mode's file prefix and the retention;
* the settings are put in force;
* the built jobs are added or replace the jobs of their ids; the jobs of ids the old
  settings had and the new ones do not are deleted, and so are jobs without targets,
  whose ids stay valid all the same;
* the metrics are told which job ids became obsolete and which destinations are valid,
  and the aggregator which job ids and hosts are valid.

Loading reads the cluster's file before the agent's at the start; a reload reads the
agent's first, and changes nothing when both files still say what is in force.
-/

namespace Reachability.Agent

open Reachability.Config
open Reachability.Probe
open Reachability.History
open Reachability.Files
open Reachability.Time

/-- What applying settings tells the metrics and the aggregator. -/
structure Reconciled where
  /-- The job ids the old settings had and the new ones do not. -/
  obsolete : List String
  /-- The hosts the built jobs probe. -/
  validHosts : List String
  edges : ValidEdges
deriving DecidableEq, Repr

/-- The state of the manager. -/
structure Manager where
  agentFile : String
  clusterFile : String
  hostNetwork : Bool
  /-- The host name the probes report as their source. -/
  nodeName : String
  registry : Registry ProbeJob := {}
  store : Option HourlyStore := none
  agent : Agent := {}
  cluster : Cluster := {}

/-- Adds an element to a list unless it is there. -/
def addNew (xs : List String) (x : String) : List String := if xs.contains x then xs else xs ++ [x]

namespace Manager

/-- The directories of the two settings files, each path once; `.` for a file without one. -/
def watchedDirs (m : Manager) : List String :=
  [m.agentFile, m.clusterFile].foldl (fun acc f =>
    let dir := match parentText f with
      | some p => if p.isEmpty then "." else p
      | none => "."
    if acc.any (samePath · dir) then acc else acc ++ [dir]) []

/-- Builds the jobs of the mode; returns the jobs with targets and the ids of the others. -/
def buildJobs (m : Manager) (config : Agent) (cluster : Cluster) :
    Except AgentError (List ProbeJob × List String) :=
  let period := ((config.network m.hostNetwork).map Network.period).getD defaultJobPeriod
  (config.jobs m.hostNetwork).foldlM (fun (acc : List ProbeJob × List String) job => do
    match ← buildJob m.nodeName cluster job period with
    | some j => pure (acc.1 ++ [j], acc.2)
    | none => pure (acc.1, acc.2 ++ [job.id])) ([], [])

/-- The store the settings ask for, created in the volume, if they name a directory. -/
def createStore (m : Manager) (config : Agent) (v : Dir) :
    Except AgentError (Option (Dir × HourlyStore)) :=
  match config.outputDir with
  | none => .ok none
  | some dir =>
    let filePrefix := ((config.network m.hostNetwork).map Network.filePrefix).getD defaultFilePrefix
    match HourlyStore.create v dir filePrefix config.retention with
    | .ok r => .ok (some r)
    | .error e => .error (.io e.message)

/-- Puts settings in force at `now`, with the cluster given or the one in force; a new
job's first run is placed `offset id` nanoseconds before now. -/
def reconcile (m : Manager) (config : Agent) (cluster : Option Cluster) (now : Int)
    (offset : String → Nat) (v : Dir) : Except AgentError (Manager × Dir × Reconciled) := do
  let previous := (m.agent.jobs m.hostNetwork).map (·.id)
  let cluster := cluster.getD m.cluster
  let (jobs, skipped) ← m.buildJobs config cluster
  let applied := (config.jobs m.hostNetwork).map (·.id)
  let validHosts := (jobs.flatMap ProbeJob.destHosts).foldl addNew []
  let (v, store) ← match m.store with
    | some s => pure (v, some s)
    | none => do
      match ← m.createStore config v with
      | some (v', s) => pure (v', some s)
      | none => pure (v, none)
  let registry := jobs.foldl (fun r j => r.add j.config.id j.period j now (offset j.config.id))
    m.registry
  let obsolete := previous.filter fun id => !applied.contains id
  let registry := (obsolete ++ skipped).foldl Registry.delete registry
  let edges : ValidEdges :=
    { jobIds := applied.foldl addNew [], srcHosts := validHosts, destHosts := validHosts }
  let done : Reconciled := { obsolete := obsolete.foldl addNew [], validHosts, edges }
  pure ({ m with registry, store, agent := config, cluster }, v, done)

/-- Loads both files and puts them in force. -/
def load (m : Manager) (now : Int) (offset : String → Nat) (v : Dir) :
    Except AgentError (Manager × Dir × Reconciled) := do
  let cluster ← (Cluster.load v m.clusterFile).mapError AgentError.config
  let agent ← (Agent.load v m.agentFile).mapError AgentError.config
  m.reconcile agent (some cluster) now offset v

/-- Puts an agent's settings in force with the cluster in force. -/
def applyAgent (m : Manager) (config : Agent) (now : Int) (offset : String → Nat) (v : Dir) :
    Except AgentError (Manager × Dir × Reconciled) :=
  m.reconcile config none now offset v

/-- Loads both files again; nothing is applied when they say what is in force. -/
def reload (m : Manager) (now : Int) (offset : String → Nat) (v : Dir) :
    Except AgentError (Manager × Dir × Option Reconciled) := do
  let agent ← (Agent.load v m.agentFile).mapError AgentError.config
  let cluster ← (Cluster.load v m.clusterFile).mapError AgentError.config
  if agent.sameAs m.agent && cluster == m.cluster then pure (m, v, none)
  else
    let (m, v, r) ← m.reconcile agent (some cluster) now offset v
    pure (m, v, some r)

end Manager

end Reachability.Agent
