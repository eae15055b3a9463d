import Mathlib
import Reachability.Proofs.Reconciliation

/-!
# The port probe a job's command line describes

A job's arguments are a command line whose first word names the probe; the only probe is the
port probe. Its command line gives, once read (`PortProbeArgs`): the endpoint texts split at
commas, a port for every node, the two API-server flags and the period.

Main statement, `port_probe_job_follows_arguments`: building a job fails exactly when the
first word is missing or names another probe, when the command line cannot be read, or when
an endpoint text is not three fields split at `:` with a 16-bit port (`EndpointText`); every
failure names the job. Otherwise the job is skipped exactly when it aims at no host, and
else it aims at the endpoints' hosts, then every node's (with a node port), then the
internal and the external API server (when asked for and known), in this order
(`PortProbeArgs.hosts`); its period is the one asked for, unless that is zero, and else the
default.

The endpoints are read one by one and all of them before the job is skipped or built, so a
bad endpoint fails the job even when it would have aimed at nothing else
(`mapM_readEndpoint_of_exists`).
-/

namespace Reachability.Probe

open Reachability.Config
open Reachability.CommandLine
open Reachability.Time
open Reachability.Agent
open Reachability.Number

/-! ## What the command line gives -/

/-- The values a port probe's command line gives, as its parser yields them: the endpoint texts
split at commas, the node port read as a 16-bit port, the two API-server flags, and the
period read as a duration. -/
structure PortProbeArgs where
  endpoints : List String
  nodePort : Option Nat
  internalApiServer : Bool
  apiServer : Bool
  period : Option Elapsed

namespace PortProbeArgs

/-- The values of a parsed command line of the port probe. -/
def ofParsed (p : Parsed) : PortProbeArgs where
  endpoints := p.values "endpoints"
  nodePort := (p.value? "node_port").bind portValue
  internalApiServer := p.flag "endpoint_internal_kube_apiserver"
  apiServer := p.flag "endpoint_kube_apiserver"
  period := (p.value? "period").bind fun v => (readDuration v).toOption

/-- The hosts a port probe aims at in a cluster, in order: the first field of each endpoint,
every node when a node port is given, then the internal and the external API server when
asked for and known. -/
def hosts (a : PortProbeArgs) (cluster : Cluster) : List String :=
  a.endpoints.map (fun s => (s.splitOn ":").headD "") ++
    (if a.nodePort.isSome then cluster.nodes.map (·.hostname) else []) ++
    (if a.internalApiServer then (cluster.internalApiServer.map (·.hostname)).toList else []) ++
    (if a.apiServer then (cluster.apiServer.map (·.hostname)).toList else [])

/-- The period of a job: the one asked for, unless it is zero, and else the default. -/
def periodOr (a : PortProbeArgs) (defaultPeriod : Elapsed) : Elapsed :=
  (a.period.filter (· ≠ Elapsed.zero)).getD defaultPeriod

end PortProbeArgs

/-- An endpoint as the port probe takes it: three fields split at `:`, the last a 16-bit
port. -/
def EndpointText (s : String) : Prop :=
  ∃ host ip port n, s.splitOn ":" = [host, ip, port] ∧ readUnsignedBits 16 port = .ok n

/-! ## Endpoints -/

/-- An endpoint is read exactly from a text of the endpoint form. -/
theorem readEndpoint_ok_iff (s : String) : (∃ t, readEndpoint s = .ok t) ↔ EndpointText s := by
  unfold readEndpoint
  split
  · rename_i host ip port fields
    constructor
    · rintro ⟨t, read⟩
      split at read
      · rename_i n portRead
        exact ⟨host, ip, port, n, fields, portRead⟩
      · cases read
    · rintro ⟨host', ip', port', n, fields', portRead⟩
      rw [fields] at fields'
      obtain ⟨-, -, rfl⟩ : host = host' ∧ ip = ip' ∧ port = port' := by simpa using fields'
      simp [portRead]
  · rename_i notThree
    constructor
    · rintro ⟨t, read⟩
      cases read
    · rintro ⟨host, ip, port, n, fields, -⟩
      exact absurd fields (notThree host ip port)

/-- The host of a read endpoint is its first field. -/
theorem hostname_of_readEndpoint {s : String} {t : Target} (read : readEndpoint s = .ok t) :
    t.hostname = (s.splitOn ":").headD "" := by
  unfold readEndpoint at read
  split at read
  · rename_i host ip port fields
    split at read
    · cases read
      simp [fields]
    · cases read
  · cases read

/-- When every endpoint text is well formed, all are read, each to a target at its first
field. -/
theorem mapM_readEndpoint_of_forall :
    ∀ {ss : List String}, (∀ s ∈ ss, EndpointText s) →
      ∃ ts, ss.mapM readEndpoint = .ok ts ∧
        ts.map (·.hostname) = ss.map fun s => (s.splitOn ":").headD ""
  | [], _ => ⟨[], rfl, rfl⟩
  | s :: rest, wellFormed => by
    obtain ⟨t, read⟩ := (readEndpoint_ok_iff s).2 (wellFormed s List.mem_cons_self)
    obtain ⟨ts, readRest, hostsRest⟩ :=
      mapM_readEndpoint_of_forall fun s' held => wellFormed s' (List.mem_cons_of_mem s held)
    refine ⟨t :: ts, ?_, ?_⟩
    · simp [List.mapM_cons, read, readRest, bind, Except.bind, pure, Except.pure]
    · simp [hostname_of_readEndpoint read, hostsRest]

/-- One endpoint text that is not well formed fails the reading of all of them. -/
theorem mapM_readEndpoint_of_exists :
    ∀ {ss : List String}, (∃ s ∈ ss, ¬ EndpointText s) → ∃ r, ss.mapM readEndpoint = .error r
  | [], ⟨_, held, _⟩ => absurd held List.not_mem_nil
  | s :: rest, ⟨bad, held, malformed⟩ => by
    rw [List.mapM_cons]
    cases read : readEndpoint s with
    | error r => exact ⟨r, rfl⟩
    | ok t =>
      -- the first text is read, so the malformed one comes later
      have later : bad ∈ rest := by
        rcases List.mem_cons.1 held with rfl | later
        · exact absurd ((readEndpoint_ok_iff bad).1 ⟨t, read⟩) malformed
        · exact later
      obtain ⟨r, failed⟩ := mapM_readEndpoint_of_exists ⟨bad, later, malformed⟩
      exact ⟨r, by simp [failed, bind, Except.bind]⟩

/-! ## Targets -/

/-- A malformed endpoint makes the targets fail. -/
theorem targets_of_exists (cluster : Cluster) {p : Parsed}
    (malformed : ∃ s ∈ p.values "endpoints", ¬ EndpointText s) :
    ∃ r, targets cluster p = .error r := by
  obtain ⟨r, failed⟩ := mapM_readEndpoint_of_exists malformed
  exact ⟨r, by simp [targets, failed, bind, Except.bind]⟩

/-- An API server aims at its host, when asked for and known. -/
theorem map_hostname_server (asked : Bool) (server : Option Endpoint) :
    (if asked then (server.map Target.ofEndpoint).toList else []).map (·.hostname) =
      if asked then (server.map (·.hostname)).toList else [] := by
  cases asked <;> cases server <;> rfl

/-- With well-formed endpoints, the targets aim at the hosts the command line names. -/
theorem targets_of_forall (cluster : Cluster) {p : Parsed}
    (wellFormed : ∀ s ∈ p.values "endpoints", EndpointText s) :
    ∃ ts, targets cluster p = .ok ts ∧
      ts.map (·.hostname) = (PortProbeArgs.ofParsed p).hosts cluster := by
  obtain ⟨listed, read, listedHosts⟩ := mapM_readEndpoint_of_forall wellFormed
  cases found : targets cluster p with
  | error r => simp [targets, read, bind, Except.bind, pure, Except.pure] at found
  | ok ts =>
    refine ⟨ts, rfl, ?_⟩
    simp only [targets, read, bind, Except.bind, pure, Except.pure, Except.ok.injEq] at found
    rw [← found]
    simp only [List.map_append, listedHosts, PortProbeArgs.hosts, PortProbeArgs.ofParsed]
    -- the nodes each at the node port, then each API server asked for, when known
    split
    all_goals
      rename_i asked
      simp only [asked, map_hostname_server, List.map_map, Function.comp_def,
        Option.isSome_some, Option.isSome_none, if_true, if_false, List.map_nil, List.nil_append,
        List.append_assoc, Bool.false_eq_true]
      -- the two sides decide the flags by instances of their own
      rfl

/-! ## Building the job -/

section Build

variable {source : String} {cluster : Cluster} {job : Job} {defaultPeriod : Elapsed}

/-- A descriptor with no arguments is rejected as having none. -/
theorem buildJob_nil (noArgs : job.args = []) :
    buildJob source cluster job defaultPeriod = .error (.invalidJob job.id "no job args") := by
  simp [buildJob, noArgs]

/-- A descriptor whose command is not the port probe is rejected, naming the command. -/
theorem buildJob_unknown {command : String} {rest : List String}
    (args : job.args = command :: rest) (other : command ≠ portProbeName) :
    buildJob source cluster job defaultPeriod =
      .error (.invalidJob job.id ("unknown command " ++ command)) := by
  simp [buildJob, args, other]

/-- A port probe whose arguments do not parse is rejected with the parser's message, trailing blanks
trimmed. -/
theorem buildJob_unread {rest : List String} {e : LineError}
    (args : job.args = portProbeName :: rest) (failed : portProbe.parse job.args = .error e) :
    buildJob source cluster job defaultPeriod =
      .error (.invalidJob job.id (Text.trimEndBlanks e.text)) := by
  unfold buildJob
  simp only [args] at failed ⊢
  simp [failed]

/-- With a command line that is read and targets that are found, the job is skipped when it
has no target and else built with them. -/
theorem buildJob_read {rest : List String} {p : Parsed} {ts : List Target}
    (args : job.args = portProbeName :: rest) (read : portProbe.parse job.args = .ok p)
    (found : targets cluster p = .ok ts) :
    buildJob source cluster job defaultPeriod =
      if ts = [] then .ok none
      else .ok (some
        { config := job, period := (PortProbeArgs.ofParsed p).periodOr defaultPeriod,
          source := source, targets := ts }) := by
  unfold buildJob
  simp only [args] at read ⊢
  simp only [bne_self_eq_false, Bool.false_eq_true, if_false, read, found]
  cases ts with
  | nil => rfl
  | cons t more =>
    simp only [reduceCtorEq, if_false, Except.ok.injEq, Option.some.injEq, ProbeJob.mk.injEq,
      true_and, and_true, PortProbeArgs.periodOr, PortProbeArgs.ofParsed]
    -- the period asked for, unless it is zero
    split
    · rename_i d asked
      rw [asked]
      by_cases zero : d.nanos = 0
      · have : d = Elapsed.zero := by cases d; simp_all [Elapsed.zero]
        simp [Option.filter, this, Elapsed.zero]
      · have : d ≠ Elapsed.zero := fun same => zero (by simp [same, Elapsed.zero])
        simp [Option.filter, zero, this]
    · rename_i unasked
      rw [unasked]
      rfl

/-- A port probe whose targets fail is rejected with the targets' message. -/
theorem buildJob_bad_endpoint {rest : List String} {p : Parsed} {r : String}
    (args : job.args = portProbeName :: rest) (read : portProbe.parse job.args = .ok p)
    (failed : targets cluster p = .error r) :
    buildJob source cluster job defaultPeriod = .error (.invalidJob job.id r) := by
  unfold buildJob
  simp only [args] at read ⊢
  simp [read, failed]

/-- Once the command line is read, well-formed endpoints leave nothing to fail: the job is
skipped or built, with targets that aim at the hosts the command line names. -/
theorem buildJob_wellFormed {rest : List String} {p : Parsed}
    (args : job.args = portProbeName :: rest) (read : portProbe.parse job.args = .ok p)
    (wellFormed : ∀ s ∈ p.values "endpoints", EndpointText s) :
    ∃ ts, buildJob source cluster job defaultPeriod =
        (if ts = [] then .ok none
          else .ok (some
            { config := job, period := (PortProbeArgs.ofParsed p).periodOr defaultPeriod,
              source := source, targets := ts })) ∧
      ts.map (·.hostname) = (PortProbeArgs.ofParsed p).hosts cluster := by
  obtain ⟨ts, found, aimed⟩ := targets_of_forall cluster wellFormed
  exact ⟨ts, buildJob_read args read found, aimed⟩

end Build

/-- The port probe a job's settings describe. Building fails exactly when the first argument
is missing or names another probe, when the command line cannot be read, or when an endpoint
is not three fields split at `:` with a 16-bit port; every failure names the job. Otherwise
the job is skipped exactly when it aims at no host, and else it is built for these settings,
aims at the hosts the command line names in their order, and takes the period asked for
unless that is zero, and else the default. -/
theorem port_probe_job_follows_arguments (source : String) (cluster : Cluster) (job : Job)
    (defaultPeriod : Elapsed) :
    (∀ e, buildJob source cluster job defaultPeriod = .error e →
      ∃ reason, e = .invalidJob job.id reason) ∧
    ((∃ e, buildJob source cluster job defaultPeriod = .error e) ↔
      job.args.head? ≠ some portProbeName ∨ (∃ e, portProbe.parse job.args = .error e) ∨
        ∃ p, portProbe.parse job.args = .ok p ∧ ∃ s ∈ p.values "endpoints", ¬ EndpointText s) ∧
    ∀ p, job.args.head? = some portProbeName → portProbe.parse job.args = .ok p →
      (∀ s ∈ p.values "endpoints", EndpointText s) →
      ((PortProbeArgs.ofParsed p).hosts cluster = [] →
          buildJob source cluster job defaultPeriod = .ok none) ∧
        ((PortProbeArgs.ofParsed p).hosts cluster ≠ [] →
          ∃ j, buildJob source cluster job defaultPeriod = .ok (some j) ∧ j.config = job ∧
            j.source = source ∧ j.destHosts = (PortProbeArgs.ofParsed p).hosts cluster ∧
            j.period = (PortProbeArgs.ofParsed p).periodOr defaultPeriod) := by
  refine ⟨fun e failed => buildJob_error failed, ⟨?_, ?_⟩, ?_⟩
  · -- a failure has one of the four causes
    rintro ⟨e, failed⟩
    by_contra none
    simp only [not_or, not_not, not_exists, not_and] at none
    obtain ⟨named, readable, wellFormed⟩ := none
    obtain ⟨rest, args⟩ := List.head?_eq_some_iff.1 named
    cases read : portProbe.parse job.args with
    | error e' => exact readable e' read
    | ok p =>
      obtain ⟨ts, built, -⟩ := buildJob_wellFormed args read (wellFormed p read)
      rw [built] at failed
      split at failed <;> cases failed
  · intro causes
    by_cases named : job.args.head? = some portProbeName
    · obtain ⟨rest, args⟩ := List.head?_eq_some_iff.1 named
      rcases causes with other | ⟨e, failed⟩ | ⟨p, read, malformed⟩
      · exact absurd named other
      · exact ⟨_, buildJob_unread args failed⟩
      · obtain ⟨r, found⟩ := targets_of_exists cluster malformed
        exact ⟨_, buildJob_bad_endpoint args read found⟩
    · -- the first argument is missing or names another probe
      cases args : job.args with
      | nil => exact ⟨_, buildJob_nil args⟩
      | cons c rest => exact ⟨_, buildJob_unknown args (by simpa [args] using named)⟩
  · intro p named read wellFormed
    obtain ⟨rest, args⟩ := List.head?_eq_some_iff.1 named
    obtain ⟨ts, built, aimed⟩ := @buildJob_wellFormed source cluster job defaultPeriod _ _ args read wellFormed
    constructor
    · intro noHosts
      have : ts = [] := by simpa [noHosts] using aimed
      simpa [this] using built
    · intro someHosts
      have : ts ≠ [] := by
        rintro rfl
        exact someHosts (by simpa using aimed.symm)
      refine ⟨_, by simpa [this] using built, rfl, rfl, ?_, rfl⟩
      simpa [ProbeJob.destHosts] using aimed

/-- Settings of a job that probes the kubelet port of every node. -/
def nodePortJob : Job := { id := "kubelet", args := ["checkTCPPort", "--node-port", "10250"] }

/-- A cluster of two nodes. -/
def twoNodes : Cluster := { nodes := [⟨"node-a", "10.0.0.11"⟩, ⟨"node-b", "10.0.0.12"⟩] }

/-- A job with a node port in a cluster of two nodes: its command line reads, names no
endpoint and aims at both nodes in their order, so the job is built for these settings, aims
at the two nodes and, asking for no period, takes the default. -/
theorem node_port_job_aims_at_both_nodes :
    ∃ p, portProbe.parse nodePortJob.args = .ok p ∧ (∀ s ∈ p.values "endpoints", EndpointText s) ∧
      (PortProbeArgs.ofParsed p).hosts twoNodes = ["node-a", "node-b"] ∧
      ∃ j, buildJob "node-a" twoNodes nodePortJob (Elapsed.ofMillis 10000) = .ok (some j) ∧
        j.config = nodePortJob ∧ j.source = "node-a" ∧ j.destHosts = ["node-a", "node-b"] ∧
        j.period = Elapsed.ofMillis 10000 := by
  -- the reading of the command line, computed once
  obtain ⟨p, read, noEndpoints, aimed, noPeriod⟩ : ∃ p, portProbe.parse nodePortJob.args = .ok p ∧
      p.values "endpoints" = [] ∧ (PortProbeArgs.ofParsed p).hosts twoNodes = ["node-a", "node-b"] ∧
      (PortProbeArgs.ofParsed p).period = none := by
    have computed : (portProbe.parse nodePortJob.args).toOption.map (fun p =>
        (p.values "endpoints", (PortProbeArgs.ofParsed p).hosts twoNodes,
          (PortProbeArgs.ofParsed p).period.isNone)) = some ([], ["node-a", "node-b"], true) := by
      decide +kernel
    cases read : portProbe.parse nodePortJob.args with
    | error e =>
      rw [read] at computed
      cases computed
    | ok p =>
      rw [read] at computed
      simp only [Except.toOption, Option.map_some, Option.some.injEq, Prod.mk.injEq,
        Option.isNone_iff_eq_none] at computed
      exact ⟨p, rfl, computed⟩
  have wellFormed : ∀ s ∈ p.values "endpoints", EndpointText s := by simp [noEndpoints]
  obtain ⟨-, -, accepted⟩ :=
    port_probe_job_follows_arguments "node-a" twoNodes nodePortJob (Elapsed.ofMillis 10000)
  obtain ⟨j, built, config, source, hosts, period⟩ :=
    (accepted p rfl read wellFormed).2 (by simp [aimed])
  refine ⟨p, read, wellFormed, aimed, j, built, config, source, hosts.trans aimed, ?_⟩
  rw [period, PortProbeArgs.periodOr, noPeriod]
  rfl

end Reachability.Probe
