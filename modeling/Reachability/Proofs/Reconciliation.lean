import Mathlib
import Reachability.Agent.Manager
import Reachability.Proofs.Registry
import Reachability.Proofs.Except

/-!
# Reconciliation keeps the registry in line with the settings

A manager applies settings all at once: it builds every job descriptor of its network mode,
and only when none is rejected does it touch anything. The built jobs are then added to the
registry (replacing the jobs of their ids), the jobs of ids the old settings had and the
new ones lack are deleted, and so are the jobs of descriptors without targets.

Main statements.

* `reachable_registry_is_built_minus_skipped`: along any run of calls from a fresh manager,
  successful or not, the registry holds exactly the ids of descriptors of the settings in
  force that build to a job, less the ids of those that build to none; with distinct ids it
  holds, under each built id, the job built from that descriptor. The argument is an
  invariant (`Manager.Consistent`): the registry never holds an id outside the settings in
  force, which is what makes deleting only `previous \ applied` enough.
* `failed_call_changes_nothing`: a call fails exactly when a file cannot be loaded, a
  descriptor is rejected (the error is the first rejected descriptor's and names it), or the
  first output directory cannot be created; a failed call leaves the manager as it was. The
  metrics and the aggregator hear of a reconciliation only through the result of a
  successful call, so a failed one tells them nothing.

The job factory is deterministic, so "the jobs built from the settings in force" can be
recomputed from the snapshots the manager holds.
-/

namespace Reachability.Probe

open Reachability.Config
open Reachability.Time
open Reachability.Agent

/-! ## What the factory returns -/

/-- A built job carries the descriptor it was built from. -/
theorem buildJob_config {source : String} {cluster : Cluster} {d : Job} {period : Elapsed}
    {j : ProbeJob} (built : buildJob source cluster d period = .ok (some j)) : j.config = d := by
  unfold buildJob at built
  split at built
  · cases built
  · split at built
    · cases built
    · split at built
      · cases built
      · split at built
        · cases built
        · cases built
        · cases built
          rfl

/-- The factory rejects a descriptor only with an error that names it. -/
theorem buildJob_error {source : String} {cluster : Cluster} {d : Job} {period : Elapsed}
    {e : AgentError} (rejected : buildJob source cluster d period = .error e) :
    ∃ reason, e = .invalidJob d.id reason := by
  unfold buildJob at rejected
  split at rejected
  · cases rejected; exact ⟨_, rfl⟩
  · split at rejected
    · cases rejected; exact ⟨_, rfl⟩
    · split at rejected
      · cases rejected; exact ⟨_, rfl⟩
      · split at rejected
        · cases rejected; exact ⟨_, rfl⟩
        · cases rejected
        · cases rejected
end Reachability.Probe

namespace Reachability.Agent

open Reachability.Config
open Reachability.Probe
open Reachability.Time

/-! ## Sorting the descriptors out -/

section SortingOut

variable (build : Job → Except AgentError (Option ProbeJob))

/-- The error of the first descriptor the factory rejects, in list order. -/
def firstRejection : List Job → Option AgentError
  | [] => none
  | d :: rest =>
    match build d with
    | .error e => some e
    | .ok _ => firstRejection rest

/-- The jobs built from the descriptors that have targets, in order. -/
def builtJobs (ds : List Job) : List ProbeJob :=
  ds.filterMap fun d => match build d with
    | .ok (some j) => some j
    | _ => none

/-- The ids of the descriptors without targets, in order. -/
def skippedIds (ds : List Job) : List String :=
  ds.filterMap fun d => match build d with
    | .ok none => some d.id
    | _ => none

variable {build}

/-- The jobs built are those a descriptor builds to. -/
theorem mem_builtJobs {ds : List Job} {j : ProbeJob} :
    j ∈ builtJobs build ds ↔ ∃ d ∈ ds, build d = .ok (some j) := by
  simp only [builtJobs, List.mem_filterMap]
  refine exists_congr fun d => and_congr_right fun _ => ?_
  split <;> simp_all

/-- The ids skipped are those of descriptors that build to no job. -/
theorem mem_skippedIds {ds : List Job} {id : String} :
    id ∈ skippedIds build ds ↔ ∃ d ∈ ds, build d = .ok none ∧ d.id = id := by
  simp only [skippedIds, List.mem_filterMap]
  refine exists_congr fun d => and_congr_right fun _ => ?_
  split <;> simp_all

/-- No descriptor is rejected exactly when each of them builds, to a job or to none. -/
theorem firstRejection_eq_none_iff {ds : List Job} :
    firstRejection build ds = none ↔ ∀ d ∈ ds, ∃ o, build d = .ok o := by
  induction ds with
  | nil => simp [firstRejection]
  | cons d rest inductionHypothesis =>
    unfold firstRejection
    cases outcome : build d with
    | error e => simp [outcome]
    | ok o => simp [outcome, inductionHypothesis]

/-- Accepted descriptors in front leave the first rejection to those behind them. -/
theorem firstRejection_append_of_accepted {pre post : List Job}
    (accepted : ∀ d ∈ pre, ∃ o, build d = .ok o) :
    firstRejection build (pre ++ post) = firstRejection build post := by
  induction pre with
  | nil => rfl
  | cons d pre inductionHypothesis =>
    obtain ⟨o, built⟩ := accepted d List.mem_cons_self
    simp only [List.cons_append, firstRejection, built]
    exact inductionHypothesis fun d' member => accepted d' (List.mem_cons_of_mem _ member)

/-- The first rejection is the error of a rejected descriptor after accepted ones. -/
theorem firstRejection_eq_some_iff {ds : List Job} {e : AgentError} :
    firstRejection build ds = some e ↔
      ∃ pre d post, ds = pre ++ d :: post ∧ (∀ d' ∈ pre, ∃ o, build d' = .ok o) ∧
        build d = .error e := by
  constructor
  · intro rejected
    induction ds with
    | nil => cases rejected
    | cons d rest inductionHypothesis =>
      unfold firstRejection at rejected
      cases outcome : build d with
      | error e' =>
        rw [outcome, Option.some.injEq] at rejected
        subst rejected
        exact ⟨[], d, rest, rfl, by simp, outcome⟩
      | ok o =>
        rw [outcome] at rejected
        -- the rejection lies in the rest, behind one more accepted descriptor
        obtain ⟨pre, d', post, rfl, earlier, first⟩ := inductionHypothesis rejected
        refine ⟨d :: pre, d', post, rfl, ?_, first⟩
        intro d'' member
        rcases List.mem_cons.1 member with rfl | later
        · exact ⟨o, outcome⟩
        · exact earlier d'' later
  · rintro ⟨pre, d, post, rfl, earlier, rejected⟩
    simp only [firstRejection_append_of_accepted earlier, firstRejection, rejected]

/-- Building descriptors one after the other stops at the first rejection; without one,
it yields the built jobs and the skipped ids in order, after what it was given. -/
theorem sortOut_eq (ds : List Job) (acc : List ProbeJob × List String) :
    ds.foldlM (fun (acc : List ProbeJob × List String) job => do
      match ← build job with
      | some j => pure (acc.1 ++ [j], acc.2)
      | none => pure (acc.1, acc.2 ++ [job.id])) acc =
    match firstRejection build ds with
    | some e => .error e
    | none => .ok (acc.1 ++ builtJobs build ds, acc.2 ++ skippedIds build ds) := by
  induction ds generalizing acc with
  | nil => simp [firstRejection, builtJobs, skippedIds]; rfl
  | cons d rest inductionHypothesis =>
    rw [List.foldlM_cons]
    cases outcome : build d with
    | error e => simp [outcome, firstRejection, bind, Except.bind]
    | ok o =>
      cases o with
      | none =>
        have step := inductionHypothesis (acc.1, acc.2 ++ [d.id])
        simp only [outcome, firstRejection, builtJobs, skippedIds, List.filterMap_cons] at step ⊢
        simpa [bind, Except.bind, pure, Except.pure] using step
      | some j =>
        have step := inductionHypothesis (acc.1 ++ [j], acc.2)
        simp only [outcome, firstRejection, builtJobs, skippedIds, List.filterMap_cons] at step ⊢
        simpa [bind, Except.bind, pure, Except.pure] using step

end SortingOut

namespace Manager

/-- The default period of the jobs of settings in the manager's network mode. -/
def jobPeriod (m : Manager) (config : Agent) : Elapsed :=
  ((config.network m.hostNetwork).map Network.period).getD defaultJobPeriod

/-- What the factory makes of a descriptor of settings in a cluster. -/
def outcome (m : Manager) (config : Agent) (cluster : Cluster) (d : Job) :
    Except AgentError (Option ProbeJob) :=
  buildJob m.nodeName cluster d (m.jobPeriod config)

/-- The descriptors of the settings in force, in the manager's mode. -/
def descriptors (m : Manager) : List Job := m.agent.jobs m.hostNetwork

/-- What the factory makes of a descriptor under the settings and cluster in force. -/
def current (m : Manager) : Job → Except AgentError (Option ProbeJob) := m.outcome m.agent m.cluster

/-! ## One successful reconciliation -/

/-- Building the jobs stops at the first rejected descriptor; otherwise it gives the jobs built and
the ids skipped. -/
theorem buildJobs_eq (m : Manager) (config : Agent) (cluster : Cluster) :
    m.buildJobs config cluster =
      match firstRejection (m.outcome config cluster) (config.jobs m.hostNetwork) with
      | some e => .error e
      | none => .ok (builtJobs (m.outcome config cluster) (config.jobs m.hostNetwork),
          skippedIds (m.outcome config cluster) (config.jobs m.hostNetwork)) :=
  sortOut_eq _ ([], [])

/-- The registry a successful reconciliation leaves: the built jobs added in order, then
the jobs of ids that left the settings and of skipped descriptors deleted. -/
def reconciledRegistry (m : Manager) (config : Agent) (cluster : Cluster) (now : Int)
    (offset : String → Nat) : Registry ProbeJob :=
  let ds := config.jobs m.hostNetwork
  let applied := ds.map (·.id)
  let previous := m.descriptors.map (·.id)
  let added := (builtJobs (m.outcome config cluster) ds).foldl
    (fun r j => r.add j.config.id j.period j now (offset j.config.id)) m.registry
  ((previous.filter fun id => !applied.contains id) ++ skippedIds (m.outcome config cluster) ds).foldl
    Registry.delete added

/-- What a successful reconciliation tells the metrics and the aggregator: the ids the settings
in force had and the new ones lack, the destinations of the jobs built, and as valid edges the
new settings' ids between those hosts, each once. -/
def told (m : Manager) (config : Agent) (cluster : Cluster) : Reconciled :=
  let applied := (config.jobs m.hostNetwork).map (·.id)
  let validHosts :=
    ((builtJobs (m.outcome config cluster) (config.jobs m.hostNetwork)).flatMap ProbeJob.destHosts).foldl
      addNew []
  { obsolete := ((m.descriptors.map (·.id)).filter fun id => !applied.contains id).foldl addNew [],
    validHosts,
    edges := { jobIds := applied.foldl addNew [], srcHosts := validHosts, destHosts := validHosts } }

/-- A successful reconciliation accepted every descriptor; its manager is the one before with
the reconciled registry, a store, and the new settings and the cluster it built against in
force; and it tells the sinks `told`. -/
theorem reconcile_eq_ok_told {m m' : Manager} {config : Agent} {cluster : Option Cluster}
    {now : Int} {offset : String → Nat} {v v' : Files.Dir} {r : Reconciled}
    (done : m.reconcile config cluster now offset v = .ok (m', v', r)) :
    firstRejection (m.outcome config (cluster.getD m.cluster)) (config.jobs m.hostNetwork) = none ∧
    (∃ store, m' = { m with
      registry := m.reconciledRegistry config (cluster.getD m.cluster) now offset, store,
      agent := config, cluster := cluster.getD m.cluster }) ∧
    r = m.told config (cluster.getD m.cluster) := by
  simp only [reconcile, buildJobs_eq] at done
  cases rejected : firstRejection (m.outcome config (cluster.getD m.cluster)) (config.jobs m.hostNetwork) with
  | some e => simp [rejected, bind, Except.bind] at done
  | none =>
    simp only [rejected, bind, Except.bind] at done
    -- the store is the one held, one created, or none
    cases stored : m.store with
    | some s =>
      simp only [stored, pure, Except.pure, Except.ok.injEq, Prod.mk.injEq] at done
      obtain ⟨rfl, -, rfl⟩ := done
      exact ⟨rfl, ⟨_, rfl⟩, rfl⟩
    | none =>
      cases created : m.createStore config v with
      | error e => simp [stored, created] at done
      | ok c =>
        cases c with
        | none =>
          simp only [stored, created, pure, Except.pure, Except.ok.injEq, Prod.mk.injEq] at done
          obtain ⟨rfl, -, rfl⟩ := done
          exact ⟨rfl, ⟨_, rfl⟩, rfl⟩
        | some c =>
          simp only [stored, created, pure, Except.pure, Except.ok.injEq, Prod.mk.injEq] at done
          obtain ⟨rfl, -, rfl⟩ := done
          exact ⟨rfl, ⟨_, rfl⟩, rfl⟩

/-- A successful reconciliation accepted every descriptor, and its manager is the one before with
the reconciled registry, a store, and the new settings and the cluster it built against in
force. -/
theorem reconcile_eq_ok {m m' : Manager} {config : Agent} {cluster : Option Cluster} {now : Int}
    {offset : String → Nat} {v v' : Files.Dir} {r : Reconciled}
    (done : m.reconcile config cluster now offset v = .ok (m', v', r)) :
    firstRejection (m.outcome config (cluster.getD m.cluster)) (config.jobs m.hostNetwork) = none ∧
    ∃ store, m' = { m with
      registry := m.reconciledRegistry config (cluster.getD m.cluster) now offset, store,
      agent := config, cluster := cluster.getD m.cluster } := by
  obtain ⟨accepted, kept, -⟩ := reconcile_eq_ok_told done
  exact ⟨accepted, kept⟩

/-- A successful reconciliation accepted every descriptor and put the new settings, the
cluster it built against and the reconciled registry in force. -/
theorem reconcile_ok {m m' : Manager} {config : Agent} {cluster : Option Cluster} {now : Int}
    {offset : String → Nat} {v v' : Files.Dir} {r : Reconciled}
    (done : m.reconcile config cluster now offset v = .ok (m', v', r)) :
    firstRejection (m.outcome config (cluster.getD m.cluster)) (config.jobs m.hostNetwork) = none ∧
    m'.registry = m.reconciledRegistry config (cluster.getD m.cluster) now offset ∧
    m'.agent = config ∧ m'.cluster = cluster.getD m.cluster ∧ m'.hostNetwork = m.hostNetwork ∧
    m'.nodeName = m.nodeName := by
  obtain ⟨accepted, store, rfl⟩ := reconcile_eq_ok done
  exact ⟨accepted, rfl, rfl, rfl, rfl, rfl⟩

/-! ## The invariant -/

/-- The registry agrees with the settings in force: distinct ids, exactly the built ids
less the skipped ones, and each job held is a built job under its own id and period. -/
structure Consistent (m : Manager) : Prop where
  unique : (m.registry.jobs.map (·.id)).Nodup
  keys : ∀ id, id ∈ m.registry.ids ↔
    id ∈ (builtJobs m.current m.descriptors).map (·.config.id) ∧
      id ∉ skippedIds m.current m.descriptors
  entries : ∀ x ∈ m.registry.jobs, x.task ∈ builtJobs m.current m.descriptors ∧
    x.id = x.task.config.id ∧ x.period = x.task.period

/-- The built ids are the ids of descriptors that build to a job. -/
theorem built_id {f : Job → Except AgentError (Option ProbeJob)} {ds : List Job} {id : String}
    (factory : ∀ d j, f d = .ok (some j) → j.config = d) :
    id ∈ (builtJobs f ds).map (·.config.id) ↔ ∃ d ∈ ds, d.id = id ∧ ∃ j, f d = .ok (some j) := by
  simp only [List.mem_map, mem_builtJobs]
  constructor
  · rintro ⟨j, ⟨d, member, built⟩, rfl⟩
    exact ⟨d, member, by rw [factory d j built], j, built⟩
  · rintro ⟨d, member, rfl, j, built⟩
    exact ⟨j, ⟨d, member, built⟩, by rw [factory d j built]⟩

/-- A job built from the current settings carries its descriptor. -/
theorem current_config {m : Manager} : ∀ d j, m.current d = .ok (some j) → j.config = d :=
  fun _ _ built => buildJob_config built

/-- A job built from given settings carries its descriptor. -/
theorem outcome_config {m : Manager} {config : Agent} {cluster : Cluster} :
    ∀ d j, m.outcome config cluster d = .ok (some j) → j.config = d :=
  fun _ _ built => buildJob_config built

/-- A built id is an id of the descriptors. -/
theorem listed_of_built {f : Job → Except AgentError (Option ProbeJob)} {ds : List Job}
    {id : String} (factory : ∀ d j, f d = .ok (some j) → j.config = d)
    (built : id ∈ (builtJobs f ds).map (·.config.id)) : id ∈ ds.map (·.id) := by
  obtain ⟨d, member, rfl, -⟩ := (built_id factory).1 built
  exact List.mem_map_of_mem member

/-- With no descriptor rejected, every id of the descriptors is built or skipped. -/
theorem built_or_skipped {f : Job → Except AgentError (Option ProbeJob)} {ds : List Job}
    {id : String} (factory : ∀ d j, f d = .ok (some j) → j.config = d)
    (accepted : firstRejection f ds = none) (listed : id ∈ ds.map (·.id)) :
    id ∈ (builtJobs f ds).map (·.config.id) ∨ id ∈ skippedIds f ds := by
  obtain ⟨d, member, rfl⟩ := List.mem_map.1 listed
  obtain ⟨o, built⟩ := firstRejection_eq_none_iff.1 accepted d member
  cases o with
  | none => exact .inr (mem_skippedIds.2 ⟨d, member, built, rfl⟩)
  | some j => exact .inl ((built_id factory).2 ⟨d, member, rfl, j, built⟩)

/-- A consistent registry holds only ids of the settings in force. -/
theorem Consistent.listed {m : Manager} (consistent : m.Consistent) {id : String}
    (held : id ∈ m.registry.ids) : id ∈ m.descriptors.map (·.id) :=
  listed_of_built current_config ((consistent.keys id).1 held).1

/-- A successful reconciliation leaves a registry consistent with the new settings when the
old one was consistent with the old settings. Every id the old registry still holds after the
deletions is an id of the new settings, hence built or skipped: a built one was replaced by
its new job, a skipped one deleted. -/
theorem Consistent.reconcile {m m' : Manager} {config : Agent} {cluster : Option Cluster}
    {now : Int} {offset : String → Nat} {v v' : Files.Dir} {r : Reconciled}
    (old : m.Consistent) (done : m.reconcile config cluster now offset v = .ok (m', v', r)) :
    m'.Consistent := by
  obtain ⟨accepted, registry, agent, cluster', host, node⟩ := reconcile_ok done
  have sameOutcome : m'.current = m.outcome config (cluster.getD m.cluster) := by
    funext d
    simp only [current, outcome, jobPeriod, agent, cluster', host, node]
  have sameDescriptors : m'.descriptors = config.jobs m.hostNetwork := by
    simp only [descriptors, agent, host]
  -- an id held before that the new settings still list is built or skipped, since no
  -- descriptor was rejected
  have sorted {id : String} (held : id ∈ m.registry.ids)
      (stillListed : id ∈ m.descriptors.map (·.id) → id ∈ (config.jobs m.hostNetwork).map (·.id)) :
      id ∈ (builtJobs (m.outcome config (cluster.getD m.cluster)) (config.jobs m.hostNetwork)).map
        (·.config.id) ∨
      id ∈ skippedIds (m.outcome config (cluster.getD m.cluster)) (config.jobs m.hostNetwork) :=
    built_or_skipped outcome_config accepted (stillListed (old.listed held))
  refine ⟨?_, ?_, ?_⟩
  · rw [registry]
    exact Registry.keys_nodup_deleteAll (Registry.keys_nodup_addAll _ _ _ _ old.unique)
  · intro id
    rw [registry, sameOutcome, sameDescriptors]
    simp only [reconciledRegistry, Registry.mem_ids_deleteAll, Registry.mem_ids_addAll,
      List.mem_append, List.mem_filter, Bool.not_eq_true', List.contains_eq_mem,
      decide_eq_false_iff_not, not_or, not_and, not_not]
    constructor
    · rintro ⟨builtOrHeld, stillListed, notSkipped⟩
      refine ⟨?_, notSkipped⟩
      rcases builtOrHeld with built | held
      · exact built
      · rcases sorted held stillListed with built | skipped
        · exact built
        · exact absurd skipped notSkipped
    · rintro ⟨built, notSkipped⟩
      exact ⟨.inl built, fun _ => listed_of_built outcome_config built, notSkipped⟩
  · intro x member
    rw [registry] at member
    rw [sameOutcome, sameDescriptors]
    simp only [reconciledRegistry, Registry.mem_deleteAll, List.mem_append, List.mem_filter,
      Bool.not_eq_true', List.contains_eq_mem, decide_eq_false_iff_not, not_or, not_and,
      not_not] at member
    obtain ⟨added, stillListed, notSkipped⟩ := member
    rcases Registry.mem_addAll _ _ _ _ added with fresh | ⟨kept, notAdded⟩
    · exact fresh
    · exfalso
      have held : x.id ∈ m.registry.ids := Registry.mem_ids.2 ⟨x, kept, rfl⟩
      rcases sorted held stillListed with built | skipped
      · exact notAdded built
      · exact notSkipped skipped

/-! ## Runs of calls -/

/-- A successful load is a successful reconciliation with the loaded cluster. -/
theorem load_ok {m m' : Manager} {now : Int} {offset : String → Nat} {v v' : Files.Dir}
    {r : Reconciled} (done : m.load now offset v = .ok (m', v', r)) :
    ∃ config cluster, m.reconcile config (some cluster) now offset v = .ok (m', v', r) := by
  unfold load at done
  obtain ⟨cluster, -, done⟩ := Except.bind_eq_ok_iff.1 done
  obtain ⟨config, -, reconciled⟩ := Except.bind_eq_ok_iff.1 done
  exact ⟨config, cluster, reconciled⟩

/-- A successful reload changed nothing, or is a successful reconciliation. -/
theorem reload_ok {m m' : Manager} {now : Int} {offset : String → Nat} {v v' : Files.Dir}
    {r : Option Reconciled} (done : m.reload now offset v = .ok (m', v', r)) :
    m' = m ∨ ∃ config cluster v'' r', m.reconcile config (some cluster) now offset v = .ok (m', v'', r') := by
  unfold reload at done
  obtain ⟨config, -, done⟩ := Except.bind_eq_ok_iff.1 done
  obtain ⟨cluster, -, done⟩ := Except.bind_eq_ok_iff.1 done
  split at done
  · -- the files say what is in force
    simp only [Except.pure_eq_ok_iff, Prod.mk.injEq] at done
    exact .inl done.1.symm
  · obtain ⟨⟨m'', v'', r''⟩, reconciled, finished⟩ := Except.bind_eq_ok_iff.1 done
    simp only [Except.pure_eq_ok_iff, Prod.mk.injEq] at finished
    obtain ⟨rfl, -, -⟩ := finished
    exact .inr ⟨config, cluster, v'', r'', reconciled⟩

end Manager

/-- A call on the manager: loading both files at the start, applying given settings, or
reloading both files. -/
inductive Call where
  | load
  | apply (config : Agent)
  | reload

namespace Manager

/-- Performs a call at `now` on the volume `v`; the reconciliation it made, if any. -/
def perform (m : Manager) (call : Call) (now : Int) (offset : String → Nat) (v : Files.Dir) :
    Except AgentError (Manager × Files.Dir × Option Reconciled) :=
  match call with
  | .load => (m.load now offset v).map fun (m', v', r) => (m', v', some r)
  | .apply config => (m.applyAgent config now offset v).map fun (m', v', r) => (m', v', some r)
  | .reload => m.reload now offset v

/-- The manager once a call has returned: the call's new state, or the same manager when
the call failed. -/
def after (m : Manager) (call : Call) (now : Int) (offset : String → Nat) (v : Files.Dir) :
    Manager :=
  match m.perform call now offset v with
  | .ok (m', _, _) => m'
  | .error _ => m

/-- A manager as constructed: empty registry, no store, default settings. -/
def fresh (agentFile clusterFile : String) (hostNetwork : Bool) (nodeName : String) : Manager :=
  { agentFile, clusterFile, hostNetwork, nodeName }

/-- The managers that calls reach from a fresh one, each call with its own clock, first-run
offsets and volume. -/
inductive Reachable : Manager → Prop
  | fresh (agentFile clusterFile : String) (hostNetwork : Bool) (nodeName : String) :
      Reachable (fresh agentFile clusterFile hostNetwork nodeName)
  | after {m : Manager} (call : Call) (now : Int) (offset : String → Nat) (v : Files.Dir) :
      Reachable m → Reachable (m.after call now offset v)

/-- A successful call changed nothing or reconciled. -/
theorem perform_ok {m m' : Manager} {call : Call} {now : Int} {offset : String → Nat}
    {v v' : Files.Dir} {r : Option Reconciled} (done : m.perform call now offset v = .ok (m', v', r)) :
    m' = m ∨ ∃ config cluster v'' r', m.reconcile config cluster now offset v = .ok (m', v'', r') := by
  cases call with
  | load =>
    cases loaded : m.load now offset v with
    | error e => simp [perform, loaded, Except.map] at done
    | ok result =>
      obtain ⟨m'', v'', r''⟩ := result
      simp only [perform, loaded, Except.map, Except.ok.injEq, Prod.mk.injEq] at done
      obtain ⟨rfl, -, -⟩ := done
      obtain ⟨config, cluster, reconciled⟩ := load_ok loaded
      exact .inr ⟨config, some cluster, v'', r'', reconciled⟩
  | apply config =>
    cases applied : m.applyAgent config now offset v with
    | error e => simp [perform, applied, Except.map] at done
    | ok result =>
      obtain ⟨m'', v'', r''⟩ := result
      simp only [perform, applied, Except.map, Except.ok.injEq, Prod.mk.injEq] at done
      obtain ⟨rfl, -, -⟩ := done
      exact .inr ⟨config, none, v'', r'', applied⟩
  | reload =>
    rcases reload_ok done with unchanged | ⟨config, cluster, v'', r'', reconciled⟩
    · exact .inl unchanged
    · exact .inr ⟨config, some cluster, v'', r'', reconciled⟩

/-- Every call keeps the manager consistent. -/
theorem Consistent.after {m : Manager} (consistent : m.Consistent) (call : Call) (now : Int)
    (offset : String → Nat) (v : Files.Dir) : (m.after call now offset v).Consistent := by
  unfold Manager.after
  split
  · rename_i done
    rcases perform_ok done with rfl | ⟨config, cluster, v'', r', reconciled⟩
    · exact consistent
    · exact consistent.reconcile reconciled
  · exact consistent

/-- A fresh manager holds no job and has no descriptor. -/
theorem consistent_fresh (agentFile clusterFile : String) (hostNetwork : Bool) (nodeName : String) :
    (fresh agentFile clusterFile hostNetwork nodeName).Consistent := by
  have noDescriptors : (fresh agentFile clusterFile hostNetwork nodeName).descriptors = [] := by
    cases hostNetwork <;> rfl
  refine ⟨by simp [fresh], ?_, ?_⟩
  · intro id
    rw [noDescriptors]
    simp [builtJobs, skippedIds, fresh, Registry.ids]
  · intro x member
    simp [fresh] at member

/-- Every reachable manager is consistent: the run lemma of the invariant. -/
theorem Reachable.consistent {m : Manager} (reach : m.Reachable) : m.Consistent := by
  induction reach with
  | fresh agentFile clusterFile hostNetwork nodeName =>
    exact consistent_fresh agentFile clusterFile hostNetwork nodeName
  | after call now offset v _ consistent => exact consistent.after call now offset v

/-- After every call of every run, the registry's ids are the ids of the descriptors in
force that build to a job less those that build to none; when the descriptors' ids are
distinct, each built descriptor's id holds exactly one job, the one built from it, with its
period. -/
theorem reachable_registry_is_built_minus_skipped {m : Manager} (reach : m.Reachable) :
    (∀ id, id ∈ m.registry.ids ↔
      (∃ d ∈ m.agent.jobs m.hostNetwork, d.id = id ∧
        ∃ j, buildJob m.nodeName m.cluster d (m.jobPeriod m.agent) = .ok (some j)) ∧
      ¬ ∃ d ∈ m.agent.jobs m.hostNetwork, d.id = id ∧
        buildJob m.nodeName m.cluster d (m.jobPeriod m.agent) = .ok none) ∧
    (((m.agent.jobs m.hostNetwork).map (·.id)).Nodup →
      ∀ d ∈ m.agent.jobs m.hostNetwork, ∀ j,
        buildJob m.nodeName m.cluster d (m.jobPeriod m.agent) = .ok (some j) →
        (m.registry.jobs.filter (·.id == d.id)).map (fun x => (x.task, x.period)) =
          [(j, j.period)]) := by
  have consistent := reach.consistent
  have keys : ∀ id, id ∈ m.registry.ids ↔
      (∃ d ∈ m.agent.jobs m.hostNetwork, d.id = id ∧
        ∃ j, buildJob m.nodeName m.cluster d (m.jobPeriod m.agent) = .ok (some j)) ∧
      ¬ ∃ d ∈ m.agent.jobs m.hostNetwork, d.id = id ∧
        buildJob m.nodeName m.cluster d (m.jobPeriod m.agent) = .ok none := by
    intro id
    rw [consistent.keys id, built_id current_config, mem_skippedIds]
    simp only [descriptors, current, outcome]
    refine and_congr_right fun _ => not_congr (exists_congr fun d => and_congr_right fun _ => ?_)
    exact and_comm
  refine ⟨keys, ?_⟩
  intro distinct d member j built
  -- the id is held: it is built, and no other descriptor carries it
  have held : d.id ∈ m.registry.ids := by
    refine (keys d.id).2 ⟨⟨d, member, rfl, j, built⟩, ?_⟩
    rintro ⟨d', member', same, skipped⟩
    obtain rfl := List.inj_on_of_nodup_map distinct member' member same
    rw [built] at skipped
    cases skipped
  obtain ⟨x, kept, same⟩ := Registry.mem_ids.1 held
  obtain ⟨fromSettings, sameId, samePeriod⟩ := consistent.entries x kept
  -- the job held under the id is the one built from the descriptor
  have sameTask : x.task = j := by
    obtain ⟨d', member', built'⟩ := mem_builtJobs.1 fromSettings
    have origin : x.task.config = d' := buildJob_config built'
    have sameDescriptor : d' = d :=
      List.inj_on_of_nodup_map distinct member' member (by rw [← origin, ← sameId, same])
    subst sameDescriptor
    simp only [current, outcome, built, Except.ok.injEq, Option.some.injEq] at built'
    exact built'.symm
  rw [← same, Registry.filter_id_eq_singleton consistent.unique kept]
  simp [sameTask, samePeriod]

/-- Settings of the pod network with a job that probes an endpoint and one that finds no
target in the cluster. -/
def endpointAndIdle : Agent :=
  { podNetwork := some { jobs := [
      { id := "probe", args := ["checkTCPPort", "--endpoints", "db:10.0.0.1:5432"] },
      { id := "idle", args := ["checkTCPPort"] }] } }

/-- The manager after applying `endpointAndIdle` to a fresh one. -/
def afterEndpointAndIdle : Manager :=
  (fresh "agent.yaml" "cluster.yaml" false "node-a").after (.apply endpointAndIdle) 0
    (fun _ => 0) []

/-- After `endpointAndIdle` is applied, the manager is reachable, holds the id of each job built and
of no skipped one, and runs the built job under its id with its period. -/
theorem registry_after_endpoint_and_idle :
    afterEndpointAndIdle.Reachable ∧
    (∀ id, id ∈ afterEndpointAndIdle.registry.ids ↔
      (∃ d ∈ afterEndpointAndIdle.agent.jobs afterEndpointAndIdle.hostNetwork, d.id = id ∧
        ∃ j, buildJob afterEndpointAndIdle.nodeName afterEndpointAndIdle.cluster d
          (afterEndpointAndIdle.jobPeriod afterEndpointAndIdle.agent) = .ok (some j)) ∧
      ¬ ∃ d ∈ afterEndpointAndIdle.agent.jobs afterEndpointAndIdle.hostNetwork, d.id = id ∧
        buildJob afterEndpointAndIdle.nodeName afterEndpointAndIdle.cluster d
          (afterEndpointAndIdle.jobPeriod afterEndpointAndIdle.agent) = .ok none) ∧
    (((afterEndpointAndIdle.agent.jobs afterEndpointAndIdle.hostNetwork).map (·.id)).Nodup →
      ∀ d ∈ afterEndpointAndIdle.agent.jobs afterEndpointAndIdle.hostNetwork, ∀ j,
        buildJob afterEndpointAndIdle.nodeName afterEndpointAndIdle.cluster d
          (afterEndpointAndIdle.jobPeriod afterEndpointAndIdle.agent) = .ok (some j) →
        (afterEndpointAndIdle.registry.jobs.filter (·.id == d.id)).map
          (fun x => (x.task, x.period)) = [(j, j.period)]) :=
  have reach : afterEndpointAndIdle.Reachable := .after _ _ _ _ (.fresh _ _ _ _)
  ⟨reach, reachable_registry_is_built_minus_skipped reach⟩

/-! ## Failed calls -/

/-- Why a reconciliation of settings in a cluster fails: a descriptor is rejected, and the
error is the first rejected descriptor's, which names it; or every descriptor is accepted,
no store exists yet and the settings' output directory cannot be created. -/
def Rejects (m : Manager) (config : Agent) (cluster : Cluster) (v : Files.Dir) (e : AgentError) :
    Prop :=
  (∃ pre d post, config.jobs m.hostNetwork = pre ++ d :: post ∧
      (∀ d' ∈ pre, ∃ o, m.outcome config cluster d' = .ok o) ∧
      m.outcome config cluster d = .error e ∧ ∃ reason, e = .invalidJob d.id reason) ∨
  ((∀ d ∈ config.jobs m.hostNetwork, ∃ o, m.outcome config cluster d = .ok o) ∧
      m.store = none ∧ ∃ dir failure, config.outputDir = some dir ∧
        v.createPath dir = .error failure ∧ e = .io failure.message)

/-- Creating a store fails exactly when its directory cannot be created. -/
theorem create_error_iff {v : Files.Dir} {dir filePrefix : String} {retention : Nat}
    {e : Files.IoError} :
    History.HourlyStore.create v dir filePrefix retention = .error e ↔ v.createPath dir = .error e := by
  simp only [History.HourlyStore.create, bind, Except.bind]
  cases v.createPath dir <;> simp [pure, Except.pure]

/-- The manager's store creation fails exactly on settings naming an output directory that
cannot be created. -/
theorem createStore_error_iff {m : Manager} {config : Agent} {v : Files.Dir} {e : AgentError} :
    m.createStore config v = .error e ↔
      ∃ dir failure, config.outputDir = some dir ∧ v.createPath dir = .error failure ∧
        e = .io failure.message := by
  unfold createStore
  cases outputDir : config.outputDir with
  | none => simp
  | some dir =>
    simp only [Option.some.injEq]
    split
    · rename_i result created
      simp only [reduceCtorEq, false_iff, not_exists, not_and]
      rintro _ failure rfl refused
      rw [← create_error_iff, created] at refused
      cases refused
    · rename_i failure created
      rw [create_error_iff] at created
      simp [created, eq_comm]

/-- A reconciliation fails exactly as `Rejects` says: building comes before creating the
store, so a rejected descriptor decides the error even when the directory would fail too. -/
theorem reconcile_error_iff {m : Manager} {config : Agent} {cluster : Option Cluster} {now : Int}
    {offset : String → Nat} {v : Files.Dir} {e : AgentError} :
    m.reconcile config cluster now offset v = .error e ↔
      m.Rejects config (cluster.getD m.cluster) v e := by
  simp only [reconcile, buildJobs_eq]
  cases rejected : firstRejection (m.outcome config (cluster.getD m.cluster)) (config.jobs m.hostNetwork) with
  | some e' =>
    obtain ⟨pre, d, post, split, earlier, first⟩ := firstRejection_eq_some_iff.1 rejected
    simp only [bind, Except.bind, Except.error.injEq]
    constructor
    · rintro rfl
      exact .inl ⟨pre, d, post, split, earlier, first, buildJob_error first⟩
    · rintro (⟨pre', d', post', split', earlier', first', -⟩ | ⟨accepted, -⟩)
      · have again := firstRejection_eq_some_iff.2 ⟨pre', d', post', split', earlier', first'⟩
        rw [rejected] at again
        exact Option.some.inj again
      · rw [firstRejection_eq_none_iff.2 accepted] at rejected
        cases rejected
  | none =>
    have accepted := firstRejection_eq_none_iff.1 rejected
    -- with every descriptor accepted, only the store can fail
    have rejectsIff : m.Rejects config (cluster.getD m.cluster) v e ↔
        m.store = none ∧ m.createStore config v = .error e := by
      rw [Rejects, createStore_error_iff]
      constructor
      · rintro (⟨pre, d, post, split, -, first, -⟩ | ⟨-, fails⟩)
        · obtain ⟨o, built⟩ := accepted d (by simp [split])
          rw [built] at first
          cases first
        · exact fails
      · intro fails
        exact .inr ⟨accepted, fails⟩
    rw [rejectsIff]
    simp only [bind, Except.bind]
    cases stored : m.store with
    | some s => simp [pure, Except.pure]
    | none =>
      cases created : m.createStore config v with
      | error e' => simp
      | ok c => cases c <;> simp [pure, Except.pure]

/-- Why a call fails. Loading reads the cluster's file before the agent's and a reload the
agent's first; a reload whose files say what is in force reconciles nothing, so it cannot
fail past the reading. -/
def CallFails (m : Manager) : Call → Files.Dir → AgentError → Prop
  | .load, v, e =>
    (∃ c, Cluster.load v m.clusterFile = .error c ∧ e = .config c) ∨
    ∃ cluster, Cluster.load v m.clusterFile = .ok cluster ∧
      ((∃ c, Agent.load v m.agentFile = .error c ∧ e = .config c) ∨
        ∃ config, Agent.load v m.agentFile = .ok config ∧ m.Rejects config cluster v e)
  | .apply config, v, e => m.Rejects config m.cluster v e
  | .reload, v, e =>
    (∃ c, Agent.load v m.agentFile = .error c ∧ e = .config c) ∨
    ∃ config, Agent.load v m.agentFile = .ok config ∧
      ((∃ c, Cluster.load v m.clusterFile = .error c ∧ e = .config c) ∨
        ∃ cluster, Cluster.load v m.clusterFile = .ok cluster ∧
          ¬ (config.sameAs m.agent = true ∧ cluster = m.cluster) ∧ m.Rejects config cluster v e)

/-- A load fails on the cluster file, then on the agent file, then as the reconciliation
rejects what they hold. -/
theorem load_error_iff {m : Manager} {now : Int} {offset : String → Nat} {v : Files.Dir}
    {e : AgentError} : m.load now offset v = .error e ↔ m.CallFails .load v e := by
  simp only [load, CallFails, Except.bind_eq_error_iff, Except.mapError_eq_error_iff,
    Except.mapError_eq_ok_iff, reconcile_error_iff, Option.getD_some]

/-- A reload fails on the agent file, then on the cluster file, and then only when what they
hold differs from what is in force and the reconciliation rejects it. -/
theorem reload_error_iff {m : Manager} {now : Int} {offset : String → Nat} {v : Files.Dir}
    {e : AgentError} : m.reload now offset v = .error e ↔ m.CallFails .reload v e := by
  simp only [reload, CallFails, Except.bind_eq_error_iff, Except.mapError_eq_error_iff,
    Except.mapError_eq_ok_iff]
  refine or_congr_right (exists_congr fun config => and_congr_right fun _ => ?_)
  refine or_congr_right (exists_congr fun cluster => and_congr_right fun _ => ?_)
  have rejectsIff := @reconcile_error_iff m config (some cluster) now offset v e
  rw [Option.getD_some] at rejectsIff
  rw [← rejectsIff]
  by_cases same : config.sameAs m.agent = true ∧ cluster = m.cluster
  · -- the files say what is in force: nothing is applied, so nothing can fail
    obtain ⟨sameAgent, rfl⟩ := same
    simp [sameAgent, pure, Except.pure]
  · have different : (config.sameAs m.agent && cluster == m.cluster) = false := by
      simpa using same
    simp only [different, Bool.false_eq_true, ↓reduceIte, same, not_false_eq_true, true_and]
    simp [Except.bind_eq_error_iff, pure, Except.pure]

/-- A call fails exactly in the cases `CallFails` lists, with the error given there, and a
failed call leaves the manager as it was: registry, settings, cluster and store. -/
theorem failed_call_changes_nothing (m : Manager) (call : Call) (now : Int)
    (offset : String → Nat) (v : Files.Dir) (e : AgentError) :
    m.perform call now offset v = .error e ↔
      m.CallFails call v e ∧ m.after call now offset v = m := by
  have unchanged : m.perform call now offset v = .error e → m.after call now offset v = m := by
    intro failed
    simp [after, failed]
  suffices m.perform call now offset v = .error e ↔ m.CallFails call v e from
    ⟨fun failed => ⟨this.1 failed, unchanged failed⟩, fun ⟨fails, _⟩ => this.2 fails⟩
  cases call with
  | load => rw [perform, Except.map_eq_error_iff, load_error_iff]
  | apply config =>
    simp only [perform, Except.map_eq_error_iff, applyAgent, CallFails, reconcile_error_iff,
      Option.getD_none]
  | reload => rw [perform, reload_error_iff]

end Manager

end Reachability.Agent
