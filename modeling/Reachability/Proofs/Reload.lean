import Mathlib
import Reachability.Proofs.Reconciliation
import Reachability.Proofs.Schedule
import Reachability.Proofs.Except

/-!
# Reconciliation keeps schedules

Reconciliation rebuilds the jobs of the settings it applies, not their schedules. A built job
replaces the job of its id and takes over its last run and its flag; deletions remove whole
jobs; nothing sets or clears a flag. So every id held both before and after a call keeps its
last run and its flag, and a run of it in flight stays in flight.

Applying the settings in force once more rebuilds every job and changes no schedule: the same
ids stay, in the same order, with the same last runs and flags. An id built and skipped at once
(two descriptors of one id, which only settings given directly can have) is added afresh and
deleted again, so it leaves no trace.

A reload answers that nothing changed exactly when both files read back as the settings in
force, and then changes nothing at all. Since a reload that applies the files puts exactly them
in force, a second reload of files that read the same answers that nothing changed.

Main statement: `reconciliation_keeps_schedules`.
-/

namespace Reachability.Config.Agent

/-- Settings say the same as themselves: the output directory names its own path. -/
theorem sameAs_self (a : Agent) : a.sameAs a = true := by
  unfold sameAs
  cases a.outputDir <;> simp [Files.samePath]

end Reachability.Config.Agent

namespace Reachability.Agent

open Reachability.Config
open Reachability.Time

namespace Scheduled

/-- The schedule of a job: its id, its last run and the flag its runs set. -/
def schedule {α : Type} (x : Scheduled α) : String × Option Int × Nat := (x.id, x.lastRun, x.flag)

end Scheduled

namespace Registry

variable {α : Type}

/-! ## Schedules through additions and deletions -/

/-- Adding under a held id keeps every schedule, the replaced job's included; adding under a
new id appends the new job's schedule. -/
theorem schedules_add {r : Registry α} (unique : (r.jobs.map (·.id)).Nodup) (id : String)
    (period : Elapsed) (task : α) (now : Int) (offset : Nat) :
    (r.add id period task now offset).jobs.map Scheduled.schedule =
      if id ∈ r.ids then r.jobs.map Scheduled.schedule
      else r.jobs.map Scheduled.schedule ++ [(id, some (now - offset), r.nextFlag)] := by
  split
  · rename_i held
    obtain ⟨old, found⟩ := Option.ne_none_iff_exists'.1 fun absent =>
      find?_eq_none_iff.1 absent held
    obtain ⟨oldHeld, oldId⟩ := find?_spec found
    rw [add_of_find? found, List.map_map]
    apply List.map_congr_left
    intro x member
    by_cases same : x.id = id
    · -- the job held under the id is the one found, whose schedule the new job takes over
      obtain rfl : x = old := List.inj_on_of_nodup_map unique member oldHeld (same.trans oldId.symm)
      simp [Scheduled.schedule, same]
    · simp [Scheduled.schedule, same]
  · rename_i absent
    simp [add, find?_eq_none_iff.2 absent, Scheduled.schedule]

/-- Adding tasks sets and clears no flag. -/
theorem active_addAll (key : α → String) (per : α → Elapsed) (now : Int) (offset : String → Nat)
    (tasks : List α) (r : Registry α) :
    (tasks.foldl (fun r t => r.add (key t) (per t) t now (offset (key t))) r).active = r.active := by
  induction tasks generalizing r with
  | nil => rfl
  | cons t rest inductionHypothesis => simp [inductionHypothesis]

/-- Adding several tasks keeps every schedule held and appends schedules of ids that were not
held, each the key of an added task. -/
theorem schedules_addAll (key : α → String) (per : α → Elapsed) (now : Int)
    (offset : String → Nat) (tasks : List α) {r : Registry α}
    (unique : (r.jobs.map (·.id)).Nodup) :
    ∃ extra, (tasks.foldl (fun r t => r.add (key t) (per t) t now (offset (key t))) r).jobs.map
        Scheduled.schedule = r.jobs.map Scheduled.schedule ++ extra ∧
      ∀ s ∈ extra, s.1 ∉ r.ids ∧ s.1 ∈ tasks.map key := by
  induction tasks generalizing r with
  | nil => exact ⟨[], by simp, by simp⟩
  | cons t rest inductionHypothesis =>
    have distinct : ((r.add (key t) (per t) t now (offset (key t))).jobs.map (·.id)).Nodup :=
      keys_nodup_add unique
    obtain ⟨extra, schedules, fresh⟩ := inductionHypothesis distinct
    -- an id not held after the first addition was not held before it
    have wasFresh {s : String × Option Int × Nat} (member : s ∈ extra) : s.1 ∉ r.ids :=
      fun held => (fresh s member).1 (mem_ids_add.2 (.inr held))
    rw [List.foldl_cons, schedules, schedules_add unique]
    split
    · exact ⟨extra, rfl, fun s member =>
        ⟨wasFresh member, List.mem_cons_of_mem _ (fresh s member).2⟩⟩
    · rename_i absent
      refine ⟨(key t, some (now - offset (key t)), r.nextFlag) :: extra, by simp, ?_⟩
      intro s member
      rcases List.mem_cons.1 member with rfl | later
      · exact ⟨absent, List.mem_cons_self⟩
      · exact ⟨wasFresh later, List.mem_cons_of_mem _ (fresh s later).2⟩

/-- Deleting several ids keeps exactly the jobs of the other ids, in order. -/
theorem jobs_deleteAll (ids : List String) (r : Registry α) :
    (ids.foldl Registry.delete r).jobs = r.jobs.filter fun x => !ids.contains x.id := by
  induction ids generalizing r with
  | nil => simp
  | cons id rest inductionHypothesis =>
    rw [List.foldl_cons, inductionHypothesis]
    simp only [delete, List.filter_filter]
    apply List.filter_congr
    intro x _
    simp only [List.contains_cons, Bool.not_or, bne]
    exact Bool.and_comm _ _

/-- The schedules of the jobs whose ids pass a test are the schedules whose ids pass it. -/
theorem schedules_filter (jobs : List (Scheduled α)) (p : String → Bool) :
    (jobs.filter fun x => p x.id).map Scheduled.schedule =
      (jobs.map Scheduled.schedule).filter fun s => p s.1 := by
  rw [List.filter_map]
  rfl

/-- Deleting ids sets and clears no flag. -/
theorem active_deleteAll (ids : List String) (r : Registry α) :
    (ids.foldl Registry.delete r).active = r.active := by
  induction ids generalizing r with
  | nil => rfl
  | cons id rest inductionHypothesis => simp [inductionHypothesis]

end Registry

namespace Manager

/-! ## One reconciliation -/

/-- The jobs a reconciliation adds, from the registry before it. -/
theorem reconciledRegistry_eq (m : Manager) (config : Agent) (cluster : Cluster) (now : Int)
    (offset : String → Nat) :
    m.reconciledRegistry config cluster now offset =
      (((m.descriptors.map (·.id)).filter fun id => !((config.jobs m.hostNetwork).map (·.id)).contains id) ++
        skippedIds (m.outcome config cluster) (config.jobs m.hostNetwork)).foldl Registry.delete
        ((builtJobs (m.outcome config cluster) (config.jobs m.hostNetwork)).foldl
          (fun r j => r.add j.config.id j.period j now (offset j.config.id)) m.registry) := rfl

/-- A successful reconciliation sets and clears no flag, and every id held before and after it
keeps its last run and its flag. -/
theorem reconcile_keeps_schedules {m m' : Manager} {config : Agent} {cluster : Option Cluster}
    {now : Int} {offset : String → Nat} {v v' : Files.Dir} {r : Reconciled}
    (unique : (m.registry.jobs.map (·.id)).Nodup)
    (done : m.reconcile config cluster now offset v = .ok (m', v', r)) :
    m'.registry.active = m.registry.active ∧
      ∀ x ∈ m.registry.jobs, ∀ x' ∈ m'.registry.jobs, x'.id = x.id →
        x'.lastRun = x.lastRun ∧ x'.flag = x.flag := by
  obtain ⟨-, registry, -⟩ := reconcile_ok done
  rw [registry, reconciledRegistry_eq]
  refine ⟨by rw [Registry.active_deleteAll, Registry.active_addAll], ?_⟩
  intro x held x' kept sameId
  obtain ⟨extra, schedules, fresh⟩ := Registry.schedules_addAll (fun j : Probe.ProbeJob => j.config.id)
    (·.period) now offset (builtJobs (m.outcome config (cluster.getD m.cluster))
      (config.jobs m.hostNetwork)) unique
  rw [Registry.jobs_deleteAll] at kept
  have scheduled : x'.schedule ∈ _ := List.mem_map_of_mem (List.mem_of_mem_filter kept)
  rw [schedules] at scheduled
  rcases List.mem_append.1 scheduled with old | added
  · -- the schedule was held before, by the only job of its id
    obtain ⟨y, yHeld, same⟩ := List.mem_map.1 old
    simp only [Scheduled.schedule, Prod.mk.injEq] at same
    obtain rfl : y = x := List.inj_on_of_nodup_map unique yHeld held (same.1.trans sameId)
    exact ⟨same.2.1.symm, same.2.2.symm⟩
  · exact absurd (Registry.mem_ids.2 ⟨x, held, sameId.symm⟩) (fresh _ added).1

/-- Reconciling the settings in force against the cluster in force keeps every schedule, in
order: every id held is built again and not skipped, and an id built that was not held is one
that is also skipped, so it is deleted again. -/
theorem reapply_keeps_schedules {m m' : Manager} {now : Int} {offset : String → Nat}
    {v v' : Files.Dir} {r : Reconciled} (consistent : m.Consistent)
    (done : m.reconcile m.agent none now offset v = .ok (m', v', r)) :
    m'.registry.jobs.map Scheduled.schedule = m.registry.jobs.map Scheduled.schedule := by
  obtain ⟨-, registry, -⟩ := reconcile_ok done
  rw [registry, reconciledRegistry_eq, Registry.jobs_deleteAll]
  have sameSettings : m.agent.jobs m.hostNetwork = m.descriptors := rfl
  have sameOutcome : m.outcome m.agent (none.getD m.cluster) = m.current := rfl
  obtain ⟨extra, schedules, fresh⟩ := Registry.schedules_addAll (fun j : Probe.ProbeJob => j.config.id)
    (·.period) now offset (builtJobs m.current m.descriptors) consistent.unique
  -- no id of the settings in force leaves them
  have noneObsolete : ((m.descriptors.map (·.id)).filter fun id =>
      !((m.descriptors.map (·.id)).contains id)) = [] := by
    simp
  rw [sameSettings, sameOutcome, noneObsolete, List.nil_append,
    Registry.schedules_filter _ fun id => !(skippedIds m.current m.descriptors).contains id, schedules,
    List.filter_append]
  have heldStay : (m.registry.jobs.map Scheduled.schedule).filter
      (fun s => !(skippedIds m.current m.descriptors).contains s.1) =
        m.registry.jobs.map Scheduled.schedule := by
    apply List.filter_eq_self.2
    intro s member
    obtain ⟨x, held, rfl⟩ := List.mem_map.1 member
    have notSkipped := ((consistent.keys x.id).1 (Registry.mem_ids.2 ⟨x, held, rfl⟩)).2
    simpa [Scheduled.schedule] using notSkipped
  have addedGo : extra.filter (fun s => !(skippedIds m.current m.descriptors).contains s.1) = [] := by
    apply List.filter_eq_nil_iff.2
    intro s member
    obtain ⟨notHeld, built⟩ := fresh s member
    -- a built id that is not held is skipped, by consistency
    have skipped : s.1 ∈ skippedIds m.current m.descriptors := by
      by_contra notSkipped
      exact notHeld ((consistent.keys s.1).2 ⟨built, notSkipped⟩)
    simpa using skipped
  rw [heldStay, addedGo, List.append_nil]

/-! ## Reloads -/

/-- A successful reload read both files. When they say what is in force it answers that nothing
changed and leaves manager and volume as they were; otherwise it reconciled them. -/
theorem reload_eq_ok {m m' : Manager} {now : Int} {offset : String → Nat} {v v' : Files.Dir}
    {r : Option Reconciled} (done : m.reload now offset v = .ok (m', v', r)) :
    ∃ config cluster, Agent.load v m.agentFile = .ok config ∧
      Cluster.load v m.clusterFile = .ok cluster ∧
      ((config.sameAs m.agent = true ∧ cluster = m.cluster ∧ m' = m ∧ v' = v ∧ r = none) ∨
        (¬ (config.sameAs m.agent = true ∧ cluster = m.cluster) ∧
          ∃ r', m.reconcile config (some cluster) now offset v = .ok (m', v', r') ∧
            r = some r')) := by
  unfold reload at done
  obtain ⟨config, agentRead, done⟩ := Except.bind_eq_ok_iff.1 done
  obtain ⟨cluster, clusterRead, done⟩ := Except.bind_eq_ok_iff.1 done
  refine ⟨config, cluster, Except.mapError_eq_ok_iff.1 agentRead,
    Except.mapError_eq_ok_iff.1 clusterRead, ?_⟩
  by_cases same : config.sameAs m.agent = true ∧ cluster = m.cluster
  · obtain ⟨sameAgent, rfl⟩ := same
    simp only [sameAgent, beq_self_eq_true, Bool.and_self, ↓reduceIte, Except.pure_eq_ok_iff,
      Prod.mk.injEq] at done
    obtain ⟨rfl, rfl, rfl⟩ := done
    exact .inl ⟨sameAgent, rfl, rfl, rfl, rfl⟩
  · have different : (config.sameAs m.agent && cluster == m.cluster) = false := by
      simpa using same
    simp only [different, Bool.false_eq_true, ↓reduceIte] at done
    obtain ⟨⟨m'', v'', r''⟩, reconciled, finished⟩ := Except.bind_eq_ok_iff.1 done
    simp only [Except.pure_eq_ok_iff, Prod.mk.injEq] at finished
    obtain ⟨rfl, rfl, rfl⟩ := finished
    exact .inr ⟨same, r'', reconciled, rfl⟩

/-- A reload answers that nothing changed exactly when both files read back as the settings in
force. -/
theorem reload_unchanged_iff {m : Manager} {now : Int} {offset : String → Nat} {v : Files.Dir} :
    (∃ m' v', m.reload now offset v = .ok (m', v', none)) ↔
      ∃ config cluster, Agent.load v m.agentFile = .ok config ∧
        Cluster.load v m.clusterFile = .ok cluster ∧ config.sameAs m.agent = true ∧
        cluster = m.cluster := by
  constructor
  · rintro ⟨m', v', done⟩
    obtain ⟨config, cluster, agentRead, clusterRead, outcome⟩ := reload_eq_ok done
    rcases outcome with ⟨same, sameCluster, -⟩ | ⟨-, r', -, applied⟩
    · exact ⟨config, cluster, agentRead, clusterRead, same, sameCluster⟩
    · cases applied
  · rintro ⟨config, cluster, agentRead, clusterRead, same, rfl⟩
    exact ⟨m, v, by simp [reload, bind, Except.bind, Except.mapError, agentRead, clusterRead, same,
      pure, Except.pure]⟩

/-- After a successful reload, a second one of files that read the same answers that nothing
changed: either the first found them in force, or it put exactly them in force. -/
theorem reload_again_unchanged {m m' : Manager} {now : Int} {offset : String → Nat}
    {v v' v2 : Files.Dir} {r : Option Reconciled} (done : m.reload now offset v = .ok (m', v', r))
    (sameAgentFile : Agent.load v2 m.agentFile = Agent.load v m.agentFile)
    (sameClusterFile : Cluster.load v2 m.clusterFile = Cluster.load v m.clusterFile)
    (now' : Int) (offset' : String → Nat) : m'.reload now' offset' v2 = .ok (m', v2, none) := by
  obtain ⟨config, cluster, agentRead, clusterRead, outcome⟩ := reload_eq_ok done
  have inForce : m'.agentFile = m.agentFile ∧ m'.clusterFile = m.clusterFile ∧
      config.sameAs m'.agent = true ∧ cluster = m'.cluster := by
    rcases outcome with ⟨same, sameCluster, rfl, -⟩ | ⟨-, r', reconciled, -⟩
    · exact ⟨rfl, rfl, same, sameCluster⟩
    · -- a reconciliation puts the settings it applies in force and keeps the files it reads
      obtain ⟨-, store, rfl⟩ := reconcile_eq_ok reconciled
      exact ⟨rfl, rfl, Config.Agent.sameAs_self config, rfl⟩
  obtain ⟨agentFile, clusterFile, same, sameCluster⟩ := inForce
  simp [reload, bind, Except.bind, Except.mapError, agentFile, clusterFile, sameAgentFile,
    sameClusterFile, agentRead, clusterRead, same, ← sameCluster, pure, Except.pure]

/-! ## Every call -/

/-- Reconciliation rebuilds jobs, not schedules. For every manager that calls reach:

* every call sets and clears no flag, and every id held before and after it keeps its last run
  and its flag;
* applying the settings in force again keeps the ids held, in order, with their last runs and
  flags;
* a reload answers that nothing changed exactly when both files read back as the settings in
  force, and then leaves manager and volume as they were; after any successful reload, a second
  one of files that read the same answers that nothing changed. -/
theorem reconciliation_keeps_schedules {m : Manager} (reach : m.Reachable) (now : Int)
    (offset : String → Nat) (v : Files.Dir) :
    (∀ call, (m.after call now offset v).registry.active = m.registry.active ∧
      ∀ x ∈ m.registry.jobs, ∀ x' ∈ (m.after call now offset v).registry.jobs, x'.id = x.id →
        x'.lastRun = x.lastRun ∧ x'.flag = x.flag) ∧
    (m.after (.apply m.agent) now offset v).registry.jobs.map Scheduled.schedule =
      m.registry.jobs.map Scheduled.schedule ∧
    ((∃ m' v', m.reload now offset v = .ok (m', v', none)) ↔
      ∃ config cluster, Agent.load v m.agentFile = .ok config ∧
        Cluster.load v m.clusterFile = .ok cluster ∧ config.sameAs m.agent = true ∧
        cluster = m.cluster) ∧
    (∀ m' v', m.reload now offset v = .ok (m', v', none) → m' = m ∧ v' = v) ∧
    (∀ m' v' r v2, m.reload now offset v = .ok (m', v', r) →
      Agent.load v2 m.agentFile = Agent.load v m.agentFile →
      Cluster.load v2 m.clusterFile = Cluster.load v m.clusterFile →
      ∀ now' offset', m'.reload now' offset' v2 = .ok (m', v2, none)) := by
  have consistent := reach.consistent
  -- a manager left as it was keeps every schedule, as its ids are distinct
  have unchanged : ∀ x ∈ m.registry.jobs, ∀ x' ∈ m.registry.jobs, x'.id = x.id →
      x'.lastRun = x.lastRun ∧ x'.flag = x.flag := by
    intro x held x' kept sameId
    obtain rfl := List.inj_on_of_nodup_map consistent.unique kept held sameId
    exact ⟨rfl, rfl⟩
  refine ⟨fun call => ?_, ?_, reload_unchanged_iff, fun m' v' done => ?_,
    fun m' v' r v2 done sameAgentFile sameClusterFile now' offset' =>
      reload_again_unchanged done sameAgentFile sameClusterFile now' offset'⟩
  · unfold after
    split
    · rename_i done
      rcases perform_ok done with rfl | ⟨config, cluster, v'', r', reconciled⟩
      · exact ⟨rfl, unchanged⟩
      · exact reconcile_keeps_schedules consistent.unique reconciled
    · exact ⟨rfl, unchanged⟩
  · cases reconciled : m.reconcile m.agent none now offset v with
    | error e => simp [after, perform, applyAgent, reconciled, Except.map]
    | ok result =>
      obtain ⟨m', v', r⟩ := result
      have applied : m.after (.apply m.agent) now offset v = m' := by
        simp [after, perform, applyAgent, reconciled, Except.map]
      rw [applied]
      exact reapply_keeps_schedules consistent reconciled
  · obtain ⟨config, cluster, -, -, outcome⟩ := reload_eq_ok done
    rcases outcome with ⟨-, -, sameManager, sameVolume, -⟩ | ⟨-, r', -, applied⟩
    · exact ⟨sameManager, sameVolume⟩
    · cases applied

/-- The manager that applied an endpoint job and an idle one keeps its schedules. -/
theorem schedules_kept_after_endpoint_and_idle :
    afterEndpointAndIdle.Reachable ∧
    (∀ call, (afterEndpointAndIdle.after call 0 (fun _ => 0) []).registry.active =
        afterEndpointAndIdle.registry.active ∧
      ∀ x ∈ afterEndpointAndIdle.registry.jobs,
        ∀ x' ∈ (afterEndpointAndIdle.after call 0 (fun _ => 0) []).registry.jobs, x'.id = x.id →
          x'.lastRun = x.lastRun ∧ x'.flag = x.flag) ∧
    (afterEndpointAndIdle.after (.apply afterEndpointAndIdle.agent) 0 (fun _ => 0) []).registry.jobs.map
        Scheduled.schedule = afterEndpointAndIdle.registry.jobs.map Scheduled.schedule ∧
    ((∃ m' v', afterEndpointAndIdle.reload 0 (fun _ => 0) [] = .ok (m', v', none)) ↔
      ∃ config cluster, Agent.load [] afterEndpointAndIdle.agentFile = .ok config ∧
        Cluster.load [] afterEndpointAndIdle.clusterFile = .ok cluster ∧
        config.sameAs afterEndpointAndIdle.agent = true ∧ cluster = afterEndpointAndIdle.cluster) ∧
    (∀ m' v', afterEndpointAndIdle.reload 0 (fun _ => 0) [] = .ok (m', v', none) →
      m' = afterEndpointAndIdle ∧ v' = []) ∧
    (∀ m' v' r v2, afterEndpointAndIdle.reload 0 (fun _ => 0) [] = .ok (m', v', r) →
      Agent.load v2 afterEndpointAndIdle.agentFile = Agent.load [] afterEndpointAndIdle.agentFile →
      Cluster.load v2 afterEndpointAndIdle.clusterFile =
        Cluster.load [] afterEndpointAndIdle.clusterFile →
      ∀ now' offset', m'.reload now' offset' v2 = .ok (m', v2, none)) :=
  have reach : afterEndpointAndIdle.Reachable := .after _ _ _ _ (.fresh _ _ _ _)
  ⟨reach, reconciliation_keeps_schedules reach 0 (fun _ => 0) []⟩

end Manager

end Reachability.Agent
