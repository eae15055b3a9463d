import Mathlib
import Reachability.Agent.Setup
import Reachability.Proofs.Reconciliation
import Reachability.Proofs.MetricSeries

/-!
# What the metrics keep once a reconciliation is heard

A successful reconciliation tells the metrics which job ids became obsolete, the ids the
settings in force had and the new ones lack, and which destinations are valid, those of the jobs
built; it tells the aggregator the new settings' ids, skipped descriptors included, between the
valid hosts. The metrics evict the series of the obsolete jobs, then those of every destination
that is not valid.

Main statements:

* `reconcile_tells_sinks`: those three sets, for every successful reconciliation;
* `hear_leaves_no_stale_series`: whatever the labels, once the sinks have heard, no sample is
  exported of an obsolete job or of a destination that is not valid;
* `hear_keeps_valid_series`: when the edges observed are told apart by their label values joined,
  every series of a job not obsolete towards a valid destination keeps its values;
* `shared_text_evicted_with_obsolete_job`: when they are not, such a series can go with an
  obsolete job's, whose label values read the same when joined.
-/

namespace Reachability.Agent

open Reachability.Config
open Reachability.Probe

/-! ## Sets kept each member once -/

/-- Adding a text anew holds the texts before and it. -/
theorem mem_addNew {xs : List String} {x y : String} : x ∈ addNew xs y ↔ x ∈ xs ∨ x = y := by
  unfold addNew
  split
  · rename_i present
    constructor
    · exact .inl
    · rintro (held | rfl)
      · exact held
      · simpa using present
  · simp

/-- Adding texts anew holds the texts before and them. -/
theorem mem_foldl_addNew {xs acc : List String} {x : String} :
    x ∈ xs.foldl addNew acc ↔ x ∈ acc ∨ x ∈ xs := by
  induction xs generalizing acc with
  | nil => simp
  | cons y rest ih =>
    rw [List.foldl_cons, ih, mem_addNew, List.mem_cons]
    tauto

namespace Manager

/-! ## What a reconciliation tells the sinks -/

variable (m : Manager) (config : Agent) (cluster : Cluster)

/-- The ids told obsolete are those of the old descriptors the new settings no longer hold. -/
theorem mem_told_obsolete {id : String} :
    id ∈ (m.told config cluster).obsolete ↔
      id ∈ m.descriptors.map (·.id) ∧ id ∉ (config.jobs m.hostNetwork).map (·.id) := by
  simp [told, mem_foldl_addNew]

/-- The hosts told valid are the destination hosts of the jobs built. -/
theorem mem_told_validHosts {host : String} :
    host ∈ (m.told config cluster).validHosts ↔
      ∃ j ∈ builtJobs (m.outcome config cluster) (config.jobs m.hostNetwork), host ∈ j.destHosts := by
  simp [told, mem_foldl_addNew]

/-- The job ids told are those of the new descriptors. -/
theorem mem_told_jobIds {id : String} :
    id ∈ (m.told config cluster).edges.jobIds ↔ id ∈ (config.jobs m.hostNetwork).map (·.id) := by
  simp [told, mem_foldl_addNew]

/-- A successful reconciliation from the settings in force to `config` tells the metrics to evict
the ids the settings in force had and `config` lacks and to keep the destinations of the jobs
built; it tells the aggregator `config`'s ids, skipped descriptors included, between those
hosts. -/
theorem reconcile_tells_sinks {m m' : Manager} {config : Agent} {cluster : Option Cluster}
    {now : Int} {offset : String → Nat} {v v' : Files.Dir} {r : Reconciled}
    (done : m.reconcile config cluster now offset v = .ok (m', v', r)) :
    (∀ id, id ∈ r.obsolete ↔
      id ∈ (m.agent.jobs m.hostNetwork).map (·.id) ∧ id ∉ (config.jobs m.hostNetwork).map (·.id)) ∧
    (∀ host, host ∈ r.validHosts ↔
      ∃ j ∈ builtJobs (m.outcome config (cluster.getD m.cluster)) (config.jobs m.hostNetwork),
        host ∈ j.destHosts) ∧
    (∀ id, id ∈ r.edges.jobIds ↔ id ∈ (config.jobs m.hostNetwork).map (·.id)) ∧
    r.edges.destHosts = r.validHosts ∧ r.edges.srcHosts = r.validHosts := by
  obtain ⟨-, -, rfl⟩ := reconcile_eq_ok_told done
  exact ⟨fun id => mem_told_obsolete m config _, fun host => mem_told_validHosts m config _,
    fun id => mem_told_jobIds m config _, rfl, rfl⟩

end Manager

/-! ## The metrics once the sinks have heard -/

namespace Sinks

open Metrics

variable (s : Sinks) (r : Reconciled)

/-- Hearing a reconciliation evicts the obsolete jobs' series, then those of the destinations
that are not valid. -/
theorem hear_metrics :
    (s.hear r).metrics = (s.metrics.evictWhere fun g => r.obsolete.contains g.jobId).evictWhere
      fun g => !r.validHosts.contains g.dest := by
  show (s.metrics.evictJobIds r.obsolete).evictInvalidDestHosts r.validHosts = _
  rw [evictJobIds_eq]
  rfl

/-- Whatever the labels, once the sinks have heard a reconciliation, no sample is exported of an
obsolete job or of a destination that is not valid. -/
theorem hear_leaves_no_stale_series (ops : List Op) (reached : s.metrics = ({} : Metrics).run ops)
    {k : EdgeKey} (held : k ∈ (s.hear r).metrics.exported) :
    k.jobId ∉ r.obsolete ∧ k.dest ∈ r.validHosts := by
  have tracked : Tracked s.metrics := reached ▸ Tracked.empty.run ops
  have afterJobs := tracked.evictWhere fun g => r.obsolete.contains g.jobId
  rw [hear_metrics] at held
  constructor
  · intro obsolete
    have stale : r.obsolete.contains k.jobId = true := List.contains_iff_mem.2 obsolete
    exact tracked.not_exported_evictWhere _ stale (mem_exported_of_evictWhere _ _ held)
  · by_contra invalid
    have stale : (!r.validHosts.contains k.dest) = true := by simpa using invalid
    exact afterJobs.not_exported_evictWhere _ stale held

/-- When the edges observed are told apart by their label values joined, every series of a job
not obsolete towards a valid destination keeps its values once the sinks have heard. -/
theorem hear_keeps_valid_series (ops : List Op) (reached : s.metrics = ({} : Metrics).run ops)
    (apart : Apart (observedKeys ops)) {k : EdgeKey} (live : k.jobId ∉ r.obsolete)
    (valid : k.dest ∈ r.validHosts) :
    (∀ ok, (s.hear r).metrics.counterOf k ok = s.metrics.counterOf k ok) ∧
      (s.hear r).metrics.histogramOf k = s.metrics.histogramOf k := by
  have shows : Shows ops s.metrics := reached ▸ shows_run ops apart
  have seriesApart : Apart s.metrics.series := apart.mono fun g held => shows.mem_observedKeys held
  have afterJobs := shows.tracked.evictWhere fun g => r.obsolete.contains g.jobId
  -- the first eviction only drops series, so the edges left are still told apart
  have leftApart : Apart (s.metrics.evictWhere fun g => r.obsolete.contains g.jobId).series :=
    seriesApart.mono fun g held => by
      rw [series_evictWhere] at held
      exact (List.mem_filter.1 held).1
  have keptJob : r.obsolete.contains k.jobId = false := by simpa using live
  have keptDest : (!r.validHosts.contains k.dest) = false := by simpa using valid
  rw [hear_metrics]
  constructor
  · intro ok
    rw [afterJobs.counterOf_evictWhere _ leftApart, keptDest, if_neg Bool.false_ne_true,
      shows.tracked.counterOf_evictWhere _ seriesApart, keptJob, if_neg Bool.false_ne_true]
  · rw [afterJobs.histogramOf_evictWhere _ leftApart, keptDest, if_neg Bool.false_ne_true,
      shows.tracked.histogramOf_evictWhere _ seriesApart, keptJob, if_neg Bool.false_ne_true]

/-- Job `s` from `a` towards `bc` and job `cs` from `a` towards `b` join alike. When `cs` becomes
obsolete and `bc` stays valid, the series of `s` towards `bc`, which should keep its one
observation, goes with the obsolete job's: the edge stays tracked with nothing exported. -/
theorem shared_text_evicted_with_obsolete_job :
    let ops := [Op.observe ⟨"a", "bc", "s"⟩ true none, Op.observe ⟨"a", "b", "cs"⟩ true none]
    let s : Sinks := { metrics := ({} : Metrics).run ops }
    let r : Reconciled := { obsolete := ["cs"], validHosts := ["bc"], edges := ⟨["s"], ["bc"], ["bc"]⟩ }
    "s" ∉ r.obsolete ∧ "bc" ∈ r.validHosts ∧ countSince ⟨"a", "bc", "s"⟩ true ops = 1 ∧
      (s.hear r).metrics.series = [⟨"a", "bc", "s"⟩] ∧ (s.hear r).metrics.exported = [] := by
  decide

end Sinks

end Reachability.Agent
