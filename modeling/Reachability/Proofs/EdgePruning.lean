import Mathlib
import Reachability.Agent.Aggregator

/-!
# Which edges the aggregator holds once told the valid ones

The aggregator is driven by events: an observation arrives, the valid edges are replaced, or
a summary (or a report, which summarizes and then writes) is asked for. Replacing the valid
edges forgets every edge whose job or destination is not valid. An arrival is then admitted on
its job alone: an observation of a valid job is recorded whatever its destination, and only
one of a job no longer valid is dropped.

Main statements, along any events after the valid edges `v` were given and before they are
replaced again:

* `held_edges_after_update`: every edge held is of a job of `v`, and of a destination of `v`
  unless an observation of that very edge arrived since;
* `summaries_after_update`, `report_entries_after_update`: the same holds of every summary and
  of every report entry;
* `pruned_while_arrivals_valid`: when each arrival of a valid job has a valid destination,
  every edge held is an edge of `v`;
* `stale_destination_held_after_update`: an arrival of a valid job towards a destination that
  is no longer valid is held all the same.

The argument is an invariant (`Pruned`) kept by each event that is not a replacement, with
one lemma per event saying what it does to the edges held.
-/

namespace Reachability.Agent

open Reachability.Time
open Reachability.Probe

/-- The edge of an observation. -/
def EdgeKey.of (o : Observation) : EdgeKey := ⟨o.srcHost, o.destHost, o.jobId⟩

namespace Aggregator

/-- The edges held, in the order they were first seen. -/
def keys (a : Aggregator) : List EdgeKey := a.edges.map (·.1)

/-! ## What each operation does to the edges held -/

section Operations

variable (a : Aggregator)

/-- An arrival keeps the valid edges. -/
@[simp] theorem valid_add (o : Observation) (now : Instant) : (a.add o now).valid = a.valid := by
  unfold add
  dsimp only
  split_ifs <;> rfl

/-- Whether an arrival is admitted does not depend on the count of arrivals. -/
theorem accepts_counted (n : Nat) (o : Observation) :
    ({ a with processed := n } : Aggregator).accepts o = a.accepts o := rfl

/-- Replacing the valid edges puts the new ones in force. -/
@[simp] theorem valid_updateValidEdges (v : ValidEdges) : (a.updateValidEdges v).valid = some v :=
  rfl

/-- A summary keeps the valid edges. -/
@[simp] theorem valid_summarize (now : Instant) : (a.summarize now).1.valid = a.valid := rfl

/-- Once valid edges are given, an arrival is admitted exactly when its job is valid: its
destination is not looked at. -/
theorem accepts_iff {v : ValidEdges} (given : a.valid = some v) (o : Observation) :
    a.accepts o = true ↔ o.jobId ∈ v.jobIds := by
  simp [accepts, given]

/-- An arrival that is admitted adds its edge, if not held already; one that is not admitted
changes no edge. -/
theorem keys_add (o : Observation) (now : Instant) :
    (a.add o now).keys =
      if a.accepts o then
        if EdgeKey.of o ∈ a.keys then a.keys else a.keys ++ [EdgeKey.of o]
      else a.keys := by
  have ofKey : (⟨o.srcHost, o.destHost, o.jobId⟩ : EdgeKey) = EdgeKey.of o := rfl
  unfold add
  simp only [accepts_counted, ofKey]
  by_cases admitted : a.accepts o = true
  · simp only [admitted, Bool.not_true, Bool.false_eq_true, if_false, if_true]
    have held : (a.edges.any fun e => e.1 == EdgeKey.of o) = true ↔ EdgeKey.of o ∈ a.keys := by
      rw [List.any_eq_true]
      simp only [beq_iff_eq, keys, List.mem_map]
    by_cases present : EdgeKey.of o ∈ a.keys
    · -- the edge's outcomes change, and no edge is added
      rw [if_pos (held.2 present), if_pos present]
      simp only [keys, List.map_map]
      congr 1
      funext e
      simp only [Function.comp]
      split <;> rfl
    · rw [if_neg (fun found => present (held.1 found)), if_neg present]
      simp [keys]
  · simp only [admitted, Bool.not_false, if_true, Bool.false_eq_true, if_false]
    rfl

/-- An edge held after an arrival was held before, or is the arrival's own and was admitted. -/
theorem mem_keys_add {o : Observation} {now : Instant} {k : EdgeKey}
    (held : k ∈ (a.add o now).keys) : k ∈ a.keys ∨ (a.accepts o = true ∧ k = EdgeKey.of o) := by
  rw [keys_add] at held
  split_ifs at held with admitted present
  · exact .inl held
  · rcases List.mem_append.1 held with old | new
    · exact .inl old
    · exact .inr ⟨admitted, List.mem_singleton.1 new⟩
  · exact .inl held

/-- Replacing the valid edges keeps the edges of valid jobs and destinations. -/
theorem keys_updateValidEdges (v : ValidEdges) :
    (a.updateValidEdges v).keys =
      a.keys.filter fun k => v.jobIds.contains k.jobId && v.destHosts.contains k.dest := by
  simp only [keys, updateValidEdges, List.filter_map]
  rfl

/-- Summarizing only forgets edges. -/
theorem keys_summarize_sublist (now : Instant) : ((a.summarize now).1.keys).Sublist a.keys := by
  simp only [keys, summarize]
  have same : (a.edges.map fun (e : EdgeKey × History) => (e.1, e.2.expire (a.cutoff now))).map
      (·.1) = a.edges.map (·.1) := by
    rw [List.map_map]
    rfl
  rw [← same]
  exact List.filter_sublist.map _

/-- Every summary is of an edge held. -/
theorem key_of_mem_summarize {now : Instant} {s : EdgeSummary} (held : s ∈ (a.summarize now).2) :
    (⟨s.src, s.dest, s.jobId⟩ : EdgeKey) ∈ a.keys := by
  simp only [summarize, List.mem_mergeSort, List.mem_filterMap, List.mem_map] at held
  obtain ⟨_, ⟨⟨k, h⟩, kept, rfl⟩, summarized⟩ := held
  simp only [summaryOf, Option.map_eq_some_iff] at summarized
  obtain ⟨_, -, rfl⟩ := summarized
  exact List.mem_map_of_mem kept

/-- A report leaves the aggregator as summarizing does. -/
theorem report_fst (now : Instant) (d : Files.Dir) : (a.report now d).1 = (a.summarize now).1 := by
  unfold report
  split
  rename_i b summaries summarized
  dsimp only
  split <;> simp [summarized]

/-- Every entry of a report is one of the summaries. -/
theorem mem_summarize_of_report {now : Instant} {d : Files.Dir} {r : Report}
    (written : (a.report now d).2.2 = .ok r) : ∀ s ∈ r.unhealthy, s ∈ (a.summarize now).2 := by
  unfold report at written
  split at written
  rename_i b summaries summarized
  dsimp only at written
  split at written
  · cases written
  · simp only [Except.ok.injEq] at written
    subst written
    intro s held
    rw [summarized]
    exact (List.mem_filter.1 held).1

end Operations

/-! ## Runs of events -/

/-- What the aggregator hears: an observation arriving at a time, the edges now valid, or a
summary asked for at a time (a report leaves the aggregator as a summary does,
`report_fst`). -/
inductive Event where
  | add (o : Observation) (now : Instant)
  | update (v : ValidEdges)
  | summarize (now : Instant)

/-- The aggregator after one event. -/
def step (a : Aggregator) : Event → Aggregator
  | .add o now => a.add o now
  | .update v => a.updateValidEdges v
  | .summarize now => (a.summarize now).1

/-- The aggregator after events, in order. -/
def run (a : Aggregator) (events : List Event) : Aggregator := events.foldl step a

/-- The edge an event may open: an arrival's. -/
def Event.opens : Event → List EdgeKey
  | .add o _ => [EdgeKey.of o]
  | _ => []

/-- No events leave the aggregator as it is. -/
@[simp] theorem run_nil (a : Aggregator) : a.run [] = a := rfl

/-- Events are applied one after the other, the first first. -/
@[simp] theorem run_cons (a : Aggregator) (e : Event) (events : List Event) :
    a.run (e :: events) = (a.step e).run events := rfl

/-- Since the valid edges `v` were given: they are still the valid ones, every edge held is of
a job of `v`, and of a destination of `v` unless it is among the edges opened since
(`fresh`). -/
structure Pruned (v : ValidEdges) (fresh : List EdgeKey) (a : Aggregator) : Prop where
  valid : a.valid = some v
  jobs : ∀ k ∈ a.keys, k.jobId ∈ v.jobIds
  dests : ∀ k ∈ a.keys, k.dest ∈ v.destHosts ∨ k ∈ fresh

namespace Pruned

variable {v : ValidEdges} {fresh : List EdgeKey} {a : Aggregator}

/-- Giving the valid edges prunes the edges held to them. -/
theorem update (a : Aggregator) (v : ValidEdges) : Pruned v [] (a.updateValidEdges v) := by
  refine ⟨rfl, fun k held => ?_, fun k held => ?_⟩ <;>
  · rw [keys_updateValidEdges] at held
    simp only [List.mem_filter, Bool.and_eq_true, List.contains_iff_mem] at held
    simp [held]

/-- The step lemma: an event that does not replace the valid edges keeps the invariant, with
the edge it opens counted as fresh. An arrival is admitted only for a valid job; summarizing
only forgets edges. -/
theorem step (pruned : Pruned v fresh a) {e : Event} (notUpdate : ∀ w, e ≠ .update w) :
    Pruned v (fresh ++ e.opens) (a.step e) := by
  cases e with
  | add o now =>
    refine ⟨by simp [Aggregator.step, pruned.valid], fun k held => ?_, fun k held => ?_⟩
    · rcases mem_keys_add a held with old | ⟨admitted, rfl⟩
      · exact pruned.jobs k old
      · exact (accepts_iff a pruned.valid o).1 admitted
    · rcases mem_keys_add a held with old | ⟨-, rfl⟩
      · exact (pruned.dests k old).imp_right (List.mem_append_left _)
      · exact .inr (List.mem_append_right _ (by simp [Event.opens]))
  | update w => exact absurd rfl (notUpdate w)
  | summarize now =>
    have kept : ∀ k ∈ (a.summarize now).1.keys, k ∈ a.keys := fun k held =>
      (keys_summarize_sublist a now).subset held
    refine ⟨pruned.valid, fun k held => pruned.jobs k (kept k held), fun k held => ?_⟩
    simpa [Event.opens] using pruned.dests k (kept k held)

/-- The run lemma: events that do not replace the valid edges keep the invariant, with the
edges they open counted as fresh. -/
theorem run (pruned : Pruned v fresh a) {events : List Event}
    (untilNext : ∀ w, Event.update w ∉ events) :
    Pruned v (fresh ++ events.flatMap Event.opens) (a.run events) := by
  induction events generalizing fresh a with
  | nil => simpa using pruned
  | cons e rest inductionHypothesis =>
    have notUpdate : ∀ w, e ≠ .update w := fun w same => untilNext w (same ▸ List.mem_cons_self)
    have later := inductionHypothesis (pruned.step notUpdate)
      fun w held => untilNext w (List.mem_cons_of_mem e held)
    simpa [List.append_assoc] using later

end Pruned

/-- The edges events open are those of their arrivals. -/
theorem mem_flatMap_opens {events : List Event} {k : EdgeKey} :
    k ∈ events.flatMap Event.opens ↔ ∃ o now, Event.add o now ∈ events ∧ EdgeKey.of o = k := by
  simp only [List.mem_flatMap]
  constructor
  · rintro ⟨e, held, opened⟩
    cases e with
    | add o now => exact ⟨o, now, held, (List.mem_singleton.1 opened).symm⟩
    | update w => simp [Event.opens] at opened
    | summarize now => simp [Event.opens] at opened
  · rintro ⟨o, now, held, rfl⟩
    exact ⟨_, held, List.mem_singleton_self _⟩

/-! ## The edges held after the valid edges are given -/

/-- Once the valid edges `v` are given, and until they are replaced, every edge held is of a job
of `v`, and of a destination of `v` unless an observation of that very edge arrived since:
arrivals are admitted on their job alone. -/
theorem held_edges_after_update (a : Aggregator) (v : ValidEdges) (events : List Event)
    (untilNext : ∀ w, Event.update w ∉ events) {k : EdgeKey}
    (held : k ∈ ((a.updateValidEdges v).run events).keys) :
    k.jobId ∈ v.jobIds ∧
      (k.dest ∈ v.destHosts ∨ ∃ o now, Event.add o now ∈ events ∧ EdgeKey.of o = k) := by
  have pruned := (Pruned.update a v).run untilNext
  refine ⟨pruned.jobs k held, ?_⟩
  rcases pruned.dests k held with valid | fresh
  · exact .inl valid
  · exact .inr (mem_flatMap_opens.1 (by simpa using fresh))

/-- The summaries, and so the report entries, of an aggregator given the valid edges `v`
are of jobs of `v`, and of destinations of `v` unless an observation of that edge arrived
since. -/
theorem summaries_after_update (a : Aggregator) (v : ValidEdges) (events : List Event)
    (untilNext : ∀ w, Event.update w ∉ events) (now : Instant) {s : EdgeSummary}
    (summarized : s ∈ (((a.updateValidEdges v).run events).summarize now).2) :
    s.jobId ∈ v.jobIds ∧ (s.dest ∈ v.destHosts ∨ ∃ o t, Event.add o t ∈ events ∧
      o.srcHost = s.src ∧ o.destHost = s.dest ∧ o.jobId = s.jobId) := by
  obtain ⟨job, dest⟩ := held_edges_after_update a v events untilNext
    (key_of_mem_summarize _ summarized)
  refine ⟨job, dest.imp_right ?_⟩
  rintro ⟨o, t, arrived, same⟩
  simp only [EdgeKey.of, EdgeKey.mk.injEq] at same
  exact ⟨o, t, arrived, same⟩

/-- Every entry of a report written by an aggregator given the valid edges `v` is of a job of
`v`, and of a destination of `v` unless an observation of that edge arrived since. -/
theorem report_entries_after_update (a : Aggregator) (v : ValidEdges) (events : List Event)
    (untilNext : ∀ w, Event.update w ∉ events) {now : Instant} {d : Files.Dir} {r : Report}
    (written : (((a.updateValidEdges v).run events).report now d).2.2 = .ok r) {s : EdgeSummary}
    (listed : s ∈ r.unhealthy) :
    s.jobId ∈ v.jobIds ∧ (s.dest ∈ v.destHosts ∨ ∃ o t, Event.add o t ∈ events ∧
      o.srcHost = s.src ∧ o.destHost = s.dest ∧ o.jobId = s.jobId) :=
  summaries_after_update a v events untilNext now (mem_summarize_of_report _ written s listed)

/-- When every observation of a valid job that arrives after the valid edges `v` are given
has a destination of `v`, every edge held is an edge of `v`. -/
theorem pruned_while_arrivals_valid (a : Aggregator) (v : ValidEdges) (events : List Event)
    (untilNext : ∀ w, Event.update w ∉ events)
    (arrivals : ∀ o now, Event.add o now ∈ events → o.jobId ∈ v.jobIds → o.destHost ∈ v.destHosts)
    {k : EdgeKey} (held : k ∈ ((a.updateValidEdges v).run events).keys) :
    k.jobId ∈ v.jobIds ∧ k.dest ∈ v.destHosts := by
  obtain ⟨job, dest⟩ := held_edges_after_update a v events untilNext held
  refine ⟨job, ?_⟩
  rcases dest with valid | ⟨o, now, arrived, rfl⟩
  · exact valid
  · exact arrivals o now arrived job

/-- A fresh aggregator with the agent's default report period and window. -/
def hostAggregator : Aggregator :=
  { reportPeriod := Elapsed.ofSeconds 60, window := Elapsed.ofSeconds 1800,
    reportFile := ["log", "aggregation-host.json"], hostNetwork := true }

/-- Told that only job `j1` towards `node-b` is valid, the aggregator still takes in an
observation of `j1` towards `node-c`, and holds that edge. -/
theorem stale_destination_held_after_update :
    ((hostAggregator.updateValidEdges ⟨["j1"], ["node-a"], ["node-b"]⟩).run
      [.add ⟨"node-a", "node-c", some ⟨4102444800, 0⟩, none, true, "j1", ""⟩ ⟨4102444800, 0⟩]).keys =
      [⟨"node-a", "node-c", "j1"⟩] := by
  decide

end Aggregator

end Reachability.Agent
