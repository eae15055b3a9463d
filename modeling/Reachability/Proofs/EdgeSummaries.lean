import Mathlib
import Reachability.Proofs.EdgePruning
import Reachability.Proofs.EdgeHistory

/-!
# Edge summaries are exact

What a summary should report is said by a `Ledger`: the valid edges the aggregator was given,
and for every edge the outcomes that still count, in the order they arrived. An admitted
arrival is appended to its edge, whose outcomes are then kept from the arrival's cutoff on;
new valid edges clear every other edge; a summary keeps, on every edge, the outcomes from its
cutoff on. The ledger knows nothing of time order, of expiring from the front, or of which
edges are held.

The aggregator keeps each edge's outcomes sorted by time and forgets edges. `Tracks` relates
the two: each edge held once, its history in time order and, time by time, the ledger's
outcomes; every edge not held has none. Every event keeps it (`Tracks.step`, one lemma per
event), so every run from a fresh aggregator does (`Tracks.run`).

Main statement, `summaries_are_exact`: after any events, the summaries at `now` come in
strictly increasing order of edge, one for each edge with an outcome that counts at `now`;
each gives the numbers of successes and failures among those outcomes, their latest time and
whether the last one of that time to arrive succeeded; afterwards the edges held are exactly
those; and a report lists the summaries with failures.
-/

namespace Reachability.Agent

open Reachability.Time
open Reachability.Probe
open Reachability.Agent.History

/-! ## What the summaries should say -/

/-- The edge a summary is of. -/
def EdgeSummary.key (s : EdgeSummary) : EdgeKey := ⟨s.src, s.dest, s.jobId⟩

/-- Edges in strictly increasing order: by source, then destination, then job. -/
def EdgeKey.lt (a b : EdgeKey) : Prop :=
  a.src < b.src ∨ (a.src = b.src ∧ (a.dest < b.dest ∨ (a.dest = b.dest ∧ a.jobId < b.jobId)))

/-- A summary of some outcomes: how many succeeded and how many failed, their latest time, and
whether the last of them to arrive at that time succeeded. -/
structure EdgeSummary.Summarizes (s : EdgeSummary) (outcomes : History) : Prop where
  okCount : s.okCount = outcomes.countP (·.2)
  failedCount : s.failedCount = outcomes.countP (!·.2)
  latest : ∀ x ∈ outcomes, x.1 ≤ s.lastSeen
  lastAdded : (outcomes.filter (·.1 = s.lastSeen)).getLast? = some (s.lastSeen, s.lastOk)

/-- What the aggregator should know: the valid edges it was given, and for every edge the
outcomes that still count, in the order they arrived. -/
structure Ledger where
  valid : Option ValidEdges
  outcomes : EdgeKey → History

namespace Ledger

/-- No outcome yet. -/
def empty (valid : Option ValidEdges) : Ledger := ⟨valid, fun _ => []⟩

/-- An observation counts while no valid edges are known, or when its job is valid. -/
def admits (l : Ledger) (o : Observation) : Bool := l.valid.all fun v => decide (o.jobId ∈ v.jobIds)

/-- The ledger after one event, `cutoff now` being the oldest time that counts at `now`. -/
def step (cutoff : Instant → Instant) (l : Ledger) : Aggregator.Event → Ledger
  | .add o now =>
    if l.admits o then
      { l with
        outcomes := Function.update l.outcomes (EdgeKey.of o)
          (since (l.outcomes (EdgeKey.of o) ++ [(o.time, o.ok)]) (cutoff now)) }
    else l
  | .update v =>
    { valid := some v,
      outcomes := fun k => if k.jobId ∈ v.jobIds ∧ k.dest ∈ v.destHosts then l.outcomes k else [] }
  | .summarize now => { l with outcomes := fun k => since (l.outcomes k) (cutoff now) }

/-- The ledger after events, in order. -/
def run (cutoff : Instant → Instant) (l : Ledger) (events : List Aggregator.Event) : Ledger :=
  events.foldl (step cutoff) l

/-- An arrival leaves the ledger's valid edges as they were. -/
theorem valid_step_add (cutoff : Instant → Instant) (l : Ledger) (o : Observation) (now : Instant) :
    (l.step cutoff (.add o now)).valid = l.valid := by
  simp only [step]
  split <;> rfl

/-- An arrival the ledger does not admit changes nothing. -/
theorem step_add_of_admits_eq_false {cutoff : Instant → Instant} {l : Ledger} {o : Observation}
    (refused : l.admits o = false) (now : Instant) : l.step cutoff (.add o now) = l := by
  simp [step, refused]

/-- An admitted arrival is appended to its edge, which then keeps its outcomes from the
arrival's cutoff on. -/
theorem outcomes_step_add_self {cutoff : Instant → Instant} {l : Ledger} {o : Observation}
    (admitted : l.admits o = true) (now : Instant) :
    (l.step cutoff (.add o now)).outcomes (EdgeKey.of o) =
      since (l.outcomes (EdgeKey.of o) ++ [(o.time, o.ok)]) (cutoff now) := by
  simp [step, admitted]

/-- An arrival changes no other edge. -/
theorem outcomes_step_add_of_ne (cutoff : Instant → Instant) (l : Ledger) {o : Observation}
    (now : Instant) {k : EdgeKey} (different : k ≠ EdgeKey.of o) :
    (l.step cutoff (.add o now)).outcomes k = l.outcomes k := by
  simp only [step]
  split
  · exact Function.update_of_ne different _ _
  · rfl

/-- No events leave the ledger as it is. -/
@[simp] theorem run_nil (cutoff : Instant → Instant) (l : Ledger) : l.run cutoff [] = l := rfl

/-- Events are applied one after the other, the first first. -/
@[simp] theorem run_cons (cutoff : Instant → Instant) (l : Ledger) (e : Aggregator.Event)
    (events : List Aggregator.Event) :
    l.run cutoff (e :: events) = (l.step cutoff e).run cutoff events := rfl

end Ledger

namespace Aggregator

/-- The outcomes of edge `k` that count at `now`, after `events` from `a`, in the order they
arrived. -/
def retained (a : Aggregator) (events : List Event) (now : Instant) (k : EdgeKey) : History :=
  since (((Ledger.empty a.valid).run a.cutoff events).outcomes k) (a.cutoff now)

end Aggregator

/-! ## The order of edges -/

namespace EdgeKey

/-- Edges are ordered by source, then destination, then job. -/
theorem le_iff {a b : EdgeKey} : a.le b = true ↔
    a.src < b.src ∨ (a.src = b.src ∧ (a.dest < b.dest ∨ (a.dest = b.dest ∧ a.jobId ≤ b.jobId))) := by
  simp [EdgeKey.le]

/-- The order of edges is transitive. -/
theorem le_trans {a b c : EdgeKey} (first : a.le b = true) (second : b.le c = true) :
    a.le c = true := by
  rw [le_iff] at *
  grind

/-- Any two edges are ordered one way or the other, so the summaries can be sorted by edge. -/
theorem le_total (a b : EdgeKey) : (a.le b || b.le a) = true := by
  rw [Bool.or_eq_true, le_iff, le_iff]
  grind

/-- Two different edges in order are in strictly increasing order. -/
theorem lt_of_le_of_ne {a b : EdgeKey} (le : a.le b = true) (different : a ≠ b) : a.lt b := by
  rw [le_iff] at le
  unfold EdgeKey.lt
  cases a
  cases b
  grind

end EdgeKey

/-! ## One summary -/

namespace Aggregator

/-- A summary of an edge's history names that edge. -/
theorem key_of_summaryOf {k : EdgeKey} {h : History} {s : EdgeSummary}
    (summarized : summaryOf k h = some s) : s.key = k := by
  simp only [summaryOf, Option.map_eq_some_iff] at summarized
  obtain ⟨_, _, rfl⟩ := summarized
  rfl

/-- An edge's history has no summary exactly when it is empty. -/
theorem summaryOf_eq_none_iff {k : EdgeKey} {h : History} : summaryOf k h = none ↔ h = [] := by
  simp [summaryOf]

/-- The summary of a history in time order summarizes every history with the same outcomes at
each time. -/
theorem summaryOf_summarizes {k : EdgeKey} {h outcomes : History} (sorted : Sorted h)
    (same : SameTimes h outcomes) {s : EdgeSummary} (summarized : summaryOf k h = some s) :
    s.Summarizes outcomes := by
  simp only [summaryOf, Option.map_eq_some_iff] at summarized
  obtain ⟨last, ends, rfl⟩ := summarized
  have perm := same.perm
  have okCount : (h.filter (·.2)).length = outcomes.countP (·.2) := by
    rw [← List.countP_eq_length_filter, perm.countP_eq]
  refine ⟨okCount, ?_, fun x held => le_of_getLast? sorted ends x (perm.mem_iff.2 held), ?_⟩
  · have split := List.length_eq_countP_add_countP (l := outcomes) fun x : Instant × Bool => x.2
    have failed : (outcomes.countP fun x => decide ¬x.2 = true) = outcomes.countP (!·.2) := by
      simp
    show h.length - (h.filter (·.2)).length = _
    rw [okCount, perm.length_eq]
    omega
  · rw [← same last.1]
    exact getLast?_filter_time ends

/-! ## What each event does to the edges held -/

section Operations

variable (a : Aggregator)

/-- The cutoffs depend only on the window. -/
theorem cutoff_eq_of_window {b : Aggregator} (same : b.window = a.window) : b.cutoff = a.cutoff := by
  funext now
  simp only [cutoff, same]

/-- No event changes the window. -/
theorem window_step (e : Event) : (a.step e).window = a.window := by
  cases e with
  | add o now =>
    simp only [step, add]
    split_ifs <;> rfl
  | update v => rfl
  | summarize now => rfl

/-- With the same valid edges, the ledger admits exactly the observations the aggregator accepts. -/
theorem admits_eq_accepts {l : Ledger} (same : a.valid = l.valid) (o : Observation) :
    l.admits o = a.accepts o := by
  unfold Ledger.admits accepts
  rw [← same]
  cases a.valid <;> simp

/-- An admitted arrival adds its outcome to its edge's history and expires it at its cutoff,
opening the edge if new; one not admitted changes no edge. -/
theorem edges_add (o : Observation) (now : Instant) :
    (a.add o now).edges =
      if a.accepts o then
        if EdgeKey.of o ∈ a.keys then
          a.edges.map fun e =>
            if e.1 = EdgeKey.of o then (e.1, (e.2.insert o.time o.ok).expire (a.cutoff now)) else e
        else a.edges ++ [(EdgeKey.of o, (History.insert [] o.time o.ok).expire (a.cutoff now))]
      else a.edges := by
  have ofKey : (⟨o.srcHost, o.destHost, o.jobId⟩ : EdgeKey) = EdgeKey.of o := rfl
  unfold add
  simp only [accepts_counted, ofKey]
  by_cases admitted : a.accepts o = true
  · simp only [admitted, Bool.not_true, Bool.false_eq_true, if_false, if_true]
    have held : (a.edges.any fun e => e.1 == EdgeKey.of o) = true ↔ EdgeKey.of o ∈ a.keys := by
      rw [List.any_eq_true]
      simp only [beq_iff_eq, keys, List.mem_map]
    by_cases present : EdgeKey.of o ∈ a.keys
    · rw [if_pos (held.2 present), if_pos present]
      apply List.map_congr_left
      intro e _
      simp only [beq_iff_eq]
      split <;> rfl
    · rw [if_neg (fun found => present (held.1 found)), if_neg present]
      rfl
  · simp only [admitted, Bool.not_false, if_true, Bool.false_eq_true, if_false]

/-- Every edge key held has its history among the edges. -/
theorem mem_edges_of_mem_keys {k : EdgeKey} (held : k ∈ a.keys) : ∃ h, (k, h) ∈ a.edges := by
  obtain ⟨e, member, rfl⟩ := List.mem_map.1 held
  exact ⟨e.2, member⟩

/-- A summary expires every history at the cutoff and drops the edges left empty. -/
theorem edges_summarize (now : Instant) :
    (a.summarize now).1.edges =
      (a.edges.map fun e => (e.1, e.2.expire (a.cutoff now))).filter fun e => !e.2.isEmpty := rfl

/-- An edge is held after a summary exactly when it was held before and its history, expired at the
cutoff, is not empty. -/
theorem mem_edges_summarize {now : Instant} {e : EdgeKey × History} :
    e ∈ (a.summarize now).1.edges ↔
      ∃ d ∈ a.edges, e = (d.1, d.2.expire (a.cutoff now)) ∧ e.2 ≠ [] := by
  rw [edges_summarize]
  simp only [List.mem_filter, List.mem_map, Bool.not_eq_true', List.isEmpty_eq_false_iff]
  constructor
  · rintro ⟨⟨d, held, rfl⟩, nonempty⟩
    exact ⟨d, held, rfl, nonempty⟩
  · rintro ⟨d, held, rfl, nonempty⟩
    exact ⟨⟨d, held, rfl⟩, nonempty⟩

/-- The summaries are those of the expired histories, sorted by edge. -/
theorem summaries_eq (now : Instant) :
    (a.summarize now).2 =
      ((a.edges.map fun e => (e.1, e.2.expire (a.cutoff now))).filterMap
        fun e => summaryOf e.1 e.2).mergeSort fun s t => s.key.le t.key := rfl

/-- A summary is among the summaries exactly when it is the summary of some edge's history expired
at the cutoff. -/
theorem mem_summaries {now : Instant} {s : EdgeSummary} :
    s ∈ (a.summarize now).2 ↔ ∃ e ∈ a.edges, summaryOf e.1 (e.2.expire (a.cutoff now)) = some s := by
  simp only [summarize, List.mem_mergeSort, List.mem_filterMap, List.mem_map]
  constructor
  · rintro ⟨_, ⟨e, held, rfl⟩, summarized⟩
    exact ⟨e, held, summarized⟩
  · rintro ⟨e, held, summarized⟩
    exact ⟨_, ⟨e, held, rfl⟩, summarized⟩

/-- A report lists the summaries with failures. -/
theorem unhealthy_report {now : Instant} {d : Files.Dir} {r : Report}
    (written : (a.report now d).2.2 = .ok r) :
    r.unhealthy = (a.summarize now).2.filter fun s => s.failedCount > 0 := by
  unfold report at written
  split at written
  rename_i b summaries summarized
  dsimp only at written
  split at written
  · cases written
  · simp only [Except.ok.injEq] at written
    subst written
    rw [summarized]

end Operations

/-! ## The aggregator tracks the ledger -/

/-- The aggregator holds what a ledger says, `cut` being its cutoffs: the same valid edges, each
edge once, each edge's history in time order with the ledger's outcomes at every time, and no
outcome for an edge not held. -/
structure Tracks (cut : Instant → Instant) (l : Ledger) (a : Aggregator) : Prop where
  valid : a.valid = l.valid
  cutoff : a.cutoff = cut
  nodup : a.keys.Nodup
  sorted : ∀ e ∈ a.edges, Sorted e.2
  same : ∀ e ∈ a.edges, SameTimes e.2 (l.outcomes e.1)
  absent : ∀ k ∉ a.keys, l.outcomes k = []

namespace Tracks

variable {cut : Instant → Instant} {l : Ledger} {a : Aggregator}

/-- A fresh aggregator holds what an empty ledger says. -/
theorem start (fresh : a.edges = []) : Tracks a.cutoff (Ledger.empty a.valid) a where
  valid := rfl
  cutoff := rfl
  nodup := by simp [keys, fresh]
  sorted := by simp [fresh]
  same := by simp [fresh]
  absent := fun _ _ => rfl

/-- An edge with an outcome in the ledger is held. -/
theorem mem_keys_of_ne_nil (tracks : Tracks cut l a) {k : EdgeKey} (some : l.outcomes k ≠ []) :
    k ∈ a.keys :=
  Classical.byContradiction fun absent => some (tracks.absent k absent)

/-- Expiring a history held keeps, time by time, the ledger's outcomes from the cutoff on. -/
theorem expired (tracks : Tracks cut l a) (now : Instant) {e : EdgeKey × History}
    (held : e ∈ a.edges) : SameTimes (e.2.expire (a.cutoff now)) (since (l.outcomes e.1) (cut now)) := by
  rw [expire_eq_since (tracks.sorted e held), tracks.cutoff]
  exact (tracks.same e held).since _

section Arrival

variable (tracks : Tracks cut l a) {o : Observation} (now : Instant)
include tracks

/-- An arrival gives aggregator and ledger the same valid edges. -/
theorem valid_add : (a.add o now).valid = (l.step cut (.add o now)).valid := by
  rw [Aggregator.valid_add, Ledger.valid_step_add, tracks.valid]

/-- An arrival keeps the aggregator's cutoffs. -/
theorem cutoff_add : (a.add o now).cutoff = cut :=
  (cutoff_eq_of_window a (window_step a (.add o now))).trans tracks.cutoff

/-- An admitted arrival to an edge held in time order gives it, time by time, the ledger's new
outcomes. -/
theorem arrival (accepted : a.accepts o = true) {h : History}
    (same : SameTimes h (l.outcomes (EdgeKey.of o))) (sorted : Sorted h) :
    SameTimes ((h.insert o.time o.ok).expire (a.cutoff now))
      ((l.step cut (.add o now)).outcomes (EdgeKey.of o)) := by
  rw [Ledger.outcomes_step_add_self ((admits_eq_accepts a tracks.valid o).trans accepted),
    ← tracks.cutoff]
  exact sameTimes_arrival sorted same _ _ _

/-- An arrival that is not admitted changes nothing. -/
theorem add_refused (refused : a.accepts o = false) :
    Tracks cut (l.step cut (.add o now)) (a.add o now) := by
  have keys := keys_add a o now
  have edges := edges_add a o now
  simp only [refused, Bool.false_eq_true, if_false] at keys edges
  rw [Ledger.step_add_of_admits_eq_false ((admits_eq_accepts a tracks.valid o).trans refused)]
  exact ⟨(Aggregator.valid_add a o now).trans tracks.valid, tracks.cutoff_add now,
    keys ▸ tracks.nodup, edges ▸ tracks.sorted, edges ▸ tracks.same, keys ▸ tracks.absent⟩

/-- An admitted arrival to an edge held changes that edge's history only. -/
theorem add_held (accepted : a.accepts o = true) (present : EdgeKey.of o ∈ a.keys) :
    Tracks cut (l.step cut (.add o now)) (a.add o now) := by
  have keys := keys_add a o now
  have edges := edges_add a o now
  simp only [accepted, present, if_true] at keys edges
  refine ⟨tracks.valid_add now, tracks.cutoff_add now, keys ▸ tracks.nodup, ?_, ?_, ?_⟩
  · rw [edges]
    intro e held
    obtain ⟨d, member, rfl⟩ := List.mem_map.1 held
    split
    · exact sorted_arrival (tracks.sorted d member) _ _ _
    · exact tracks.sorted d member
  · rw [edges]
    intro e held
    obtain ⟨d, member, rfl⟩ := List.mem_map.1 held
    split
    next same =>
      rw [same]
      exact tracks.arrival now accepted (same ▸ tracks.same d member) (tracks.sorted d member)
    next different =>
      rw [Ledger.outcomes_step_add_of_ne _ _ _ different]
      exact tracks.same d member
  · intro k notHeld
    rw [keys] at notHeld
    have different : k ≠ EdgeKey.of o := fun same => notHeld (same ▸ present)
    rw [Ledger.outcomes_step_add_of_ne _ _ _ different]
    exact tracks.absent k notHeld

/-- An admitted arrival to an edge not held opens it, with the arrival's outcome alone. -/
theorem add_opened (accepted : a.accepts o = true) (absent : EdgeKey.of o ∉ a.keys) :
    Tracks cut (l.step cut (.add o now)) (a.add o now) := by
  have keys := keys_add a o now
  have edges := edges_add a o now
  simp only [accepted, absent, if_true, if_false] at keys edges
  refine ⟨tracks.valid_add now, tracks.cutoff_add now, ?_, ?_, ?_, ?_⟩
  · rw [keys]
    exact List.nodup_append.2 ⟨tracks.nodup, List.nodup_singleton _,
      fun k held k' new same => absent (List.mem_singleton.1 new ▸ same ▸ held)⟩
  · rw [edges]
    intro e held
    rcases List.mem_append.1 held with old | new
    · exact tracks.sorted e old
    · rw [List.mem_singleton.1 new]
      exact sorted_arrival List.Pairwise.nil _ _ _
  · rw [edges]
    intro e held
    rcases List.mem_append.1 held with old | new
    · have different : e.1 ≠ EdgeKey.of o := fun same => absent (same ▸ List.mem_map_of_mem old)
      rw [Ledger.outcomes_step_add_of_ne _ _ _ different]
      exact tracks.same e old
    · rw [List.mem_singleton.1 new]
      exact tracks.arrival now accepted (tracks.absent _ absent ▸ SameTimes.refl [])
        List.Pairwise.nil
  · intro k notHeld
    rw [keys, List.mem_append, not_or, List.mem_singleton] at notHeld
    rw [Ledger.outcomes_step_add_of_ne _ _ _ notHeld.2]
    exact tracks.absent k notHeld.1

/-- The step lemma for an arrival, admitted or not, to an edge held or new. -/
theorem add : Tracks cut (l.step cut (.add o now)) (a.add o now) := by
  cases accepted : a.accepts o with
  | false => exact tracks.add_refused now accepted
  | true =>
    by_cases present : EdgeKey.of o ∈ a.keys
    · exact tracks.add_held now accepted present
    · exact tracks.add_opened now accepted present

end Arrival

/-- The step lemma for new valid edges: the aggregator keeps the edges of valid job and destination,
as the ledger does. -/
theorem update (tracks : Tracks cut l a) (v : ValidEdges) :
    Tracks cut (l.step cut (.update v)) (a.updateValidEdges v) := by
  have keys := keys_updateValidEdges a v
  have member : ∀ e ∈ (a.updateValidEdges v).edges,
      e ∈ a.edges ∧ e.1.jobId ∈ v.jobIds ∧ e.1.dest ∈ v.destHosts := fun e held => by
    simpa [updateValidEdges, List.contains_iff_mem] using held
  refine ⟨rfl, (cutoff_eq_of_window a rfl).trans tracks.cutoff, keys ▸ tracks.nodup.filter _,
    fun e held => tracks.sorted e (member e held).1, fun e held => ?_, fun k notHeld => ?_⟩
  · obtain ⟨old, valid⟩ := member e held
    simp only [Ledger.step, valid, and_self, if_true]
    exact tracks.same e old
  · simp only [Ledger.step]
    split
    next valid =>
      -- an edge of valid job and destination is held if it was held before
      have notOld : k ∉ a.keys := fun old => notHeld (by
        rw [keys, List.mem_filter]
        simpa [List.contains_iff_mem] using And.intro old valid)
      exact tracks.absent k notOld
    next => rfl

/-- The step lemma for a summary: every history held is expired at the cutoff, the empty ones
dropped, as the ledger keeps the outcomes from the cutoff on. -/
theorem summarize (tracks : Tracks cut l a) (now : Instant) :
    Tracks cut (l.step cut (.summarize now)) (a.summarize now).1 := by
  refine ⟨tracks.valid, (cutoff_eq_of_window a rfl).trans tracks.cutoff,
    tracks.nodup.sublist (keys_summarize_sublist a now), fun e held => ?_, fun e held => ?_,
    fun k notHeld => ?_⟩
  · obtain ⟨d, member, rfl, -⟩ := (mem_edges_summarize a).1 held
    exact sorted_expire (tracks.sorted d member) _
  · obtain ⟨d, member, rfl, -⟩ := (mem_edges_summarize a).1 held
    exact tracks.expired now member
  · simp only [Ledger.step]
    by_cases old : k ∈ a.keys
    · -- the edge was held, and summarizing forgot it: nothing of it counts any more
      obtain ⟨h, member⟩ := mem_edges_of_mem_keys a old
      have empty : h.expire (a.cutoff now) = [] := Classical.byContradiction fun nonempty =>
        notHeld (List.mem_map.2 ⟨(k, h.expire (a.cutoff now)),
          (mem_edges_summarize a).2 ⟨(k, h), member, rfl, nonempty⟩, rfl⟩)
      exact (tracks.expired now member).eq_nil_iff.1 empty
    · rw [tracks.absent k old]
      rfl

/-- The step lemma: every event keeps the aggregator tracking the ledger. -/
theorem step (tracks : Tracks cut l a) (e : Event) : Tracks cut (l.step cut e) (a.step e) := by
  cases e with
  | add o now => exact tracks.add now
  | update v => exact tracks.update v
  | summarize now => exact tracks.summarize now

/-- The run lemma: so does every run of events. -/
theorem run (tracks : Tracks cut l a) (events : List Event) :
    Tracks cut (l.run cut events) (a.run events) := by
  induction events generalizing l a with
  | nil => exact tracks
  | cons e rest inductionHypothesis => exact inductionHypothesis (tracks.step e)

/-! ## The summaries of an aggregator tracking a ledger -/

/-- Every summary summarizes the outcomes of its edge that count at `now`. -/
theorem summarizes (tracks : Tracks cut l a) (now : Instant) :
    ∀ s ∈ (a.summarize now).2, s.Summarizes (since (l.outcomes s.key) (cut now)) := by
  intro s held
  obtain ⟨e, member, summarized⟩ := (mem_summaries a).1 held
  rw [key_of_summaryOf summarized]
  exact summaryOf_summarizes (sorted_expire (tracks.sorted e member) _)
    (tracks.expired now member) summarized

/-- There is a summary of an edge exactly when some of its outcomes count at `now`. -/
theorem exists_summary_iff (tracks : Tracks cut l a) (now : Instant) (k : EdgeKey) :
    (∃ s ∈ (a.summarize now).2, s.key = k) ↔ since (l.outcomes k) (cut now) ≠ [] := by
  constructor
  · rintro ⟨s, held, rfl⟩
    obtain ⟨e, member, summarized⟩ := (mem_summaries a).1 held
    have nonempty : e.2.expire (a.cutoff now) ≠ [] := fun empty => by
      rw [summaryOf_eq_none_iff.2 empty] at summarized
      cases summarized
    rw [key_of_summaryOf summarized]
    exact fun empty => nonempty ((tracks.expired now member).eq_nil_iff.2 empty)
  · intro counted
    have some : l.outcomes k ≠ [] := fun empty => counted (by simp [empty, since])
    obtain ⟨h, member⟩ := mem_edges_of_mem_keys a (tracks.mem_keys_of_ne_nil some)
    have nonempty : h.expire (a.cutoff now) ≠ [] := fun empty =>
      counted ((tracks.expired now member).eq_nil_iff.1 empty)
    obtain ⟨s, summarized⟩ :=
      Option.ne_none_iff_exists'.1 fun none => nonempty (summaryOf_eq_none_iff.1 none)
    exact ⟨s, (mem_summaries a).2 ⟨(k, h), member, summarized⟩, key_of_summaryOf summarized⟩

/-- After summarizing, the edges held are those with some outcome that counts. -/
theorem mem_keys_summarize_iff (tracks : Tracks cut l a) (now : Instant) (k : EdgeKey) :
    k ∈ (a.summarize now).1.keys ↔ since (l.outcomes k) (cut now) ≠ [] := by
  have after := tracks.summarize now
  constructor
  · intro held
    obtain ⟨h, member⟩ := mem_edges_of_mem_keys _ held
    obtain ⟨_, _, same, nonempty⟩ := (mem_edges_summarize a).1 member
    exact fun empty => nonempty ((after.same _ member).eq_nil_iff.2 empty)
  · exact after.mem_keys_of_ne_nil

end Tracks

/-- The summaries are in strictly increasing order of edge: sorted by edge, with each edge
held once. -/
theorem pairwise_summaries (a : Aggregator) (unique : a.keys.Nodup) (now : Instant) :
    (a.summarize now).2.Pairwise fun s t => s.key.lt t.key := by
  rw [summaries_eq]
  have sorted := @List.pairwise_mergeSort _ (fun s t : EdgeSummary => s.key.le t.key)
    (fun _ _ _ => EdgeKey.le_trans) (fun _ _ => EdgeKey.le_total _ _)
    ((a.edges.map fun e => (e.1, e.2.expire (a.cutoff now))).filterMap fun e => summaryOf e.1 e.2)
  -- each edge is held once, so no two summaries are of one edge
  have distinct : (a.edges.map fun e => (e.1, e.2.expire (a.cutoff now))).Pairwise
      fun d e => d.1 ≠ e.1 := by
    rw [List.pairwise_map]
    exact List.pairwise_map.1 unique
  have listed : ((a.edges.map fun e => (e.1, e.2.expire (a.cutoff now))).filterMap
      fun e => summaryOf e.1 e.2).Pairwise fun s t => s.key ≠ t.key := by
    rw [List.pairwise_filterMap]
    exact distinct.imp fun {d e} different s held t held' => by
      rw [key_of_summaryOf held, key_of_summaryOf held']
      exact different
  have apart := ((List.mergeSort_perm _ fun s t : EdgeSummary => s.key.le t.key).pairwise_iff
    fun different => Ne.symm different).2 listed
  exact (sorted.and apart).imp fun both => EdgeKey.lt_of_le_of_ne both.1 both.2

end Aggregator

/-! ## The summaries after any events -/

open Aggregator in
/-- After any events from a fresh aggregator, the summaries at `now` are in strictly increasing
order of edge; there is one of an edge exactly when some of its outcomes count at `now`, and it
summarizes them; afterwards the edges held are exactly those; a report lists the summaries with
failures. -/
theorem summaries_are_exact (a : Aggregator) (fresh : a.edges = []) (events : List Event)
    (now : Instant) :
    (((a.run events).summarize now).2.Pairwise fun s t => s.key.lt t.key) ∧
    (∀ k, (∃ s ∈ ((a.run events).summarize now).2, s.key = k) ↔ a.retained events now k ≠ []) ∧
    (∀ s ∈ ((a.run events).summarize now).2, s.Summarizes (a.retained events now s.key)) ∧
    (∀ k, k ∈ ((a.run events).summarize now).1.keys ↔ a.retained events now k ≠ []) ∧
    ∀ d r, ((a.run events).report now d).2.2 = .ok r →
      r.unhealthy = ((a.run events).summarize now).2.filter fun s => s.failedCount > 0 := by
  have tracks := (Tracks.start fresh).run events
  exact ⟨pairwise_summaries _ tracks.nodup now, tracks.exists_summary_iff now,
    tracks.summarizes now, tracks.mem_keys_summarize_iff now,
    fun d r written => unhealthy_report _ written⟩

open Aggregator in
/-- A success and then a late failure on one edge: the aggregator starts fresh, and each
summary summarizes the outcomes of its edge that count. -/
theorem summaries_exact_after_late_failure :
    hostAggregator.edges = [] ∧
      ∀ s ∈ ((hostAggregator.run
          [.add ⟨"node-a", "node-b", some ⟨4102444800, 0⟩, none, true, "j1", ""⟩ ⟨4102444800, 0⟩,
            .add ⟨"node-a", "node-b", some ⟨4102444700, 0⟩, none, false, "j1", ""⟩ ⟨4102444800, 0⟩]).summarize
          ⟨4102444800, 0⟩).2,
        s.Summarizes (hostAggregator.retained
          [.add ⟨"node-a", "node-b", some ⟨4102444800, 0⟩, none, true, "j1", ""⟩ ⟨4102444800, 0⟩,
            .add ⟨"node-a", "node-b", some ⟨4102444700, 0⟩, none, false, "j1", ""⟩ ⟨4102444800, 0⟩]
          ⟨4102444800, 0⟩ s.key) :=
  ⟨rfl, (summaries_are_exact hostAggregator rfl _ _).2.2.1⟩

end Reachability.Agent
