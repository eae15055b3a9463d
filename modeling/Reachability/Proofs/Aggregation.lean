import Mathlib
import Reachability.History.Window
import Reachability.Proofs.WindowBounds

/-!
# Aggregation is exact window by window

Aggregation counts observations, taken in time order, in consecutive windows of one width:
the first window starts at a given instant (or at the first observation), and each next one
starts where the last ended, moved on by the width with `Instant.shift?`. It does so in one
pass, closing a window when an observation at or after its end comes, and jumping over the
empty windows between by arithmetic.

`windowReports` says what that pass should give without the pass: for each window in turn,
the report of exactly the observations that fall in it, one summary per edge in edge order,
with the counts per job and the mean latency rounded down (`windowReport`). The main theorem
`aggregate_eq_windowReports` states that aggregation gives exactly that, for observations in
time order, a start no later than the first of them, a width that is positive and a span, and
no overflow: every observation's window inside the calendar and no latency sum of `2^64`
seconds.

The proof is one induction over the observations (`windowsFrom_eq`). Its invariant: the
current frame is a window, the current observations are the ones seen that fall in it, and
the summaries already given are the reports of the earlier windows over the observations seen.
A window's report does not depend on the order of its observations (`windowReport_perm`), so
the current observations may be kept newest first.
-/

namespace Reachability.History

open Reachability.Time
open Reachability.Probe

/-! ## What a window reports -/

/-- The mean latency of a job's ok observations: the sum of their recorded latencies divided
by their number, those without a latency included, rounded down to the nanosecond; none when
none of them recorded one. -/
def meanOf (os : List Observation) (job : String) : Option Lapse :=
  let oks := os.filter fun o => o.jobId == job && o.ok
  let latencies := oks.filterMap (·.latency)
  if latencies.isEmpty then none
  else some (Lapse.ofElapsed ⟨(latencies.map (·.nanos)).sum / oks.length⟩)

/-- The summary of one edge's observations in the window `[start, stop)`: per job the number
of ok and of failed observations, for the jobs that have some, and the mean latency. -/
def edgeReport (e : String × String) (os : List Observation) (start stop : Instant) :
    WindowSummary :=
  let jobs := textSet (os.map (·.jobId))
  { srcHost := e.1, destHost := e.2, periodStart := some start.toStamp,
    periodEnd := some stop.toStamp, okCounts := outcomeCounts os jobs true,
    failedCounts := outcomeCounts os jobs false,
    meanOkLatency := jobs.filterMap fun j => (meanOf os j).map fun l => (j, l) }

/-- The report of a window: one summary per edge that has observations in it, in edge order. -/
def windowReport (os : List Observation) (start stop : Instant) : List WindowSummary :=
  (edgeSet (os.map (·.edge))).map fun e => edgeReport e (os.filter fun o => o.edge == e) start stop

/-- No job's recorded latencies on one edge, among its ok observations, sum to `2^64`
seconds or more. -/
def LatencySumsFit (os : List Observation) : Prop :=
  ∀ e j, ((((os.filter fun o => o.edge == e).filter fun o => o.jobId == j && o.ok).filterMap
    (·.latency)).map (·.nanos)).sum < Elapsed.limit

section Report

/-- Latencies whose sum stays under `2^64` seconds sum without overflow. -/
theorem sumLatencies_eq {ds : List Elapsed} (fits : (ds.map (·.nanos)).sum < Elapsed.limit) :
    sumLatencies ds = .ok ⟨(ds.map (·.nanos)).sum⟩ := by
  have sum : (ds.map (·.nanos)).foldr (· + ·) 0 = (ds.map (·.nanos)).sum := rfl
  simp only [sumLatencies, sum, fits, if_true]

/-- A job's mean latency is computed without overflow when its ok observations' latencies sum under
`2^64` seconds, and is `meanOf`. -/
theorem meanLatency_eq {os : List Observation} {job : String}
    (fits : (((os.filter fun o => o.jobId == job && o.ok).filterMap (·.latency)).map
      (·.nanos)).sum < Elapsed.limit) :
    meanLatency os job = .ok (meanOf os job) := by
  unfold meanLatency meanOf
  dsimp only
  split_ifs with empty
  · rfl
  · simp only [sumLatencies_eq fits, bind, Except.bind, pure, Except.pure]
    rfl

/-- A monadic filter-map whose every call succeeds is a filter-map. -/
theorem filterMapM_ok {α β ε : Type} {xs : List α} {f : α → Except ε (Option β)}
    {g : α → Option β} (each : ∀ x ∈ xs, f x = .ok (g x)) :
    xs.filterMapM f = .ok (xs.filterMap g) := by
  induction xs with
  | nil => rfl
  | cons x rest inductionHypothesis =>
    rw [List.filterMapM_cons, each x List.mem_cons_self,
      inductionHypothesis fun y held => each y (List.mem_cons_of_mem x held), List.filterMap_cons]
    cases g x <;> rfl

/-- A monadic map whose every call succeeds is a map. -/
theorem mapM_ok {α β ε : Type} {xs : List α} {f : α → Except ε β} {g : α → β}
    (each : ∀ x ∈ xs, f x = .ok (g x)) : xs.mapM f = .ok (xs.map g) := by
  induction xs with
  | nil => rfl
  | cons x rest inductionHypothesis =>
    rw [List.mapM_cons, each x List.mem_cons_self,
      inductionHypothesis fun y held => each y (List.mem_cons_of_mem x held)]
    rfl

/-- Summarizing an edge gives its report when no job's latency sum overflows. -/
theorem summarizeEdge_eq {e : String × String} {os : List Observation} {start stop : Instant}
    (fits : ∀ j, (((os.filter fun o => o.jobId == j && o.ok).filterMap (·.latency)).map
      (·.nanos)).sum < Elapsed.limit) :
    summarizeEdge e os start stop = .ok (edgeReport e os start stop) := by
  unfold summarizeEdge
  dsimp only
  rw [filterMapM_ok (g := fun j => (meanOf os j).map fun l => (j, l)) fun j _ => by
    simp only [meanLatency_eq (fits j), bind, Except.bind, pure, Except.pure]]
  rfl

/-- Without an overflowing latency sum, closing a window gives its report. -/
theorem closeWindow_eq {os : List Observation} {start stop : Instant} (fits : LatencySumsFit os) :
    closeWindow os start stop = .ok (windowReport os start stop) :=
  mapM_ok fun e _ => summarizeEdge_eq (fits e)

end Report

/-! ## A report does not depend on the order of its observations -/

section Order

/-- The order `edgeSet` sorts by: source, then destination. -/
abbrev edgeOrder (a b : String × String) : Bool := decide (a.1 < b.1 ∨ (a.1 = b.1 ∧ a.2 ≤ b.2))

/-- The edge order is transitive. -/
theorem edgeOrder_trans (a b c : String × String) (first : edgeOrder a b = true)
    (second : edgeOrder b c = true) : edgeOrder a c = true := by
  simp only [edgeOrder, decide_eq_true_eq] at *
  rcases first with lt | ⟨same, le⟩ <;> rcases second with lt' | ⟨same', le'⟩
  · exact .inl (String.lt_trans lt lt')
  · exact .inl (same' ▸ lt)
  · exact .inl (same ▸ lt')
  · exact .inr ⟨same.trans same', String.le_trans le le'⟩

/-- Any two edges are in edge order one way or the other. -/
theorem edgeOrder_total (a b : String × String) : (edgeOrder a b || edgeOrder b a) = true := by
  simp only [edgeOrder, Bool.or_eq_true, decide_eq_true_eq]
  rcases Std.lt_trichotomy a.1 b.1 with lt | same | gt
  · exact .inl (.inl lt)
  · rcases String.le_total a.2 b.2 with le | ge
    · exact .inl (.inr ⟨same, le⟩)
    · exact .inr (.inr ⟨same.symm, ge⟩)
  · exact .inr (.inl gt)

/-- Two edges each in edge order before the other are the same edge. -/
theorem eq_of_edgeOrder {a b : String × String} (first : edgeOrder a b = true)
    (second : edgeOrder b a = true) : a = b := by
  simp only [edgeOrder, decide_eq_true_eq] at first second
  rcases first with lt | ⟨same, le⟩
  · rcases second with lt' | ⟨same', -⟩
    · exact absurd lt' (String.lt_asymm lt)
    · exact absurd lt (same' ▸ String.lt_irrefl _)
  · rcases second with lt' | ⟨-, le'⟩
    · exact absurd lt' (same ▸ String.lt_irrefl _)
    · exact Prod.ext same (String.le_antisymm le le')

/-- The edges of a window, sorted and each once, whatever the order they came in. -/
theorem edgeSet_perm {es es' : List (String × String)} (perm : es.Perm es') :
    edgeSet es = edgeSet es' := by
  unfold edgeSet
  congr 1
  exact @List.Perm.eq_of_pairwise _ (fun a b => edgeOrder a b = true) _ _
    (fun _ _ _ _ => eq_of_edgeOrder)
    (List.pairwise_mergeSort edgeOrder_trans edgeOrder_total es)
    (List.pairwise_mergeSort edgeOrder_trans edgeOrder_total es')
    ((List.mergeSort_perm es _).trans (perm.trans (List.mergeSort_perm es' _).symm))

/-- The jobs of an edge, sorted and each once, whatever the order they came in. -/
theorem textSet_perm {xs ys : List String} (perm : xs.Perm ys) : textSet xs = textSet ys := by
  have trans (a b c : String) (first : decide (a ≤ b) = true) (second : decide (b ≤ c) = true) :
      decide (a ≤ c) = true := by
    simp only [decide_eq_true_eq] at *
    exact String.le_trans first second
  have total (a b : String) : (decide (a ≤ b) || decide (b ≤ a)) = true := by
    simpa only [Bool.or_eq_true, decide_eq_true_eq] using String.le_total a b
  unfold textSet
  congr 1
  exact @List.Perm.eq_of_pairwise _ (fun a b => decide (a ≤ b) = true) _ _
    (fun _ _ _ _ first second => String.le_antisymm (of_decide_eq_true first)
      (of_decide_eq_true second))
    (List.pairwise_mergeSort trans total xs) (List.pairwise_mergeSort trans total ys)
    ((List.mergeSort_perm xs _).trans (perm.trans (List.mergeSort_perm ys _).symm))

variable {os os' : List Observation}

/-- The outcome counts do not depend on the order of the observations. -/
theorem outcomeCounts_perm (perm : os.Perm os') (jobs : List String) (ok : Bool) :
    outcomeCounts os jobs ok = outcomeCounts os' jobs ok := by
  simp only [outcomeCounts, countOutcome, (perm.filter _).length_eq]
  rfl

/-- The mean latency does not depend on the order of the observations. -/
theorem meanOf_perm (perm : os.Perm os') (job : String) : meanOf os job = meanOf os' job := by
  have oks := perm.filter fun o => o.jobId == job && o.ok
  have latencies := oks.filterMap (·.latency)
  unfold meanOf
  dsimp only
  rw [latencies.isEmpty_eq, (latencies.map _).sum_eq, oks.length_eq]

/-- An edge's summary does not depend on the order of its observations. -/
theorem edgeReport_perm (perm : os.Perm os') (e : String × String) (start stop : Instant) :
    edgeReport e os start stop = edgeReport e os' start stop := by
  simp only [edgeReport, textSet_perm (perm.map _), outcomeCounts_perm perm, meanOf_perm perm]

/-- A window's report does not depend on the order of its observations. -/
theorem windowReport_perm (perm : os.Perm os') (start stop : Instant) :
    windowReport os start stop = windowReport os' start stop := by
  unfold windowReport
  rw [edgeSet_perm (perm.map _)]
  congr 1
  funext e
  exact edgeReport_perm (perm.filter _) e start stop

/-- Fewer observations have smaller latency sums. -/
theorem LatencySumsFit.of_sublist (sub : os.Sublist os') (fits : LatencySumsFit os') :
    LatencySumsFit os := by
  intro e j
  calc _ ≤ _ := List.Sublist.sum_le_sum
          ((((sub.filter _).filter _).filterMap _).map _) fun _ _ => Nat.zero_le _
    _ < _ := fits e j

/-- Latency sums that fit over all the observations fit for every edge and job. -/
theorem LatencySumsFit.of_total
    (total : ((os.filterMap (·.latency)).map (·.nanos)).sum < Elapsed.limit) :
    LatencySumsFit os := by
  intro e j
  calc _ ≤ _ := List.Sublist.sum_le_sum
          (((List.filter_sublist.trans List.filter_sublist).filterMap _).map _)
          fun _ _ => Nat.zero_le _
    _ < _ := total

/-- Latency sums that fit for some observations fit for them in any order. -/
theorem LatencySumsFit.of_perm (perm : os.Perm os') (fits : LatencySumsFit os') :
    LatencySumsFit os := by
  intro e j
  rw [((((perm.filter _).filter _).filterMap _).map _).sum_eq]
  exact fits e j

end Order

/-! ## What a report holds -/

section Contents

/-- Dropping repeats from a list whose elements are related pairwise keeps one of each, still
related pairwise. The induction follows `eraseDups`: the head stays and its repeats go. -/
theorem pairwise_eraseDups {α : Type} [BEq α] [LawfulBEq α] {R : α → α → Prop} :
    ∀ {l : List α}, l.Pairwise R → l.eraseDups.Pairwise fun a b => R a b ∧ a ≠ b
  | [], _ => by simp
  | a :: rest, sorted => by
    -- the recursion is on the rest without the head's repeats, no longer than the rest
    have shorter : (rest.filter fun b => !b == a).length ≤ rest.length :=
      List.length_filter_le _ _
    have tail := pairwise_eraseDups
      (sorted.of_cons.sublist (List.filter_sublist (p := fun b => !b == a)))
    rw [List.eraseDups_cons, List.pairwise_cons]
    refine ⟨fun b held => ?_, tail⟩
    obtain ⟨inRest, other⟩ := List.mem_filter.1 (List.mem_eraseDups.1 held)
    simp only [Bool.not_eq_true', beq_eq_false_iff_ne] at other
    exact ⟨List.rel_of_pairwise_cons sorted inRest, Ne.symm other⟩
termination_by l => l.length

/-- The edges of a report are those of its observations. -/
theorem mem_edgeSet {es : List (String × String)} {e : String × String} :
    e ∈ edgeSet es ↔ e ∈ es := by
  rw [edgeSet, List.mem_eraseDups, (List.mergeSort_perm _ _).mem_iff]

/-- The edges of a report come in order of source, then destination, each once. -/
theorem edgeSet_pairwise (es : List (String × String)) :
    (edgeSet es).Pairwise fun a b => a.1 < b.1 ∨ (a.1 = b.1 ∧ a.2 < b.2) := by
  apply (pairwise_eraseDups (List.pairwise_mergeSort edgeOrder_trans edgeOrder_total es)).imp
  rintro a b ⟨ordered, differ⟩
  simp only [edgeOrder, decide_eq_true_eq] at ordered
  rcases ordered with lt | ⟨same, le⟩
  · exact .inl lt
  · refine .inr ⟨same, ?_⟩
    by_contra notLess
    exact differ (Prod.ext same (String.le_antisymm le (String.not_lt.1 notLess)))

/-- The jobs of a report are those of its observations. -/
theorem mem_textSet {xs : List String} {x : String} : x ∈ textSet xs ↔ x ∈ xs := by
  rw [textSet, List.mem_eraseDups, (List.mergeSort_perm _ _).mem_iff]

/-- A report counts, for each job with observations of an outcome, how many it has, and names
no other job. -/
theorem mem_outcomeCounts {os : List Observation} {ok : Bool} {job : String} {count : Int} :
    (job, count) ∈ outcomeCounts os (textSet (os.map (·.jobId))) ok ↔
      0 < countOutcome os job ok ∧ count = countOutcome os job ok := by
  simp only [outcomeCounts, List.mem_filterMap, mem_textSet]
  constructor
  · rintro ⟨j, -, found⟩
    split at found
    · simp only [Option.some.injEq, Prod.mk.injEq] at found
      obtain ⟨rfl, rfl⟩ := found
      exact ⟨by assumption, rfl⟩
    · cases found
  · rintro ⟨positive, rfl⟩
    -- a job with a positive count has an observation
    obtain ⟨o, held⟩ := List.exists_mem_of_length_pos positive
    obtain ⟨inOs, same⟩ := List.mem_filter.1 held
    simp only [Bool.and_eq_true, beq_iff_eq] at same
    refine ⟨job, List.mem_map.2 ⟨o, inOs, same.1⟩, ?_⟩
    simp [positive]

/-- A job has a mean latency exactly when one of its ok observations recorded a latency. -/
theorem meanOf_isSome_iff {os : List Observation} {job : String} :
    (meanOf os job).isSome ↔ ∃ o ∈ os, o.jobId = job ∧ o.ok = true ∧ o.latency.isSome := by
  unfold meanOf
  dsimp only
  split_ifs with empty
  · simp only [Option.isSome_none, Bool.false_eq_true, false_iff, not_exists, not_and]
    intro o held same isOk recorded
    rw [List.isEmpty_iff, List.filterMap_eq_nil_iff] at empty
    obtain ⟨l, found⟩ := Option.isSome_iff_exists.1 recorded
    have := empty o (List.mem_filter.2 ⟨held, by simp [same, isOk]⟩)
    rw [found] at this
    cases this
  · simp only [Option.isSome_some, true_iff]
    obtain ⟨l, held⟩ := List.exists_mem_of_ne_nil _ (fun nil => empty (List.isEmpty_iff.2 nil))
    obtain ⟨o, inOks, found⟩ := List.mem_filterMap.1 held
    obtain ⟨inOs, same⟩ := List.mem_filter.1 inOks
    simp only [Bool.and_eq_true, beq_iff_eq] at same
    exact ⟨o, inOs, same.1, same.2, by simp [found]⟩

end Contents

/-! ## Windows and what they report -/

/-- Whether a frame holds an instant: from its start, up to its end. -/
def Frame.holds (f : Frame) (t : Instant) : Bool := decide (f.start ≤ t) && decide (t < f.stop)

/-- The `k`-th window of width `d` from `s`, when both its bounds are inside the calendar. -/
def window (d : Span) (s : Instant) (k : Nat) : Option Frame :=
  (bound d s k).bind fun a => (bound d s (k + 1)).map fun b => ⟨a, b⟩

/-- What the `k`-th window reports: the report of the observations it holds, and nothing when
it is not inside the calendar. -/
def reportOf (d : Span) (s : Instant) (os : List Observation) (k : Nat) : List WindowSummary :=
  match window d s k with
  | some f => windowReport (os.filter fun o => f.holds o.time) f.start f.stop
  | none => []

/-- What aggregation should give over the first `n` windows of width `d` from `s`: the reports
of the windows in turn. -/
def windowReports (d : Span) (s : Instant) (os : List Observation) (n : Nat) :
    List WindowSummary :=
  (List.range n).flatMap (reportOf d s os)

section Windows

variable {d : Span} {s : Instant}

/-- The `k`-th window is the frame from the `k`-th bound to the next, when both are inside the
calendar. -/
theorem window_eq_some_iff {k : Nat} {f : Frame} :
    window d s k = some f ↔ bound d s k = some f.start ∧ bound d s (k + 1) = some f.stop := by
  unfold window
  constructor
  · intro found
    obtain ⟨a, lower, rest⟩ := Option.bind_eq_some_iff.1 found
    obtain ⟨b, upper, rfl⟩ := Option.map_eq_some_iff.1 rest
    exact ⟨lower, upper⟩
  · rintro ⟨lower, upper⟩
    simp [lower, upper]

/-- A frame that is the `k`-th window holds exactly the instants in that window. -/
theorem holds_iff {k : Nat} {f : Frame} (frame : window d s k = some f) {t : Instant} :
    f.holds t = true ↔ InWindow d s k t := by
  obtain ⟨lower, upper⟩ := window_eq_some_iff.1 frame
  simp only [Frame.holds, Bool.and_eq_true, decide_eq_true_eq]
  constructor
  · rintro ⟨after, before⟩
    exact ⟨⟨f.start, lower, after⟩, ⟨f.stop, upper, before⟩⟩
  · rintro ⟨⟨a, lower', after⟩, ⟨b, upper', before⟩⟩
    rw [lower] at lower'
    rw [upper] at upper'
    cases lower'
    cases upper'
    exact ⟨after, before⟩

/-- No observations, no report. -/
theorem windowReport_nil (start stop : Instant) : windowReport [] start stop = [] := by
  simp [windowReport, edgeSet]

/-- A window inside the calendar reports the observations it holds. -/
theorem reportOf_eq {k : Nat} {f : Frame} (frame : window d s k = some f) (os : List Observation) :
    reportOf d s os k = windowReport (os.filter fun o => f.holds o.time) f.start f.stop := by
  simp only [reportOf, frame]

/-- A window that holds none of the observations reports nothing. -/
theorem reportOf_eq_nil {os : List Observation} {k : Nat}
    (outside : ∀ o ∈ os, ¬ InWindow d s k o.time) : reportOf d s os k = [] := by
  cases frame : window d s k with
  | none => simp only [reportOf, frame]
  | some f =>
    have none : os.filter (fun o => f.holds o.time) = [] := by
      rw [List.filter_eq_nil_iff]
      intro o held
      rw [holds_iff frame]
      exact outside o held
    rw [reportOf_eq frame, none, windowReport_nil]

/-- An observation outside a window changes nothing of its report. -/
theorem reportOf_append_of_outside (os : List Observation) {o : Observation} {k : Nat}
    (outside : ¬ InWindow d s k o.time) : reportOf d s (os ++ [o]) k = reportOf d s os k := by
  cases frame : window d s k with
  | none => simp only [reportOf, frame]
  | some f =>
    have dropped : [o].filter (fun o => f.holds o.time) = [] := by
      simp only [List.filter_cons, List.filter_nil, holds_iff frame, outside]
      rfl
    rw [reportOf_eq frame, reportOf_eq frame, List.filter_append, dropped, List.append_nil]

/-- No windows, no reports. -/
@[simp] theorem windowReports_zero (os : List Observation) : windowReports d s os 0 = [] := rfl

/-- The reports of `n + 1` windows are those of the first `n`, then the report of the last. -/
theorem windowReports_succ (os : List Observation) (n : Nat) :
    windowReports d s os (n + 1) = windowReports d s os n ++ reportOf d s os n := by
  simp [windowReports, List.range_succ, List.flatMap_append]

/-- Observations whose reports agree on the first `n` windows give the same reports over them. -/
theorem windowReports_congr {os os' : List Observation} {n : Nat}
    (same : ∀ k < n, reportOf d s os k = reportOf d s os' k) :
    windowReports d s os n = windowReports d s os' n := by
  induction n with
  | zero => rfl
  | succ n inductionHypothesis =>
    rw [windowReports_succ, windowReports_succ, same n (Nat.lt_succ_self n),
      inductionHypothesis fun k lt => same k (Nat.lt_succ_of_lt lt)]

/-- Observations that lie in the first `k + 1` windows leave every later window empty. -/
theorem windowReports_extend (positive : 0 < d.nanos) {os : List Observation} {k n : Nat}
    (placed : ∀ o ∈ os, ∃ j ≤ k, InWindow d s j o.time) (le : k + 1 ≤ n) :
    windowReports d s os n = windowReports d s os (k + 1) := by
  induction n, le using Nat.le_induction with
  | base => rfl
  | succ n le inductionHypothesis =>
    have empty : reportOf d s os n = [] := reportOf_eq_nil fun o held later => by
      obtain ⟨j, atMost, inJ⟩ := placed o held
      have same := index_unique positive inJ later
      omega
    rw [windowReports_succ, empty, List.append_nil, inductionHypothesis]

/-- An observation outside the first `n` windows changes none of their reports. -/
theorem windowReports_append_of_outside (os : List Observation) {o : Observation} {n : Nat}
    (outside : ∀ j < n, ¬ InWindow d s j o.time) :
    windowReports d s (os ++ [o]) n = windowReports d s os n :=
  windowReports_congr fun k lt => reportOf_append_of_outside os (outside k lt)

end Windows

/-! ## The pass -/

/-- The state of the pass after the observations `seen`: the frame is the `k`-th window, the
current observations are the ones seen that it holds, and every observation seen lies in it or
in an earlier window. -/
structure PassState (d : Span) (s : Instant) (seen current : List Observation) (k : Nat)
    (f : Frame) : Prop where
  frame : window d s k = some f
  gathered : current.Perm (seen.filter fun o => f.holds o.time)
  placed : ∀ o ∈ seen, ∃ j ≤ k, InWindow d s j o.time

section Pass

variable {d : Span} {s : Instant}

/-- Closing the current window gives its report, when no latency sum of a window overflows. -/
theorem PassState.close {seen current rest : List Observation} {k : Nat} {f : Frame}
    (state : PassState d s seen current k f)
    (sums : ∀ j g, window d s j = some g →
      LatencySumsFit ((seen ++ rest).filter fun o => g.holds o.time)) :
    closeWindow current f.start f.stop = .ok (reportOf d s seen k) := by
  have fits : LatencySumsFit current :=
    ((sums k f state.frame).of_sublist
      ((List.sublist_append_left seen rest).filter _)).of_perm state.gathered
  rw [closeWindow_eq fits, windowReport_perm state.gathered, reportOf_eq state.frame]

/-- The next observation, in the current window, joins it. -/
theorem PassState.add {seen current : List Observation} {k : Nat} {f : Frame} {o : Observation}
    (state : PassState d s seen current k f) (after : f.start ≤ o.time) (before : o.time < f.stop) :
    PassState d s (seen ++ [o]) (o :: current) k f := by
  have holds : f.holds o.time = true := by
    simp only [Frame.holds, Bool.and_eq_true, decide_eq_true_eq]
    exact ⟨after, before⟩
  refine ⟨state.frame, ?_, ?_⟩
  · rw [List.filter_append, List.filter_singleton, holds, cond_true]
    exact (state.gathered.cons o).trans (List.perm_append_singleton _ _).symm
  · intro p held
    rcases List.mem_append.1 held with old | new
    · exact state.placed p old
    · rw [List.mem_singleton.1 new]
      exact ⟨k, le_refl k, (holds_iff state.frame).1 holds⟩

/-- The next observation, in a later window `j`, opens it. -/
theorem PassState.open_ (positive : 0 < d.nanos) {seen current : List Observation} {k j : Nat}
    {f g : Frame} {o : Observation} (state : PassState d s seen current k f)
    (later : k < j) (frame : window d s j = some g) (inJ : InWindow d s j o.time) :
    PassState d s (seen ++ [o]) [o] j g := by
  have holds : g.holds o.time = true := (holds_iff frame).2 inJ
  have old : (seen.filter fun p => g.holds p.time) = [] := by
    rw [List.filter_eq_nil_iff]
    intro p held inG
    obtain ⟨i, atMost, inI⟩ := state.placed p held
    have same := index_unique positive inI ((holds_iff frame).1 inG)
    omega
  refine ⟨frame, ?_, ?_⟩
  · rw [List.filter_append, old, List.filter_singleton, holds, cond_true, List.nil_append]
  · intro p held
    rcases List.mem_append.1 held with seenBefore | new
    · obtain ⟨i, atMost, inI⟩ := state.placed p seenBefore
      exact ⟨i, by omega, inI⟩
    · rw [List.mem_singleton.1 new]
      exact ⟨j, le_refl j, inJ⟩

/-- An instant at or after the end of the `k`-th window lies in a later window, and moving on
from the end of the `k`-th window reaches that window. -/
theorem advance_to_window (positive : 0 < d.nanos) {k j : Nat} {f : Frame} {t : Instant}
    (frame : window d s k = some f) (late : f.stop ≤ t) (inJ : InWindow d s j t) :
    k < j ∧ ∃ g, window d s j = some g ∧ advance d f.stop t = .ok g := by
  obtain ⟨⟨a, lower, after⟩, ⟨b, upper, before⟩⟩ := inJ
  have ends := (window_eq_some_iff.1 frame).2
  have later : k < j := by
    by_contra notLater
    have stops := bound_le_bound positive (show j + 1 ≤ k + 1 by omega) upper ends
    exact Instant.lt_irrefl _ (Instant.lt_of_lt_of_le (Instant.lt_of_lt_of_le before stops) late)
  refine ⟨later, ⟨a, b⟩, window_eq_some_iff.2 ⟨lower, upper⟩, ?_⟩
  -- the bounds of the later window, counted from the end of the `k`-th
  obtain ⟨i, rfl⟩ := Nat.exists_eq_add_of_lt later
  rw [show k + i + 1 = (k + 1) + i by omega, bound_add, ends, Option.bind_some] at lower
  rw [show k + i + 1 + 1 = (k + 1) + (i + 1) by omega, bound_add, ends,
    Option.bind_some] at upper
  exact advance_eq positive lower upper after before

/-- The run of the pass: from a state after the observations `seen`, with the rest in time
order, none before the current window and each in one of the first `n` windows, the pass ends
with the reports of those windows over all the observations. The induction is on the rest, with
`PassState` as the invariant. -/
theorem windowsFrom_eq (positive : 0 < d.nanos) {n : Nat} {rest seen current : List Observation}
    {k : Nat} {f : Frame} (state : PassState d s seen current k f) (below : k < n)
    (started : ∀ o ∈ rest, f.start ≤ o.time)
    (sorted : rest.Pairwise fun a b => a.time ≤ b.time)
    (covered : ∀ o ∈ rest, ∃ j < n, InWindow d s j o.time)
    (sums : ∀ j g, window d s j = some g →
      LatencySumsFit ((seen ++ rest).filter fun o => g.holds o.time)) :
    windowsFrom d rest f current (windowReports d s seen k) =
      .ok (windowReports d s (seen ++ rest) n) := by
  induction rest generalizing seen current k f with
  | nil =>
    simp only [windowsFrom, state.close sums, bind, Except.bind, pure, Except.pure,
      List.append_nil]
    rw [windowReports_extend positive state.placed below, windowReports_succ]
  | cons o rest inductionHypothesis =>
    obtain ⟨first, sorted⟩ := List.pairwise_cons.1 sorted
    have sums' : ∀ j g, window d s j = some g →
        LatencySumsFit (((seen ++ [o]) ++ rest).filter fun o => g.holds o.time) := by
      simpa only [List.append_assoc, List.singleton_append] using sums
    have covered' : ∀ p ∈ rest, ∃ j < n, InWindow d s j p.time :=
      fun p held => covered p (List.mem_cons_of_mem o held)
    have inK : ∀ {m : Nat}, InWindow d s m o.time → ∀ i < m, ¬ InWindow d s i o.time :=
      fun inM i lt inI => absurd (index_unique positive inI inM) (Nat.ne_of_lt lt)
    rw [List.append_cons]
    simp only [windowsFrom]
    split_ifs with late
    · -- `o` lies at or after the end of the window: close it and move on to the window of `o`
      obtain ⟨j, jBelow, inJ⟩ := covered o List.mem_cons_self
      obtain ⟨later, g, frameJ, moved⟩ := advance_to_window positive state.frame late inJ
      have after : g.start ≤ o.time := by
        have holds := (holds_iff frameJ).2 inJ
        simp only [Frame.holds, Bool.and_eq_true, decide_eq_true_eq] at holds
        exact holds.1
      have done : windowReports d s seen k ++ reportOf d s seen k =
          windowReports d s (seen ++ [o]) j := by
        rw [← windowReports_succ, windowReports_append_of_outside seen (inK inJ)]
        exact (windowReports_extend positive state.placed (by omega)).symm
      simp only [state.close sums, moved, bind, Except.bind, done]
      exact inductionHypothesis (state.open_ positive later frameJ inJ) jBelow
        (fun p held => Instant.le_trans after (first p held)) sorted covered' sums'
    · -- `o` lies in the current window
      have before : o.time < f.stop := Instant.not_le_iff.1 late
      have after : f.start ≤ o.time := started o List.mem_cons_self
      have inK' : InWindow d s k o.time :=
        (holds_iff state.frame).1 (by simp [Frame.holds, after, before])
      rw [← windowReports_append_of_outside seen (inK inK')]
      exact inductionHypothesis (state.add after before) below
        (fun p held => started p (List.mem_cons_of_mem o held)) sorted covered' sums'

end Pass

/-- Aggregation is exact. Over observations in time order, from a start no later than the
first of them (or the first one's time), with a width that is positive and at most the largest
span, and without overflow (each observation lies in a window inside the calendar, and no job's
latencies in a window sum to `2^64` seconds), aggregation gives for each window in turn the
report of exactly the observations it holds: one summary per edge with observations there, in
edge order, with the window's bounds, the counts per job and the mean latency rounded down. -/
theorem aggregate_eq_windowReports {os : List Observation} {start : Option Instant}
    {width : Elapsed} {s : Instant} {n : Nat}
    (sorted : os.Pairwise fun a b => a.time ≤ b.time)
    (origin : ∀ first ∈ os.head?, start.getD first.time = s)
    (early : ∀ first ∈ os.head?, s ≤ first.time)
    (positive : 0 < width.nanos) (short : (width.nanos : Int) ≤ Span.maxNanos)
    (covered : ∀ o ∈ os, ∃ k < n, InWindow ⟨width.nanos⟩ s k o.time)
    (sums : ∀ k f, window ⟨width.nanos⟩ s k = some f →
      LatencySumsFit (os.filter fun o => f.holds o.time)) :
    aggregate os start width = .ok (windowReports ⟨width.nanos⟩ s os n) := by
  have positive' : 0 < (⟨width.nanos⟩ : Span).nanos := by
    show (0 : Int) < width.nanos
    exact_mod_cast positive
  cases os with
  | nil =>
    have empty : windowReports ⟨width.nanos⟩ s [] n = [] := by
      have nothing (k : Nat) : reportOf ⟨width.nanos⟩ s [] k = [] := reportOf_eq_nil (by simp)
      simp [windowReports, nothing]
    simp [aggregate, empty]
  | cons first rest =>
    have span : Span.ofElapsed? width = some ⟨width.nanos⟩ := by simp [Span.ofElapsed?, short]
    have startAt : start.getD first.time = s := origin first rfl
    -- the first window is inside the calendar, as the window of the first observation is
    obtain ⟨j, jBelow, inJ⟩ := covered first List.mem_cons_self
    obtain ⟨b, upper, -⟩ := inJ.upper
    obtain ⟨e, firstEnd⟩ := bound_of_le (Nat.succ_le_succ (Nat.zero_le j)) upper
    have moved : s.shift? ⟨width.nanos⟩ = some e := firstEnd
    have frame : window ⟨width.nanos⟩ s 0 = some ⟨s, e⟩ := window_eq_some_iff.2 ⟨rfl, firstEnd⟩
    have state : PassState ⟨width.nanos⟩ s [] [] 0 ⟨s, e⟩ :=
      ⟨frame, by simp, by simp⟩
    have started : ∀ o ∈ first :: rest, s ≤ o.time := by
      intro o held
      rcases List.mem_cons.1 held with rfl | later
      · exact early o rfl
      · exact Instant.le_trans (early first rfl) (List.rel_of_pairwise_cons sorted later)
    have notEmpty : ¬ (width.nanos : Int) ≤ 0 := by omega
    simp only [aggregate, span, notEmpty, if_false, startAt, moved]
    exact windowsFrom_eq positive' state (by omega) started sorted covered (by simpa using sums)

/-- Two observations of one edge a minute and ten seconds apart, in windows of a minute from the
first: each window reports its own observation. -/
theorem aggregate_two_windows :
    (∀ o ∈ [(⟨"a", "b", some ⟨1000, 0⟩, some ⟨0, 5000000⟩, true, "j", "ok"⟩ : Observation),
        ⟨"a", "b", some ⟨1070, 0⟩, none, false, "j", "timeout"⟩],
      ∃ k < 2, InWindow ⟨60000000000⟩ ⟨1000, 0⟩ k o.time) ∧
    aggregate [⟨"a", "b", some ⟨1000, 0⟩, some ⟨0, 5000000⟩, true, "j", "ok"⟩,
        ⟨"a", "b", some ⟨1070, 0⟩, none, false, "j", "timeout"⟩] none ⟨60000000000⟩ =
      .ok (windowReports ⟨60000000000⟩ ⟨1000, 0⟩
        [⟨"a", "b", some ⟨1000, 0⟩, some ⟨0, 5000000⟩, true, "j", "ok"⟩,
          ⟨"a", "b", some ⟨1070, 0⟩, none, false, "j", "timeout"⟩] 2) := by
  have covered : ∀ o ∈ [(⟨"a", "b", some ⟨1000, 0⟩, some ⟨0, 5000000⟩, true, "j", "ok"⟩ :
        Observation), ⟨"a", "b", some ⟨1070, 0⟩, none, false, "j", "timeout"⟩],
      ∃ k < 2, InWindow ⟨60000000000⟩ ⟨1000, 0⟩ k o.time := by
    intro o held
    simp only [List.mem_cons, List.not_mem_nil, or_false] at held
    rcases held with rfl | rfl
    · exact ⟨0, by decide, ⟨⟨_, rfl, by decide⟩, ⟨⟨1060, 0⟩, by decide, by decide⟩⟩⟩
    · exact ⟨1, by decide, ⟨⟨⟨1060, 0⟩, by decide, by decide⟩, ⟨⟨1120, 0⟩, by decide, by decide⟩⟩⟩
  have firstTime : (⟨"a", "b", some ⟨1000, 0⟩, some ⟨0, 5000000⟩, true, "j", "ok"⟩ :
      Observation).time = ⟨1000, 0⟩ := by decide
  refine ⟨covered, aggregate_eq_windowReports (by decide) ?_ ?_ (by decide) (by decide)
    covered fun _ _ _ => (LatencySumsFit.of_total (by decide)).of_sublist List.filter_sublist⟩
  · intro first held
    simp only [List.head?_cons, Option.mem_def, Option.some.injEq] at held
    rw [← held, Option.getD_none, firstTime]
  · intro first held
    simp only [List.head?_cons, Option.mem_def, Option.some.injEq] at held
    rw [← held, firstTime]
    exact Instant.le_refl _

end Reachability.History
