import Mathlib
import Reachability.Proofs.Aggregation
import Reachability.Proofs.Except

/-!
# Aggregation loses and invents nothing, in any order

`aggregate_eq_windowReports` describes aggregation over observations in time order. Aggregation
takes its observations as they come, though: one that is earlier than the current window is
counted in it, and one at or after the window's end closes it and moves the windows on. This
module describes what the pass gives for observations in any order.

The pass splits its observations into blocks, one per window it opens, and gives the reports
of the blocks one after the other (`windowsFrom_blocks`). The blocks hold every observation
once, each window ends where its start moved on by the width lands, and each window starts at
or after the end of every window before it (`Partition`). The proof is one induction over the
observations: a step either joins the observation to the current block, or closes that block
and opens the next one, whose window is found by `advance` (`advance_ok`).

From that shape follow the laws of `aggregate_conserves`: summed over the summaries, each edge
and job is counted as often as it was observed with each outcome; every summary spans one
window and counts something; summaries come window by window, edges in order within a window;
and there are none exactly when there is nothing to count or the width is not a positive span.
-/

namespace Reachability.History

open Reachability.Time
open Reachability.Probe

/-! ## A successful close gives the report -/

section Closing

/-- A sum of latencies that succeeded is the plain sum. -/
theorem sumLatencies_ok {ds : List Elapsed} {total : Elapsed} (summed : sumLatencies ds = .ok total) :
    total = ⟨(ds.map (·.nanos)).sum⟩ := by
  unfold sumLatencies at summed
  dsimp only at summed
  split at summed
  · cases summed
    rfl
  · cases summed

/-- A mean latency that succeeded is the mean of the report. -/
theorem meanLatency_ok {os : List Observation} {job : String} {m : Option Lapse}
    (computed : meanLatency os job = .ok m) : m = meanOf os job := by
  unfold meanLatency at computed
  unfold meanOf
  dsimp only at computed ⊢
  split_ifs at computed ⊢ with empty
  · cases computed
    rfl
  · obtain ⟨total, summed, finished⟩ := Except.bind_eq_ok_iff.1 computed
    rw [← Except.pure_eq_ok_iff.1 finished, sumLatencies_ok summed]
    rfl

/-- A monadic filter-map that succeeded, with calls that each give what `g` gives, is a
filter-map. -/
theorem filterMapM_eq_ok {α β ε : Type} {xs : List α} {f : α → Except ε (Option β)}
    {g : α → Option β} {ys : List β} (each : ∀ x ∈ xs, ∀ r, f x = .ok r → r = g x)
    (done : xs.filterMapM f = .ok ys) : ys = xs.filterMap g := by
  induction xs generalizing ys with
  | nil =>
    cases done
    rfl
  | cons x rest inductionHypothesis =>
    rw [List.filterMapM_cons] at done
    obtain ⟨r, first, later⟩ := Except.bind_eq_ok_iff.1 done
    obtain rfl := each x List.mem_cons_self r first
    have restEq {zs : List β} (restDone : rest.filterMapM f = .ok zs) : zs = rest.filterMap g :=
      inductionHypothesis (fun y held => each y (List.mem_cons_of_mem x held)) restDone
    rw [List.filterMap_cons]
    cases kept : g x with
    | none =>
      rw [kept] at later
      exact restEq later
    | some b =>
      rw [kept] at later
      obtain ⟨zs, restDone, finished⟩ := Except.bind_eq_ok_iff.1 later
      rw [← Except.pure_eq_ok_iff.1 finished, restEq restDone]

/-- A monadic map that succeeded, with calls that each give what `g` gives, is a map. -/
theorem mapM_eq_ok {α β ε : Type} {xs : List α} {f : α → Except ε β} {g : α → β} {ys : List β}
    (each : ∀ x ∈ xs, ∀ r, f x = .ok r → r = g x) (done : xs.mapM f = .ok ys) :
    ys = xs.map g := by
  induction xs generalizing ys with
  | nil =>
    cases done
    rfl
  | cons x rest inductionHypothesis =>
    rw [List.mapM_cons] at done
    obtain ⟨r, first, later⟩ := Except.bind_eq_ok_iff.1 done
    obtain ⟨zs, restDone, finished⟩ := Except.bind_eq_ok_iff.1 later
    rw [← Except.pure_eq_ok_iff.1 finished, each x List.mem_cons_self r first,
      inductionHypothesis (fun y held => each y (List.mem_cons_of_mem x held)) restDone,
      List.map_cons]

/-- Summarising an edge, when it succeeds, gives the edge's report. -/
theorem summarizeEdge_ok {e : String × String} {os : List Observation} {start stop : Instant}
    {w : WindowSummary} (summarized : summarizeEdge e os start stop = .ok w) :
    w = edgeReport e os start stop := by
  unfold summarizeEdge at summarized
  obtain ⟨ms, means, finished⟩ := Except.bind_eq_ok_iff.1 summarized
  obtain rfl := Except.pure_eq_ok_iff.1 finished
  -- each job's mean, computed without overflow, is the report's
  have sameMeans : ms = (textSet (os.map (·.jobId))).filterMap
      fun j => (meanOf os j).map fun l => (j, l) := by
    refine filterMapM_eq_ok (fun j _ r computed => ?_) means
    obtain ⟨m, mean, finishedMean⟩ := Except.bind_eq_ok_iff.1 computed
    rw [← Except.pure_eq_ok_iff.1 finishedMean, meanLatency_ok mean]
  rw [sameMeans]
  rfl

/-- Closing a window that succeeded gives the window's report. -/
theorem closeWindow_ok {os : List Observation} {start stop : Instant} {ws : List WindowSummary}
    (closed : closeWindow os start stop = .ok ws) : ws = windowReport os start stop :=
  mapM_eq_ok (fun _ _ _ summarized => summarizeEdge_ok summarized) closed

end Closing

/-! ## A successful move gives a window -/

section Moving

variable {d : Span}

/-- An instant made of a nanosecond count counts those nanoseconds on the clock that stands still
during a leap second. -/
theorem flatNanos_ofNanos (n : Int) : (Instant.ofNanos n).flatNanos = n := by
  simp only [Instant.flatNanos, Instant.ofNanos, nanosPerSecond]
  omega

/-- Outside a leap second, the window `stepPlain` finds for an instant no earlier than `e` ends
where its start moved on by the width lands, and starts no earlier than `e`. -/
theorem stepPlain_ok (positive : 0 < d.nanos) {e t : Instant} {g : Frame}
    (plain : e.isLeap = false) (reached : e ≤ t) (moved : stepPlain d e t = .ok g) :
    g.start.shift? d = some g.stop ∧ e ≤ g.start := by
  unfold stepPlain at moved
  dsimp only at moved
  split at moved
  · rename_i inside
    cases moved
    -- the whole widths from `e` to `t`, none when `t` lies in the window `e` opens
    have ahead : e.totalNanos ≤ t.flatNanos := (Instant.le_iff_totalNanos_le plain).1 reached
    have widths : 0 ≤ (t.flatNanos - e.totalNanos) / d.nanos :=
      Int.ediv_nonneg (by omega) positive.le
    generalize (t.flatNanos - e.totalNanos) / d.nanos = q at widths inside ⊢
    constructor
    · have next : e.totalNanos + (q + 1 - 1) * d.nanos + d.nanos =
          e.totalNanos + (q + 1) * d.nanos := by ring
      rw [Instant.shift?_of_not_leap (Instant.isLeap_ofNanos _), Instant.totalNanos_ofNanos, next,
        if_pos inside]
    · rw [Instant.le_iff_totalNanos_le plain, flatNanos_ofNanos]
      nlinarith
  · cases moved

/-- From a leap-second instant `last` that a move by the width leaves, the window found for an
instant is the one `last` opens, or one that `stepPlain` finds after it. -/
theorem leave_ok (positive : 0 < d.nanos) {last t : Instant} {g : Frame}
    (leap : last.isLeap = true) (leaves : 2 * (nanosPerSecond : Int) ≤ last.nanos + d.nanos)
    (moved : (match last.shift? d with
      | none => Except.error Overflow.laterInstant
      | some e1 => if t < e1 then Except.ok (⟨last, e1⟩ : Frame) else stepPlain d e1 t) = .ok g) :
    g.start.shift? d = some g.stop ∧ last ≤ g.start := by
  cases next : last.shift? d with
  | none => simp [next] at moved
  | some e1 =>
    simp only [next] at moved
    -- the move lands outside the leap second
    have plain : e1.isLeap = false := by
      rw [Instant.shift?_leaving positive leap leaves] at next
      obtain ⟨-, landed⟩ := Option.ite_none_right_eq_some.1 next
      rw [← Option.some.inj landed]
      exact Instant.isLeap_ofNanos _
    split_ifs at moved with early
    · cases moved
      exact ⟨next, Instant.le_refl last⟩
    · obtain ⟨found, after⟩ := stepPlain_ok positive plain (Instant.not_lt_iff.1 early) moved
      exact ⟨found, Instant.le_trans (Instant.le_of_lt (Instant.lt_of_shift? positive next)) after⟩

/-- Inside a leap second, the bound `q` widths after `e` moves on by the width to the next
one, while a later bound `m` widths after `e` still fits in the leap second. -/
theorem shift?_in_leap (positive : 0 < d.nanos) {e : Instant} {q m : Nat} (leap : e.isLeap = true)
    (fewer : q + 1 ≤ m) (filled : m * d.nanos.toNat ≤ 2 * nanosPerSecond - 1 - e.nanos) :
    (⟨e.secs, e.nanos + q * d.nanos.toNat⟩ : Instant).shift? d =
      some ⟨e.secs, e.nanos + (q + 1) * d.nanos.toNat⟩ := by
  have atLeast := leap
  simp only [Instant.isLeap, ge_iff_le, decide_eq_true_eq] at atLeast
  have width : (d.nanos.toNat : Int) = d.nanos := Int.toNat_of_nonneg positive.le
  have below : (q + 1) * d.nanos.toNat ≤ m * d.nanos.toNat := Nat.mul_le_mul_right _ fewer
  have widths : (q + 1) * d.nanos.toNat = q * d.nanos.toNat + d.nanos.toNat := Nat.succ_mul _ _
  simp only [nanosPerSecond] at filled atLeast
  have startLeap : (⟨e.secs, e.nanos + q * d.nanos.toNat⟩ : Instant).isLeap = true := by
    simp only [Instant.isLeap, nanosPerSecond, ge_iff_le, decide_eq_true_eq]
    omega
  have stays : ((e.nanos + q * d.nanos.toNat : Nat) : Int) + d.nanos <
      2 * (nanosPerSecond : Int) := by
    simp only [nanosPerSecond]
    omega
  rw [Instant.shift?_inside positive startLeap stays]
  simp only [Option.some.injEq, Instant.mk.injEq, true_and]
  omega

/-- Moving on from `e` to the window of an instant no earlier than `e`, when it succeeds, gives a
window that ends where its start moved on by the width lands, and that starts no earlier than
`e`. -/
theorem advance_ok (positive : 0 < d.nanos) {e t : Instant} {g : Frame} (reached : e ≤ t)
    (moved : advance d e t = .ok g) : g.start.shift? d = some g.stop ∧ e ≤ g.start := by
  cases leap : e.isLeap
  · simp only [advance, leap, Bool.false_eq_true, if_false] at moved
    exact stepPlain_ok positive leap reached moved
  have atLeast := leap
  simp only [Instant.isLeap, ge_iff_le, decide_eq_true_eq] at atLeast
  have whole := Span.wholeSeconds_of_nonneg positive.le
  by_cases long : d.wholeSeconds > 0
  · -- a width of a second or more leaves the leap second at once
    have leaves : 2 * (nanosPerSecond : Int) ≤ e.nanos + d.nanos := by
      rw [whole] at long
      simp only [nanosPerSecond] at long atLeast ⊢
      omega
    simp only [advance, leap, if_true, long] at moved
    exact leave_ok positive leap leaves moved
  -- a narrower width steps through the leap second first
  simp only [advance, leap, if_true, long, if_false] at moved
  obtain ⟨-, leaves⟩ := bounds_through_leap positive leap
  have widthPos : 0 < d.nanos.toNat := by omega
  have filled := Nat.div_mul_le_self (2 * nanosPerSecond - 1 - e.nanos) d.nanos.toNat
  generalize (2 * nanosPerSecond - 1 - e.nanos) / d.nanos.toNat = m at leaves filled moved
  have lastLeap : (⟨e.secs, e.nanos + m * d.nanos.toNat⟩ : Instant).isLeap = true := by
    simp only [Instant.isLeap, ge_iff_le, decide_eq_true_eq]
    omega
  have toLast : e ≤ ⟨e.secs, e.nanos + m * d.nanos.toNat⟩ :=
    Instant.le_iff.2 (.inr ⟨rfl, Nat.le_add_right _ _⟩)
  split_ifs at moved with early
  · -- `t` lies in the leap second before its last bound: the window is found by one division
    cases moved
    obtain ⟨sameSecond, short⟩ := early
    have notBefore : e.nanos ≤ t.nanos := by
      rcases Instant.le_iff.1 reached with earlier | ⟨-, le⟩
      · omega
      · exact le
    have fewer : (t.nanos - e.nanos) / d.nanos.toNat + 1 ≤ m :=
      (Nat.div_lt_iff_lt_mul widthPos).2 (by omega)
    simp only [Nat.add_sub_cancel]
    exact ⟨shift?_in_leap positive leap fewer filled,
      Instant.le_iff.2 (.inr ⟨rfl, Nat.le_add_right _ _⟩)⟩
  · -- `t` lies at or after the last bound in the leap second
    obtain ⟨found, after⟩ := leave_ok positive lastLeap leaves moved
    exact ⟨found, Instant.le_trans toLast after⟩

end Moving

/-! ## The pass splits its observations into windows -/

/-- Observations split into blocks, each counted in one window of width `d`: together the
blocks hold every observation once, each window ends where its start moved on by `d` lands,
and each window starts at or after the end of every window before it. -/
structure Partition (d : Span) (os : List Observation) where
  blocks : List (Frame × List Observation)
  covers : (blocks.flatMap (·.2)).Perm os
  moves : ∀ b ∈ blocks, b.1.start.shift? d = some b.1.stop
  ordered : (blocks.map (·.1)).Pairwise fun g h => g.stop ≤ h.start

namespace Partition

variable {d : Span} {os : List Observation}

/-- The reports of the blocks, one window after the other. -/
def reports (p : Partition d os) : List WindowSummary :=
  p.blocks.flatMap fun b => windowReport b.2 b.1.start b.1.stop

/-- The same blocks split any reordering of the observations. -/
def reorder (p : Partition d os) {os' : List Observation} (perm : os.Perm os') : Partition d os' :=
  { p with covers := p.covers.trans perm }

/-- Reordering the observations leaves a partition's reports as they are. -/
@[simp] theorem reports_reorder (p : Partition d os) {os' : List Observation} (perm : os.Perm os') :
    (p.reorder perm).reports = p.reports := rfl

end Partition

section Pass

variable {d : Span}

/-- The run of the pass, in any order of the observations: from the frame `f`, with `current`
gathered in it and `done` given, a pass that succeeds gives `done` and then the reports of a
partition of `current` and the rest, whose windows all start no earlier than `f`. The induction
is on the rest: an observation before the end of the frame joins the current block, one at or
after it closes the block and opens the window that `advance` finds. -/
theorem windowsFrom_blocks (positive : 0 < d.nanos) {rest current : List Observation}
    {done rs : List WindowSummary} {f : Frame} (frame : f.start.shift? d = some f.stop)
    (result : windowsFrom d rest f current done = .ok rs) :
    ∃ p : Partition d (current ++ rest), rs = done ++ p.reports ∧
      ∀ b ∈ p.blocks, f.start ≤ b.1.start := by
  induction rest generalizing current done f with
  | nil =>
    rw [windowsFrom] at result
    obtain ⟨last, closed, finished⟩ := Except.bind_eq_ok_iff.1 result
    obtain rfl := Except.pure_eq_ok_iff.1 finished
    refine ⟨⟨[(f, current)], by simp, by simp [frame], by simp⟩, ?_, ?_⟩
    · simp [Partition.reports, closeWindow_ok closed]
    · intro b held
      rw [List.mem_singleton.1 held]
      exact Instant.le_refl _
  | cons o rest inductionHypothesis =>
    unfold windowsFrom at result
    split_ifs at result with late
    · -- `o` closes the current block, and the next block starts in the window of `o`
      obtain ⟨closed, closing, result⟩ := Except.bind_eq_ok_iff.1 result
      obtain ⟨g, moved, result⟩ := Except.bind_eq_ok_iff.1 result
      obtain ⟨frame', after⟩ := advance_ok positive late moved
      obtain ⟨p, rfl, starts⟩ := inductionHypothesis frame' result
      have ends : f.start ≤ f.stop := Instant.le_of_lt (Instant.lt_of_shift? positive frame)
      refine ⟨⟨(f, current) :: p.blocks, ?_, ?_, ?_⟩, ?_, ?_⟩
      · rw [List.flatMap_cons]
        exact p.covers.append_left current
      · intro b held
        rcases List.mem_cons.1 held with rfl | later
        · exact frame
        · exact p.moves b later
      · rw [List.map_cons, List.pairwise_cons]
        refine ⟨fun h held => ?_, p.ordered⟩
        obtain ⟨b, later, rfl⟩ := List.mem_map.1 held
        exact Instant.le_trans after (starts b later)
      · simp [Partition.reports, closeWindow_ok closing]
      · intro b held
        rcases List.mem_cons.1 held with rfl | later
        · exact Instant.le_refl _
        · exact Instant.le_trans ends (Instant.le_trans after (starts b later))
    · -- `o` joins the current block
      obtain ⟨p, rfl, starts⟩ := inductionHypothesis frame result
      exact ⟨p.reorder List.perm_middle.symm, rfl, starts⟩

end Pass

/-! ## Counting over the reports -/

/-- What a summary counts for a job on an edge with an outcome: the job's count when it is the
edge's summary, zero when it is another edge's or names no count for the job. -/
def WindowSummary.countFor (r : WindowSummary) (e : String × String) (job : String) (ok : Bool) :
    Int :=
  if (r.srcHost, r.destHost) = e then ((if ok then r.okCounts else r.failedCounts).lookup job).getD 0
  else 0

/-- How many observations of a job on an edge, with an outcome, summaries count in all. -/
def tallyOf (rs : List WindowSummary) (e : String × String) (job : String) (ok : Bool) : Int :=
  (rs.map fun r => r.countFor e job ok).sum

section Counting

/-- The tally over two lists of summaries is the sum of their tallies. -/
theorem tallyOf_append (rs rs' : List WindowSummary) (e : String × String) (job : String)
    (ok : Bool) : tallyOf (rs ++ rs') e job ok = tallyOf rs e job ok + tallyOf rs' e job ok := by
  simp [tallyOf]

/-- The count a window gives a job, looked up, is the number of its observations of the job with
that outcome; zero when it has none. -/
theorem lookup_outcomeCounts (os : List Observation) (job : String) (ok : Bool) :
    ((outcomeCounts os (textSet (os.map (·.jobId))) ok).lookup job).getD 0 = countOutcome os job ok := by
  by_cases positive : 0 < countOutcome os job ok
  · have held := mem_outcomeCounts.2 ⟨positive, rfl⟩
    obtain ⟨n, found⟩ := Option.isSome_iff_exists.1
      (List.lookup_isSome_iff.2 ⟨_, held, beq_self_eq_true job⟩)
    obtain ⟨before, after, split, -⟩ := List.lookup_eq_some_iff.1 found
    have entry : (job, n) ∈ outcomeCounts os (textSet (os.map (·.jobId))) ok := by
      rw [split]
      exact List.mem_append_right _ List.mem_cons_self
    rw [found, Option.getD_some, (mem_outcomeCounts.1 entry).2]
  · have missing : (outcomeCounts os (textSet (os.map (·.jobId))) ok).lookup job = none := by
      rw [List.lookup_eq_none_iff]
      rintro ⟨j, n⟩ held
      have named := (mem_outcomeCounts.1 held).1
      simp only [bne_iff_ne, ne_eq]
      rintro rfl
      exact positive named
    rw [missing, Option.getD_none]
    omega

/-- An edge's report counts its own outcomes and none of another edge. -/
theorem countFor_edgeReport (e e' : String × String) (os : List Observation) (start stop : Instant)
    (job : String) (ok : Bool) :
    (edgeReport e os start stop).countFor e' job ok = if e = e' then (countOutcome os job ok : Int) else 0 := by
  unfold WindowSummary.countFor edgeReport
  split_ifs with same <;> cases ok <;> simp_all [lookup_outcomeCounts]

/-- The edges of a report, each once. -/
theorem edgeSet_nodup (es : List (String × String)) : (edgeSet es).Nodup := by
  apply (edgeSet_pairwise es).imp
  rintro a b (lt | ⟨-, lt⟩) rfl
  · exact String.lt_irrefl _ lt
  · exact String.lt_irrefl _ lt

/-- A window's report counts each job of each edge with each outcome as often as the window
observed it. -/
theorem tallyOf_windowReport (os : List Observation) (start stop : Instant) (e : String × String)
    (job : String) (ok : Bool) :
    tallyOf (windowReport os start stop) e job ok =
      os.countP fun o => (o.jobId == job && o.ok == ok) && o.edge == e := by
  have observed : countOutcome (os.filter fun o => o.edge == e) job ok =
      os.countP fun o => (o.jobId == job && o.ok == ok) && o.edge == e := by
    rw [countOutcome, List.filter_filter, List.countP_eq_length_filter]
  unfold tallyOf windowReport
  rw [List.map_map]
  have each : ((fun r : WindowSummary => r.countFor e job ok) ∘
      fun e' => edgeReport e' (os.filter fun o => o.edge == e') start stop) =
      fun e' => if e' = e then (countOutcome (os.filter fun o => o.edge == e') job ok : Int) else 0 := by
    funext e'
    exact countFor_edgeReport _ _ _ _ _ _ _
  rw [each, List.sum_map_ite_eq, List.map_const', List.sum_replicate, smul_zero, add_zero, sub_zero]
  by_cases present : e ∈ edgeSet (os.map (·.edge))
  · rw [@List.count_eq_one_of_mem _ instBEqOfDecidableEq _ _ _ (edgeSet_nodup _) present, one_smul,
      observed]
  · rw [@List.count_eq_zero_of_not_mem _ instBEqOfDecidableEq _ _ _ present, zero_smul]
    -- no observation of the window is on that edge
    have none : (os.countP fun o => (o.jobId == job && o.ok == ok) && o.edge == e) = 0 := by
      rw [List.countP_eq_zero]
      intro o held
      simp only [Bool.and_eq_true, beq_iff_eq, not_and]
      intro _ same
      exact present (mem_edgeSet.2 (List.mem_map.2 ⟨o, held, same⟩))
    rw [none]
    rfl

/-- The reports of a partition count each job of each edge with each outcome as often as the
observations do. -/
theorem Partition.tallyOf_reports {d : Span} {os : List Observation} (p : Partition d os)
    (e : String × String) (job : String) (ok : Bool) :
    tallyOf p.reports e job ok = os.countP fun o => (o.jobId == job && o.ok == ok) && o.edge == e := by
  rw [← p.covers.countP_eq, Partition.reports]
  -- block by block
  induction p.blocks with
  | nil => simp [tallyOf]
  | cons b rest inductionHypothesis =>
    rw [List.flatMap_cons, tallyOf_append, tallyOf_windowReport, inductionHypothesis,
      List.flatMap_cons, List.countP_append]
    push_cast
    rfl

end Counting

/-! ## What the summaries look like -/

/-- A summary spans the window `g`: its period runs from `g`'s start to `g`'s end. -/
def WindowSummary.Spans (r : WindowSummary) (g : Frame) : Prop :=
  r.periodStart = some g.start.toStamp ∧ r.periodEnd = some g.stop.toStamp

/-- A summary counts something: some job has a non-zero count of ok or of failed observations. -/
def WindowSummary.CountsSome (r : WindowSummary) : Prop :=
  ∃ job n, ((job, n) ∈ r.okCounts ∨ (job, n) ∈ r.failedCounts) ∧ n ≠ 0

/-- Two summaries in the order aggregation gives them: of one period, with the second's edge
after the first's in order of source, then destination; or the second's period starting at or
after the end of the first's. -/
def Follows (r r' : WindowSummary) : Prop :=
  (r.periodStart = r'.periodStart ∧ r.periodEnd = r'.periodEnd ∧
    (r.srcHost < r'.srcHost ∨ (r.srcHost = r'.srcHost ∧ r.destHost < r'.destHost))) ∨
  ∃ a b : Instant, r.periodEnd = some a.toStamp ∧ r'.periodStart = some b.toStamp ∧ a ≤ b

section Shape

/-- The window's report holds one summary per edge seen, of that edge's observations. -/
theorem mem_windowReport {os : List Observation} {start stop : Instant} {r : WindowSummary} :
    r ∈ windowReport os start stop ↔
      ∃ e ∈ os.map (·.edge), r = edgeReport e (os.filter fun o => o.edge == e) start stop := by
  simp only [windowReport, List.mem_map, mem_edgeSet]
  exact exists_congr fun e => and_congr_right fun _ => eq_comm

/-- Every summary of a window's report spans the window and counts an observation of its edge. -/
theorem spans_of_mem_windowReport {os : List Observation} {g : Frame} {r : WindowSummary}
    (held : r ∈ windowReport os g.start g.stop) : r.Spans g ∧ r.CountsSome := by
  obtain ⟨e, seen, rfl⟩ := mem_windowReport.1 held
  refine ⟨⟨rfl, rfl⟩, ?_⟩
  obtain ⟨o, observed, onEdge⟩ := List.mem_map.1 seen
  -- the job of an observation on the edge counts it with its outcome
  have inEdge : o ∈ os.filter fun p => p.edge == e := List.mem_filter.2 ⟨observed, by simp [onEdge]⟩
  have positive : 0 < countOutcome (os.filter fun p => p.edge == e) o.jobId o.ok :=
    List.length_pos_of_mem (List.mem_filter.2 ⟨inEdge, by simp⟩)
  refine ⟨o.jobId, countOutcome (os.filter fun p => p.edge == e) o.jobId o.ok, ?_,
    by exact_mod_cast positive.ne'⟩
  cases outcome : o.ok
  · rw [outcome] at positive
    exact .inr (mem_outcomeCounts.2 ⟨positive, rfl⟩)
  · rw [outcome] at positive
    exact .inl (mem_outcomeCounts.2 ⟨positive, rfl⟩)

/-- Within a window's report, the summaries share the period and go in order of edge. -/
theorem pairwise_windowReport (os : List Observation) (start stop : Instant) :
    (windowReport os start stop).Pairwise Follows := by
  unfold windowReport
  rw [List.pairwise_map]
  exact (edgeSet_pairwise _).imp fun ordered => .inl ⟨rfl, rfl, ordered⟩

/-- The window's report is empty exactly when there are no observations. -/
theorem windowReport_eq_nil_iff {os : List Observation} {start stop : Instant} :
    windowReport os start stop = [] ↔ os = [] := by
  rw [windowReport, List.map_eq_nil_iff]
  constructor
  · intro none
    rw [List.eq_nil_iff_forall_not_mem]
    intro o held
    have edge : o.edge ∈ edgeSet (os.map (·.edge)) := mem_edgeSet.2 (List.mem_map_of_mem held)
    rw [none] at edge
    exact List.not_mem_nil edge
  · rintro rfl
    simp [edgeSet]

namespace Partition

variable {d : Span} {os : List Observation}

/-- Every summary of the reports spans one of the windows and counts something. -/
theorem spans_of_mem_reports (p : Partition d os) {r : WindowSummary} (held : r ∈ p.reports) :
    ∃ g, (r.Spans g ∧ g.start.shift? d = some g.stop) ∧ r.CountsSome := by
  obtain ⟨b, block, inReport⟩ := List.mem_flatMap.1 held
  obtain ⟨spans, counts⟩ := spans_of_mem_windowReport inReport
  exact ⟨b.1, ⟨spans, p.moves b block⟩, counts⟩

/-- The reports come window by window, and by edge within a window. -/
theorem pairwise_reports (p : Partition d os) : p.reports.Pairwise Follows := by
  unfold reports
  rw [List.pairwise_flatMap]
  refine ⟨fun b _ => pairwise_windowReport _ _ _, ?_⟩
  -- a later window starts at or after the end of an earlier one
  refine (List.pairwise_map.1 p.ordered).imp fun {b c} ordered r earlier r' later => .inr ?_
  exact ⟨b.1.stop, c.1.start, (spans_of_mem_windowReport earlier).1.2,
    (spans_of_mem_windowReport later).1.1, ordered⟩

/-- The reports are empty exactly when there are no observations. -/
theorem reports_eq_nil_iff (p : Partition d os) : p.reports = [] ↔ os = [] := by
  rw [← List.length_eq_zero_iff (l := os), ← p.covers.length_eq, List.length_eq_zero_iff, reports,
    List.flatMap_eq_nil_iff, List.flatMap_eq_nil_iff]
  exact forall_congr' fun b => imp_congr_right fun _ => windowReport_eq_nil_iff

end Partition

end Shape

/-! ## Aggregation -/

/-- A successful aggregation gives nothing, when there are no observations or the width is not
a positive span; otherwise it gives the reports of a partition of the observations into windows
of the width. -/
theorem aggregate_ok_cases {os : List Observation} {start : Option Instant} {width : Elapsed}
    {rs : List WindowSummary} (answered : aggregate os start width = .ok rs) :
    (rs = [] ∧ (os = [] ∨ width.nanos = 0 ∨ Span.maxNanos < width.nanos)) ∨
    (os ≠ [] ∧ 0 < width.nanos ∧ (width.nanos : Int) ≤ Span.maxNanos ∧
      ∃ p : Partition ⟨width.nanos⟩ os, rs = p.reports) := by
  cases os with
  | nil =>
    simp only [aggregate, Except.ok.injEq] at answered
    exact .inl ⟨answered.symm, .inl rfl⟩
  | cons first rest =>
    by_cases short : (width.nanos : Int) ≤ Span.maxNanos
    · have span : Span.ofElapsed? width = some ⟨width.nanos⟩ := by
        simp [Span.ofElapsed?, short]
      by_cases empty : (width.nanos : Int) ≤ 0
      · simp only [aggregate, span, empty, if_true, Except.ok.injEq] at answered
        exact .inl ⟨answered.symm, .inr (.inl (by omega))⟩
      · have positive : 0 < (⟨width.nanos⟩ : Span).nanos := by
          show (0 : Int) < width.nanos
          omega
        simp only [aggregate, span, empty, if_false] at answered
        split at answered
        · cases answered
        · rename_i e frame
          obtain ⟨p, rfl, -⟩ := windowsFrom_blocks positive frame answered
          exact .inr ⟨List.cons_ne_nil _ _, by omega, short, p, by simp⟩
    · have span : Span.ofElapsed? width = none := by simp [Span.ofElapsed?, short]
      simp only [aggregate, span, Except.ok.injEq] at answered
      exact .inl ⟨answered.symm, .inr (.inr (by omega))⟩

/-- Aggregation loses and invents nothing, whatever the order of the observations. When it
answers: with a width that is a positive span, every job of every edge is counted, summed over
the summaries, exactly as often as it was observed with each outcome; every summary spans one
window, whose end is its start moved on by the width, and counts something; the summaries come
window by window, and by edge in order within a window; and there are none exactly when there
are no observations or the width is zero or longer than the largest span.

Proof: aggregation gives nothing or the reports of a partition (`aggregate_ok_cases`), and the
reports of a partition keep each of these laws (`Partition.tallyOf_reports`,
`Partition.spans_of_mem_reports`, `Partition.pairwise_reports`,
`Partition.reports_eq_nil_iff`). -/
theorem aggregate_conserves {os : List Observation} {start : Option Instant} {width : Elapsed}
    {rs : List WindowSummary} (answered : aggregate os start width = .ok rs) :
    (0 < width.nanos → (width.nanos : Int) ≤ Span.maxNanos →
      ∀ src dest job ok, tallyOf rs (src, dest) job ok =
        os.countP fun o => o.srcHost == src && o.destHost == dest && o.jobId == job && o.ok == ok) ∧
    (∀ r ∈ rs, ∃ g : Frame, (r.Spans g ∧ g.start.shift? ⟨width.nanos⟩ = some g.stop) ∧
      r.CountsSome) ∧
    rs.Pairwise Follows ∧
    (rs = [] ↔ os = [] ∨ width.nanos = 0 ∨ Span.maxNanos < width.nanos) := by
  rcases aggregate_ok_cases answered with ⟨rfl, why⟩ | ⟨observed, positive, short, p, rfl⟩
  · refine ⟨fun positive short => ?_, by simp, List.Pairwise.nil, by simp [why]⟩
    rcases why with rfl | zero | long
    · simp [tallyOf]
    · omega
    · omega
  · refine ⟨fun _ _ src dest job ok => ?_, fun r held => p.spans_of_mem_reports held,
      p.pairwise_reports, ?_⟩
    · rw [p.tallyOf_reports]
      congr 1
      refine List.countP_congr fun o _ => ?_
      simp only [Observation.edge, Bool.and_eq_true, beq_iff_eq, Prod.mk.injEq]
      tauto
    · rw [p.reports_eq_nil_iff]
      simp only [observed, false_or, false_iff, not_or]
      omega

/-- Three observations of one job, the third on another edge and arriving after a later one. -/
def lateArrival : List Observation :=
  [⟨"a", "b", some ⟨1000, 0⟩, none, true, "j", "ok"⟩,
    ⟨"a", "b", some ⟨1070, 0⟩, none, false, "j", "timeout"⟩,
    ⟨"a", "c", some ⟨1010, 0⟩, none, true, "j", "ok"⟩]

/-- The summaries of `lateArrival` in windows of a minute: the late observation is counted in
the window open when it arrives, the second one. -/
def lateArrivalSummaries : List WindowSummary :=
  [⟨"a", "b", some ⟨1000, 0⟩, some ⟨1060, 0⟩, [("j", 1)], [], []⟩,
    ⟨"a", "b", some ⟨1060, 0⟩, some ⟨1120, 0⟩, [], [("j", 1)], []⟩,
    ⟨"a", "c", some ⟨1060, 0⟩, some ⟨1120, 0⟩, [("j", 1)], [], []⟩]

/-- `lateArrival` aggregates to `lateArrivalSummaries`, whose tallies count every observation, whose
windows span the width, which follow one another, and which are not empty. -/
theorem aggregate_counts_late_arrival :
    aggregate lateArrival none defaultWidth = .ok lateArrivalSummaries ∧
    (0 < defaultWidth.nanos → (defaultWidth.nanos : Int) ≤ Span.maxNanos →
      ∀ src dest job ok, tallyOf lateArrivalSummaries (src, dest) job ok =
        lateArrival.countP fun o =>
          o.srcHost == src && o.destHost == dest && o.jobId == job && o.ok == ok) ∧
    (∀ r ∈ lateArrivalSummaries, ∃ g : Frame,
      (r.Spans g ∧ g.start.shift? ⟨defaultWidth.nanos⟩ = some g.stop) ∧ r.CountsSome) ∧
    lateArrivalSummaries.Pairwise Follows ∧
    (lateArrivalSummaries = [] ↔
      lateArrival = [] ∨ defaultWidth.nanos = 0 ∨ Span.maxNanos < defaultWidth.nanos) :=
  have answered : aggregate lateArrival none defaultWidth = .ok lateArrivalSummaries := by cbv
  ⟨answered, aggregate_conserves answered⟩

/-- With a width of zero aggregation answers with no summary, so an observation goes uncounted:
the counts add up to the observations only for widths that are positive spans. -/
theorem zero_width_leaves_observation_uncounted :
    aggregate [⟨"a", "b", some ⟨1714564800, 0⟩, none, true, "j", ""⟩] none ⟨0⟩ = .ok [] ∧
      tallyOf [] ("a", "b") "j" true ≠
        (([⟨"a", "b", some ⟨1714564800, 0⟩, none, true, "j", ""⟩] : List Observation).countP
          fun o => o.srcHost == "a" && o.destHost == "b" && o.jobId == "j" && o.ok == true : Int) :=
  ⟨rfl, by decide⟩

end Reachability.History
