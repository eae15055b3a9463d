import Mathlib
import Reachability.History.Service
import Reachability.Proofs.Aggregation

/-!
# What the query service answers

A raw query is answered from the store's listing of the selection it asks for. Over a store held
in memory, which keeps its observations in the order they were added, the answer is read off the
query itself (`Request.Wants`): the observations it wants, stably sorted by time, and, for a
positive limit, the newest of them up to the limit. A query without a store fails with a failed
precondition.

A windowed query summarizes the same listing in windows. The width it asks for is used when it is
above the minimum, and a width that is no span gives no windows, but a width that is a span is
not checked against the calendar: when the first window would end past the calendar's last day
the call ends without an answer. When every window holding a listed observation stays inside
the calendar and no latency sum overflows, it answers with the report of each window.

Main statements: `raw_query_answers`, `windowed_query_ends_past_calendar`,
`windowed_query_answers`.
-/

namespace Reachability.History

open Reachability.Time
open Reachability.Probe

/-- The query service over a store held in memory: it lists by selecting from the observations it
holds, in the order they were added. -/
def inMemory (stored : List Observation) : Lister := some fun sel => .ok (sel.select stored)

namespace Request

/-- What a query asks of an observation, read off the query as sent: no ok observation when only
failures are asked for; a job id, a source host and a destination host among those listed, for
each list that is not empty; and a time at or after the start and before the end, for each bound
that is given. -/
def Wants (r : Request) (o : Observation) : Prop :=
  (r.failuresOnly = true → o.ok = false) ∧
  (r.jobIds ≠ [] → o.jobId ∈ r.jobIds) ∧
  (r.srcHosts ≠ [] → o.srcHost ∈ r.srcHosts) ∧
  (r.destHosts ≠ [] → o.destHost ∈ r.destHosts) ∧
  (∀ s ∈ r.start, Instant.ofStamp s ≤ o.time) ∧
  (∀ e ∈ r.stop, o.time < Instant.ofStamp e)

instance (r : Request) : DecidablePred r.Wants :=
  fun _ => inferInstanceAs (Decidable (_ ∧ _ ∧ _ ∧ _ ∧ _ ∧ _))

end Request

/-! ## The selection a query asks for -/

/-- A set of texts is empty exactly when the texts are. -/
theorem textSet_eq_nil {xs : List String} : textSet xs = [] ↔ xs = [] := by
  constructor
  · intro empty
    apply List.eq_nil_iff_forall_not_mem.2
    intro x held
    have kept := mem_textSet.2 held
    simp [empty] at kept
  · rintro rfl
    simp [textSet]

/-- A set of texts read from a list admits a text when the list is empty or holds it. -/
theorem admits_textSet (xs : List String) (x : String) :
    Selection.admits (textSet xs) x = true ↔ (xs ≠ [] → x ∈ xs) := by
  simp only [Selection.admits, Bool.or_eq_true, List.isEmpty_iff, textSet_eq_nil,
    List.contains_iff_mem, mem_textSet]
  tauto

/-- The selection a query asks for selects exactly what the query wants: the sets it reads from
the query's lists admit what the lists hold, and a start the time is not before is one it is at
or after. -/
theorem selects_ofRequest (r : Request) (o : Observation) :
    (Selection.ofRequest r).selects o = decide (r.Wants o) := by
  rw [Bool.eq_iff_iff, decide_eq_true_iff]
  simp only [Selection.selects, Selection.ofRequest, Bool.and_eq_true, Bool.not_eq_true',
    Bool.and_eq_false_imp, admits_textSet, Request.Wants]
  cases r.start <;> cases r.stop <;>
    simp [Instant.not_lt_iff, Option.mem_def, and_assoc]

/-- The observations an in-memory store lists for a query are those it wants, in the order they
were added, finished as the selection says. -/
theorem select_ofRequest (r : Request) (stored : List Observation) :
    (Selection.ofRequest r).select stored =
      (Selection.ofRequest r).finish (stored.filter fun o => r.Wants o) := by
  have wanted : (Selection.ofRequest r).selects = fun o => decide (r.Wants o) :=
    funext (selects_ofRequest r)
  simp only [Selection.select, wanted]

/-- A listing is a run of the time-sorted observations it was given. -/
theorem finish_sublist (sel : Selection) (os : List Observation) :
    (sel.finish os).Sublist (Selection.byTime os) := by
  unfold Selection.finish
  split
  · exact List.drop_sublist _ _
  · exact List.Sublist.refl _

/-- Sorting orders the observations by time. -/
theorem pairwise_time_byTime (os : List Observation) :
    (Selection.byTime os).Pairwise fun a b => a.time ≤ b.time :=
  (Selection.pairwise_byTime os).imp fun ordered => by simpa using ordered

/-- A selection's finished answer is in time order. -/
theorem pairwise_finish (sel : Selection) (os : List Observation) :
    (sel.finish os).Pairwise fun a b => a.time ≤ b.time :=
  (pairwise_time_byTime os).sublist (finish_sublist sel os)

/-- An observation an in-memory store lists for a query is one the query wants. -/
theorem wants_of_mem_select {r : Request} {stored : List Observation} {o : Observation}
    (member : o ∈ (Selection.ofRequest r).select stored) : r.Wants o := by
  rw [select_ofRequest] at member
  have sorted := (finish_sublist _ _).subset member
  rw [Selection.byTime, (List.mergeSort_perm _ _).mem_iff] at sorted
  simpa using (List.mem_filter.1 sorted).2

/-! ## Raw queries -/

/-- A raw query without a store fails with a failed precondition. Over a store held in memory it
answers with the observations the query wants, sorted by time with those of one time in the
order they were added; with a positive limit only the last `limit` of them are answered, so
none dropped is newer than one answered, and a limit of zero or less answers all. -/
theorem raw_query_answers (stored : List Observation) (r : Request) :
    listObservations none r = .error .noWriter ∧
    reply (listObservations none r) =
      .ok (.error ⟨.failedPrecondition, "no observation writer configured"⟩) ∧
    ∃ sorted : List Observation,
      sorted.Perm (stored.filter fun o => r.Wants o) ∧
      sorted.Pairwise (fun a b => a.time ≤ b.time) ∧
      (∀ t, sorted.filter (·.time = t) = (stored.filter fun o => r.Wants o).filter (·.time = t)) ∧
      listObservations (inMemory stored) r =
        .ok (if 0 < r.limit then sorted.drop (sorted.length - r.limit.toNat) else sorted) ∧
      ∀ a ∈ sorted.take (sorted.length - r.limit.toNat),
        ∀ b ∈ sorted.drop (sorted.length - r.limit.toNat), a.time ≤ b.time := by
  refine ⟨rfl, rfl, Selection.byTime (stored.filter fun o => r.Wants o), ?_, ?_, ?_, ?_, ?_⟩
  · exact List.mergeSort_perm _ _
  · exact pairwise_time_byTime _
  · exact Selection.filter_byTime _
  · -- the selection's limit is the query's, when positive
    have limit : (Selection.ofRequest r).limit > 0 ↔ 0 < r.limit := by
      simp [Selection.ofRequest]
    simp only [listObservations, inMemory, select_ofRequest, Selection.finish, limit]
    rfl
  · -- what the limit drops comes before what it keeps in a list sorted by time
    intro a dropped b kept
    have sorted := pairwise_time_byTime (stored.filter fun o => r.Wants o)
    rw [← List.take_append_drop ((Selection.byTime (stored.filter fun o => r.Wants o)).length -
      r.limit.toNat) (Selection.byTime _), List.pairwise_append] at sorted
    exact sorted.2.2 a dropped b kept

/-- Only failures of one job: of an ok observation of it, a failure of it and a failure of another
job, the second. -/
example :
    listObservations (inMemory [⟨"h1", "h2", some ⟨1714564800, 0⟩, none, true, "j1", ""⟩,
        ⟨"h1", "h3", some ⟨1714564810, 0⟩, none, false, "j1", ""⟩,
        ⟨"h1", "h2", some ⟨1714564820, 0⟩, none, false, "j2", ""⟩])
      { failuresOnly := true, jobIds := ["j1"] } =
      .ok [⟨"h1", "h3", some ⟨1714564810, 0⟩, none, false, "j1", ""⟩] := by
  cbv

/-! ## Windowed queries -/

/-- The width a windowed query uses is positive: it is above the minimum or the default. -/
theorem windowWidth_pos (w : Option Elapsed) : 0 < (windowWidth w).nanos := by
  unfold windowWidth
  split
  · split
    · rename_i longer
      exact Nat.lt_trans (by decide) longer
    · decide
  · decide

/-- A windowed query whose first window would end past the calendar's last day ends the call
without an answer, whatever the observations: the width is a span, so aggregation does not
refuse it, and the first window's end is computed before anything is counted. -/
theorem windowed_query_ends_past_calendar {stored : List Observation} {r : Request}
    {first : Observation} {rest : List Observation} {d : Span}
    (listed : (Selection.ofRequest r).select stored = first :: rest)
    (span : Span.ofElapsed? (windowWidth (r.window.map Lapse.toElapsed)) = some d)
    (past : ((r.start.map Instant.ofStamp).getD first.time).shift? d = none) :
    reply (listWindows (inMemory stored) r) = .error .laterInstant := by
  have positive : ¬ d.nanos ≤ 0 := by
    simp only [Span.ofElapsed?] at span
    split at span
    · cases span
      have := windowWidth_pos (r.window.map Lapse.toElapsed)
      simp only [not_le]
      exact_mod_cast this
    · cases span
  have ends : aggregate (first :: rest) (r.start.map Instant.ofStamp)
      (windowWidth (r.window.map Lapse.toElapsed)) = .error .laterInstant := by
    simp only [aggregate, span, positive, if_false, past]
  simp [listWindows, listObservations, inMemory, listed, ends, bind, Except.bind, reply,
    StoreError.toStatus, Except.map, throw, throwThe, MonadExceptOf.throw]

/-- A windowed query over a store held in memory answers, with the report of each window, when
the width is a span, every listed observation lies in one of the first `n` windows from the
query's start (or the first listed observation) and inside the calendar, and no job's latencies
in a window sum to `2^64` seconds: the listing is sorted by time and starts no earlier than the
windows, which is what aggregation asks of its observations. -/
theorem windowed_query_answers {stored : List Observation} {r : Request} {s : Instant} {n : Nat}
    (short : ((windowWidth (r.window.map Lapse.toElapsed)).nanos : Int) ≤ Span.maxNanos)
    (origin : ∀ first ∈ ((Selection.ofRequest r).select stored).head?,
      (r.start.map Instant.ofStamp).getD first.time = s)
    (covered : ∀ o ∈ (Selection.ofRequest r).select stored,
      ∃ k < n, InWindow ⟨(windowWidth (r.window.map Lapse.toElapsed)).nanos⟩ s k o.time)
    (sums : ∀ k f, window ⟨(windowWidth (r.window.map Lapse.toElapsed)).nanos⟩ s k = some f →
      LatencySumsFit (((Selection.ofRequest r).select stored).filter fun o => f.holds o.time)) :
    reply (listWindows (inMemory stored) r) =
      .ok (.ok (windowReports ⟨(windowWidth (r.window.map Lapse.toElapsed)).nanos⟩ s
        ((Selection.ofRequest r).select stored) n)) := by
  -- the windows start no later than the first listed observation
  have early : ∀ first ∈ ((Selection.ofRequest r).select stored).head?, s ≤ first.time := by
    intro first listedFirst
    have wanted := wants_of_mem_select (List.mem_of_mem_head? listedFirst)
    rw [← origin first listedFirst]
    cases start : r.start with
    | none => exact Instant.le_refl _
    | some st => exact wanted.2.2.2.2.1 st start
  have sorted : ((Selection.ofRequest r).select stored).Pairwise fun a b => a.time ≤ b.time :=
    pairwise_finish _ _
  have answered := aggregate_eq_windowReports sorted origin early (windowWidth_pos _) short
    covered sums
  simp [listWindows, listObservations, inMemory, answered, bind, Except.bind, reply, pure,
    Except.pure]

/-- A day's observation and a window of nine trillion seconds, which the calendar's end, in the
year 262142, cuts short. -/
example :
    reply (listWindows (inMemory [⟨"a", "b", some ⟨1714564800, 0⟩, none, true, "j", ""⟩])
      { window := some ⟨9000000000000, 0⟩ }) = .error .laterInstant := by
  cbv

end Reachability.History
