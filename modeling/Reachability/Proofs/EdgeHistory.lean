import Mathlib
import Reachability.Agent.Aggregator
import Reachability.Proofs.Listing

/-!
# Edge histories in time order

An edge's history holds its outcomes oldest first. `History.insert` puts a new outcome after
every outcome of its time or earlier, and `History.expire` drops the outcomes before a cutoff
from the front. On a history in time order (`Sorted`) they do what they mean:

* `sorted_insert`: inserting keeps the time order;
* `sameTimes_insert`: at each time the outcomes are those before, and the new one last at its
  own time, as if it had been appended;
* `expire_eq_since`: expiring keeps exactly the outcomes at or after the cutoff.

Histories are compared time by time (`SameTimes`): the outcomes of each time, in their order,
which is what inserting preserves while the times interleave differently. Two such histories
hold the same outcomes (`SameTimes.perm`), and one in time order ends with the last outcome of
its latest time (`le_of_getLast?`, `getLast?_filter_time`).

An edge's history goes through pushes, each with the cutoff of its arrival, and expiries, in
any order of times and cutoffs (`Change`). What should count after them is said without time
order (`arrivals`): the outcomes that no cutoff from their arrival on is after, in the order they
arrived. Main statement, `stays_in_time_order`: after any changes the history is in time order
and holds, at each time, exactly those outcomes in that order, so the place a push walks to is
the partition point of the times (`insert_eq_filter`) and an expiry drops exactly the outcomes
before its cutoff. The invariant is `TimeOrdered`: a step lemma for each change and the run
lemma over the changes. It fixes the history entirely (`replay_eq_mergeSort`): the outcomes
that count, stably sorted by time.
-/

namespace Reachability.Agent.History

open Reachability.Time

/-- The outcomes are in time order. -/
def Sorted (h : History) : Prop := h.Pairwise fun x y => x.1 ≤ y.1

/-- The outcomes at or after a cutoff, in their order. -/
def since (h : History) (cutoff : Instant) : History := h.filter fun x => decide (cutoff ≤ x.1)

/-- Two histories hold the same outcomes at each time, in the same order. -/
def SameTimes (xs ys : History) : Prop := ∀ t, xs.filter (·.1 = t) = ys.filter (·.1 = t)

/-! ## Inserting and expiring -/

/-- Inserting into an empty history gives the one outcome. -/
theorem insert_nil (t : Instant) (ok : Bool) : History.insert [] t ok = [(t, ok)] := rfl

/-- Inserting walks past the outcomes up to the new time. -/
theorem insert_cons (x : Instant × Bool) (h : History) (t : Instant) (ok : Bool) :
    History.insert (x :: h) t ok = if t < x.1 then (t, ok) :: x :: h else x :: h.insert t ok := by
  by_cases later : t < x.1
  · have stop : t.before x.1 = true := later
    simp [History.insert, List.span_eq_takeWhile_dropWhile, stop, later]
  · have walk : t.before x.1 = false := by simpa [LT.lt] using later
    simp [History.insert, List.span_eq_takeWhile_dropWhile, walk, later]

/-- Inserting adds exactly the new outcome: the history after holds it and the old outcomes, in some
order. -/
theorem perm_insert (h : History) (t : Instant) (ok : Bool) : (h.insert t ok).Perm ((t, ok) :: h) := by
  induction h with
  | nil => rfl
  | cons x rest inductionHypothesis =>
    rw [insert_cons]
    split
    · rfl
    · exact (inductionHypothesis.cons x).trans (List.Perm.swap _ _ _)

/-- An outcome is in the history after an insertion exactly when it is the new one or was there
before. -/
theorem mem_insert {h : History} {t : Instant} {ok : Bool} {y : Instant × Bool} :
    y ∈ h.insert t ok ↔ y = (t, ok) ∨ y ∈ h := by
  rw [(perm_insert h t ok).mem_iff, List.mem_cons]

/-- Inserting into a history in time order keeps it in time order: the new outcome goes after every
outcome of its time or earlier and before every later one. -/
theorem sorted_insert {h : History} (sorted : Sorted h) (t : Instant) (ok : Bool) :
    Sorted (h.insert t ok) := by
  induction h with
  | nil => simp [insert_nil, Sorted]
  | cons x rest inductionHypothesis =>
    obtain ⟨first, sortedRest⟩ := List.pairwise_cons.1 sorted
    rw [insert_cons]
    split
    next later =>
      refine List.pairwise_cons.2 ⟨fun y held => ?_, sorted⟩
      rcases List.mem_cons.1 held with rfl | held
      · exact Instant.le_of_lt later
      · exact Instant.le_trans (Instant.le_of_lt later) (first y held)
    next notLater =>
      refine List.pairwise_cons.2 ⟨fun y held => ?_, inductionHypothesis sortedRest⟩
      rcases mem_insert.1 held with rfl | held
      · exact Instant.not_lt_iff.1 notLater
      · exact first y held

/-- No outcome of a history later than `t` is at `t`. -/
theorem filter_time_eq_nil {h : History} {t : Instant} (later : ∀ y ∈ h, t < y.1) :
    h.filter (·.1 = t) = [] :=
  List.filter_eq_nil_iff.2 fun y held same => by
    have equal : y.1 = t := of_decide_eq_true same
    exact Instant.lt_irrefl t (equal ▸ later y held)

/-- A time before the first outcome of a history in time order is before all of them. -/
theorem Sorted.lt_of_lt_head {x : Instant × Bool} {rest : History} (sorted : Sorted (x :: rest))
    {t : Instant} (later : t < x.1) : ∀ y ∈ x :: rest, t < y.1 := fun y held => by
  rcases List.mem_cons.1 held with rfl | held
  · exact later
  · exact Instant.lt_of_lt_of_le later (List.rel_of_pairwise_cons sorted held)

/-- The new outcome goes last among those of its time, whatever the later ones. -/
theorem sameTimes_insert {h : History} (sorted : Sorted h) (t : Instant) (ok : Bool) :
    SameTimes (h.insert t ok) (h ++ [(t, ok)]) := by
  induction h with
  | nil => exact fun _ => rfl
  | cons x rest inductionHypothesis =>
    have sortedRest := sorted.of_cons
    rw [insert_cons]
    intro s
    split
    next later =>
      have after := sorted.lt_of_lt_head later
      by_cases same : t = s
      · subst same
        rw [List.filter_cons, List.filter_append, filter_time_eq_nil after]
        simp
      · simp [List.filter_append, List.filter_cons, same]
    next => simp [List.filter_cons, inductionHypothesis sortedRest s]

/-- On a history in time order, a new outcome goes after every outcome of its time or earlier
and before every later one: the place the walk stops at is the partition point of the times. -/
theorem insert_eq_filter {h : History} (sorted : Sorted h) (t : Instant) (ok : Bool) :
    h.insert t ok =
      h.filter (fun x => decide (x.1 ≤ t)) ++ (t, ok) :: h.filter (fun x => decide (t < x.1)) := by
  induction h with
  | nil => rfl
  | cons x rest inductionHypothesis =>
    rw [insert_cons]
    split
    next later =>
      have after := sorted.lt_of_lt_head later
      have noneEarlier : (x :: rest).filter (fun y => decide (y.1 ≤ t)) = [] :=
        List.filter_eq_nil_iff.2 fun y held => by
          simpa using Instant.not_le_iff.2 (after y held)
      have allLater : (x :: rest).filter (fun y => decide (t < y.1)) = x :: rest :=
        List.filter_eq_self.2 fun y held => decide_eq_true (after y held)
      rw [noneEarlier, allLater, List.nil_append]
    next notLater =>
      have early : x.1 ≤ t := Instant.not_lt_iff.1 notLater
      rw [inductionHypothesis sorted.of_cons]
      simp [early, notLater]

/-- Keeping some outcomes of a history in time order leaves it in time order. -/
theorem Sorted.filter {h : History} (sorted : Sorted h) (p : Instant × Bool → Bool) :
    Sorted (h.filter p) :=
  List.Pairwise.filter p sorted

/-- On a history in time order, expiring is keeping the outcomes from the cutoff on. -/
theorem expire_eq_since {h : History} (sorted : Sorted h) (cutoff : Instant) :
    h.expire cutoff = since h cutoff := by
  induction h with
  | nil => rfl
  | cons x rest inductionHypothesis =>
    obtain ⟨first, sortedRest⟩ := List.pairwise_cons.1 sorted
    by_cases early : x.1 < cutoff
    · have drop : x.1.before cutoff = true := early
      have skip : ¬ cutoff ≤ x.1 := Instant.not_le_iff.2 early
      have dropped : History.expire (x :: rest) cutoff = History.expire rest cutoff := by
        simp [History.expire, drop]
      rw [dropped, inductionHypothesis sortedRest]
      simp [since, skip]
    · have keep : x.1.before cutoff = false := by simpa [LT.lt] using early
      have kept : cutoff ≤ x.1 := Instant.not_lt_iff.1 early
      -- everything after `x` is at least as late, so nothing more is dropped
      have restKept : since rest cutoff = rest :=
        List.filter_eq_self.2 fun y held => decide_eq_true (Instant.le_trans kept (first y held))
      have stays : History.expire (x :: rest) cutoff = x :: rest := by
        simp [History.expire, keep]
      rw [stays]
      unfold since
      rw [List.filter_cons, if_pos (decide_eq_true kept)]
      exact congrArg (x :: ·) restKept.symm

/-- Expiring keeps a history in time order. -/
theorem sorted_expire {h : History} (sorted : Sorted h) (cutoff : Instant) :
    Sorted (h.expire cutoff) := by
  rw [expire_eq_since sorted]
  exact sorted.filter _

/-! ## Comparing histories time by time -/

namespace SameTimes

/-- A history agrees with itself at every time. -/
theorem refl (h : History) : SameTimes h h := fun _ => rfl

/-- Agreement at every time is transitive. -/
theorem trans {xs ys zs : History} (first : SameTimes xs ys) (second : SameTimes ys zs) :
    SameTimes xs zs := fun t => (first t).trans (second t)

/-- Appending the same outcome to two histories that agree at every time keeps them agreeing. -/
theorem append_singleton {xs ys : History} (same : SameTimes xs ys) (x : Instant × Bool) :
    SameTimes (xs ++ [x]) (ys ++ [x]) := fun t => by
  simp only [List.filter_append, same t]

/-- Keeping the outcomes of some times keeps the agreement at every time. -/
theorem filter {xs ys : History} (same : SameTimes xs ys) (p : Instant → Bool) :
    SameTimes (xs.filter fun x => p x.1) (ys.filter fun x => p x.1) := fun t => by
  have swap : ∀ zs : History, (zs.filter fun x => p x.1).filter (·.1 = t) =
      (zs.filter (·.1 = t)).filter fun x => p x.1 := fun zs => by
    simp only [List.filter_filter, Bool.and_comm]
  rw [swap, swap, same t]

/-- Two histories that agree at every time agree from any cutoff on. -/
theorem since {xs ys : History} (same : SameTimes xs ys) (cutoff : Instant) :
    SameTimes (History.since xs cutoff) (History.since ys cutoff) :=
  same.filter fun t => decide (cutoff ≤ t)

/-- Agreeing at every time, two histories hold the same outcomes. -/
theorem perm {xs ys : History} (same : SameTimes xs ys) : xs.Perm ys := by
  refine List.perm_iff_count.2 fun y => ?_
  have atTime := congrArg (List.count y) (same y.1)
  simpa [List.count_filter] using atTime

/-- Of two histories that agree at every time, one is empty exactly when the other is. -/
theorem eq_nil_iff {xs ys : History} (same : SameTimes xs ys) : xs = [] ↔ ys = [] :=
  ⟨fun empty => (empty ▸ same.perm).symm.eq_nil, fun empty => (empty ▸ same.perm).eq_nil⟩

end SameTimes

/-! ## An arrival -/

/-- A history stays in time order when an outcome arrives and the old ones expire. -/
theorem sorted_arrival {h : History} (sorted : Sorted h) (t : Instant) (ok : Bool)
    (cutoff : Instant) : Sorted ((h.insert t ok).expire cutoff) :=
  sorted_expire (sorted_insert sorted t ok) cutoff

/-- An arrival to a history in time order keeps, time by time, what appending the outcome and
keeping the outcomes from the cutoff on keeps. -/
theorem sameTimes_arrival {h outcomes : History} (sorted : Sorted h) (same : SameTimes h outcomes)
    (t : Instant) (ok : Bool) (cutoff : Instant) :
    SameTimes ((h.insert t ok).expire cutoff) (since (outcomes ++ [(t, ok)]) cutoff) := by
  rw [expire_eq_since (sorted_insert sorted t ok)]
  exact ((sameTimes_insert sorted t ok).trans (same.append_singleton _)).since cutoff

/-! ## The last outcome -/

/-- A history in time order ends at its latest time. -/
theorem le_of_getLast? {h : History} (sorted : Sorted h) {last : Instant × Bool}
    (ends : h.getLast? = some last) : ∀ x ∈ h, x.1 ≤ last.1 := by
  obtain ⟨init, rfl⟩ := List.getLast?_eq_some_iff.1 ends
  intro x held
  rcases List.mem_append.1 held with before | final
  · exact (List.pairwise_append.1 sorted).2.2 x before last (List.mem_singleton_self last)
  · rw [List.mem_singleton.1 final]
    exact Instant.le_refl _

/-- The last outcome of a history is the last one of its time. -/
theorem getLast?_filter_time {h : History} {last : Instant × Bool}
    (ends : h.getLast? = some last) : (h.filter (·.1 = last.1)).getLast? = some last := by
  obtain ⟨init, rfl⟩ := List.getLast?_eq_some_iff.1 ends
  simp [List.filter_append]

/-! ## Any pushes and expiries -/

/-- What can happen to an edge's history: an outcome arrives and the outcomes before the cutoff
of its arrival expire, or the outcomes before a cutoff expire. -/
inductive Change where
  | push (t : Instant) (ok : Bool) (cutoff : Instant)
  | expire (cutoff : Instant)
deriving DecidableEq, Repr

namespace Change

/-- The history after a change. -/
def apply (h : History) : Change → History
  | push t ok cutoff => (h.insert t ok).expire cutoff
  | expire cutoff => h.expire cutoff

/-- The cutoff of a change. -/
def cutoff : Change → Instant
  | push _ _ cutoff => cutoff
  | expire cutoff => cutoff

/-- The outcomes that count after a change, in the order they arrived: an arrival is appended,
and only the outcomes from the cutoff on count. -/
def record (log : History) : Change → History
  | push t ok cutoff => since (log ++ [(t, ok)]) cutoff
  | expire cutoff => since log cutoff

end Change

/-- The history after changes, in order, from an empty one. -/
def replay (changes : List Change) : History := changes.foldl Change.apply []

/-- Is no cutoff of the changes after the outcome's time? -/
def outlasts (x : Instant × Bool) (changes : List Change) : Bool :=
  changes.all fun c => decide (c.cutoff ≤ x.1)

/-- The outcomes that count after changes, in the order they arrived: those that outlast every
cutoff from their own arrival on. -/
def arrivals : List Change → History
  | [] => []
  | .push t ok cutoff :: rest =>
    (if outlasts (t, ok) (.push t ok cutoff :: rest) then [(t, ok)] else []) ++ arrivals rest
  | .expire _ :: rest => arrivals rest

/-- Every outcome outlasts no changes. -/
@[simp] theorem outlasts_nil (x : Instant × Bool) : outlasts x [] = true := rfl

/-- An outcome outlasts a push and the changes after it when the push's cutoff is at or before its
time and it outlasts the rest. -/
@[simp] theorem outlasts_push (x : Instant × Bool) (t : Instant) (ok : Bool) (cutoff : Instant)
    (rest : List Change) :
    outlasts x (.push t ok cutoff :: rest) = (decide (cutoff ≤ x.1) && outlasts x rest) := rfl

/-- An outcome outlasts an expiry and the changes after it when the expiry's cutoff is at or before
its time and it outlasts the rest. -/
@[simp] theorem outlasts_expire (x : Instant × Bool) (cutoff : Instant) (rest : List Change) :
    outlasts x (.expire cutoff :: rest) = (decide (cutoff ≤ x.1) && outlasts x rest) := rfl

/-- Keeping the outcomes from a cutoff on, then those that outlast later changes, is keeping those
that do both. -/
theorem filter_outlasts_since (l : History) (cutoff : Instant) (rest : List Change) :
    (since l cutoff).filter (outlasts · rest) =
      l.filter fun x => decide (cutoff ≤ x.1) && outlasts x rest := by
  rw [since, List.filter_filter]
  exact List.filter_congr fun x _ => Bool.and_comm _ _

/-- Recording changes after a log keeps the logged outcomes that outlast them, then the
arrivals that count. -/
theorem foldl_record (log : History) (changes : List Change) :
    changes.foldl Change.record log = log.filter (outlasts · changes) ++ arrivals changes := by
  -- each change appends to the log and cuts it, so the induction is over any log
  induction changes generalizing log with
  | nil => simp [arrivals]
  | cons c rest inductionHypothesis =>
    rw [List.foldl_cons, inductionHypothesis]
    cases c with
    | push t ok cutoff =>
      simp [Change.record, filter_outlasts_since, arrivals, List.filter_append, List.filter_cons]
    | expire cutoff => simp [Change.record, filter_outlasts_since, arrivals]

/-- The arrivals that count are what recording the changes from an empty log leaves. -/
theorem arrivals_eq_foldl (changes : List Change) :
    arrivals changes = changes.foldl Change.record [] := by
  simp [foldl_record]

/-- A history in time order that holds, at each time, the outcomes of a log in the log's
order: the log put in time order, equal times kept in the log's order. -/
structure TimeOrdered (h log : History) : Prop where
  sorted : Sorted h
  sameTimes : SameTimes h log

namespace TimeOrdered

/-- An empty history orders the empty log. -/
theorem nil : TimeOrdered [] [] := ⟨List.Pairwise.nil, SameTimes.refl []⟩

/-- The step lemma: a change keeps a history ordering its log. -/
theorem apply {h log : History} (ordered : TimeOrdered h log) (c : Change) :
    TimeOrdered (c.apply h) (c.record log) := by
  cases c with
  | push t ok cutoff =>
    exact ⟨sorted_arrival ordered.sorted t ok cutoff,
      sameTimes_arrival ordered.sorted ordered.sameTimes t ok cutoff⟩
  | expire cutoff =>
    refine ⟨sorted_expire ordered.sorted cutoff, ?_⟩
    rw [Change.apply, Change.record, expire_eq_since ordered.sorted]
    exact ordered.sameTimes.since cutoff

/-- The run lemma: so do changes, in order. -/
theorem run {h log : History} (ordered : TimeOrdered h log) (changes : List Change) :
    TimeOrdered (changes.foldl Change.apply h) (changes.foldl Change.record log) := by
  induction changes generalizing h log with
  | nil => exact ordered
  | cons c rest inductionHypothesis => exact inductionHypothesis (ordered.apply c)

/-- A history ordering a log is the log sorted by time, a stable sort keeping equal times in
the log's order. -/
theorem eq_mergeSort {h log : History} (ordered : TimeOrdered h log) :
    h = log.mergeSort fun x y => decide (x.1 ≤ y.1) :=
  eq_of_pairwise_of_filter_time Prod.fst ordered.sorted (pairwise_mergeSort_time Prod.fst log)
    fun t => by rw [filter_mergeSort_time, ordered.sameTimes t]

end TimeOrdered

/-- The run lemma from an empty history: the history after any changes orders the arrivals that
count. -/
theorem timeOrdered_replay (changes : List Change) :
    TimeOrdered (replay changes) (arrivals changes) := by
  rw [arrivals_eq_foldl]
  exact TimeOrdered.nil.run changes

/-- Whatever the times pushed, in whatever order, and whatever the cutoffs, an edge's history
stays in time order and holds, at each time, the outcomes that still count in the order they
arrived. So a push goes after every outcome of its time or earlier and before every later one,
and an expiry keeps exactly the outcomes at or after its cutoff. -/
theorem stays_in_time_order (changes : List Change) :
    Sorted (replay changes) ∧ SameTimes (replay changes) (arrivals changes) ∧
    (∀ t ok, (replay changes).insert t ok =
      (replay changes).filter (fun x => decide (x.1 ≤ t)) ++
        (t, ok) :: (replay changes).filter (fun x => decide (t < x.1))) ∧
    ∀ cutoff, (replay changes).expire cutoff = since (replay changes) cutoff := by
  have ordered := timeOrdered_replay changes
  exact ⟨ordered.sorted, ordered.sameTimes, insert_eq_filter ordered.sorted,
    fun cutoff => expire_eq_since ordered.sorted cutoff⟩

/-- After any changes an edge's history is determined by the outcomes that count: it is them
sorted by time, those of one time in the order they arrived. -/
theorem replay_eq_mergeSort (changes : List Change) :
    replay changes = (arrivals changes).mergeSort fun x y => decide (x.1 ≤ y.1) :=
  (timeOrdered_replay changes).eq_mergeSort

/-- Pushes out of order: the one at 3 s goes before the one at 5 s pushed earlier, the second
one at 5 s after the first; the expiry at 4 s then drops the one at 3 s. -/
example :
    replay [.push ⟨5, 0⟩ true ⟨0, 0⟩, .push ⟨3, 0⟩ false ⟨0, 0⟩, .push ⟨5, 0⟩ false ⟨0, 0⟩,
      .push ⟨4, 0⟩ true ⟨0, 0⟩, .expire ⟨4, 0⟩] =
      [(⟨4, 0⟩, true), (⟨5, 0⟩, true), (⟨5, 0⟩, false)] := by
  decide

end Reachability.Agent.History
