import Mathlib
import Reachability.History.Selection

/-!
# Listings depend only on what each time holds

A listing sorts the selected observations by time with a stable sort, so observations of one
time stay in the order they were given. Such a sort is determined by the observations of each
time in their order: two inputs that agree time by time, however they interleave different
times, sort to the same list (`mergeSort_time_eq_of_filter`, for items of any kind with a time;
`byTime_eq_of_filter`), and so finish to the same listing (`finish_eq_of_filter`). This is what lets a store that keeps its observations grouped by
hour answer as one that keeps them in the order they came.

Instants are ordered by seconds, then fraction; the order is total, so it sorts.
-/

namespace Reachability.Time.Instant

/-- Instants are ordered by seconds, then by the fraction of the second. -/
theorem le_iff {a b : Instant} :
    a ≤ b ↔ a.secs < b.secs ∨ (a.secs = b.secs ∧ a.nanos ≤ b.nanos) := by
  show b.before a = false ↔ _
  simp only [before, Bool.or_eq_false_iff, decide_eq_false_iff_not, Bool.and_eq_false_iff,
    beq_eq_false_iff_ne]
  omega

/-- One instant is before another when its second is earlier, or the fraction is smaller within the
same second. -/
theorem lt_iff {a b : Instant} :
    a < b ↔ a.secs < b.secs ∨ (a.secs = b.secs ∧ a.nanos < b.nanos) := by
  show a.before b = true ↔ _
  simp only [before, Bool.or_eq_true, decide_eq_true_eq, Bool.and_eq_true, beq_iff_eq]

/-- Every instant is at or before itself. -/
theorem le_refl (a : Instant) : a ≤ a := le_iff.2 (.inr ⟨rfl, Nat.le_refl _⟩)

/-- Being at or before another instant is transitive. -/
theorem le_trans {a b c : Instant} (first : a ≤ b) (second : b ≤ c) : a ≤ c := by
  rw [le_iff] at *
  omega

/-- Any two instants are ordered one way or the other, so a sort by time is well defined. -/
theorem le_total (a b : Instant) : a ≤ b ∨ b ≤ a := by
  rw [le_iff, le_iff]
  omega

/-- Two instants each at or before the other are the same instant. -/
theorem le_antisymm {a b : Instant} (first : a ≤ b) (second : b ≤ a) : a = b := by
  rw [le_iff] at first second
  have secs : a.secs = b.secs := by omega
  have nanos : a.nanos = b.nanos := by omega
  cases a
  cases b
  simp_all

/-- An instant not before another is at or after it. -/
theorem not_lt_iff {a b : Instant} : ¬ a < b ↔ b ≤ a := by
  rw [lt_iff, le_iff]
  omega

/-- An instant not at or before another is after it. -/
theorem not_le_iff {a b : Instant} : ¬ a ≤ b ↔ b < a := by
  rw [le_iff, lt_iff]
  omega

/-- No instant is before itself. -/
theorem lt_irrefl (a : Instant) : ¬ a < a := by
  rw [lt_iff]
  omega

/-- Before, then at or before, is before. -/
theorem lt_of_lt_of_le {a b c : Instant} (first : a < b) (second : b ≤ c) : a < c := by
  rw [lt_iff] at *
  rw [le_iff] at second
  omega

/-- At or before, then before, is before. -/
theorem lt_of_le_of_lt {a b c : Instant} (first : a ≤ b) (second : b < c) : a < c := by
  rw [lt_iff] at *
  rw [le_iff] at first
  omega

/-- Being before another instant is transitive. -/
theorem lt_trans {a b c : Instant} (first : a < b) (second : b < c) : a < c := by
  rw [lt_iff] at *
  omega

/-- Of two instants, at most one is before the other. -/
theorem lt_asymm {a b : Instant} (first : a < b) : ¬ b < a := by
  rw [lt_iff] at *
  omega

/-- An instant before another is at or before it. -/
theorem le_of_lt {a b : Instant} (lt : a < b) : a ≤ b := by
  rw [lt_iff] at lt
  rw [le_iff]
  omega

end Reachability.Time.Instant

namespace Reachability.Time

/-! ## Stable sorts by time -/

section SortByTime

variable {α : Type} (time : α → Instant)

/-- The comparison the stable sort is given is transitive on the items' times. -/
theorem time_le_trans (a b c : α) (first : decide (time a ≤ time b) = true)
    (second : decide (time b ≤ time c) = true) : decide (time a ≤ time c) = true := by
  simp only [decide_eq_true_eq] at *
  exact Instant.le_trans first second

/-- The comparison the stable sort is given orders any two items one way or the other. -/
theorem time_le_total (a b : α) : (decide (time a ≤ time b) || decide (time b ≤ time a)) = true := by
  simp only [Bool.or_eq_true, decide_eq_true_eq]
  exact Instant.le_total (time a) (time b)

/-- A stable sort by time leaves the items in order of time. -/
theorem pairwise_mergeSort_time (xs : List α) :
    (xs.mergeSort fun a b => decide (time a ≤ time b)).Pairwise fun a b => time a ≤ time b :=
  (List.pairwise_mergeSort (time_le_trans time) (time_le_total time) xs).imp of_decide_eq_true

/-- A stable sort by time keeps the items of each time in their order: they form a sorted
sublist of the input, which the stable sort keeps, and there are as many of them after as
before. -/
theorem filter_mergeSort_time (xs : List α) (t : Instant) :
    (xs.mergeSort fun a b => decide (time a ≤ time b)).filter (time · = t) =
      xs.filter (time · = t) := by
  have sorted : (xs.filter (time · = t)).Pairwise fun a b => decide (time a ≤ time b) = true := by
    apply List.pairwise_of_forall_mem_list
    intro a held b held'
    simp only [List.mem_filter, decide_eq_true_eq] at held held'
    simp [held.2, held'.2, Instant.le_refl]
  have kept : List.Sublist (xs.filter (time · = t))
      (xs.mergeSort fun a b => decide (time a ≤ time b)) :=
    List.sublist_mergeSort (time_le_trans time) (time_le_total time) sorted List.filter_sublist
  have sub := kept.filter (time · = t)
  rw [List.filter_filter] at sub
  simp only [Bool.and_self] at sub
  have sameLength : (xs.filter (time · = t)).length =
      ((xs.mergeSort fun a b => decide (time a ≤ time b)).filter (time · = t)).length :=
    (((List.mergeSort_perm xs _).filter _).length_eq).symm
  exact (sub.eq_of_length sameLength).symm

/-- Two lists in time order that hold the same items of each time, in the same order, are the
same list. The induction takes the first items of both: each lies in the other list, so
neither is later than the other, and the items of their time start with them. -/
theorem eq_of_pairwise_of_filter_time {xs ys : List α}
    (sortedXs : xs.Pairwise fun a b => time a ≤ time b)
    (sortedYs : ys.Pairwise fun a b => time a ≤ time b)
    (same : ∀ t, xs.filter (time · = t) = ys.filter (time · = t)) : xs = ys := by
  induction xs generalizing ys with
  | nil =>
    cases ys with
    | nil => rfl
    | cons b rest =>
      have atB := same (time b)
      simp at atB
  | cons a rest inductionHypothesis =>
    cases ys with
    | nil =>
      have atA := same (time a)
      simp at atA
    | cons b rest' =>
      have member {zs : List α} {x : α} (held : x ∈ zs) : x ∈ zs.filter (time · = time x) := by
        simp [held]
      have bHeld : b ∈ a :: rest := by
        have := same (time b) ▸ member (List.mem_cons_self (a := b) (l := rest'))
        exact List.mem_of_mem_filter this
      have aHeld : a ∈ b :: rest' := by
        have := (same (time a)).symm ▸ member (List.mem_cons_self (a := a) (l := rest))
        exact List.mem_of_mem_filter this
      have first {x : α} {zs : List α} (sorted : (x :: zs).Pairwise fun a b => time a ≤ time b)
          {y : α} (held : y ∈ x :: zs) : time x ≤ time y := by
        rcases List.mem_cons.1 held with rfl | later
        · exact Instant.le_refl _
        · exact List.rel_of_pairwise_cons sorted later
      have sameTime : time a = time b :=
        Instant.le_antisymm (first sortedXs bHeld) (first sortedYs aHeld)
      have heads := same (time a)
      simp only [List.filter_cons, sameTime, decide_true, if_true, List.cons.injEq] at heads
      obtain ⟨rfl, -⟩ := heads
      congr 1
      apply inductionHypothesis sortedXs.of_cons sortedYs.of_cons
      intro t
      have atT := same t
      by_cases now : time a = t <;> simpa [List.filter_cons, now] using atT

/-- Sorting by time depends only on the items of each time, in their order. -/
theorem mergeSort_time_eq_of_filter {xs ys : List α}
    (same : ∀ t, xs.filter (time · = t) = ys.filter (time · = t)) :
    (xs.mergeSort fun a b => decide (time a ≤ time b)) =
      ys.mergeSort fun a b => decide (time a ≤ time b) :=
  eq_of_pairwise_of_filter_time time (pairwise_mergeSort_time time xs)
    (pairwise_mergeSort_time time ys) fun t => by
      rw [filter_mergeSort_time, filter_mergeSort_time, same]

end SortByTime

end Reachability.Time

namespace Reachability.History.Selection

open Reachability.Time
open Reachability.Probe

section Sorting

/-- The order `byTime` sorts by, as the sort takes it. -/
abbrev timeOrder (a b : Observation) : Bool := decide (a.time ≤ b.time)

/-- `byTime` leaves the observations in order of time. -/
theorem pairwise_byTime (os : List Observation) :
    (byTime os).Pairwise fun a b => timeOrder a b = true :=
  List.pairwise_mergeSort (time_le_trans Observation.time) (time_le_total Observation.time) os

/-- Sorting keeps the observations of each time in their order. -/
theorem filter_byTime (os : List Observation) (t : Instant) :
    (byTime os).filter (·.time = t) = os.filter (·.time = t) :=
  filter_mergeSort_time Observation.time os t

/-- Sorting by time depends only on the observations of each time, in their order. -/
theorem byTime_eq_of_filter {xs ys : List Observation}
    (same : ∀ t, xs.filter (·.time = t) = ys.filter (·.time = t)) : byTime xs = byTime ys :=
  mergeSort_time_eq_of_filter Observation.time same

/-- A listing depends only on the observations of each time, in their order. -/
theorem finish_eq_of_filter (sel : Selection) {xs ys : List Observation}
    (same : ∀ t, xs.filter (·.time = t) = ys.filter (·.time = t)) :
    sel.finish xs = sel.finish ys := by
  simp only [finish, byTime_eq_of_filter same]

end Sorting

end Reachability.History.Selection
