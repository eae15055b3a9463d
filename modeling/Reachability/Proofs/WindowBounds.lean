import Mathlib
import Reachability.History.Window
import Reachability.Proofs.Listing

/-!
# Window bounds, moved on one width at a time

Windows of width `d` from `s` are bounded by `s` moved on by `d` again and again: the `k`-th
bound is `bound d s k`, and the `k`-th window runs from the `k`-th bound to the next. Each move
is `Instant.shift?`, with its leap-second rule, and the bounds stop at the first move that
leaves the calendar.

Aggregation does not make these moves one by one. Outside a leap second, a move by `d` adds
`d` nanoseconds, so `stepPlain` computes the window that holds an instant by one division. A
leap second needs care: with a width under a second the bounds first step through the leap
second itself, and with a longer width the first move leaves it. Main statements:

* `bound_lt_bound`: the bounds increase, so an instant lies in at most one window
  (`index_unique`);
* `advance_eq`: moving on from a bound to the window that holds a later instant gives exactly
  that window, whenever it lies inside the calendar.
-/

namespace Reachability.Time

namespace Span

/-- A width that is not negative has as many whole seconds as its nanoseconds divided by a second.
-/
theorem wholeSeconds_of_nonneg {d : Span} (nonneg : 0 ≤ d.nanos) :
    d.wholeSeconds = d.nanos / (nanosPerSecond : Int) :=
  Int.tdiv_eq_ediv_of_nonneg nonneg

/-- A width that is not negative has, below the second, its nanoseconds modulo a second. -/
theorem subsecNanos_of_nonneg {d : Span} (nonneg : 0 ≤ d.nanos) :
    d.subsecNanos = d.nanos % (nanosPerSecond : Int) :=
  Int.tmod_eq_emod_of_nonneg nonneg

end Span

namespace Instant

/-! ## Counting in nanoseconds -/

/-- An instant made of a nanosecond count counts those nanoseconds. -/
theorem totalNanos_ofNanos (n : Int) : (ofNanos n).totalNanos = n := by
  simp only [totalNanos, ofNanos, nanosPerSecond]
  omega

/-- An instant made of a nanosecond count lies outside a leap second. -/
theorem isLeap_ofNanos (n : Int) : (ofNanos n).isLeap = false := by
  simp only [isLeap, ofNanos, nanosPerSecond, ge_iff_le, decide_eq_false_iff_not, not_le]
  omega

/-- An instant outside a leap second is the instant of its nanosecond count. -/
theorem ofNanos_totalNanos {t : Instant} (plain : t.isLeap = false) : ofNanos t.totalNanos = t := by
  obtain ⟨secs, nanos⟩ := t
  simp only [isLeap, nanosPerSecond, ge_iff_le, decide_eq_false_iff_not, not_le] at plain
  simp only [ofNanos, totalNanos, nanosPerSecond, mk.injEq]
  constructor <;> omega

/-- Against an instant outside a leap second, order is the order of nanosecond counts, the
other instant counted on the clock that stands still during a leap second. -/
theorem le_iff_totalNanos_le {u t : Instant} (plain : u.isLeap = false) :
    u ≤ t ↔ u.totalNanos ≤ t.flatNanos := by
  simp only [isLeap, nanosPerSecond, ge_iff_le, decide_eq_false_iff_not, not_le] at plain
  rw [le_iff]
  simp only [totalNanos, flatNanos, nanosPerSecond]
  omega

/-- Against an instant outside a leap second, being before is the order of nanosecond counts, the
other instant counted on the clock that stands still during a leap second. -/
theorem lt_iff_flatNanos_lt {u t : Instant} (plain : u.isLeap = false) :
    t < u ↔ t.flatNanos < u.totalNanos := by
  rw [← not_le_iff, le_iff_totalNanos_le plain]
  omega

/-! ## Moving forward -/

/-- Outside a leap second a move adds its nanoseconds. -/
theorem shift?_of_not_leap {t : Instant} (plain : t.isLeap = false) (d : Span) :
    t.shift? d = if inRange (ofNanos (t.totalNanos + d.nanos)).secs then
      some (ofNanos (t.totalNanos + d.nanos)) else none := by
  simp [shift?, plain]

/-- A move forward from outside a leap second lands outside one, inside the calendar. -/
theorem eq_ofNanos_of_shift? {t u : Instant} {d : Span} (plain : t.isLeap = false)
    (moved : t.shift? d = some u) :
    u = ofNanos (t.totalNanos + d.nanos) ∧ inRange u.secs = true := by
  rw [shift?_of_not_leap plain] at moved
  split at moved
  · cases moved
    exact ⟨rfl, by assumption⟩
  · cases moved

/-- A move by a positive span lands later. -/
theorem lt_of_shift? {t u : Instant} {d : Span} (positive : 0 < d.nanos)
    (moved : t.shift? d = some u) : t < u := by
  cases leap : t.isLeap
  · obtain ⟨rfl, -⟩ := eq_ofNanos_of_shift? leap moved
    rw [lt_iff_flatNanos_lt (isLeap_ofNanos _), totalNanos_ofNanos]
    simp only [isLeap, nanosPerSecond, ge_iff_le, decide_eq_false_iff_not, not_le] at leap
    simp only [flatNanos, totalNanos, nanosPerSecond]
    omega
  · have whole := Span.wholeSeconds_of_nonneg positive.le
    have sub := Span.subsecNanos_of_nonneg positive.le
    simp only [isLeap, ge_iff_le, decide_eq_true_eq] at leap
    simp only [shift?, isLeap, ge_iff_le, leap, decide_true, if_true, whole, sub, Bool.or_eq_true,
      Bool.and_eq_true, decide_eq_true_eq] at moved
    split_ifs at moved with forward backward
    · -- the move leaves the leap second from the second before it
      obtain ⟨-, landed⟩ := Option.ite_none_right_eq_some.1 moved
      obtain rfl := Option.some.inj landed
      rw [lt_iff_flatNanos_lt (isLeap_ofNanos _), totalNanos_ofNanos]
      simp only [flatNanos, totalNanos, nanosPerSecond] at forward leap ⊢
      omega
    · simp only [nanosPerSecond] at backward forward
      omega
    · -- the move stays inside the leap second
      cases moved
      rw [lt_iff]
      refine .inr ⟨rfl, ?_⟩
      simp only [nanosPerSecond] at backward forward leap ⊢
      omega

/-- From inside a leap second, a move that passes its end lands outside it: the move counts
from the same fraction of the second before. -/
theorem shift?_leaving {t : Instant} {d : Span} (positive : 0 < d.nanos) (leap : t.isLeap = true)
    (leaves : 2 * (nanosPerSecond : Int) ≤ t.nanos + d.nanos) :
    t.shift? d = if inRange (ofNanos (t.totalNanos - nanosPerSecond + d.nanos)).secs then
      some (ofNanos (t.totalNanos - nanosPerSecond + d.nanos)) else none := by
  have whole := Span.wholeSeconds_of_nonneg positive.le
  have sub := Span.subsecNanos_of_nonneg positive.le
  have passes : d.wholeSeconds > 0 ∨
      (d.subsecNanos > 0 ∧ (t.nanos : Int) + d.subsecNanos ≥ 2 * (nanosPerSecond : Int)) := by
    simp only [isLeap, ge_iff_le, decide_eq_true_eq] at leap
    rw [whole, sub]
    simp only [nanosPerSecond] at leap leaves ⊢
    omega
  simp only [shift?, leap, if_true, Bool.or_eq_true, Bool.and_eq_true, decide_eq_true_eq, passes]

/-- A move that ends inside the same leap second stays in it, adding to the fraction. -/
theorem shift?_inside {t : Instant} {d : Span} (positive : 0 < d.nanos) (leap : t.isLeap = true)
    (stays : (t.nanos : Int) + d.nanos < 2 * (nanosPerSecond : Int)) :
    t.shift? d = some ⟨t.secs, t.nanos + d.nanos.toNat⟩ := by
  have whole := Span.wholeSeconds_of_nonneg positive.le
  have sub := Span.subsecNanos_of_nonneg positive.le
  simp only [isLeap, ge_iff_le, decide_eq_true_eq] at leap
  have short : d.nanos < (nanosPerSecond : Int) := by
    simp only [nanosPerSecond] at leap stays ⊢
    omega
  have stay : ¬ (d.wholeSeconds > 0 ∨
      (d.subsecNanos > 0 ∧ 2 * (nanosPerSecond : Int) ≤ t.nanos + d.subsecNanos)) := by
    rw [whole, sub]
    simp only [nanosPerSecond] at short stays ⊢
    omega
  have notBack : ¬ d.wholeSeconds < 0 := by
    rw [whole]
    simp only [nanosPerSecond] at short ⊢
    omega
  have fraction : d.subsecNanos = d.nanos := by
    rw [sub]
    simp only [nanosPerSecond] at short ⊢
    omega
  unfold shift?
  simp only [isLeap, ge_iff_le, leap, decide_true, if_true, Bool.or_eq_true,
    Bool.and_eq_true, decide_eq_true_eq]
  rw [if_neg stay, if_neg notBack, fraction, Option.some.injEq, mk.injEq]
  omega

end Instant

end Reachability.Time

namespace Reachability.History

open Reachability.Time

/-! ## Bounds -/

/-- The bounds of windows of width `d` from `s`: the `k`-th is `s` moved on `k` times by `d`,
and there is none once a move leaves the calendar. -/
def bound (d : Span) (s : Instant) : Nat → Option Instant
  | 0 => some s
  | k + 1 => (bound d s k).bind (·.shift? d)

variable {d : Span} {s : Instant}

/-- The first bound is the start. -/
@[simp] theorem bound_zero : bound d s 0 = some s := rfl

/-- Each next bound is the one before moved on by the width, while inside the calendar. -/
theorem bound_succ (k : Nat) : bound d s (k + 1) = (bound d s k).bind (·.shift? d) := rfl

/-- Moving on `j + k` times is moving on `j` times, then `k` more from there. -/
theorem bound_add (j k : Nat) : bound d s (j + k) = (bound d s j).bind fun e => bound d e k := by
  induction k with
  | zero => cases bound d s j <;> simp
  | succ k inductionHypothesis =>
    rw [← Nat.add_assoc, bound_succ, inductionHypothesis]
    cases bound d s j <;> simp [bound_succ]

/-- Once a move leaves the calendar there are no more bounds. -/
theorem bound_of_le {j k : Nat} (le : j ≤ k) {b : Instant} (found : bound d s k = some b) :
    ∃ a, bound d s j = some a := by
  obtain ⟨i, rfl⟩ := Nat.exists_eq_add_of_le le
  rw [bound_add] at found
  cases held : bound d s j with
  | none => simp [held] at found
  | some a => exact ⟨a, rfl⟩

/-- Bounds of a positive width increase. -/
theorem bound_lt_bound (positive : 0 < d.nanos) {j k : Nat} (lt : j < k) {a b : Instant}
    (lower : bound d s j = some a) (upper : bound d s k = some b) : a < b := by
  induction k generalizing b with
  | zero => cases lt
  | succ k inductionHypothesis =>
    rw [bound_succ] at upper
    obtain ⟨c, found, moved⟩ := Option.bind_eq_some_iff.1 upper
    have step := Instant.lt_of_shift? positive moved
    rcases Nat.lt_succ_iff_lt_or_eq.1 lt with earlier | rfl
    · exact Instant.lt_trans (inductionHypothesis earlier found) step
    · rw [lower] at found
      cases found
      exact step

/-- Bounds of a positive width never decrease. -/
theorem bound_le_bound (positive : 0 < d.nanos) {j k : Nat} (le : j ≤ k) {a b : Instant}
    (lower : bound d s j = some a) (upper : bound d s k = some b) : a ≤ b := by
  rcases Nat.lt_or_eq_of_le le with lt | rfl
  · exact Instant.le_of_lt (bound_lt_bound positive lt lower upper)
  · rw [lower] at upper
    cases upper
    exact Instant.le_refl a

/-- From outside a leap second the bounds are counted in nanoseconds: the `i`-th lies `i`
widths on. -/
theorem bound_of_not_leap {e b : Instant} (plain : e.isLeap = false) {i : Nat}
    (found : bound d e i = some b) : b = Instant.ofNanos (e.totalNanos + i * d.nanos) := by
  induction i generalizing b with
  | zero =>
    cases found
    simp [Instant.ofNanos_totalNanos plain]
  | succ i inductionHypothesis =>
    rw [bound_succ] at found
    obtain ⟨c, earlier, moved⟩ := Option.bind_eq_some_iff.1 found
    rw [inductionHypothesis earlier] at moved
    obtain ⟨rfl, -⟩ := Instant.eq_ofNanos_of_shift? (Instant.isLeap_ofNanos _) moved
    rw [Instant.totalNanos_ofNanos]
    push_cast
    ring_nf

/-- A bound that exists lies inside the calendar, when it was reached from outside a leap
second. -/
theorem inRange_of_bound {e c b : Instant} {i : Nat} (earlier : bound d e i = some c)
    (plain : c.isLeap = false) (found : bound d e (i + 1) = some b) :
    Instant.inRange b.secs = true := by
  rw [bound_succ, earlier] at found
  exact (Instant.eq_ofNanos_of_shift? plain found).2

/-! ## Finding the window of an instant -/

/-- Outside a leap second the window holding `t` is found by one division: `stepPlain` gives
the `i`-th window from `e` when that window holds `t`. -/
theorem stepPlain_eq (positive : 0 < d.nanos) {e t a b : Instant} (plain : e.isLeap = false)
    {i : Nat} (lower : bound d e i = some a) (upper : bound d e (i + 1) = some b) (after : a ≤ t)
    (before : t < b) : stepPlain d e t = .ok ⟨a, b⟩ := by
  have atA := bound_of_not_leap plain lower
  have atB := bound_of_not_leap plain upper
  have inside := inRange_of_bound lower (atA ▸ Instant.isLeap_ofNanos _) upper
  rw [atA, Instant.le_iff_totalNanos_le (Instant.isLeap_ofNanos _),
    Instant.totalNanos_ofNanos] at after
  rw [atB, Instant.lt_iff_flatNanos_lt (Instant.isLeap_ofNanos _),
    Instant.totalNanos_ofNanos] at before
  push_cast at before
  -- the division counts the whole widths between `e` and `t`
  have steps : (t.flatNanos - e.totalNanos) / d.nanos = i := by
    apply le_antisymm
    · have below := (Int.ediv_lt_iff_lt_mul positive).2
        (show t.flatNanos - e.totalNanos < (i + 1) * d.nanos by linarith)
      omega
    · exact (Int.le_ediv_iff_mul_le positive).2 (by linarith)
  have stop : Instant.ofNanos (e.totalNanos + ((i : Int) + 1) * d.nanos) = b := by
    rw [atB]
    push_cast
    rfl
  simp only [stepPlain, steps, add_sub_cancel_right, ← atA, stop, inside, if_true]

/-- From inside a leap second, windows narrower than a second step through it: the `i`-th
bound adds `i` widths to the fraction, as long as that stays inside the leap second. -/
theorem bound_inside (positive : 0 < d.nanos) {e : Instant} (leap : e.isLeap = true) {i : Nat}
    (fits : i = 0 ∨ e.nanos + i * d.nanos.toNat < 2 * nanosPerSecond) :
    bound d e i = some ⟨e.secs, e.nanos + i * d.nanos.toNat⟩ := by
  induction i with
  | zero => simp
  | succ i inductionHypothesis =>
    have widths : (i + 1) * d.nanos.toNat = i * d.nanos.toNat + d.nanos.toNat := Nat.succ_mul _ _
    have width : (d.nanos.toNat : Int) = d.nanos := Int.toNat_of_nonneg positive.le
    have fits' : e.nanos + i * d.nanos.toNat + d.nanos.toNat < 2 * nanosPerSecond := by
      rcases fits with zero | fits
      · cases zero
      · omega
    have earlier := inductionHypothesis (.inr (by omega))
    have stillLeap : (⟨e.secs, e.nanos + i * d.nanos.toNat⟩ : Instant).isLeap = true := by
      simp only [Instant.isLeap, ge_iff_le, decide_eq_true_eq] at leap ⊢
      omega
    have stays : ((e.nanos + i * d.nanos.toNat : Nat) : Int) + d.nanos < 2 * (nanosPerSecond : Int) := by
      rw [← width]
      exact_mod_cast fits'
    rw [bound_succ, earlier, Option.bind_some, Instant.shift?_inside positive stillLeap stays]
    simp only [Option.some.injEq, Instant.mk.injEq, true_and]
    omega

/-- Leaving a leap second from its last bound `last`, the `m`-th: the next window ends where
the move from `last` lands, and every later window is found outside the leap second. -/
theorem leave_eq (positive : 0 < d.nanos) {e last t a b : Instant} {m i : Nat}
    (atLast : bound d e m = some last) (leap : last.isLeap = true)
    (leaves : 2 * (nanosPerSecond : Int) ≤ last.nanos + d.nanos) (late : m ≤ i)
    (lower : bound d e i = some a) (upper : bound d e (i + 1) = some b) (after : a ≤ t)
    (before : t < b) :
    (match last.shift? d with
      | none => Except.error Overflow.laterInstant
      | some e1 => if t < e1 then Except.ok (⟨last, e1⟩ : Frame) else stepPlain d e1 t) =
      .ok ⟨a, b⟩ := by
  -- the move from `last` exists, since a later bound does
  obtain ⟨e1, next⟩ := bound_of_le (Nat.succ_le_succ late) upper
  have moved : last.shift? d = some e1 := by
    rw [bound_succ, atLast] at next
    exact next
  have plain : e1.isLeap = false := by
    rw [Instant.shift?_leaving positive leap leaves] at moved
    obtain ⟨-, landed⟩ := Option.ite_none_right_eq_some.1 moved
    rw [← Option.some.inj landed]
    exact Instant.isLeap_ofNanos _
  simp only [moved]
  rcases Nat.lt_or_eq_of_le late with later | rfl
  · -- a later window, found outside the leap second
    have reached : e1 ≤ t :=
      Instant.le_trans (bound_le_bound positive (Nat.succ_le_of_lt later) next lower) after
    rw [if_neg (Instant.not_lt_iff.2 reached)]
    obtain ⟨j, rfl⟩ := Nat.exists_eq_add_of_lt later
    rw [show m + j + 1 = (m + 1) + j by omega, bound_add, next, Option.bind_some] at lower
    rw [show m + j + 1 + 1 = (m + 1) + (j + 1) by omega, bound_add, next,
      Option.bind_some] at upper
    exact stepPlain_eq positive plain lower upper after before
  · -- the window right after `last`
    rw [atLast] at lower
    cases lower
    rw [next] at upper
    cases upper
    rw [if_pos before]

/-- A width under a second steps through a leap second: with `m` the number of widths that
still fit in it, the bounds up to the `m`-th stay in the leap second, and the move from the
`m`-th leaves it. -/
theorem bounds_through_leap (positive : 0 < d.nanos) {e : Instant} (leap : e.isLeap = true) :
    (∀ j ≤ (2 * nanosPerSecond - 1 - e.nanos) / d.nanos.toNat,
      bound d e j = some ⟨e.secs, e.nanos + j * d.nanos.toNat⟩) ∧
    2 * (nanosPerSecond : Int) ≤ ((e.nanos + (2 * nanosPerSecond - 1 - e.nanos) /
      d.nanos.toNat * d.nanos.toNat : Nat) : Int) + d.nanos := by
  have widthPos : 0 < d.nanos.toNat := by omega
  have filled := Nat.div_mul_le_self (2 * nanosPerSecond - 1 - e.nanos) d.nanos.toNat
  have overfilled := Nat.lt_div_mul_add (a := 2 * nanosPerSecond - 1 - e.nanos) widthPos
  generalize (2 * nanosPerSecond - 1 - e.nanos) / d.nanos.toNat = m at filled overfilled ⊢
  constructor
  · intro j le
    apply bound_inside positive leap
    rcases Nat.eq_zero_or_pos j with zero | pos
    · exact .inl zero
    · have := Nat.mul_le_mul_right d.nanos.toNat le
      have := Nat.le_mul_of_pos_left d.nanos.toNat pos
      exact .inr (by omega)
  · have passes : 2 * nanosPerSecond ≤ e.nanos + m * d.nanos.toNat + d.nanos.toNat := by
      simp only [nanosPerSecond] at overfilled ⊢
      omega
    simp only [nanosPerSecond] at passes ⊢
    omega

/-- Moving on from a bound `e` to the window that holds a later instant `t` gives that
window, when its bounds are inside the calendar. -/
theorem advance_eq (positive : 0 < d.nanos) {e t a b : Instant} {i : Nat}
    (lower : bound d e i = some a) (upper : bound d e (i + 1) = some b) (after : a ≤ t)
    (before : t < b) : advance d e t = .ok ⟨a, b⟩ := by
  cases leap : e.isLeap
  · simp only [advance, leap, Bool.false_eq_true, if_false]
    exact stepPlain_eq positive leap lower upper after before
  have atLeast := leap
  simp only [Instant.isLeap, ge_iff_le, decide_eq_true_eq] at atLeast
  have whole := Span.wholeSeconds_of_nonneg positive.le
  by_cases long : d.wholeSeconds > 0
  · -- a width of a second or more leaves the leap second at once
    have leaves : 2 * (nanosPerSecond : Int) ≤ e.nanos + d.nanos := by
      rw [whole] at long
      simp only [nanosPerSecond] at long atLeast ⊢
      omega
    simp only [advance, leap, if_true, long]
    exact leave_eq positive (m := 0) rfl leap leaves (Nat.zero_le _) lower upper after before
  -- a narrower width steps through the leap second first
  simp only [advance, leap, if_true, long, if_false]
  obtain ⟨inside, leaves⟩ := bounds_through_leap positive leap
  generalize (2 * nanosPerSecond - 1 - e.nanos) / d.nanos.toNat = m at inside leaves ⊢
  -- the last bound inside the leap second, the `m`-th
  have atLast := inside m (Nat.le_refl m)
  have lastLeap : (⟨e.secs, e.nanos + m * d.nanos.toNat⟩ : Instant).isLeap = true := by
    simp only [Instant.isLeap, ge_iff_le, decide_eq_true_eq]
    omega
  have start : e ≤ t := Instant.le_trans (bound_le_bound positive (Nat.zero_le i) rfl lower) after
  rw [Instant.le_iff] at start
  split_ifs with early
  · -- `t` lies in the leap second before the last bound, so in an earlier window
    have earlier : i < m := by
      by_contra late
      have reached :=
        Instant.le_trans (bound_le_bound positive (Nat.le_of_not_lt late) atLast lower) after
      rw [Instant.le_iff] at reached
      dsimp only at reached
      omega
    rw [inside i earlier.le] at lower
    rw [inside (i + 1) earlier] at upper
    cases lower
    cases upper
    rw [Instant.le_iff] at after
    rw [Instant.lt_iff] at before
    dsimp only at after before
    have widths : (i + 1) * d.nanos.toNat = i * d.nanos.toNat + d.nanos.toNat := Nat.succ_mul _ _
    have count : (t.nanos - e.nanos) / d.nanos.toNat = i :=
      Nat.div_eq_of_lt_le (by omega) (by omega)
    rw [count, Nat.add_sub_cancel]
  · -- `t` lies at or after the last bound
    apply leave_eq positive atLast lastLeap leaves _ lower upper after before
    by_contra early'
    have lt : i < m := Nat.lt_of_not_le early'
    rw [inside (i + 1) lt] at upper
    cases upper
    rw [Instant.lt_iff] at before
    dsimp only at before
    have := Nat.mul_le_mul_right d.nanos.toNat (show i + 1 ≤ m from lt)
    exact early ⟨by omega, by omega⟩

/-- The instant `t` lies in the `k`-th window: from the `k`-th bound up to the next. -/
structure InWindow (d : Span) (s : Instant) (k : Nat) (t : Instant) : Prop where
  lower : ∃ a, bound d s k = some a ∧ a ≤ t
  upper : ∃ b, bound d s (k + 1) = some b ∧ t < b

/-- An instant lies in at most one window. -/
theorem index_unique (positive : 0 < d.nanos) {j k : Nat} {t : Instant}
    (first : InWindow d s j t) (second : InWindow d s k t) : j = k := by
  by_contra differ
  -- the window that comes first ends at or before the other starts
  have ordered {j k : Nat} (lt : j < k) (first : InWindow d s j t) (second : InWindow d s k t) :
      False := by
    obtain ⟨b, upper, before⟩ := first.upper
    obtain ⟨a, lower, after⟩ := second.lower
    have notLater : ¬ a < b := by
      rcases Nat.lt_or_eq_of_le (Nat.succ_le_of_lt lt) with earlier | same
      · exact Instant.lt_asymm (bound_lt_bound positive earlier upper lower)
      · rw [← same, upper] at lower
        cases lower
        exact Instant.lt_irrefl b
    exact notLater (Instant.lt_of_le_of_lt after before)
  rcases Nat.lt_or_gt_of_ne differ with lt | gt
  · exact ordered lt first second
  · exact ordered gt second first

end Reachability.History
