/-!
# Elapsed times and signed spans

Two kinds of time difference are used.

* `Elapsed` is a non-negative duration counted in nanoseconds, whose whole seconds fit an
  unsigned 64-bit word. Adding two of them fails when the seconds would not fit.
* `Span` is a signed difference of at most `2^63 - 1` milliseconds either way, the largest
  amount by which an instant may be moved. An `Elapsed` longer than that has no span.

Both keep one exact integer count, so sums, quotients and comparisons are exact.
-/

namespace Reachability.Time

/-- Nanoseconds in one second. -/
def nanosPerSecond : Nat := 1000000000

/-- Nanoseconds in one millisecond. -/
def nanosPerMilli : Nat := 1000000

/-- A non-negative duration, in nanoseconds. -/
structure Elapsed where
  nanos : Nat
deriving DecidableEq, Repr

namespace Elapsed

/-- Whole seconds must stay below `2^64`. -/
def limit : Nat := Nat.pow 2 64 * nanosPerSecond

instance : LE Elapsed := ⟨fun a b => a.nanos ≤ b.nanos⟩
instance : LT Elapsed := ⟨fun a b => a.nanos < b.nanos⟩
instance (a b : Elapsed) : Decidable (a ≤ b) := inferInstanceAs (Decidable (a.nanos ≤ b.nanos))
instance (a b : Elapsed) : Decidable (a < b) := inferInstanceAs (Decidable (a.nanos < b.nanos))

/-- The empty duration. -/
def zero : Elapsed := ⟨0⟩

/-- Whole seconds. -/
def seconds (d : Elapsed) : Nat := d.nanos / nanosPerSecond

/-- The part below one second, in nanoseconds. -/
def subsecNanos (d : Elapsed) : Nat := d.nanos % nanosPerSecond

/-- Whole milliseconds, rounded down. -/
def millis (d : Elapsed) : Nat := d.nanos / nanosPerMilli

/-- Whole microseconds, rounded down. -/
def micros (d : Elapsed) : Nat := d.nanos / 1000

/-- A duration of whole milliseconds. -/
def ofMillis (ms : Nat) : Elapsed := ⟨ms * nanosPerMilli⟩

/-- A duration of whole seconds. -/
def ofSeconds (s : Nat) : Elapsed := ⟨s * nanosPerSecond⟩

/-- Seconds and nanoseconds, where nanoseconds beyond a second carry into the seconds;
`none` when the seconds then reach `2^64`. -/
def ofParts? (seconds nanos : Nat) : Option Elapsed :=
  if seconds + nanos / nanosPerSecond < Nat.pow 2 64 then some ⟨seconds * nanosPerSecond + nanos⟩
  else none

/-- The sum, unless its seconds reach `2^64`. -/
def add? (a b : Elapsed) : Option Elapsed :=
  if a.nanos + b.nanos < limit then some ⟨a.nanos + b.nanos⟩ else none

/-- Division by a count, rounded down to the nanosecond. -/
def divCount (d : Elapsed) (k : Nat) : Elapsed := ⟨d.nanos / k⟩

/-- Adding elapsed times succeeds exactly below the limit, with the sum of their nanoseconds. -/
theorem add?_eq_some_iff (a b c : Elapsed) :
    a.add? b = some c ↔ a.nanos + b.nanos < limit ∧ c.nanos = a.nanos + b.nanos := by
  unfold add?
  split
  · constructor
    · intro h; cases h; exact ⟨by assumption, rfl⟩
    · intro ⟨_, h⟩; cases c; simp_all
  · simp only [reduceCtorEq, false_iff, not_and]
    intro h
    omega

end Elapsed

/-- A signed time difference of at most `2^63 - 1` milliseconds either way, in nanoseconds. -/
structure Span where
  nanos : Int
deriving DecidableEq, Repr

namespace Span

/-- The largest span: `2^63 - 1` milliseconds. -/
def maxNanos : Int := (Int.pow 2 63 - 1) * (nanosPerMilli : Int)

instance : LE Span := ⟨fun a b => a.nanos ≤ b.nanos⟩
instance : LT Span := ⟨fun a b => a.nanos < b.nanos⟩
instance (a b : Span) : Decidable (a ≤ b) := inferInstanceAs (Decidable (a.nanos ≤ b.nanos))
instance (a b : Span) : Decidable (a < b) := inferInstanceAs (Decidable (a.nanos < b.nanos))

/-- The span of a duration, unless it is longer than the largest span. -/
def ofElapsed? (d : Elapsed) : Option Span :=
  if (d.nanos : Int) ≤ maxNanos then some ⟨d.nanos⟩ else none

/-- The span of whole hours, unless it is longer than the largest span. -/
def ofHours? (h : Nat) : Option Span :=
  if ((h * 3600 : Nat) : Int) ≤ maxNanos / (nanosPerSecond : Int) then
    some ⟨(h * 3600 * nanosPerSecond : Nat)⟩
  else none

/-- The span pointing the other way. -/
def neg (d : Span) : Span := ⟨-d.nanos⟩

/-- Whole seconds, rounded toward zero. -/
def wholeSeconds (d : Span) : Int := d.nanos.tdiv (nanosPerSecond : Int)

/-- The rest below one second; it has the sign of the span. -/
def subsecNanos (d : Span) : Int := d.nanos.tmod (nanosPerSecond : Int)

end Span

end Reachability.Time
