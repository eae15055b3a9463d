import Reachability.Time.Span

/-!
# Time values as they travel on the wire

A `Stamp` is a point in time and a `Lapse` a signed length of time, both given as whole
seconds (a signed 64-bit count) and nanoseconds (a signed 32-bit count). Neither is
normalised: the nanoseconds of a received value may be negative or exceed a second.

A lapse reads as an `Elapsed` by clamping: a negative lapse is the empty duration, negative
nanoseconds count as zero, and nanoseconds beyond a second carry into the seconds. An
`Elapsed` is written as a lapse whose seconds wrap to the signed 64-bit range.
-/

namespace Reachability.Time

/-- A wire timestamp: seconds since 1970-01-01T00:00:00Z and nanoseconds. -/
structure Stamp where
  seconds : Int
  nanos : Int
deriving DecidableEq, Repr

/-- A wire duration: signed seconds and nanoseconds. -/
structure Lapse where
  seconds : Int
  nanos : Int
deriving DecidableEq, Repr

/-- An integer seen as a signed 64-bit word: it wraps modulo `2^64`. -/
def wrapSigned64 (n : Int) : Int :=
  let m := n % Int.pow 2 64
  if m ≥ Int.pow 2 63 then m - Int.pow 2 64 else m

/-- An integer seen as a signed 32-bit word: it wraps modulo `2^32`. -/
def wrapSigned32 (n : Int) : Int :=
  let m := n % Int.pow 2 32
  if m ≥ Int.pow 2 31 then m - Int.pow 2 32 else m

namespace Lapse

/-- The duration of a lapse; a negative lapse is empty. The seconds of a wire lapse are
below `2^63`, so the carry of the nanoseconds never overflows. -/
def toElapsed (d : Lapse) : Elapsed :=
  if d.seconds < 0 || (d.seconds == 0 && d.nanos < 0) then Elapsed.zero
  else ⟨d.seconds.toNat * nanosPerSecond + d.nanos.toNat⟩

/-- The wire form of a duration; seconds above `2^63 - 1` wrap to negative values. -/
def ofElapsed (d : Elapsed) : Lapse :=
  { seconds := wrapSigned64 d.seconds, nanos := d.subsecNanos }

end Lapse

example : Lapse.ofElapsed ⟨9223372036854775808 * 1000000000⟩ = ⟨-9223372036854775808, 0⟩ := by
  decide

end Reachability.Time
