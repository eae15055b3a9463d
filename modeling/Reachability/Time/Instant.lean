import Reachability.Time.Calendar
import Reachability.Time.Stamp

/-!
# Instants of UTC time

An instant is a count of seconds since 1970-01-01T00:00:00Z and a fraction in nanoseconds.
The calendar runs from the first day of year -262143 to the last day of year 262142. The
fraction is below one second, except inside a leap second: the second that ends a minute
(its seconds are 59 modulo 60) may carry a fraction up to two seconds, and the part beyond
one second is the inserted sixtieth second. So `23:59:59` with fraction `1.5 s` is
`23:59:60.5`.

Instants are ordered by seconds, then fraction, so a leap second lies between the second
it extends and the next minute.

Moving an instant by a `Span` (`shift?`) follows the leap-second rule below. A move that
would leave the calendar has no result.
-/

namespace Reachability.Time

/-- A UTC instant: seconds since the epoch and the fraction of the current second. -/
structure Instant where
  secs : Int
  nanos : Nat
deriving DecidableEq, Repr

namespace Instant

/-- Seconds of 0:00:00 on the first day of year -262143. -/
def minSecs : Int := -8334601228800

/-- Seconds of 23:59:59 on the last day of year 262142. -/
def maxSecs : Int := 8210266876799

/-- 1970-01-01T00:00:00Z. -/
def epoch : Instant := ⟨0, 0⟩

/-- The earliest instant of the calendar. -/
def first : Instant := ⟨minSecs, 0⟩

/-- Seconds inside the calendar. -/
def inRange (secs : Int) : Bool := minSecs ≤ secs && secs ≤ maxSecs

/-- An instant is valid when its seconds are inside the calendar and its fraction is below
one second, or below two seconds at the last second of a minute. -/
def isValid (t : Instant) : Bool :=
  inRange t.secs &&
    (t.nanos < nanosPerSecond || (t.nanos < 2 * nanosPerSecond && t.secs % 60 == 59))

/-- The instant with these parts, if they form a valid one. -/
def ofParts? (secs : Int) (nanos : Nat) : Option Instant :=
  let t : Instant := ⟨secs, nanos⟩
  if t.isValid then some t else none

/-- The instant of a wire timestamp. Negative nanoseconds count as zero, and a timestamp
that names no valid instant reads as the epoch. -/
def ofStamp (s : Stamp) : Instant :=
  (ofParts? s.seconds s.nanos.toNat).getD epoch

/-- The wire timestamp of an instant; inside a leap second the nanoseconds exceed a second. -/
def toStamp (t : Instant) : Stamp := ⟨t.secs, t.nanos⟩

/-- Instants compare by seconds, then fraction. -/
def compare (a b : Instant) : Ordering :=
  match Ord.compare a.secs b.secs with
  | .eq => Ord.compare a.nanos b.nanos
  | o => o

instance : Ord Instant := ⟨Instant.compare⟩

/-- `a` is earlier than `b`. -/
def before (a b : Instant) : Bool := a.secs < b.secs || (a.secs == b.secs && a.nanos < b.nanos)

instance : LT Instant := ⟨fun a b => a.before b = true⟩
instance : LE Instant := ⟨fun a b => b.before a = false⟩
instance (a b : Instant) : Decidable (a < b) := inferInstanceAs (Decidable (a.before b = true))
instance (a b : Instant) : Decidable (a ≤ b) := inferInstanceAs (Decidable (b.before a = false))

/-- The instant inside a leap second. -/
def isLeap (t : Instant) : Bool := t.nanos ≥ nanosPerSecond

/-- Nanoseconds since the epoch on a clock that stands still during a leap second: a
leap-second instant counts as the last nanosecond of the second it extends. Against an
instant outside a leap second this count orders like the instants themselves. -/
def flatNanos (t : Instant) : Int :=
  t.secs * (nanosPerSecond : Int) + (min t.nanos (nanosPerSecond - 1) : Nat)

/-- The instant at a count of nanoseconds since the epoch, outside any leap second. -/
def ofNanos (n : Int) : Instant :=
  ⟨n / (nanosPerSecond : Int), (n % (nanosPerSecond : Int)).toNat⟩

/-- Nanoseconds since the epoch, counting a leap second's fraction in full. -/
def totalNanos (t : Instant) : Int := t.secs * (nanosPerSecond : Int) + t.nanos

/-- Move an instant by a span. Outside a leap second this adds nanoseconds. From inside a
leap second, a move forward by a second or more, or one that passes the end of the leap
second, first steps back to the same fraction of the second before; a move backward by a
second or more first steps forward to the same fraction of the next second; any other
move stays in the same second. `none` when the result leaves the calendar. -/
def shift? (t : Instant) (d : Span) : Option Instant :=
  let ds := d.wholeSeconds
  let dn := d.subsecNanos
  let base : Option Int :=
    if t.isLeap then
      if ds > 0 || (dn > 0 && (t.nanos : Int) + dn ≥ 2 * (nanosPerSecond : Int)) then
        some (t.totalNanos - nanosPerSecond)
      else if ds < 0 then
        some t.totalNanos
      else none
    else some t.totalNanos
  match base with
  | none => some ⟨t.secs, ((t.nanos : Int) + dn).toNat⟩
  | some b =>
    let r := ofNanos (b + d.nanos)
    if inRange r.secs then some r else none

/-- Move an instant back by a span. -/
def unshift? (t : Instant) (d : Span) : Option Instant := t.shift? d.neg

/-- The day number of an instant's date. -/
def dayNumber (t : Instant) : Int := t.secs / 86400

/-- The calendar date of an instant. -/
def date (t : Instant) : Date := Date.ofDayNumber t.dayNumber

/-- Seconds since midnight, `0..86399`. -/
def secondOfDay (t : Instant) : Nat := (t.secs % 86400).toNat

/-- The hour of the day. -/
def hour (t : Instant) : Nat := t.secondOfDay / 3600

/-- The minute of the hour. -/
def minute (t : Instant) : Nat := t.secondOfDay % 3600 / 60

/-- The second of the minute, `0..59`; a leap second shows the second it extends. -/
def second (t : Instant) : Nat := t.secondOfDay % 60

/-- The instant at which the hour of `t` starts. -/
def hourStart (t : Instant) : Instant := ⟨t.secs - (t.secondOfDay % 3600 : Nat), 0⟩

end Instant

example : Instant.ofStamp ⟨-8334601228801, 0⟩ = Instant.epoch := by decide
example : Instant.ofStamp ⟨59, 1500000000⟩ = ⟨59, 1500000000⟩ := by decide
example : Instant.ofStamp ⟨58, 1500000000⟩ = Instant.epoch := by decide
example : (Instant.shift? ⟨59, 1500000000⟩ ⟨600000000⟩) = some ⟨60, 100000000⟩ := by decide
example : (Instant.shift? ⟨59, 1500000000⟩ ⟨-1000000000⟩) = some ⟨59, 500000000⟩ := by decide
example : (Instant.date ⟨Instant.minSecs, 0⟩) = ⟨-262143, 1, 1⟩ := by decide
example : (Instant.date ⟨Instant.maxSecs, 0⟩) = ⟨262142, 12, 31⟩ := by decide

end Reachability.Time
