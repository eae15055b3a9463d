/-!
# Overflow of time arithmetic

Three computations on time can leave their range: a sum of durations whose seconds reach
`2^64`, and an instant moved past either end of the calendar. Where the library does not
check for them first, they end the computation with one of these causes.
-/

namespace Reachability.Time

/-- A time computation that left its range. -/
inductive Overflow where
  /-- A sum of durations reached `2^64` seconds. -/
  | durationSum
  /-- An instant moved forward past the end of the calendar. -/
  | laterInstant
  /-- An instant moved back before the start of the calendar. -/
  | earlierInstant
deriving DecidableEq, Repr

/-- The diagnostic text of an overflow. -/
def Overflow.message : Overflow → String
  | .durationSum => "overflow when adding durations"
  | .laterInstant => "`DateTime + TimeDelta` overflowed"
  | .earlierInstant => "`DateTime - TimeDelta` overflowed"

end Reachability.Time
