import Reachability.Time.Span
import Reachability.Number.Binary64

/-!
# Durations as binary64 seconds

A duration in seconds as a binary64 number: the whole seconds, plus the nanoseconds
divided by `10^9`, each step rounded to the nearest value.
-/

namespace Reachability.Time

open Reachability.Number

/-- The duration in seconds, as a binary64 number. -/
def Elapsed.secondsValue (d : Elapsed) : Binary64 :=
  (Binary64.ofNat d.seconds).addNonneg
    ((Binary64.ofNat d.subsecNanos).divNonneg (Binary64.ofNat nanosPerSecond))

end Reachability.Time
