import Reachability.History.Window
import Reachability.Number.Fixed
import Reachability.Time.Seconds

/-!
# Listing text

How the query command writes latencies and per-job counts.

A latency under a millisecond is whole microseconds (`850us`); under a second it is
milliseconds with one decimal (`12.5ms`); otherwise seconds with two decimals (`1.25s`).
The decimals come from the duration as a binary64 number of seconds (whole seconds plus
nanoseconds divided by `10^9`, each step rounded), scaled by 1000 for milliseconds, and
rounded to the places with a tie to the even digit.

A window summary's jobs are listed in job order as `<job> ok=<n> fail=<m>`, with
` mean=<latency>` when the job has a mean, separated by `", "`.
-/

namespace Reachability.Cli

open Reachability.Time
open Reachability.Number
open Reachability.History

/-- The text of a latency. -/
def latencyText (d : Elapsed) : String :=
  if d.nanos < nanosPerMilli then toString d.micros ++ "us"
  else if d.nanos < nanosPerSecond then (d.secondsValue.mulNat 1000).fixed 1 ++ "ms"
  else d.secondsValue.fixed 2 ++ "s"

/-- The count of a job in a map of counts, 0 when absent. -/
def countOf (m : List (String × Int)) (job : String) : Int :=
  ((m.find? (·.1 == job)).map (·.2)).getD 0

/-- The per-job text of a window summary. -/
def jobsText (w : WindowSummary) : String :=
  let jobs := textSet (w.okCounts.map (·.1) ++ w.failedCounts.map (·.1))
  let entry (job : String) : String :=
    let base := job ++ " ok=" ++ toString (countOf w.okCounts job) ++ " fail=" ++
      toString (countOf w.failedCounts job)
    match w.meanOkLatency.find? (·.1 == job) with
    | some (_, mean) => base ++ " mean=" ++ latencyText mean.toElapsed
    | none => base
  ", ".intercalate (jobs.map entry)

end Reachability.Cli
