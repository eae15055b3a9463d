import Reachability.Probe.Observation
import Reachability.Text.Json

/-!
# Observations as JSON

The JSON form of the wire values: a timestamp or a duration is `{"seconds", "nanos"}`, and
an observation has the keys `src_host`, `dest_host`, `job_id`, `ok`, `result`, `timestamp`
and `duration`, the last two `null` when absent. Reading takes a missing or `null` field
as its default: empty text, false, zero, or no value.
-/

namespace Reachability.Time

/-- `{"seconds", "nanos"}`. -/
def pairJson (seconds nanos : Int) : Json :=
  .obj [("seconds", .int seconds), ("nanos", .int nanos)]

/-- The JSON form of a timestamp. -/
def Stamp.toJson (s : Stamp) : Json := pairJson s.seconds s.nanos

/-- The JSON form of a wire duration. -/
def Lapse.toJson (d : Lapse) : Json := pairJson d.seconds d.nanos

/-- The JSON form of a duration: whole seconds and the nanoseconds below a second. -/
def Elapsed.toJson (d : Elapsed) : Json := pairJson d.seconds d.subsecNanos

/-- The JSON form of an instant, as its timestamp. -/
def Instant.toJson (t : Instant) : Json := t.toStamp.toJson

/-- A timestamp read from JSON. -/
def stampOfJson (j : Json) : Stamp := ⟨j.intAt "seconds", j.intAt "nanos"⟩

/-- A wire duration read from JSON. -/
def lapseOfJson (j : Json) : Lapse := ⟨j.intAt "seconds", j.intAt "nanos"⟩

/-- A duration read from JSON; nanoseconds beyond a second carry into the seconds, and
`none` when the seconds then overflow. -/
def elapsedOfJson? (j : Json) : Option Elapsed :=
  Elapsed.ofParts? (j.natAt "seconds") (j.natAt "nanos")

end Reachability.Time

namespace Reachability.Probe

open Reachability.Time

namespace Observation

/-- The JSON form of an observation. -/
def toJson (o : Observation) : Json :=
  .obj [("src_host", .str o.srcHost), ("dest_host", .str o.destHost),
    ("job_id", .str o.jobId), ("ok", .bool o.ok), ("result", .str o.result),
    ("timestamp", .opt Stamp.toJson o.timestamp), ("duration", .opt Lapse.toJson o.duration)]

/-- An observation read from JSON. -/
def ofJson (j : Json) : Observation :=
  { srcHost := j.strAt "src_host", destHost := j.strAt "dest_host", jobId := j.strAt "job_id",
    ok := j.boolAt "ok", result := j.strAt "result",
    timestamp := (j.get? "timestamp").map stampOfJson,
    duration := (j.get? "duration").map lapseOfJson }

end Observation

end Reachability.Probe
