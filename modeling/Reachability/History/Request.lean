import Reachability.Probe.Json

/-!
# Observation queries

A query as it arrives from a client: a signed limit, three lists of job ids and hosts to
restrict to, a flag for failures only, optional bounds of the time range, and an optional
aggregation window. The lists are kept as sent, with their order and repetitions.
-/

namespace Reachability.History

open Reachability.Time

/-- A query for observations, as sent by a client. -/
structure Request where
  limit : Int := 0
  jobIds : List String := []
  srcHosts : List String := []
  destHosts : List String := []
  failuresOnly : Bool := false
  start : Option Stamp := none
  stop : Option Stamp := none
  window : Option Lapse := none
deriving DecidableEq, Repr

namespace Request

/-- The JSON form of a query. -/
def toJson (r : Request) : Json :=
  .obj [("limit", .int r.limit), ("restrict_to_job_ids", .strs r.jobIds),
    ("restrict_to_src_hosts", .strs r.srcHosts), ("restrict_to_dest_hosts", .strs r.destHosts),
    ("failures_only", .bool r.failuresOnly), ("start", .opt Stamp.toJson r.start),
    ("end", .opt Stamp.toJson r.stop), ("aggregation_window", .opt Lapse.toJson r.window)]

/-- A query read from JSON; missing fields take their defaults. -/
def ofJson (j : Json) : Request :=
  { limit := j.intAt "limit", jobIds := j.strsAt "restrict_to_job_ids",
    srcHosts := j.strsAt "restrict_to_src_hosts", destHosts := j.strsAt "restrict_to_dest_hosts",
    failuresOnly := j.boolAt "failures_only", start := (j.get? "start").map stampOfJson,
    stop := (j.get? "end").map stampOfJson, window := (j.get? "aggregation_window").map lapseOfJson }

end Request

end Reachability.History
