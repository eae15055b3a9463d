import Reachability.Agent.Aggregator
import Reachability.Number.Shortest
import Reachability.Time.Seconds

/-!
# Observation metrics

Every observation counts in a counter of its edge, job and status (`ok` or `failed`); a
latency, of a failed observation too, also goes into a histogram of its edge and job, with
buckets from half a millisecond to five seconds. The edges and jobs seen are remembered,
so that their series can be dropped when a job goes away or a destination is no longer
probed.

A series is found by its label values written one after another, with nothing between
them (source, destination, job, then status). So two label sets that read the same when
joined, such as source `ab` with destination `c` and source `a` with destination `bc`,
share one series: it keeps the labels it was made with, counts for both, and goes when
either is dropped.

The text exposition lists the metric families by name, each with its help and type
lines, and the series of a family by their label values; a family without series is left
out. Labels are written sorted by name, a bucket's bound last; values are written as the
shortest decimal of their binary64 value, as positional text.
-/

namespace Reachability.Agent

open Reachability.Number
open Reachability.Time

/-- The bounds of the latency buckets, in seconds. -/
def latencyBounds : List (String × Binary64) :=
  [("0.0005", Binary64.ofDecimal false 5 (-4)), ("0.001", Binary64.ofDecimal false 1 (-3)),
    ("0.0025", Binary64.ofDecimal false 25 (-4)), ("0.005", Binary64.ofDecimal false 5 (-3)),
    ("0.01", Binary64.ofDecimal false 1 (-2)), ("0.025", Binary64.ofDecimal false 25 (-3)),
    ("0.05", Binary64.ofDecimal false 5 (-2)), ("0.1", Binary64.ofDecimal false 1 (-1)),
    ("0.25", Binary64.ofDecimal false 25 (-2)), ("0.5", Binary64.ofDecimal false 5 (-1)),
    ("1", Binary64.ofNat 1), ("2.5", Binary64.ofDecimal false 25 (-1)), ("5", Binary64.ofNat 5)]

/-- The magnitude of a non-negative binary64 value in units. -/
def magnitude : Binary64 → Nat
  | .finite _ u => u
  | _ => 0

/-- A latency histogram: the count in each bucket (not cumulative), the sum and the count. -/
structure Histogram where
  buckets : List Nat := latencyBounds.map fun _ => 0
  sum : Binary64 := Binary64.ofNat 0
  count : Nat := 0
deriving DecidableEq, Repr

/-- Records a latency in seconds: in the first bucket whose bound it does not exceed. -/
def Histogram.observe (h : Histogram) (v : Binary64) : Histogram :=
  let index := latencyBounds.findIdx? fun (_, b) => decide (magnitude v ≤ magnitude b)
  { buckets := h.buckets.zipIdx.map fun (c, i) => if index = some i then c + 1 else c,
    sum := h.sum.addNonneg v, count := h.count + 1 }

/-- The metrics: counters by edge and status, histograms by edge, and the edges seen. -/
structure Metrics where
  counters : List ((EdgeKey × String) × Nat) := []
  latencies : List (EdgeKey × Histogram) := []
  series : List EdgeKey := []
deriving Repr

/-- The label values of an edge written one after another: what finds its histogram. -/
def EdgeKey.joined (k : EdgeKey) : String := k.src ++ k.dest ++ k.jobId

/-- What finds the counter of an edge and a status. -/
def counterJoined (k : EdgeKey) (status : String) : String := k.joined ++ status

namespace Metrics

/-- The number of edges whose series are kept. -/
def seriesCount (m : Metrics) : Nat := m.series.length

/-- Records an observation of an edge, with its latency if one is to be recorded. -/
def observe (m : Metrics) (src dest jobId : String) (ok : Bool) (latency : Option Elapsed) :
    Metrics :=
  let key : EdgeKey := { src, dest, jobId }
  let status := if ok then "ok" else "failed"
  let same (k : EdgeKey × String) : Bool := counterJoined k.1 k.2 == counterJoined key status
  let counters :=
    if m.counters.any (same ·.1) then
      m.counters.map fun (k, c) => if same k then (k, c + 1) else (k, c)
    else m.counters ++ [((key, status), 1)]
  let latencies := match latency with
    | none => m.latencies
    | some d =>
      let v := d.secondsValue
      if m.latencies.any (·.1.joined == key.joined) then
        m.latencies.map fun (k, h) => if k.joined == key.joined then (k, h.observe v) else (k, h)
      else m.latencies ++ [(key, ({} : Histogram).observe v)]
  { counters, latencies, series := if m.series.contains key then m.series else m.series ++ [key] }

/-- Drops the series of the edges that satisfy `stale`, with every series found by the
same label values. -/
def evictWhere (m : Metrics) (stale : EdgeKey → Bool) : Metrics :=
  let gone := m.series.filter stale
  let goneCounter (k : EdgeKey × String) : Bool :=
    gone.any fun g => counterJoined g "ok" == counterJoined k.1 k.2 ||
      counterJoined g "failed" == counterJoined k.1 k.2
  { counters := m.counters.filter fun (k, _) => !goneCounter k,
    latencies := m.latencies.filter fun (k, _) => !gone.any (·.joined == k.joined),
    series := m.series.filter fun k => !gone.contains k }

/-- Drops every series of the given jobs; no jobs, nothing to do. -/
def evictJobIds (m : Metrics) (jobIds : List String) : Metrics :=
  if jobIds.isEmpty then m else m.evictWhere fun k => jobIds.contains k.jobId

/-- Drops every series whose destination is not among `valid`. -/
def evictInvalidDestHosts (m : Metrics) (valid : List String) : Metrics :=
  m.evictWhere fun k => !valid.contains k.dest

end Metrics

/-! ## Text exposition -/

/-- A label value with backslashes, quotes and line feeds escaped. -/
def escapeLabel (s : String) : String :=
  String.join (s.toList.map fun c =>
    if c == '\\' then "\\\\" else if c == '"' then "\\\"" else if c == '\n' then "\\n"
    else String.ofList [c])

/-- Labels as written: `\x7bname="value",...\x7d`. -/
def labelText (labels : List (String × String)) : String :=
  "\x7b" ++ ",".intercalate (labels.map fun (n, v) => n ++ "=\"" ++ escapeLabel v ++ "\"") ++ "\x7d"

/-- The labels of an edge, sorted by name. -/
def edgeLabels (k : EdgeKey) : List (String × String) :=
  [("dest", k.dest), ("jobid", k.jobId), ("src", k.src)]

/-- Orders series by their label values. -/
def labelsLe (a b : List (String × String)) : Bool :=
  let va : List String := a.map (·.2)
  let vb : List String := b.map (·.2)
  decide (va < vb) || va == vb

/-- The name of the counter family. -/
def countersName : String := "nwpd_aggregated_observations_total"

/-- The name of the histogram family. -/
def latencyName : String := "nwpd_aggregated_observation_latency_seconds"

/-- The help and type lines of a family. -/
def familyHead (name help kind : String) : String :=
  "# HELP " ++ name ++ " " ++ help ++ "\n# TYPE " ++ name ++ " " ++ kind ++ "\n"

/-- The sample lines of a histogram. -/
def histogramLines (k : EdgeKey) (h : Histogram) : String :=
  let labels := edgeLabels k
  let cumulative := (h.buckets.foldl (fun (acc : List Nat × Nat) c => (acc.1 ++ [acc.2 + c], acc.2 + c))
    ([], 0)).1
  let bucketLine (bound : String) (c : Nat) : String :=
    latencyName ++ "_bucket" ++ labelText (labels ++ [("le", bound)]) ++ " " ++
      (Binary64.ofNat c).plainText ++ "\n"
  String.join ((latencyBounds.zip cumulative).map fun ((t, _), c) => bucketLine t c) ++
    bucketLine "+Inf" h.count ++
    latencyName ++ "_sum" ++ labelText labels ++ " " ++ h.sum.plainText ++ "\n" ++
    latencyName ++ "_count" ++ labelText labels ++ " " ++ (Binary64.ofNat h.count).plainText ++ "\n"

/-- The text exposition of the metrics. -/
def Metrics.render (m : Metrics) : String :=
  let hist := (m.latencies.mergeSort fun a b => labelsLe (edgeLabels a.1) (edgeLabels b.1))
  let counts := m.counters.map fun ((k, status), c) => (edgeLabels k ++ [("status", status)], c)
  let counts := counts.mergeSort fun a b => labelsLe a.1 b.1
  (if hist.isEmpty then ""
    else familyHead latencyName "Latency of successful observations" "histogram" ++
      String.join (hist.map fun (k, h) => histogramLines k h)) ++
  (if counts.isEmpty then ""
    else familyHead countersName "Number of observations by edge, job and status" "counter" ++
      String.join (counts.map fun (ls, c) =>
        countersName ++ labelText ls ++ " " ++ (Binary64.ofNat c).plainText ++ "\n"))

end Reachability.Agent
