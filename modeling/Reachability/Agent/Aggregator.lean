import Reachability.Agent.Error
import Reachability.Probe.Observation
import Reachability.Time.Text
import Reachability.Text.Json
import Reachability.Text.Utf8
import Reachability.Files.Volume

/-!
# Per-edge outcomes over a sliding window

The aggregator keeps, for every edge (source host, destination host, job), the outcomes
of the recent observations, oldest first; an outcome whose time equals others goes after
them. Outcomes older than the window before now are dropped: when an observation arrives,
and when the edges are summarized, after which edges with no outcome left are forgotten.
A window too long to subtract from now keeps everything.

Once told which jobs and destinations are active, the aggregator forgets the edges of
any other, and drops (and counts) later observations of jobs that are not active.

A summary of an edge counts its outcomes and gives the last one with its time; summaries
come sorted by edge. A report lists the summaries with failures, and is written as JSON
to the file `aggregation-host.json` or `aggregation-pod.json` of the log directory.
-/

namespace Reachability.Agent

open Reachability.Time
open Reachability.Probe
open Reachability.Files

/-- An edge: who probed whom, and in which job. -/
structure EdgeKey where
  src : String
  dest : String
  jobId : String
deriving DecidableEq, Repr

/-- The edges are ordered by source, then destination, then job. -/
def EdgeKey.le (a b : EdgeKey) : Bool :=
  decide (a.src < b.src) ||
    (a.src == b.src && (decide (a.dest < b.dest) || (a.dest == b.dest && decide (a.jobId ≤ b.jobId))))

/-- The jobs and hosts of the active jobs. -/
structure ValidEdges where
  jobIds : List String := []
  srcHosts : List String := []
  destHosts : List String := []
deriving DecidableEq, Repr

/-- The outcomes of an edge, oldest first. -/
abbrev History := List (Instant × Bool)

namespace History

/-- Adds an outcome after every outcome at the same time or earlier. -/
def insert (h : History) (t : Instant) (ok : Bool) : History :=
  let (early, late) := h.span fun (u, _) => !t.before u
  early ++ (t, ok) :: late

/-- Drops the outcomes from before `cutoff` at the front. -/
def expire (h : History) (cutoff : Instant) : History :=
  h.dropWhile fun (t, _) => t.before cutoff

end History

/-- The outcomes of an edge within the window. -/
structure EdgeSummary where
  src : String
  dest : String
  jobId : String
  okCount : Nat
  failedCount : Nat
  lastOk : Bool
  lastSeen : Instant
deriving DecidableEq, Repr

/-- A summary as JSON. -/
def EdgeSummary.toJson (s : EdgeSummary) : Json :=
  .obj [("src", .str s.src), ("dest", .str s.dest), ("jobId", .str s.jobId),
    ("okCount", .int s.okCount), ("failedCount", .int s.failedCount), ("lastOk", .bool s.lastOk),
    ("lastSeen", .str s.lastSeen.rfc3339)]

/-- A report of the unhealthy edges at a time. -/
structure Report where
  time : Instant
  hostNetwork : Bool
  windowSeconds : Nat
  edges : Nat
  unhealthy : List EdgeSummary
deriving DecidableEq, Repr

/-- A report as JSON. -/
def Report.toJson (r : Report) : Json :=
  .obj [("time", .str r.time.rfc3339), ("hostNetwork", .bool r.hostNetwork),
    ("timeWindowSeconds", .int r.windowSeconds), ("edges", .int r.edges),
    ("unhealthy", .arr (r.unhealthy.map EdgeSummary.toJson))]

/-- The state of the aggregator. -/
structure Aggregator where
  /-- The edges with their outcomes, in the order they were first seen. -/
  edges : List (EdgeKey × History) := []
  valid : Option ValidEdges := none
  reportPeriod : Elapsed
  window : Elapsed
  reportFile : Path
  hostNetwork : Bool
  processed : Nat := 0
  dropped : Nat := 0
deriving Repr

namespace Aggregator

/-- The name of the report file. -/
def reportName (hostNetwork : Bool) : String :=
  if hostNetwork then "aggregation-host.json" else "aggregation-pod.json"

/-- A new aggregator, creating its log directory. -/
def create (reportPeriod window : Elapsed) (logDir : String) (hostNetwork : Bool) (d : Dir) :
    Except AgentError (Aggregator × Dir) :=
  match d.createPath logDir with
  | .error e => .error (.io e.message)
  | .ok d' =>
    let reportFile := Path.ofString logDir ++ [reportName hostNetwork]
    .ok ({ reportPeriod, window, hostNetwork, reportFile }, d')

/-- The number of edges kept. -/
def edgeCount (a : Aggregator) : Nat := a.edges.length

/-- The oldest time still inside the window at `now`. -/
def cutoff (a : Aggregator) (now : Instant) : Instant :=
  match Span.ofElapsed? a.window with
  | some w => (now.unshift? w).getD Instant.first
  | none => Instant.first

/-- Is the observation's job active, or are no jobs known yet? -/
def accepts (a : Aggregator) (o : Observation) : Bool :=
  match a.valid with
  | some v => v.jobIds.contains o.jobId
  | none => true

/-- Records an observation arriving at `now`. -/
def add (a : Aggregator) (o : Observation) (now : Instant) : Aggregator :=
  let a := { a with processed := a.processed + 1 }
  if !a.accepts o then { a with dropped := a.dropped + 1 }
  else
    let key : EdgeKey := { src := o.srcHost, dest := o.destHost, jobId := o.jobId }
    let cut := a.cutoff now
    let step (h : History) : History := (h.insert o.time o.ok).expire cut
    if a.edges.any (·.1 == key) then
      { a with edges := a.edges.map fun (k, h) => if k == key then (k, step h) else (k, h) }
    else { a with edges := a.edges ++ [(key, step [])] }

/-- Keeps only the edges of active jobs and destinations, and remembers them. -/
def updateValidEdges (a : Aggregator) (v : ValidEdges) : Aggregator :=
  { a with
    edges := a.edges.filter fun (k, _) => v.jobIds.contains k.jobId && v.destHosts.contains k.dest,
    valid := some v }

/-- The summary of an edge's outcomes, if it has any. -/
def summaryOf (k : EdgeKey) (h : History) : Option EdgeSummary :=
  h.getLast?.map fun (t, ok) =>
    let okCount := (h.filter (·.2)).length
    { src := k.src, dest := k.dest, jobId := k.jobId, okCount,
      failedCount := h.length - okCount, lastOk := ok, lastSeen := t }

/-- The summaries of all edges at `now`, sorted by edge; expired outcomes and emptied
edges are dropped. -/
def summarize (a : Aggregator) (now : Instant) : Aggregator × List EdgeSummary :=
  let cut := a.cutoff now
  let edges := a.edges.map fun (k, h) => (k, h.expire cut)
  let summaries := edges.filterMap fun (k, h) => summaryOf k h
  let key (s : EdgeSummary) : EdgeKey := { src := s.src, dest := s.dest, jobId := s.jobId }
  ({ a with edges := edges.filter fun (_, h) => !h.isEmpty },
    summaries.mergeSort fun x y => (key x).le (key y))

/-- The report at `now`, written to the report file. -/
def report (a : Aggregator) (now : Instant) (d : Dir) :
    Aggregator × Dir × Except AgentError Report :=
  let (a, summaries) := a.summarize now
  let r : Report :=
    { time := now, hostNetwork := a.hostNetwork, windowSeconds := a.window.seconds,
      edges := summaries.length, unhealthy := summaries.filter fun s => s.failedCount > 0 }
  match d.writeFile a.reportFile (Text.Utf8.encode r.toJson.pretty) false with
  | .error e => (a, d, .error (.io e.message))
  | .ok d' => (a, d', .ok r)

/-- The text of the report file, when there is one. -/
def reportText (a : Aggregator) (d : Dir) : Option String :=
  (d.readFile a.reportFile).toOption.bind Text.Utf8.decode

end Aggregator

end Reachability.Agent
