import Reachability.History.Selection
import Reachability.Time.Overflow

/-!
# Windows of observations

Observations are counted per edge (source and destination host) in consecutive windows of
one width. The first window starts at a given instant, or at the first observation's time.
Observations are taken in the order given: one whose time is at or after the end of the
current window closes it, and the windows move on by whole widths until one ends after
that time; an observation earlier than the current window is counted in it.

Closing a window gives one summary per edge that has observations in it, in order of
(source, destination): per job the number of ok and of failed observations, and the mean
latency of the ok observations, the sum of their recorded latencies divided by the number
of ok observations (those without a latency included) and rounded down to the nanosecond.

Windows move with `Instant.shift?`, so a window bound inside a leap second follows its
rule. The width must be positive and at most the largest span; otherwise there are no
windows. A window bound past the end of the calendar or a latency sum of `2^64` seconds
ends the computation.
-/

namespace Reachability.History

open Reachability.Time
open Reachability.Probe

/-- The counts of one edge in one window, as sent to clients. -/
structure WindowSummary where
  srcHost : String
  destHost : String
  periodStart : Option Stamp := none
  periodEnd : Option Stamp := none
  okCounts : List (String × Int) := []
  failedCounts : List (String × Int) := []
  meanOkLatency : List (String × Lapse) := []
deriving DecidableEq, Repr

/-- The width used when a query asks for none, or for one of at most `minimumWidth`. -/
def defaultWidth : Elapsed := Elapsed.ofSeconds 60

/-- Requested widths must be longer than this. -/
def minimumWidth : Elapsed := Elapsed.ofSeconds 30

/-- The window width for a requested one. -/
def windowWidth : Option Elapsed → Elapsed
  | some w => if minimumWidth < w then w else defaultWidth
  | none => defaultWidth

/-- The sum of durations, unless its seconds reach `2^64`. -/
def sumLatencies (ds : List Elapsed) : Except Overflow Elapsed :=
  let total := (ds.map (·.nanos)).foldr (· + ·) 0
  if total < Elapsed.limit then .ok ⟨total⟩ else .error .durationSum

/-- The number of observations of a job with a given outcome. -/
def countOutcome (os : List Observation) (job : String) (ok : Bool) : Nat :=
  (os.filter fun o => o.jobId == job && o.ok == ok).length

/-- Jobs with a positive count of an outcome. -/
def outcomeCounts (os : List Observation) (jobs : List String) (ok : Bool) :
    List (String × Int) :=
  jobs.filterMap fun j =>
    let n := countOutcome os j ok
    if n > 0 then some (j, (n : Int)) else none

/-- The mean latency of a job's ok observations, when one of them recorded a latency. -/
def meanLatency (os : List Observation) (job : String) : Except Overflow (Option Lapse) := do
  let oks := os.filter fun o => o.jobId == job && o.ok
  let latencies := oks.filterMap (·.latency)
  if latencies.isEmpty then return none
  let total ← sumLatencies latencies
  return some (Lapse.ofElapsed (total.divCount oks.length))

/-- The summary of one edge's observations in the window `[start, stop)`. -/
def summarizeEdge (edge : String × String) (os : List Observation) (start stop : Instant) :
    Except Overflow WindowSummary := do
  let jobs := textSet (os.map (·.jobId))
  let means ← jobs.filterMapM fun j => do
    let m ← meanLatency os j
    return m.map fun l => (j, l)
  let summary : WindowSummary :=
    { srcHost := edge.1, destHost := edge.2, periodStart := some start.toStamp,
      periodEnd := some stop.toStamp, okCounts := outcomeCounts os jobs true,
      failedCounts := outcomeCounts os jobs false, meanOkLatency := means }
  return summary

/-- Edges in order of source, then destination, each once. -/
def edgeSet (es : List (String × String)) : List (String × String) :=
  (es.mergeSort fun a b => decide (a.1 < b.1 ∨ (a.1 = b.1 ∧ a.2 ≤ b.2))).eraseDups

/-- The summaries of a closed window, one per edge in edge order. -/
def closeWindow (os : List Observation) (start stop : Instant) :
    Except Overflow (List WindowSummary) :=
  (edgeSet (os.map (·.edge))).mapM fun e =>
    summarizeEdge e (os.filter fun o => o.edge == e) start stop

/-- The bounds of the current window. -/
structure Frame where
  start : Instant
  stop : Instant
deriving DecidableEq, Repr

/-- Moves windows of width `d` on from one that ends at `e`, outside a leap second, until
one ends after `t` (where `e ≤ t`): the number of widths is computed, not counted. -/
def stepPlain (d : Span) (e t : Instant) : Except Overflow Frame :=
  let steps := (t.flatNanos - e.totalNanos) / d.nanos + 1
  let stop := Instant.ofNanos (e.totalNanos + steps * d.nanos)
  if Instant.inRange stop.secs then
    .ok ⟨Instant.ofNanos (e.totalNanos + (steps - 1) * d.nanos), stop⟩
  else .error .laterInstant

/-- Moves windows on from one that ends at `e` until one ends after `t` (where `e ≤ t`).
A bound inside a leap second moves by `Instant.shift?`: a width under a second stays in
the leap second while it can, so those steps are computed within it first. -/
def advance (d : Span) (e t : Instant) : Except Overflow Frame :=
  if e.isLeap then
    if d.wholeSeconds > 0 then
      match e.shift? d with
      | none => .error .laterInstant
      | some e1 => if t < e1 then .ok ⟨e, e1⟩ else stepPlain d e1 t
    else
      let dn := d.nanos.toNat
      let inside := (2 * nanosPerSecond - 1 - e.nanos) / dn
      let last : Instant := ⟨e.secs, e.nanos + inside * dn⟩
      if t.secs = e.secs ∧ t.nanos < last.nanos then
        let i := (t.nanos - e.nanos) / dn + 1
        .ok ⟨⟨e.secs, e.nanos + (i - 1) * dn⟩, ⟨e.secs, e.nanos + i * dn⟩⟩
      else
        match last.shift? d with
        | none => .error .laterInstant
        | some e1 => if t < e1 then .ok ⟨last, e1⟩ else stepPlain d e1 t
  else stepPlain d e t

/-- Counts observations into windows: `current` holds the current window's observations,
newest first, and `done` the summaries of closed windows. -/
def windowsFrom (d : Span) : List Observation → Frame → List Observation →
    List WindowSummary → Except Overflow (List WindowSummary)
  | [], f, current, done => do
    let last ← closeWindow current f.start f.stop
    return done ++ last
  | o :: rest, f, current, done =>
    if f.stop ≤ o.time then do
      let closed ← closeWindow current f.start f.stop
      let f' ← advance d f.stop o.time
      windowsFrom d rest f' [o] (done ++ closed)
    else windowsFrom d rest f (o :: current) done

/-- The window summaries of observations taken in order, from `start` (or the first
observation's time) with windows of width `width`. -/
def aggregate (os : List Observation) (start : Option Instant) (width : Elapsed) :
    Except Overflow (List WindowSummary) :=
  match os, Span.ofElapsed? width with
  | first :: _, some d =>
    if d.nanos ≤ 0 then .ok []
    else
      let s := start.getD first.time
      match s.shift? d with
      | none => .error .laterInstant
      | some e => windowsFrom d os ⟨s, e⟩ [] []
  | _, _ => .ok []

namespace WindowSummary

/-- A map from job ids as a JSON object. -/
def jobsJson {α : Type} (f : α → Json) (m : List (String × α)) : Json :=
  .obj (m.map fun (k, v) => (k, f v))

/-- The JSON form of a summary. -/
def toJson (w : WindowSummary) : Json :=
  .obj [("src_host", .str w.srcHost), ("dest_host", .str w.destHost),
    ("period_start", .opt Stamp.toJson w.periodStart), ("period_end", .opt Stamp.toJson w.periodEnd),
    ("jobs_ok_count", jobsJson .int w.okCounts), ("jobs_not_ok_count", jobsJson .int w.failedCounts),
    ("mean_ok_duration", jobsJson Lapse.toJson w.meanOkLatency)]

/-- The fields of a JSON object, or none. -/
def fieldsOf : Option Json → List (String × Json)
  | some (.obj fs) => fs
  | _ => []

/-- A summary read from JSON. -/
def ofJson (j : Json) : WindowSummary :=
  { srcHost := j.strAt "src_host", destHost := j.strAt "dest_host",
    periodStart := (j.get? "period_start").map stampOfJson,
    periodEnd := (j.get? "period_end").map stampOfJson,
    okCounts := (fieldsOf (j.get? "jobs_ok_count")).map fun (k, v) =>
      (k, match v with | .int n => n | _ => 0),
    failedCounts := (fieldsOf (j.get? "jobs_not_ok_count")).map fun (k, v) =>
      (k, match v with | .int n => n | _ => 0),
    meanOkLatency := (fieldsOf (j.get? "mean_ok_duration")).map fun (k, v) => (k, lapseOfJson v) }

end WindowSummary

end Reachability.History
