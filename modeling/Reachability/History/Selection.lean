import Reachability.History.Request

/-!
# Selecting stored observations

A selection says which stored observations a listing returns and how many. An observation
is selected when it passes every filter: failures only (no ok observation), each non-empty
set of job ids, source hosts and destination hosts must hold its field, and its time lies
in `[start, stop)`, a missing bound being no bound.

A listing sorts the selected observations by time, keeping observations of equal time in
the order they were stored, and keeps the newest `limit` of them; a limit of 0 keeps all.

Main statements: `select` is `finish` of the stored observations that `selects`, and
`finish` keeps a suffix of the time-sorted list.
-/

namespace Reachability.History

open Reachability.Time
open Reachability.Probe

/-- Filters and limit of a listing. The sets are sorted and free of repetitions. -/
structure Selection where
  limit : Nat := 0
  jobIds : List String := []
  srcHosts : List String := []
  destHosts : List String := []
  failuresOnly : Bool := false
  start : Option Instant := none
  stop : Option Instant := none
deriving DecidableEq, Repr

/-- A list of texts as a set: sorted, each once. -/
def textSet (xs : List String) : List String :=
  (xs.mergeSort (fun a b => decide (a ≤ b))).eraseDups

namespace Selection

/-- The selection a query asks for: a negative limit is no limit, and the bounds are read
as instants. -/
def ofRequest (r : Request) : Selection :=
  { limit := r.limit.toNat, jobIds := textSet r.jobIds, srcHosts := textSet r.srcHosts,
    destHosts := textSet r.destHosts, failuresOnly := r.failuresOnly,
    start := r.start.map Instant.ofStamp, stop := r.stop.map Instant.ofStamp }

/-- An empty set admits everything; any other admits its members. -/
def admits (set : List String) (x : String) : Bool := set.isEmpty || set.contains x

/-- Does the observation pass every filter? -/
def selects (sel : Selection) (o : Observation) : Bool :=
  !(sel.failuresOnly && o.ok) && admits sel.jobIds o.jobId && admits sel.srcHosts o.srcHost &&
    admits sel.destHosts o.destHost &&
    (match sel.start with
      | some s => !(o.time < s)
      | none => true) &&
    (match sel.stop with
      | some e => o.time < e
      | none => true)

/-- Sorted by time, equal times in their given order. -/
def byTime (os : List Observation) : List Observation :=
  os.mergeSort (fun a b => decide (a.time ≤ b.time))

/-- The time-sorted observations, cut to the newest `limit` when the limit is positive. -/
def finish (sel : Selection) (os : List Observation) : List Observation :=
  let sorted := byTime os
  if sel.limit > 0 then sorted.drop (sorted.length - sel.limit) else sorted

/-- The listing of stored observations. -/
def select (sel : Selection) (stored : List Observation) : List Observation :=
  sel.finish (stored.filter sel.selects)

/-- The JSON form of a selection. -/
def toJson (sel : Selection) : Json :=
  .obj [("limit", .int sel.limit), ("job_ids", .strs sel.jobIds),
    ("src_hosts", .strs sel.srcHosts), ("dest_hosts", .strs sel.destHosts),
    ("failures_only", .bool sel.failuresOnly), ("start", .opt Instant.toJson sel.start),
    ("end", .opt Instant.toJson sel.stop)]

end Selection

end Reachability.History
