import Reachability.Time.Span

/-!
# Scheduled jobs

A job runs every period on a monotonic clock, counted here in nanoseconds. It is due when
it never ran or when a period has passed since its last run; a tick starts a run of a due
job unless one is still in flight. A run in flight is marked by the job's flag, which the
run clears when it ends.

The registry holds the jobs by id. A job added under a new id is placed as if it had run
a little before (less than one period before now), so that jobs added together spread
their runs; a job replacing one of the same id takes over its last run and its flag, so
that the schedule goes on and a run in flight still counts. Deleting a job forgets it;
its run in flight, if any, goes on.

A run in flight ends at a time known when it starts, and then sends its observations and
clears its flag.
-/

namespace Reachability.Agent

open Reachability.Time

/-- A job with its schedule: the time of its last run and the flag its runs set. -/
structure Scheduled (α : Type) where
  id : String
  period : Elapsed
  task : α
  lastRun : Option Int := none
  flag : Nat
deriving Repr

namespace Scheduled

/-- Is the job due at `now`? -/
def isDue {α : Type} (j : Scheduled α) (now : Int) : Bool :=
  match j.lastRun with
  | some last => decide (now ≥ last + j.period.nanos)
  | none => true

/-- Starts a run at `now` if the job is due and its flag is not among the `active` ones. -/
def tick? {α : Type} (j : Scheduled α) (active : List Nat) (now : Int) : Option (Scheduled α) :=
  if active.contains j.flag || !j.isDue now then none
  else some { j with lastRun := some now }

end Scheduled

/-- The jobs by id, the flags of the runs in flight, and the next fresh flag. -/
structure Registry (α : Type) where
  jobs : List (Scheduled α) := []
  active : List Nat := []
  nextFlag : Nat := 0
deriving Repr

namespace Registry

variable {α : Type}

/-- The job of an id. -/
def find? (r : Registry α) (id : String) : Option (Scheduled α) := r.jobs.find? (·.id == id)

/-- Is a run of the job in flight? -/
def isRunning (r : Registry α) (j : Scheduled α) : Bool := r.active.contains j.flag

/-- Adds a job at `now`, or replaces the job of its id. A new job's last run is placed
`offset` nanoseconds before now. -/
def add (r : Registry α) (id : String) (period : Elapsed) (task : α) (now : Int) (offset : Nat) :
    Registry α :=
  match r.find? id with
  | some old =>
    let j : Scheduled α := { id, period, task, lastRun := old.lastRun, flag := old.flag }
    { r with jobs := r.jobs.map fun x => if x.id == id then j else x }
  | none =>
    let j : Scheduled α := { id, period, task, lastRun := some (now - offset), flag := r.nextFlag }
    { r with jobs := r.jobs ++ [j], nextFlag := r.nextFlag + 1 }

/-- Forgets the job of an id. -/
def delete (r : Registry α) (id : String) : Registry α := { r with jobs := r.jobs.filter (·.id != id) }

/-- Starts the runs of every due job at `now`; returns the jobs that started. -/
def tick (r : Registry α) (now : Int) : Registry α × List (Scheduled α) :=
  let (jobs, started, active) := r.jobs.foldl (fun (acc : List (Scheduled α) × List (Scheduled α) × List Nat) j =>
      match j.tick? acc.2.2 now with
      | some j' => (acc.1 ++ [j'], acc.2.1 ++ [j'], j'.flag :: acc.2.2)
      | none => (acc.1 ++ [j], acc.2.1, acc.2.2)) ([], [], r.active)
  ({ r with jobs, active }, started)

/-- A run marked by a flag ended. -/
def finish (r : Registry α) (flag : Nat) : Registry α :=
  { r with active := r.active.filter (· != flag) }

/-- The ids of the jobs, sorted. -/
def ids (r : Registry α) : List String :=
  (r.jobs.map (·.id)).mergeSort fun a b => decide (a ≤ b)

/-- The jobs sorted by id. -/
def sorted (r : Registry α) : List (Scheduled α) :=
  r.jobs.mergeSort fun a b => decide (a.id ≤ b.id)

end Registry

/-- A run in flight: the flag it set, when it ends, and how many observations it sends. -/
structure Flight where
  flag : Nat
  ends : Int
  sends : Nat
deriving DecidableEq, Repr

/-- Ends the runs whose end has come by `now`: their flags are cleared. Returns the flags
still set, the runs still in flight and the number of observations sent. -/
def settleFlights (active : List Nat) (flights : List Flight) (now : Int) :
    List Nat × List Flight × Nat :=
  let (done, rest) := flights.partition fun f => decide (f.ends ≤ now)
  (active.filter fun a => !done.any (·.flag == a), rest, (done.map (·.sends)).foldr (· + ·) 0)

end Reachability.Agent
