import Reachability.History.Store
import Reachability.History.Window

/-!
# The query service

The two queries a client can send: the raw listing of the stored observations a request
selects, and their window summaries. The windows start at the request's start, or at the
first listed observation, and have the requested width when it is above the minimum.

Failures reach the client as a status: a missing store is a failed precondition, and any
other failure is internal with the failure's own text (for a volume error, the system's
text alone). Time arithmetic that leaves its range is not a status: it ends the call.
-/

namespace Reachability.History

open Reachability.Time

/-- The status codes a query can fail with. -/
inductive StatusCode where
  | failedPrecondition
  | internal
deriving DecidableEq, Repr

/-- A failed query as the client sees it. -/
structure Status where
  code : StatusCode
  message : String
deriving DecidableEq, Repr

/-- The status of a store failure; overflow is no status. -/
def StoreError.toStatus : StoreError → Except Overflow Status
  | .noWriter => .ok ⟨.failedPrecondition, StoreError.noWriter.message⟩
  | .storage m => .ok ⟨.internal, m⟩
  | .io e => .ok ⟨.internal, e.message⟩
  | .overflow o => .error o

/-- A store as the service sees it: its listing, if a store is configured. -/
abbrev Lister := Option (Selection → Except StoreError (List Probe.Observation))

/-- The observations a request selects. -/
def listObservations (store : Lister) (r : Request) :
    Except StoreError (List Probe.Observation) :=
  match store with
  | none => .error .noWriter
  | some list => list (Selection.ofRequest r)

/-- The window summaries of the observations a request selects. -/
def listWindows (store : Lister) (r : Request) : Except StoreError (List WindowSummary) := do
  let os ← listObservations store r
  let width := windowWidth (r.window.map Lapse.toElapsed)
  match aggregate os (r.start.map Instant.ofStamp) width with
  | .ok ws => return ws
  | .error o => throw (.overflow o)

/-- A reply: the value, or the status of the failure, unless the call ended. -/
def reply {α : Type} : Except StoreError α → Except Overflow (Except Status α)
  | .ok a => .ok (.ok a)
  | .error e => (e.toStatus).map .error

end Reachability.History
