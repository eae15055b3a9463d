import Reachability.Yaml.Decode
import Reachability.Time.Human
import Reachability.Text.Json
import Reachability.Files.Parent

/-!
# Agent settings

An agent's settings say where observations are stored and for how long, how often the
per-edge counts are reported and over which window, and for each network mode (the host's
network, the pods' network) the probe jobs to run with their defaults.

Every setting may be left out; the accessors give the defaults: four hours of retention, a
report every sixty seconds over a window of thirty minutes, a job period of one second
(also for a period of zero) and the file prefix `agent` (also for an empty one).

Settings are checked after reading: report period and window must be positive, and in
each mode, host first, every job needs an id that no other job of the mode has. Two
settings are the same when they agree field by field, the output directories as paths.
-/

namespace Reachability.Config

open Reachability.Yaml
open Reachability.Time

/-- A probe job: its id and its command line. -/
structure Job where
  id : String
  args : List String := []
deriving DecidableEq, Repr

/-- The jobs and defaults of one network mode. -/
structure Network where
  dataFilePrefix : Option String := none
  jobs : List Job := []
  defaultPeriod : Option Elapsed := none
  httpPort : Option Nat := none
deriving DecidableEq, Repr

/-- The settings of an agent. -/
structure Agent where
  outputDir : Option String := none
  retentionHours : Option Nat := none
  logObservations : Bool := false
  reportPeriodSeconds : Option Nat := none
  windowSeconds : Option Nat := none
  hostNetwork : Option Network := none
  podNetwork : Option Network := none
deriving DecidableEq, Repr

/-- The period of a job that sets none. -/
def defaultJobPeriod : Elapsed := Elapsed.ofSeconds 1

/-- The file prefix of a mode that sets none. -/
def defaultFilePrefix : String := "agent"

namespace Network

/-- The job period of the mode: the one set, unless it is missing or zero. -/
def period (n : Network) : Elapsed :=
  match n.defaultPeriod with
  | some d => if d.nanos = 0 then defaultJobPeriod else d
  | none => defaultJobPeriod

/-- The file prefix of the mode: the one set, unless it is missing or empty. -/
def filePrefix (n : Network) : String :=
  match n.dataFilePrefix with
  | some p => if p.isEmpty then defaultFilePrefix else p
  | none => defaultFilePrefix

end Network

namespace Agent

/-- The settings of a mode, `host` for the host's network. -/
def network (a : Agent) (host : Bool) : Option Network :=
  if host then a.hostNetwork else a.podNetwork

/-- The jobs of a mode; none when the mode is not set. -/
def jobs (a : Agent) (host : Bool) : List Job := ((a.network host).map (·.jobs)).getD []

/-- Hours that observation files are kept. -/
def retention (a : Agent) : Nat := a.retentionHours.getD 4

/-- Seconds between two reports of the per-edge counts. -/
def reportPeriod (a : Agent) : Nat := a.reportPeriodSeconds.getD 60

/-- Seconds of the window the per-edge counts cover. -/
def window (a : Agent) : Nat := a.windowSeconds.getD 1800

/-- Do two settings say the same? The output directories are compared as paths. -/
def sameAs (a b : Agent) : Bool :=
  ({ a with outputDir := none } == { b with outputDir := none }) &&
    match a.outputDir, b.outputDir with
    | some x, some y => Files.samePath x y
    | none, none => true
    | _, _ => false

/-- The first problem in the jobs of a mode, if any. -/
def jobProblem (mode : String) : List Job → List String → Option String
  | [], _ => none
  | j :: rest, seen =>
    if j.id.isEmpty then some (mode ++ ": job without jobID")
    else if seen.contains j.id then some (mode ++ ": duplicate jobID " ++ j.id)
    else jobProblem mode rest (j.id :: seen)

/-- The first problem of the settings, if any. -/
def problem (a : Agent) : Option String :=
  if a.reportPeriodSeconds = some 0 then some "aggregationReportPeriodSeconds must be positive"
  else if a.windowSeconds = some 0 then some "aggregationTimeWindowSeconds must be positive"
  else
    let inMode (mode : String) : Option Network → Option String
      | some n => jobProblem mode n.jobs []
      | none => none
    (inMode "hostNetwork" a.hostNetwork).or (inMode "podNetwork" a.podNetwork)

end Agent

/-! ## Reading -/

/-- Reads a job. -/
def Job.decode (p : Path) : Decoder Job :=
  readRecord "JobConfig" ["jobID", "args"] p ((none, none) : Option String × Option (List String))
    (fun (id, args) key vp =>
      if key == "jobID" then do
        let v ← readText "a string" vp
        pure (some v, args)
      else do
        let v ← readList vp (readText "a string")
        pure (id, some v))
    (fun (id, args) => do
      let id ← requireField "jobID" id
      pure { id, args := args.getD [] })

/-- Reads a job period through its text; a text that is no duration is the record's error. -/
def readPeriod (p : Path) : Decoder (Option Elapsed) := do
  match ← readOption p (readText "a string") with
  | none => pure none
  | some t =>
    match readDuration t with
    | .ok d => pure (some d)
    | .error e => throw (.wrong e.message none)

/-- Reads the settings of a mode. -/
def Network.decode (p : Path) : Decoder Network :=
  readRecord "NetworkConfig" ["dataFilePrefix", "jobs", "defaultPeriod", "httpPort"] p
    ({} : Network)
    (fun n key vp =>
      if key == "dataFilePrefix" then do
        let v ← readOption vp (readText "a string")
        pure { n with dataFilePrefix := v }
      else if key == "jobs" then do
        let v ← readList vp Job.decode
        pure { n with jobs := v }
      else if key == "defaultPeriod" then do
        let v ← readPeriod vp
        pure { n with defaultPeriod := v }
      else do
        let v ← readOption vp (readCount "u16" (Nat.pow 2 16))
        pure { n with httpPort := v })
    .ok

/-- Reads the settings of an agent. -/
def Agent.decode (p : Path) : Decoder Agent :=
  readRecord "AgentConfig"
    ["outputDir", "retentionHours", "logObservations", "aggregationReportPeriodSeconds",
      "aggregationTimeWindowSeconds", "hostNetwork", "podNetwork"] p ({} : Agent)
    (fun a key vp =>
      if key == "outputDir" then do
        let v ← readOption vp (readText "path string")
        pure { a with outputDir := v }
      else if key == "retentionHours" then do
        let v ← readOption vp (readCount "u32" (Nat.pow 2 32))
        pure { a with retentionHours := v }
      else if key == "logObservations" then do
        let v ← readBool vp
        pure { a with logObservations := v }
      else if key == "aggregationReportPeriodSeconds" then do
        let v ← readOption vp (readCount "u64" (Nat.pow 2 64))
        pure { a with reportPeriodSeconds := v }
      else if key == "aggregationTimeWindowSeconds" then do
        let v ← readOption vp (readCount "u64" (Nat.pow 2 64))
        pure { a with windowSeconds := v }
      else if key == "hostNetwork" then do
        let v ← readOption vp Network.decode
        pure { a with hostNetwork := v }
      else do
        let v ← readOption vp Network.decode
        pure { a with podNetwork := v })
    .ok

/-! ## As JSON -/

/-- Fields present only when set. -/
def optionalFields (fs : List (String × Option Json)) : List (String × Json) :=
  fs.filterMap fun (k, v) => v.map fun j => (k, j)

/-- A job as JSON. -/
def Job.toJson (j : Job) : Json :=
  .obj [("jobID", .str j.id), ("args", .arr (j.args.map .str))]

/-- A mode's settings as JSON; unset settings are left out. -/
def Network.toJson (n : Network) : Json :=
  .obj (optionalFields [("dataFilePrefix", n.dataFilePrefix.map .str)] ++
    [("jobs", .arr (n.jobs.map Job.toJson))] ++
    optionalFields [("defaultPeriod", n.defaultPeriod.map fun d => .str (writeDuration d)),
      ("httpPort", n.httpPort.map fun k => .int k)])

/-- An agent's settings as JSON; unset settings are left out. -/
def Agent.toJson (a : Agent) : Json :=
  .obj (optionalFields [("outputDir", a.outputDir.map .str),
      ("retentionHours", a.retentionHours.map fun k => .int k)] ++
    [("logObservations", .bool a.logObservations)] ++
    optionalFields [("aggregationReportPeriodSeconds", a.reportPeriodSeconds.map fun k => .int k),
      ("aggregationTimeWindowSeconds", a.windowSeconds.map fun k => .int k),
      ("hostNetwork", a.hostNetwork.map Network.toJson),
      ("podNetwork", a.podNetwork.map Network.toJson)])

end Reachability.Config
