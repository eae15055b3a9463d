import Reachability.CommandLine.Parse
import Reachability.History.Request
import Reachability.Time.Human
import Reachability.Time.Instant
import Reachability.Probe.Factory

/-!
# The query command's line

`nwpdcli [-v] [-a host:port] <observations|aggregated> [filters]` asks an agent for its
observations, raw or counted per edge and window. The agent's address and verbosity are
global: they may be given before or after the subcommand, and the later one counts.

The filters restrict the answer to jobs, source and destination hosts (each option may be
given many times), to failures, to observations newer than a duration before now, and to a
number of them; `aggregated` also takes the window to count over.

A query's start is now less the duration, when the difference is a time; the limit is
never negative.

A run of the command ends early when the line is refused or answered (help, version),
or names no query; otherwise it connects to the agent, and a failed connection ends it
with status 1.
-/

namespace Reachability.Cli

open Reachability.CommandLine
open Reachability.Time
open Reachability.History
open Reachability.Probe
open Reachability.Number

/-- The filters of a query. -/
structure Filter where
  jobs : List String := []
  srcs : List String := []
  dests : List String := []
  failuresOnly : Bool := false
  since : Option Elapsed := none
  limit : Int := 0
deriving DecidableEq, Repr

/-- What is asked of the agent. -/
inductive Query where
  | observations (f : Filter)
  | aggregated (f : Filter) (window : Option Elapsed)
deriving DecidableEq, Repr

/-- A parsed command line of the query command. -/
structure Invocation where
  agent : String
  verbose : Bool
  query : Option Query
deriving DecidableEq, Repr

/-- The options of both queries. -/
def filterOptions : List Opt := [
  { name := "job", long := "job", short := some 'j', valueName := "JOB", arity := .repeated none,
    about := "Restrict to job id(s)", order := 0 },
  { name := "src", long := "src", short := some 's', valueName := "SRC", arity := .repeated none,
    about := "Restrict to source host(s)", order := 1 },
  { name := "dest", long := "dest", short := some 'd', valueName := "DEST",
    arity := .repeated none, about := "Restrict to destination host(s)", order := 2 },
  { name := "failures_only", long := "failures-only", short := some 'f',
    about := "Only show failed observations", order := 3 },
  { name := "since", long := "since", valueName := "SINCE", arity := .single,
    about := "Only show observations newer than this (e.g. 30m)", order := 4,
    check := durationCheck },
  { name := "limit", long := "limit", short := some 'l', valueName := "LIMIT", arity := .single,
    about := "Maximum number of observations, 0 for all", default := some "0", order := 5,
    check := int32Check }]

/-- The command line of the query command. -/
def queryTool : Program where
  root := {
    name := "nwpdcli",
    about := "Query the observation history of a network problem detector agent",
    options := [
      { name := "verbose", long := "verbose", short := some 'v', about := "Enable verbose logging",
        global := true, order := 0 },
      { name := "agent", long := "agent", short := some 'a', valueName := "AGENT",
        arity := .single, about := "Agent address (host:port)", default := some "localhost:8880",
        global := true, order := 1 }] }
  version := some "0.0.1"
  commands := [
    { name := "observations", about := "List raw observations", options := filterOptions },
    { name := "aggregated", about := "List observations aggregated per edge and time window",
      options := filterOptions ++ [
        { name := "window", long := "window", short := some 'w', valueName := "WINDOW",
          arity := .single, about := "Aggregation window (e.g. 5m), at least 30s", order := 6,
          check := durationCheck }] }]

/-- A duration option's value. -/
def durationValue (p : Parsed) (name : String) : Option Elapsed :=
  (p.value? name).bind fun v => (readDuration v).toOption

/-- The filters of a parsed line. -/
def Filter.ofParsed (p : Parsed) : Filter :=
  { jobs := p.values "job", srcs := p.values "src", dests := p.values "dest",
    failuresOnly := p.flag "failures_only", since := durationValue p "since",
    limit := ((p.value? "limit").bind fun v => (readSignedBits 64 v).toOption).getD 0 }

/-- The invocation of a parsed line. -/
def Invocation.ofParsed (p : Parsed) : Invocation :=
  { agent := (p.value? "agent").getD "", verbose := p.flag "verbose",
    query := match p.commandName with
      | some "observations" => some (.observations (Filter.ofParsed p))
      | some "aggregated" => some (.aggregated (Filter.ofParsed p) (durationValue p "window"))
      | _ => none }

/-- Reads the arguments given after the program's name. -/
def Invocation.read (args : List String) : Except LineError Invocation :=
  (queryTool.parse ("nwpdcli" :: args)).map Invocation.ofParsed

namespace Query

/-- The filters of a query. -/
def filter : Query → Filter
  | .observations f => f
  | .aggregated f _ => f

/-- The window of a query. -/
def window : Query → Option Elapsed
  | .observations _ => none
  | .aggregated _ w => w

/-- The name of a query's subcommand. -/
def name : Query → String
  | .observations _ => "observations"
  | .aggregated _ _ => "aggregated"

end Query

/-- The request a query sends at time `now`. -/
def Query.request (q : Query) (now : Instant) : Request :=
  let f := q.filter
  { limit := max f.limit 0, jobIds := f.jobs, srcHosts := f.srcs, destHosts := f.dests,
    failuresOnly := f.failuresOnly,
    start := ((f.since.bind Span.ofElapsed?).bind now.unshift?).map Instant.toStamp,
    window := q.window.map Lapse.ofElapsed }

/-- How a run ends before it connects, or the agent and query it goes on with. -/
def start (args : List String) : Except Ending (String × Query) :=
  match Invocation.read args with
  | .error e => .error e.ending
  | .ok inv =>
    match inv.query with
    | none => .error { exit := 1, stderr := "No command specified. Use --help for usage information.\n" }
    | some q => .ok (inv.agent, q)

/-- The reason a connection to an agent fails when nothing answers at its address. -/
def transportError : String := "transport error"

/-- How a run ends when the agent cannot be reached. -/
def connectFailure (agent reason : String) : Ending :=
  { exit := 1, stderr := "Error: cannot connect to agent " ++ agent ++ ": " ++ reason ++ "\n" }

end Reachability.Cli
