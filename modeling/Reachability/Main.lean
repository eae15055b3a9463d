import Reachability.Cli.Invocation

/-!
# The query command

The command reads its line, and ends there when the line is refused, answered (help,
version) or names no query. A query goes to the agent's address; this build carries no
transport, so it ends as a run whose agent cannot be reached.
-/

namespace Reachability.Cli

open Reachability.CommandLine

/-- Writes an ending's texts to their streams and gives its exit status. -/
def emit (e : Ending) : IO UInt32 := do
  let out ← IO.getStdout
  let err ← IO.getStderr
  out.putStr e.stdout
  err.putStr e.stderr
  out.flush
  err.flush
  pure e.exit.toUInt32

end Reachability.Cli

/-- Runs the query command on its arguments. -/
def main (args : List String) : IO UInt32 :=
  match Reachability.Cli.start args with
  | .error e => Reachability.Cli.emit e
  | .ok (agent, _) =>
    Reachability.Cli.emit (Reachability.Cli.connectFailure agent Reachability.Cli.transportError)
