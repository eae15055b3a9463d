/-!
# Command-line reports

A command line that is not parsed ends in a report. Help and version requests are reports
too: their text is printed on standard output and the program ends successfully; every
other report is an error, printed on standard error, ending the program with status 2.

An error report is `error: ` and its message, then the suggestions (a similar argument or
subcommand, or other tips) after a blank line, then the usage line after another, and last
a hint to ask for help, when the program has a way to ask.
-/

namespace Reachability.CommandLine

/-- What a report is about. -/
inductive ErrorKind where
  | displayHelp
  | displayVersion
  | unknownArgument
  | invalidSubcommand
  | invalidValue
  | valueValidation
  | argumentConflict
  | tooManyValues
deriving DecidableEq, Repr

/-- A report: its kind and its text. -/
structure LineError where
  kind : ErrorKind
  text : String
deriving DecidableEq, Repr

namespace LineError

/-- Is the report a requested text rather than an error? -/
def isRequest (e : LineError) : Bool :=
  e.kind == .displayHelp || e.kind == .displayVersion

/-- The status the program ends with after the report. -/
def exitCode (e : LineError) : Nat := if e.isRequest then 0 else 2

end LineError

/-- How a run of a program ends: its exit status and what it wrote on standard output and
standard error. -/
structure Ending where
  exit : Nat
  stdout : String := ""
  stderr : String := ""
deriving DecidableEq, Repr

/-- How a program ends after a report. -/
def LineError.ending (e : LineError) : Ending :=
  if e.isRequest then { exit := 0, stdout := e.text } else { exit := 2, stderr := e.text }

/-- The parts of an error report. -/
structure Report where
  message : String
  /-- Similar subcommands, for a word that is none. -/
  similarCommands : List String := []
  /-- A similar option, for an option that is unknown. -/
  similarOption : Option String := none
  tips : List String := []
  usage : Option String := none
  /-- How to ask for help, if the program has a way. -/
  helpHint : Option String := none

/-- The text of the suggestion of similar subcommands. -/
def similarCommandsText : List String → String
  | [c] => "  tip: a similar subcommand exists: '" ++ c ++ "'"
  | cs => "  tip: some similar subcommands exist: " ++
      ", ".intercalate (cs.map fun c => "'" ++ c ++ "'")

/-- The text of an error report. -/
def Report.text (r : Report) : String :=
  let (s, suggested) :=
    if r.similarCommands.isEmpty then ("error: " ++ r.message, false)
    else ("error: " ++ r.message ++ "\n\n" ++ similarCommandsText r.similarCommands, true)
  let (s, suggested) :=
    match r.similarOption with
    | some o => (s ++ "\n" ++ (if suggested then "" else "\n") ++
        "  tip: a similar argument exists: '" ++ o ++ "'", true)
    | none => (s, suggested)
  let s :=
    if r.tips.isEmpty then s
    else s ++ (if suggested then "" else "\n") ++ String.join (r.tips.map ("\n  tip: " ++ ·))
  let s := match r.usage with
    | some u => s ++ "\n\n" ++ u
    | none => s
  match r.helpHint with
  | some h => s ++ "\n\nFor more information, try '" ++ h ++ "'.\n"
  | none => s ++ "\n"

end Reachability.CommandLine
