import Reachability.CommandLine.Spec

/-!
# Help, usage and version texts

A help text is the command's description, its usage line, its subcommands and its
options, each part after a blank line. The usage line names the command, then `[OPTIONS]`
when it has options besides help and version, then `[COMMAND]` when it has subcommands.
An error about some options shows instead the usage line naming the options used.

Options are listed by their order and then by their sort key. Each line is the one-letter
name (or room for it), the long name with its value placeholder, and the option's help
with its default. The help is aligned two columns after the longest option; when one
option's help would not fit in a hundred columns beside it, and the names take more than
forty of them, every help goes on the next line, indented by ten.
-/

namespace Reachability.CommandLine

/-- Spaces. -/
def spaces (n : Nat) : String := String.ofList (List.replicate n ' ')

/-- The usage line of a command. -/
def usageLine (name : String) (opts : List Opt) (hasCommands : Bool) : String :=
  name ++
    (if opts.any fun o => o.arity != .help && o.arity != .version then " [OPTIONS]" else "") ++
    (if hasCommands then " [COMMAND]" else "")

/-- The usage line naming the options used, each once. -/
def usedLine (name : String) (used : List Opt) : String :=
  let names := used.foldl (fun acc o => if acc.contains o.display then acc else acc ++ [o.display]) []
  name ++ String.join (names.map (" " ++ ·))

/-- The help of an option with its default. -/
def Opt.helpText (o : Opt) : String :=
  let spec := match o.default with
    | some d => if o.takesValue then "[default: " ++ d ++ "]" else ""
    | none => ""
  if spec.isEmpty then o.about
  else if o.about.isEmpty then spec
  else o.about ++ " " ++ spec

/-- The names of an option as its help line starts. -/
def Opt.heading (o : Opt) : String :=
  "  " ++ (match o.short with
    | some c => "-" ++ String.ofList [c] ++ ", "
    | none => "    ") ++ o.display

/-- Does this option's help push every help to the next line? -/
def Opt.wantsNextLine (longest : Nat) (o : Opt) : Bool :=
  let taken := longest + 8
  taken ≤ 100 && taken > 40 && o.helpText.length > 100 - taken

/-- Options in listing order. -/
def listingOrder (opts : List Opt) : List Opt :=
  opts.mergeSort fun a b => a.order < b.order || (a.order == b.order && decide (a.sortKey ≤ b.sortKey))

/-- The lines of an options section. -/
def optionLines (opts : List Opt) : List String :=
  let longest := opts.foldl (fun m o => max m o.display.length) 2
  let nextLine := opts.any (Opt.wantsNextLine longest)
  (listingOrder opts).map fun o =>
    if nextLine then o.heading ++ "\n" ++ spaces 10 ++ o.helpText
    else o.heading ++ spaces (longest + 2 - o.display.length) ++ o.helpText

/-- The lines of a subcommands section. -/
def commandLines (cmds : List (String × String)) : List String :=
  let longest := cmds.foldl (fun m c => max m c.1.length) 2
  cmds.map fun (n, about) => "  " ++ n ++ spaces (longest + 2 - n.length) ++ about

/-- A help text from its parts: sections are a heading and lines. -/
def helpPage (about usage : String) (sections : List (String × List String)) : String :=
  let body := "\n\n".intercalate
    ((sections.filter fun s => !s.2.isEmpty).map fun (h, ls) => h ++ ":\n" ++ "\n".intercalate ls)
  (if about.isEmpty then "" else about ++ "\n\n") ++ "Usage: " ++ usage ++ "\n\n" ++ body ++ "\n"

/-- What the subcommand `help` does. -/
def helpCommandAbout : String := "Print this message or the help of the given subcommand(s)"

namespace Program

/-- The help text at the top of the program, for a program called `name`. -/
def topHelp (p : Program) (name : String) : String :=
  let cmds := if p.commands.isEmpty then []
    else p.commands.map (fun c => (c.name, c.about)) ++ [("help", helpCommandAbout)]
  helpPage p.root.about (usageLine name p.topOptions !p.commands.isEmpty)
    [("Commands", commandLines cmds), ("Options", optionLines p.topOptions)]

/-- The help text of a subcommand; `name` is the program's and the subcommand's name. -/
def commandHelp (p : Program) (c : Command) (name : String) : String :=
  helpPage c.about (usageLine name (p.commandOptions c) false)
    [("Options", optionLines (p.commandOptions c))]

/-- The usage line of the subcommand `help`. -/
def helpCommandUsage (name : String) : String := name ++ " [COMMAND]..."

/-- The help text of the subcommand `help`. -/
def helpCommandHelp (name : String) : String :=
  helpPage helpCommandAbout (helpCommandUsage name)
    [("Arguments", ["  [COMMAND]...  Print help for the subcommand(s)"])]

/-- The version text. -/
def versionText (p : Program) : String :=
  p.root.name ++ " " ++ p.version.getD "" ++ "\n"

end Program

end Reachability.CommandLine
