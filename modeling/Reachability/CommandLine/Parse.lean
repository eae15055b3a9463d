import Reachability.CommandLine.Help
import Reachability.CommandLine.Report
import Reachability.CommandLine.Similar

/-!
# Reading a command line

The arguments are read one at a time, at one level: the top of the program, or the
subcommand named on the line. An option that takes a value and has none attached waits
for the next argument; the value is checked only when the next option is read or the line
ends, so an error in it is reported then, and not at all when an unknown argument comes
first.

* `--` ends the options: every later argument is a stray one.
* `--name` and `--name=value` are long options; `-abc` is a group of one-letter options,
  where the first that takes a value takes the rest of the group (after an optional `=`).
  Arguments starting with `-` are never values of a waiting option.
* A subcommand's name, when no option waits for its value, starts the subcommand: the rest
  of the line is read at its level. `help` shows the help of the subcommands named after it.
* Any other argument is the value of the waiting option, or else a stray argument, which
  the program refuses: as an unknown subcommand when it has subcommands, else as an
  unexpected argument.

A single option or a flag given twice is refused. An unknown long option is reported with
the most similar known one, or with the subcommand that knows it when that subcommand is
named later on the line.
-/

namespace Reachability.CommandLine

/-- The values given for options at one level, in the order the options were first given. -/
abbrev Given := List (String × List String)

/-- Has the option been given? -/
def Given.has (g : Given) (name : String) : Bool := g.any (·.1 == name)

/-- Adds values to an option, giving it if it was not. -/
def Given.add (g : Given) (name : String) (vs : List String) : Given :=
  if g.has name then g.map fun (k, v) => if k == name then (k, v ++ vs) else (k, v)
  else g ++ [(name, vs)]

/-- Forgets an option. -/
def Given.drop (g : Given) (name : String) : Given := g.filter (·.1 != name)

/-- Where the reading of one level stands. -/
structure Level where
  program : Program
  /-- The subcommand being read; none at the top. -/
  command : Option Command := none
  /-- The name usage lines start with. -/
  name : String
  given : Given := []
  /-- An option whose value is not checked yet, with the value once it came. -/
  pending : Option (Opt × Option String) := none
  trailing : Bool := false

namespace Level

/-- The options known at this level. -/
def options (lv : Level) : List Opt :=
  match lv.command with
  | none => lv.program.topOptions
  | some c => lv.program.commandOptions c

/-- The subcommands known at this level. -/
def commandNames (lv : Level) : List String :=
  match lv.command with
  | none => lv.program.commandNames
  | some _ => []

/-- How to ask for help at this level. -/
def helpHint (lv : Level) : Option String :=
  if lv.program.hasHelp then some "--help"
  else if lv.commandNames.isEmpty then none
  else some "help"

/-- The usage line of this level. -/
def usage (lv : Level) : String :=
  "Usage: " ++ usageLine lv.name lv.options !lv.commandNames.isEmpty

/-- The options given so far. -/
def used (lv : Level) : List Opt :=
  lv.given.filterMap fun (n, _) => lv.options.find? (·.name == n)

/-- The usage line naming the options used, or the plain one when none was. -/
def usageWith (lv : Level) (used : List Opt) : String :=
  if used.isEmpty then lv.usage else "Usage: " ++ usedLine lv.name used

/-- An error report at this level. -/
def report (lv : Level) (kind : ErrorKind) (r : Report) : LineError :=
  ⟨kind, { r with helpHint := lv.helpHint }.text⟩

/-- The help text of this level. -/
def helpShown (lv : Level) : LineError :=
  ⟨.displayHelp, match lv.command with
    | none => lv.program.topHelp lv.name
    | some c => lv.program.commandHelp c lv.name⟩

/-- A value missing for an option. -/
def emptyValue (lv : Level) (o : Opt) : LineError :=
  lv.report .invalidValue
    { message := "a value is required for '" ++ o.display ++ "' but none was supplied" }

/-- A refused value. -/
def badValue (lv : Level) (o : Opt) (v reason : String) : LineError :=
  lv.report .valueValidation
    { message := "invalid value '" ++ v ++ "' for '" ++ o.display ++ "': " ++ reason }

/-- An option given a second time. -/
def conflict (lv : Level) (o : Opt) : LineError :=
  lv.report .argumentConflict
    { message := "the argument '" ++ o.display ++ "' cannot be used multiple times",
      usage := some lv.usage }

/-- Checks the values of an option. -/
def checkValues (lv : Level) (o : Opt) : List String → Except LineError Unit
  | [] => .ok ()
  | v :: vs =>
    match o.check v with
    | none => lv.checkValues o vs
    | some .missing => .error (lv.emptyValue o)
    | some (.invalid r) => .error (lv.badValue o v r)

/-- Records one use of an option with its values. -/
def apply (lv : Level) (o : Opt) (vals : List String) : Except LineError Level :=
  match o.arity with
  | .help => .error lv.helpShown
  | .version => .error ⟨.displayVersion, lv.program.versionText⟩
  | .flag =>
    if lv.given.has o.name then .error (lv.conflict o)
    else .ok { lv with given := lv.given.add o.name ["true"] }
  | .single =>
    if vals.isEmpty then .error (lv.emptyValue o)
    else if lv.given.has o.name then .error (lv.conflict o)
    else do
      lv.checkValues o vals
      .ok { lv with given := lv.given.add o.name vals }
  | .repeated delimiter =>
    if vals.isEmpty then .error (lv.emptyValue o)
    else
      let pieces := match delimiter with
        | some d => vals.flatMap fun v => v.splitOn (String.ofList [d])
        | none => vals
      do
        lv.checkValues o pieces
        .ok { lv with given := lv.given.add o.name pieces }

/-- Records the waiting option, if any. -/
def resolve (lv : Level) : Except LineError Level :=
  match lv.pending with
  | none => .ok lv
  | some (o, v) => { lv with pending := none }.apply o v.toList

/-- Records the waiting option, ignoring what is wrong with it: a value that fails its
check leaves the option given, and a second use leaves it not given at all. -/
def settle (lv : Level) : Level :=
  match lv.resolve with
  | .ok l => l
  | .error _ =>
    let l := { lv with pending := none }
    match lv.pending with
    | some (o, some _) =>
      if l.given.has o.name then { l with given := l.given.drop o.name }
      else { l with given := l.given.add o.name [] }
    | _ => l

/-- Records the waiting option, then one use of another. -/
def react (lv : Level) (o : Opt) (vals : List String) : Except LineError Level := do
  let l ← lv.resolve
  l.apply o vals

/-- Makes an option wait for its value. -/
def await (lv : Level) (o : Opt) : Except LineError Level := do
  let l ← lv.resolve
  .ok { l with pending := some (o, none) }

/-- An unknown long option, with `rest` the arguments after it. -/
def unknownLong (lv : Level) (name : String) (rest : List String) : LineError :=
  let suggestion : Option (String × Option String) :=
    match mostSimilar name (lv.options.map (·.long)) with
    | some c => some (c, none)
    | none =>
      let found := (lv.program.commands.filter fun _ => lv.command.isNone).filterMap fun c => do
        let cand ← mostSimilar name ((lv.program.commandOptions c).map (·.long))
        let score ← rest.idxOf? c.name
        pure (score, cand, c.name)
      (found.foldl (fun best x => match best with
        | some b => if x.1 < b.1 then some x else some b
        | none => some x) none).map fun (_, cand, c) => (cand, some c)
  let lv' := match suggestion with
    | some (c, none) =>
      match lv.options.find? (fun (o : Opt) => o.long == c) with
      | some o => { lv with given := lv.given.add o.name [] }
      | none => lv
    | _ => lv
  lv.report .unknownArgument
    { message := "unexpected argument '--" ++ name ++ "' found",
      similarOption := match suggestion with
        | some (c, none) => some ("--" ++ c)
        | _ => none,
      tips := match suggestion with
        | some (c, some sub) => ["'" ++ sub ++ " --" ++ c ++ "' exists"]
        | _ => [],
      usage := some (lv'.usageWith lv'.used) }

/-- A long option: `body` is what follows `--`, `rest` the arguments after it. -/
def long (lv : Level) (body : String) (rest : List String) : Except LineError Level :=
  let cs := body.toList
  let name := String.ofList (cs.takeWhile (· != '='))
  let value := if cs.contains '=' then some (String.ofList ((cs.dropWhile (· != '=')).drop 1)) else none
  match lv.options.find? (·.long == name) with
  | some o =>
    if o.takesValue then
      match value with
      | some v => lv.react o [v]
      | none => lv.await o
    else
      match value with
      | some v =>
        let used := lv.used ++ [o]
        .error (lv.settle.report .tooManyValues
          { message := "unexpected value '" ++ v ++ "' for '" ++ o.display ++
              "' found; no more were expected",
            usage := some (lv.usageWith used) })
      | none => lv.react o []
  | none => .error (lv.settle.unknownLong name rest)

/-- A group of one-letter options. -/
def shortGroup (lv : Level) : List Char → Except LineError Level
  | [] => .ok lv
  | c :: cs =>
    match lv.options.find? (·.short == some c) with
    | none =>
      let l := lv.settle
      .error (l.report .unknownArgument
        { message := "unexpected argument '-" ++ String.ofList [c] ++ "' found",
          usage := some l.usage })
    | some o =>
      if o.takesValue then
        match cs with
        | [] => lv.await o
        | '=' :: v => lv.react o [String.ofList v]
        | v => lv.react o [String.ofList v]
      else do
        let l ← lv.react o []
        l.shortGroup cs

/-- An argument that is neither an option nor a value. -/
def stray (lv : Level) (arg : String) : LineError :=
  if lv.trailing && lv.commandNames.contains arg then
    lv.report .unknownArgument
      { message := "unexpected argument '" ++ arg ++ "' found",
        tips := ["subcommand '" ++ arg ++ "' exists; to use it, remove the '--' before it"],
        usage := some lv.usage }
  else if lv.commandNames.isEmpty then
    lv.report .unknownArgument
      { message := "unexpected argument '" ++ arg ++ "' found", usage := some lv.usage }
  else
    lv.report .invalidSubcommand
      { message := "unrecognized subcommand '" ++ arg ++ "'",
        similarCommands := similarNames arg lv.commandNames, usage := some lv.usage }

/-- The subcommand `help` followed by `names`. -/
def helpCommand (lv : Level) (names : List String) : LineError :=
  let top := lv.program
  let unknownAt (usage : String) (hint : Option String) (n : String) : LineError :=
    ⟨.invalidSubcommand, Report.text
      { message := "unrecognized subcommand '" ++ n ++ "'",
        usage := some ("Usage: " ++ usage), helpHint := hint }⟩
  match names with
  | [] => lv.helpShown
  | n :: more =>
    if n == "help" then
      match more with
      | [] => ⟨.displayHelp, Program.helpCommandHelp (lv.name ++ " help")⟩
      | m :: _ => unknownAt (Program.helpCommandUsage (lv.name ++ " help")) none m
    else
      match top.command? n with
      | some c =>
        let name := lv.name ++ " " ++ c.name
        match more with
        | [] => ⟨.displayHelp, top.commandHelp c name⟩
        | m :: _ => unknownAt (usageLine name (top.commandOptions c) false) lv.helpHint m
      | none => unknownAt (usageLine lv.name lv.options true) lv.helpHint n

/-- Is an option waiting for its value? -/
def awaiting (lv : Level) : Bool :=
  match lv.pending with
  | some (_, none) => true
  | _ => false

/-- Reads the arguments of this level; returns the level and, when a subcommand was named,
it and the arguments after it. -/
def run (lv : Level) : List String → Except LineError (Level × Option (Command × List String))
  | [] => do
    let l ← lv.resolve
    .ok (l, none)
  | a :: rest =>
    if lv.trailing then .error (lv.settle.stray a)
    else if !lv.awaiting && lv.commandNames.contains a then
      if a == "help" then .error (lv.helpCommand rest)
      else match lv.program.command? a with
        | some c => do
          let l ← lv.resolve
          .ok (l, some (c, rest))
        | none => .error (lv.settle.stray a)
    else if a == "--" then { lv with trailing := true }.run rest
    else if a.startsWith "--" then do
      let l ← lv.long (String.ofList (a.toList.drop 2)) rest
      l.run rest
    else if a.startsWith "-" && a != "-" then do
      let l ← lv.shortGroup (a.toList.drop 1)
      l.run rest
    else if lv.awaiting then
      { lv with pending := lv.pending.map fun (x : Opt × Option String) => (x.1, some a) }.run rest
    else .error (lv.settle.stray a)

end Level

/-- A parsed command line. -/
structure Parsed where
  program : Program
  top : Given
  /-- The subcommand named and the options given after it. -/
  command : Option (Command × Given) := none

namespace Parsed

/-- The values of an option: those given after the subcommand, else those given before it,
else its default. -/
def values (p : Parsed) (name : String) : List String :=
  let find (g : Given) : Option (List String) := (g.find? (·.1 == name)).map (·.2)
  let after : Option (List String) := match p.command with
    | some (_, g) => find g
    | none => none
  match after.or (find p.top) with
  | some vs => vs
  | none =>
    let opts := p.program.root.options ++ match p.command with
      | some (c, _) => c.options
      | none => []
    ((opts.find? (fun (o : Opt) => o.name == name)).bind (·.default)).toList

/-- Was a flag given? -/
def flag (p : Parsed) (name : String) : Bool := (p.values name).contains "true"

/-- The last value of an option, or its default. -/
def value? (p : Parsed) (name : String) : Option String := (p.values name).getLast?

/-- The name of the subcommand given. -/
def commandName (p : Parsed) : Option String := p.command.map (·.1.name)

end Parsed

/-- The last part of a path. -/
def fileName (path : String) : String := (path.splitOn "/").getLast?.getD path

/-- Reads a command line, its first argument being the program's path. -/
def Program.parse (p : Program) (args : List String) : Except LineError Parsed :=
  let (name, rest) := match args with
    | a :: r => (fileName a, r)
    | [] => (p.root.name, [])
  match ({ program := p, name } : Level).run rest with
  | .error e => .error e
  | .ok (top, none) => .ok { program := p, top := top.given }
  | .ok (top, some (c, more)) =>
    match ({ program := p, command := some c, name := name ++ " " ++ c.name } : Level).run more with
    | .error e => .error e
    | .ok (sub, _) => .ok { program := p, top := top.given, command := some (c, sub.given) }

end Reachability.CommandLine
