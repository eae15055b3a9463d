import Reachability.Number.Integer

/-!
# Command-line grammars

A program's command line is a list of options, each with a long name, perhaps a one-letter
name, and a way of taking values: a flag takes none and may be given once; a single option
takes one value and may be given once; a repeated option takes one value each time it is
given, perhaps split at a delimiter. Help and version are options too, shown and looked up
like the others.

A program may have subcommands, each with options of its own; the program's global
options are known to every subcommand. A program with subcommands also knows the
subcommand `help`.

Each option may check its values. A check refuses a value either as missing (an empty
value where one is needed) or with a reason, which is shown after the value.
-/

namespace Reachability.CommandLine

open Reachability.Number

/-- Why a value is refused. -/
inductive ValueFault where
  /-- An empty value where one is needed. -/
  | missing
  | invalid (reason : String)
deriving DecidableEq, Repr

/-- How an option takes values. -/
inductive Arity where
  | flag
  | single
  | repeated (delimiter : Option Char)
  | help
  | version
deriving DecidableEq, Repr

/-- One option of a command line. -/
structure Opt where
  /-- The name the parsed values are kept under. -/
  name : String
  long : String
  short : Option Char := none
  /-- The placeholder of its value, as in `--period <PERIOD>`. -/
  valueName : String := ""
  arity : Arity := .flag
  about : String := ""
  default : Option String := none
  global : Bool := false
  /-- Options are listed by this order, then by their names. -/
  order : Nat := 0
  /-- Checks one value: `none` accepts it. -/
  check : String → Option ValueFault := fun _ => none

namespace Opt

/-- Does the option take values? -/
def takesValue (o : Opt) : Bool :=
  match o.arity with
  | .single | .repeated _ => true
  | _ => false

/-- The option as errors and usage lines name it: `--long <VALUE>`. -/
def display (o : Opt) : String :=
  "--" ++ o.long ++ (if o.takesValue then " <" ++ o.valueName ++ ">" else "")

/-- The key options are listed by after their order: the letter in lower case, marked `0`
when it was a lower-case letter and `1` otherwise, or else the long name. -/
def sortKey (o : Opt) : String :=
  match o.short with
  | some c => String.ofList [c.toLower, if c.isLower then '0' else '1']
  | none => o.long

/-- The help option. -/
def help : Opt :=
  { name := "help", long := "help", short := some 'h', arity := .help, about := "Print help",
    order := 999 }

/-- The version option. -/
def version : Opt :=
  { name := "version", long := "version", short := some 'V', arity := .version,
    about := "Print version", order := 999 }

end Opt

/-- A command: its options, without help and version. -/
structure Command where
  name : String
  about : String := ""
  options : List Opt

/-- A program: its own command, whether it has the help option, its version, and its
subcommands. -/
structure Program where
  root : Command
  version : Option String := none
  hasHelp : Bool := true
  commands : List Command := []

namespace Program

/-- The options known at the top of the command line, help and version last. -/
def topOptions (p : Program) : List Opt :=
  p.root.options ++ (if p.hasHelp then [Opt.help] else []) ++
    (if p.version.isSome then [Opt.version] else [])

/-- The options known after a subcommand: its own, then the global ones, then help. -/
def commandOptions (p : Program) (c : Command) : List Opt :=
  c.options ++ p.root.options.filter (·.global) ++ (if p.hasHelp then [Opt.help] else [])

/-- The subcommand of a name, `help` aside. -/
def command? (p : Program) (name : String) : Option Command :=
  p.commands.find? (·.name == name)

/-- The names a subcommand may be given by, `help` last. -/
def commandNames (p : Program) : List String :=
  if p.commands.isEmpty then [] else p.commands.map (·.name) ++ ["help"]

end Program

/-! ## Value checks -/

/-- An integer in `[lo, hi]`, read first as a 64-bit signed integer, so that a minus sign
is read before the range is checked (`-0` is zero). -/
def rangedValue (lo hi : Int) (s : String) : Except String Int :=
  match readSignedBits 64 s with
  | .error e => .error e.message
  | .ok v =>
    if lo ≤ v ∧ v ≤ hi then .ok v
    else .error (toString v ++ " is not in " ++ toString lo ++ "..=" ++ toString hi)

/-- Values that are integers in `[lo, hi]`, as `rangedValue` reads them. -/
def rangeCheck (lo hi : Int) (s : String) : Option ValueFault :=
  match rangedValue lo hi s with
  | .error m => some (.invalid m)
  | .ok _ => none

/-- A port as an option value: an integer in `[0, 65535]`, as `rangedValue` reads it. -/
def portValue (s : String) : Option Nat := ((rangedValue 0 65535 s).toOption).map Int.toNat

/-- Values that are 16-bit unsigned integers. -/
def portCheck : String → Option ValueFault := rangeCheck 0 65535

/-- Values that are 32-bit signed integers. -/
def int32Check : String → Option ValueFault := rangeCheck (-2147483648) 2147483647

/-- Values that are 64-bit unsigned integers. -/
def countCheck (s : String) : Option ValueFault :=
  match readUnsignedBits 64 s with
  | .error e => some (.invalid e.message)
  | .ok _ => none

/-- Values that name a file: any but the empty one. -/
def pathCheck (s : String) : Option ValueFault :=
  if s.isEmpty then some .missing else none

end Reachability.CommandLine
