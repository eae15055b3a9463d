import Reachability.Config.Cluster
import Reachability.Files.Volume

/-!
# Loading settings from files

A settings file is read whole, as UTF-8 text, and decoded as one YAML document; an
agent's settings are then checked. Each step fails with its own error, which names the
file.
-/

namespace Reachability.Config

open Reachability.Yaml
open Reachability.Files

/-- Why settings could not be loaded. -/
inductive ConfigError where
  /-- The file could not be read. -/
  | read (path : String) (message : String)
  /-- The file is not a document of the settings. -/
  | parse (path : String) (e : DecodeError)
  /-- The settings break a rule. -/
  | invalid (message : String)
deriving DecidableEq, Repr

/-- The text of a loading error. -/
def ConfigError.message : ConfigError → String
  | .read path m => "cannot read config file " ++ path ++ ": " ++ m
  | .parse path e => "cannot parse config file " ++ path ++ ": " ++ e.message
  | .invalid m => "invalid config: " ++ m

/-- The text of a file as UTF-8. -/
def readText (v : Dir) (path : String) : Except ConfigError String :=
  match Path.read path >>= v.readFile with
  | .error e => .error (.read path e.message)
  | .ok bytes =>
    match Text.Utf8.decode bytes with
    | some s => .ok s
    | none => .error (.read path "stream did not contain valid UTF-8")

/-- Decodes an agent's settings from text and checks them. -/
def Agent.ofText (path text : String) : Except ConfigError Agent :=
  match decodeText text (Agent.decode .root) with
  | .error e => .error (.parse path e)
  | .ok a =>
    match a.problem with
    | some m => .error (.invalid m)
    | none => .ok a

/-- Decodes a cluster layout from text. -/
def Cluster.ofText (path text : String) : Except ConfigError Cluster :=
  match decodeText text (Cluster.decode .root) with
  | .error e => .error (.parse path e)
  | .ok c => .ok c

/-- Loads an agent's settings from a file. -/
def Agent.load (v : Dir) (path : String) : Except ConfigError Agent := do
  Agent.ofText path (← readText v path)

/-- Loads a cluster layout from a file. -/
def Cluster.load (v : Dir) (path : String) : Except ConfigError Cluster := do
  Cluster.ofText path (← readText v path)

end Reachability.Config
