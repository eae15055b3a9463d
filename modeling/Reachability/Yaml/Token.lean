import Reachability.Yaml.Mark

/-!
# Tokens of YAML text

The lexer cuts YAML text into tokens: indicators of structure, the start and end of block
collections as their indentation shows them, and the scalars, anchors, aliases and tags
that carry content. Each token keeps the marks where it starts and where it stops.
-/

namespace Reachability.Yaml

/-- How a scalar was written. -/
inductive ScalarStyle where
  | plain
  | singleQuoted
  | doubleQuoted
  | literal
  | folded
deriving DecidableEq, Repr, Inhabited

/-- What a token is. -/
inductive TokenKind where
  | streamStart
  | streamEnd
  /-- A `%YAML major.minor` directive. -/
  | versionDirective (major minor : Nat)
  /-- A `%TAG handle prefix` directive. -/
  | tagDirective (handle pfx : String)
  | documentStart
  | documentEnd
  | blockSequenceStart
  | blockMappingStart
  | blockEnd
  | flowSequenceStart
  | flowSequenceEnd
  | flowMappingStart
  | flowMappingEnd
  | blockEntry
  | flowEntry
  | key
  | value
  | alias (name : String)
  | anchor (name : String)
  /-- A tag as written: its handle and the rest. -/
  | tag (handle suffix : String)
  | scalar (text : String) (style : ScalarStyle)
deriving DecidableEq, Repr, Inhabited

/-- A token with the marks where it starts and stops. -/
structure Token where
  kind : TokenKind
  start : Mark
  stop : Mark
deriving DecidableEq, Repr, Inhabited

end Reachability.Yaml
