import Reachability.Yaml.Event

/-!
# The first document of a YAML stream

Loading reads the events of the first document in order, up to its end or to the first
syntax error; the events before an error are kept, so a reader of the document meets the
error only if it reads that far. Anchors are numbered as they come: an anchor gets the
number of distinct anchor names seen before it, and its name stands for that number from
then on. An alias is replaced by the position of the latest node numbered like its name, so
once a name has been used twice, a later anchor of another name can take its number over.
An alias of no known anchor ends the loading like a syntax error. A stream with no document
at all loads as one empty document.

Loading also tells whether a second document follows, which readers that take one
document refuse.
-/

namespace Reachability.Yaml

/-- One event of a loaded document. -/
inductive Item where
  /-- The whole of an empty stream. -/
  | void
  /-- An alias, by the position of the node it names. -/
  | alias (target : Nat)
  | scalar (tag : Option String) (text : String) (style : ScalarStyle)
  | sequenceStart
  | sequenceEnd
  | mappingStart
  | mappingEnd
deriving DecidableEq, Repr, Inhabited

/-- Why loading stopped early. -/
inductive LoadError where
  | malformed (e : SyntaxError)
  | unknownAnchor (at_ : Mark)
deriving DecidableEq, Repr

/-- The text of a loading error. -/
def LoadError.message : LoadError → String
  | .malformed e => e.message
  | .unknownAnchor m => "unknown anchor" ++ (if m.isStart then "" else " at " ++ m.text)

/-- A loaded document: its events with their marks, and what stopped the loading early. -/
structure Document where
  items : Array (Item × Mark)
  error : Option LoadError := none
deriving Inhabited

/-- Where loading stands: the events so far, the number each anchor name stands for, and
the position of each numbered node, the latest first. -/
structure Loading where
  items : Array (Item × Mark) := #[]
  names : List (String × Nat) := []
  targets : List (Nat × Nat) := []

/-- Records an anchor for the next event. -/
def Loading.anchor (s : Loading) : Option String → Loading
  | some a =>
    let number := s.names.length
    { s with names := (a, number) :: s.names.filter (·.1 != a),
             targets := (number, s.items.size) :: s.targets }
  | none => s

/-- The position of the node an anchor name leads to. -/
def Loading.target? (s : Loading) (name : String) : Option Nat := do
  let (_, number) ← s.names.find? (·.1 == name)
  let (_, pos) ← s.targets.find? (·.1 == number)
  pure pos

/-- Adds an event. -/
def Loading.add (s : Loading) (it : Item) (m : Mark) : Loading := { s with items := s.items.push (it, m) }

/-- Reads the events of the first document; the reader is returned when the document ended
without error and the stream may go on. -/
def loadEvents : Nat → Loading → EventReader → Document × Option EventReader
  | 0, s, _ => ({ items := s.items }, none)
  | fuel + 1, s, r =>
    match r.next with
    | .error e => ({ items := s.items, error := some (.malformed e) }, none)
    | .ok (e, r) =>
      match e.kind with
      | .streamStart | .documentStart => loadEvents fuel s r
      | .streamEnd =>
        let items := if s.items.isEmpty then #[(Item.void, e.start)] else s.items
        ({ items }, none)
      | .documentEnd => ({ items := s.items }, some r)
      | .alias name =>
        match s.target? name with
        | some target => loadEvents fuel (s.add (.alias target) e.start) r
        | none => ({ items := s.items, error := some (.unknownAnchor e.start) }, none)
      | .scalar anchor tag text style =>
        loadEvents fuel ((s.anchor anchor).add (.scalar tag text style) e.start) r
      | .sequenceStart anchor _ => loadEvents fuel ((s.anchor anchor).add .sequenceStart e.start) r
      | .sequenceEnd => loadEvents fuel (s.add .sequenceEnd e.start) r
      | .mappingStart anchor _ => loadEvents fuel ((s.anchor anchor).add .mappingStart e.start) r
      | .mappingEnd => loadEvents fuel (s.add .mappingEnd e.start) r

/-- Does anything but the end of the stream follow? -/
def EventReader.hasMore (r : EventReader) : Bool :=
  match r.next with
  | .ok (e, _) => e.kind != .streamEnd
  | .error _ => true

/-- The first document of a text, and whether another one follows it. -/
def Document.load (text : String) : Document × Bool :=
  match Lexer.ofText text with
  | .error e => ({ items := #[], error := some (.malformed e) }, false)
  | .ok l =>
    let (d, rest) := loadEvents (16 * (l.text.size + 8)) {} (EventReader.ofLexer l)
    (d, match rest with
      | some r => r.hasMore
      | none => false)

end Reachability.Yaml
