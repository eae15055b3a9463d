import Reachability.Yaml.Token.Lexer

/-!
# Events of a YAML stream

The event reader turns tokens into a stream of events: the start and end of the stream,
of each document, of each sequence and mapping, and the scalars and aliases between them.
It follows the grammar of YAML with a stack of states, one per open collection, and asks
the lexer for a token only when it needs one, so an error in the text surfaces after the
events before it.

Tags are resolved here: `!` and `!!` stand for `!` and `tag:yaml.org,2002:` unless a
`%TAG` directive of the document says otherwise, and a handle no directive defines is an
error. An entry, key or value left empty is an empty plain scalar.
-/

namespace Reachability.Yaml

/-- What an event is. -/
inductive EventKind where
  | streamStart
  | streamEnd
  | documentStart
  | documentEnd
  | alias (name : String)
  | scalar (anchor tag : Option String) (text : String) (style : ScalarStyle)
  | sequenceStart (anchor tag : Option String)
  | sequenceEnd
  | mappingStart (anchor tag : Option String)
  | mappingEnd
deriving DecidableEq, Repr, Inhabited

/-- An event with the mark where it starts. -/
structure Event where
  kind : EventKind
  start : Mark
deriving DecidableEq, Repr, Inhabited

/-- Where the event reader stands in the grammar. -/
inductive ReadState where
  | streamStart
  | implicitDocumentStart
  | documentStart
  | documentContent
  | documentEnd
  | blockNode
  | blockNodeOrIndentlessSequence
  | flowNode
  | blockSequenceFirstEntry
  | blockSequenceEntry
  | indentlessSequenceEntry
  | blockMappingFirstKey
  | blockMappingKey
  | blockMappingValue
  | flowSequenceFirstEntry
  | flowSequenceEntry
  | flowSequenceEntryMappingKey
  | flowSequenceEntryMappingValue
  | flowSequenceEntryMappingEnd
  | flowMappingFirstKey
  | flowMappingKey
  | flowMappingValue
  | flowMappingEmptyValue
  | finished
deriving DecidableEq, Repr, Inhabited

/-- The tag handles every document knows. -/
def defaultTagHandles : List (String × String) :=
  [("!", "!"), ("!!", "tag:yaml.org,2002:")]

/-- The state of the event reader. -/
structure EventReader where
  lexer : Lexer
  state : ReadState := .streamStart
  /-- States to return to, the innermost first. -/
  states : List ReadState := []
  /-- Where the open collections started, the innermost first. -/
  marks : List Mark := []
  /-- Tag handles of the current document with their prefixes. -/
  tags : List (String × String) := []
deriving Inhabited

/-- An error without context. -/
def SyntaxError.at_ (problem : String) (m : Mark) : SyntaxError := { problem, mark := m }

/-- An error found at `m` while reading what began at `start`. -/
def SyntaxError.during (context : String) (start : Mark) (problem : String) (m : Mark) :
    SyntaxError :=
  { problem, mark := m, context := some (context, start) }

namespace EventReader

/-- A reader over a lexer. -/
def ofLexer (l : Lexer) : EventReader := { lexer := l }

/-- The next token, without taking it. -/
def peek (r : EventReader) : Except SyntaxError (Token × EventReader) := do
  let (t, l) ← r.lexer.peekToken
  return (t, { r with lexer := l })

/-- Takes the next token. -/
def take (r : EventReader) : EventReader := { r with lexer := r.lexer.takeToken }

/-- Returns to the state on top of the stack. -/
def pop (r : EventReader) : EventReader :=
  { r with state := r.states.headD .finished, states := r.states.drop 1 }

/-- Pushes a state to return to. -/
def pushState (r : EventReader) (s : ReadState) : EventReader := { r with states := s :: r.states }

/-- Moves to a state. -/
def goto (r : EventReader) (s : ReadState) : EventReader := { r with state := s }

/-- Remembers where a collection starts, from its first token, and takes that token. -/
def openAt (r : EventReader) : Except SyntaxError EventReader := do
  let (t, r) ← r.peek
  return { r with marks := t.start :: r.marks }.take

/-- Forgets the innermost collection's start. -/
def closeMark (r : EventReader) : EventReader := { r with marks := r.marks.drop 1 }

/-- Where the innermost collection started. -/
def openMark (r : EventReader) : Mark := r.marks.headD Mark.start

/-- An empty plain scalar at `m`. -/
def emptyScalar (r : EventReader) (m : Mark) : Except SyntaxError (Event × EventReader) :=
  .ok (⟨.scalar none none "" .plain, m⟩, r)

/-- Reads the directives before a document and sets up its tag handles. -/
def directives (r : EventReader) : Except SyntaxError EventReader :=
  go (r.lexer.text.size + 2) false { r with tags := [] }
where
  go : Nat → Bool → EventReader → Except SyntaxError EventReader
    | 0, _, r => .ok r
    | fuel + 1, versioned, r => do
      let (t, r) ← r.peek
      match t.kind with
      | .versionDirective major minor =>
        if versioned then throw (SyntaxError.at_ "found duplicate %YAML directive" t.start)
        if major != 1 || (minor != 1 && minor != 2) then
          throw (SyntaxError.at_ "found incompatible YAML document" t.start)
        go fuel true r.take
      | .tagDirective handle pfx =>
        if r.tags.any (·.1 == handle) then
          throw (SyntaxError.at_ "found duplicate %TAG directive" t.start)
        go fuel versioned { r with tags := r.tags ++ [(handle, pfx)] }.take
      | _ =>
        let extra := defaultTagHandles.filter fun (h, _) => !r.tags.any (·.1 == h)
        return { r with tags := r.tags ++ extra }

/-- Reads a node: an alias, or a scalar or the start of a collection, with the anchor and
tag before it. `block` allows block collections; `indentless` allows a sequence whose
entries stand at the indentation of the enclosing mapping. -/
def node (r : EventReader) (block indentless : Bool) : Except SyntaxError (Event × EventReader) := do
  let (t, r) ← r.peek
  if let .alias name := t.kind then return (⟨.alias name, t.start⟩, r.pop.take)
  let start := t.start
  let (anchor, written, tagMark, t, r) ← match t.kind with
    | .anchor a => do
      let (t2, r) ← r.take.peek
      match t2.kind with
      | .tag h s => do
        let (t3, r) ← r.take.peek
        pure (some a, some (h, s), t2.start, t3, r)
      | _ => pure (some a, none, start, t2, r)
    | .tag h s => do
      let (t2, r) ← r.take.peek
      match t2.kind with
      | .anchor a => do
        let (t3, r) ← r.take.peek
        pure (some a, some (h, s), start, t3, r)
      | _ => pure (none, some (h, s), start, t2, r)
    | _ => pure (none, none, start, t, r)
  let tag ← match written with
    | none => pure none
    | some (h, s) =>
      if h.isEmpty then pure (some s)
      else match r.tags.find? (·.1 == h) with
        | some (_, p) => pure (some (p ++ s))
        | none => throw (SyntaxError.during "while parsing a node" start "found undefined tag handle" tagMark)
  if indentless && t.kind == .blockEntry then
    return (⟨.sequenceStart anchor tag, start⟩, r.goto .indentlessSequenceEntry)
  match t.kind with
  | .scalar text style => return (⟨.scalar anchor tag text style, start⟩, r.pop.take)
  | .flowSequenceStart => return (⟨.sequenceStart anchor tag, start⟩, r.goto .flowSequenceFirstEntry)
  | .flowMappingStart => return (⟨.mappingStart anchor tag, start⟩, r.goto .flowMappingFirstKey)
  | .blockSequenceStart =>
    if block then return (⟨.sequenceStart anchor tag, start⟩, r.goto .blockSequenceFirstEntry)
  | .blockMappingStart =>
    if block then return (⟨.mappingStart anchor tag, start⟩, r.goto .blockMappingFirstKey)
  | _ => pure ()
  if anchor.isSome || tag.isSome then
    return (⟨.scalar anchor tag "" .plain, start⟩, r.pop)
  throw (SyntaxError.during (if block then "while parsing a block node" else "while parsing a flow node")
    start "did not find expected node content" t.start)

/-- The start of a document, or the end of the stream. -/
def documentStart (r : EventReader) (implicit : Bool) : Except SyntaxError (Event × EventReader) := do
  let (t, r) ← r.peek
  let (t, r) ← if implicit then pure (t, r) else skipEnds (r.lexer.text.size + 2) t r
  let explicitStart := match t.kind with
    | .versionDirective .. | .tagDirective .. | .documentStart | .streamEnd => true
    | _ => false
  if implicit && !explicitStart then
    let r ← r.directives
    return (⟨.documentStart, t.start⟩, (r.pushState .documentEnd).goto .blockNode)
  else if t.kind != .streamEnd then
    let r ← r.directives
    let (t2, r) ← r.peek
    if t2.kind != .documentStart then
      throw (SyntaxError.at_ "did not find expected <document start>" t2.start)
    return (⟨.documentStart, t.start⟩, ((r.pushState .documentEnd).goto .documentContent).take)
  else return (⟨.streamEnd, t.start⟩, (r.goto .finished).take)
where
  skipEnds : Nat → Token → EventReader → Except SyntaxError (Token × EventReader)
    | 0, t, r => .ok (t, r)
    | fuel + 1, t, r =>
      if t.kind == .documentEnd then do
        let (t, r) ← r.take.peek
        skipEnds fuel t r
      else .ok (t, r)

/-- An entry of a block sequence. -/
def blockSequenceEntry (r : EventReader) (first : Bool) : Except SyntaxError (Event × EventReader) := do
  let r ← if first then r.openAt else pure r
  let (t, r) ← r.peek
  match t.kind with
  | .blockEntry =>
    let (t2, r) ← r.take.peek
    if t2.kind != .blockEntry && t2.kind != .blockEnd then
      (r.pushState .blockSequenceEntry).node true false
    else (r.goto .blockSequenceEntry).emptyScalar t.stop
  | .blockEnd => return (⟨.sequenceEnd, t.start⟩, r.pop.closeMark.take)
  | _ => throw (SyntaxError.during "while parsing a block collection" r.openMark
      "did not find expected '-' indicator" t.start)

/-- An entry of a sequence written at its mapping's indentation. -/
def indentlessSequenceEntry (r : EventReader) : Except SyntaxError (Event × EventReader) := do
  let (t, r) ← r.peek
  if t.kind == .blockEntry then
    let (t2, r) ← r.take.peek
    if t2.kind != .blockEntry && t2.kind != .key && t2.kind != .value && t2.kind != .blockEnd then
      (r.pushState .indentlessSequenceEntry).node true false
    else (r.goto .indentlessSequenceEntry).emptyScalar t.stop
  else return (⟨.sequenceEnd, t.start⟩, r.pop)

/-- A key of a block mapping. -/
def blockMappingKey (r : EventReader) (first : Bool) : Except SyntaxError (Event × EventReader) := do
  let r ← if first then r.openAt else pure r
  let (t, r) ← r.peek
  match t.kind with
  | .key =>
    let (t2, r) ← r.take.peek
    if t2.kind != .key && t2.kind != .value && t2.kind != .blockEnd then
      (r.pushState .blockMappingValue).node true true
    else (r.goto .blockMappingValue).emptyScalar t.stop
  | .blockEnd => return (⟨.mappingEnd, t.start⟩, r.pop.closeMark.take)
  | _ => throw (SyntaxError.during "while parsing a block mapping" r.openMark
      "did not find expected key" t.start)

/-- A value of a block mapping. -/
def blockMappingValue (r : EventReader) : Except SyntaxError (Event × EventReader) := do
  let (t, r) ← r.peek
  if t.kind == .value then
    let (t2, r) ← r.take.peek
    if t2.kind != .key && t2.kind != .value && t2.kind != .blockEnd then
      (r.pushState .blockMappingKey).node true true
    else (r.goto .blockMappingKey).emptyScalar t.stop
  else (r.goto .blockMappingKey).emptyScalar t.start

/-- An entry of a flow sequence. -/
def flowSequenceEntry (r : EventReader) (first : Bool) : Except SyntaxError (Event × EventReader) := do
  let r ← if first then r.openAt else pure r
  let (t, r) ← r.peek
  let (t, r) ← if t.kind != .flowSequenceEnd && !first then
      if t.kind == .flowEntry then r.take.peek
      else throw (SyntaxError.during "while parsing a flow sequence" r.openMark
        "did not find expected ',' or ']'" t.start)
    else pure (t, r)
  if t.kind == .key then
    return (⟨.mappingStart none none, t.start⟩, (r.goto .flowSequenceEntryMappingKey).take)
  else if t.kind != .flowSequenceEnd then
    (r.pushState .flowSequenceEntry).node false false
  else return (⟨.sequenceEnd, t.start⟩, r.pop.closeMark.take)

/-- The key of a one-pair mapping inside a flow sequence. -/
def flowSequenceEntryMappingKey (r : EventReader) : Except SyntaxError (Event × EventReader) := do
  let (t, r) ← r.peek
  if t.kind != .value && t.kind != .flowEntry && t.kind != .flowSequenceEnd then
    (r.pushState .flowSequenceEntryMappingValue).node false false
  else (r.goto .flowSequenceEntryMappingValue).emptyScalar t.start

/-- The value of a one-pair mapping inside a flow sequence. -/
def flowSequenceEntryMappingValue (r : EventReader) : Except SyntaxError (Event × EventReader) := do
  let (t, r) ← r.peek
  if t.kind == .value then
    let (t2, r) ← r.take.peek
    if t2.kind != .flowEntry && t2.kind != .flowSequenceEnd then
      (r.pushState .flowSequenceEntryMappingEnd).node false false
    else (r.goto .flowSequenceEntryMappingEnd).emptyScalar t2.start
  else (r.goto .flowSequenceEntryMappingEnd).emptyScalar t.start

/-- A key of a flow mapping. -/
def flowMappingKey (r : EventReader) (first : Bool) : Except SyntaxError (Event × EventReader) := do
  let r ← if first then r.openAt else pure r
  let (t, r) ← r.peek
  let (t, r) ← if t.kind != .flowMappingEnd && !first then
      if t.kind == .flowEntry then r.take.peek
      else throw (SyntaxError.during "while parsing a flow mapping" r.openMark
        "did not find expected ',' or '\x7d'" t.start)
    else pure (t, r)
  if t.kind == .key then
    let (t2, r) ← r.take.peek
    if t2.kind != .value && t2.kind != .flowEntry && t2.kind != .flowMappingEnd then
      (r.pushState .flowMappingValue).node false false
    else (r.goto .flowMappingValue).emptyScalar t2.start
  else if t.kind != .flowMappingEnd then
    (r.pushState .flowMappingEmptyValue).node false false
  else return (⟨.mappingEnd, t.start⟩, r.pop.closeMark.take)

/-- A value of a flow mapping; `empty` when its key stood alone. -/
def flowMappingValue (r : EventReader) (empty : Bool) : Except SyntaxError (Event × EventReader) := do
  let (t, r) ← r.peek
  if empty then (r.goto .flowMappingKey).emptyScalar t.start
  else if t.kind == .value then
    let (t2, r) ← r.take.peek
    if t2.kind != .flowEntry && t2.kind != .flowMappingEnd then
      (r.pushState .flowMappingKey).node false false
    else (r.goto .flowMappingKey).emptyScalar t2.start
  else (r.goto .flowMappingKey).emptyScalar t.start

/-- The next event. -/
def next (r : EventReader) : Except SyntaxError (Event × EventReader) :=
  match r.state with
  | .streamStart => do
    let (t, r) ← r.peek
    return (⟨.streamStart, t.start⟩, (r.goto .implicitDocumentStart).take)
  | .implicitDocumentStart => r.documentStart true
  | .documentStart => r.documentStart false
  | .documentContent => do
    let (t, r) ← r.peek
    match t.kind with
    | .versionDirective .. | .tagDirective .. | .documentStart | .documentEnd | .streamEnd =>
      r.pop.emptyScalar t.start
    | _ => r.node true false
  | .documentEnd => do
    let (t, r) ← r.peek
    let r := if t.kind == .documentEnd then r.take else r
    return (⟨.documentEnd, t.start⟩, { r with tags := [] }.goto .documentStart)
  | .blockNode => r.node true false
  | .blockNodeOrIndentlessSequence => r.node true true
  | .flowNode => r.node false false
  | .blockSequenceFirstEntry => r.blockSequenceEntry true
  | .blockSequenceEntry => r.blockSequenceEntry false
  | .indentlessSequenceEntry => r.indentlessSequenceEntry
  | .blockMappingFirstKey => r.blockMappingKey true
  | .blockMappingKey => r.blockMappingKey false
  | .blockMappingValue => r.blockMappingValue
  | .flowSequenceFirstEntry => r.flowSequenceEntry true
  | .flowSequenceEntry => r.flowSequenceEntry false
  | .flowSequenceEntryMappingKey => r.flowSequenceEntryMappingKey
  | .flowSequenceEntryMappingValue => r.flowSequenceEntryMappingValue
  | .flowSequenceEntryMappingEnd => do
    let (t, r) ← r.peek
    return (⟨.mappingEnd, t.start⟩, r.goto .flowSequenceEntry)
  | .flowMappingFirstKey => r.flowMappingKey true
  | .flowMappingKey => r.flowMappingKey false
  | .flowMappingValue => r.flowMappingValue false
  | .flowMappingEmptyValue => r.flowMappingValue true
  | .finished => do
    let (t, r) ← r.peek
    return (⟨.streamEnd, t.start⟩, r)

end EventReader

end Reachability.Yaml
