import Reachability.Yaml.Document
import Reachability.Number.Shortest
import Reachability.Text.Quoted

/-!
# Reading typed values from a YAML document

A decoder walks the events of a loaded document and builds a typed value: text, a bounded
count, a truth value, an optional value, a list, or a record with named fields. Each reader
takes the path of the value from the top of the document (`podNetwork.jobs[0].args`), and
an error it raises carries that path and the mark where the value starts; an error that
comes up from inside a record without a place of its own (a missing or repeated field, or
a field's own check) gets the record's place.

What each reader takes:

* **text** — any scalar, as written;
* **counts** — a plain scalar in decimal, or with `0x`, `0o` or `0b`, optionally after `+`;
  a leading zero before more digits makes it text, not a number; a count beyond the bound
  is an invalid value;
* **truth values** — a plain `true`, `True`, `TRUE`, `false`, `False` or `FALSE`;
* **optional values** — a plain `~`, `null`, `Null`, `NULL` or an empty plain scalar is
  absent, anything else is read;
* **lists** — a sequence, or an empty plain scalar;
* **records** — a mapping, or an empty plain scalar, whose fields are read by name; other
  keys are passed over, a repeated field is an error.

An alias is read as the node its anchor marks. Any other value is an invalid type, named
by what the value resolves to: `unit value` for null, `boolean`, `integer` (a count beyond
64 bits is named `as u128`, a negative one beyond 64 bits `as i128`), `floating point`,
`string`, `sequence` or `map`.
-/

namespace Reachability.Yaml

open Reachability.Number

/-- The place of a value in a document: keys and indices from the top. A value reached
through an alias, or under a key that is not a scalar, keeps its own kind of step. -/
inductive Path where
  | root
  | key (parent : Path) (name : String)
  | index (parent : Path) (i : Nat)
  | alias (parent : Path)
  | unknown (parent : Path)
deriving DecidableEq, Repr, Inhabited

/-- The text of a path: keys joined by `.`, indices in brackets, `.` for the top. -/
def Path.text : Path → String
  | .root => "."
  | .key .root k => k
  | .key p k => Path.text p ++ "." ++ k
  | .index p i => Path.text p ++ "[" ++ toString i ++ "]"
  | .alias p => Path.text p
  | .unknown .root => "?"
  | .unknown p => Path.text p ++ ".?"

/-- What a value turned out to be, as an error message names it. -/
inductive Found where
  | unit
  | bool (b : Bool)
  | unsigned (n : Nat)
  | signed (i : Int)
  /-- An integer beyond 64 bits, already named. -/
  | wide (text : String)
  | float (x : Binary64)
  | text (s : String)
  | sequence
  | mapping
deriving DecidableEq, Repr

/-- A binary64 value as error messages show it: positional, with `.0` added to a finite
value that has no point. -/
def pointedText (x : Binary64) : String :=
  let t := x.plainText
  if x.isFinite && !t.contains '.' then t ++ ".0" else t

/-- How an error message names what was found. -/
def Found.describe : Found → String
  | .unit => "unit value"
  | .bool b => "boolean `" ++ toString b ++ "`"
  | .unsigned n => "integer `" ++ toString n ++ "`"
  | .signed i => "integer `" ++ toString i ++ "`"
  | .wide t => t
  | .float x => "floating point `" ++ pointedText x ++ "`"
  | .text s => "string " ++ Text.quoteVisible s
  | .sequence => "sequence"
  | .mapping => "map"

/-- Why a document could not be read as a value. -/
inductive DecodeError where
  /-- A wrong value, with the mark and path where it was found once known. -/
  | wrong (text : String) (place : Option (Mark × Path))
  | load (e : LoadError)
  | endOfStream
  | moreThanOneDocument
  | repetitionLimit
deriving DecidableEq, Repr

/-- The text of a decoding error. -/
def DecodeError.message : DecodeError → String
  | .wrong t none => t
  | .wrong t (some (m, p)) =>
    (if p.text != "." then p.text ++ ": " else "") ++ t ++
      (if m.isStart then "" else " at " ++ m.text)
  | .load e => e.message
  | .endOfStream => "EOF while parsing a value"
  | .moreThanOneDocument => "deserializing from YAML containing more than one document is not supported"
  | .repetitionLimit => "repetition limit exceeded"

/-- Gives an error without a place the place of the value being read. -/
def DecodeError.place (e : DecodeError) (m : Mark) (p : Path) : DecodeError :=
  match e with
  | .wrong t none => .wrong t (some (m, p))
  | e => e

/-- A value of the wrong kind. -/
def invalidType (f : Found) (expected : String) : DecodeError :=
  .wrong ("invalid type: " ++ f.describe ++ ", expected " ++ expected) none

/-- A value of the right kind that is not allowed. -/
def invalidValue (f : Found) (expected : String) : DecodeError :=
  .wrong ("invalid value: " ++ f.describe ++ ", expected " ++ expected) none

/-- A field that a record needs and the mapping lacks. -/
def missingField (name : String) : DecodeError :=
  .wrong ("missing field `" ++ name ++ "`") none

/-! ## What a scalar resolves to -/

/-- The tags of the core schema. -/
def boolTag : String := "tag:yaml.org,2002:bool"
def intTag : String := "tag:yaml.org,2002:int"
def floatTag : String := "tag:yaml.org,2002:float"
def nullTag : String := "tag:yaml.org,2002:null"

/-- The spellings of null, the empty scalar apart. -/
def isNullText (v : String) : Bool := v == "~" || v == "null" || v == "Null" || v == "NULL"

/-- The spellings of the truth values. -/
def boolOfText (v : String) : Option Bool :=
  if v == "true" || v == "True" || v == "TRUE" then some true
  else if v == "false" || v == "False" || v == "FALSE" then some false
  else none

/-- The value of a digit in radices up to 36. -/
def digitValue (c : Char) : Option Nat :=
  if c.isDigit then some (c.toNat - 48)
  else if 97 ≤ c.toNat && c.toNat ≤ 122 then some (c.toNat - 87)
  else if 65 ≤ c.toNat && c.toNat ≤ 90 then some (c.toNat - 55)
  else none

/-- The value of digits in a radix; none when there are none or one is not a digit. -/
def radixValue (radix : Nat) (cs : List Char) : Option Nat :=
  if cs.isEmpty then none
  else cs.foldlM (fun acc c => (digitValue c).bind fun d =>
    if d < radix then some (acc * radix + d) else none) 0

/-- Digits after an optional sign, with a leading zero: text, not a number. -/
def digitsButNotNumber (v : String) : Bool :=
  let s := match v.toList with
    | '-' :: r => r
    | '+' :: r => r
    | r => r
  s.length > 1 && s.head? == some '0' && (s.drop 1).all Char.isDigit

/-- The unsigned integer a scalar spells, of any size: decimal, or `0x`, `0o`, `0b` with
their digits, optionally after `+`. -/
def unsignedText (v : String) : Option Nat :=
  let u := match v.toList with
    | '+' :: r => r
    | r => r
  let radixed (p : List Char) (radix : Nat) : Option (Option Nat) :=
    if u.take 2 == p then
      let rest := u.drop 2
      if rest.head? == some '+' || rest.head? == some '-' then some none
      else (radixValue radix rest).map some
    else none
  match radixed ['0', 'x'] 16 with
  | some r => r
  | none => match radixed ['0', 'o'] 8 with
    | some r => r
    | none => match radixed ['0', 'b'] 2 with
      | some r => r
      | none =>
        if u.head? == some '+' || u.head? == some '-' || digitsButNotNumber v then none
        else radixValue 10 u

/-- Digits in a radix after an optional sign. -/
def signedRadix (radix : Nat) : List Char → Option Int
  | ['+'] => none
  | ['-'] => none
  | '+' :: ds => (radixValue radix ds).map Int.ofNat
  | '-' :: ds => (radixValue radix ds).map fun n => -(n : Int)
  | ds => (radixValue radix ds).map Int.ofNat

/-- The signed integer a scalar spells, of any size: `-0x`, `-0o`, `-0b` with their
digits, or decimal with an optional sign. -/
def signedText (v : String) : Option Int :=
  let cs := v.toList
  let radixed (p : List Char) (radix : Nat) : Option Int :=
    if cs.take 3 == p then signedRadix radix ('-' :: cs.drop 3) else none
  match radixed ['-', '0', 'x'] 16 with
  | some i => some i
  | none => match radixed ['-', '0', 'o'] 8 with
    | some i => some i
    | none => match radixed ['-', '0', 'b'] 2 with
      | some i => some i
      | none => if digitsButNotNumber v then none else signedRadix 10 cs

/-- The integer a plain scalar resolves to, tried as 64-bit unsigned, 64-bit signed,
128-bit unsigned and 128-bit signed in turn. -/
def intFound (v : String) : Option Found :=
  let u := unsignedText v
  let s := signedText v
  match u.filter (· < Nat.pow 2 64) with
  | some n => some (.unsigned n)
  | none => match s.filter (fun i => -Int.pow 2 63 ≤ i && i < Int.pow 2 63) with
    | some i => some (.signed i)
    | none => match u.filter (· < Nat.pow 2 128) with
      | some n => some (.wide ("integer `" ++ toString n ++ "` as u128"))
      | none => match s.filter (fun i => -Int.pow 2 127 ≤ i && i < Int.pow 2 127) with
        | some i => some (.wide ("integer `" ++ toString i ++ "` as i128"))
        | none => none

/-- The floating-point number a scalar spells: `.inf`, `-.inf`, `.nan` in three casings,
or a decimal number that is finite as a binary64 value. -/
def floatText (v : String) : Option Binary64 :=
  let unsigned : Option String := match v.toList with
    | '+' :: c :: _ => if c == '+' || c == '-' then none else some (v.drop 1).toString
    | _ => some v
  match unsigned with
  | none => none
  | some u =>
    if u == ".inf" || u == ".Inf" || u == ".INF" then some (.infinite false)
    else if v == "-.inf" || v == "-.Inf" || v == "-.INF" then some (.infinite true)
    else if v == ".nan" || v == ".NaN" || v == ".NAN" then some .nan
    else match readBinary64 u with
      | some x => if x.isFinite then some x else none
      | none => none

/-- What a plain untagged scalar resolves to. -/
def untaggedFound (v : String) : Found :=
  if v.isEmpty || isNullText v then .unit
  else match boolOfText v with
    | some b => .bool b
    | none => match intFound v with
      | some f => f
      | none =>
        if digitsButNotNumber v then .text v
        else match floatText v with
          | some x => .float x
          | none => .text v

/-- What a scalar resolves to; a scalar tagged with a core type it does not spell is an
invalid value. -/
def scalarFound (tag : Option String) (v : String) (style : ScalarStyle) : Except DecodeError Found :=
  match tag with
  | some t =>
    if t == boolTag then
      match boolOfText v with
      | some b => .ok (.bool b)
      | none => .error (invalidValue (.text v) "a boolean")
    else if t == intTag then
      match intFound v with
      | some f => .ok f
      | none => .error (invalidValue (.text v) "an integer")
    else if t == floatTag then
      match floatText v with
      | some x => .ok (.float x)
      | none => .error (invalidValue (.text v) "a float")
    else if t == nullTag then
      if isNullText v then .ok .unit else .error (invalidValue (.text v) "null")
    else if t.startsWith "!" && style == .plain then .ok (untaggedFound v)
    else .ok (.text v)
  | none => if style == .plain then .ok (untaggedFound v) else .ok (.text v)

/-- The error for an event that is not the expected kind of value. -/
def invalidItem (it : Item) (expected : String) : DecodeError :=
  match it with
  | .scalar tag v style =>
    match scalarFound tag v style with
    | .ok f => invalidType f expected
    | .error e => e
  | .sequenceStart => invalidType .sequence expected
  | .mappingStart => invalidType .mapping expected
  | _ => .endOfStream

/-! ## Decoders -/

/-- Where a decoder stands: the next event, and the number of aliases followed so far. -/
structure Cursor where
  pos : Nat := 0
  jumps : Nat := 0

/-- Reads a value from the events of a document. -/
abbrev Decoder := ReaderT Document (StateT Cursor (Except DecodeError))

/-- Fails with an error of a check. -/
def Decoder.ofExcept {α : Type} : Except DecodeError α → Decoder α
  | .ok a => pure a
  | .error e => throw e

/-- The next event, without taking it. Past the events, the error that ended the loading,
or the end of the stream. -/
def peekItem : Decoder (Item × Mark) := do
  let d ← read
  let c ← get
  match d.items[c.pos]? with
  | some x => pure x
  | none => throw (match d.error with
    | some e => .load e
    | none => .endOfStream)

/-- Takes the next event. -/
def nextItem : Decoder (Item × Mark) := do
  let x ← peekItem
  modify fun c => { c with pos := c.pos + 1 }
  pure x

/-- Reads with `k` from the event at `target`, then goes on where it was. Following more
aliases than a hundred times the document's events is refused. -/
def jumpTo {α : Type} (target : Nat) (k : Decoder α) : Decoder α := do
  let d ← read
  let c ← get
  if c.jumps + 1 > d.items.size * 100 then throw .repetitionLimit
  set ({ pos := target, jumps := c.jumps + 1 } : Cursor)
  let v ← k
  modify fun c' => { c' with pos := c.pos }
  pure v

/-- Runs `k`, giving its errors without a place the place `m`, `p`. -/
def placed {α : Type} (m : Mark) (p : Path) (k : Decoder α) : Decoder α :=
  tryCatch k fun e => throw (e.place m p)

/-- Reads the next value with `direct`, which gets its path, event and mark; an alias is
followed to its node first. -/
def valueAt {α : Type} (p : Path) (direct : Path → Item → Mark → Decoder α) : Decoder α := do
  let (it, m) ← nextItem
  match it with
  | .alias target => jumpTo target do
    let (it, m) ← nextItem
    direct (.alias p) it m
  | _ => direct p it m

/-- Reads any scalar as text. -/
def readText (expected : String) (p : Path) : Decoder String :=
  valueAt p fun p it m => placed m p <|
    match it with
    | .scalar _ v _ => pure v
    | it => throw (invalidItem it expected)

/-- Is a number or truth value of the core type `tag` read from a scalar of this style?
Plain scalars are, whatever their tag; literal block scalars are when tagged `tag`. -/
def readsAs (tag : String) : Option String → ScalarStyle → Bool
  | _, .plain => true
  | some t, .literal => t == tag
  | _, _ => false

/-- Reads a count below `bound` from a plain scalar or an integer-tagged literal one. -/
def readCount (expected : String) (bound : Nat) (p : Path) : Decoder Nat :=
  valueAt p fun p it m => placed m p <|
    match it with
    | .scalar tag v style =>
      if readsAs intTag tag style then
        match (unsignedText v).filter (· < Nat.pow 2 64) with
        | some n => if n < bound then pure n else throw (invalidValue (.unsigned n) expected)
        | none => throw (invalidItem it expected)
      else throw (invalidItem it expected)
    | it => throw (invalidItem it expected)

/-- Reads a truth value from a plain scalar or a boolean-tagged literal one. -/
def readBool (p : Path) : Decoder Bool :=
  valueAt p fun p it m => placed m p <|
    match it with
    | .scalar tag v style =>
      match readsAs boolTag tag style, boolOfText v with
      | true, some b => pure b
      | _, _ => throw (invalidItem it "a boolean")
    | it => throw (invalidItem it "a boolean")

/-- Reads an optional value at the next event, which is not an alias. -/
def optionHere {α : Type} (p : Path) (k : Path → Decoder α) : Decoder (Option α) := do
  let (it, _) ← peekItem
  let present ← match it with
    | .scalar tag v style =>
      if style != .plain then pure true
      else match tag with
        | some t =>
          if t == nullTag then
            if isNullText v then pure false else throw (invalidValue (.text v) "null")
          else pure true
        | none => pure (!v.isEmpty && !isNullText v)
    | .void => pure false
    | _ => pure true
  if present then some <$> k p
  else do
    let _ ← nextItem
    pure none

/-- Reads an optional value: null is absent. -/
def readOption {α : Type} (p : Path) (k : Path → Decoder α) : Decoder (Option α) := do
  let (it, _) ← peekItem
  match it with
  | .alias target => do
    let _ ← nextItem
    jumpTo target (optionHere (.alias p) k)
  | _ => optionHere p k

/-- Reads the entries of a sequence up to its end. -/
def readEntries {α : Type} (p : Path) (elem : Path → Decoder α) :
    Nat → Nat → List α → Decoder (List α)
  | 0, _, acc => pure acc.reverse
  | fuel + 1, i, acc => do
    let (it, _) ← peekItem
    match it with
    | .sequenceEnd | .void => pure acc.reverse
    | _ => do
      let x ← elem (.index p i)
      readEntries p elem fuel (i + 1) (x :: acc)

/-- Reads a list from a sequence; an empty plain scalar is the empty list. -/
def readList {α : Type} (p : Path) (elem : Path → Decoder α) : Decoder (List α) :=
  valueAt p fun p it m => placed m p <|
    match it with
    | .sequenceStart => do
      let n := (← read).items.size
      let xs ← readEntries p elem n 0 []
      let _ ← nextItem
      pure xs
    | .scalar _ v .plain => if v.isEmpty then pure [] else throw (invalidItem it "a sequence")
    | .void => pure []
    | it => throw (invalidItem it "a sequence")

/-- Passes over one value, however deep. -/
def skipValue : Decoder Unit := do
  let n := (← read).items.size
  go n 0
where
  go : Nat → Nat → Decoder Unit
    | 0, _ => pure ()
    | fuel + 1, depth => do
      let (it, _) ← nextItem
      let depth := match it with
        | .sequenceStart | .mappingStart => depth + 1
        | .sequenceEnd | .mappingEnd => depth - 1
        | _ => depth
      if depth == 0 then pure () else go fuel depth

/-- Reads the entries of a mapping into a record: known fields through `field`, each at
most once; other keys are passed over. Returns the record and the fields seen. -/
def readFields {σ : Type} (fields : List String) (p : Path) (field : σ → String → Path → Decoder σ) :
    Nat → σ → List String → Decoder (σ × List String)
  | 0, acc, seen => pure (acc, seen)
  | fuel + 1, acc, seen => do
    let (it, _) ← peekItem
    match it with
    | .mappingEnd | .void => pure (acc, seen)
    | _ =>
      let valuePath := match it with
        | .scalar _ k _ => Path.key p k
        | _ => Path.unknown p
      let key ← readText "field identifier" p
      if fields.contains key then
        if seen.contains key then throw (.wrong ("duplicate field `" ++ key ++ "`") none)
        let acc ← field acc key valuePath
        readFields fields p field fuel acc (key :: seen)
      else
        skipValue
        readFields fields p field fuel acc seen

/-- Reads a record named `name` from a mapping; an empty plain scalar is a mapping without
entries. `finish` checks the fields seen and builds the value. -/
def readRecord {σ β : Type} (name : String) (fields : List String) (p : Path) (init : σ)
    (field : σ → String → Path → Decoder σ) (finish : σ → Except DecodeError β) : Decoder β :=
  valueAt p fun p it m => placed m p <|
    match it with
    | .mappingStart => do
      let n := (← read).items.size
      let (acc, _) ← readFields fields p field n init []
      let r ← Decoder.ofExcept (finish acc)
      let _ ← nextItem
      pure r
    | .scalar _ v .plain =>
      if v.isEmpty then Decoder.ofExcept (finish init)
      else throw (invalidItem it ("struct " ++ name))
    | .void => Decoder.ofExcept (finish init)
    | it => throw (invalidItem it ("struct " ++ name))

/-- A field's value, or the error that it is missing. -/
def requireField {α : Type} (name : String) : Option α → Except DecodeError α
  | some x => .ok x
  | none => .error (missingField name)

/-- Reads the first document of a text with a decoder. The document must load without
error and be the only one. -/
def decodeText {α : Type} (text : String) (k : Decoder α) : Except DecodeError α :=
  let (d, more) := Document.load text
  match (k.run d).run {} with
  | .error e => .error e
  | .ok (v, _) =>
    match d.error with
    | some e => .error (.load e)
    | none => if more then .error .moreThanOneDocument else .ok v

end Reachability.Yaml
