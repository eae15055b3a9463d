import Reachability.Yaml.Token
import Reachability.Text.Utf8

/-!
# Cutting YAML text into tokens

The lexer reads the text one token at a time, on demand. Most tokens are plain: an
indicator, a scalar, an anchor. Two kinds need more care.

* **Block structure.** Outside brackets, indentation opens and closes collections: a line
  indented more than the current level that starts an entry or a key opens a block
  sequence or mapping (`blockSequenceStart`, `blockMappingStart`), and a line indented less
  closes the open ones (`blockEnd`). The levels are a stack.
* **Simple keys.** A key written without `?` is known to be a key only when its `:` is
  seen, on the same line and at most 1024 bytes on. So the place where such a key may
  start is remembered, one per bracket level; when its `:` comes, a `key` token (and maybe
  a `blockMappingStart`) is put back in the queue before the key's first token. A token is
  handed out only once no pending key may start at it. A key that must be one (in block
  context, at the current indentation) and never gets its `:` is an error.

Errors carry what was being read and where it began, as YAML readers commonly report them.
-/

namespace Reachability.Yaml

/-- Characters that end a line. -/
def isLineBreak (c : Char) : Bool :=
  c == '\r' || c == '\n' || c == '\x85' || c == '\u2028' || c == '\u2029'

/-- A space or a tab. -/
def isSpaceOrTab (c : Char) : Bool := c == ' ' || c == '\t'

/-- The character that stands for the end of the text. -/
def endChar : Char := '\x00'

/-- A space, tab, line break or the end of the text. -/
def isGap (c : Char) : Bool := isSpaceOrTab c || isLineBreak c || c == endChar

/-- A line break or the end of the text. -/
def isLineEnd (c : Char) : Bool := isLineBreak c || c == endChar

/-- Characters of anchor names, directive names and tag handles. -/
def isWordChar (c : Char) : Bool :=
  (c.toNat < 128 && c.isAlphanum) || c == '_' || c == '-'

/-- A hexadecimal digit. -/
def isHexDigit (c : Char) : Bool :=
  c.isDigit || (97 ≤ c.toNat && c.toNat ≤ 102) || (65 ≤ c.toNat && c.toNat ≤ 70)

/-- The value of a hexadecimal digit. -/
def hexValue (c : Char) : Nat :=
  if c.isDigit then c.toNat - 48 else if 97 ≤ c.toNat then c.toNat - 87 else c.toNat - 55

/-- The apostrophe, which quotes single-quoted scalars. -/
def apostrophe : Char := Char.ofNat 39

/-- Characters that YAML text may hold: tab, line feed, carriage return, the printable
ASCII characters, next line, and the rest of Unicode but for surrogates, `FFFE` and
`FFFF`. -/
def isAllowedChar (c : Char) : Bool :=
  let v := c.toNat
  v == 0x09 || v == 0x0A || v == 0x0D || (0x20 ≤ v && v ≤ 0x7E) || v == 0x85 ||
    (0xA0 ≤ v && v ≤ 0xD7FF) || (0xE000 ≤ v && v ≤ 0xFFFD) || (0x10000 ≤ v && v ≤ 0x10FFFF)

/-- Characters of a tag's URI; in `!<...>` also `,`, `[` and `]`. -/
def isUriChar (c : Char) (verbatim : Bool) : Bool :=
  isWordChar c || ";/?:@&=+$.%!~*()".contains c || c == apostrophe ||
    (verbatim && ",[]".contains c)

/-- The character a backslash escape stands for, for the escapes of one letter. -/
def simpleEscape : Char → Option Char
  | '0' => some '\x00'
  | 'a' => some '\x07'
  | 'b' => some '\x08'
  | 't' => some '\t'
  | '\t' => some '\t'
  | 'n' => some '\n'
  | 'v' => some '\x0B'
  | 'f' => some '\x0C'
  | 'r' => some '\r'
  | 'e' => some '\x1B'
  | ' ' => some ' '
  | '"' => some '"'
  | '/' => some '/'
  | '\\' => some '\\'
  | 'N' => some '\x85'
  | '_' => some '\xA0'
  | 'L' => some '\u2028'
  | 'P' => some '\u2029'
  | c => if c == apostrophe then some apostrophe else none

/-- The number of hexadecimal digits after `\x`, `\u` and `\U`; zero for other letters. -/
def escapeWidth : Char → Nat
  | 'x' => 2
  | 'u' => 4
  | 'U' => 8
  | _ => 0

/-- A place where a simple key may start. -/
structure KeyCandidate where
  possible : Bool := false
  /-- The key must be one: block context, at the current indentation. -/
  required : Bool := false
  /-- The number of the token the key would start at, counting every token produced. -/
  tokenNumber : Nat := 0
  mark : Mark := Mark.start
deriving Repr, Inhabited

/-- The state of the lexer. -/
structure Lexer where
  text : Array Char
  mark : Mark := Mark.start
  /-- Tokens produced and not yet taken, the next one first. -/
  queue : List Token := []
  /-- The number of tokens taken. -/
  taken : Nat := 0
  started : Bool := false
  /-- The number of open brackets. -/
  flowLevel : Nat := 0
  /-- The current block indentation; `-1` before the first collection. -/
  indent : Int := -1
  /-- The enclosing block indentations, the innermost first. -/
  indents : List Int := []
  /-- May a simple key start here? -/
  keyAllowed : Bool := false
  /-- Key candidates, one per bracket level, the innermost first. -/
  keys : List KeyCandidate := []
deriving Repr, Inhabited

namespace Lexer

/-- The current character; `endChar` at the end. -/
def cur (l : Lexer) : Char := l.text.getD l.mark.index endChar

/-- The character `k` places ahead. -/
def ahead (l : Lexer) (k : Nat) : Char := l.text.getD (l.mark.index + k) endChar

/-- A bound on the characters left, as fuel for loops that read them. -/
def room (l : Lexer) : Nat := l.text.size + 1 - l.mark.index

/-- Moves past one character on the line. -/
def skip (l : Lexer) : Lexer :=
  { l with mark := ⟨l.mark.index + 1, l.mark.line, l.mark.column + 1⟩ }

/-- Moves past a line break. -/
def skipLine (l : Lexer) : Lexer :=
  if l.cur == '\r' && l.ahead 1 == '\n' then
    { l with mark := ⟨l.mark.index + 2, l.mark.line + 1, 0⟩ }
  else if isLineBreak l.cur then { l with mark := ⟨l.mark.index + 1, l.mark.line + 1, 0⟩ }
  else l

/-- Reads the current character onto `s`. -/
def read (l : Lexer) (s : String) : String × Lexer := (s.push l.cur, l.skip)

/-- Reads a line break onto `s`: a line or paragraph separator as itself, any other break
as a line feed. -/
def readLine (l : Lexer) (s : String) : String × Lexer :=
  let c := l.cur
  if c == '\r' && l.ahead 1 == '\n' then
    (s.push '\n', { l with mark := ⟨l.mark.index + 2, l.mark.line + 1, 0⟩ })
  else if c == '\r' || c == '\n' || c == '\x85' then
    (s.push '\n', { l with mark := ⟨l.mark.index + 1, l.mark.line + 1, 0⟩ })
  else if c == '\u2028' || c == '\u2029' then
    (s.push c, { l with mark := ⟨l.mark.index + 1, l.mark.line + 1, 0⟩ })
  else (s, l)

/-- An error found here, while reading what began at `start`. -/
def error (l : Lexer) (context : Option String) (start : Mark) (problem : String) :
    SyntaxError :=
  { problem, mark := l.mark, context := context.map fun c => (c, start) }

/-- Appends a token to the queue. -/
def push (l : Lexer) (t : Token) : Lexer := { l with queue := l.queue ++ [t] }

/-- Is the text at a line start a document marker, `---` or `...` followed by a gap? -/
def atDocumentMarker (l : Lexer) : Bool :=
  l.mark.column == 0 &&
    ((l.cur == '-' && l.ahead 1 == '-' && l.ahead 2 == '-') ||
      (l.cur == '.' && l.ahead 1 == '.' && l.ahead 2 == '.')) &&
    isGap (l.ahead 3)

end Lexer

/-- Reads characters onto `s` while `p` holds. -/
def readWhile (p : Char → Bool) (s : String) : Nat → Lexer → String × Lexer
  | 0, l => (s, l)
  | fuel + 1, l =>
    if l.cur != endChar && p l.cur then readWhile p (s.push l.cur) fuel l.skip else (s, l)

/-- Moves past characters while `p` holds. -/
def skipWhile (p : Char → Bool) : Nat → Lexer → Lexer
  | 0, l => l
  | fuel + 1, l => if l.cur != endChar && p l.cur then skipWhile p fuel l.skip else l

namespace Lexer

/-- The key candidate of the innermost bracket level. -/
def topKey (l : Lexer) : KeyCandidate := l.keys.headD {}

/-- Replaces the key candidate of the innermost bracket level. -/
def setTopKey (l : Lexer) (k : KeyCandidate) : Lexer :=
  { l with keys := k :: l.keys.drop 1 }

/-- Drops the innermost key candidate; an error if that key had to be one. -/
def removeKey (l : Lexer) : Except SyntaxError Lexer :=
  let k := l.topKey
  if k.possible && k.required then
    .error (l.error (some "while scanning a simple key") k.mark "could not find expected ':'")
  else .ok (l.setTopKey { k with possible := false })

/-- Remembers that a simple key may start at the next token. -/
def saveKey (l : Lexer) : Except SyntaxError Lexer :=
  if l.keyAllowed then do
    let required := l.flowLevel == 0 && l.indent == (l.mark.column : Int)
    let number := l.taken + l.queue.length
    let l ← l.removeKey
    return l.setTopKey { possible := true, required, tokenNumber := number, mark := l.mark }
  else .ok l

/-- Do the characters of `text` from position `i` on, `n` of them, take more than `limit`
bytes in UTF-8? Counting stops as soon as they do. -/
def bytesOver (text : Array Char) (limit : Nat) : Nat → Nat → Nat → Bool
  | 0, _, _ => false
  | n + 1, i, used =>
    let used := used + (text.getD i ' ').utf8Size
    if used > limit then true else bytesOver text limit n (i + 1) used

/-- Drops key candidates that can no longer get their `:`: those on an earlier line or
more than 1024 bytes back. An error if one of them had to be a key. -/
def staleKeys (l : Lexer) : Except SyntaxError Lexer := do
  let keys ← l.keys.reverse.mapM fun k =>
    let far := bytesOver l.text 1024 (l.mark.index - k.mark.index) k.mark.index 0
    if k.possible && (k.mark.line < l.mark.line || far) then
      if k.required then
        .error (l.error (some "while scanning a simple key") k.mark "could not find expected ':'")
      else .ok { k with possible := false }
    else .ok k
  return { l with keys := keys.reverse }

/-- Opens a bracket level. -/
def enterFlow (l : Lexer) : Lexer := { l with keys := {} :: l.keys, flowLevel := l.flowLevel + 1 }

/-- Closes a bracket level. -/
def leaveFlow (l : Lexer) : Lexer :=
  if l.flowLevel > 0 then { l with flowLevel := l.flowLevel - 1, keys := l.keys.drop 1 } else l

/-- Opens a block collection at `column` if it is deeper than the current indentation: the
start token goes at the end of the queue, or before the token numbered `number`. -/
def rollIndent (l : Lexer) (column : Nat) (number : Option Nat) (kind : TokenKind)
    (at_ : Mark) : Lexer :=
  if l.flowLevel == 0 && l.indent < (column : Int) then
    let t : Token := ⟨kind, at_, at_⟩
    { l with indents := l.indent :: l.indents, indent := column,
             queue := match number with
               | none => l.queue ++ [t]
               | some n => l.queue.insertIdx (n - l.taken) t }
  else l

/-- Closes the block collections deeper than `column`, one `blockEnd` each. -/
def unrollIndent (l : Lexer) (column : Int) : Lexer :=
  if l.flowLevel > 0 then l else go l.indents l.indent []
where
  go : List Int → Int → List Token → Lexer
    | top :: rest, ind, acc =>
      if ind > column then go rest top (acc ++ [⟨.blockEnd, l.mark, l.mark⟩])
      else { l with indent := ind, indents := top :: rest, queue := l.queue ++ acc }
    | [], ind, acc => { l with indent := ind, indents := [], queue := l.queue ++ acc }

end Lexer

/-- Moves past spaces, tabs where they may stand, comments and line breaks up to the next
token. A byte order mark at a line start is passed over too. -/
def toNextToken : Nat → Lexer → Lexer
  | 0, l => l
  | fuel + 1, l =>
    let l := if l.mark.column == 0 && l.cur == '\uFEFF' then l.skip else l
    let tabsOk := l.flowLevel > 0 || !l.keyAllowed
    let l := skipWhile (fun c => c == ' ' || (tabsOk && c == '\t')) l.room l
    let l := if l.cur == '#' then skipWhile (fun c => !isLineEnd c) l.room l else l
    if isLineBreak l.cur then
      let l := l.skipLine
      let l := if l.flowLevel == 0 then { l with keyAllowed := true } else l
      toNextToken fuel l
    else l

/-! ## Directives -/

/-- Reads up to nine digits of a version number. -/
def versionNumber (l : Lexer) (start : Mark) : Except SyntaxError (Nat × Lexer) :=
  let (ds, l) := readWhile Char.isDigit "" 9 l
  if l.cur.isDigit then
    .error (l.error (some "while scanning a %YAML directive") start "found extremely long version number")
  else if ds.isEmpty then
    .error (l.error (some "while scanning a %YAML directive") start "did not find expected version number")
  else .ok (ds.foldl (fun n c => n * 10 + (c.toNat - 48)) 0, l)

/-- Decodes `%XX` escapes of one UTF-8 character in a tag. `left` is the number of octets
still to come, `none` before the first. -/
def uriOctets (directive : Bool) (start : Mark) :
    Nat → Option Nat → List UInt8 → Lexer → Except SyntaxError (List UInt8 × Lexer)
  | 0, _, acc, l => .ok (acc, l)
  | fuel + 1, left, acc, l =>
    let what := if directive then "while parsing a %TAG directive" else "while parsing a tag"
    if !(l.cur == '%' && isHexDigit (l.ahead 1) && isHexDigit (l.ahead 2)) then
      .error (l.error (some what) start "did not find URI escaped octet")
    else
      let octet := hexValue (l.ahead 1) * 16 + hexValue (l.ahead 2)
      let width :=
        if octet &&& 0x80 == 0 then 1 else if octet &&& 0xE0 == 0xC0 then 2
        else if octet &&& 0xF0 == 0xE0 then 3 else if octet &&& 0xF8 == 0xF0 then 4 else 0
      match left with
      | none =>
        if width == 0 then .error (l.error (some what) start "found an incorrect leading UTF-8 octet")
        else
          let acc := acc ++ [octet.toUInt8]
          let l := l.skip.skip.skip
          if width == 1 then .ok (acc, l) else uriOctets directive start fuel (some (width - 1)) acc l
      | some n =>
        if octet &&& 0xC0 != 0x80 then
          .error (l.error (some what) start "found an incorrect trailing UTF-8 octet")
        else
          let acc := acc ++ [octet.toUInt8]
          let l := l.skip.skip.skip
          if n ≤ 1 then .ok (acc, l) else uriOctets directive start fuel (some (n - 1)) acc l

/-- Reads the characters of a tag URI as UTF-8 bytes, with the number read. -/
def uriChars (verbatim directive : Bool) (start : Mark) :
    Nat → List UInt8 → Nat → Lexer → Except SyntaxError (List UInt8 × Nat × Lexer)
  | 0, acc, n, l => .ok (acc, n, l)
  | fuel + 1, acc, n, l =>
    if isUriChar l.cur verbatim then
      if l.cur == '%' then do
        let (bs, l) ← uriOctets directive start 4 none [] l
        uriChars verbatim directive start fuel (acc ++ bs) (n + 1) l
      else uriChars verbatim directive start fuel (acc ++ Text.Utf8.encodeChar l.cur) (n + 1) l.skip
    else .ok (acc, n, l)

/-- Reads a tag URI after `head`, whose leading `!` is dropped. -/
def tagUri (l : Lexer) (verbatim directive : Bool) (head : String) (start : Mark) :
    Except SyntaxError (String × Lexer) := do
  let (bytes, n, l) ← uriChars verbatim directive start l.room (Text.Utf8.encode (head.drop 1).toString)
    head.length l
  if n == 0 then
    throw (l.error (some (if directive then "while parsing a %TAG directive" else "while parsing a tag"))
      start "did not find expected tag URI")
  return ((Text.Utf8.decode bytes).getD "\uFFFD", l)

/-- Reads a tag handle: `!`, `!!` or `!word!`, or `!word` when it is really the start of a
tag. -/
def tagHandle (l : Lexer) (directive : Bool) (start : Mark) : Except SyntaxError (String × Lexer) :=
  if l.cur != '!' then
    .error (l.error (some (if directive then "while scanning a tag directive" else "while scanning a tag"))
      start "did not find expected '!'")
  else
    let (word, l) := readWhile isWordChar "!" l.room l.skip
    if l.cur == '!' then .ok (word.push '!', l.skip)
    else if directive && word != "!" then
      .error (l.error (some "while parsing a tag directive") start "did not find expected '!'")
    else .ok (word, l)

namespace Lexer

/-- Scans a `%YAML` or `%TAG` directive and the rest of its line. -/
def scanDirective (l : Lexer) : Except SyntaxError Lexer := do
  let start := l.mark
  let l := l.skip
  let (name, l) := readWhile isWordChar "" l.room l
  if name.isEmpty then
    throw (l.error (some "while scanning a directive") start "could not find expected directive name")
  if !isGap l.cur then
    throw (l.error (some "while scanning a directive") start "found unexpected non-alphabetical character")
  let l ← if name == "YAML" then do
      let l := skipWhile isSpaceOrTab l.room l
      let (major, l) ← versionNumber l start
      if l.cur != '.' then
        throw (l.error (some "while scanning a %YAML directive") start "did not find expected digit or '.' character")
      let (minor, l) ← versionNumber l.skip start
      pure (l.push ⟨.versionDirective major minor, start, l.mark⟩)
    else if name == "TAG" then do
      let l := skipWhile isSpaceOrTab l.room l
      let (handle, l) ← tagHandle l true start
      if !isSpaceOrTab l.cur then
        throw (l.error (some "while scanning a %TAG directive") start "did not find expected whitespace")
      let l := skipWhile isSpaceOrTab l.room l
      let (pfx, l) ← tagUri l true true "" start
      if !isGap l.cur then
        throw (l.error (some "while scanning a %TAG directive") start "did not find expected whitespace or line break")
      pure (l.push ⟨.tagDirective handle pfx, start, l.mark⟩)
    else throw (l.error (some "while scanning a directive") start "found unknown directive name")
  let l := skipWhile isSpaceOrTab l.room l
  let l := if l.cur == '#' then skipWhile (fun c => !isLineEnd c) l.room l else l
  if !isLineEnd l.cur then
    throw (l.error (some "while scanning a directive") start "did not find expected comment or line break")
  return l.skipLine

/-- Scans an anchor `&name` or an alias `*name`. -/
def scanAnchor (l : Lexer) (isAlias : Bool) : Except SyntaxError Lexer :=
  let start := l.mark
  let (name, l) := readWhile isWordChar "" l.room l.skip
  let c := l.cur
  if name.isEmpty || !(isGap c || "?:,]%@".contains c || c == '\x7d' || c == '`') then
    .error (l.error (some (if isAlias then "while scanning an alias" else "while scanning an anchor"))
      start "did not find expected alphabetic or numeric character")
  else .ok (l.push ⟨if isAlias then .alias name else .anchor name, start, l.mark⟩)

/-- Scans a tag: `!<uri>`, `!handle!suffix`, `!suffix` or `!` alone. -/
def scanTag (l : Lexer) : Except SyntaxError Lexer := do
  let start := l.mark
  let (handle, suffix, l) ← if l.ahead 1 == '<' then do
      let (suffix, l) ← tagUri l.skip.skip true false "" start
      if l.cur != '>' then
        throw (l.error (some "while scanning a tag") start "did not find the expected '>'")
      pure ("", suffix, l.skip)
    else do
      let (h, l) ← tagHandle l false start
      if h.length > 1 && h.endsWith "!" then
        let (suffix, l) ← tagUri l false false "" start
        pure (h, suffix, l)
      else
        let (suffix, l) ← tagUri l false false h start
        if suffix.isEmpty then pure ("", "!", l) else pure ("!", suffix, l)
  if !isGap l.cur && (l.flowLevel == 0 || l.cur != ',') then
    throw (l.error (some "while scanning a tag") start "did not find expected whitespace or line break")
  return l.push ⟨.tag handle suffix, start, l.mark⟩

end Lexer

/-! ## Block scalars -/

/-- Moves past indentation spaces: all of them while the indentation is unknown (`0`),
else up to the indentation. -/
def skipIndent (indent : Nat) : Nat → Lexer → Lexer
  | 0, l => l
  | fuel + 1, l =>
    if (indent == 0 || l.mark.column < indent) && l.cur == ' ' then skipIndent indent fuel l.skip
    else l

/-- Reads the indentation and empty lines before a line of a block scalar: the line breaks
read, the end mark, and the indentation, fixed from the deepest of these lines when it was
still unknown. -/
def blockBreaks (start : Mark) (indent : Nat) :
    Nat → Nat → String → Mark → Lexer → Except SyntaxError (Nat × String × Mark × Lexer)
  | 0, _, breaks, stop, l => .ok (indent, breaks, stop, l)
  | fuel + 1, deepest, breaks, stop, l =>
    let l := skipIndent indent l.room l
    let deepest := max deepest l.mark.column
    if (indent == 0 || l.mark.column < indent) && l.cur == '\t' then
      .error (l.error (some "while scanning a block scalar") start
        "found a tab character where an indentation space is expected")
    else if !isLineBreak l.cur then
      let indent :=
        if indent != 0 then indent
        else max 1 (max deepest (l.indent + 1).toNat)
      .ok (indent, breaks, stop, l)
    else
      let (breaks, l) := l.readLine breaks
      blockBreaks start indent fuel deepest breaks l.mark l

/-- Reads the lines of a block scalar at its indentation: the text so far, the pending
line break and the empty lines after it, and whether the last line started with a blank. -/
def blockLines (literal : Bool) (start : Mark) (indent : Nat) :
    Nat → String → String → String → Bool → Mark → Lexer →
      Except SyntaxError (String × String × String × Mark × Lexer)
  | 0, text, leading, trailing, _, stop, l => .ok (text, leading, trailing, stop, l)
  | fuel + 1, text, leading, trailing, leadingBlank, stop, l =>
    if l.mark.column == indent && l.cur != endChar then
      let trailingBlank := isSpaceOrTab l.cur
      let text :=
        if !literal && leading.startsWith "\n" && !leadingBlank && !trailingBlank then
          if trailing.isEmpty then text.push ' ' else text
        else text ++ leading
      let text := text ++ trailing
      let leadingBlank := isSpaceOrTab l.cur
      let (text, l) := readWhile (fun c => !isLineEnd c) text l.room l
      let (leading, l) := l.readLine ""
      match blockBreaks start indent l.room 0 "" l.mark l with
      | .error e => .error e
      | .ok (_, trailing, stop, l) =>
        blockLines literal start indent fuel text leading trailing leadingBlank stop l
    else .ok (text, leading, trailing, stop, l)

namespace Lexer

/-- Scans a literal (`|`) or folded (`>`) block scalar with its indicators. -/
def scanBlockScalar (l : Lexer) (literal : Bool) : Except SyntaxError Lexer := do
  let start := l.mark
  let what := "while scanning a block scalar"
  let l := l.skip
  let (chomping, increment, l) ← if l.cur == '+' || l.cur == '-' then do
      let chomping : Int := if l.cur == '+' then 1 else -1
      let l := l.skip
      if l.cur.isDigit then
        if l.cur == '0' then throw (l.error (some what) start "found an indentation indicator equal to 0")
        pure (chomping, l.cur.toNat - 48, l.skip)
      else pure (chomping, 0, l)
    else if l.cur.isDigit then do
      if l.cur == '0' then throw (l.error (some what) start "found an indentation indicator equal to 0")
      let increment := l.cur.toNat - 48
      let l := l.skip
      if l.cur == '+' || l.cur == '-' then
        pure ((if l.cur == '+' then 1 else -1), increment, l.skip)
      else pure (0, increment, l)
    else pure (0, 0, l)
  let l := skipWhile isSpaceOrTab l.room l
  let l := if l.cur == '#' then skipWhile (fun c => !isLineEnd c) l.room l else l
  if !isLineEnd l.cur then
    throw (l.error (some what) start "did not find expected comment or line break")
  let l := l.skipLine
  let indent : Nat :=
    if increment == 0 then 0
    else if l.indent ≥ 0 then (l.indent + increment).toNat else increment
  let (indent, trailing, stop, l) ← blockBreaks start indent l.room 0 "" l.mark l
  let (text, leading, trailing, stop, l) ←
    blockLines literal start indent l.room "" "" trailing false stop l
  let text := if chomping != -1 then text ++ leading else text
  let text := if chomping == 1 then text ++ trailing else text
  return l.push ⟨.scalar text (if literal then .literal else .folded), start, stop⟩

end Lexer

/-! ## Quoted scalars -/

/-- Reads the characters of a quoted scalar up to a blank, a line break or the closing
quote; also whether it stopped at an escaped line break. -/
def quotedRun (single : Bool) (start : Mark) :
    Nat → String → Lexer → Except SyntaxError (String × Bool × Lexer)
  | 0, text, l => .ok (text, false, l)
  | fuel + 1, text, l =>
    let quote := if single then apostrophe else '"'
    if isGap l.cur then .ok (text, false, l)
    else if single && l.cur == apostrophe && l.ahead 1 == apostrophe then
      quotedRun single start fuel (text.push apostrophe) l.skip.skip
    else if l.cur == quote then .ok (text, false, l)
    else if !single && l.cur == '\\' && isLineBreak (l.ahead 1) then
      .ok (text, true, l.skip.skipLine)
    else if !single && l.cur == '\\' then
      match simpleEscape (l.ahead 1) with
      | some c => quotedRun single start fuel (text.push c) l.skip.skip
      | none =>
        let width := escapeWidth (l.ahead 1)
        if width == 0 then
          .error (l.error (some "while parsing a quoted scalar") start "found unknown escape character")
        else
          let l := l.skip.skip
          let digits := (List.range width).map l.ahead
          if !digits.all isHexDigit then
            .error (l.error (some "while parsing a quoted scalar") start
              "did not find expected hexadecimal number")
          else
            let code := digits.foldl (fun v c => v * 16 + hexValue c) 0
            if (0xD800 ≤ code && code ≤ 0xDFFF) || code > 0x10FFFF then
              .error (l.error (some "while parsing a quoted scalar") start
                "found invalid Unicode character escape code")
            else
              let l := (List.range width).foldl (fun l _ => l.skip) l
              quotedRun single start fuel (text.push (Char.ofNat code)) l
    else quotedRun single start fuel (text.push l.cur) l.skip

/-- Reads blanks and line breaks inside a flow or quoted scalar: the blanks of the line,
the first line break, the further line breaks, and whether a break was read. -/
def scalarGap (tabError : Option (Int × Mark)) :
    Nat → String → String → String → Bool → Lexer →
      Except SyntaxError (String × String × String × Bool × Lexer)
  | 0, ws, leading, trailing, broken, l => .ok (ws, leading, trailing, broken, l)
  | fuel + 1, ws, leading, trailing, broken, l =>
    if isSpaceOrTab l.cur then
      match tabError with
      | some (indent, start) =>
        if broken && (l.mark.column : Int) < indent && l.cur == '\t' then
          .error (l.error (some "while scanning a plain scalar") start
            "found a tab character that violates indentation")
        else if !broken then
          let (ws, l) := l.read ws
          scalarGap tabError fuel ws leading trailing broken l
        else scalarGap tabError fuel ws leading trailing broken l.skip
      | none =>
        if !broken then
          let (ws, l) := l.read ws
          scalarGap tabError fuel ws leading trailing broken l
        else scalarGap tabError fuel ws leading trailing broken l.skip
    else if isLineBreak l.cur then
      if !broken then
        let (leading, l) := l.readLine ""
        scalarGap tabError fuel "" leading trailing true l
      else
        let (trailing, l) := l.readLine trailing
        scalarGap tabError fuel ws leading trailing true l
    else .ok (ws, leading, trailing, broken, l)

/-- Joins what a gap read onto the text: one line break folds into a space, more keep all
but the first; blanks without a break stay as they are. -/
def joinGap (text ws leading trailing : String) (broken : Bool) : String :=
  if broken then
    if leading.startsWith "\n" then
      if trailing.isEmpty then text.push ' ' else text ++ trailing
    else text ++ leading ++ trailing
  else text ++ ws

/-- Reads the body of a quoted scalar up to its closing quote. -/
def quotedBody (single : Bool) (start : Mark) :
    Nat → String → Lexer → Except SyntaxError (String × Lexer)
  | 0, text, l => .ok (text, l)
  | fuel + 1, text, l => do
    if l.atDocumentMarker then
      throw (l.error (some "while scanning a quoted scalar") start "found unexpected document indicator")
    if l.cur == endChar then
      throw (l.error (some "while scanning a quoted scalar") start "found unexpected end of stream")
    let (text, broken, l) ← quotedRun single start l.room text l
    if l.cur == (if single then apostrophe else '"') then return (text, l)
    let (ws, leading, trailing, broken, l) ← scalarGap none l.room "" "" "" broken l
    quotedBody single start fuel (joinGap text ws leading trailing broken) l

namespace Lexer

/-- Scans a single- or double-quoted scalar. -/
def scanQuoted (l : Lexer) (single : Bool) : Except SyntaxError Lexer := do
  let start := l.mark
  let (text, l) ← quotedBody single start l.room "" l.skip
  let l := l.skip
  return l.push ⟨.scalar text (if single then .singleQuoted else .doubleQuoted), start, l.mark⟩

end Lexer

/-! ## Plain scalars -/

/-- Reads the characters of a plain scalar up to a blank or an indicator that ends it,
joining the gap read before them. Inside brackets a `:` right before one of `,?[]{}` is
an error: it can be neither part of the scalar nor the indicator of a value. -/
def plainRun (start : Mark) : Nat → String → String → String → String → Bool → Mark → Lexer →
    Except SyntaxError (String × String × String × String × Bool × Mark × Lexer)
  | 0, text, ws, leading, trailing, broken, stop, l => .ok (text, ws, leading, trailing, broken, stop, l)
  | fuel + 1, text, ws, leading, trailing, broken, stop, l =>
    let c := l.cur
    let flow := l.flowLevel > 0
    if isGap c then .ok (text, ws, leading, trailing, broken, stop, l)
    else if flow && c == ':' && (",?[]\x7b".contains (l.ahead 1) || l.ahead 1 == '\x7d') then
      .error (l.error (some "while scanning a plain scalar") start "found unexpected ':'")
    else if (c == ':' && isGap (l.ahead 1)) || (flow && (",[]\x7b".contains c || c == '\x7d')) then
      .ok (text, ws, leading, trailing, broken, stop, l)
    else
      let (text, ws, leading, trailing, broken) :=
        if broken || !ws.isEmpty then
          if broken then (joinGap text ws leading trailing true, ws, "", "", false)
          else (text ++ ws, "", leading, trailing, broken)
        else (text, ws, leading, trailing, broken)
      let (text, l) := l.read text
      plainRun start fuel text ws leading trailing broken l.mark l

/-- Reads a plain scalar line by line: it ends at a document marker, a comment, an
indicator, or a line indented no deeper than the enclosing block. -/
def plainBody (start : Mark) (indent : Int) :
    Nat → String → String → String → String → Bool → Mark → Lexer →
      Except SyntaxError (String × Mark × Bool × Lexer)
  | 0, text, _, _, _, broken, stop, l => .ok (text, stop, broken, l)
  | fuel + 1, text, ws, leading, trailing, broken, stop, l => do
    if l.atDocumentMarker || l.cur == '#' then return (text, stop, broken, l)
    let (text, ws, leading, trailing, broken, stop, l) ←
      plainRun start l.room text ws leading trailing broken stop l
    if !(isSpaceOrTab l.cur || isLineBreak l.cur) then return (text, stop, broken, l)
    let (ws, leading, trailing, broken, l) ←
      scalarGap (some (indent, start)) l.room ws leading trailing broken l
    if l.flowLevel == 0 && (l.mark.column : Int) < indent then return (text, stop, broken, l)
    plainBody start indent fuel text ws leading trailing broken stop l

namespace Lexer

/-- Scans a plain scalar. A scalar that ran over a line break lets a simple key follow. -/
def scanPlain (l : Lexer) : Except SyntaxError Lexer := do
  let start := l.mark
  let (text, stop, broken, l) ← plainBody start (l.indent + 1) l.room "" "" "" "" false start l
  let l := l.push ⟨.scalar text .plain, start, stop⟩
  return if broken then { l with keyAllowed := true } else l

/-! ## Fetching tokens -/

/-- The start of the stream. -/
def fetchStreamStart (l : Lexer) : Lexer :=
  { l with indent := -1, keys := [{}], keyAllowed := true, started := true }
    |>.push ⟨.streamStart, l.mark, l.mark⟩

/-- The end of the stream: closes every block collection. -/
def fetchStreamEnd (l : Lexer) : Except SyntaxError Lexer := do
  let l := if l.mark.column != 0 then
      { l with mark := { l.mark with column := 0, line := l.mark.line + 1 } }
    else l
  let l := l.unrollIndent (-1)
  let l ← l.removeKey
  return { l with keyAllowed := false }.push ⟨.streamEnd, l.mark, l.mark⟩

/-- A directive line. -/
def fetchDirective (l : Lexer) : Except SyntaxError Lexer := do
  let l := l.unrollIndent (-1)
  let l ← l.removeKey
  { l with keyAllowed := false }.scanDirective

/-- `---` or `...`. -/
def fetchDocumentIndicator (l : Lexer) (kind : TokenKind) : Except SyntaxError Lexer := do
  let l := l.unrollIndent (-1)
  let l ← l.removeKey
  let start := l.mark
  let l := { l with keyAllowed := false }.skip.skip.skip
  return l.push ⟨kind, start, l.mark⟩

/-- `[` or `{`. -/
def fetchFlowStart (l : Lexer) (kind : TokenKind) : Except SyntaxError Lexer := do
  let l ← l.saveKey
  let l := { l.enterFlow with keyAllowed := true }
  let start := l.mark
  let l := l.skip
  return l.push ⟨kind, start, l.mark⟩

/-- `]` or `}`. -/
def fetchFlowEnd (l : Lexer) (kind : TokenKind) : Except SyntaxError Lexer := do
  let l ← l.removeKey
  let l := { l.leaveFlow with keyAllowed := false }
  let start := l.mark
  let l := l.skip
  return l.push ⟨kind, start, l.mark⟩

/-- `,`. -/
def fetchFlowEntry (l : Lexer) : Except SyntaxError Lexer := do
  let l ← l.removeKey
  let start := l.mark
  let l := { l with keyAllowed := true }.skip
  return l.push ⟨.flowEntry, start, l.mark⟩

/-- `-` starting a block sequence entry. -/
def fetchBlockEntry (l : Lexer) : Except SyntaxError Lexer := do
  let l ← if l.flowLevel == 0 then
      if !l.keyAllowed then
        throw (l.error none l.mark "block sequence entries are not allowed in this context")
      else pure (l.rollIndent l.mark.column none .blockSequenceStart l.mark)
    else pure l
  let l ← l.removeKey
  let start := l.mark
  let l := { l with keyAllowed := true }.skip
  return l.push ⟨.blockEntry, start, l.mark⟩

/-- `?` starting a complex key. -/
def fetchKey (l : Lexer) : Except SyntaxError Lexer := do
  let l ← if l.flowLevel == 0 then
      if !l.keyAllowed then
        throw (l.error none l.mark "mapping keys are not allowed in this context")
      else pure (l.rollIndent l.mark.column none .blockMappingStart l.mark)
    else pure l
  let l ← l.removeKey
  let start := l.mark
  let l := { l with keyAllowed := l.flowLevel == 0 }.skip
  return l.push ⟨.key, start, l.mark⟩

/-- `:`: settles a pending simple key, or follows a complex key. -/
def fetchValue (l : Lexer) : Except SyntaxError Lexer := do
  let k := l.topKey
  let l ← if k.possible then
      let l := { l with queue := l.queue.insertIdx (k.tokenNumber - l.taken) ⟨.key, k.mark, k.mark⟩ }
      let l := l.rollIndent k.mark.column (some k.tokenNumber) .blockMappingStart k.mark
      let l := l.setTopKey { k with possible := false }
      pure { l with keyAllowed := false }
    else do
      let l ← if l.flowLevel == 0 then
          if !l.keyAllowed then
            throw (l.error none l.mark "mapping values are not allowed in this context")
          else pure (l.rollIndent l.mark.column none .blockMappingStart l.mark)
        else pure l
      pure { l with keyAllowed := l.flowLevel == 0 }
  let start := l.mark
  let l := l.skip
  return l.push ⟨.value, start, l.mark⟩

/-- Produces the next tokens. -/
def fetchNext (l : Lexer) : Except SyntaxError Lexer := do
  if !l.started then return l.fetchStreamStart
  let l := toNextToken l.room l
  let l ← l.staleKeys
  let l := l.unrollIndent l.mark.column
  let c := l.cur
  let c1 := l.ahead 1
  if c == endChar then l.fetchStreamEnd
  else if l.mark.column == 0 && c == '%' then l.fetchDirective
  else if l.mark.column == 0 && c == '-' && c1 == '-' && l.ahead 2 == '-' && isGap (l.ahead 3) then
    l.fetchDocumentIndicator .documentStart
  else if l.mark.column == 0 && c == '.' && c1 == '.' && l.ahead 2 == '.' && isGap (l.ahead 3) then
    l.fetchDocumentIndicator .documentEnd
  else if c == '[' then l.fetchFlowStart .flowSequenceStart
  else if c == '\x7b' then l.fetchFlowStart .flowMappingStart
  else if c == ']' then l.fetchFlowEnd .flowSequenceEnd
  else if c == '\x7d' then l.fetchFlowEnd .flowMappingEnd
  else if c == ',' then l.fetchFlowEntry
  else if c == '-' && isGap c1 then l.fetchBlockEntry
  else if c == '?' && (l.flowLevel > 0 || isGap c1) then l.fetchKey
  else if c == ':' && (l.flowLevel > 0 || isGap c1) then l.fetchValue
  else if c == '*' then do let l ← l.saveKey; { l with keyAllowed := false }.scanAnchor true
  else if c == '&' then do let l ← l.saveKey; { l with keyAllowed := false }.scanAnchor false
  else if c == '!' then do let l ← l.saveKey; { l with keyAllowed := false }.scanTag
  else if c == '|' && l.flowLevel == 0 then do
    let l ← l.removeKey; { l with keyAllowed := true }.scanBlockScalar true
  else if c == '>' && l.flowLevel == 0 then do
    let l ← l.removeKey; { l with keyAllowed := true }.scanBlockScalar false
  else if c == apostrophe then do let l ← l.saveKey; { l with keyAllowed := false }.scanQuoted true
  else if c == '"' then do let l ← l.saveKey; { l with keyAllowed := false }.scanQuoted false
  else if !(isGap c || "-?:,[]#&*!|>\"%@`".contains c || c == '\x7b' || c == '\x7d' ||
        c == apostrophe) ||
      (c == '-' && !isSpaceOrTab c1) ||
      (l.flowLevel == 0 && (c == '?' || c == ':') && !isGap c1) then do
    let l ← l.saveKey; { l with keyAllowed := false }.scanPlain
  else throw (l.error (some "while scanning for the next token") l.mark
    "found character that cannot start any token")

/-- Fetches tokens until the next one is settled: there is one, and no pending simple key
may start at it. -/
def settle : Nat → Lexer → Except SyntaxError Lexer
  | 0, l => .ok l
  | fuel + 1, l => do
    if l.queue.isEmpty then settle fuel (← l.fetchNext)
    else
      let l ← l.staleKeys
      if l.keys.any (fun k => k.possible && k.tokenNumber == l.taken) then
        settle fuel (← l.fetchNext)
      else return l

/-- The next token, settled, without taking it. -/
def peekToken (l : Lexer) : Except SyntaxError (Token × Lexer) := do
  let l ← settle (l.text.size + 4) l
  match l.queue with
  | t :: _ => return (t, l)
  | [] => return (⟨.streamEnd, l.mark, l.mark⟩, l)

/-- Takes the next token. -/
def takeToken (l : Lexer) : Lexer := { l with queue := l.queue.drop 1, taken := l.taken + 1 }

/-- The byte offset of the first character YAML text may not hold, if any. -/
def badOffset (s : String) : Option Nat :=
  go s.toList 0
where
  go : List Char → Nat → Option Nat
    | [], _ => none
    | c :: rest, n => if isAllowedChar c then go rest (n + c.utf8Size) else some n

/-- A lexer over a text. A byte order mark at the start is kept: it is passed over like
one at any line start, as a character of the first line. Characters that YAML text may
not hold are an error, at the byte offset of the first. -/
def ofText (s : String) : Except SyntaxError Lexer :=
  match badOffset s with
  | some n => .error { problem := "control characters are not allowed", mark := Mark.start, offset := n }
  | none => .ok { text := s.toList.toArray }

end Lexer

end Reachability.Yaml
