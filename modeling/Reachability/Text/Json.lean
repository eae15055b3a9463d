/-!
# JSON values

A JSON value with integer numbers, objects as lists of fields in the order written, and a
printer. Text is escaped as the JSON grammar requires and no further: the quote, the
backslash and the control characters below U+0020 (the short forms `\n`, `\t`, `\r`, `\b`,
`\f` where they exist, `\u00XX` otherwise); every other character is written as itself.

`pretty` writes one field or element per line, indented by two spaces, with `": "` after a
key; empty arrays and objects stay `[]` and `{}`.
-/

namespace Reachability

/-- A JSON value whose numbers are integers. -/
inductive Json where
  | null
  | bool (b : Bool)
  | int (n : Int)
  | str (s : String)
  | arr (xs : List Json)
  | obj (fields : List (String × Json))
deriving Repr, Inhabited

namespace Json

/-- The field of an object, if present. -/
def field? (j : Json) (name : String) : Option Json :=
  match j with
  | obj fields => (fields.find? (·.1 == name)).map (·.2)
  | _ => none

/-- A hexadecimal digit. -/
def hexDigit (n : Nat) : Char :=
  if n < 10 then Char.ofNat (48 + n) else Char.ofNat (87 + n)

/-- The escaped form of one character inside a JSON string. -/
def escapeChar (c : Char) : List Char :=
  if c = '"' then ['\\', '"']
  else if c = '\\' then ['\\', '\\']
  else if c = '\n' then ['\\', 'n']
  else if c = '\t' then ['\\', 't']
  else if c = '\r' then ['\\', 'r']
  else if c.toNat = 8 then ['\\', 'b']
  else if c.toNat = 12 then ['\\', 'f']
  else if c.toNat < 0x20 then
    ['\\', 'u', '0', '0', hexDigit (c.toNat / 16), hexDigit (c.toNat % 16)]
  else [c]

/-- A JSON string literal. -/
def quote (s : String) : String :=
  String.ofList ('"' :: (s.toList.flatMap escapeChar ++ ['"']))

mutual

/-- The compact text of a value. -/
def compact : Json → String
  | null => "null"
  | bool b => if b then "true" else "false"
  | int n => toString n
  | str s => quote s
  | arr xs => "[" ++ compactItems xs ++ "]"
  | obj fields => "\x7b" ++ compactFields fields ++ "\x7d"

/-- Elements separated by commas. -/
def compactItems : List Json → String
  | [] => ""
  | [x] => compact x
  | x :: xs => compact x ++ "," ++ compactItems xs

/-- Fields separated by commas. -/
def compactFields : List (String × Json) → String
  | [] => ""
  | [(k, v)] => quote k ++ ":" ++ compact v
  | (k, v) :: rest => quote k ++ ":" ++ compact v ++ "," ++ compactFields rest

end

/-- Two spaces per level. -/
def indent (level : Nat) : String := String.ofList (List.replicate (2 * level) ' ')

mutual

/-- The indented text of a value at a nesting level. -/
def prettyAt (level : Nat) : Json → String
  | arr [] => "[]"
  | obj [] => "\x7b\x7d"
  | arr xs => "[\n" ++ prettyItems (level + 1) xs ++ "\n" ++ indent level ++ "]"
  | obj fields => "\x7b\n" ++ prettyFields (level + 1) fields ++ "\n" ++ indent level ++ "\x7d"
  | j => compact j

/-- Elements, one per line. -/
def prettyItems (level : Nat) : List Json → String
  | [] => ""
  | [x] => indent level ++ prettyAt level x
  | x :: xs => indent level ++ prettyAt level x ++ ",\n" ++ prettyItems level xs

/-- Fields, one per line. -/
def prettyFields (level : Nat) : List (String × Json) → String
  | [] => ""
  | [(k, v)] => indent level ++ quote k ++ ": " ++ prettyAt level v
  | (k, v) :: rest => indent level ++ quote k ++ ": " ++ prettyAt level v ++ ",\n" ++
      prettyFields level rest

end

/-- The indented text of a value. -/
def pretty (j : Json) : String := prettyAt 0 j

/-- The field of an object, absent when missing or `null`. -/
def get? (j : Json) (name : String) : Option Json :=
  match j.field? name with
  | some null => none
  | r => r

/-- An integer field; 0 when missing. -/
def intAt (j : Json) (name : String) : Int :=
  match j.get? name with
  | some (int n) => n
  | _ => 0

/-- A natural-number field; 0 when missing or negative. -/
def natAt (j : Json) (name : String) : Nat := (j.intAt name).toNat

/-- A text field; empty when missing. -/
def strAt (j : Json) (name : String) : String :=
  match j.get? name with
  | some (str s) => s
  | _ => ""

/-- A flag field; false when missing. -/
def boolAt (j : Json) (name : String) : Bool :=
  match j.get? name with
  | some (bool b) => b
  | _ => false

/-- An array field; empty when missing. -/
def arrAt (j : Json) (name : String) : List Json :=
  match j.get? name with
  | some (arr xs) => xs
  | _ => []

/-- An array of texts; empty when missing. -/
def strsAt (j : Json) (name : String) : List String :=
  (j.arrAt name).filterMap fun
    | str s => some s
    | _ => none

/-- A list of texts as an array. -/
def strs (xs : List String) : Json := arr (xs.map str)

/-- An optional value, `null` when absent. -/
def opt {α : Type} (f : α → Json) : Option α → Json
  | none => null
  | some a => f a

end Json

end Reachability
