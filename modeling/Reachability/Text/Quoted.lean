import Reachability.Text.Hidden

/-!
# Quoted texts in diagnostics

Diagnostics show a text between double quotes, so that blanks and control characters can
be seen. Inside the quotes the quote and the backslash are escaped, tab, line feed,
carriage return and NUL have their short escapes, and a character that `isHidden` names is
written `\u{hex}` with lower-case hex digits and no leading zeros. Every other character is
written as itself.
-/

namespace Reachability.Text

/-- Lower-case hexadecimal digits of a number, without leading zeros. -/
def hexDigits (n : Nat) : List Char :=
  (Nat.toDigits 16 n)

/-- The escaped form of one character between double quotes. -/
def escapeVisible (c : Char) : List Char :=
  if c = '"' then ['\\', '"']
  else if c = '\\' then ['\\', '\\']
  else if c = '\t' then ['\\', 't']
  else if c = '\n' then ['\\', 'n']
  else if c = '\r' then ['\\', 'r']
  else if c.toNat = 0 then ['\\', '0']
  else if isHidden c then ['\\', 'u', '\x7b'] ++ hexDigits c.toNat ++ ['\x7d']
  else [c]

/-- A text between double quotes, with invisible characters escaped. -/
def quoteVisible (s : String) : String :=
  String.ofList ('"' :: (s.toList.flatMap escapeVisible ++ ['"']))

example : quoteVisible "a\tb\x1b\"" = "\"a\\tb\\u\x7b1b\x7d\\\"\"" := by decide

end Reachability.Text
