/-!
# Positions in YAML text and syntax errors

A mark is a position in the text: the number of characters before it, and its line and
column counted from zero. A line break of two characters (carriage return, line feed)
counts as two characters and one line.

A syntax error names the problem and where it was found, and usually also what was being
read and where that began. Its text shows positions from one, `line L column C`, and leaves
out a position at the very start of the text; the position of what was being read is shown
only when it differs from the problem's. An error in the characters themselves has no line
and column, only a byte offset, shown as `at position N`.
-/

namespace Reachability.Yaml

/-- A position in the text: characters before it, and its line and column from zero. -/
structure Mark where
  index : Nat
  line : Nat
  column : Nat
deriving DecidableEq, Repr, Inhabited

namespace Mark

/-- The start of the text. -/
def start : Mark := ⟨0, 0, 0⟩

/-- Is the mark on the first column of the first line? Such a mark is never shown. -/
def isStart (m : Mark) : Bool := m.line == 0 && m.column == 0

/-- The mark as people count: lines and columns from one. -/
def text (m : Mark) : String := s!"line {m.line + 1} column {m.column + 1}"

end Mark

/-- A syntax error: the problem and its position, the byte offset for errors in the
characters themselves, and what was being read with where it began. -/
structure SyntaxError where
  problem : String
  mark : Mark
  offset : Nat := 0
  context : Option (String × Mark) := none
deriving DecidableEq, Repr

/-- The text of a syntax error. -/
def SyntaxError.message (e : SyntaxError) : String :=
  let place :=
    if !e.mark.isStart then " at " ++ e.mark.text
    else if e.offset ≠ 0 then s!" at position {e.offset}"
    else ""
  let during := match e.context with
    | none => ""
    | some (what, m) =>
      ", " ++ what ++
        (if !m.isStart && (m.line != e.mark.line || m.column != e.mark.column) then
          " at " ++ m.text else "")
  e.problem ++ place ++ during


end Reachability.Yaml
