/-!
# The parent and the parts of a path

A path text is a root (a leading `/`), perhaps a leading `.` of a relative path, and a
body of names between `/`. Empty names and `.` inside the body are no names. The parent
of a path is the text before its last name, without the separators and `.` names that
end it; the root and the leading `.` stay. The root alone and the empty path have no
parent, and the parent of `.` is the empty path.

Two path texts name the same path when their parts agree: the root or the leading `.`,
then the names, `..` among them. So `a//b/./c/` and `a/b/c` are the same path, and `./a`
and `a` are not.
-/

namespace Reachability.Files

/-- Drops the separators and `.` names at the end of a body. -/
def trimBody : Nat → List Char → List Char
  | 0, cs => cs
  | fuel + 1, cs =>
    match cs.reverse with
    | '/' :: rest => trimBody fuel rest.reverse
    | '.' :: '/' :: rest => trimBody fuel ('/' :: rest).reverse
    | ['.'] => []
    | _ => cs

/-- The parent of a path, if it has one. -/
def parentText (s : String) : Option String :=
  let cs := s.toList
  let root := cs.head? == some '/'
  let afterRoot := if root then cs.drop 1 else cs
  let curDir := !root && (afterRoot == ['.'] || afterRoot.take 2 == ['.', '/'])
  let before := cs.take ((if root then 1 else 0) + (if curDir then 1 else 0))
  let body := trimBody cs.length (cs.drop before.length)
  if body.isEmpty then
    if curDir then some "" else none
  else
    let rest := (body.reverse.dropWhile (· != '/')).reverse
    some (String.ofList (before ++ trimBody rest.length rest))

/-- One part of a path as paths are compared. -/
inductive Component where
  | root
  | here
  | up
  | name (n : List Char)
deriving DecidableEq, Repr

/-- The pieces of a text between `/`. -/
def slashPieces (cs : List Char) : List (List Char) :=
  cs.foldr (fun c acc => if c == '/' then [] :: acc else
    match acc with
    | [] => [[c]]
    | x :: xs => (c :: x) :: xs) [[]]

/-- The parts of a path text: the root or a leading `.`, then the names between `/`
without empty names and `.`, where `..` goes up. -/
def components (s : String) : List Component :=
  let cs := s.toList
  let root := cs.head? == some '/'
  let here := !root && (cs == ['.'] || cs.take 2 == ['.', '/'])
  let names := (slashPieces cs).filter fun n => !n.isEmpty && n != ['.']
  (if root then [Component.root] else []) ++ (if here then [Component.here] else []) ++
    names.map fun n => if n == ['.', '.'] then Component.up else Component.name n

/-- Do two path texts name the same path? -/
def samePath (a b : String) : Bool := components a == components b

example : samePath "x//y" "x/y" = true := by decide
example : samePath "/./x" "//x" = true := by decide
example : samePath "./x" "x" = false := by decide

example : parentText "/etc/a.yaml" = some "/etc" := by decide
example : parentText "./a.yaml" = some "." := by decide
example : parentText "a/" = some "" := by decide
example : parentText "/" = none := by decide
example : parentText "../y/z.yaml" = some "../y" := by decide

end Reachability.Files
