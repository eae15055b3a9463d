/-!
# Directories and files

A volume is a tree of named entries: a file holds bytes, a directory holds entries. Paths
are lists of names, read from text by splitting at `/`; empty names and `.` are dropped,
and `..` stays. A path is resolved against the tree as the system does: every name that
more names follow must be a directory, and `..` then goes back to the directory before it.
So `f/../d` fails when `f` is a file or missing, though it names `d`. Relative and
absolute paths name the same tree.

Each operation fails as a POSIX system call does:

* a missing name on the way gives `notFound`, and a file where a directory is needed
  `notADirectory`;
* a name longer than 255 bytes gives `nameTooLong` when it is looked up, that is once
  the directories before it have been found;
* creating a directory where an entry exists gives `alreadyExists`;
* reading, opening or removing a directory as a file gives `isADirectory`.

A path given as text is read by `Path.read` before it reaches the system: text holding a
NUL byte cannot be handed over at all (`nulByte`), the empty text names nothing
(`notFound`), and text of 4096 bytes or more is too long (`nameTooLong`).

`createDirs` creates every missing directory on a path and succeeds when the path already
is a directory; `createPath` does so for a path given as text, and has nothing to do for
the empty text.
-/

namespace Reachability.Files

/-- Why an operation on the volume failed. -/
inductive IoError where
  | notFound
  | alreadyExists
  | notADirectory
  | isADirectory
  | nameTooLong
  | nulByte
deriving DecidableEq, Repr

/-- The system's text for an error, with its number; a NUL byte is refused before the
system is asked, so its text has none. -/
def IoError.message : IoError → String
  | .notFound => "No such file or directory (os error 2)"
  | .alreadyExists => "File exists (os error 17)"
  | .notADirectory => "Not a directory (os error 20)"
  | .isADirectory => "Is a directory (os error 21)"
  | .nameTooLong => "File name too long (os error 36)"
  | .nulByte => "file name contained an unexpected NUL byte"

/-- The most bytes a name may have. -/
def nameLimit : Nat := 255

/-- A path given as text must have fewer bytes than this. -/
def pathLimit : Nat := 4096

/-- Is a name longer than a name may be? -/
def tooLong (name : String) : Bool := name.utf8ByteSize > nameLimit

/-- An entry of a directory: a file with its bytes or a directory with its entries. -/
inductive Entry where
  | file (bytes : List UInt8)
  | dir (entries : List (String × Entry))
deriving Repr, Inhabited

/-- The contents of a directory. -/
abbrev Dir := List (String × Entry)

/-- A path: the names from the top of the volume. -/
abbrev Path := List String

/-- Reads a path: the names between `/`, without empty names and `.`. -/
def Path.ofString (s : String) : Path :=
  ((s.toList.splitOn '/').map String.ofList).filter fun n => !n.isEmpty && n != "."

/-- Reads a path given as text, as the system takes it: text with a NUL byte cannot be
handed over, the empty text names nothing, and text of `pathLimit` bytes or more is too
long. -/
def Path.read (s : String) : Except IoError Path :=
  if s.any (· == '\x00') then .error .nulByte
  else if s.isEmpty then .error .notFound
  else if s.utf8ByteSize ≥ pathLimit then .error .nameTooLong
  else .ok (Path.ofString s)

/-- The text of a name joined onto a directory's text: a name starting with `/` stands
alone, as does a name joined onto the empty text; otherwise one `/` goes between them. -/
def Path.joinText (dir name : String) : String :=
  if name.toList.head? == some '/' || dir.isEmpty then name
  else if dir.toList.getLast? == some '/' then dir ++ name
  else dir ++ "/" ++ name

example : Path.joinText "" "f" = "f" := by decide +kernel
example : Path.joinText "d/" "f" = "d/f" := by decide +kernel

/-- The entry under a name. -/
def Dir.entry? (d : Dir) (name : String) : Option Entry :=
  (List.find? (·.1 == name) d).map (·.2)

/-- The directory with the entry under `name` set, kept in place or added at the end. -/
def Dir.put (d : Dir) (name : String) (e : Entry) : Dir :=
  if List.any d (·.1 == name) then d.map fun (n, x) => if n == name then (n, e) else (n, x)
  else d ++ [(name, e)]

/-- The directory without the entry under `name`. -/
def Dir.erase (d : Dir) (name : String) : Dir := d.filter (·.1 != name)

/-- The entry at a resolved path; the empty path is the top directory. -/
def Dir.entryAt (d : Dir) : Path → Except IoError Entry
  | [] => .ok (.dir d)
  | [n] => match Dir.entry? d n with
    | some e => .ok e
    | none => .error .notFound
  | n :: rest => match Dir.entry? d n with
    | some (.dir sub) => Dir.entryAt sub rest
    | some (.file _) => .error .notADirectory
    | none => .error .notFound

/-- Resolves a path: each name that more names follow must be a directory, and `..`
goes back to the directory before it (the top stays the top). A name too long for a name
fails when it is reached. The result names the same place without `..`; its last name
need not exist. -/
def Dir.locate (d : Dir) (p : Path) : Except IoError Path := go [] p
where
  /-- The names of a trail, from the top. -/
  names (trail : List (String × Dir)) : Path := (trail.map (·.1)).reverse
  /-- Walks on from `trail`: the directories walked into, each with its name, the last
  first; `..` steps back out of the last. -/
  go (trail : List (String × Dir)) : Path → Except IoError Path
    | [] => .ok (names trail)
    | [n] =>
      if n == ".." then .ok (names trail.tail)
      else if tooLong n then .error .nameTooLong
      else .ok (names trail ++ [n])
    | n :: rest =>
      if n == ".." then go trail.tail rest
      else if tooLong n then .error .nameTooLong
      else
        let here := match trail with
          | (_, sub) :: _ => sub
          | [] => d
        match Dir.entry? here n with
        | some (.dir sub) => go ((n, sub) :: trail) rest
        | some (.file _) => .error .notADirectory
        | none => .error .notFound

/-- The entry at a path; the empty path is the top directory. -/
def Dir.lookup (d : Dir) (p : Path) : Except IoError Entry := do
  d.entryAt (← d.locate p)

/-- Changes the directory at `dirPath` with `f`; the directories on the way must exist. -/
def Dir.update (d : Dir) (f : Dir → Except IoError Dir) : Path → Except IoError Dir
  | [] => f d
  | n :: rest => match Dir.entry? d n with
    | some (.dir sub) => do
      let sub' ← Dir.update sub f rest
      return d.put n (.dir sub')
    | some (.file _) => .error .notADirectory
    | none => .error .notFound

/-- The parent path and last name of a path, if it has a name. -/
def Path.split? (p : Path) : Option (Path × String) :=
  match p.getLast? with
  | some n => some (p.dropLast, n)
  | none => none

/-- Creates one directory; its parent must exist and the name must be free. -/
def Dir.makeDir (d : Dir) (p : Path) : Except IoError Dir := do
  match (← d.locate p).split? with
  | none => .error .alreadyExists
  | some (parent, n) => d.update (fun pd =>
      match Dir.entry? pd n with
      | some _ => .error .alreadyExists
      | none => .ok (pd.put n (.dir []))) parent

/-- Is there a directory at the path? -/
def Dir.isDirAt (d : Dir) (p : Path) : Bool :=
  match d.lookup p with
  | .ok (.dir _) => true
  | _ => false

/-- Creates every missing directory on a path; fine when the path is a directory. A name
that is taken by a file stops it. -/
def Dir.createDirs (d : Dir) (p : Path) : Except IoError Dir :=
  go p.length p
where
  go : Nat → Path → Except IoError Dir
    | 0, _ => .ok d
    | fuel + 1, p =>
      if p.isEmpty then .ok d
      else match d.makeDir p with
        | .ok d' => .ok d'
        | .error .notFound =>
          match go fuel p.dropLast with
          | .error e => .error e
          | .ok d' =>
            match d'.makeDir p with
            | .ok d'' => .ok d''
            | .error e => if d'.isDirAt p then .ok d' else .error e
        | .error e => if d.isDirAt p then .ok d else .error e

/-- Creates every missing directory on the path a text names; the empty text needs
nothing. -/
def Dir.createPath (d : Dir) (text : String) : Except IoError Dir :=
  if text.isEmpty then .ok d else do d.createDirs (← Path.read text)

/-- The bytes of the file at a path. -/
def Dir.readFile (d : Dir) (p : Path) : Except IoError (List UInt8) :=
  match d.lookup p with
  | .ok (.file bs) => .ok bs
  | .ok (.dir _) => .error .isADirectory
  | .error e => .error e

/-- Writes a file, replacing what it held, or appends to it; the file is created when
missing. -/
def Dir.writeFile (d : Dir) (p : Path) (bytes : List UInt8) (append : Bool) :
    Except IoError Dir := do
  match (← d.locate p).split? with
  | none => .error .isADirectory
  | some (parent, n) => d.update (fun pd =>
      match Dir.entry? pd n with
      | some (.dir _) => .error .isADirectory
      | some (.file old) => .ok (pd.put n (.file (if append then old ++ bytes else bytes)))
      | none => .ok (pd.put n (.file bytes))) parent

/-- Removes the file at a path. -/
def Dir.removeFile (d : Dir) (p : Path) : Except IoError Dir := do
  match (← d.locate p).split? with
  | none => .error .isADirectory
  | some (parent, n) => d.update (fun pd =>
      match Dir.entry? pd n with
      | some (.dir _) => .error .isADirectory
      | some (.file _) => .ok (pd.erase n)
      | none => .error .notFound) parent

/-- The entries of the directory at a path. -/
def Dir.list (d : Dir) (p : Path) : Except IoError Dir :=
  match d.lookup p with
  | .ok (.dir es) => .ok es
  | .ok (.file _) => .error .notADirectory
  | .error e => .error e

/-- Sizes of the entries of a directory in name order; a directory has no size. -/
def Dir.sizes (d : Dir) : List (String × Option Nat) :=
  (d.map fun (n, e) => (n, match e with
    | .file bs => some bs.length
    | .dir _ => none)).mergeSort fun a b => decide (a.1 ≤ b.1)

end Reachability.Files
