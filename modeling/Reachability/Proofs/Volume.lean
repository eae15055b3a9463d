import Mathlib
import Reachability.Files.Volume

/-!
# Resolving paths, and what writing a file changes

A path is resolved by walking it from the top of the volume: only the directories along the
way matter to the walk, never the files in them nor what else a directory holds. So two
volumes with their directories at the same paths (`SameDirs`) resolve every path alike
(`locate_of_sameDirs`), and writing a file leaves every directory where it was. This is the
frame that lets a sequence of writes into one directory be followed through the directory
alone: the directory a text names keeps resolving to the same place, and appending to a file
of it replaces that directory by the directory with the file appended (`writeFile_append`).

Paths given as text are read by splitting at `/`; a plain name joined onto a directory's
text reads as the directory's path with that name after it (`read_joinText`).

Main statements: `locate_of_sameDirs`, `locate_snoc`, `writeFile_append`,
`readFile_of_entry`, `list_of_entryAt`, `createPath_of_lookup`, `read_joinText`.
-/

namespace Reachability.Files

namespace Entry

/-- What lies at a path below an entry: the entry itself at the empty path, below a directory
its entry at the path, and nothing below a file. -/
def atPath : Entry → Path → Except IoError Entry
  | e, [] => .ok e
  | .dir sub, p => Dir.entryAt sub p
  | .file _, _ :: _ => .error .notADirectory

/-- At the empty path below an entry lies the entry itself. -/
@[simp] theorem atPath_nil (e : Entry) : e.atPath [] = .ok e := by
  cases e <;> rfl

/-- Below a directory lies what its entries hold at the path. -/
@[simp] theorem atPath_dir (sub : Dir) (p : Path) : (Entry.dir sub).atPath p = Dir.entryAt sub p := by
  cases p <;> rfl

/-- No directory lies below a file, nor is a file one. -/
theorem atPath_file_ne_dir (bs : List UInt8) (p : Path) (sub : Dir) :
    (Entry.file bs).atPath p ≠ .ok (.dir sub) := by
  cases p <;> simp [atPath]

end Entry

namespace Dir

/-! ## Entries of a directory -/

/-- The entry under a name is that of the first entry holding the name. -/
theorem entry_def (d : Dir) (n : String) : Dir.entry? d n = (d.find? (·.1 == n)).map (·.2) := rfl

/-- A directory holds a name exactly when the name has an entry. -/
theorem mem_names_iff {d : Dir} {n : String} : n ∈ d.map (·.1) ↔ ∃ e, Dir.entry? d n = some e := by
  have found : n ∈ d.map (·.1) ↔ (d.find? (·.1 == n)).isSome := by
    rw [List.find?_isSome]
    simp
  rw [found, Option.isSome_iff_exists]
  simp only [entry_def, Option.map_eq_some_iff, Prod.exists]
  exact ⟨fun ⟨a, b, h⟩ => ⟨b, a, b, h, rfl⟩, fun ⟨_, a, b, h, _⟩ => ⟨a, b, h⟩⟩

/-- A directory has no entry under a name exactly when it does not hold the name. -/
theorem entry_eq_none_iff {d : Dir} {n : String} : Dir.entry? d n = none ↔ n ∉ d.map (·.1) := by
  rw [mem_names_iff]
  cases Dir.entry? d n <;> simp

/-- The test `put` makes: is the name held? -/
theorem any_name_iff {d : Dir} {n : String} : List.any d (·.1 == n) = true ↔ n ∈ d.map (·.1) := by
  simp [List.any_eq_true]

/-- Putting an entry sets that name and no other. -/
theorem entry_put (d : Dir) (n m : String) (e : Entry) :
    Dir.entry? (d.put n e) m = if m = n then some e else Dir.entry? d m := by
  unfold put
  split
  · rename_i held
    simp only [entry_def, List.find?_map]
    have keep : ((fun x : String × Entry => x.1 == m) ∘
        fun x : String × Entry => if x.1 == n then (x.1, e) else (x.1, x.2)) = (·.1 == m) := by
      funext x
      simp only [Function.comp]
      split <;> rfl
    rw [keep]
    cases found : d.find? (·.1 == m) with
    | none =>
      split
      · subst m
        obtain ⟨e', held'⟩ := mem_names_iff.1 (any_name_iff.1 held)
        simp [entry_def, found] at held'
      · rfl
    | some x =>
      have same : x.1 = m := by simpa using List.find?_some found
      by_cases named : m = n
      · subst named
        simp [same]
      · simp [named, same]
  · rename_i absent
    simp only [entry_def, List.find?_append]
    by_cases named : m = n
    · subst m
      have none : d.find? (·.1 == n) = none := by
        have missing := entry_eq_none_iff.2 (fun held => absent (any_name_iff.2 held))
        simpa [entry_def] using missing
      simp [none]
    · simp [named, Ne.symm named]

/-- The names of a directory after a put: the same names, or the new one at the end. -/
theorem names_put (d : Dir) (n : String) (e : Entry) :
    (d.put n e).map (·.1) = if n ∈ d.map (·.1) then d.map (·.1) else d.map (·.1) ++ [n] := by
  unfold put
  split
  · rename_i held
    rw [if_pos (any_name_iff.1 held), List.map_map]
    congr 1
    funext x
    simp only [Function.comp]
    split <;> rfl
  · rename_i absent
    have member : n ∉ d.map (·.1) := fun held => absent (any_name_iff.2 held)
    simp only [if_neg member, List.map_append, List.map_cons, List.map_nil]

/-- Putting an entry keeps the names of a directory distinct. -/
theorem nodup_names_put {d : Dir} (unique : (d.map (·.1)).Nodup) (n : String) (e : Entry) :
    ((d.put n e).map (·.1)).Nodup := by
  rw [names_put]
  split
  · exact unique
  · rename_i fresh
    exact List.nodup_append.2 ⟨unique, List.nodup_singleton n,
      fun a held b added same => fresh (by simp_all)⟩

/-- Erasing a name drops its entry and no other. -/
theorem entry_erase (d : Dir) (n m : String) :
    Dir.entry? (d.erase n) m = if m = n then none else Dir.entry? d m := by
  simp only [entry_def, erase, List.find?_filter]
  split
  · subst m
    have none : d.find? (fun x => decide ((x.1 != n) = true ∧ (x.1 == n) = true)) = none := by
      rw [List.find?_eq_none]
      intro x _
      simp
    rw [none, Option.map_none]
  · rename_i other
    congr 2
    funext x
    by_cases named : x.1 = m
    · simp [named, other]
    · simp [named]

/-- Putting an entry under a name that is held replaces it in place. -/
theorem put_of_mem {d : Dir} {n : String} (held : n ∈ d.map (·.1)) (e : Entry) :
    d.put n e = d.map fun (m, x) => if m == n then (m, e) else (m, x) := by
  unfold put
  rw [if_pos (any_name_iff.2 held)]

/-- Putting an entry twice under one name leaves the second. -/
theorem put_put (d : Dir) (n : String) (e e' : Entry) : (d.put n e).put n e' = d.put n e' := by
  have present : n ∈ (d.put n e).map (·.1) := by
    rw [names_put]
    split <;> simp_all
  rw [put_of_mem present]
  by_cases held : n ∈ d.map (·.1)
  · rw [put_of_mem held, put_of_mem held, List.map_map]
    congr 1
    funext x
    simp only [Function.comp]
    split <;> simp_all
  · have absent : List.any d (·.1 == n) = false := by
      cases found : List.any d (·.1 == n)
      · rfl
      · exact absurd (any_name_iff.1 found) held
    have untouched : (d.map fun (m, x) => if m == n then (m, e') else (m, x)) = d := by
      conv => rhs; rw [← List.map_id d]
      apply List.map_congr_left
      intro x member
      have other : (x.1 == n) = false := by
        apply beq_eq_false_iff_ne.2
        intro same
        exact held (List.mem_map.2 ⟨x, member, same⟩)
      simp [other]
    simp only [put, absent, Bool.false_eq_true, if_false, List.map_append, untouched]
    simp

/-! ## Entries along a path -/

/-- At the empty path lies the directory itself. -/
@[simp] theorem entryAt_nil (d : Dir) : d.entryAt [] = .ok (.dir d) := rfl

/-- One name down: the entry under the name, then the rest of the path below it. -/
theorem entryAt_cons (d : Dir) (n : String) (rest : Path) :
    d.entryAt (n :: rest) = match Dir.entry? d n with
      | some e => e.atPath rest
      | none => .error .notFound := by
  cases rest with
  | nil =>
    simp only [entryAt]
    cases Dir.entry? d n <;> rfl
  | cons m rest =>
    rw [entryAt.eq_3 _ _ _ (List.cons_ne_nil m rest)]
    rcases Dir.entry? d n with _ | _ | _ <;> rfl

/-- The entry at a path with a name added is that name's entry in the directory at the path. -/
theorem entryAt_snoc {d : Dir} {r : Path} {n : String} {e : Entry} :
    d.entryAt (r ++ [n]) = .ok e ↔ ∃ sub : Dir, d.entryAt r = .ok (.dir sub) ∧ Dir.entry? sub n = some e := by
  induction r generalizing d with
  | nil =>
    rw [List.nil_append, entryAt_cons]
    cases found : Dir.entry? d n <;> simp [found]
  | cons m rest inductionHypothesis =>
    rw [List.cons_append, entryAt_cons, entryAt_cons]
    rcases Dir.entry? d m with _ | bs | inner
    · simp
    · simp only
      have fileBelow : (Entry.file bs).atPath (rest ++ [n]) ≠ .ok e := by
        cases rest <;> simp [Entry.atPath]
      simp only [fileBelow, false_iff, not_exists, not_and]
      exact fun sub found => absurd found (Entry.atPath_file_ne_dir bs rest sub)
    · simpa using inductionHypothesis

/-! ## Volumes with the same directories -/

/-- Two volumes have their directories at the same paths; their files, and so what their
directories hold besides directories, may differ. -/
def SameDirs (v w : Dir) : Prop :=
  ∀ r : Path, (∃ sub : Dir, v.entryAt r = .ok (.dir sub)) ↔ (∃ sub : Dir, w.entryAt r = .ok (.dir sub))

/-- A volume has its directories where it has them. -/
theorem SameDirs.refl (v : Dir) : SameDirs v v := fun _ => Iff.rfl

/-- Having the directories at the same paths is symmetric. -/
theorem SameDirs.symm {v w : Dir} (same : SameDirs v w) : SameDirs w v := fun r => (same r).symm

/-- Having the directories at the same paths is transitive. -/
theorem SameDirs.trans {u v w : Dir} (first : SameDirs u v) (second : SameDirs v w) :
    SameDirs u w := fun r => (first r).trans (second r)

/-- Putting a file under a name that holds no directory moves no directory. -/
theorem sameDirs_put_file {d : Dir} {n : String} (notDir : ∀ sub, Dir.entry? d n ≠ some (.dir sub))
    (bs : List UInt8) : SameDirs d (d.put n (.file bs)) := by
  intro r
  cases r with
  | nil => simp
  | cons m rest =>
    rw [entryAt_cons, entryAt_cons, entry_put]
    by_cases named : m = n
    · subst m
      rw [if_pos rfl]
      have none : ∀ sub, ¬ (Entry.file bs).atPath rest = .ok (.dir sub) :=
        Entry.atPath_file_ne_dir bs rest
      simp only [none, exists_false, iff_false, not_exists]
      intro sub
      rcases found : Dir.entry? d n with _ | old | inner
      · simp
      · exact Entry.atPath_file_ne_dir old rest sub
      · exact absurd found (notDir inner)
    · simp only [if_neg named]

/-- Putting a directory where one stood, with its directories at the same paths, moves no
directory. -/
theorem sameDirs_put_dir {d : Dir} {n : String} {old new : Dir} (held : Dir.entry? d n = some (.dir old))
    (same : SameDirs old new) : SameDirs d (d.put n (.dir new)) := by
  intro r
  cases r with
  | nil => simp
  | cons m rest =>
    rw [entryAt_cons, entryAt_cons, entry_put]
    by_cases named : m = n
    · subst m
      rw [if_pos rfl, held]
      simp only [Entry.atPath_dir]
      exact same rest
    · simp only [if_neg named]

/-- Erasing a file moves no directory. -/
theorem sameDirs_erase_file {d : Dir} {n : String} {bs : List UInt8}
    (held : Dir.entry? d n = some (.file bs)) : SameDirs d (d.erase n) := by
  intro r
  cases r with
  | nil => simp
  | cons m rest =>
    rw [entryAt_cons, entryAt_cons, entry_erase]
    by_cases named : m = n
    · subst m
      rw [if_pos rfl, held]
      simp only [reduceCtorEq, exists_false, iff_false, not_exists]
      exact Entry.atPath_file_ne_dir bs rest
    · rw [if_neg named]

/-! ## Walking a path -/

open Dir.locate (names go)

/-- The directory a walk stands in: the last one walked into, or the top. -/
def walkTop (d : Dir) : List (String × Dir) → Dir
  | (_, sub) :: _ => sub
  | [] => d

/-- Every directory on a walk's trail is the directory at the names of the trail up to it. -/
def TrailIn (v : Dir) : List (String × Dir) → Prop
  | [] => True
  | (n, sub) :: rest => v.entryAt (names ((n, sub) :: rest)) = .ok (.dir sub) ∧ TrailIn v rest

/-- An empty trail names the top of the volume. -/
@[simp] theorem names_nil : names [] = [] := rfl

/-- A trail names the path of the directories walked into, the first walked into first. -/
@[simp] theorem names_cons (n : String) (sub : Dir) (trail : List (String × Dir)) :
    names ((n, sub) :: trail) = names trail ++ [n] := by
  simp [names]

/-- Trails that name the same path name the same path one step back. -/
theorem names_tail {t t' : List (String × Dir)} (same : names t = names t') :
    names t.tail = names t'.tail := by
  simp only [names, List.reverse_inj] at same ⊢
  rw [List.map_tail, List.map_tail, same]

/-- The walk stands in the directory at the names of its trail. -/
theorem TrailIn.entryAt_walkTop {v : Dir} : ∀ {t : List (String × Dir)}, TrailIn v t →
    v.entryAt (names t) = .ok (.dir (walkTop v t))
  | [], _ => rfl
  | (_, _) :: _, valid => valid.1

/-- A trail without its last directory walked into is still right. -/
theorem TrailIn.tail {v : Dir} : ∀ {t : List (String × Dir)}, TrailIn v t → TrailIn v t.tail
  | [], _ => trivial
  | (_, _) :: _, valid => valid.2

/-- Walking into a directory of the directory the walk stands in keeps the trail right. -/
theorem TrailIn.cons {v : Dir} {t : List (String × Dir)} {n : String} {sub : Dir}
    (valid : TrailIn v t) (found : Dir.entry? (walkTop v t) n = some (.dir sub)) :
    TrailIn v ((n, sub) :: t) :=
  ⟨by rw [names_cons]; exact entryAt_snoc.2 ⟨_, valid.entryAt_walkTop, found⟩, valid⟩

/-- A step of the walk before the last name: `..` steps back, a long name fails, and any other
name must be a directory of the directory the walk stands in. -/
theorem go_cons_cons (d : Dir) (t : List (String × Dir)) (n m : String) (rest : Path) :
    go d t (n :: m :: rest) =
      if n == ".." then go d t.tail (m :: rest)
      else if tooLong n then .error .nameTooLong
      else match Dir.entry? (walkTop d t) n with
        | some (.dir sub) => go d ((n, sub) :: t) (m :: rest)
        | some (.file _) => .error .notADirectory
        | none => .error .notFound := by
  cases t <;> rfl

/-- A walk that succeeds in one volume succeeds in another with the same directories, and ends
at the same names. -/
theorem go_of_sameDirs {v w : Dir} (same : SameDirs v w) (p : Path) :
    ∀ {t t' : List (String × Dir)} {r : Path}, TrailIn v t → TrailIn w t' →
      names t = names t' → go v t p = .ok r → go w t' p = .ok r := by
  induction p with
  | nil =>
    intro t t' r _ _ sameNames walked
    rw [Dir.locate.go.eq_1] at walked ⊢
    rw [← sameNames]
    exact walked
  | cons n rest inductionHypothesis =>
    intro t t' r valid valid' sameNames walked
    cases rest with
    | nil =>
      rw [Dir.locate.go.eq_2] at walked ⊢
      rw [← sameNames, ← names_tail sameNames]
      exact walked
    | cons m rest =>
      rw [go_cons_cons] at walked ⊢
      split at walked
      · rename_i up
        rw [if_pos up]
        exact inductionHypothesis valid.tail valid'.tail (names_tail sameNames) walked
      · rename_i notUp
        rw [if_neg notUp]
        split at walked
        · cases walked
        · rename_i short
          rw [if_neg short]
          split at walked
          · rename_i sub found
            -- the directory walked into is at the same path in the other volume
            have there : v.entryAt (names t ++ [n]) = .ok (.dir sub) :=
              entryAt_snoc.2 ⟨_, valid.entryAt_walkTop, found⟩
            obtain ⟨sub', there'⟩ := (same _).1 ⟨sub, there⟩
            rw [sameNames] at there'
            obtain ⟨top, atTop, found'⟩ := entryAt_snoc.1 there'
            rw [valid'.entryAt_walkTop] at atTop
            cases atTop
            rw [found']
            exact inductionHypothesis (valid.cons found) (valid'.cons found')
              (by rw [names_cons, names_cons, sameNames]) walked
          · cases walked
          · cases walked

/-- Volumes with the same directories resolve every path alike. -/
theorem locate_of_sameDirs {v w : Dir} (same : SameDirs v w) {p r : Path}
    (located : v.locate p = .ok r) : w.locate p = .ok r :=
  go_of_sameDirs same p (show TrailIn v [] from trivial) (show TrailIn w [] from trivial) rfl located

/-- A name other than `..` after a path that resolves to a directory is looked up in it: a
name too long fails there, and any other resolves below it. -/
theorem go_snoc_eq {d : Dir} {n : String} (plain : (n == "..") = false) (p : Path) :
    ∀ {t : List (String × Dir)} {q : Path} {sub : Dir}, TrailIn d t →
      go d t p = .ok q → d.entryAt q = .ok (.dir sub) →
      go d t (p ++ [n]) = if tooLong n then .error .nameTooLong else .ok (q ++ [n]) := by
  induction p with
  | nil =>
    intro t q sub _ walked _
    rw [Dir.locate.go.eq_1] at walked
    cases walked
    simp [Dir.locate.go.eq_2, plain]
  | cons m rest inductionHypothesis =>
    intro t q sub valid walked isDir
    cases rest with
    | nil =>
      rw [List.cons_append, List.nil_append, go_cons_cons]
      rw [Dir.locate.go.eq_2] at walked
      split at walked
      · rename_i up
        cases walked
        simp [up, Dir.locate.go.eq_2, plain]
      · rename_i notUp
        split at walked
        · cases walked
        · rename_i long
          cases walked
          -- the last name of the path must be a directory for the walk to go on
          obtain ⟨top, atTop, found⟩ := entryAt_snoc.1 isDir
          rw [valid.entryAt_walkTop] at atTop
          cases atTop
          simp [notUp, long, found, Dir.locate.go.eq_2, plain]
    | cons m' rest =>
      rw [List.cons_append, List.cons_append, go_cons_cons]
      rw [go_cons_cons] at walked
      split at walked
      · rename_i up
        rw [if_pos up, ← List.cons_append]
        exact inductionHypothesis valid.tail walked isDir
      · rename_i notUp
        rw [if_neg notUp]
        split at walked
        · cases walked
        · rename_i long
          rw [if_neg long]
          split at walked
          · rename_i inner found
            rw [← List.cons_append]
            exact inductionHypothesis (valid.cons found) walked isDir
          · cases walked
          · cases walked

/-- A plain name after a path that resolves to a directory resolves below it. -/
theorem go_snoc {d : Dir} {n : String} (plain : (n == "..") = false) (short : tooLong n = false)
    (p : Path) {t : List (String × Dir)} {q : Path} {sub : Dir} (valid : TrailIn d t)
    (walked : go d t p = .ok q) (isDir : d.entryAt q = .ok (.dir sub)) :
    go d t (p ++ [n]) = .ok (q ++ [n]) := by
  rw [go_snoc_eq plain p valid walked isDir, short, if_neg Bool.false_ne_true]

/-- A plain name after a path that resolves to a directory resolves to that name in the
directory. -/
theorem locate_snoc {d : Dir} {p q : Path} {sub : Dir} {n : String} (plain : (n == "..") = false)
    (short : tooLong n = false) (located : d.locate p = .ok q) (isDir : d.entryAt q = .ok (.dir sub)) :
    d.locate (p ++ [n]) = .ok (q ++ [n]) :=
  go_snoc plain short p (show TrailIn d [] from trivial) located isDir

/-- A name too long after a path that resolves to a directory does not resolve. -/
theorem locate_snoc_long {d : Dir} {p q : Path} {sub : Dir} {n : String}
    (plain : (n == "..") = false) (long : tooLong n = true) (located : d.locate p = .ok q)
    (isDir : d.entryAt q = .ok (.dir sub)) : d.locate (p ++ [n]) = .error .nameTooLong := by
  unfold locate
  rw [go_snoc_eq plain p (show TrailIn d [] from trivial) located isDir, if_pos long]

/-! ## Changing the directory at a path -/

/-- The volume with the directory at a path replaced; where the path leads to no directory,
nothing changes. -/
def setDir (d : Dir) (sub : Dir) : Path → Dir
  | [] => sub
  | n :: rest => match Dir.entry? d n with
    | some (.dir inner) => d.put n (.dir (setDir inner sub rest))
    | _ => d

/-- Updating the directory at a path applies the change to that directory and puts the result
in its place. -/
theorem update_of_entryAt {d pd : Dir} {q : Path} (found : d.entryAt q = .ok (.dir pd))
    (f : Dir → Except IoError Dir) :
    d.update f q = (f pd).bind fun pd' => .ok (d.setDir pd' q) := by
  induction q generalizing d with
  | nil =>
    cases found
    simp only [update, setDir]
    cases f pd <;> rfl
  | cons n rest inductionHypothesis =>
    rw [entryAt_cons] at found
    rw [update.eq_2]
    rcases held : Dir.entry? d n with _ | bs | inner
    · rw [held] at found
      cases found
    · rw [held] at found
      exact absurd found (Entry.atPath_file_ne_dir bs rest pd)
    · rw [held] at found
      simp only [Entry.atPath_dir] at found
      simp only [setDir, held, inductionHypothesis found]
      cases f pd <;> rfl

/-- The replaced directory is at its path. -/
theorem entryAt_setDir {d pd : Dir} {q : Path} (found : d.entryAt q = .ok (.dir pd)) (sub : Dir) :
    (d.setDir sub q).entryAt q = .ok (.dir sub) := by
  induction q generalizing d with
  | nil => rfl
  | cons n rest inductionHypothesis =>
    rw [entryAt_cons] at found
    rcases held : Dir.entry? d n with _ | bs | inner
    · rw [held] at found
      cases found
    · rw [held] at found
      exact absurd found (Entry.atPath_file_ne_dir bs rest pd)
    · rw [held] at found
      simp only [Entry.atPath_dir] at found
      simp only [setDir, held]
      rw [entryAt_cons, entry_put, if_pos rfl]
      simp only [Entry.atPath_dir]
      exact inductionHypothesis found

/-- Replacing the directory at a path twice leaves the second replacement. -/
theorem setDir_setDir {d pd : Dir} {q : Path} (found : d.entryAt q = .ok (.dir pd)) (a b : Dir) :
    (d.setDir a q).setDir b q = d.setDir b q := by
  induction q generalizing d with
  | nil => rfl
  | cons n rest inductionHypothesis =>
    rw [entryAt_cons] at found
    rcases held : Dir.entry? d n with _ | bs | inner
    · rw [held] at found
      cases found
    · rw [held] at found
      exact absurd found (Entry.atPath_file_ne_dir bs rest pd)
    · rw [held] at found
      simp only [Entry.atPath_dir] at found
      simp only [setDir, held, entry_put, if_pos, put_put, inductionHypothesis found]

/-- Replacing a directory by one with its directories at the same paths moves no directory. -/
theorem sameDirs_setDir {d pd sub : Dir} {q : Path} (found : d.entryAt q = .ok (.dir pd))
    (same : SameDirs pd sub) : SameDirs d (d.setDir sub q) := by
  induction q generalizing d with
  | nil =>
    cases found
    exact same
  | cons n rest inductionHypothesis =>
    rw [entryAt_cons] at found
    rcases held : Dir.entry? d n with _ | bs | inner
    · rw [held] at found
      cases found
    · rw [held] at found
      exact absurd found (Entry.atPath_file_ne_dir bs rest pd)
    · rw [held] at found
      simp only [Entry.atPath_dir] at found
      simp only [setDir, held]
      exact sameDirs_put_dir held (inductionHypothesis found)

/-! ## Files and listings -/

/-- A path with a last name splits into the path before it and that name. -/
theorem split?_snoc (q : Path) (n : String) : Path.split? (q ++ [n]) = some (q, n) := by
  simp [Path.split?]

/-- Appending to a file of a directory: the file gets the bytes at its end, or is created
with them when missing. -/
theorem writeFile_append {v pd : Dir} {p q : Path} {n : String} {old : List UInt8}
    (located : v.locate p = .ok (q ++ [n])) (found : v.entryAt q = .ok (.dir pd))
    (held : Dir.entry? pd n = some (.file old) ∨ (Dir.entry? pd n = none ∧ old = [])) (bytes : List UInt8) :
    v.writeFile p bytes true = .ok (v.setDir (pd.put n (.file (old ++ bytes))) q) := by
  simp only [writeFile, located, bind, Except.bind, split?_snoc]
  rw [update_of_entryAt found]
  rcases held with held | ⟨held, rfl⟩ <;> simp [held, Except.bind]

/-- Removing an entry of a directory: a file goes, a directory or a missing name is refused. -/
theorem removeFile_eq {v pd : Dir} {p q : Path} {n : String}
    (located : v.locate p = .ok (q ++ [n])) (found : v.entryAt q = .ok (.dir pd)) :
    v.removeFile p = match Dir.entry? pd n with
      | some (.file _) => .ok (v.setDir (pd.erase n) q)
      | some (.dir _) => .error .isADirectory
      | none => .error .notFound := by
  simp only [removeFile, located, bind, Except.bind, split?_snoc]
  rw [update_of_entryAt found]
  rcases Dir.entry? pd n with _ | _ | _ <;> rfl

/-- The bytes of a file of a directory. -/
theorem readFile_of_entry {v pd : Dir} {p q : Path} {n : String} {bs : List UInt8}
    (located : v.locate p = .ok (q ++ [n])) (found : v.entryAt q = .ok (.dir pd))
    (held : Dir.entry? pd n = some (.file bs)) : v.readFile p = .ok bs := by
  have there : v.entryAt (q ++ [n]) = .ok (.file bs) := entryAt_snoc.2 ⟨pd, found, held⟩
  simp [readFile, lookup, located, bind, Except.bind, there]

/-- The entries of a directory a path resolves to. -/
theorem list_of_entryAt {v pd : Dir} {p q : Path} (located : v.locate p = .ok q)
    (found : v.entryAt q = .ok (.dir pd)) : v.list p = .ok pd := by
  simp [list, lookup, located, bind, Except.bind, found]

/-- An entry is found at a path when the path resolves and the entry is at its resolution. -/
theorem lookup_eq_ok_iff {v : Dir} {p : Path} {e : Entry} :
    v.lookup p = .ok e ↔ ∃ q, v.locate p = .ok q ∧ v.entryAt q = .ok e := by
  simp only [lookup, bind, Except.bind]
  cases located : v.locate p with
  | error err => simp
  | ok q => simp

/-- Making a directory where an entry is fails. -/
theorem makeDir_of_lookup {v : Dir} {p : Path} {e : Entry} (found : v.lookup p = .ok e) :
    v.makeDir p = .error .alreadyExists := by
  obtain ⟨q, located, there⟩ := lookup_eq_ok_iff.1 found
  rcases List.eq_nil_or_concat' q with rfl | ⟨parent, n, rfl⟩
  · simp [makeDir, located, Path.split?, bind, Except.bind]
  · obtain ⟨pd, atParent, held⟩ := entryAt_snoc.1 there
    simp [makeDir, located, split?_snoc, update_of_entryAt atParent, held, bind, Except.bind]

/-- Creating the directories of a path that already is a directory changes nothing. -/
theorem createDirs_of_lookup {v sub : Dir} {p : Path} (found : v.lookup p = .ok (.dir sub)) :
    v.createDirs p = .ok v := by
  unfold createDirs
  cases p with
  | nil => rfl
  | cons n rest =>
    rw [List.length_cons, createDirs.go]
    simp [makeDir_of_lookup found, isDirAt, found]

end Dir

/-! ## A directory followed through writes -/

/-- The text-given path `p` resolves to `q`, where the directory `pd` is. -/
structure DirAt (v : Dir) (p q : Path) (pd : Dir) : Prop where
  located : v.locate p = .ok q
  found : v.entryAt q = .ok (.dir pd)

namespace DirAt

variable {v pd : Dir} {p q : Path}

/-- Replacing the directory by one with its directories at the same paths keeps it resolved
from the same path. -/
theorem setDir (there : DirAt v p q pd) {pd' : Dir} (same : Dir.SameDirs pd pd') :
    DirAt (v.setDir pd' q) p q pd' :=
  ⟨Dir.locate_of_sameDirs (Dir.sameDirs_setDir there.found same) there.located,
    Dir.entryAt_setDir there.found pd'⟩

/-- Appending to a file of the directory, or creating it: the directory stays where it is, with
the file appended. -/
theorem writeFile_append (there : DirAt v p q pd) {n : String} (plain : (n == "..") = false)
    (short : tooLong n = false) {old : List UInt8}
    (held : Dir.entry? pd n = some (.file old) ∨ (Dir.entry? pd n = none ∧ old = []))
    (bytes : List UInt8) :
    v.writeFile (p ++ [n]) bytes true = .ok (v.setDir (pd.put n (.file (old ++ bytes))) q) ∧
      DirAt (v.setDir (pd.put n (.file (old ++ bytes))) q) p q (pd.put n (.file (old ++ bytes))) := by
  have notDir : ∀ sub, Dir.entry? pd n ≠ some (.dir sub) := by
    intro sub isDir
    rcases held with file | ⟨none, -⟩
    · rw [isDir] at file
      cases file
    · rw [isDir] at none
      cases none
  exact ⟨Dir.writeFile_append (Dir.locate_snoc plain short there.located there.found) there.found
    held bytes, there.setDir (Dir.sameDirs_put_file notDir _)⟩

/-- A file whose name is too long cannot be written in the directory. -/
theorem writeFile_long (there : DirAt v p q pd) {n : String} (plain : (n == "..") = false)
    (long : tooLong n = true) (bytes : List UInt8) (append : Bool) :
    v.writeFile (p ++ [n]) bytes append = .error .nameTooLong := by
  simp [Dir.writeFile, Dir.locate_snoc_long plain long there.located there.found, bind,
    Except.bind]

/-- Removing an entry of the directory, as `Dir.removeFile_eq` says. -/
theorem removeFile (there : DirAt v p q pd) {n : String} (plain : (n == "..") = false)
    (short : tooLong n = false) :
    v.removeFile (p ++ [n]) = match Dir.entry? pd n with
      | some (.file _) => .ok (v.setDir (pd.erase n) q)
      | some (.dir _) => .error .isADirectory
      | none => .error .notFound :=
  Dir.removeFile_eq (Dir.locate_snoc plain short there.located there.found) there.found

/-- Once a file is removed, the directory stays where it is, without the file. -/
theorem erase (there : DirAt v p q pd) {n : String} {bs : List UInt8}
    (held : Dir.entry? pd n = some (.file bs)) :
    DirAt (v.setDir (pd.erase n) q) p q (pd.erase n) :=
  there.setDir (Dir.sameDirs_erase_file held)

/-- A path resolves to one directory. -/
theorem unique (there : DirAt v p q pd) {q' : Path} {pd' : Dir} (there' : DirAt v p q' pd') :
    pd = pd' := by
  have same : q = q' := by
    have both := there.located.symm.trans there'.located
    simpa using both
  subst same
  have both := there.found.symm.trans there'.found
  simpa using both

/-- Reading a file of the directory gives its bytes. -/
theorem readFile (there : DirAt v p q pd) {n : String} (plain : (n == "..") = false)
    (short : tooLong n = false) {bs : List UInt8} (held : Dir.entry? pd n = some (.file bs)) :
    v.readFile (p ++ [n]) = .ok bs :=
  Dir.readFile_of_entry (Dir.locate_snoc plain short there.located there.found) there.found held

/-- Listing the directory gives its entries. -/
theorem list (there : DirAt v p q pd) : v.list p = .ok pd :=
  Dir.list_of_entryAt there.located there.found

/-- A directory found at a path is where the path resolves. -/
theorem of_lookup (found : v.lookup p = .ok (.dir pd)) : ∃ q, DirAt v p q pd := by
  obtain ⟨q, located, there⟩ := Dir.lookup_eq_ok_iff.1 found
  exact ⟨q, located, there⟩

end DirAt

/-! ## Paths given as text -/

namespace Path

/-- Text is read as a path when it holds no NUL byte, is not empty and is short enough. -/
theorem read_eq_ok_iff {s : String} {p : Path} :
    read s = .ok p ↔
      '\x00' ∉ s.toList ∧ s ≠ "" ∧ s.utf8ByteSize < pathLimit ∧ p = ofString s := by
  have nul : s.any (· == '\x00') = true ↔ '\x00' ∈ s.toList := by
    simp [String.any, String.contains_bool_eq]
  unfold read
  split_ifs with hasNul empty long
  · simp [nul.1 hasNul]
  · simp [String.isEmpty_iff.1 empty]
  · simp only [false_iff, not_and]
    exact fun _ _ short => absurd short (Nat.not_lt.2 long)
  · rw [Except.ok.injEq]
    refine ⟨fun same => ⟨fun held => hasNul (nul.2 held), fun isEmpty => empty ?_, ?_, same.symm⟩,
      fun ⟨_, _, _, same⟩ => same.symm⟩
    · rw [isEmpty]
      rfl
    · omega

/-- A slash between two texts separates their names. -/
theorem ofString_append_slash (a b : String) : ofString (a ++ "/" ++ b) = ofString a ++ ofString b := by
  have chars : (a ++ "/" ++ b).toList = a.toList ++ '/' :: b.toList := by
    simp [String.toList_append]
  simp only [ofString, chars, List.splitOn_append_cons_self, List.map_append, List.filter_append]

/-- A text ending in a slash has its names separated from what follows it. -/
theorem ofString_append_of_getLast? {a : String} (slash : a.toList.getLast? = some '/') (b : String) :
    ofString (a ++ b) = ofString a ++ ofString b := by
  have split : a.toList = a.toList.dropLast ++ ['/'] :=
    (List.dropLast_append_getLast? '/' slash).symm
  have chars : (a ++ b).toList = a.toList.dropLast ++ '/' :: b.toList := by
    rw [String.toList_append, split]
    simp
  simp only [ofString, chars]
  rw [split]
  simp [List.splitOn_append_cons_self, List.map_append, List.filter_append]

/-- A name with no slash, other than the empty name and `.`, is a path of one name. -/
theorem ofString_name {name : String} (noSlash : '/' ∉ name.toList) (named : name ≠ "")
    (notDot : name ≠ ".") : ofString name = [name] := by
  have whole : name.toList.splitOn '/' = [name.toList] := List.splitOn_eq_singleton noSlash
  have empty : name.isEmpty = false := by
    cases held : name.isEmpty
    · rfl
    · exact absurd (String.isEmpty_iff.1 held) named
  simp [ofString, whole, empty, notDot]

/-- A plain name joined onto the text of a directory reads as the directory's path with the
name after it, as long as the whole text stays below the limit. -/
theorem read_joinText {dir name : String} {p : Path} (readable : read dir = .ok p)
    (noSlash : '/' ∉ name.toList) (noNul : '\x00' ∉ name.toList) (named : name ≠ "")
    (notDot : name ≠ ".") (fits : dir.utf8ByteSize + name.utf8ByteSize + 1 < pathLimit) :
    read (joinText dir name) = .ok (p ++ [name]) := by
  obtain ⟨dirNul, dirNamed, -, rfl⟩ := read_eq_ok_iff.1 readable
  have notRoot : (name.toList.head? == some '/') = false := by
    cases held : name.toList with
    | nil => rfl
    | cons c rest =>
      have other : c ≠ '/' := fun same => noSlash (by rw [held, same]; exact List.mem_cons_self)
      simp [other]
  have dirText : dir.isEmpty = false := by
    cases held : dir.isEmpty
    · rfl
    · exact absurd (String.isEmpty_iff.1 held) dirNamed
  have slashSize : "/".utf8ByteSize = 1 := rfl
  unfold joinText
  rw [notRoot, dirText, Bool.false_or, if_neg Bool.false_ne_true]
  split
  · rename_i endsSlash
    have slash : dir.toList.getLast? = some '/' := by simpa using endsSlash
    refine read_eq_ok_iff.2 ⟨?_, ?_, ?_, ?_⟩
    · simp [String.toList_append, dirNul, noNul]
    · intro empty
      exact dirNamed (String.append_eq_empty_iff.1 empty).1
    · rw [String.utf8ByteSize_append]
      omega
    · rw [ofString_append_of_getLast? slash, ofString_name noSlash named notDot]
  · refine read_eq_ok_iff.2 ⟨?_, ?_, ?_, ?_⟩
    · simp [String.toList_append, dirNul, noNul]
    · intro empty
      exact dirNamed (String.append_eq_empty_iff.1 (String.append_eq_empty_iff.1 empty).1).1
    · rw [String.utf8ByteSize_append, String.utf8ByteSize_append, slashSize]
      omega
    · rw [ofString_append_slash, ofString_name noSlash named notDot]

end Path

/-- Creating the directories of a text that names a directory changes nothing. -/
theorem Dir.createPath_of_lookup {v sub : Dir} {text : String} {p : Path}
    (readable : Path.read text = .ok p) (found : v.lookup p = .ok (.dir sub)) :
    v.createPath text = .ok v := by
  unfold Dir.createPath
  split
  · rfl
  · simp [readable, Dir.createDirs_of_lookup found, bind, Except.bind]

end Reachability.Files
