import Mathlib
import Reachability.Proofs.HourlyStore
import Reachability.Proofs.WindowBounds
import Reachability.Proofs.Except

/-!
# Retention: what a deletion pass removes, and when the drain gives up

A store deletes the files of hours that ended long enough ago. A deletion pass takes the
cutoff `now - retention`, lists the store's directory, reads an hour from each name of the
form `<prefix>-<hour stamp>.pb`, and goes through those files in order of hour, removing each
file whose hour ends at or before the cutoff.

Main statements:

* `retention_removes_exactly_expired_files`: over a directory as the system keeps it, a pass
  removes exactly the expired files of the store and changes nothing else of the volume: not
  the files of other prefixes, not names whose hour does not read, not directories, and not
  hours that end after the cutoff;
* `drain_reports_earlier_iff`: the drain ends with `earlierInstant`, the failure of the
  retention subtraction, exactly when the store is open and `now - retention` lies before the
  calendar;
* `cutoff_eq_none_iff`: for a retention of 32 bits and an instant outside a leap second,
  `now - retention` lies before the calendar exactly when `now` is fewer than `retention` hours
  after the calendar's first instant;
* `drain_fails_with_longest_retention`: so a store with the longest retention a
  configuration admits fails at its first drain at any instant before the year 227000.

A pass stops at a file of the calendar's last hour, whose end is past the calendar; the files
are sorted by hour, so every file after it starts in that hour too and none of them is
expired (`deleteOld_replaces`).
-/

namespace Reachability.Files

/-- Is the entry a file? -/
def Entry.isFile : Entry → Bool
  | .file _ => true
  | .dir _ => false

namespace Dir

/-- In a directory whose names are unique, an entry is the one its name finds. -/
theorem entry_of_mem {d : Dir} (unique : (d.map (·.1)).Nodup) {n : String} {e : Entry}
    (held : (n, e) ∈ d) : Dir.entry? d n = some e := by
  induction d with
  | nil => cases held
  | cons first rest inductionHypothesis =>
    obtain ⟨m, x⟩ := first
    simp only [List.map_cons, List.nodup_cons] at unique
    rcases List.mem_cons.1 held with same | later
    · cases same
      simp [entry_def]
    · have other : n ≠ m := by
        rintro rfl
        exact unique.1 (List.mem_map.2 ⟨(n, e), later, rfl⟩)
      have skip : (m == n) = false := beq_eq_false_iff_ne.2 (Ne.symm other)
      have found := inductionHypothesis unique.2 later
      simp only [entry_def, List.find?_cons, skip] at found ⊢
      exact found

end Dir

/-- The volume `v'` is the volume `v` with its directory at `q`, where the text-given path `p`
leads, replaced by `pd'`, or else `v` itself. Either way `pd'` is the directory at `p`, and
nothing outside it differs from `v`. -/
structure Replaced (v : Dir) (p q : Path) (pd' : Dir) (v' : Dir) : Prop where
  there : DirAt v' p q pd'
  frame : v' = v ∨ v' = v.setDir pd' q

namespace Replaced

variable {v : Dir} {p q : Path} {pd : Dir}

/-- A volume is its own replacement of a directory it has. -/
theorem refl (there : DirAt v p q pd) : Replaced v p q pd v := ⟨there, .inl rfl⟩

/-- Erasing a file from the directory at a path replaces that directory. -/
theorem erase (there : DirAt v p q pd) {n : String} {bs : List UInt8}
    (held : Dir.entry? pd n = some (.file bs)) :
    Replaced v p q (pd.erase n) (v.setDir (pd.erase n) q) :=
  ⟨there.erase held, .inr rfl⟩

/-- Two replacements in a row are one: the second directory replaces the first. -/
theorem trans (there : DirAt v p q pd) {pd₁ pd₂ v₁ v₂ : Dir} (first : Replaced v p q pd₁ v₁)
    (second : Replaced v₁ p q pd₂ v₂) : Replaced v p q pd₂ v₂ := by
  refine ⟨second.there, ?_⟩
  rcases second.frame with same | replaced
  · subst same
    have sameDir : pd₁ = pd₂ := first.there.unique second.there
    subst sameDir
    exact first.frame
  · rcases first.frame with same | earlier
    · subst same
      exact .inr replaced
    · rw [replaced, earlier, Dir.setDir_setDir there.found]
      exact .inr rfl

end Replaced

end Reachability.Files

namespace Reachability.Time

namespace HourStamp

/-- A text read as a date, hour and minute names a whole second inside the calendar. -/
theorem readMinute_eq_some {cs : List Char} {t : Instant} (read : readMinute cs = some t) :
    t.nanos = 0 ∧ Instant.inRange t.secs = true := by
  unfold readMinute at read
  simp only [Option.bind_eq_bind, Option.bind_eq_some_iff] at read
  obtain ⟨_, -, _, -, _, -, rest⟩ := read
  split at rest
  · simp only [Option.bind_some, Option.bind_eq_some_iff] at rest
    obtain ⟨_, -, _, -, final⟩ := rest
    simp only [Option.bind_none] at final
    split_ifs at final with trailing invalid outside
    cases final
    exact ⟨rfl, by simpa using outside⟩
  · cases rest

/-- An hour stamp reads as a whole second inside the calendar. -/
theorem read?_eq_some {stamp : String} {t : Instant} (read : read? stamp = some t) :
    t.nanos = 0 ∧ Instant.inRange t.secs = true := by
  unfold read? at read
  simp only [Option.bind_eq_bind, Option.bind_eq_some_iff] at read
  obtain ⟨u, minute, rest⟩ := read
  split_ifs at rest
  cases rest
  exact readMinute_eq_some minute

end HourStamp

namespace Span

/-- A retention of 32 bits is a span of whole hours. -/
theorem ofHours?_of_lt {r : Nat} (fits : r < Nat.pow 2 32) :
    Span.ofHours? r = some ⟨(r * 3600 * nanosPerSecond : Nat)⟩ := by
  have largest : Span.maxNanos / (nanosPerSecond : Int) = 9223372036854775 := by decide
  have word : Nat.pow 2 32 = 4294967296 := rfl
  unfold Span.ofHours?
  rw [largest, if_pos (by omega)]

/-- For a retention of 32 bits and an instant outside a leap second, `now - retention` lies
before the calendar exactly when `now` is fewer than `retention` hours after the calendar's
first instant. -/
theorem cutoff_eq_none_iff {now : Instant} (valid : now.isValid = true)
    (plain : now.isLeap = false) {r : Nat} (fits : r < Nat.pow 2 32) :
    (Span.ofHours? r).bind now.unshift? = none ↔ now.secs < Instant.minSecs + 3600 * r := by
  have fraction : now.nanos < nanosPerSecond := by
    simpa [Instant.isLeap, nanosPerSecond] using plain
  have back : Instant.ofNanos (now.totalNanos + (Span.neg ⟨((r * 3600 * nanosPerSecond : Nat) : Int)⟩).nanos) =
      ⟨now.secs - 3600 * r, now.nanos⟩ := by
    simp only [Instant.ofNanos, Instant.totalNanos, Span.neg, nanosPerSecond, Instant.mk.injEq] at fraction ⊢
    omega
  have inside : Instant.inRange now.secs = true := by
    simp only [Instant.isValid, Bool.and_eq_true] at valid
    exact valid.1
  rw [ofHours?_of_lt fits, Option.bind_some, Instant.unshift?, Instant.shift?_of_not_leap plain, back]
  simp only [Instant.inRange, Bool.and_eq_true, decide_eq_true_eq] at inside ⊢
  split
  · rename_i after
    simp only [reduceCtorEq, false_iff, not_lt]
    omega
  · rename_i before
    simp only [true_iff]
    omega

end Span

end Reachability.Time

namespace Reachability.History

open Reachability.Time
open Reachability.Files
open Reachability.Probe

/-- An hour that starts on a whole second ends an hour later, when that is inside the
calendar. -/
theorem shift?_oneHour {start : Instant} (whole : start.nanos = 0) :
    start.shift? oneHour =
      if Instant.inRange (start.secs + 3600) then some ⟨start.secs + 3600, 0⟩ else none := by
  have plain : start.isLeap = false := by
    simp [Instant.isLeap, whole, nanosPerSecond]
  have next : Instant.ofNanos (start.totalNanos + oneHour.nanos) = ⟨start.secs + 3600, 0⟩ := by
    simp only [Instant.ofNanos, Instant.totalNanos, oneHour, nanosPerSecond, whole,
      Instant.mk.injEq]
    omega
  rw [Instant.shift?_of_not_leap plain, next]

/-- Of two hours inside the calendar, the later one has no end inside it when the earlier one
has none: only the calendar's last hour has no end. -/
theorem shift?_oneHour_eq_none_of_le {a b : Instant} (wholeA : a.nanos = 0)
    (insideA : Instant.inRange a.secs = true) (wholeB : b.nanos = 0) (earlier : a ≤ b)
    (last : a.shift? oneHour = none) : b.shift? oneHour = none := by
  rw [shift?_oneHour wholeA] at last
  rw [shift?_oneHour wholeB]
  have lastA : Instant.inRange (a.secs + 3600) = false := by
    cases inside : Instant.inRange (a.secs + 3600)
    · rfl
    · simp [inside] at last
  have ordered : a.secs ≤ b.secs := by
    rw [Instant.le_iff] at earlier
    omega
  have lastB : Instant.inRange (b.secs + 3600) = false := by
    simp only [Instant.inRange, Bool.and_eq_true, Bool.and_eq_false_iff, decide_eq_true_eq,
      decide_eq_false_iff_not, not_le] at insideA lastA ⊢
    omega
  simp [lastB]

namespace HourlyStore

variable (s : HourlyStore)

/-! ## The names of the store's files -/

/-- A name the store reads an hour from is one of its file names: the prefix, a dash, the
hour part and `.pb`. -/
theorem eq_fileName_of_hourOf {name : String} {start : Instant}
    (found : s.hourOf name = some start) : ∃ hour, name = s.fileName hour := by
  unfold hourOf at found
  dsimp only at found
  split_ifs at found with named
  simp only [Bool.and_eq_true, List.isPrefixOf_iff_prefix, List.isSuffixOf_iff_suffix,
    decide_eq_true_eq] at named
  obtain ⟨⟨⟨rest, split⟩, suffix⟩, long⟩ := named
  set head := (s.filePrefix ++ "-").toList
  have three : ".pb".toList.length = 3 := rfl
  rw [← split, List.length_append] at long
  -- the last three characters of the name are those of the rest after the prefix
  have ending : rest.drop (rest.length - 3) = ".pb".toList := by
    rw [List.suffix_iff_eq_drop, ← split] at suffix
    rw [suffix, List.drop_append, List.length_append, three,
      List.drop_eq_nil_of_le (show head.length ≤ head.length + rest.length - 3 by omega),
      List.nil_append, show head.length + rest.length - 3 - head.length = rest.length - 3 by omega]
  refine ⟨String.ofList (rest.take (rest.length - 3)), String.ext ?_⟩
  rw [toList_fileName, String.toList_ofList, ← split, ← ending, List.take_append_drop]

/-- The store reads an hour exactly from its file names `<prefix>-<hour>.pb` whose hour part
reads as an hour stamp: a name of another prefix, even one that extends this prefix, gives
none. -/
theorem hourOf_eq_some_iff {name : String} {start : Instant} :
    s.hourOf name = some start ↔
      ∃ hour, name = s.fileName hour ∧ HourStamp.read? hour = some start := by
  constructor
  · intro found
    obtain ⟨hour, rfl⟩ := s.eq_fileName_of_hourOf found
    exact ⟨hour, rfl, s.hourOf_fileName_eq hour ▸ found⟩
  · rintro ⟨hour, rfl, read⟩
    rw [hourOf_fileName_eq, read]

/-! ## One deletion pass -/

variable (cutoff : Instant)

/-- Does the name give an hour of the store that ends at or before the cutoff? -/
def expires (name : String) : Bool :=
  match s.hourOf name with
  | some start =>
    match start.shift? oneHour with
    | some stop => decide (stop ≤ cutoff)
    | none => false
  | none => false

/-- The entries a deletion pass removes: files whose names expire. -/
def expiredEntry (entry : String × Entry) : Bool := entry.2.isFile && s.expires cutoff entry.1

/-- The directory without the expired entries among the names `names`. -/
def withoutExpired (names : List String) (pd : Dir) : Dir :=
  pd.filter fun entry => !(decide (entry.1 ∈ names) && s.expiredEntry cutoff entry)

/-- A file expires when its name gives an hour that ends by the cutoff. -/
theorem expires_iff (name : String) :
    s.expires cutoff name = true ↔
      ∃ start stop, s.hourOf name = some start ∧ start.shift? oneHour = some stop ∧
        stop ≤ cutoff := by
  unfold expires
  cases found : s.hourOf name with
  | none => simp
  | some start =>
    cases shifted : start.shift? oneHour with
    | none => simp [shifted]
    | some stop => simp [shifted]

/-- An entry expires when it is a file named `<prefix>-<hour>.pb` whose hour part reads as an
hour that ends at or before the cutoff. -/
theorem expiredEntry_iff (entry : String × Entry) :
    s.expiredEntry cutoff entry = true ↔
      entry.2.isFile = true ∧ ∃ hour start stop, entry.1 = s.fileName hour ∧
        HourStamp.read? hour = some start ∧ start.shift? oneHour = some stop ∧ stop ≤ cutoff := by
  rw [expiredEntry, Bool.and_eq_true, expires_iff]
  constructor
  · rintro ⟨file, start, stop, found, shifted, due⟩
    obtain ⟨hour, named, read⟩ := (s.hourOf_eq_some_iff).1 found
    exact ⟨file, hour, start, stop, named, read, shifted, due⟩
  · rintro ⟨file, hour, start, stop, named, read, shifted, due⟩
    exact ⟨file, start, stop, (s.hourOf_eq_some_iff).2 ⟨hour, named, read⟩, shifted, due⟩

/-- Going through names one after the other: the first name's expired entry goes, then those of
the rest. -/
theorem withoutExpired_cons (pd : Dir) (name : String) (rest : List String) :
    s.withoutExpired cutoff (name :: rest) pd =
      s.withoutExpired cutoff rest (s.withoutExpired cutoff [name] pd) := by
  simp only [withoutExpired, List.filter_filter]
  apply List.filter_congr
  intro entry _
  cases s.expiredEntry cutoff entry <;> simp [Bool.and_comm]

/-- A name outside those a pass goes through keeps its entry. -/
theorem mem_withoutExpired_of_not_mem {pd : Dir} {names : List String} {n : String}
    (outside : n ∉ names) (member : n ∈ pd.map (·.1)) :
    n ∈ (s.withoutExpired cutoff names pd).map (·.1) := by
  obtain ⟨entry, held, rfl⟩ := List.mem_map.1 member
  exact List.mem_map_of_mem (List.mem_filter.2 ⟨held, by simp [outside]⟩)

/-- A name whose entry is not removed leaves the directory as it is. -/
theorem withoutExpired_singleton_of_kept {pd : Dir} {name : String}
    (kept : ∀ entry ∈ pd, entry.1 = name → s.expiredEntry cutoff entry = false) :
    s.withoutExpired cutoff [name] pd = pd := by
  apply List.filter_eq_self.2
  intro entry held
  by_cases named : entry.1 = name
  · simp [named, kept entry held named]
  · simp [named]

/-- A name whose entry is an expired file removes that file and nothing else. -/
theorem withoutExpired_singleton_erase {pd : Dir} (unique : (pd.map (·.1)).Nodup) {name : String}
    {bs : List UInt8} (held : Dir.entry? pd name = some (.file bs))
    (due : s.expires cutoff name = true) :
    s.withoutExpired cutoff [name] pd = pd.erase name := by
  simp only [withoutExpired, Dir.erase]
  apply List.filter_congr
  rintro ⟨n, e⟩ member
  by_cases named : n = name
  · subst named
    have same : e = .file bs := by
      rw [Dir.entry_of_mem unique member] at held
      exact Option.some.inj held
    subst same
    simp [expiredEntry, Entry.isFile, due]
  · simp [named]

/-- The order `hourFiles` sorts by: hour, then name. -/
abbrev fileOrder (a b : Instant × String) : Bool := decide (a.1 < b.1 ∨ (a.1 = b.1 ∧ a.2 ≤ b.2))

/-- The order of hour files is transitive. -/
theorem fileOrder_trans (a b c : Instant × String) (first : fileOrder a b = true)
    (second : fileOrder b c = true) : fileOrder a c = true := by
  simp only [fileOrder, decide_eq_true_eq] at *
  rcases first with earlier | ⟨same, named⟩ <;> rcases second with later | ⟨same', named'⟩
  · exact .inl (Instant.lt_trans earlier later)
  · exact .inl (same' ▸ earlier)
  · exact .inl (same ▸ later)
  · exact .inr ⟨same.trans same', le_trans named named'⟩

/-- Any two hour files compare one way or the other. -/
theorem fileOrder_total (a b : Instant × String) : (fileOrder a b || fileOrder b a) = true := by
  simp only [fileOrder, Bool.or_eq_true, decide_eq_true_eq]
  rcases Instant.le_total a.1 b.1 with ab | ba
  · by_cases same : a.1 = b.1
    · rcases le_total a.2 b.2 with named | named
      · exact .inl (.inr ⟨same, named⟩)
      · exact .inr (.inr ⟨same.symm, named⟩)
    · exact .inl (.inl (Instant.not_le_iff.1 fun later =>
        same (Instant.le_antisymm ab later)))
  · by_cases same : b.1 = a.1
    · rcases le_total a.2 b.2 with named | named
      · exact .inl (.inr ⟨same.symm, named⟩)
      · exact .inr (.inr ⟨same, named⟩)
    · exact .inr (.inl (Instant.not_le_iff.1 fun later =>
        same (Instant.le_antisymm ba later)))

/-- The store's files, in order of hour. -/
theorem hourFiles_eq {v pd : Dir} {p q : Path} (readable : Path.read s.dir = .ok p)
    (there : DirAt v p q pd) : s.hourFiles v = .ok ((s.filesOf pd).mergeSort fileOrder) := by
  simp only [hourFiles, readable, there.list, bind, Except.bind, pure, Except.pure, filesOf]

/-- At a file of the calendar's last hour a pass stops. The files after it, in order of hour,
start in that hour too, so no name from there on has expired. -/
theorem withoutExpired_of_last_hour {pd : Dir} {start : Instant} {name : String}
    {rest : List (Instant × String)} (named : s.hourOf name = some start)
    (last : start.shift? oneHour = none) (later : ∀ f ∈ rest, start ≤ f.1)
    (listed : ∀ f ∈ rest, s.hourOf f.2 = some f.1) :
    s.withoutExpired cutoff (name :: rest.map (·.2)) pd = pd := by
  have whole := HourStamp.read?_eq_some ((s.hourOf_eq_some_iff.1 named).choose_spec.2)
  have lastToo : ∀ f ∈ rest, f.1.shift? oneHour = none := by
    intro f held
    obtain ⟨hour, -, read⟩ := s.hourOf_eq_some_iff.1 (listed f held)
    exact shift?_oneHour_eq_none_of_le whole.1 whole.2 (HourStamp.read?_eq_some read).1
      (later f held) last
  apply List.filter_eq_self.2
  intro entry _
  simp only [Bool.not_eq_eq_eq_not, Bool.not_true, Bool.and_eq_false_imp,
    decide_eq_true_eq, List.mem_cons, List.mem_map]
  rintro (same | ⟨f, held, same⟩)
  · simp [expiredEntry, expires, same, named, last]
  · simp [expiredEntry, expires, ← same, listed f held, lastToo f held]

/-- The step of a deletion pass, at a file of the store whose hour has an end: an expired file
is removed, anything else under its name stays, and the pass goes on with the rest from there. -/
theorem deleteOld_cons {p q : Path} (readable : Path.read s.dir = .ok p) {v pd : Dir}
    (there : DirAt v p q pd) (unique : (pd.map (·.1)).Nodup) {start stop : Instant}
    {name : String} (plainName : PlainName s.dir name) (member : name ∈ pd.map (·.1))
    (named : s.hourOf name = some start) (shifted : start.shift? oneHour = some stop)
    (rest : List (Instant × String)) :
    ∃ v₁, Replaced v p q (s.withoutExpired cutoff [name] pd) v₁ ∧
      s.deleteOld cutoff ((start, name) :: rest) v = s.deleteOld cutoff rest v₁ := by
  have path := s.pathOf_plain readable plainName
  have remove := there.removeFile plainName.notUp plainName.short
  by_cases due : stop ≤ cutoff
  · obtain ⟨e, found⟩ := Dir.mem_names_iff.1 member
    cases e with
    | file bs =>
      -- the hour has ended by the cutoff: the file goes
      have expiresName : s.expires cutoff name = true := by
        simp [expires, named, shifted, due]
      refine ⟨v.setDir (pd.erase name) q, ?_, ?_⟩
      · rw [s.withoutExpired_singleton_erase cutoff unique found expiresName]
        exact Replaced.erase there found
      · simp [deleteOld, shifted, due, path, bind, Except.bind, remove, found]
    | dir sub =>
      -- a directory is refused, and stays
      have notFile (entry : String × Entry) (held : entry ∈ pd) (same : entry.1 = name) :
          s.expiredEntry cutoff entry = false := by
        obtain ⟨n, e⟩ := entry
        simp only at same
        subst same
        rw [Dir.entry_of_mem unique held] at found
        cases found
        rfl
      refine ⟨v, ?_, ?_⟩
      · rw [s.withoutExpired_singleton_of_kept cutoff notFile]
        exact Replaced.refl there
      · simp [deleteOld, shifted, due, path, bind, Except.bind, remove, found]
  · -- the hour ends after the cutoff: the file stays
    have kept (entry : String × Entry) (_ : entry ∈ pd) (same : entry.1 = name) :
        s.expiredEntry cutoff entry = false := by
      simp [expiredEntry, expires, same, named, shifted, due]
    refine ⟨v, ?_, ?_⟩
    · rw [s.withoutExpired_singleton_of_kept cutoff kept]
      exact Replaced.refl there
    · simp [deleteOld, shifted, due]

/-- The run lemma of a deletion pass: going through the store's files in order of hour, each
named once and each an entry of the directory, the pass removes the expired ones and changes
nothing else. The induction is on the files, each step given by `deleteOld_cons`; at a file of
the calendar's last hour the pass stops (`withoutExpired_of_last_hour`). -/
theorem deleteOld_replaces {p q : Path} (readable : Path.read s.dir = .ok p) :
    ∀ {files : List (Instant × String)} {v pd : Dir}, DirAt v p q pd →
      (pd.map (·.1)).Nodup → (∀ n ∈ pd.map (·.1), HourlyStore.PlainName s.dir n) →
      files.Pairwise (fun a b => a.1 ≤ b.1) → (files.map (·.2)).Nodup →
      (∀ f ∈ files, s.hourOf f.2 = some f.1 ∧ f.2 ∈ pd.map (·.1)) →
      Replaced v p q (s.withoutExpired cutoff (files.map (·.2)) pd) (s.deleteOld cutoff files v).1
  | [], v, pd, there, _, _, _, _, _ => by
    have none : s.withoutExpired cutoff [] pd = pd := by simp [withoutExpired]
    simpa [deleteOld, none] using Replaced.refl there
  | (start, name) :: rest, v, pd, there, unique, plain, sorted, distinct, listed => by
    obtain ⟨named, member⟩ := listed (start, name) List.mem_cons_self
    have restListed : ∀ f ∈ rest, s.hourOf f.2 = some f.1 ∧ f.2 ∈ pd.map (·.1) :=
      fun f held => listed f (List.mem_cons_of_mem _ held)
    rw [List.map_cons]
    cases shifted : start.shift? oneHour with
    | none =>
      rw [s.withoutExpired_of_last_hour cutoff named shifted
        (fun f held => List.rel_of_pairwise_cons sorted held) fun f held => (restListed f held).1]
      simpa [deleteOld, shifted] using Replaced.refl there
    | some stop =>
      obtain ⟨v₁, first, step⟩ :=
        s.deleteOld_cons cutoff readable there unique (plain name member) member named shifted rest
      -- the rest of the pass goes on in the directory this file leaves, which holds every later
      -- name, each once and plain
      have shrinks : ((s.withoutExpired cutoff [name] pd).map (·.1)).Sublist (pd.map (·.1)) :=
        List.filter_sublist.map _
      have fresh : name ∉ rest.map (·.2) := (List.nodup_cons.1 distinct).1
      have stillListed : ∀ f ∈ rest, f.2 ∈ (s.withoutExpired cutoff [name] pd).map (·.1) := by
        intro f held
        have other : f.2 ≠ name := fun same => fresh (List.mem_map.2 ⟨f, held, same⟩)
        exact s.mem_withoutExpired_of_not_mem cutoff (by simpa using other) (restListed f held).2
      rw [step, s.withoutExpired_cons cutoff]
      exact first.trans there (deleteOld_replaces readable first.there (unique.sublist shrinks)
        (fun n held => plain n (shrinks.subset held)) sorted.of_cons (List.nodup_cons.1 distinct).2
        fun f held => ⟨(restListed f held).1, stillListed f held⟩)

/-- A deletion pass at a cutoff inside the calendar removes the expired files of the store's
directory and changes nothing else of the volume. -/
theorem expire_replaces {v pd : Dir} {p q : Path} {now cutoff : Instant}
    (readable : Path.read s.dir = .ok p) (there : DirAt v p q pd) (unique : (pd.map (·.1)).Nodup)
    (plain : ∀ n ∈ pd.map (·.1), PlainName s.dir n)
    (cut : (Span.ofHours? s.retentionHours).bind now.unshift? = some cutoff) :
    Replaced v p q (pd.filter fun entry => !s.expiredEntry cutoff entry) (s.expire now v).1 := by
  have perm := List.mergeSort_perm (s.filesOf pd) fileOrder
  -- every expired entry is among the files the pass goes through
  have all : s.withoutExpired cutoff (((s.filesOf pd).mergeSort fileOrder).map (·.2)) pd =
      pd.filter fun entry => !s.expiredEntry cutoff entry := by
    apply List.filter_congr
    intro entry held
    cases expired : s.expiredEntry cutoff entry
    · simp
    · have due : s.expires cutoff entry.1 = true := by
        simp only [expiredEntry, Bool.and_eq_true] at expired
        exact expired.2
      obtain ⟨start, -, found, -, -⟩ := (s.expires_iff cutoff entry.1).1 due
      have listed : (start, entry.1) ∈ s.filesOf pd :=
        s.mem_filesOf.2 ⟨List.mem_map_of_mem held, found⟩
      have named : entry.1 ∈ ((s.filesOf pd).mergeSort fileOrder).map (·.2) :=
        List.mem_map.2 ⟨_, perm.mem_iff.2 listed, rfl⟩
      simp [named]
  have sorted : ((s.filesOf pd).mergeSort fileOrder).Pairwise fun a b => a.1 ≤ b.1 := by
    refine (List.pairwise_mergeSort fileOrder_trans fileOrder_total _).imp fun {a b} ordered => ?_
    simp only [fileOrder, decide_eq_true_eq] at ordered
    rcases ordered with earlier | ⟨same, -⟩
    · exact Instant.le_of_lt earlier
    · exact same ▸ Instant.le_refl _
  have distinct : (((s.filesOf pd).mergeSort fileOrder).map (·.2)).Nodup :=
    (perm.map _).nodup_iff.2 (unique.sublist (s.sublist_names_filesOf pd))
  have listed : ∀ f ∈ (s.filesOf pd).mergeSort fileOrder,
      s.hourOf f.2 = some f.1 ∧ f.2 ∈ pd.map (·.1) := by
    intro f held
    obtain ⟨named, found⟩ := s.mem_filesOf.1 (perm.mem_iff.1 held)
    exact ⟨found, named⟩
  rw [← all]
  simp only [expire, cut, s.hourFiles_eq readable there]
  exact s.deleteOld_replaces cutoff readable there unique plain sorted distinct listed

/-- Retention deletes exactly the expired files of its own store. Over a directory as the
system keeps it (names unique, each a plain name whose path, the store's directory text with
`/` and the name, is under the path limit of 4096 bytes), with `now - retention` inside the
calendar, a deletion pass leaves in the directory exactly the entries that are not files named
`<prefix>-<hour>.pb` whose hour part reads as an hour ending at or before `now - retention`, in
their order, and changes nothing else of the volume. The path limit holds of every file the
store wrote, which it created through that path. -/
theorem retention_removes_exactly_expired_files {v pd : Dir} {p q : Path} {now cutoff : Instant}
    (readable : Path.read s.dir = .ok p) (there : DirAt v p q pd) (unique : (pd.map (·.1)).Nodup)
    (plain : ∀ n ∈ pd.map (·.1), PlainName s.dir n)
    (cut : (Span.ofHours? s.retentionHours).bind now.unshift? = some cutoff) :
    ∃ pd', Replaced v p q pd' (s.expire now v).1 ∧ pd'.Sublist pd ∧
      ∀ entry ∈ pd, entry ∈ pd' ↔ ¬ (entry.2.isFile = true ∧ ∃ hour start stop,
        entry.1 = s.fileName hour ∧ HourStamp.read? hour = some start ∧
          start.shift? oneHour = some stop ∧ stop ≤ cutoff) := by
  refine ⟨_, s.expire_replaces readable there unique plain cut, List.filter_sublist,
    fun entry held => ?_⟩
  rw [List.mem_filter, ← expiredEntry_iff]
  simp [held]

/-! ## When the drain gives up -/

/-- A deletion pass reports nothing, or the end of the calendar's last hour. -/
theorem deleteOld_fault (files : List (Instant × String)) (v : Dir) :
    (s.deleteOld cutoff files v).2 = none ∨ (s.deleteOld cutoff files v).2 = some .laterInstant := by
  induction files generalizing v with
  | nil => exact .inl rfl
  | cons f rest inductionHypothesis =>
    obtain ⟨start, name⟩ := f
    rw [deleteOld]
    split
    · exact .inr rfl
    · exact inductionHypothesis _

/-- With `now - retention` before the calendar, a deletion pass stops at once with the
subtraction's failure. -/
theorem expire_of_cutoff_none {now : Instant}
    (before : (Span.ofHours? s.retentionHours).bind now.unshift? = none) (v : Dir) :
    s.expire now v = (v, some .earlierInstant) := by
  simp [expire, before]

/-- With `now - retention` inside the calendar, a deletion pass never reports the
subtraction's failure. -/
theorem expire_fault_ne_earlier {now : Instant}
    (cut : (Span.ofHours? s.retentionHours).bind now.unshift? = some cutoff) (v : Dir) :
    (s.expire now v).2 ≠ some .earlierInstant := by
  simp only [expire, cut]
  split
  · simp
  · rename_i files _
    rcases s.deleteOld_fault cutoff files v with quiet | last
    · simp [quiet]
    · simp [last]

/-- Writing a batch reports only what its deletion passes report: with `now - retention`
inside the calendar, never the subtraction's failure. The induction is on the batch. -/
theorem writeAll_fault_ne_earlier {now : Instant}
    (cut : (Span.ofHours? s.retentionHours).bind now.unshift? = some cutoff) :
    ∀ (batch : List Observation) (current : Option Current) (v : Dir),
      (s.writeAll now batch current v).2 ≠ .fault .earlierInstant
  | [], _, _ => by simp [writeAll]
  | o :: rest, current, v => by
    -- reopening a file reports what the deletion pass after it reports
    have reopened {v path hour v' c fault} (opened : writeAll.reopen s now v path hour = .ok (v', c, fault)) :
        fault ≠ some .earlierInstant := by
      unfold writeAll.reopen at opened
      obtain ⟨w, -, finished⟩ := Except.bind_eq_ok_iff.1 opened
      simp only [Except.pure_eq_ok_iff, Prod.mk.injEq] at finished
      rw [← finished.2.2]
      exact s.expire_fault_ne_earlier cutoff cut w
    rw [writeAll]
    dsimp only
    split
    · simp
    · -- the hour's file is open already, or is opened now
      cases current with
      | none =>
        dsimp only
        split
        · simp
        · next opened => simpa using reopened opened
        · exact writeAll_fault_ne_earlier cut rest _ _
      | some c =>
        dsimp only
        by_cases same : c.hour = o.time.hourStamp
        · simp only [same, if_true]
          exact writeAll_fault_ne_earlier cut rest _ _
        · simp only [same, if_false]
          split
          · simp
          · next opened => simpa using reopened opened
          · exact writeAll_fault_ne_earlier cut rest _ _

/-- Writing batches reports only what the batches report: with `now - retention` inside the
calendar, never the subtraction's failure. The induction is on the batches. -/
theorem writeBatches_fault_ne_earlier {now : Instant}
    (cut : (Span.ofHours? s.retentionHours).bind now.unshift? = some cutoff) :
    ∀ (batches : List (List Observation)) (current : Option Current) (v : Dir),
      (s.writeBatches now batches current v).2 ≠ some .earlierInstant
  | [], _, _ => by simp [writeBatches]
  | batch :: later, current, v => by
    have first := s.writeAll_fault_ne_earlier cutoff cut batch current v
    rw [writeBatches]
    split
    · exact writeBatches_fault_ne_earlier cut later _ _
    · exact writeBatches_fault_ne_earlier cut later _ _
    · next written =>
      rw [written] at first
      simpa using first

/-- A drain, whatever the batches it receives the queue in, ends with the failure of the
retention subtraction exactly when the store is open and `now - retention` lies before the
calendar. -/
theorem drainBatches_reports_earlier_iff (now : Instant) (batches : List (List Observation))
    (v : Dir) :
    (s.drainBatches now batches v).2.2 = some .earlierInstant ↔
      s.open_ = true ∧ (Span.ofHours? s.retentionHours).bind now.unshift? = none := by
  unfold drainBatches
  cases isOpen : s.open_ with
  | false => simp
  | true =>
    cases cut : (Span.ofHours? s.retentionHours).bind now.unshift? with
    | none => simp [s.expire_of_cutoff_none cut]
    | some cutoff =>
      simp only [Bool.not_true, Bool.false_eq_true, if_false, reduceCtorEq, and_false, iff_false]
      split
      · rename_i fault expired
        have other := s.expire_fault_ne_earlier cutoff cut v
        rw [expired] at other
        exact other
      · exact s.writeBatches_fault_ne_earlier cutoff cut _ none _

/-- The drain ends with the failure of the retention subtraction exactly when the store is open
and `now - retention` lies before the calendar; whatever the queue, the observations' times and
the directory. -/
theorem drain_reports_earlier_iff (now : Instant) (v : Dir) :
    (s.drain now v).2.2 = some .earlierInstant ↔
      s.open_ = true ∧ (Span.ofHours? s.retentionHours).bind now.unshift? = none :=
  s.drainBatches_reports_earlier_iff now [s.queue] v

/-- A store with the longest retention a configuration admits, `2^32 - 1` hours, fails at its
first drain at any instant outside a leap second before second 7127281033200, in the year
227823: `now - retention` then lies before the calendar's first day. -/
theorem drain_fails_with_longest_retention {now : Instant} (valid : now.isValid = true)
    (plain : now.isLeap = false) (early : now.secs < 7127281033200) (isOpen : s.open_ = true)
    (longest : s.retentionHours = Nat.pow 2 32 - 1) (v : Dir) :
    s.drain now v = (v, { s with queue := [], open_ := false }, some .earlierInstant) := by
  have fits : s.retentionHours < Nat.pow 2 32 := by
    rw [longest]
    decide
  have word : Nat.pow 2 32 = 4294967296 := rfl
  have before := (Span.cutoff_eq_none_iff valid plain fits).2 (by
    rw [longest, word]
    simp only [Instant.minSecs]
    omega)
  simp [drain, drainBatches, isOpen, s.expire_of_cutoff_none before]

end HourlyStore

/-- A store whose files are: one of an hour that has ended an hour before `now`, one of the
hour that ends at `now`, one of another prefix, one whose hour does not read, and a directory
named like an expired file. With a retention of one hour the hypotheses hold, and so does the
pass's description. -/
theorem retention_removes_one_of_five_entries :
    let s : HourlyStore := { dir := "store", filePrefix := "agent", retentionHours := 1 }
    let pd : Dir := [("agent-20991231-22.pb", .file []), ("agent-20991231-23.pb", .file []),
      ("other-20240101-00.pb", .file []), ("agent-hour.pb", .file []),
      ("agent-20240101-00.pb", .dir [])]
    let v : Dir := [("store", .dir pd)]
    Path.read s.dir = .ok ["store"] ∧ DirAt v ["store"] ["store"] pd ∧ (pd.map (·.1)).Nodup ∧
      (Span.ofHours? s.retentionHours).bind (Instant.unshift? ⟨4102444800, 0⟩) =
        some ⟨4102441200, 0⟩ ∧
      ∃ pd', Replaced v ["store"] ["store"] pd' (s.expire ⟨4102444800, 0⟩ v).1 ∧ pd'.Sublist pd ∧
        ∀ entry ∈ pd, entry ∈ pd' ↔ ¬ (entry.2.isFile = true ∧ ∃ hour start stop,
          entry.1 = s.fileName hour ∧ HourStamp.read? hour = some start ∧
            start.shift? oneHour = some stop ∧ stop ≤ ⟨4102441200, 0⟩) := by
  intro s pd v
  have readable : Path.read s.dir = .ok ["store"] :=
    Path.read_eq_ok_iff.2 ⟨by decide, by decide, by decide, by decide⟩
  have there : DirAt v ["store"] ["store"] pd := ⟨rfl, rfl⟩
  have unique : (pd.map (·.1)).Nodup := by decide
  have cut : (Span.ofHours? s.retentionHours).bind (Instant.unshift? ⟨4102444800, 0⟩) =
      some ⟨4102441200, 0⟩ := by decide
  have plain : ∀ n ∈ pd.map (·.1), HourlyStore.PlainName s.dir n := by
    intro n held
    simp only [pd, List.map_cons, List.map_nil, List.mem_cons, List.not_mem_nil, or_false] at held
    rcases held with rfl | rfl | rfl | rfl | rfl <;>
      exact ⟨by decide, by decide, by decide, by decide, by decide, by decide, by decide⟩
  exact ⟨readable, there, unique, cut,
    s.retention_removes_exactly_expired_files readable there unique plain cut⟩

end Reachability.History
