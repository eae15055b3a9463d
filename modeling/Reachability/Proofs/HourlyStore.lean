import Mathlib
import Reachability.History.Store
import Reachability.Proofs.Volume
import Reachability.Proofs.Listing
import Reachability.Proofs.HourStamp
import Reachability.Proofs.Wire

/-!
# The hourly store lists what it was given

A store writes each observation to the file of its hour, after the records already there, and
answers a listing by reading its files back. Read back, the files hold every observation
written, grouped by hour and in the order written within each file; a listing sorts by time
with a stable sort, and the observations of one time all lie in one file, in the order they
were written. So the store lists exactly what a store that kept the observations in memory, in
the order they came, would list.

That holds under the conditions the store is built for:

* the directory exists and is empty, and its text reads as a path;
* the file prefix is a plain part of a name (no `/`, no NUL byte) short enough for a name and
  for the directory's text with the name joined on (`PlainPrefix`);
* retention deletes no file holding one of the observations: each observation's hour ends
  after the retention cutoff;
* each observation's year has four digits, so that the name of its hour file reads back
  (`HourStamp.read?_hourStamp`), and its fields are ones the wire format carries
  (`Wire.Storable`).

The proof follows the drain. `Holds` says what the store's directory holds after a prefix of
the observations: one file per hour of that prefix with the records of its observations. Each
step of the drain opens the hour's file and appends the record (`writeAll_step`), and a
deletion pass finds no expired file (`expire_of_spared`); the run lemma `writeAll_holds` is the
induction over the queue. Reading back, `collect_eq` gives the records of each file in turn,
and the listing agrees with the in-memory one time by time (`Selection.finish_eq_of_filter`).
-/

namespace Reachability.Time

namespace Instant

/-- The end of the hour of an instant: the start of the next hour. -/
def hourEnd (t : Instant) : Instant := ⟨t.hourStart.secs + 3600, 0⟩

/-- An instant lies in its hour. -/
theorem hourStart_le (t : Instant) : t.hourStart ≤ t := by
  rw [le_iff]
  simp only [hourStart, secondOfDay]
  omega

/-- An instant lies before the end of its hour. -/
theorem lt_hourEnd (t : Instant) : t < t.hourEnd := by
  rw [lt_iff]
  simp only [hourEnd, hourStart, secondOfDay]
  omega

/-- The dates of four-digit years lie before day 3000000. -/
theorem toDayNumber_lt_of_year {d : Date} (year : d.year ≤ 9999) (month : d.month ≤ 12)
    (day : d.day ≤ 31) : d.toDayNumber < 3000000 := by
  simp only [Date.toDayNumber]
  split_ifs <;> omega

/-- An instant of a four-digit year lies long before the end of the calendar. -/
theorem secs_lt_of_year (t : Instant) (fourDigits : 0 ≤ t.date.year ∧ t.date.year ≤ 9999) :
    t.secs < 259200000000 := by
  obtain ⟨-, month, -, day⟩ := t.date_bounds
  have days := toDayNumber_lt_of_year fourDigits.2 month day
  rw [date, Date.toDayNumber_ofDayNumber, dayNumber] at days
  omega

/-- An instant read from a timestamp is valid: a timestamp outside the calendar reads as the epoch.
-/
theorem isValid_ofStamp (s : Stamp) : (ofStamp s).isValid = true := by
  unfold ofStamp ofParts?
  by_cases valid : Instant.isValid ⟨s.seconds, s.nanos.toNat⟩ = true
  · simp [valid]
  · simp only [valid]
    rfl

end Instant

end Reachability.Time

namespace Reachability.Probe.Observation

open Reachability.Time

/-- The time of an observation is a valid instant. -/
theorem isValid_time (o : Observation) : o.time.isValid = true := by
  unfold time
  split
  · exact Instant.isValid_ofStamp _
  · rfl

end Reachability.Probe.Observation

namespace Reachability.History

open Reachability.Time
open Reachability.Files
open Reachability.Probe

/-- An hour that starts in a four-digit year ends an hour later, inside the calendar. -/
theorem shift?_hourStart {t : Instant} (valid : t.isValid = true)
    (fourDigits : 0 ≤ t.date.year ∧ t.date.year ≤ 9999) :
    t.hourStart.shift? oneHour = some t.hourEnd := by
  have inside := Instant.inRange_hourStart valid
  have early := Instant.secs_lt_of_year t fourDigits
  have start := Instant.hourStart_le t
  rw [Instant.le_iff] at start
  have notLeap : t.hourStart.isLeap = false := by
    simp [Instant.isLeap, Instant.hourStart, nanosPerSecond]
  have next : Instant.ofNanos (t.hourStart.totalNanos + oneHour.nanos) = t.hourEnd := by
    simp only [Instant.ofNanos, Instant.hourEnd, Instant.totalNanos, oneHour, nanosPerSecond,
      Instant.mk.injEq]
    simp only [Instant.hourStart]
    constructor <;> omega
  have range : Instant.inRange t.hourEnd.secs = true := by
    simp only [Instant.inRange, Bool.and_eq_true, decide_eq_true_eq] at inside ⊢
    simp only [Instant.hourEnd]
    simp only [Instant.minSecs, Instant.maxSecs, Instant.hourStart] at inside start ⊢
    omega
  unfold Instant.shift?
  rw [notLeap]
  simp only [Bool.false_eq_true, if_false, next, range, if_true]

/-- Text made of one-byte characters takes a byte per character. -/
theorem utf8ByteSize_ofList_of_ascii {cs : List Char} (ascii : ∀ c ∈ cs, c.utf8Size = 1) :
    (String.ofList cs).utf8ByteSize = cs.length := by
  induction cs with
  | nil => rfl
  | cons c rest inductionHypothesis =>
    rw [String.ofList_cons, String.utf8ByteSize_append, String.utf8ByteSize_singleton,
      ascii c List.mem_cons_self,
      inductionHypothesis fun c held => ascii c (List.mem_cons_of_mem _ held), List.length_cons]
    omega

/-- A decimal digit takes one byte. -/
theorem utf8Size_of_isDigit {c : Char} (digit : c.isDigit = true) : c.utf8Size = 1 := by
  have bounds := Char.isDigit_iff_toNat.1 digit
  apply Char.utf8Size_eq_one_iff.2
  rw [UInt32.le_iff_toNat_le, Char.toNat_val]
  simp only [Char.reduceToNat] at bounds
  simp only [UInt32.reduceToNat]
  omega

/-- An hour stamp of a four-digit year takes eleven bytes. -/
theorem utf8ByteSize_hourStamp {t : Instant} (fourDigits : 0 ≤ t.date.year ∧ t.date.year ≤ 9999) :
    t.hourStamp.utf8ByteSize = 11 := by
  obtain ⟨length, chars⟩ := HourStamp.hourStamp_chars fourDigits
  rw [← String.ofList_toList (s := t.hourStamp), utf8ByteSize_ofList_of_ascii, length]
  intro c held
  rcases chars c held with digit | rfl
  · exact utf8Size_of_isDigit digit
  · rfl

/-- Gathering a list key by key, each key once and every element's key among them, then keeping
the elements with a property that fixes the key, gives the elements with the property in
their order: only the one key of those elements contributes, and it gathers them in order. -/
theorem filter_flatMap_keys {α κ : Type} [DecidableEq κ] (key : α → κ) {xs : List α}
    {ks : List κ} (unique : ks.Nodup) (complete : ∀ x ∈ xs, key x ∈ ks) (P : α → Bool)
    (oneKey : ∀ x y, P x = true → P y = true → key x = key y) :
    (ks.flatMap fun k => xs.filter (key · = k)).filter P = xs.filter P := by
  rw [List.filter_flatMap]
  by_cases found : ∃ x ∈ xs, P x = true
  · obtain ⟨x₀, held, hasP⟩ := found
    have own : (xs.filter (key · = key x₀)).filter P = xs.filter P := by
      rw [List.filter_filter]
      apply List.filter_congr
      intro x _
      by_cases px : P x = true
      · simp [px, oneKey x x₀ px hasP]
      · simp [px]
    have other {k : κ} (differs : k ≠ key x₀) : (xs.filter (key · = k)).filter P = [] := by
      rw [List.filter_filter, List.filter_eq_nil_iff]
      intro x _
      by_cases px : P x = true
      · have same := oneKey x x₀ px hasP
        simp only [px, Bool.true_and, decide_eq_true_eq]
        exact fun keyed => differs (keyed ▸ same)
      · simp [px]
    obtain ⟨before, after, split⟩ := List.append_of_mem (complete x₀ held)
    rw [split] at unique ⊢
    have outside := (List.nodup_cons.1 (List.nodup_middle.1 unique)).1
    have skipped {side : List κ} (inSide : ∀ k ∈ side, k ∈ before ++ after) :
        (side.flatMap fun k => (xs.filter (key · = k)).filter P) = [] :=
      List.flatMap_eq_nil_iff.2 fun k held =>
        other fun same => outside (same ▸ inSide k held)
    rw [List.flatMap_append, List.flatMap_cons, own,
      skipped fun k held => List.mem_append_left _ held,
      skipped fun k held => List.mem_append_right _ held]
    simp
  · have none : xs.filter P = [] := by
      rw [List.filter_eq_nil_iff]
      exact fun x held hasP => found ⟨x, held, hasP⟩
    rw [none, List.flatMap_eq_nil_iff]
    intro k _
    rw [List.filter_filter, List.filter_eq_nil_iff]
    intro x held
    simp only [Bool.and_eq_true, not_and]
    exact fun hasP => absurd ⟨x, held, hasP⟩ found

namespace Selection

/-- A selection takes nothing of an hour `[start, stop)` that ends at or before the
selection's start, or starts at or after its end: the test by which a listing skips a file. -/
theorem selects_eq_false_of_skip (sel : Selection) {o : Observation} {start stop : Instant}
    (starts : start ≤ o.time) (stops : o.time < stop)
    (skip : ((match sel.start with
        | some a => decide (stop ≤ a)
        | none => false) ||
      (match sel.stop with
        | some b => decide (b ≤ start)
        | none => false)) = true) :
    sel.selects o = false := by
  unfold selects
  rcases hs : sel.start with _ | a <;> rcases hp : sel.stop with _ | b <;>
    simp only [hs, hp, Bool.false_or, Bool.or_false, Bool.or_eq_true, decide_eq_true_eq,
      Bool.false_eq_true] at skip
  · -- the hour starts at or after the end
    have late : ¬ o.time < b := Instant.not_lt_iff.2 (Instant.le_trans skip starts)
    simp [late]
  · -- the hour ends at or before the start
    have early : o.time < a := Instant.lt_of_lt_of_le stops skip
    simp [early]
  · rcases skip with early | late
    · have early : o.time < a := Instant.lt_of_lt_of_le stops early
      simp [early]
    · have late : ¬ o.time < b := Instant.not_lt_iff.2 (Instant.le_trans late starts)
      simp [late]

end Selection

namespace HourlyStore

/-! ## Hour file names -/

variable (s : HourlyStore)

/-- The file an observation is written to: the file of its hour. -/
def fileOf (o : Observation) : String := s.fileName o.time.hourStamp

/-- The characters of a file name: the prefix, a dash, the hour stamp and `.pb`. -/
theorem toList_fileName (hour : String) :
    (s.fileName hour).toList = (s.filePrefix ++ "-").toList ++ (hour.toList ++ ".pb".toList) := by
  simp [fileName, String.toList_append]

/-- A name of the store's files reads as the hour its stamp names: the prefix and the dash
come off the front, `.pb` off the end, and the stamp is what is left. -/
theorem hourOf_fileName_eq (hour : String) : s.hourOf (s.fileName hour) = HourStamp.read? hour := by
  unfold hourOf
  rw [toList_fileName]
  generalize (s.filePrefix ++ "-").toList = head
  have isPrefix : head.isPrefixOf (head ++ (hour.toList ++ ".pb".toList)) = true :=
    List.isPrefixOf_iff_prefix.2 (List.prefix_append _ _)
  have isSuffix : ".pb".toList.isSuffixOf (head ++ (hour.toList ++ ".pb".toList)) = true :=
    List.isSuffixOf_iff_suffix.2 ⟨head ++ hour.toList, by simp⟩
  have stamp : ((head ++ (hour.toList ++ ".pb".toList)).drop head.length).take
      ((head ++ (hour.toList ++ ".pb".toList)).length - head.length - 3) = hour.toList := by
    simp
  have long : (head ++ (hour.toList ++ ".pb".toList)).length ≥ head.length + 3 := by
    simp
  simp only [isPrefix, isSuffix, long, decide_true, Bool.and_self, if_true, stamp,
    String.ofList_toList]

/-- The name of an hour's file of a four-digit year reads back as the start of the hour. -/
theorem hourOf_fileName {t : Instant} (valid : t.isValid = true)
    (fourDigits : 0 ≤ t.date.year ∧ t.date.year ≤ 9999) :
    s.hourOf (s.fileName t.hourStamp) = some t.hourStart := by
  rw [hourOf_fileName_eq]
  exact HourStamp.read?_hourStamp valid fourDigits

/-- A name that stands for itself in a directory: no slash to split it and no NUL byte to
refuse it, not the empty name, `.` or `..`, short enough for a name, and short enough to be
joined onto the directory's text. -/
structure PlainName (dir name : String) : Prop where
  noSlash : '/' ∉ name.toList
  noNul : '\x00' ∉ name.toList
  named : name ≠ ""
  notDot : name ≠ "."
  notUp : (name == "..") = false
  short : tooLong name = false
  fits : dir.utf8ByteSize + name.utf8ByteSize + 1 < pathLimit

/-- A file prefix that keeps the store's file names plain: no slash and no NUL byte in it,
short enough for a name, and short enough for the directory's text with a file name joined
on. -/
structure PlainPrefix (dir filePrefix : String) : Prop where
  noSlash : '/' ∉ filePrefix.toList
  noNul : '\x00' ∉ filePrefix.toList
  nameFits : filePrefix.utf8ByteSize + 15 ≤ nameLimit
  pathFits : dir.utf8ByteSize + filePrefix.utf8ByteSize + 16 < pathLimit

/-- A file name of a four-digit year takes fifteen bytes after the prefix. -/
theorem utf8ByteSize_fileName {t : Instant} (fourDigits : 0 ≤ t.date.year ∧ t.date.year ≤ 9999) :
    (s.fileName t.hourStamp).utf8ByteSize = s.filePrefix.utf8ByteSize + 15 := by
  have dash : "-".utf8ByteSize = 1 := rfl
  have extension : ".pb".utf8ByteSize = 3 := rfl
  simp only [fileName, String.utf8ByteSize_append, dash, extension,
    utf8ByteSize_hourStamp fourDigits]

/-- The characters of a file name: those of the prefix, digits, the dash and those of `.pb`. -/
theorem mem_fileName {t : Instant} (fourDigits : 0 ≤ t.date.year ∧ t.date.year ≤ 9999) {c : Char}
    (held : c ∈ (s.fileName t.hourStamp).toList) :
    c ∈ s.filePrefix.toList ∨ c.isDigit = true ∨ c = '-' ∨ c = '.' ∨ c = 'p' ∨ c = 'b' := by
  rw [toList_fileName] at held
  simp only [String.toList_append, List.mem_append] at held
  rcases held with (fromPrefix | dash) | stamp | extension
  · exact .inl fromPrefix
  · exact .inr (.inr (.inl (by simpa using dash)))
  · rcases (HourStamp.hourStamp_chars fourDigits).2 c stamp with digit | dash
    · exact .inr (.inl digit)
    · exact .inr (.inr (.inl dash))
  · have : c = '.' ∨ c = 'p' ∨ c = 'b' := by simpa using extension
    exact .inr (.inr (.inr this))

/-- The file names of a store with a plain prefix are plain names of its directory. -/
theorem plainName_fileName {t : Instant} (plain : PlainPrefix s.dir s.filePrefix)
    (fourDigits : 0 ≤ t.date.year ∧ t.date.year ≤ 9999) :
    PlainName s.dir (s.fileName t.hourStamp) := by
  have size := utf8ByteSize_fileName s fourDigits
  have length : (s.fileName t.hourStamp).toList.length ≥ 4 := by
    rw [toList_fileName]
    simp
    omega
  have other {c : Char} (outside : c ∉ s.filePrefix.toList) (notDigit : c.isDigit = false)
      (mark : c ≠ '-' ∧ c ≠ '.' ∧ c ≠ 'p' ∧ c ≠ 'b') : c ∉ (s.fileName t.hourStamp).toList := by
    intro held
    rcases mem_fileName s fourDigits held with fromPrefix | digit | same | same | same | same
    · exact outside fromPrefix
    · rw [notDigit] at digit
      cases digit
    all_goals simp_all
  refine ⟨other plain.noSlash rfl (by decide), other plain.noNul rfl (by decide), ?_, ?_, ?_, ?_, ?_⟩
  · intro empty
    rw [empty] at length
    simp at length
  · intro dot
    rw [dot] at length
    simp at length
  · apply beq_eq_false_iff_ne.2
    intro up
    rw [up] at length
    simp at length
  · simp only [tooLong, gt_iff_lt, decide_eq_false_iff_not, Nat.not_lt, size]
    exact plain.nameFits
  · have fits := plain.pathFits
    omega

/-- The path of a file of the store with a plain name is the directory's path with the name. -/
theorem pathOf_plain {p : Path} {name : String} (readable : Path.read s.dir = .ok p)
    (plain : PlainName s.dir name) : s.pathOf name = .ok (p ++ [name]) :=
  Path.read_joinText readable plain.noSlash plain.noNul plain.named plain.notDot plain.fits

/-! ## What the directory holds -/

/-- What the store needs of an observation to keep it: a four-digit year, so that its file's
name reads back; an hour that ends after the retention cutoff, so that no deletion takes its
file; and fields the wire format carries. -/
structure Keepable (cutoff : Instant) (o : Observation) : Prop where
  fourDigits : 0 ≤ o.time.date.year ∧ o.time.date.year ≤ 9999
  later : cutoff < o.time.hourEnd
  storable : Wire.Storable o

/-- The file of a kept observation's hour reads back as the start of the hour. -/
theorem hourOf_fileOf {cutoff : Instant} {o : Observation} (keep : Keepable cutoff o) :
    s.hourOf (s.fileOf o) = some o.time.hourStart :=
  s.hourOf_fileName o.isValid_time keep.fourDigits

/-- A deletion pass at `cutoff` leaves the file `name` alone: when the name reads as an hour,
that hour ends after the cutoff. -/
def Spares (cutoff : Instant) (name : String) : Prop :=
  ∀ start, s.hourOf name = some start → ∃ stop, start.shift? oneHour = some stop ∧ cutoff < stop

/-- What the drain needs of an observation to write it and keep it: the name of its file is a
plain name of the directory, and no deletion pass takes the file. -/
structure Writable (cutoff : Instant) (o : Observation) : Prop where
  plain : PlainName s.dir (s.fileOf o)
  spared : s.Spares cutoff (s.fileOf o)

/-- The file of an observation of a four-digit year whose hour ends after the cutoff is
spared: its name reads back as that hour. -/
theorem spares_fileOf {cutoff : Instant} {o : Observation}
    (fourDigits : 0 ≤ o.time.date.year ∧ o.time.date.year ≤ 9999)
    (later : cutoff < o.time.hourEnd) : s.Spares cutoff (s.fileOf o) := by
  intro start readBack
  rw [fileOf, s.hourOf_fileName o.isValid_time fourDigits, Option.some_inj] at readBack
  subst readBack
  exact ⟨_, shift?_hourStart o.isValid_time fourDigits, later⟩

/-- Under a plain prefix, an observation of a four-digit year whose hour ends after the cutoff
can be written and kept. -/
theorem writable_of_later {cutoff : Instant} {o : Observation}
    (plain : PlainPrefix s.dir s.filePrefix)
    (fourDigits : 0 ≤ o.time.date.year ∧ o.time.date.year ≤ 9999)
    (later : cutoff < o.time.hourEnd) : Writable s cutoff o :=
  ⟨s.plainName_fileName plain fourDigits, s.spares_fileOf fourDigits later⟩

/-- The bytes of the file `name` once `done` is written: the records of its observations, in
the order written. -/
def bytesOf (done : List Observation) (name : String) : List UInt8 :=
  (done.filter (s.fileOf · = name)).flatMap Wire.record

/-- A file of no observation written holds no bytes. -/
theorem bytesOf_eq_nil {done : List Observation} {name : String}
    (absent : name ∉ done.map s.fileOf) : s.bytesOf done name = [] := by
  have none : done.filter (s.fileOf · = name) = [] := by
    simp only [List.filter_eq_nil_iff, decide_eq_true_eq]
    exact fun o held same => absent (List.mem_map.2 ⟨o, held, same⟩)
  simp [bytesOf, none]

/-- Writing an observation appends its record to the bytes of its own file. -/
theorem bytesOf_append_self (done : List Observation) (o : Observation) :
    s.bytesOf (done ++ [o]) (s.fileOf o) = s.bytesOf done (s.fileOf o) ++ Wire.record o := by
  simp [bytesOf, List.filter_append]

/-- Writing an observation leaves the bytes of every other file as they were. -/
theorem bytesOf_append_other (done : List Observation) (o : Observation) {name : String}
    (other : name ≠ s.fileOf o) : s.bytesOf (done ++ [o]) name = s.bytesOf done name := by
  simp [bytesOf, List.filter_append, Ne.symm other]

/-- After `done` is written, the store's directory holds one file for each hour of `done`,
with the records of its observations in order, and nothing else. -/
structure Holds (done : List Observation) (pd : Dir) : Prop where
  unique : (pd.map (·.1)).Nodup
  entry : ∀ name, Dir.entry? pd name =
    if name ∈ done.map s.fileOf then some (.file (s.bytesOf done name)) else none

/-- Before anything is written, the empty directory holds what was written. -/
theorem holds_nil : Holds s [] [] := ⟨List.nodup_nil, fun _ => rfl⟩

/-- The directory once the file `name` is opened for the next observation: the file is there
with the records written so far, and every other name is as it was. -/
structure Opened (done : List Observation) (name : String) (pd pd' : Dir) : Prop where
  unique : (pd'.map (·.1)).Nodup
  atName : Dir.entry? pd' name = some (.file (s.bytesOf done name))
  others : ∀ m, m ≠ name → Dir.entry? pd' m = Dir.entry? pd m

section Holds

variable {s} {done : List Observation} {pd : Dir}

/-- The directory holds a name exactly when it is the file of an observation written. -/
theorem Holds.mem_names (holds : Holds s done pd) {name : String} :
    name ∈ pd.map (·.1) ↔ name ∈ done.map s.fileOf := by
  rw [Dir.mem_names_iff, holds.entry]
  split <;> simp_all

/-- The file of a name is there with its records, or missing with none. -/
theorem Holds.held (holds : Holds s done pd) (name : String) :
    Dir.entry? pd name = some (.file (s.bytesOf done name)) ∨
      (Dir.entry? pd name = none ∧ s.bytesOf done name = []) := by
  rw [holds.entry]
  split
  · exact .inl rfl
  · rename_i absent
    exact .inr ⟨rfl, s.bytesOf_eq_nil absent⟩

/-- Opening by creating the file, empty, when missing. -/
theorem Holds.opened_put (holds : Holds s done pd) (name : String) :
    Opened s done name pd (pd.put name (.file (s.bytesOf done name))) where
  unique := Dir.nodup_names_put holds.unique _ _
  atName := by rw [Dir.entry_put, if_pos rfl]
  others m other := by rw [Dir.entry_put, if_neg other]

/-- A file already there is open as it is. -/
theorem Holds.opened_self (holds : Holds s done pd) {name : String}
    (present : name ∈ done.map s.fileOf) : Opened s done name pd pd where
  unique := holds.unique
  atName := by rw [holds.entry, if_pos present]
  others _ _ := rfl

/-- Appending an observation's record to its opened file gives the directory once the
observation is written. -/
theorem Holds.write (holds : Holds s done pd) {o : Observation} {pd' : Dir}
    (opened : Opened s done (s.fileOf o) pd pd') :
    Holds s (done ++ [o])
      (pd'.put (s.fileOf o) (.file (s.bytesOf done (s.fileOf o) ++ Wire.record o))) where
  unique := Dir.nodup_names_put opened.unique _ _
  entry name := by
    rw [Dir.entry_put]
    by_cases same : name = s.fileOf o
    · subst name
      rw [if_pos rfl, if_pos (by simp), bytesOf_append_self]
    · have written : name ∈ (done ++ [o]).map s.fileOf ↔ name ∈ done.map s.fileOf := by
        simp [same]
      rw [if_neg same, opened.others name same, holds.entry, bytesOf_append_other s done o same]
      simp only [written]

/-- What the directory holds depends on the store only through its file prefix. -/
theorem Holds.of_filePrefix (holds : Holds s done pd) {s' : HourlyStore}
    (same : s'.filePrefix = s.filePrefix) : Holds s' done pd where
  unique := holds.unique
  entry name := by
    have names : s'.fileOf = s.fileOf := by
      funext o
      simp [fileOf, fileName, same]
    have bytes : s'.bytesOf done name = s.bytesOf done name := by
      simp [bytesOf, names]
    rw [holds.entry, names, bytes]

/-- The names of an opened directory are the name opened and those of the files before. -/
theorem Opened.mem_names {name : String} {pd' : Dir} (holds : Holds s done pd)
    (opened : Opened s done name pd pd') {m : String} (held : m ∈ pd'.map (·.1)) :
    m = name ∨ m ∈ done.map s.fileOf := by
  by_cases same : m = name
  · exact .inl same
  · obtain ⟨e, found⟩ := Dir.mem_names_iff.1 held
    rw [opened.others m same] at found
    exact .inr (holds.mem_names.1 (Dir.mem_names_iff.2 ⟨e, found⟩))

end Holds

/-! ## Deleting expired files -/

/-- The files of a directory that are hour files of the store, with the hours they start. -/
def filesOf (pd : Dir) : List (Instant × String) :=
  pd.filterMap fun (n, _) => (s.hourOf n).map fun t => (t, n)

/-- A directory's hour files are its names that read back as an hour, with that hour. -/
theorem mem_filesOf {pd : Dir} {f : Instant × String} :
    f ∈ s.filesOf pd ↔ f.2 ∈ pd.map (·.1) ∧ s.hourOf f.2 = some f.1 := by
  obtain ⟨start, name⟩ := f
  simp only [filesOf, List.mem_filterMap, Option.map_eq_some_iff, Prod.mk.injEq, List.mem_map,
    Prod.exists]
  constructor
  · rintro ⟨n, e, held, t, found, rfl, rfl⟩
    exact ⟨⟨n, e, held, rfl⟩, found⟩
  · rintro ⟨⟨n, e, held, rfl⟩, found⟩
    exact ⟨n, e, held, start, found, rfl, rfl⟩

/-- The hour files of the store are those of its directory, sorted. -/
theorem hourFiles_perm {v pd : Dir} {p q : Path} (readable : Path.read s.dir = .ok p)
    (located : v.locate p = .ok q) (found : v.entryAt q = .ok (.dir pd)) :
    ∃ files, s.hourFiles v = .ok files ∧ files.Perm (s.filesOf pd) := by
  refine ⟨_, ?_, List.mergeSort_perm _ fun a b => decide (a.1 < b.1 ∨ (a.1 = b.1 ∧ a.2 ≤ b.2))⟩
  simp [hourFiles, readable, Dir.list_of_entryAt located found, bind, Except.bind, pure,
    Except.pure, filesOf]

/-- Deletion passes over files whose hours all end after the cutoff, and deletes none. -/
theorem deleteOld_of_later {cutoff : Instant} {v : Dir} :
    ∀ files : List (Instant × String),
      (∀ f ∈ files, ∃ stop, f.1.shift? oneHour = some stop ∧ cutoff < stop) →
        s.deleteOld cutoff files v = (v, none)
  | [], _ => rfl
  | (start, name) :: rest, later => by
    obtain ⟨stop, shifted, after⟩ := later (start, name) List.mem_cons_self
    have keep : ¬ stop ≤ cutoff := Instant.not_le_iff.2 after
    simp only [deleteOld, shifted, keep, if_false]
    exact deleteOld_of_later rest fun f held => later f (List.mem_cons_of_mem _ held)

/-- A deletion pass deletes nothing while it spares every file of the directory. -/
theorem expire_of_spared {now cutoff : Instant} {v pd : Dir} {p q : Path}
    (readable : Path.read s.dir = .ok p) (located : v.locate p = .ok q)
    (found : v.entryAt q = .ok (.dir pd))
    (cut : (Span.ofHours? s.retentionHours).bind now.unshift? = some cutoff)
    (spared : ∀ name ∈ pd.map (·.1), s.Spares cutoff name) :
    s.expire now v = (v, none) := by
  obtain ⟨files, listed, perm⟩ := s.hourFiles_perm readable located found
  simp only [expire, cut, listed]
  apply deleteOld_of_later
  rintro ⟨start, name⟩ held
  obtain ⟨named, readBack⟩ := s.mem_filesOf.1 (perm.mem_iff.1 held)
  exact spared name named start readBack

/-! ## Writing the queue -/

section Writing

variable {now cutoff : Instant} {p q : Path}

/-- What the drain carries from one observation to the next: the hour file it has open is
there, and is the file of an observation already written. -/
def CurrentOk (done : List Observation) : Option Current → Prop
  | none => True
  | some c => c.present = true ∧ s.fileName c.hour ∈ done.map s.fileOf

/-- Reopening the file of an observation's hour creates the file when missing; the deletion
pass that follows finds no expired file, so the file is there. -/
theorem reopen_eq {done : List Observation} {o : Observation} {v pd : Dir}
    (readable : Path.read s.dir = .ok p)
    (cut : (Span.ofHours? s.retentionHours).bind now.unshift? = some cutoff)
    (writable : ∀ o' ∈ done ++ [o], Writable s cutoff o') (there : DirAt v p q pd)
    (holds : Holds s done pd) :
    writeAll.reopen s now v (p ++ [s.fileOf o]) o.time.hourStamp =
        .ok (v.setDir (pd.put (s.fileOf o) (.file (s.bytesOf done (s.fileOf o)))) q,
          ⟨o.time.hourStamp, true⟩, none) ∧
      DirAt (v.setDir (pd.put (s.fileOf o) (.file (s.bytesOf done (s.fileOf o)))) q) p q
        (pd.put (s.fileOf o) (.file (s.bytesOf done (s.fileOf o)))) := by
  have name := (writable o (by simp)).plain
  obtain ⟨created, there'⟩ := there.writeFile_append name.notUp name.short (holds.held _) []
  rw [List.append_nil] at created there'
  have opened := holds.opened_put (s.fileOf o)
  have expired := s.expire_of_spared readable there'.located there'.found cut fun n held => by
    rcases opened.mem_names holds held with rfl | old
    · exact (writable o (by simp)).spared
    · obtain ⟨o', written, rfl⟩ := List.mem_map.1 old
      exact (writable o' (by simp [written])).spared
  have present := there'.readFile name.notUp name.short opened.atName
  refine ⟨?_, there'⟩
  simp only [writeAll.reopen, created, expired, present, bind, Except.bind, pure, Except.pure]

/-- Appending an observation's record to its opened file. -/
theorem write_opened {done : List Observation} {o : Observation} {v pd pd' : Dir}
    (name : PlainName s.dir (s.fileOf o)) (there : DirAt v p q pd')
    (holds : Holds s done pd) (opened : Opened s done (s.fileOf o) pd pd') :
    ∃ v₂ pd₂, v.writeFile (p ++ [s.fileOf o]) (Wire.record o) true = .ok v₂ ∧
      v₂ = v.setDir pd₂ q ∧ DirAt v₂ p q pd₂ ∧ Holds s (done ++ [o]) pd₂ := by
  obtain ⟨written, there₂⟩ :=
    there.writeFile_append name.notUp name.short (.inl opened.atName) (Wire.record o)
  exact ⟨_, _, written, rfl, there₂, holds.write opened⟩

/-- One observation of the drain: the file of its hour is opened, reopened when the hour
changes, and its record appended. Only the store's directory changes. -/
theorem writeAll_step {done rest : List Observation} {o : Observation} {current : Option Current}
    {v pd : Dir} (readable : Path.read s.dir = .ok p)
    (cut : (Span.ofHours? s.retentionHours).bind now.unshift? = some cutoff)
    (writable : ∀ o' ∈ done ++ [o], Writable s cutoff o') (there : DirAt v p q pd)
    (holds : Holds s done pd) (currentOk : s.CurrentOk done current) :
    ∃ v' pd', s.writeAll now (o :: rest) current v =
        s.writeAll now rest (some ⟨o.time.hourStamp, true⟩) v' ∧
      v' = v.setDir pd' q ∧ DirAt v' p q pd' ∧ Holds s (done ++ [o]) pd' := by
  have name := (writable o (by simp)).plain
  have path : s.pathOf (s.fileName o.time.hourStamp) = .ok (p ++ [s.fileOf o]) :=
    s.pathOf_plain readable name
  obtain ⟨reopened, there₁⟩ := s.reopen_eq readable cut writable there holds
  have afterReopen := s.write_opened name there₁ holds (holds.opened_put _)
  cases current with
  | none =>
    obtain ⟨v₂, pd₂, written, framed, there₂, holds₂⟩ := afterReopen
    refine ⟨v₂, pd₂, ?_, ?_, there₂, holds₂⟩
    · simp only [writeAll, path, reopened, written, if_true]
    · rw [framed, Dir.setDir_setDir there.found]
  | some c =>
    by_cases same : c.hour = o.time.hourStamp
    · -- the hour goes on: the file open is the observation's own, and is there
      obtain ⟨present, held⟩ := currentOk
      have opened : Opened s done (s.fileOf o) pd pd :=
        holds.opened_self (by rw [fileOf, ← same]; exact held)
      obtain ⟨v₂, pd₂, written, framed, there₂, holds₂⟩ := s.write_opened name there holds opened
      refine ⟨v₂, pd₂, ?_, framed, there₂, holds₂⟩
      obtain ⟨hour, flag⟩ := c
      simp only at same present
      subst same present
      simp only [writeAll, path, written, if_true]
    · obtain ⟨v₂, pd₂, written, framed, there₂, holds₂⟩ := afterReopen
      refine ⟨v₂, pd₂, ?_, ?_, there₂, holds₂⟩
      · simp only [writeAll, path, same, reopened, written, if_true, if_false]
      · rw [framed, Dir.setDir_setDir there.found]

/-- The drain writes the whole queue: nothing stops it, and afterwards the directory holds the
hour files of everything written, and nothing else of the volume has changed. The induction is
on the observations still to write; the directory invariant `Holds` carries it, with the open
file's state `CurrentOk`. -/
theorem writeAll_holds (readable : Path.read s.dir = .ok p)
    (cut : (Span.ofHours? s.retentionHours).bind now.unshift? = some cutoff)
    (rest : List Observation) :
    ∀ {done : List Observation} {current : Option Current} {v pd : Dir},
      (∀ o ∈ done ++ rest, Writable s cutoff o) → DirAt v p q pd → Holds s done pd →
        s.CurrentOk done current →
        ∃ v' pd' c, s.writeAll now rest current v = (v', .written c) ∧
          (v' = v ∨ v' = v.setDir pd' q) ∧ DirAt v' p q pd' ∧ Holds s (done ++ rest) pd' := by
  induction rest with
  | nil =>
    intro done current v pd _ there holds _
    exact ⟨v, pd, current, rfl, .inl rfl, there, by simpa using holds⟩
  | cons o rest inductionHypothesis =>
    intro done current v pd writable there holds currentOk
    have writableNext : ∀ o' ∈ done ++ [o], Writable s cutoff o' := by
      intro o' held
      apply writable
      simp only [List.mem_append, List.mem_cons] at held ⊢
      tauto
    obtain ⟨v', pd', step, framed, there', holds'⟩ :=
      s.writeAll_step readable cut writableNext there holds currentOk
    have nextOk : s.CurrentOk (done ++ [o]) (some ⟨o.time.hourStamp, true⟩) :=
      ⟨rfl, List.mem_map.2 ⟨o, by simp, rfl⟩⟩
    obtain ⟨v'', pd'', c, run, framed', there'', holds''⟩ :=
      inductionHypothesis (fun o' held => writable o' (by simpa using held)) there' holds' nextOk
    refine ⟨v'', pd'', c, step.trans run, .inr ?_, there'', by simpa using holds''⟩
    -- both steps replace the directory at `q`, the second the first's result
    rcases framed' with same | replaced
    · subst same
      rw [← there'.unique there'', framed]
    · rw [replaced, framed, Dir.setDir_setDir there.found]

end Writing

/-! ## Batches

The writer receives the queue in batches and keeps the hour file open from one batch to the
next; a file it cannot open drops the rest of that batch only. As long as no file is refused,
the batch boundaries change nothing: writing the batches in turn is writing their
concatenation at once. -/

section Batches

variable {now : Instant}

/-- Writing `batch ++ later` is writing `batch`, then `later` from the hour file that `batch`
left open; a refusal or a fault within `batch` ends the writing there. -/
theorem writeAll_append (batch later : List Observation) (current : Option Current) (v : Dir) :
    s.writeAll now (batch ++ later) current v =
      match s.writeAll now batch current v with
      | (v', .written c) => s.writeAll now later c v'
      | ended => ended := by
  induction batch generalizing current v with
  | nil => rfl
  | cons o rest inductionHypothesis =>
    rw [List.cons_append, writeAll, writeAll]
    -- both sides open the observation's file alike; they differ only in what follows it
    dsimp only
    split
    · rfl
    · split
      · rfl
      · rfl
      · exact inductionHypothesis _ _

/-- Batch boundaries change nothing as long as no file is refused: writing the batches in turn
leaves the volume and reports the fault that writing their concatenation at once does. The
induction is on the batches, each split off by `writeAll_append`. -/
theorem writeBatches_eq_writeAll (batches : List (List Observation)) (current : Option Current)
    (v : Dir) (kept : (s.writeAll now batches.flatten current v).2 ≠ .refused) :
    s.writeBatches now batches current v =
      ((s.writeAll now batches.flatten current v).1,
        (s.writeAll now batches.flatten current v).2.fault?) := by
  induction batches generalizing current v with
  | nil => rfl
  | cons batch later inductionHypothesis =>
    rw [List.flatten_cons, writeAll_append] at kept ⊢
    rw [writeBatches]
    cases first : s.writeAll now batch current v with
    | mk v' ended =>
      rw [first] at kept
      cases ended with
      | written c => exact inductionHypothesis c v' kept
      | refused => exact absurd rfl kept
      | fault o => rfl

/-- A single batch reports what writing it reports: a refusal drops the rest of the batch, and
no batch is left to write. -/
theorem writeBatches_singleton (batch : List Observation) (current : Option Current) (v : Dir) :
    s.writeBatches now [batch] current v =
      ((s.writeAll now batch current v).1, (s.writeAll now batch current v).2.fault?) := by
  rw [writeBatches]
  cases s.writeAll now batch current v with
  | mk v' ended => cases ended <;> rfl

/-- A drain over any batches whose concatenation is the queue leaves the volume and the store
and reports the fault that the drain of the queue as one batch does, as long as no file of the
queue is refused once the deletion pass is done. -/
theorem drainBatches_eq_drain (batches : List (List Observation)) (v : Dir)
    (queued : batches.flatten = s.queue)
    (kept : ∀ v', s.expire now v = (v', none) → (s.writeAll now s.queue none v').2 ≠ .refused) :
    s.drainBatches now batches v = s.drain now v := by
  unfold drain drainBatches
  split
  · rfl
  · cases expired : s.expire now v with
    | mk v' fault =>
      cases fault with
      | some o => rfl
      | none =>
        have split := s.writeBatches_eq_writeAll batches none v' (queued ▸ kept v' expired)
        rw [queued] at split
        simp only [split, writeBatches_singleton]

end Batches

/-! ## Reading the files back -/

section Reading

variable {cutoff : Instant} {p q : Path}

/-- A file of the store's directory is the file of an observation written, and starts the
hour of that observation. -/
theorem exists_of_mem_filesOf {done : List Observation} {pd : Dir} (holds : Holds s done pd)
    (keep : ∀ o ∈ done, Keepable cutoff o) {start : Instant} {name : String}
    (listed : (start, name) ∈ s.filesOf pd) :
    ∃ o ∈ done, s.fileOf o = name ∧ start = o.time.hourStart := by
  obtain ⟨named, readBack⟩ := s.mem_filesOf.1 listed
  obtain ⟨o, written, rfl⟩ := List.mem_map.1 (holds.mem_names.1 named)
  rw [s.hourOf_fileOf (keep o written), Option.some_inj] at readBack
  exact ⟨o, written, rfl, readBack.symm⟩

/-- The observations of one file all start the same hour: the one its name reads back as. -/
theorem hourStart_eq_of_fileOf {o o' : Observation} (keep : Keepable cutoff o)
    (keep' : Keepable cutoff o') (same : s.fileOf o' = s.fileOf o) :
    o'.time.hourStart = o.time.hourStart := by
  have readBack := s.hourOf_fileOf keep'
  rw [same, s.hourOf_fileOf keep, Option.some_inj] at readBack
  exact readBack.symm

/-- Reading one file of the store, then the rest: the file gives the records of its
observations that the selection takes. A file whose hour the selection's range misses is
skipped, and none of its observations is taken. -/
theorem collect_cons {done : List Observation} {v pd : Dir} {sel : Selection} {start : Instant}
    {name : String} {rest : List (Instant × String)} {later : List Observation}
    (readable : Path.read s.dir = .ok p) (plain : PlainPrefix s.dir s.filePrefix)
    (there : DirAt v p q pd) (holds : Holds s done pd) (keep : ∀ o ∈ done, Keepable cutoff o)
    (listed : (start, name) ∈ s.filesOf pd) (afterwards : s.collect sel v rest = .ok later) :
    s.collect sel v ((start, name) :: rest) =
      .ok ((done.filter (s.fileOf · = name)).filter sel.selects ++ later) := by
  obtain ⟨o₀, written, rfl, rfl⟩ := s.exists_of_mem_filesOf holds keep listed
  have keep₀ := keep o₀ written
  have shifted := shift?_hourStart o₀.isValid_time keep₀.fourDigits
  simp only [collect, shifted, pure_bind]
  split_ifs with skip
  · -- the hour is outside the selection's range: none of the file's observations is taken
    have none : (done.filter (s.fileOf · = s.fileOf o₀)).filter sel.selects = [] := by
      rw [List.filter_eq_nil_iff]
      intro o held
      simp only [List.mem_filter, decide_eq_true_eq] at held
      have same := s.hourStart_eq_of_fileOf keep₀ (keep o held.1) held.2
      have starts : o₀.time.hourStart ≤ o.time := same ▸ o.time.hourStart_le
      have stops : o.time < o₀.time.hourEnd := by
        have ends : o.time.hourEnd = o₀.time.hourEnd := by simp only [Instant.hourEnd, same]
        exact ends ▸ o.time.lt_hourEnd
      simp [sel.selects_eq_false_of_skip starts stops skip]
    rw [none, List.nil_append]
    exact afterwards
  · have name := s.plainName_fileName plain keep₀.fourDigits
    have path : s.pathOf (s.fileOf o₀) = .ok (p ++ [s.fileOf o₀]) := s.pathOf_plain readable name
    have entry : Dir.entry? pd (s.fileOf o₀) = some (.file (s.bytesOf done (s.fileOf o₀))) := by
      rw [holds.entry, if_pos (List.mem_map.2 ⟨o₀, written, rfl⟩)]
    have bytes : v.readFile (p ++ [s.fileOf o₀]) = .ok (s.bytesOf done (s.fileOf o₀)) :=
      there.readFile name.notUp name.short entry
    have back : Wire.records (s.bytesOf done (s.fileOf o₀)) =
        done.filter (s.fileOf · = s.fileOf o₀) :=
      Wire.records_flatMap fun o held => (keep o (List.mem_of_mem_filter held)).storable
    simp only [path, bytes, back, afterwards, bind, Except.bind, pure, Except.pure]

/-- The names of the hour files of a directory are names of the directory, in order. -/
theorem sublist_names_filesOf (pd : Dir) :
    List.Sublist ((s.filesOf pd).map (·.2)) (pd.map (·.1)) := by
  induction pd with
  | nil => exact List.Sublist.slnil
  | cons x rest inductionHypothesis =>
    obtain ⟨n, e⟩ := x
    simp only [filesOf, List.filterMap_cons, List.map_cons] at inductionHypothesis ⊢
    cases s.hourOf n with
    | none => exact inductionHypothesis.cons n
    | some t => exact inductionHypothesis.cons_cons n

/-- Reading the hour files of the directory in turn gives, file by file, the records each holds
that the selection takes. -/
theorem collect_eq {done : List Observation} {v pd : Dir} (sel : Selection)
    (readable : Path.read s.dir = .ok p) (plain : PlainPrefix s.dir s.filePrefix)
    (there : DirAt v p q pd) (holds : Holds s done pd) (keep : ∀ o ∈ done, Keepable cutoff o) :
    ∀ files : List (Instant × String), (∀ f ∈ files, f ∈ s.filesOf pd) →
      s.collect sel v files =
        .ok (files.flatMap fun f => (done.filter (s.fileOf · = f.2)).filter sel.selects)
  | [], _ => rfl
  | (start, name) :: rest, listed => by
    rw [List.flatMap_cons]
    exact s.collect_cons readable plain there holds keep (listed _ List.mem_cons_self)
      (collect_eq sel readable plain there holds keep rest fun f held =>
        listed f (List.mem_cons_of_mem _ held))

/-- Listing a store whose directory holds the files of `done` gives what a store keeping `done`
in memory lists. The files come back grouped by hour; the observations of one time all lie in
one file, in the order written, and a listing depends only on those
(`Selection.finish_eq_of_filter`). -/
theorem list_of_holds {done : List Observation} {v pd : Dir} (sel : Selection)
    (readable : Path.read s.dir = .ok p) (plain : PlainPrefix s.dir s.filePrefix)
    (there : DirAt v p q pd) (holds : Holds s done pd) (keep : ∀ o ∈ done, Keepable cutoff o) :
    s.list sel v = .ok (sel.select done) := by
  obtain ⟨files, listed, perm⟩ := s.hourFiles_perm readable there.located there.found
  have collected := s.collect_eq sel readable plain there holds keep files fun f held =>
    perm.mem_iff.1 held
  have keys : (files.map (·.2)).Nodup :=
    (perm.map _).nodup_iff.2 (holds.unique.sublist (s.sublist_names_filesOf pd))
  have complete : ∀ o ∈ done.filter sel.selects, s.fileOf o ∈ files.map (·.2) := by
    intro o held
    have written := List.mem_of_mem_filter held
    have inDir := holds.mem_names.2 (List.mem_map.2 ⟨o, written, rfl⟩)
    have isFile : (o.time.hourStart, s.fileOf o) ∈ s.filesOf pd :=
      s.mem_filesOf.2 ⟨inDir, s.hourOf_fileOf (keep o written)⟩
    exact List.mem_map.2 ⟨_, perm.mem_iff.2 isFile, rfl⟩
  have regrouped : files.flatMap (fun f => (done.filter (s.fileOf · = f.2)).filter sel.selects) =
      (files.map (·.2)).flatMap fun name => (done.filter sel.selects).filter (s.fileOf · = name) := by
    rw [List.flatMap_map]
    congr 1
    funext f
    rw [List.filter_filter, List.filter_filter]
    congr 1
    funext o
    exact Bool.and_comm _ _
  simp only [list, listed, collected, bind, Except.bind, pure, Except.pure, Selection.select,
    regrouped]
  congr 1
  apply Selection.finish_eq_of_filter
  intro t
  -- observations of one time have one file
  refine filter_flatMap_keys s.fileOf keys complete _ fun x y atX atY => ?_
  simp only [decide_eq_true_eq] at atX atY
  simp only [fileOf, atX, atY]

end Reading

/-! ## A store over an empty directory -/

section Lifetime

variable {now cutoff : Instant} {p q : Path}

/-- A store over a directory that exists leaves the volume as it is, open and with nothing
queued. -/
theorem create_of_lookup {v sub : Dir} {dir filePrefix : String} {retention : Nat}
    (readable : Path.read dir = .ok p) (found : v.lookup p = .ok (.dir sub)) :
    create v dir filePrefix retention =
      .ok (v, { dir := dir, filePrefix := filePrefix, retentionHours := retention }) := by
  simp [create, Dir.createPath_of_lookup readable found, bind, Except.bind, pure, Except.pure]

/-- An open store queues what it is given, in order. -/
theorem foldl_add (os : List Observation) {s : HourlyStore} (isOpen : s.open_ = true) :
    os.foldl add s = { s with queue := s.queue ++ os } := by
  induction os generalizing s with
  | nil => simp
  | cons o rest inductionHypothesis =>
    rw [List.foldl_cons, inductionHypothesis (by simp [add, isOpen])]
    simp [add, isOpen]

/-- The drain of an open store over an empty directory, when it can write every observation of
its queue, deletes nothing, writes the whole queue and closes the store, whatever batches the
writer receives the queue in; afterwards the directory holds the hour files of the queue, and
nothing else of the volume has changed. -/
theorem drainBatches_writes {v : Dir} (readable : Path.read s.dir = .ok p)
    (cut : (Span.ofHours? s.retentionHours).bind now.unshift? = some cutoff)
    (isOpen : s.open_ = true) (writable : ∀ o ∈ s.queue, Writable s cutoff o)
    (there : DirAt v p q []) {batches : List (List Observation)}
    (queued : batches.flatten = s.queue) :
    ∃ v' pd', s.drainBatches now batches v = (v', { s with queue := [], open_ := false }, none) ∧
      (v' = v ∨ v' = v.setDir pd' q) ∧ DirAt v' p q pd' ∧ Holds s s.queue pd' := by
  have expired := s.expire_of_spared readable there.located there.found cut (by simp)
  obtain ⟨v', pd', c, run, framed, there', holds'⟩ := s.writeAll_holds readable cut s.queue
    (fun o held => writable o (by simpa using held)) there s.holds_nil
    (show s.CurrentOk [] none from trivial)
  -- the whole queue is written, so the batch boundaries do not matter
  have batched := s.writeBatches_eq_writeAll batches none v (by rw [queued, run]; simp)
  rw [queued, run] at batched
  refine ⟨v', pd', ?_, framed, there', by simpa using holds'⟩
  simp [drainBatches, isOpen, expired, batched, BatchEnd.fault?]

/-- The drain of a queue received as one batch: see `drainBatches_writes`. -/
theorem drain_writes {v : Dir} (readable : Path.read s.dir = .ok p)
    (cut : (Span.ofHours? s.retentionHours).bind now.unshift? = some cutoff)
    (isOpen : s.open_ = true) (writable : ∀ o ∈ s.queue, Writable s cutoff o)
    (there : DirAt v p q []) :
    ∃ v' pd', s.drain now v = (v', { s with queue := [], open_ := false }, none) ∧
      (v' = v ∨ v' = v.setDir pd' q) ∧ DirAt v' p q pd' ∧ Holds s s.queue pd' :=
  s.drainBatches_writes readable cut isOpen writable there List.flatten_singleton

/-- The drain of an open store over an empty directory deletes nothing, writes the whole queue
and closes the store; afterwards the directory holds the hour files of the queue. -/
theorem drain_holds {v : Dir} (readable : Path.read s.dir = .ok p)
    (plain : PlainPrefix s.dir s.filePrefix)
    (cut : (Span.ofHours? s.retentionHours).bind now.unshift? = some cutoff)
    (isOpen : s.open_ = true) (keep : ∀ o ∈ s.queue, Keepable cutoff o) (there : DirAt v p q []) :
    ∃ v' pd', s.drain now v = (v', { s with queue := [], open_ := false }, none) ∧
      DirAt v' p q pd' ∧ Holds s s.queue pd' := by
  obtain ⟨v', pd', drained, -, there', holds'⟩ := s.drain_writes readable cut isOpen
    (fun o held => s.writable_of_later plain (keep o held).fourDigits (keep o held).later) there
  exact ⟨v', pd', drained, there', holds'⟩

end Lifetime

end HourlyStore

/-- A store created over an empty directory, given observations in any order and then drained,
lists for every selection what a store keeping the observations in memory, in the order they
came, lists: those the selection takes, sorted by time with ties in the order given, cut to
the newest `limit`. -/
theorem list_after_drain {v : Dir} {dir filePrefix : String} {retention : Nat} {p : Path}
    {now cutoff : Instant} {os : List Observation}
    (readable : Path.read dir = .ok p) (empty : v.lookup p = .ok (.dir []))
    (plain : HourlyStore.PlainPrefix dir filePrefix)
    (cut : (Span.ofHours? retention).bind now.unshift? = some cutoff)
    (keep : ∀ o ∈ os, HourlyStore.Keepable cutoff o) (sel : Selection) :
    ∃ s, HourlyStore.create v dir filePrefix retention = .ok (v, s) ∧
      ∃ v' s', (os.foldl HourlyStore.add s).drain now v = (v', s', none) ∧
        s'.list sel v' = .ok (sel.select os) := by
  obtain ⟨q, there⟩ := DirAt.of_lookup empty
  let store : HourlyStore := { dir := dir, filePrefix := filePrefix, retentionHours := retention }
  refine ⟨store, HourlyStore.create_of_lookup readable empty, ?_⟩
  have queued : os.foldl HourlyStore.add store = { store with queue := os } := by
    rw [HourlyStore.foldl_add os rfl]
    rfl
  rw [queued]
  obtain ⟨v', pd', drained, there', holds'⟩ :=
    HourlyStore.drain_holds { store with queue := os } readable plain cut rfl keep there
  refine ⟨v', _, drained, ?_⟩
  exact HourlyStore.list_of_holds _ sel readable plain there' (holds'.of_filePrefix rfl) keep

/-- Without a plain prefix the store can lose what it is given. A prefix with a slash names
files in a directory that is not there: the drain writes nothing and reports no fault, and the
listing is empty where a store keeping the observation in memory lists it. -/
theorem list_after_drain_slashed_prefix :
    ∃ s, HourlyStore.create [("store", .dir [])] "store" "a/b" 1000000
        = .ok ([("store", .dir [])], s) ∧
      ∃ v' s', ([⟨"node-a", "b", some ⟨4102444800, 0⟩, none, true, "j", "ok"⟩].foldl
          HourlyStore.add s).drain ⟨1794441600, 0⟩ [("store", .dir [])] = (v', s', none) ∧
        s'.list {} v' = .ok [] ∧
      Selection.select {} [⟨"node-a", "b", some ⟨4102444800, 0⟩, none, true, "j", "ok"⟩]
        = [⟨"node-a", "b", some ⟨4102444800, 0⟩, none, true, "j", "ok"⟩] := by
  let o : Observation := ⟨"node-a", "b", some ⟨4102444800, 0⟩, none, true, "j", "ok"⟩
  have stamp : o.time.hourStamp = "21000101-00" := by
    have time : o.time = ⟨4102444800, 0⟩ := by decide
    have date : (⟨4102444800, 0⟩ : Instant).date = ⟨2100, 1, 1⟩ := by decide
    have hour : (⟨4102444800, 0⟩ : Instant).hour = 0 := by decide
    simp only [time, Instant.hourStamp, date, hour]
    cbv
  -- The slash makes `a` a directory of the file's path, and no such directory exists.
  have path : HourlyStore.pathOf ⟨"store", "a/b", 1000000, [o], true⟩
      (HourlyStore.fileName ⟨"store", "a/b", 1000000, [o], true⟩ "21000101-00")
      = .ok ["store", "a", "b-21000101-00.pb"] := by
    have text : Path.joinText "store" (HourlyStore.fileName ⟨"store", "a/b", 1000000, [o], true⟩
        "21000101-00") = "store/a/b-21000101-00.pb" := by
      decide
    rw [HourlyStore.pathOf, text]
    exact Path.read_eq_ok_iff.2 ⟨by decide, by decide, by decide, by decide⟩
  have missing : Dir.writeFile [("store", .dir [])] ["store", "a", "b-21000101-00.pb"] [] true
      = .error .notFound := by
    cbv
  have cut : (Span.ofHours? 1000000).bind (⟨1794441600, 0⟩ : Instant).unshift?
      = some ⟨-1805558400, 0⟩ := by
    decide
  have noFiles (queue : List Observation) (isOpen : Bool) :
      HourlyStore.hourFiles ⟨"store", "a/b", 1000000, queue, isOpen⟩ [("store", .dir [])]
        = .ok [] := by
    cbv
  refine ⟨⟨"store", "a/b", 1000000, [], true⟩, by cbv, [("store", .dir [])],
    ⟨"store", "a/b", 1000000, [], false⟩, ?_, ?_, by cbv⟩
  · show HourlyStore.drain ⟨"store", "a/b", 1000000, [o], true⟩ _ _ = _
    simp only [HourlyStore.drain, HourlyStore.drainBatches, HourlyStore.expire, cut, noFiles,
      HourlyStore.deleteOld, HourlyStore.writeBatches, HourlyStore.writeAll, stamp, path,
      HourlyStore.writeAll.reopen, missing, Bool.not_true, Bool.false_eq_true, if_false]
    rfl
  · simp only [HourlyStore.list, noFiles]
    cbv

/-- Two observations an hour apart, stored under a plain prefix, list as they were given. -/
theorem list_after_drain_two_hours :
    HourlyStore.PlainPrefix "store" "agent" ∧
      (∀ o ∈ [(⟨"node-a", "b", some ⟨1794438000, 0⟩, none, true, "j", "ok"⟩ : Observation),
          ⟨"node-a", "b", some ⟨1794441600, 0⟩, none, false, "j", "timeout"⟩],
        HourlyStore.Keepable ⟨-1805558400, 0⟩ o) ∧
      ∃ s, HourlyStore.create [("store", .dir [])] "store" "agent" 1000000
          = .ok ([("store", .dir [])], s) ∧
        ∃ v' s', ([⟨"node-a", "b", some ⟨1794438000, 0⟩, none, true, "j", "ok"⟩,
            ⟨"node-a", "b", some ⟨1794441600, 0⟩, none, false, "j", "timeout"⟩].foldl
            HourlyStore.add s).drain ⟨1794441600, 0⟩ [("store", .dir [])] = (v', s', none) ∧
          s'.list {} v' = .ok (Selection.select {}
            [⟨"node-a", "b", some ⟨1794438000, 0⟩, none, true, "j", "ok"⟩,
              ⟨"node-a", "b", some ⟨1794441600, 0⟩, none, false, "j", "timeout"⟩]) := by
  have plain : HourlyStore.PlainPrefix "store" "agent" :=
    ⟨by decide, by decide, by decide, by decide⟩
  have keep : ∀ o ∈ [(⟨"node-a", "b", some ⟨1794438000, 0⟩, none, true, "j", "ok"⟩ : Observation),
      ⟨"node-a", "b", some ⟨1794441600, 0⟩, none, false, "j", "timeout"⟩],
      HourlyStore.Keepable ⟨-1805558400, 0⟩ o := by
    intro o held
    simp only [List.mem_cons, List.not_mem_nil, or_false] at held
    rcases held with rfl | rfl
    all_goals
      refine ⟨by decide, by decide, ⟨?_, by simp, ?_⟩⟩
      · simp only [Option.mem_def, Option.some.injEq, forall_eq', Wire.PairFits]
        decide
      · -- The bound is too large to evaluate; the message is short.
        refine Nat.lt_of_lt_of_le (m := 100) ?_ (by decide)
        cbv
  refine ⟨plain, keep, list_after_drain (p := ["store"])
    (Path.read_eq_ok_iff.2 ⟨by decide, by decide, by decide, by decide⟩) rfl plain
    (show (Span.ofHours? 1000000).bind (⟨1794441600, 0⟩ : Instant).unshift?
      = some ⟨-1805558400, 0⟩ by decide) keep {}⟩

end Reachability.History
