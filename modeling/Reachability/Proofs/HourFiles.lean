import Mathlib
import Reachability.Proofs.Retention
import Reachability.Proofs.Except

/-!
# Hour files: their names and what the drain leaves in them

A store writes each observation to the file named by the hour stamp of its time, and a
listing or a deletion pass reads the hour of a file back from its name.

`hour_file_name_reads_back`: the name of an hour's file reads back as the start of that hour
exactly when the hour's year lies in `0..9999`, and the hour read back, `[start, start + 1h)`,
holds the instant it was written for. Stamps of other years carry a sign and read as no hour
(`HourStamp.read?_hourStamp_of_signed`), so a listing skips their files and no deletion pass
removes them (`year_before_zero_file_reads_no_hour`).

`drain_lays_out_hour_files`: a store created over an empty directory, given observations in
any order of hours and then drained, leaves one file per hour, holding the records of that
hour's observations in the order given, and nothing else. This needs each file name to be a
name the directory can hold and each file to be spared by retention (`HourlyStore.Writable`);
a name one byte too long is not created, and the drain drops the observation without a fault
(`drain_with_long_prefix_writes_nothing`).
-/

namespace Reachability.History

open Reachability.Time
open Reachability.Files
open Reachability.Probe

namespace HourlyStore

/-- A store is created open, with nothing queued, over the directory and prefix it is given. -/
theorem eq_of_create {v v₁ : Dir} {dir filePrefix : String} {retention : Nat} {s : HourlyStore}
    (created : create v dir filePrefix retention = .ok (v₁, s)) :
    s = { dir := dir, filePrefix := filePrefix, retentionHours := retention } := by
  unfold create at created
  obtain ⟨v', -, finished⟩ := Except.bind_eq_ok_iff.1 created
  simp only [Except.pure_eq_ok_iff, Prod.mk.injEq] at finished
  exact finished.2.symm

/-- The name of an hour's file reads back as the start of the hour exactly when the year lies
in `0..9999`, leap seconds included; the hour read back holds the instant. -/
theorem hour_file_name_reads_back (s : HourlyStore) {t : Instant} (valid : t.isValid = true) :
    s.hourOf (s.fileName t.hourStamp) =
        (if 0 ≤ t.date.year ∧ t.date.year ≤ 9999 then some t.hourStart else none) ∧
      ∀ start, s.hourOf (s.fileName t.hourStamp) = some start →
        ∃ stop, start.shift? oneHour = some stop ∧ start ≤ t ∧ t < stop := by
  have readBack : s.hourOf (s.fileName t.hourStamp) =
      if 0 ≤ t.date.year ∧ t.date.year ≤ 9999 then some t.hourStart else none := by
    rw [s.hourOf_fileName_eq, HourStamp.read?_hourStamp_eq valid]
  refine ⟨readBack, fun start named => ?_⟩
  rw [readBack] at named
  split_ifs at named with fourDigits
  · rw [Option.some_inj] at named
    subst named
    exact ⟨t.hourEnd, shift?_hourStart valid fourDigits, t.hourStart_le, t.lt_hourEnd⟩

/- The file of a leap second, 23:59:60.5 on 29 February 2000, reads back as 23:00 that day. -/
example :
    hourOf { dir := "store", filePrefix := "agent", retentionHours := 1000000 }
      (fileName { dir := "store", filePrefix := "agent", retentionHours := 1000000 }
        (Instant.hourStamp ⟨951868799, 1500000000⟩)) = some ⟨951865200, 0⟩ := by
  decide

end HourlyStore

/-- The last hour of the year before year 0 is stamped with a sign, and its file's name reads as
no hour, where the hour it was written for starts at the instant itself. -/
theorem year_before_zero_file_reads_no_hour :
    Instant.hourStamp ⟨-62167222800, 0⟩ = "-00011231-23" ∧
      HourlyStore.hourOf { dir := "store", filePrefix := "agent", retentionHours := 20000000 }
        (HourlyStore.fileName { dir := "store", filePrefix := "agent", retentionHours := 20000000 }
          (Instant.hourStamp ⟨-62167222800, 0⟩)) = none ∧
      Instant.hourStart ⟨-62167222800, 0⟩ = ⟨-62167222800, 0⟩ := by
  decide

/-- A store created over an empty directory, given observations in any order of hours and then
drained, leaves the directory with one file per hour of the observations and nothing else: each
file holds the records of its hour's observations, in the order given. Nothing else of the
volume changes. This holds when each observation's file name is a name the directory can hold
and each file is spared by retention. -/
theorem drain_lays_out_hour_files {v v₁ : Dir} {dir filePrefix : String} {retention : Nat}
    {p : Path} {now cutoff : Instant} {s : HourlyStore} (os : List Observation)
    (created : HourlyStore.create v dir filePrefix retention = .ok (v₁, s))
    (readable : Path.read dir = .ok p) (empty : v₁.lookup p = .ok (.dir []))
    (cut : (Span.ofHours? retention).bind now.unshift? = some cutoff)
    (writable : ∀ o ∈ os, s.Writable cutoff o) :
    ∃ v' pd, (os.foldl HourlyStore.add s).drain now v₁ = (v', { s with open_ := false }, none) ∧
      v'.lookup p = .ok (.dir pd) ∧ (∃ q, v₁.locate p = .ok q ∧ (v' = v₁ ∨ v' = v₁.setDir pd q)) ∧
      (pd.map (·.1)).Nodup ∧
      ∀ name, Dir.entry? pd name =
        if name ∈ os.map s.fileOf then
          some (.file ((os.filter (s.fileOf · = name)).flatMap Wire.record))
        else none := by
  have store := HourlyStore.eq_of_create created
  subst store
  obtain ⟨q, there⟩ := DirAt.of_lookup empty
  let queued : HourlyStore :=
    { dir := dir, filePrefix := filePrefix, retentionHours := retention, queue := os }
  have added : os.foldl HourlyStore.add
      { dir := dir, filePrefix := filePrefix, retentionHours := retention } = queued := by
    rw [HourlyStore.foldl_add os rfl]
    rfl
  rw [added]
  obtain ⟨v', pd, drained, framed, there', holds⟩ :=
    HourlyStore.drain_writes queued readable cut rfl
      (fun o held => ⟨(writable o held).plain, (writable o held).spared⟩) there
  have holds' : HourlyStore.Holds { dir := dir, filePrefix := filePrefix, retentionHours := retention }
      os pd :=
    holds.of_filePrefix rfl
  refine ⟨v', pd, drained, Dir.lookup_eq_ok_iff.2 ⟨q, there'.located, there'.found⟩,
    ⟨q, there.located, framed⟩, holds'.unique, fun name => ?_⟩
  exact holds'.entry name

/-- Observations that go back to an earlier hour: the earlier hour's file holds the first and
the third, in that order, the later hour's file the second, and there is no other file. -/
theorem drain_returns_to_earlier_hour :
    ∃ v' pd, ([⟨"node-a", "b", some ⟨1794438000, 0⟩, none, true, "j", "ok"⟩,
        ⟨"node-a", "b", some ⟨1794441600, 0⟩, none, false, "j", "timeout"⟩,
        ⟨"node-a", "b", some ⟨1794439800, 0⟩, none, true, "j", "ok"⟩].foldl HourlyStore.add
          { dir := "store", filePrefix := "agent", retentionHours := 1000000 }).drain
        ⟨1794441600, 0⟩ [("store", .dir [])] =
        (v', { dir := "store", filePrefix := "agent", retentionHours := 1000000, open_ := false },
          none) ∧
      v'.lookup ["store"] = .ok (.dir pd) ∧
      Dir.entry? pd "agent-20261111-23.pb" =
        some (.file (Wire.record ⟨"node-a", "b", some ⟨1794438000, 0⟩, none, true, "j", "ok"⟩ ++
          Wire.record ⟨"node-a", "b", some ⟨1794439800, 0⟩, none, true, "j", "ok"⟩)) ∧
      Dir.entry? pd "agent-20261112-00.pb" =
        some (.file (Wire.record ⟨"node-a", "b", some ⟨1794441600, 0⟩, none, false, "j", "timeout"⟩)) ∧
      ∀ name, name ≠ "agent-20261111-23.pb" → name ≠ "agent-20261112-00.pb" →
        Dir.entry? pd name = none := by
  let store : HourlyStore := { dir := "store", filePrefix := "agent", retentionHours := 1000000 }
  let os : List Observation := [⟨"node-a", "b", some ⟨1794438000, 0⟩, none, true, "j", "ok"⟩,
    ⟨"node-a", "b", some ⟨1794441600, 0⟩, none, false, "j", "timeout"⟩,
    ⟨"node-a", "b", some ⟨1794439800, 0⟩, none, true, "j", "ok"⟩]
  have plain : HourlyStore.PlainPrefix "store" "agent" :=
    ⟨by decide, by decide, by decide, by decide⟩
  have readable : Path.read "store" = .ok ["store"] :=
    Path.read_eq_ok_iff.2 ⟨by decide, by decide, by decide, by decide⟩
  have writable : ∀ o ∈ os, store.Writable ⟨-1805558400, 0⟩ o := by
    intro o held
    simp only [os, List.mem_cons, List.not_mem_nil, or_false] at held
    rcases held with rfl | rfl | rfl
    all_goals exact store.writable_of_later plain (by decide) (by decide)
  have empty : Dir.lookup [("store", .dir [])] ["store"] = .ok (.dir []) := rfl
  obtain ⟨v', pd, drained, found, -, -, entries⟩ := drain_lays_out_hour_files os
    (HourlyStore.create_of_lookup readable empty) readable empty
    (show (Span.ofHours? 1000000).bind (⟨1794441600, 0⟩ : Instant).unshift?
      = some ⟨-1805558400, 0⟩ by decide) writable
  have names : os.map store.fileOf =
      ["agent-20261111-23.pb", "agent-20261112-00.pb", "agent-20261111-23.pb"] := by
    decide
  have earlier : os.filter (store.fileOf · = "agent-20261111-23.pb") =
      [⟨"node-a", "b", some ⟨1794438000, 0⟩, none, true, "j", "ok"⟩,
        ⟨"node-a", "b", some ⟨1794439800, 0⟩, none, true, "j", "ok"⟩] := by
    decide
  have later : os.filter (store.fileOf · = "agent-20261112-00.pb") =
      [⟨"node-a", "b", some ⟨1794441600, 0⟩, none, false, "j", "timeout"⟩] := by
    decide
  refine ⟨v', pd, drained, found, ?_, ?_, fun name notEarlier notLater => ?_⟩
  · rw [entries, names, earlier]
    simp
  · rw [entries, names, later]
    simp
  · rw [entries, names]
    simp [notEarlier, notLater]

/-- A prefix of 241 bytes makes hour file names of 256 bytes, one more than a name may have: the
drain cannot open the observation's file, writes nothing, reports no fault and closes the store,
and the directory stays empty where the observation's file should hold its record. -/
theorem drain_with_long_prefix_writes_nothing :
    ∃ s, HourlyStore.create [("store", .dir [])] "store" (String.ofList (List.replicate 241 'a'))
        1000000 = .ok ([("store", .dir [])], s) ∧
      ([⟨"node-a", "b", some ⟨4102444800, 0⟩, some ⟨0, 5000000⟩, true, "j", "ok"⟩].foldl
          HourlyStore.add s).drain ⟨1794441600, 0⟩ [("store", .dir [])] =
        ([("store", .dir [])], { s with open_ := false }, none) := by
  let o : Observation := ⟨"node-a", "b", some ⟨4102444800, 0⟩, some ⟨0, 5000000⟩, true, "j", "ok"⟩
  have readable : Path.read "store" = .ok ["store"] :=
    Path.read_eq_ok_iff.2 ⟨by decide, by decide, by decide, by decide⟩
  have there : DirAt [("store", .dir [])] ["store"] ["store"] [] := ⟨by decide, rfl⟩
  have stamp : o.time.hourStamp = "21000101-00" := by
    have time : o.time = ⟨4102444800, 0⟩ := by decide
    have date : (⟨4102444800, 0⟩ : Instant).date = ⟨2100, 1, 1⟩ := by decide
    have hour : (⟨4102444800, 0⟩ : Instant).hour = 0 := by decide
    simp only [time, Instant.hourStamp, date, hour]
    cbv
  -- The facts about the name are stated for a prefix of any length, so that no step spells the
  -- 241 characters out. The name is plain but for its length: the path reads, and only the
  -- write is refused.
  have size (n : Nat) : (HourlyStore.fileName
      ⟨"store", String.ofList (List.replicate n 'a'), 1000000, [o], true⟩ "21000101-00").utf8ByteSize
      = n + 15 := by
    have ascii : (String.ofList (List.replicate n 'a')).utf8ByteSize = n := by
      rw [utf8ByteSize_ofList_of_ascii, List.length_replicate]
      intro c held
      rw [(List.mem_replicate.1 held).2]
      rfl
    simp only [HourlyStore.fileName, String.utf8ByteSize_append, ascii]
    rfl
  have plainChars (n : Nat) : '/' ∉ (HourlyStore.fileName
      ⟨"store", String.ofList (List.replicate n 'a'), 1000000, [o], true⟩ "21000101-00").toList ∧
      '\x00' ∉ (HourlyStore.fileName
        ⟨"store", String.ofList (List.replicate n 'a'), 1000000, [o], true⟩ "21000101-00").toList := by
    simp [HourlyStore.fileName, String.toList_append, List.mem_replicate]
  have differs {other : String} (shorter : other.utf8ByteSize < 256) : HourlyStore.fileName
      ⟨"store", String.ofList (List.replicate 241 'a'), 1000000, [o], true⟩ "21000101-00" ≠ other := by
    intro same
    have sized := size 241
    rw [same] at sized
    omega
  have long : tooLong (HourlyStore.fileName
      ⟨"store", String.ofList (List.replicate 241 'a'), 1000000, [o], true⟩ "21000101-00") = true := by
    simp only [tooLong, size 241]
    decide
  have path : HourlyStore.pathOf ⟨"store", String.ofList (List.replicate 241 'a'), 1000000, [o], true⟩
      (HourlyStore.fileName ⟨"store", String.ofList (List.replicate 241 'a'), 1000000, [o], true⟩
        "21000101-00") =
      .ok (["store"] ++ [HourlyStore.fileName
        ⟨"store", String.ofList (List.replicate 241 'a'), 1000000, [o], true⟩ "21000101-00"]) :=
    Path.read_joinText readable (plainChars 241).1 (plainChars 241).2 (differs (by decide))
      (differs (by decide)) (by rw [size 241]; decide)
  have refused := there.writeFile_long (beq_eq_false_iff_ne.2 (differs (by decide))) long [] true
  have cut : (Span.ofHours? 1000000).bind (⟨1794441600, 0⟩ : Instant).unshift?
      = some ⟨-1805558400, 0⟩ := by
    decide
  have noFiles (queue : List Observation) (isOpen : Bool) :
      HourlyStore.hourFiles ⟨"store", String.ofList (List.replicate 241 'a'), 1000000, queue, isOpen⟩
        [("store", .dir [])] = .ok [] := by
    cbv
  refine ⟨⟨"store", String.ofList (List.replicate 241 'a'), 1000000, [], true⟩,
    HourlyStore.create_of_lookup readable rfl, ?_⟩
  show HourlyStore.drain
    ⟨"store", String.ofList (List.replicate 241 'a'), 1000000, [o], true⟩ _ _ = _
  simp only [HourlyStore.drain, HourlyStore.drainBatches, HourlyStore.expire, cut, noFiles,
    HourlyStore.deleteOld, HourlyStore.writeBatches, HourlyStore.writeAll, stamp, path,
    HourlyStore.writeAll.reopen, refused, Bool.not_true, Bool.false_eq_true, if_false]
  rfl

end Reachability.History
