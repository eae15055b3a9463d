import Reachability.History.Selection
import Reachability.Files.Volume
import Reachability.Probe.Wire
import Reachability.Time.Overflow
import Reachability.Time.Text

/-!
# Hourly observation files

A store keeps observations in a directory, one file per hour of observation time, named
`<prefix>-<hour stamp>.pb` (see `Instant.hourStamp`); a file is the records of its
observations in the order they were written (see `Probe.Wire`).

Writing happens in one drain. Observations added before it wait in a queue, which the
writer receives in batches: the drain first deletes expired files, then writes the batches in
turn, each in order. Whenever the hour changes from one observation to the next, the drain
opens the hour's file (creating it) and deletes expired files again; the file stays open
from one batch to the next. A file that cannot be opened drops the rest of its batch, and
the next batch opens its own first file. A deletion pass whose time arithmetic fails stops
the drain. After the drain the store takes no more observations. `drain` is the drain of a
queue received as one batch.

A file is expired when its hour ends at or before `now - retention`. Deleting only touches
files of this store's prefix whose hour stamp reads back; a file deleted while it is the
one being written keeps taking the hour's records, which are then lost.

Listing reads the store's files in order of hour, then name, skips those whose hour lies
outside the selection's time range, reads records up to the first one that fails, and
selects as `Selection.select` does.
-/

namespace Reachability.History

open Reachability.Time
open Reachability.Files
open Reachability.Probe

/-- Why a store operation failed. -/
inductive StoreError where
  /-- No store is configured. -/
  | noWriter
  /-- The store reports a failure of its own. -/
  | storage (message : String)
  /-- The volume refused an operation. -/
  | io (e : IoError)
  /-- Time arithmetic left its range. -/
  | overflow (o : Overflow)
deriving DecidableEq, Repr

/-- The text of a store failure. -/
def StoreError.message : StoreError → String
  | .noWriter => "no observation writer configured"
  | .storage m => "storage error: " ++ m
  | .io e => "IO error: " ++ e.message
  | .overflow o => o.message

/-- One hour in spans. -/
def oneHour : Span := ⟨3600 * (nanosPerSecond : Int)⟩

/-- A store of hourly files and its drain state. -/
structure HourlyStore where
  dir : String
  filePrefix : String
  retentionHours : Nat
  /-- Observations added and not yet written, oldest first. -/
  queue : List Observation := []
  /-- Whether the store still takes observations: true until its drain. -/
  open_ : Bool := true
deriving Repr

namespace HourlyStore

/-- The path of a file of the store: its name joined onto the directory's text. -/
def pathOf (s : HourlyStore) (name : String) : Except IoError Path :=
  Path.read (Path.joinText s.dir name)

/-- The file name of an hour. -/
def fileName (s : HourlyStore) (hour : String) : String := s.filePrefix ++ "-" ++ hour ++ ".pb"

/-- The hour a file name of this store names, if it is one. -/
def hourOf (s : HourlyStore) (name : String) : Option Instant :=
  let head := (s.filePrefix ++ "-").toList
  let cs := name.toList
  if head.isPrefixOf cs && ".pb".toList.isSuffixOf cs && cs.length ≥ head.length + 3 then
    HourStamp.read? (String.ofList ((cs.drop head.length).take (cs.length - head.length - 3)))
  else none

/-- The store's files with the hour each starts, in order of hour, then name. -/
def hourFiles (s : HourlyStore) (v : Dir) : Except IoError (List (Instant × String)) := do
  let entries ← v.list (← Path.read s.dir)
  let files := entries.filterMap fun (n, _) => (s.hourOf n).map fun t => (t, n)
  return files.mergeSort fun a b => decide (a.1 < b.1 ∨ (a.1 = b.1 ∧ a.2 ≤ b.2))

/-- A store over a directory, which is created with its parents when missing. -/
def create (v : Dir) (dir filePrefix : String) (retentionHours : Nat) :
    Except IoError (Dir × HourlyStore) := do
  let v' ← v.createPath dir
  return (v', { dir := dir, filePrefix := filePrefix, retentionHours := retentionHours })

/-- Takes an observation into the queue while the store is open. -/
def add (s : HourlyStore) (o : Observation) : HourlyStore :=
  if s.open_ then { s with queue := s.queue ++ [o] } else s

/-- Deletes the files in order; a file that cannot be deleted stays. The end of each
file's hour is computed on the way, and a file at the last hour of the calendar stops the
deletion there. -/
def deleteOld (s : HourlyStore) (cutoff : Instant) :
    List (Instant × String) → Dir → Dir × Option Overflow
  | [], v => (v, none)
  | (start, name) :: rest, v =>
    match start.shift? oneHour with
    | none => (v, some .laterInstant)
    | some stop =>
      let v' := if stop ≤ cutoff then
          match s.pathOf name >>= v.removeFile with
          | .ok v' => v'
          | .error _ => v
        else v
      deleteOld s cutoff rest v'

/-- Deletes the expired files. A retention reaching before the calendar's start stops the
drain. -/
def expire (s : HourlyStore) (now : Instant) (v : Dir) : Dir × Option Overflow :=
  match (Span.ofHours? s.retentionHours).bind now.unshift? with
  | none => (v, some .earlierInstant)
  | some cutoff =>
    match s.hourFiles v with
    | .error _ => (v, none)
    | .ok files => s.deleteOld cutoff files v

/-- The hour file being written: its hour stamp and whether it is still in the directory. -/
structure Current where
  hour : String
  present : Bool

/-- How writing a batch ended. -/
inductive BatchEnd where
  /-- The whole batch was written; the hour file left open, if any. -/
  | written (current : Option Current)
  /-- A file could not be opened: the rest of the batch is dropped, and no file is open. -/
  | refused
  /-- A deletion pass left the calendar: the writer stops. -/
  | fault (o : Overflow)

/-- What the end of a batch reports to the drain: only a fault stops it. -/
def BatchEnd.fault? : BatchEnd → Option Overflow
  | .fault o => some o
  | _ => none

/-- Writes a batch of observations in order, from the hour file `current` left open by the
batch before; see the module comment. -/
def writeAll (s : HourlyStore) (now : Instant) :
    List Observation → Option Current → Dir → Dir × BatchEnd
  | [], current, v => (v, .written current)
  | o :: rest, current, v =>
    let hour := o.time.hourStamp
    match s.pathOf (s.fileName hour) with
    | .error _ => (v, .refused)
    | .ok path =>
    let opened : Except IoError (Dir × Current × Option Overflow) :=
      match current with
      | some c => if c.hour = hour then .ok (v, c, none) else reopen v path hour
      | none => reopen v path hour
    match opened with
    | .error _ => (v, .refused)
    | .ok (v, _, some fault) => (v, .fault fault)
    | .ok (v, c, none) =>
      let v := if c.present then
          match v.writeFile path (Wire.record o) true with
          | .ok v' => v'
          | .error _ => v
        else v
      writeAll s now rest (some c) v
where
  reopen (v : Dir) (path : Path) (hour : String) :
      Except IoError (Dir × Current × Option Overflow) := do
    let v ← v.writeFile path [] true
    let (v, fault) := s.expire now v
    let present := match v.readFile path with
      | .ok _ => true
      | .error _ => false
    return (v, ⟨hour, present⟩, fault)

/-- Writes the batches in turn, carrying the open hour file from one batch to the next. -/
def writeBatches (s : HourlyStore) (now : Instant) :
    List (List Observation) → Option Current → Dir → Dir × Option Overflow
  | [], _, v => (v, none)
  | batch :: later, current, v =>
    match s.writeAll now batch current v with
    | (v, .written current) => s.writeBatches now later current v
    | (v, .refused) => s.writeBatches now later none v
    | (v, .fault o) => (v, some o)

/-- The drain of a queue that the writer receives in `batches`, whose concatenation is the
queue: deletes expired files, writes the batches and closes the store. A drain of a closed
store does nothing. -/
def drainBatches (s : HourlyStore) (now : Instant) (batches : List (List Observation)) (v : Dir) :
    Dir × HourlyStore × Option Overflow :=
  if !s.open_ then (v, s, none)
  else
    let closed := { s with queue := [], open_ := false }
    match s.expire now v with
    | (v, some fault) => (v, closed, some fault)
    | (v, none) =>
      let (v, fault) := s.writeBatches now batches none v
      (v, closed, fault)

/-- The drain of a queue received as one batch. -/
def drain (s : HourlyStore) (now : Instant) (v : Dir) : Dir × HourlyStore × Option Overflow :=
  s.drainBatches now [s.queue] v

/-- Reads the selected observations of the files in order. -/
def collect (s : HourlyStore) (sel : Selection) (v : Dir) :
    List (Instant × String) → Except StoreError (List Observation)
  | [] => .ok []
  | (start, name) :: rest => do
    let stop ← match start.shift? oneHour with
      | some e => pure e
      | none => throw (.overflow .laterInstant)
    let skip := (match sel.start with | some a => stop ≤ a | none => false) ||
      (match sel.stop with | some b => b ≤ start | none => false)
    if skip then s.collect sel v rest
    else
      match s.pathOf name >>= v.readFile with
      | .error .notFound => s.collect sel v rest
      | .error e => throw (.io e)
      | .ok bytes => do
        let later ← s.collect sel v rest
        return (Wire.records bytes).filter sel.selects ++ later

/-- The listing of a selection. -/
def list (s : HourlyStore) (sel : Selection) (v : Dir) : Except StoreError (List Observation) := do
  let files ← match s.hourFiles v with
    | .ok fs => pure fs
    | .error e => throw (.io e)
  let found ← s.collect sel v files
  return sel.finish found

end HourlyStore

end Reachability.History
