import Reachability.Probe.Observation
import Reachability.Text.Utf8

/-!
# Observations as protocol-buffer records

An observation is written as a protocol-buffer message: field 1 source host, 2 destination
host, 3 timestamp, 4 duration (both messages of seconds = 1 and nanos = 2), 5 ok, 6 job id,
7 result. Fields holding their default (empty text, zero, false, no message) are left out.
A record is the message preceded by its length as a varint; a store file is a sequence of
records.

Reading is tolerant in the ways of the format: fields may come in any order or more than
once (the last scalar wins, messages merge), unknown fields are skipped whatever their wire
type, and varints need not be minimal. It fails on a truncated field, a varint longer than
ten bytes, a key above `2^32 - 1`, wire type 6 or 7, field number 0, a known field with the
wrong wire type, text that is not UTF-8, a stray end-of-group, or nesting a hundred levels
deep, where the record, each message and each group is a level. `records` reads records
until the bytes end or one fails.
-/

namespace Reachability.Probe.Wire

open Reachability.Time
open Reachability.Text

/-- A sequence of bytes. -/
abbrev Bytes := List UInt8

/-- The base-128 varint of a number: seven bits per byte, low bits first, the high bit set
on every byte but the last. -/
def varint (n : Nat) : Bytes :=
  if n < 128 then [n.toUInt8]
  else (n % 128 + 128).toUInt8 :: varint (n / 128)
termination_by n
decreasing_by omega

/-- The key of a field: its number and wire type. -/
def key (tag wireType : Nat) : Bytes := varint (tag * 8 + wireType)

/-- A length-delimited field. -/
def delimited (tag : Nat) (body : Bytes) : Bytes := key tag 2 ++ varint body.length ++ body

/-- A text field; empty text is left out. -/
def textField (tag : Nat) (s : String) : Bytes :=
  if s.isEmpty then [] else delimited tag (Utf8.encode s)

/-- A signed integer field, as the varint of its 64-bit two's complement; zero is left out. -/
def intField (tag : Nat) (v : Int) : Bytes :=
  if v = 0 then [] else key tag 0 ++ varint (v % Int.pow 2 64).toNat

/-- A flag field; false is left out. -/
def flagField (tag : Nat) (b : Bool) : Bytes := if b then key tag 0 ++ [1] else []

/-- A message field; an absent message is left out. -/
def messageField (tag : Nat) : Option Bytes → Bytes
  | none => []
  | some body => delimited tag body

/-- The message of a seconds and nanoseconds pair. -/
def pairBody (seconds nanos : Int) : Bytes := intField 1 seconds ++ intField 2 nanos

/-- The message of an observation. -/
def body (o : Observation) : Bytes :=
  textField 1 o.srcHost ++ textField 2 o.destHost ++
    messageField 3 (o.timestamp.map fun s => pairBody s.seconds s.nanos) ++
    messageField 4 (o.duration.map fun d => pairBody d.seconds d.nanos) ++
    flagField 5 o.ok ++ textField 6 o.jobId ++ textField 7 o.result

/-- The record of an observation: the length of its message, then the message. -/
def record (o : Observation) : Bytes := varint (body o).length ++ body o

/-- Reads a varint of at most ten bytes whose value is below `2^64`. -/
def readVarint (bs : Bytes) : Option (Nat × Bytes) := go 0 0 bs
where
  go (i acc : Nat) : Bytes → Option (Nat × Bytes)
    | [] => none
    | b :: rest =>
      let acc := acc + b.toNat % 128 * Nat.pow 2 (7 * i)
      if b.toNat < 128 then
        if i = 9 ∧ b.toNat ≥ 2 then none else some (acc, rest)
      else if i = 9 then none
      else go (i + 1) acc rest

/-- Splits off exactly `n` bytes. -/
def takeExact (n : Nat) (bs : Bytes) : Option (Bytes × Bytes) :=
  if n ≤ bs.length then some (bs.take n, bs.drop n) else none

/-- A field key: field number and wire type. -/
structure Key where
  tag : Nat
  wireType : Nat

/-- Reads a field key. -/
def readKey (bs : Bytes) : Option (Key × Bytes) := do
  let (k, rest) ← readVarint bs
  if k ≥ Nat.pow 2 32 ∨ k % 8 > 5 ∨ k / 8 = 0 then none
  else some (⟨k / 8, k % 8⟩, rest)

/-- Reads a length-delimited value. -/
def readDelimited (bs : Bytes) : Option (Bytes × Bytes) := do
  let (n, rest) ← readVarint bs
  takeExact n rest

mutual

/-- Skips the value of an unknown field. `depth` counts the nesting still allowed. -/
def skipValue : Nat → Nat → Key → Bytes → Option Bytes
  | 0, _, _, _ => none
  | fuel + 1, depth, k, bs =>
    if depth = 0 then none
    else match k.wireType with
      | 0 => (readVarint bs).map (·.2)
      | 1 => (takeExact 8 bs).map (·.2)
      | 2 => (readDelimited bs).map (·.2)
      | 3 => skipGroup fuel depth k.tag bs
      | 5 => (takeExact 4 bs).map (·.2)
      | _ => none

/-- Skips the fields of a group up to its end-of-group key, which must carry the group's
field number. -/
def skipGroup : Nat → Nat → Nat → Bytes → Option Bytes
  | 0, _, _, _ => none
  | fuel + 1, depth, tag, bs => do
    let (k, rest) ← readKey bs
    if k.wireType = 4 then
      if k.tag = tag then some rest else none
    else
      let rest ← skipValue fuel (depth - 1) k rest
      skipGroup fuel depth tag rest

end

/-- Merges the fields of a seconds and nanoseconds message into a pair. Seconds are read
as a signed 64-bit word, nanoseconds as a signed 32-bit word. -/
def mergePair : Nat → Nat → Int × Int → Bytes → Option (Int × Int)
  | 0, _, _, _ => none
  | fuel + 1, depth, p, bs =>
    if bs.isEmpty then some p
    else do
      let (k, rest) ← readKey bs
      if k.tag = 1 ∨ k.tag = 2 then
        if k.wireType ≠ 0 then none
        else
          let (v, rest) ← readVarint rest
          if k.tag = 1 then mergePair fuel depth (wrapSigned64 v, p.2) rest
          else mergePair fuel depth (p.1, wrapSigned32 v) rest
      else
        let rest ← skipValue (rest.length + 1) depth k rest
        mergePair fuel depth p rest

/-- Reads a text value. -/
def readText (bs : Bytes) : Option (String × Bytes) := do
  let (raw, rest) ← readDelimited bs
  let s ← Utf8.decode raw
  some (s, rest)

/-- Reads a message value into the pair it merges with. The message itself takes one level
of the nesting allowed, its fields the levels below. -/
def readPair (depth : Nat) (p : Int × Int) (bs : Bytes) : Option (Int × Int × Bytes) := do
  if depth = 0 then none
  let (raw, rest) ← readDelimited bs
  let q ← mergePair (raw.length + 1) (depth - 1) p raw
  some (q.1, q.2, rest)

/-- The observation with no field set. -/
def blank : Observation :=
  { srcHost := "", destHost := "", timestamp := none, duration := none, ok := false,
    jobId := "", result := "" }

/-- Merges the fields of an observation message into an observation. A record is itself a
delimited message, so its fields start one level below the hundred allowed. -/
def mergeObservation : Nat → Observation → Bytes → Option Observation
  | 0, _, _ => none
  | fuel + 1, o, bs =>
    if bs.isEmpty then some o
    else do
      let (k, rest) ← readKey bs
      let text (wt : Nat) : Option (String × Bytes) := if wt ≠ 2 then none else readText rest
      match k.tag with
      | 1 => let (s, rest) ← text k.wireType; mergeObservation fuel { o with srcHost := s } rest
      | 2 => let (s, rest) ← text k.wireType; mergeObservation fuel { o with destHost := s } rest
      | 3 =>
        if k.wireType ≠ 2 then none
        else
          let old := o.timestamp.map (fun s => (s.seconds, s.nanos)) |>.getD (0, 0)
          let (a, b, rest) ← readPair 99 old rest
          mergeObservation fuel { o with timestamp := some ⟨a, b⟩ } rest
      | 4 =>
        if k.wireType ≠ 2 then none
        else
          let old := o.duration.map (fun d => (d.seconds, d.nanos)) |>.getD (0, 0)
          let (a, b, rest) ← readPair 99 old rest
          mergeObservation fuel { o with duration := some ⟨a, b⟩ } rest
      | 5 =>
        if k.wireType ≠ 0 then none
        else
          let (v, rest) ← readVarint rest
          mergeObservation fuel { o with ok := v ≠ 0 } rest
      | 6 => let (s, rest) ← text k.wireType; mergeObservation fuel { o with jobId := s } rest
      | 7 => let (s, rest) ← text k.wireType; mergeObservation fuel { o with result := s } rest
      | _ =>
        let rest ← skipValue (rest.length + 1) 99 k rest
        mergeObservation fuel o rest

/-- Reads one record from the front. -/
def readRecord (bs : Bytes) : Option (Observation × Bytes) := do
  let (raw, rest) ← readDelimited bs
  let o ← mergeObservation (raw.length + 1) blank raw
  some (o, rest)

/-- Reads records from the front until the bytes end or a record fails. -/
def recordsFrom : Nat → Bytes → List Observation
  | 0, _ => []
  | fuel + 1, bs =>
    if bs.isEmpty then []
    else match readRecord bs with
      | none => []
      | some (o, rest) => o :: recordsFrom fuel rest

/-- The observations of a store file, up to the first record that fails. -/
def records (bs : Bytes) : List Observation := recordsFrom bs.length bs

example : (record (Observation.make "" "" "" false none ⟨0, 0⟩ "")).length = 3 := by decide +kernel

end Reachability.Probe.Wire
