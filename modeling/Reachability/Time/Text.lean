import Reachability.Time.Instant
import Reachability.Text.Blank

/-!
# Instants as text

Two written forms of an instant.

* The RFC 3339 form `YYYY-MM-DDTHH:MM:SS[.fff|.ffffff|.fffffffff]Z`. The fraction has the
  fewest of 0, 3, 6 or 9 digits that is exact; a leap second is written as second 60.
* The hour stamp `YYYYMMDD-HH`, which names hourly files.

In both, a year inside `0..9999` has four digits, and any other year an explicit sign
followed by at least four digits.

Reading an hour stamp appends `00` for the minute and reads year, month, day, a dash, hour
and minute. Each number may be preceded by blanks. A year without a sign has at most four
digits, a signed year any number of them, and the other fields one or two digits. The date
must exist, and nothing may follow the minute.
-/

namespace Reachability.Time

/-- The decimal digits of `n`, with zeros in front up to `width` digits. -/
def padded (width n : Nat) : String :=
  let digits := toString n
  String.ofList (List.replicate (width - digits.length) '0') ++ digits

/-- A year: four digits inside `0..9999`, otherwise a sign and at least four digits. -/
def yearText (y : Int) : String :=
  if 0 ≤ y ∧ y ≤ 9999 then padded 4 y.toNat
  else (if y < 0 then "-" else "+") ++ padded 4 y.natAbs

namespace Instant

/-- The hour stamp `YYYYMMDD-HH` of the hour holding the instant. -/
def hourStamp (t : Instant) : String :=
  let d := t.date
  yearText d.year ++ padded 2 d.month ++ padded 2 d.day ++ "-" ++ padded 2 t.hour

/-- The fraction of a second with 3, 6 or 9 digits, the fewest that are exact; empty when
the fraction is zero. -/
def fractionText (nanos : Nat) : String :=
  if nanos = 0 then ""
  else if nanos % 1000000 = 0 then "." ++ padded 3 (nanos / 1000000)
  else if nanos % 1000 = 0 then "." ++ padded 6 (nanos / 1000)
  else "." ++ padded 9 nanos

/-- The RFC 3339 form in UTC; a leap second is second 60. -/
def rfc3339 (t : Instant) : String :=
  let d := t.date
  let (sec, frac) := if t.isLeap then (t.second + 1, t.nanos - nanosPerSecond)
    else (t.second, t.nanos)
  yearText d.year ++ "-" ++ padded 2 d.month ++ "-" ++ padded 2 d.day ++ "T" ++
    padded 2 t.hour ++ ":" ++ padded 2 t.minute ++ ":" ++ padded 2 sec ++ fractionText frac ++ "Z"

end Instant

namespace HourStamp

/-- The value of a run of ASCII digits, taken from the front. -/
def digitsValue (ds : List Char) : Nat :=
  ds.foldl (fun acc c => acc * 10 + (c.toNat - '0'.toNat)) 0

/-- Takes between `least` and `most` ASCII digits from the front. -/
def digitsAt (cs : List Char) (least most : Nat) : Option (Nat × List Char) :=
  let ds := (cs.takeWhile Char.isDigit).take most
  if ds.length < least then none
  else some (digitsValue ds, cs.drop ds.length)

/-- Takes between `least` and `most` ASCII digits from the front, after blanks. -/
def number (cs : List Char) (least most : Nat) : Option (Nat × List Char) :=
  digitsAt (Text.dropBlanks cs) least most

/-- Signed 64-bit words hold the numbers read; a longer year is refused. -/
def wordLimit : Nat := Nat.pow 2 63

/-- A year: a sign and any number of digits, or up to four digits; it must fit a signed
32-bit word. -/
def year (cs : List Char) : Option (Int × List Char) := do
  let cs := Text.dropBlanks cs
  let (y, rest) ← match cs with
    | '-' :: more => (digitsAt more 1 more.length).map fun (n, r) => (-(n : Int), r)
    | '+' :: more => (digitsAt more 1 more.length).map fun (n, r) => ((n : Int), r)
    | _ => (digitsAt cs 1 4).map fun (n, r) => ((n : Int), r)
  if y.natAbs ≥ wordLimit then none
  else if -Int.pow 2 31 ≤ y ∧ y < Int.pow 2 31 then some (y, rest) else none

/-- A field of one or two digits inside `lo..hi`. -/
def field (cs : List Char) (lo hi : Nat) : Option (Nat × List Char) := do
  let (n, rest) ← number cs 1 2
  if lo ≤ n ∧ n ≤ hi then some (n, rest) else none

/-- Reads `YYYYMMDD-HHMM` into the instant it names. -/
def readMinute (cs : List Char) : Option Instant := do
  let (y, cs) ← year cs
  let (mo, cs) ← field cs 1 12
  let (d, cs) ← field cs 1 31
  let cs ← match cs with
    | '-' :: rest => some rest
    | _ => none
  let (h, cs) ← field cs 0 23
  let (mi, cs) ← field cs 0 59
  if !cs.isEmpty then none
  let date : Date := ⟨y, mo, d⟩
  if !date.isValid then none
  let secs := date.toDayNumber * 86400 + (h * 3600 + mi * 60 : Nat)
  if !Instant.inRange secs then none
  some ⟨secs, 0⟩

/-- The start of the hour named by an hour stamp, if it names one. -/
def read? (stamp : String) : Option Instant := do
  let t ← readMinute (stamp ++ "00").toList
  if t.minute = 0 then some t else none

end HourStamp

example : Instant.hourStamp ⟨1710061200, 0⟩ = "20240310-09" := by decide
example : Instant.rfc3339 ⟨59, 1500000000⟩ = "1970-01-01T00:00:60.500Z" := by decide
example : Instant.hourStamp ⟨253402318800, 0⟩ = "+100000101-05" := by decide
example : HourStamp.read? "20240310-1" = some ⟨1710064800, 0⟩ := by decide
example : HourStamp.read? " 20240310-10 " = some ⟨1710064800, 0⟩ := by decide
example : HourStamp.read? "20240310-9" = none := by decide

end Reachability.Time
