import Reachability.Time.Span
import Reachability.Number.Binary64
import Reachability.Text.Blank
import Reachability.Text.Quoted

/-!
# Durations as short texts

A duration is written as a number and a unit: `500ms`, `10s`, `5m`, `1h`; a bare number
counts seconds.

Reading trims blanks, takes the unit from the end (`ms` before `s`, then `m`, then `h`),
trims again and reads the number as a binary64 value (decimals, exponents, `inf` and `nan`
are numbers). The value times the unit in milliseconds, as a binary64 product, is rounded
to the nearest millisecond with halves away from zero; counts from `2^64` on are cut to
`2^64 - 1`. A number that cannot be read is refused with a hint, a negative or infinite
value or not-a-number without one; `-0` is zero.

Writing takes the whole milliseconds and uses the largest unit that divides them: hours,
then minutes (both only for a positive count), then seconds (so zero is `0s`), else
milliseconds.

The exact text of a duration, as diagnostics show it, uses the largest unit of seconds,
milliseconds, microseconds and nanoseconds that the duration reaches, with every
significant digit of the fraction: `1.5s`, `250ms`, `7.25µs`, `0ns`.
-/

namespace Reachability.Time

open Reachability.Number

/-- Why a duration text was refused; each carries the trimmed text. -/
inductive DurationTextError where
  /-- The number cannot be read. -/
  | unreadable (text : String)
  /-- The number is negative, infinite or not a number. -/
  | outOfRange (text : String)
deriving DecidableEq, Repr

/-- The message of a refused duration text. -/
def DurationTextError.message : DurationTextError → String
  | .unreadable t => "invalid duration " ++ Text.quoteVisible t ++ ", use e.g. 500ms, 10s, 5m, 1h"
  | .outOfRange t => "invalid duration " ++ Text.quoteVisible t

/-- The number part of a duration text and its unit in milliseconds. -/
def splitUnit (s : String) : String × Nat :=
  if s.endsWith "ms" then ((s.dropEnd 2).toString, 1)
  else if s.endsWith "s" then ((s.dropEnd 1).toString, 1000)
  else if s.endsWith "m" then ((s.dropEnd 1).toString, 60000)
  else if s.endsWith "h" then ((s.dropEnd 1).toString, 3600000)
  else (s, 1000)

/-- The largest count of milliseconds a duration text can give. -/
def maxTextMillis : Nat := Nat.pow 2 64 - 1

/-- Reads a duration text such as `500ms`, `10s`, `5m` or `1h`. -/
def readDuration (raw : String) : Except DurationTextError Elapsed :=
  let s := Text.trimBlanks raw
  let (num, unit) := splitUnit s
  match readBinary64 (Text.trimBlanks num) with
  | none => .error (.unreadable s)
  | some v =>
    if !v.isFinite || v.isNegative then .error (.outOfRange s)
    else .ok (Elapsed.ofMillis ((v.mulNat unit).roundToCount maxTextMillis))

/-- Writes a duration in its largest exact unit: `2h`, `90m`, `0s`, `1500ms`. -/
def writeDuration (d : Elapsed) : String :=
  let ms := d.millis
  if ms % 3600000 = 0 ∧ ms > 0 then toString (ms / 3600000) ++ "h"
  else if ms % 60000 = 0 ∧ ms > 0 then toString (ms / 60000) ++ "m"
  else if ms % 1000 = 0 then toString (ms / 1000) ++ "s"
  else toString ms ++ "ms"

/-- The digits of `fraction / (10 * unit)`, as far as they are significant. -/
def fractionDigits : Nat → Nat → Nat → List Char
  | 0, _, _ => []
  | fuel + 1, fraction, unit =>
    if fraction = 0 ∨ unit = 0 then []
    else Char.ofNat (48 + fraction / unit) :: fractionDigits fuel (fraction % unit) (unit / 10)

/-- A whole count of a unit and the rest, below one unit of `10 * place` nanoseconds. -/
def decimalText (whole rest place : Nat) (unit : String) : String :=
  let digits := fractionDigits 9 rest place
  toString whole ++ (if digits.isEmpty then "" else "." ++ String.ofList digits) ++ unit

/-- The exact text of a duration. -/
def Elapsed.exactText (d : Elapsed) : String :=
  if d.seconds > 0 then decimalText d.seconds d.subsecNanos (nanosPerSecond / 10) "s"
  else if d.nanos ≥ nanosPerMilli then
    decimalText (d.nanos / nanosPerMilli) (d.nanos % nanosPerMilli) (nanosPerMilli / 10) "ms"
  else if d.nanos ≥ 1000 then decimalText (d.nanos / 1000) (d.nanos % 1000) 100 "\u00b5s"
  else toString d.nanos ++ "ns"

example : (Elapsed.ofMillis 1500).exactText = "1.5s" := by decide
example : (Elapsed.ofMillis 250).exactText = "250ms" := by decide
example : Elapsed.zero.exactText = "0ns" := by decide

end Reachability.Time
