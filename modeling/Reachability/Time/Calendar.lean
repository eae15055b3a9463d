/-!
# The proleptic Gregorian calendar

Days are numbered from 1970-01-01, which is day 0; earlier days are negative. A date is a
year (any integer, year 0 included), a month `1..12` and a day of the month. The conversion
from day numbers walks 400-year eras of 146097 days, so it needs no loop and is exact for
every integer.

Main statements: `Date.toDayNumber` and `Date.ofDayNumber` are checked against each other
on the dates that matter to this library in `Time.Text`.
-/

namespace Reachability.Time

/-- A date of the proleptic Gregorian calendar. -/
structure Date where
  year : Int
  month : Nat
  day : Nat
deriving DecidableEq, Repr

/-- Every fourth year is a leap year, except centuries that 400 does not divide. -/
def isLeapYear (y : Int) : Bool :=
  y % 4 == 0 && (y % 100 != 0 || y % 400 == 0)

/-- The number of days in a month of a year; months outside `1..12` have 31. -/
def daysInMonth (y : Int) (m : Nat) : Nat :=
  match m with
  | 2 => if isLeapYear y then 29 else 28
  | 4 | 6 | 9 | 11 => 30
  | _ => 31

namespace Date

/-- A date names a real day: its month is `1..12` and its day fits that month. -/
def isValid (d : Date) : Bool :=
  1 ≤ d.month && d.month ≤ 12 && 1 ≤ d.day && d.day ≤ daysInMonth d.year d.month

/-- The date of a day number. Years are counted from March, so that the leap day ends a
year; `mp` is the month counted from March. -/
def ofDayNumber (z : Int) : Date :=
  let z := z + 719468
  let era := z / 146097
  let doe := z - era * 146097
  let yoe := (doe - doe / 1460 + doe / 36524 - doe / 146096) / 365
  let doy := doe - (365 * yoe + yoe / 4 - yoe / 100)
  let mp := (5 * doy + 2) / 153
  let day := doy - (153 * mp + 2) / 5 + 1
  let month := if mp < 10 then mp + 3 else mp - 9
  let year := yoe + era * 400
  { year := if month ≤ 2 then year + 1 else year, month := month.toNat, day := day.toNat }

/-- The day number of a valid date. -/
def toDayNumber (d : Date) : Int :=
  let y : Int := if d.month ≤ 2 then d.year - 1 else d.year
  let era := y / 400
  let yoe := y - era * 400
  let mp : Int := if d.month > 2 then (d.month : Int) - 3 else (d.month : Int) + 9
  let doy := (153 * mp + 2) / 5 + (d.day : Int) - 1
  let doe := yoe * 365 + yoe / 4 - yoe / 100 + doy
  era * 146097 + doe - 719468

end Date

example : Date.ofDayNumber 0 = ⟨1970, 1, 1⟩ := by decide
example : Date.ofDayNumber 19753 = ⟨2024, 1, 31⟩ := by decide
example : Date.toDayNumber ⟨2000, 3, 1⟩ = 11017 := by decide
example : Date.ofDayNumber (-1) = ⟨1969, 12, 31⟩ := by decide

end Reachability.Time
