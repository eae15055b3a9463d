import Mathlib
import Reachability.Time.Calendar

/-!
# Day numbers and dates agree

`Date.ofDayNumber` splits a day number into 400-year eras and a day of the era, the day of
the era into a year counted from March and a day of that year, and that day into a month and
a day of the month; `Date.toDayNumber` puts the pieces back together. The split rests on one
fact about an era, `EraPlace`: its day `doe` is day `d` of year `100 c + 4 q + s` of the era,
where `c` counts centuries, `q` four-year cycles and `s` years of the cycle, so that
`doe = 36524 c + 1461 q + 365 s + d`; a day 365 exists only in a year that a leap day ends.

Main statements: for every integer, `ofDayNumber` gives a valid date
(`isValid_ofDayNumber`) whose day number is that integer (`toDayNumber_ofDayNumber`).
-/

namespace Reachability.Time.Date

/-- Century `c`, four-year cycle `q`, year `s` of the cycle and day `d` of the year, inside a
400-year era counted from 1 March of its first year. The last year of a cycle ends with a leap
day, except the last cycle of a century other than the era's last. -/
structure EraPlace (c q s d : Int) : Prop where
  century : 0 ≤ c ∧ c ≤ 3
  cycle : 0 ≤ q ∧ q ≤ 24
  year : 0 ≤ s ∧ s ≤ 3
  day : 0 ≤ d ∧ d ≤ 365
  leapDay : d = 365 → s = 3 ∧ (q ≠ 24 ∨ c = 3)

/-- Every day of an era has its place: centuries of 36524 days (the last one day longer),
cycles of 1461 days (the last of a short century one day shorter) and years of 365 days
(the last of a cycle one day longer). -/
theorem exists_eraPlace {doe : Int} (nonneg : 0 ≤ doe) (inEra : doe < 146097) :
    ∃ c q s d, EraPlace c q s d ∧ doe = 36524 * c + 1461 * q + 365 * s + d := by
  obtain ⟨c, hc⟩ : ∃ c, c = min (doe / 36524) 3 := ⟨_, rfl⟩
  obtain ⟨q, hq⟩ : ∃ q, q = min ((doe - 36524 * c) / 1461) 24 := ⟨_, rfl⟩
  obtain ⟨s, hs⟩ : ∃ s, s = min ((doe - 36524 * c - 1461 * q) / 365) 3 := ⟨_, rfl⟩
  refine ⟨c, q, s, doe - 36524 * c - 1461 * q - 365 * s, ⟨?_, ?_, ?_, ?_, ?_⟩, by omega⟩ <;>
    omega

namespace EraPlace

variable {c q s d : Int}

/-- The year-of-era formula of `ofDayNumber` finds the year of the place. Each of its three
quotients is worked out on its own: the day before a leap day is where the 1460-day count
runs one ahead. -/
theorem yearOfEra (place : EraPlace c q s d) :
    let doe := 36524 * c + 1461 * q + 365 * s + d
    (doe - doe / 1460 + doe / 36524 - doe / 146096) / 365 = 100 * c + 4 * q + s := by
  intro doe
  obtain ⟨hc, hq, hs, hd, leap⟩ := place
  have last : doe / 146096 = if doe = 146096 then 1 else 0 := by split <;> omega
  have century : doe / 36524 = c + doe / 146096 := by rw [last]; split <;> omega
  have cycles : doe / 1460 = 25 * c + q + if 24 * c + q + 365 * s + d ≥ 1460 then 1 else 0 := by
    split <;> omega
  rw [century, cycles, last]
  split <;> split <;> omega

/-- What is left of the day of the era once the years before are taken off is the day of
the year. -/
theorem dayOfYear (place : EraPlace c q s d) :
    let y := 100 * c + 4 * q + s
    36524 * c + 1461 * q + 365 * s + d - (365 * y + y / 4 - y / 100) = d := by
  obtain ⟨hc, hq, hs, -, -⟩ := place
  omega

/-- Year `y` of an era (from March) is followed by a leap day exactly when civil year `y + 1`
is a leap year, whatever era it is in. -/
theorem isLeapYear_of_day365 (place : EraPlace c q s d) (last : d = 365) (era : Int) :
    isLeapYear (100 * c + 4 * q + s + era * 400 + 1) = true := by
  obtain ⟨hc, hq, hs, -, leap⟩ := place
  obtain ⟨three, ends⟩ := leap last
  simp only [isLeapYear, Bool.and_eq_true, beq_iff_eq, Bool.or_eq_true, bne_iff_ne, ne_eq]
  omega

end EraPlace

/-- The date of day `doy` of year `y`, both counted from 1 March: the last steps of
`ofDayNumber`. Months are counted from March too, so January and February fall in the next
civil year. -/
def marchDate (y doy : Int) : Date :=
  let mp := (5 * doy + 2) / 153
  let day := doy - (153 * mp + 2) / 5 + 1
  let month := if mp < 10 then mp + 3 else mp - 9
  { year := if month ≤ 2 then y + 1 else y, month := month.toNat, day := day.toNat }

/-- A day number, split into eras and a place in its era, is the March date of that place. -/
theorem ofDayNumber_eq_marchDate {z era c q s d : Int} (place : EraPlace c q s d)
    (split : z + 719468 = era * 146097 + (36524 * c + 1461 * q + 365 * s + d)) :
    ofDayNumber z = marchDate (100 * c + 4 * q + s + era * 400) d := by
  have hc := place.century
  have hq := place.cycle
  have hs := place.year
  have hd := place.day
  have eraOf : (z + 719468) / 146097 = era := by omega
  have dayOfEra : z + 719468 - era * 146097 = 36524 * c + 1461 * q + 365 * s + d := by omega
  simp only [ofDayNumber, marchDate, eraOf, dayOfEra, place.yearOfEra, place.dayOfYear]

/-- The month counted from March lies in `0..11`, and the day of the year is at or after the
first day of that month. -/
theorem monthFromMarch_bounds {doy : Int} (nonneg : 0 ≤ doy) (inYear : doy ≤ 365) :
    0 ≤ (5 * doy + 2) / 153 ∧ (5 * doy + 2) / 153 ≤ 11 ∧
      (153 * ((5 * doy + 2) / 153) + 2) / 5 ≤ doy := by
  omega

/-- The day number of a March date: the days of the years before, counted from March of
year 0, and the day of the year, moved so that 1970-01-01 is day 0. -/
theorem toDayNumber_marchDate (y doy : Int) (nonneg : 0 ≤ doy) (inYear : doy ≤ 365) :
    (marchDate y doy).toDayNumber = 365 * y + y / 4 - y / 100 + y / 400 + doy - 719468 := by
  have bounds := monthFromMarch_bounds nonneg inYear
  simp only [marchDate, toDayNumber]
  split_ifs <;> omega

/-- A date is valid when its month is one of twelve and its day within that month. -/
theorem isValid_iff {d : Date} :
    d.isValid = true ↔
      1 ≤ d.month ∧ d.month ≤ 12 ∧ 1 ≤ d.day ∧ d.day ≤ daysInMonth d.year d.month := by
  simp [isValid, and_assoc]

/-- A March date names a real day, given that day 365 is only asked of a year that a leap
day ends. -/
theorem isValid_marchDate (y doy : Int) (nonneg : 0 ≤ doy) (inYear : doy ≤ 365)
    (leapDay : doy = 365 → isLeapYear (y + 1) = true) : (marchDate y doy).isValid = true := by
  have bounds := monthFromMarch_bounds nonneg inYear
  rw [isValid_iff]
  simp only [marchDate]
  have beforeNext : doy < (153 * ((5 * doy + 2) / 153) + 153 + 2) / 5 := by omega
  generalize (5 * doy + 2) / 153 = mp at bounds beforeNext ⊢
  obtain ⟨lo, hi, start⟩ := bounds
  rcases (show mp ≤ 10 ∨ mp = 11 by omega) with beforeFebruary | rfl
  · interval_cases mp <;> simp [daysInMonth] <;> omega
  · -- February is month 11 from March; its 29th day is day 365 of the year
    norm_num
    rw [show Int.toNat 2 = 2 from rfl]
    have fourWeeks : 28 ≤ daysInMonth (y + 1) 2 := by
      simp only [daysInMonth]
      split <;> omega
    by_cases leap : doy = 365
    · simp [daysInMonth, leapDay leap, leap]
    · omega

/-- Every day number has its era and its place in the era. -/
theorem exists_split (z : Int) :
    ∃ era c q s d, EraPlace c q s d ∧
      z + 719468 = era * 146097 + (36524 * c + 1461 * q + 365 * s + d) := by
  have nonneg : 0 ≤ (z + 719468) % 146097 := Int.emod_nonneg _ (by decide)
  have inEra : (z + 719468) % 146097 < 146097 := Int.emod_lt_of_pos _ (by decide)
  obtain ⟨c, q, s, d, place, split⟩ := exists_eraPlace nonneg inEra
  refine ⟨(z + 719468) / 146097, c, q, s, d, place, ?_⟩
  rw [← split]
  omega

/-- Reading a day number as a date and the date back gives the day number. -/
theorem toDayNumber_ofDayNumber (z : Int) : (ofDayNumber z).toDayNumber = z := by
  obtain ⟨era, c, q, s, d, place, split⟩ := exists_split z
  have hc := place.century
  have hq := place.cycle
  have hs := place.year
  rw [ofDayNumber_eq_marchDate place split, toDayNumber_marchDate _ _ place.day.1 place.day.2]
  omega

/-- The date of every day number is a real day. -/
theorem isValid_ofDayNumber (z : Int) : (ofDayNumber z).isValid = true := by
  obtain ⟨era, c, q, s, d, place, split⟩ := exists_split z
  rw [ofDayNumber_eq_marchDate place split]
  exact isValid_marchDate _ _ place.day.1 place.day.2 (place.isLeapYear_of_day365 · era)

example : (ofDayNumber 11016).isValid = true ∧ (ofDayNumber 11016).toDayNumber = 11016 := by
  decide

end Reachability.Time.Date
