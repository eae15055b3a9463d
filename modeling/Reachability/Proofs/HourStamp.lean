import Mathlib
import Reachability.Time.Text
import Reachability.Proofs.Calendar

/-!
# Hour stamps read back

An hour stamp `YYYYMMDD-HH` is written from the date and hour of an instant, each number
zero-padded to its width; reading it appends `00` for the minute and reads the numbers back
in turn. For an instant whose year lies in `0..9999` every number has exactly its width, the
reader's digit runs stop where the writer's numbers end, and the date read is the date
written, so the stamp reads back as the start of the instant's hour (`read?_hourStamp`).

Years outside `0..9999` are written with a sign, and after a sign the reader takes every digit
that follows, month and day included. The dash is then left where the month should be, so
such a stamp reads as no hour (`read?_hourStamp_of_signed`). `read?_hourStamp_eq` puts the
two cases together.
-/

namespace Reachability.Time

/-- A padded number is zeros and then the decimal digits of the number. -/
theorem toList_padded (w n : Nat) :
    (padded w n).toList =
      List.replicate (w - (Nat.toDigits 10 n).length) '0' ++ Nat.toDigits 10 n := by
  simp [padded, String.toList_append, String.toList_ofList, ← String.length_toList]

/-- A padded number is made of digits. -/
theorem isDigit_of_mem_padded {w n : Nat} {c : Char} (member : c ∈ (padded w n).toList) :
    c.isDigit = true := by
  rw [toList_padded] at member
  rcases List.mem_append.1 member with zero | digit
  · rw [List.eq_of_mem_replicate zero]
    rfl
  · exact Nat.isDigit_of_mem_toDigits (by decide) (by decide) digit

/-- A number below `10 ^ w` takes exactly `w` characters once padded. -/
theorem length_padded {w n : Nat} (fits : n < Nat.pow 10 w) (wide : 0 < w) :
    (padded w n).toList.length = w := by
  have short := (Nat.length_toDigits_le_iff (b := 10) (n := n) (by decide) wide).2 fits
  rw [toList_padded, List.length_append, List.length_replicate]
  omega

namespace HourStamp

/-- The value of a run of digits is its value in base ten. -/
theorem digitsValue_eq_ofDigitChars (ds : List Char) :
    digitsValue ds = Nat.ofDigitChars 10 ds 0 := by
  simp only [digitsValue, Nat.ofDigitChars, Nat.mul_comm]

/-- Leading zeros add nothing to the value of a padded number. -/
theorem digitsValue_padded (w n : Nat) : digitsValue (padded w n).toList = n := by
  rw [digitsValue_eq_ofDigitChars, toList_padded, Nat.ofDigitChars_append,
    Nat.ofDigitChars_replicate_zero, Nat.mul_zero, Nat.ofDigitChars_ten_toDigits]

/-- Taking at most as many digits as a run has stops at the end of the run, whatever
follows it. -/
theorem digitsAt_append {ds rest : List Char} {least most : Nat}
    (digits : ∀ c ∈ ds, c.isDigit = true) (enough : least ≤ ds.length)
    (whole : ds.length = most) :
    digitsAt (ds ++ rest) least most = some (digitsValue ds, rest) := by
  subst whole
  simp [digitsAt, List.takeWhile_append_of_pos digits, enough]

/-- A digit is not blank. -/
theorem not_isBlank_of_isDigit {c : Char} (digit : c.isDigit = true) :
    Text.isBlank c = false := by
  have bounds := Char.isDigit_iff_toNat.1 digit
  simp only [Char.reduceToNat] at bounds
  simp only [Text.isBlank, Bool.or_eq_false_iff, Bool.and_eq_false_iff, decide_eq_false_iff_not,
    beq_eq_false_iff_ne]
  omega

/-- Dropping blanks keeps a text that starts with a digit. -/
theorem dropBlanks_digit {c : Char} {cs : List Char} (digit : c.isDigit = true) :
    Text.dropBlanks (c :: cs) = c :: cs := by
  simp [Text.dropBlanks, not_isBlank_of_isDigit digit]

/-- A number that fits a positive width is padded to a text starting with a digit. -/
theorem exists_cons_padded {w n : Nat} (fits : n < Nat.pow 10 w) (wide : 0 < w) :
    ∃ c more, (padded w n).toList = c :: more ∧ c.isDigit = true := by
  have len := length_padded fits wide
  cases h : (padded w n).toList with
  | nil =>
    rw [h, List.length_nil] at len
    omega
  | cons c more => exact ⟨c, more, rfl, isDigit_of_mem_padded (h ▸ List.mem_cons_self)⟩

/-- A two-digit field is read back, and reading leaves what follows. -/
theorem number_padded {n : Nat} (fits : n < 100) (rest : List Char) :
    number ((padded 2 n).toList ++ rest) 1 2 = some (n, rest) := by
  have len := length_padded (w := 2) fits (by decide)
  obtain ⟨c, more, split, digit⟩ := exists_cons_padded (w := 2) fits (by decide)
  have digits := fun c (member : c ∈ (padded 2 n).toList) => isDigit_of_mem_padded member
  rw [number, split, List.cons_append, dropBlanks_digit digit, ← List.cons_append, ← split,
    digitsAt_append digits (by omega) len, digitsValue_padded]

/-- A field reads back a padded two-digit number within its bounds and leaves what follows. -/
theorem field_padded {n lo hi : Nat} (fits : n < 100) (above : lo ≤ n) (below : n ≤ hi)
    (rest : List Char) : field ((padded 2 n).toList ++ rest) lo hi = some (n, rest) := by
  simp [field, number_padded fits, above, below]

/-- A field reads back a padded two-digit number within its bounds that ends the text. -/
theorem field_padded_last {n lo hi : Nat} (fits : n < 100) (above : lo ≤ n) (below : n ≤ hi) :
    field (padded 2 n).toList lo hi = some (n, []) := by
  simpa using field_padded fits above below []

/-- A four-digit year starts with a digit, not a sign, so the reader takes exactly its four
digits. -/
theorem year_padded {y : Nat} (fits : y < 10000) (rest : List Char) :
    year ((padded 4 y).toList ++ rest) = some ((y : Int), rest) := by
  have len := length_padded (w := 4) fits (by decide)
  obtain ⟨c, more, split, digit⟩ := exists_cons_padded (w := 4) fits (by decide)
  have digits := fun c (member : c ∈ (padded 4 y).toList) => isDigit_of_mem_padded member
  have notSign : c ≠ '-' ∧ c ≠ '+' := by
    constructor <;> (rintro rfl; revert digit; decide)
  simp only [year, split, List.cons_append, dropBlanks_digit digit]
  split
  · rename_i minus
    exact absurd (List.cons.inj minus).1 notSign.1
  · rename_i plus
    exact absurd (List.cons.inj plus).1 notSign.2
  · rw [← List.cons_append, ← split, digitsAt_append digits (by omega) len, digitsValue_padded]
    simp [wordLimit]
    omega

/-- The minute appended by `read?` is a padded zero. -/
theorem zeroMinute : "00".toList = (padded 2 0).toList := by decide

/-- The text of a date, an hour and a zero minute, each at its width, reads back as the
start of that hour, given that the date is real and the hour inside the calendar. -/
theorem readMinute_padded {y mo d h : Nat} (year4 : y < 10000) (month : 1 ≤ mo ∧ mo ≤ 12)
    (day : 1 ≤ d ∧ d ≤ 31) (hour : h < 24) (real : Date.isValid ⟨y, mo, d⟩ = true)
    (inside : Instant.inRange (Date.toDayNumber ⟨y, mo, d⟩ * 86400 + (h : Int) * 3600) = true) :
    readMinute ((padded 4 y).toList ++ ((padded 2 mo).toList ++ ((padded 2 d).toList ++
        ('-' :: ((padded 2 h).toList ++ (padded 2 0).toList))))) =
      some ⟨Date.toDayNumber ⟨y, mo, d⟩ * 86400 + (h : Int) * 3600, 0⟩ := by
  simp only [readMinute, ↓Char.isValue, year_padded year4, Bool.not_eq_eq_eq_not, Bool.not_true,
    List.isEmpty_eq_false_iff, ne_eq, Nat.cast_add, Nat.cast_mul, Nat.cast_ofNat, Option.bind_eq_bind,
    Option.bind_none, ite_not, Option.bind_some, field_padded (n := mo) (by omega) month.1 month.2,
    field_padded (n := d) (by omega) day.1 day.2,
    field_padded (n := h) (by omega) (Nat.zero_le h) (show h ≤ 23 by omega), real, Bool.true_eq_false,
    ↓reduceIte, field_padded_last (n := 0) (by decide) (Nat.zero_le 0) (show 0 ≤ 59 by decide),
    CharP.cast_eq_zero, zero_mul, add_zero, inside]

end HourStamp

namespace Instant

/-- The date of an instant is a real day, so its month and day have two digits. -/
theorem date_bounds (t : Instant) :
    1 ≤ t.date.month ∧ t.date.month ≤ 12 ∧ 1 ≤ t.date.day ∧ t.date.day ≤ 31 := by
  have valid : 1 ≤ t.date.month ∧ t.date.month ≤ 12 ∧ 1 ≤ t.date.day ∧
      t.date.day ≤ daysInMonth t.date.year t.date.month :=
    Date.isValid_iff.1 (Date.isValid_ofDayNumber t.dayNumber)
  have short : daysInMonth t.date.year t.date.month ≤ 31 := by
    unfold daysInMonth
    split <;> (try split) <;> omega
  omega

/-- The start of an instant's hour, in seconds: its day and its hour. -/
theorem hourStart_secs (t : Instant) :
    t.hourStart.secs = t.dayNumber * 86400 + (t.hour : Int) * 3600 := by
  simp only [hourStart, hour, secondOfDay, dayNumber]
  omega

/-- The start of an instant's hour is inside the calendar when the instant is: the calendar
starts at a midnight. -/
theorem inRange_hourStart {t : Instant} (valid : t.isValid = true) :
    inRange t.hourStart.secs = true := by
  have inside : minSecs ≤ t.secs ∧ t.secs ≤ maxSecs := by
    simp only [isValid, inRange, Bool.and_eq_true, decide_eq_true_eq] at valid
    exact valid.1
  unfold inRange
  simp only [Bool.and_eq_true, decide_eq_true_eq]
  simp only [hourStart, secondOfDay]
  simp only [minSecs, maxSecs] at inside ⊢
  omega

end Instant

namespace HourStamp

/-- The hour stamp of a four-digit year: the padded date, a dash and the padded hour. -/
theorem toList_hourStamp {t : Instant} (fourDigits : 0 ≤ t.date.year ∧ t.date.year ≤ 9999) :
    t.hourStamp.toList = (padded 4 t.date.year.toNat).toList ++ ((padded 2 t.date.month).toList ++
      ((padded 2 t.date.day).toList ++ ('-' :: (padded 2 t.hour).toList))) := by
  simp [Instant.hourStamp, yearText, fourDigits, String.toList_append]

/-- The hour stamp of a four-digit year has eleven characters, each a digit or the dash. -/
theorem hourStamp_chars {t : Instant} (fourDigits : 0 ≤ t.date.year ∧ t.date.year ≤ 9999) :
    t.hourStamp.toList.length = 11 ∧ ∀ c ∈ t.hourStamp.toList, c.isDigit = true ∨ c = '-' := by
  obtain ⟨lo, hi, first, last⟩ := t.date_bounds
  have hour : t.hour < 24 := by
    simp only [Instant.hour, Instant.secondOfDay]
    omega
  have year := length_padded (w := 4) (n := t.date.year.toNat) (by change _ < 10000; omega)
    (by decide)
  have month := length_padded (w := 2) (n := t.date.month) (by change _ < 100; omega) (by decide)
  have day := length_padded (w := 2) (n := t.date.day) (by change _ < 100; omega) (by decide)
  have hourLength := length_padded (w := 2) (n := t.hour) (by change _ < 100; omega) (by decide)
  rw [toList_hourStamp fourDigits]
  refine ⟨by simp [year, month, day, hourLength], fun c held => ?_⟩
  simp only [List.mem_append, List.mem_cons] at held
  rcases held with digit | digit | digit | dash | digit
  · exact .inl (isDigit_of_mem_padded digit)
  · exact .inl (isDigit_of_mem_padded digit)
  · exact .inl (isDigit_of_mem_padded digit)
  · exact .inr dash
  · exact .inl (isDigit_of_mem_padded digit)

/-- The hour stamp of an instant whose year has four digits reads back as the start of the
instant's hour. -/
theorem read?_hourStamp {t : Instant} (valid : t.isValid = true)
    (fourDigits : 0 ≤ t.date.year ∧ t.date.year ≤ 9999) :
    read? t.hourStamp = some t.hourStart := by
  obtain ⟨lo, hi, first, last⟩ := t.date_bounds
  have hour : t.hour < 24 := by
    simp only [Instant.hour, Instant.secondOfDay]
    omega
  have sameDate : (⟨(t.date.year.toNat : Int), t.date.month, t.date.day⟩ : Date) = t.date := by
    rw [Int.toNat_of_nonneg fourDigits.1]
  have dayBack : Date.toDayNumber ⟨(t.date.year.toNat : Int), t.date.month, t.date.day⟩ =
      t.dayNumber := by
    rw [sameDate, Instant.date, Date.toDayNumber_ofDayNumber]
  have real : Date.isValid ⟨(t.date.year.toNat : Int), t.date.month, t.date.day⟩ = true := by
    rw [sameDate]
    exact Date.isValid_ofDayNumber t.dayNumber
  have inside := Instant.inRange_hourStart valid
  rw [Instant.hourStart_secs, ← dayBack] at inside
  have text : (t.hourStamp ++ "00").toList =
      (padded 4 t.date.year.toNat).toList ++ ((padded 2 t.date.month).toList ++
        ((padded 2 t.date.day).toList ++ ('-' :: ((padded 2 t.hour).toList ++
          (padded 2 0).toList)))) := by
    simp [String.toList_append, toList_hourStamp fourDigits, zeroMinute]
  have minute : t.hourStart.minute = 0 := by
    simp only [Instant.minute, Instant.secondOfDay, Instant.hourStart_secs]
    omega
  have start : (⟨Date.toDayNumber ⟨(t.date.year.toNat : Int), t.date.month, t.date.day⟩ *
      86400 + (t.hour : Int) * 3600, 0⟩ : Instant) = t.hourStart := by
    rw [dayBack, ← Instant.hourStart_secs]
    rfl
  rw [read?, text, readMinute_padded (by omega) ⟨lo, hi⟩ ⟨first, last⟩ hour real inside, start]
  simp [minute]

example : read? (Instant.hourStamp ⟨951868799, 1500000000⟩) = some ⟨951865200, 0⟩ := by decide

/-! ## Years outside `0..9999` -/

/-- Taking digits stops at the first character that is not one. -/
theorem digitsAt_append_cons {ds rest : List Char} {c : Char} {least most : Nat}
    (digits : ∀ d ∈ ds, d.isDigit = true) (stop : c.isDigit = false) (enough : least ≤ ds.length)
    (room : ds.length ≤ most) :
    digitsAt (ds ++ c :: rest) least most = some (digitsValue ds, c :: rest) := by
  have run : (ds ++ c :: rest).takeWhile Char.isDigit = ds := by
    rw [List.takeWhile_append_of_pos digits, List.takeWhile_cons_of_neg (by simp [stop]),
      List.append_nil]
  simp [digitsAt, run, List.take_of_length_le room, Nat.not_lt.2 enough]

/-- No field starts at a dash. -/
theorem field_dash (rest : List Char) (lo hi : Nat) : field ('-' :: rest) lo hi = none := by
  have notBlank : Text.isBlank '-' = false := by decide
  have notDigit : Char.isDigit '-' = false := by decide
  simp [field, number, Text.dropBlanks, notBlank, digitsAt, notDigit]

/-- A signed year takes every digit that follows its sign, up to the dash: whatever year that
reads as, the dash is left where the month should be. -/
theorem year_signed {sign : Char} (signed : sign = '-' ∨ sign = '+') {ds : List Char}
    (digits : ∀ d ∈ ds, d.isDigit = true) (nonempty : ds ≠ []) (rest : List Char) :
    year (sign :: (ds ++ '-' :: rest)) = none ∨
      ∃ y, year (sign :: (ds ++ '-' :: rest)) = some (y, '-' :: rest) := by
  have notBlank : Text.isBlank sign = false := by rcases signed with rfl | rfl <;> decide
  have taken : digitsAt (ds ++ '-' :: rest) 1 (ds ++ '-' :: rest).length =
      some (digitsValue ds, '-' :: rest) :=
    digitsAt_append_cons digits (by decide) (List.length_pos_iff.2 nonempty) (by simp)
  have dropped : Text.dropBlanks (sign :: (ds ++ '-' :: rest)) = sign :: (ds ++ '-' :: rest) := by
    simp [Text.dropBlanks, notBlank]
  rcases signed with rfl | rfl
  all_goals
    simp only [year, dropped, taken, Option.map_some, Option.bind_eq_bind, Option.bind_some]
    split_ifs
    · exact .inl rfl
    · exact .inr ⟨_, rfl⟩
    · exact .inl rfl

/-- A padded number has at least one digit. -/
theorem padded_ne_nil (w n : Nat) : (padded w n).toList ≠ [] := by
  rw [toList_padded]
  simp [Nat.toDigits_ne_nil]

/-- The hour stamp of a year outside `0..9999` starts with a sign, which makes the reader take
the month and the day as digits of the year: such a stamp reads as no hour. -/
theorem read?_hourStamp_of_signed {t : Instant}
    (outside : ¬ (0 ≤ t.date.year ∧ t.date.year ≤ 9999)) : read? t.hourStamp = none := by
  set ds := (padded 4 t.date.year.natAbs).toList ++ ((padded 2 t.date.month).toList ++
    (padded 2 t.date.day).toList)
  have digits : ∀ d ∈ ds, d.isDigit = true := by
    intro d held
    simp only [ds, List.mem_append] at held
    rcases held with digit | digit | digit <;> exact isDigit_of_mem_padded digit
  have nonempty : ds ≠ [] := fun empty =>
    padded_ne_nil 4 t.date.year.natAbs (List.append_eq_nil_iff.1 empty).1
  -- the stamp is a sign, the digits of year, month and day, a dash and the hour
  obtain ⟨sign, signed, text⟩ : ∃ sign, (sign = '-' ∨ sign = '+') ∧
      (t.hourStamp ++ "00").toList = sign :: (ds ++ '-' :: ((padded 2 t.hour).toList ++
        "00".toList)) := by
    refine ⟨if t.date.year < 0 then '-' else '+', by split_ifs <;> simp, ?_⟩
    simp only [Instant.hourStamp, yearText, if_neg outside, ds, String.toList_append]
    split_ifs <;> simp
  unfold read?
  rw [text]
  rcases year_signed signed digits nonempty ((padded 2 t.hour).toList ++ "00".toList) with
    unread | ⟨y, read⟩
  · simp only [readMinute, unread]
    simp only [Bool.not_eq_eq_eq_not, Bool.not_true, List.isEmpty_eq_false_iff, ne_eq, Nat.cast_add,
      Nat.cast_mul, Nat.cast_ofNat, Option.bind_eq_bind, Option.bind_none, ite_not, Option.bind_some]
  · simp only [readMinute, read]
    simp only [↓Char.isValue, String.reduceToList, Bool.not_eq_eq_eq_not, Bool.not_true,
      List.isEmpty_eq_false_iff, ne_eq, Nat.cast_add, Nat.cast_mul, Nat.cast_ofNat, Option.bind_eq_bind,
      Option.bind_none, ite_not, Option.bind_some, field_dash]

/-- An hour stamp reads back as the start of its hour exactly when its year lies in
`0..9999`; a stamp of any other year reads as no hour. -/
theorem read?_hourStamp_eq {t : Instant} (valid : t.isValid = true) :
    read? t.hourStamp =
      if 0 ≤ t.date.year ∧ t.date.year ≤ 9999 then some t.hourStart else none := by
  split_ifs with fourDigits
  · exact read?_hourStamp valid fourDigits
  · exact read?_hourStamp_of_signed fourDigits

end HourStamp

end Reachability.Time
