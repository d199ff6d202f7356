import LetterIRL.Lib.Loops

namespace LetterIRL.Schedule
open Lib

/-! Calendar dates, `YYYY-MM-DD`, by their day numbers: days since 1970-01-01. -/

/-- The day number of a year's first day. -/
def daysBeforeYear (year : Int) : Int :=
  365 * (year - 1970) + (year - 1969) / 4 - (year - 1901) / 100 + (year - 1601) / 400

/-- The year a day is in. -/
def yearOf (day : Int) : Int :=
  let year := 1970 + 400 * day / 146097
  if day < daysBeforeYear year then year - 1
  else if daysBeforeYear (year + 1) ≤ day then year + 1
  else year

/-- One in a leap year. -/
def leapDay (year : Int) : Int := daysBeforeYear (year + 1) - daysBeforeYear year - 365

/-- The days before a month in its year, months counted from zero. -/
def daysBeforeMonth (leap : Int) (month : Nat) : Int :=
  [0, 31, 59 + leap, 90 + leap, 120 + leap, 151 + leap, 181 + leap, 212 + leap, 243 + leap, 273 + leap, 304 + leap,
    334 + leap].getD month (365 + leap)

/-- The month a day of a year is in, counted from zero. -/
def monthOf (leap day : Int) : Nat := ((List.range 11).takeWhile fun month => daysBeforeMonth leap (month + 1) ≤ day).length

structure YearMonthDay where
  year : Int
  month : Int
  day : Int
  deriving DecidableEq

/-- What `getUTCFullYear`, `getUTCMonth` (from one here) and `getUTCDate` say of a day. -/
def yearMonthDay (day : Int) : YearMonthDay :=
  let year := yearOf day
  let dayInYear := day - daysBeforeYear year
  let month := monthOf (leapDay year) dayInYear
  { year, month := month + 1, day := dayInYear - daysBeforeMonth (leapDay year) month + 1 }

/-- `utcMidnight`, as a day number: a month or a day past the end rolls over. -/
def utcMidnight (date : YearMonthDay) : Int :=
  let year := date.year + (date.month - 1) / 12
  daysBeforeYear year + daysBeforeMonth (leapDay year) ((date.month - 1) % 12).toNat + date.day - 1

/-- The day number of a date, where it is real: it survives the round trip. -/
def realDayNumber (date : YearMonthDay) : Option Int :=
  if yearMonthDay (utcMidnight date) = date then some (utcMidnight date) else none

section
variable {day first second : Int}

/-- A year guessed from a day's number is one off at most. -/
theorem year_guess (day : Int) : daysBeforeYear (1970 + 400 * day / 146097 - 1) ≤ day ∧
    day < daysBeforeYear (1970 + 400 * day / 146097 + 1 + 1) := by
  unfold daysBeforeYear
  omega

theorem yearOf_spec (day : Int) : daysBeforeYear (yearOf day) ≤ day ∧ day < daysBeforeYear (yearOf day + 1) := by
  obtain ⟨least, most⟩ := year_guess day
  unfold yearOf
  simp only
  split
  · rename_i late
    rw [Int.sub_add_cancel]
    exact ⟨least, late⟩
  · split
    · rename_i early
      exact ⟨early, most⟩
    · omega

theorem daysBeforeYear_step (year : Int) : daysBeforeYear year + 365 ≤ daysBeforeYear (year + 1) ∧
    daysBeforeYear (year + 1) ≤ daysBeforeYear year + 366 := by
  unfold daysBeforeYear
  omega

theorem daysBeforeYear_mono (ordered : first ≤ second) : daysBeforeYear first ≤ daysBeforeYear second := by
  unfold daysBeforeYear
  omega

theorem yearOf_mono (ordered : first ≤ second) : yearOf first ≤ yearOf second := by
  by_contra later
  have mono := daysBeforeYear_mono (show yearOf second + 1 ≤ yearOf first by omega)
  have one := yearOf_spec first
  have two := yearOf_spec second
  omega

theorem leapDay_cases (year : Int) : leapDay year = 0 ∨ leapDay year = 1 := by
  have step := daysBeforeYear_step year
  unfold leapDay
  omega

theorem daysBeforeMonth_last (leap : Int) : daysBeforeMonth leap 12 = 365 + leap := rfl

/-- The month a day is in starts no later, and the next one after it. -/
theorem monthOf_spec (leap day : Int) (from_ : 0 ≤ day) (before : day < 365 + leap) :
    monthOf leap day < 12 ∧ daysBeforeMonth leap (monthOf leap day) ≤ day ∧
      day < daysBeforeMonth leap (monthOf leap day + 1) := by
  obtain ⟨atMost, passed, stops⟩ := takeWhile_range (fun month => daysBeforeMonth leap (month + 1) ≤ day) 11
  have same : monthOf leap day = ((List.range 11).takeWhile fun month => daysBeforeMonth leap (month + 1) ≤ day).length := rfl
  rw [← same] at atMost passed stops
  generalize monthOf leap day = month at atMost passed stops
  refine ⟨by omega, ?_, ?_⟩
  · cases month with
    | zero => exact from_
    | succ month => simpa using passed month (Nat.lt_succ_self _)
  · by_cases last : month = 11
    · rw [last, daysBeforeMonth_last]
      exact before
    · simpa using stops (by omega)

/-- Months follow each other. -/
theorem daysBeforeMonth_mono {leap : Int} (leaps : leap = 0 ∨ leap = 1) {early late : Nat} (ordered : early ≤ late)
    (inYear : late ≤ 12) : daysBeforeMonth leap early ≤ daysBeforeMonth leap late := by
  have step : ∀ month < 12, daysBeforeMonth leap month ≤ daysBeforeMonth leap (month + 1) := by
    rcases leaps with rfl | rfl
    · decide
    · decide
  induction late, ordered using Nat.le_induction with
  | base => exact le_rfl
  | succ late ordered ih => exact (ih (by omega)).trans (step late (by omega))

/-- A day's number is that of its date. -/
theorem utcMidnight_yearMonthDay (day : Int) : utcMidnight (yearMonthDay day) = day := by
  obtain ⟨least, less⟩ := yearOf_spec day
  have length : daysBeforeYear (yearOf day + 1) = daysBeforeYear (yearOf day) + 365 + leapDay (yearOf day) := by
    unfold leapDay
    omega
  obtain ⟨inYear, -, -⟩ := monthOf_spec (leapDay (yearOf day)) (day - daysBeforeYear (yearOf day)) (by omega) (by omega)
  unfold utcMidnight yearMonthDay
  simp only [Int.add_sub_cancel]
  generalize monthOf (leapDay (yearOf day)) (day - daysBeforeYear (yearOf day)) = month at inYear ⊢
  have year : (month : Int) / 12 = 0 := by omega
  have within : ((month : Int) % 12).toNat = month := by omega
  rw [year, within, Int.add_zero]
  omega

/-- Every day's date is real, and is its own. -/
theorem realDayNumber_yearMonthDay (day : Int) : realDayNumber (yearMonthDay day) = some day := by
  unfold realDayNumber
  rw [utcMidnight_yearMonthDay, if_pos rfl]

theorem realDayNumber_some {date : YearMonthDay} (real : realDayNumber date = some day) : yearMonthDay day = date := by
  unfold realDayNumber at real
  split at real
  · rename_i same
    cases real
    exact same
  · cases real

/-- A date comes before another, as its text does. -/
def YearMonthDay.before (date other : YearMonthDay) : Prop :=
  date.year < other.year ∨ date.year = other.year ∧
    (date.month < other.month ∨ date.month = other.month ∧ date.day < other.day)

theorem yearMonthDay_before (earlier : first < second) : (yearMonthDay first).before (yearMonthDay second) := by
  have years := yearOf_mono earlier.le
  by_cases year : yearOf first = yearOf second
  · have one := yearOf_spec first
    have two := yearOf_spec second
    rw [year] at one
    have length : daysBeforeYear (yearOf second + 1) = daysBeforeYear (yearOf second) + 365 + leapDay (yearOf second) := by
      unfold leapDay
      omega
    obtain ⟨inYear, from_, -⟩ := monthOf_spec (leapDay (yearOf second)) (first - daysBeforeYear (yearOf second))
      (by omega) (by omega)
    obtain ⟨-, -, before⟩ := monthOf_spec (leapDay (yearOf second)) (second - daysBeforeYear (yearOf second))
      (by omega) (by omega)
    refine .inr ⟨year, ?_⟩
    unfold yearMonthDay
    simp only
    rw [year]
    generalize monthOf (leapDay (yearOf second)) (first - daysBeforeYear (yearOf second)) = early at inYear from_ ⊢
    generalize monthOf (leapDay (yearOf second)) (second - daysBeforeYear (yearOf second)) = late at before ⊢
    rcases lt_trichotomy early late with less | same | more
    · exact .inl (by omega)
    · rw [same]
      exact .inr ⟨rfl, by omega⟩
    · have mono := daysBeforeMonth_mono (leapDay_cases (yearOf second)) (show late + 1 ≤ early from more) inYear.le
      omega
  · exact .inl (by show yearOf first < yearOf second; omega)

end

/-- A real date with a year of four digits, by its day number. -/
structure CalendarDate where
  number : Int
  fourDigits : 0 ≤ yearOf number ∧ yearOf number ≤ 9999
  deriving DecidableEq

namespace CalendarDate

def ofNumber (day : Int) : Option CalendarDate :=
  if fourDigits : 0 ≤ yearOf day ∧ yearOf day ≤ 9999 then some ⟨day, fourDigits⟩ else none

instance : LE CalendarDate := ⟨fun date other => date.number ≤ other.number⟩
instance : LT CalendarDate := ⟨fun date other => date.number < other.number⟩
instance (date other : CalendarDate) : Decidable (date ≤ other) := inferInstanceAs (Decidable (date.number ≤ other.number))
instance (date other : CalendarDate) : Decidable (date < other) := inferInstanceAs (Decidable (date.number < other.number))

def digit (value : Nat) : Char := Char.ofNat (48 + value % 10)

/-- `YYYY-MM-DD`. -/
def text (date : CalendarDate) : List Char :=
  let written := yearMonthDay date.number
  let year := written.year.toNat
  let month := written.month.toNat
  let day := written.day.toNat
  [digit (year / 1000), digit (year / 100), digit (year / 10), digit year, '-', digit (month / 10), digit month, '-',
    digit (day / 10), digit day]

end CalendarDate

/-- `0000-01-01`. -/
def FIRST_DAY : Int := -719528

/-- `9999-12-31`. -/
def LAST_DAY : Int := 2932896

theorem fourDigits_iff {day : Int} : (0 ≤ yearOf day ∧ yearOf day ≤ 9999) ↔ FIRST_DAY ≤ day ∧ day ≤ LAST_DAY := by
  obtain ⟨least, less⟩ := yearOf_spec day
  have first : daysBeforeYear 0 = FIRST_DAY := by decide
  have last : daysBeforeYear 10000 = LAST_DAY + 1 := by decide
  constructor
  · rintro ⟨some_, atMost⟩
    have mono := daysBeforeYear_mono some_
    have mono' := daysBeforeYear_mono (show yearOf day + 1 ≤ 10000 by omega)
    omega
  · rintro ⟨some_, atMost⟩
    constructor
    · by_contra early
      have mono := daysBeforeYear_mono (show yearOf day + 1 ≤ 0 by omega)
      omega
    · by_contra late
      have mono := daysBeforeYear_mono (show 10000 ≤ yearOf day by omega)
      omega

namespace CalendarDate

theorem ofNumber_some {day : Int} {date : CalendarDate} (made : ofNumber day = some date) : date.number = day := by
  unfold ofNumber at made
  split at made
  · cases made
    rfl
  · cases made

theorem ofNumber_number (date : CalendarDate) : ofNumber date.number = some date := by
  unfold ofNumber
  rw [dif_pos date.fourDigits]

theorem ofNumber_none {day : Int} : ofNumber day = none ↔ day < FIRST_DAY ∨ LAST_DAY < day := by
  unfold ofNumber
  split
  · rename_i digits
    have inRange := fourDigits_iff.mp digits
    exact iff_of_false nofun (by omega)
  · rename_i digits
    exact iff_of_true rfl (by rw [fourDigits_iff] at digits; omega)

theorem number_bounds (date : CalendarDate) : FIRST_DAY ≤ date.number ∧ date.number ≤ LAST_DAY :=
  fourDigits_iff.mp date.fourDigits

theorem ext_number {date other : CalendarDate} (same : date.number = other.number) : date = other := by
  cases date
  cases other
  cases same
  rfl

instance : LinearOrder CalendarDate where
  le_refl date := le_refl date.number
  le_trans date other third := le_trans (a := date.number) (b := other.number) (c := third.number)
  le_antisymm _ _ before after := ext_number (le_antisymm before after)
  le_total date other := le_total date.number other.number
  lt_iff_le_not_ge date other := lt_iff_le_not_ge (a := date.number) (b := other.number)
  toDecidableLE := inferInstance

end CalendarDate

/-- `\d`. -/
def digitValue (character : Char) : Option Nat :=
  if 48 ≤ character.toNat ∧ character.toNat ≤ 57 then some (character.toNat - 48) else none

def numberOf : List Char → Option Nat → Option Nat
  | [], value => value
  | character :: rest, value =>
    match value, digitValue character with
    | some value, some digit => numberOf rest (some (10 * value + digit))
    | _, _ => none

/-- `DATE_PATTERN`. -/
def datePattern : List Char → Option YearMonthDay
  | [a, b, c, d, '-', e, f, '-', g, h] =>
    match numberOf [a, b, c, d] (some 0), numberOf [e, f] (some 0), numberOf [g, h] (some 0) with
    | some year, some month, some day => some { year, month, day }
    | _, _, _ => none
  | _ => none

def parseCalendarDate (value : List Char) : Option CalendarDate :=
  ((datePattern value).bind realDayNumber).bind CalendarDate.ofNumber

theorem digitValue_digit (value : Nat) : digitValue (CalendarDate.digit value) = some (value % 10) := by
  have each : ∀ unit < 10, digitValue (Char.ofNat (48 + unit)) = some unit := by decide
  exact each _ (Nat.mod_lt _ (by decide))

theorem digit_digitValue {character : Char} {value : Nat} (read : digitValue character = some value) :
    value < 10 ∧ CalendarDate.digit value = character := by
  unfold digitValue at read
  split at read
  · rename_i inRange
    have same := Option.some.inj read
    have less : value < 10 := by omega
    refine ⟨less, ?_⟩
    unfold CalendarDate.digit
    rw [Nat.mod_eq_of_lt less, ← same, show 48 + (character.toNat - 48) = character.toNat by omega]
    exact Char.ofNat_toNat character
  · cases read

/-- A day's date: its year's, a month of twelve, a day of two digits. -/
theorem yearMonthDay_bounds (day : Int) : (yearMonthDay day).year = yearOf day ∧ 1 ≤ (yearMonthDay day).month ∧
    (yearMonthDay day).month ≤ 12 ∧ 1 ≤ (yearMonthDay day).day ∧ (yearMonthDay day).day ≤ 31 := by
  obtain ⟨least, less⟩ := yearOf_spec day
  have length : daysBeforeYear (yearOf day + 1) = daysBeforeYear (yearOf day) + 365 + leapDay (yearOf day) := by
    unfold leapDay
    omega
  obtain ⟨inYear, from_, before⟩ := monthOf_spec (leapDay (yearOf day)) (day - daysBeforeYear (yearOf day))
    (by omega) (by omega)
  have short : ∀ month < 12, daysBeforeMonth (leapDay (yearOf day)) (month + 1) ≤
      daysBeforeMonth (leapDay (yearOf day)) month + 31 := by
    rcases leapDay_cases (yearOf day) with leap | leap
    · rw [leap]
      decide
    · rw [leap]
      decide
  have most := short _ inYear
  unfold yearMonthDay
  simp only
  generalize monthOf (leapDay (yearOf day)) (day - daysBeforeYear (yearOf day)) = month at inYear from_ before most ⊢
  exact ⟨trivial, by omega, by omega, by omega, by omega⟩

theorem numberOf_two {a b : Char} {first second : Nat} (one : digitValue a = some first) (two : digitValue b = some second) :
    numberOf [a, b] (some 0) = some (10 * first + second) := by
  simp only [numberOf, one, two]
  congr 1
  omega

theorem numberOf_four {a b c d : Char} {first second third fourth : Nat} (one : digitValue a = some first)
    (two : digitValue b = some second) (three : digitValue c = some third) (four : digitValue d = some fourth) :
    numberOf [a, b, c, d] (some 0) = some (1000 * first + 100 * second + 10 * third + fourth) := by
  simp only [numberOf, one, two, three, four]
  congr 1
  omega

/-- A date's text reads back as the date. -/
theorem parseCalendarDate_text (date : CalendarDate) : parseCalendarDate date.text = some date := by
  obtain ⟨year, month, month', day, day'⟩ := yearMonthDay_bounds date.number
  have digits := date.fourDigits
  rw [← year] at digits
  have pattern : datePattern date.text = some (yearMonthDay date.number) := by
    unfold CalendarDate.text datePattern
    simp only
    rw [numberOf_four (digitValue_digit _) (digitValue_digit _) (digitValue_digit _) (digitValue_digit _),
      numberOf_two (digitValue_digit _) (digitValue_digit _), numberOf_two (digitValue_digit _) (digitValue_digit _)]
    generalize yearMonthDay date.number = written at *
    obtain ⟨y, m, d⟩ := written
    simp only at *
    congr 2
    · omega
    · omega
    · omega
  unfold parseCalendarDate
  rw [pattern, Option.bind_some, realDayNumber_yearMonthDay, Option.bind_some]
  unfold CalendarDate.ofNumber
  rw [dif_pos date.fourDigits]

theorem numberOf_cons {character : Char} {rest : List Char} {before value : Nat}
    (read : numberOf (character :: rest) (some before) = some value) :
    ∃ digit, digitValue character = some digit ∧ numberOf rest (some (10 * before + digit)) = some value := by
  unfold numberOf at read
  cases found : digitValue character with
  | none =>
    rw [found] at read
    cases read
  | some digit =>
    rw [found] at read
    exact ⟨digit, rfl, read⟩

theorem numberOf_two_some {a b : Char} {value : Nat} (read : numberOf [a, b] (some 0) = some value) :
    CalendarDate.digit (value / 10) = a ∧ CalendarDate.digit value = b := by
  obtain ⟨first, one, read⟩ := numberOf_cons read
  obtain ⟨second, two, read⟩ := numberOf_cons read
  have same : 10 * (10 * 0 + first) + second = value := Option.some.inj read
  obtain ⟨less, rfl⟩ := digit_digitValue one
  obtain ⟨less', rfl⟩ := digit_digitValue two
  unfold CalendarDate.digit
  exact ⟨by congr 2; omega, by congr 2; omega⟩

theorem numberOf_four_some {a b c d : Char} {value : Nat} (read : numberOf [a, b, c, d] (some 0) = some value) :
    CalendarDate.digit (value / 1000) = a ∧ CalendarDate.digit (value / 100) = b ∧
      CalendarDate.digit (value / 10) = c ∧ CalendarDate.digit value = d := by
  obtain ⟨first, one, read⟩ := numberOf_cons read
  obtain ⟨second, two, read⟩ := numberOf_cons read
  obtain ⟨third, three, read⟩ := numberOf_cons read
  obtain ⟨fourth, four, read⟩ := numberOf_cons read
  have same : 10 * (10 * (10 * (10 * 0 + first) + second) + third) + fourth = value := Option.some.inj read
  obtain ⟨less, rfl⟩ := digit_digitValue one
  obtain ⟨less', rfl⟩ := digit_digitValue two
  obtain ⟨lessThird, rfl⟩ := digit_digitValue three
  obtain ⟨lessFourth, rfl⟩ := digit_digitValue four
  unfold CalendarDate.digit
  exact ⟨by congr 2; omega, by congr 2; omega, by congr 2; omega, by congr 2; omega⟩

theorem datePattern_some {value : List Char} {written : YearMonthDay} (matched : datePattern value = some written) :
    ∃ a b c d e f g h, value = [a, b, c, d, '-', e, f, '-', g, h] ∧
      ∃ year month day, numberOf [a, b, c, d] (some 0) = some year ∧ numberOf [e, f] (some 0) = some month ∧
        numberOf [g, h] (some 0) = some day ∧ written = { year, month, day } := by
  unfold datePattern at matched
  split at matched
  · split at matched
    · rename_i year month day
      cases matched
      exact ⟨_, _, _, _, _, _, _, _, rfl, _, _, _, year, month, day, rfl⟩
    · cases matched
  · cases matched

/-- Only a date's own text is read as the date. -/
theorem text_parseCalendarDate {value : List Char} {date : CalendarDate} (parsed : parseCalendarDate value = some date) :
    date.text = value := by
  obtain ⟨number, found, made⟩ := Option.bind_eq_some_iff.mp parsed
  obtain ⟨written, matched, real⟩ := Option.bind_eq_some_iff.mp found
  have own : yearMonthDay date.number = written := by
    unfold CalendarDate.ofNumber at made
    split at made
    · cases made
      exact realDayNumber_some real
    · cases made
  obtain ⟨a, b, c, d, e, f, g, h, rfl, year, month, day, years, months, days, rfl⟩ := datePattern_some matched
  obtain ⟨y1, y2, y3, y4⟩ := numberOf_four_some years
  obtain ⟨m1, m2⟩ := numberOf_two_some months
  obtain ⟨d1, d2⟩ := numberOf_two_some days
  unfold CalendarDate.text
  simp only [own, Int.toNat_natCast, y1, y2, y3, y4, m1, m2, d1, d2]

example : parseCalendarDate "2026-02-28".toList = CalendarDate.ofNumber 20512 := by decide
example : parseCalendarDate "2026-02-30".toList = none := by decide

end LetterIRL.Schedule
