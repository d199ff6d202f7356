import LetterIRL.Schedule.Calendar

namespace LetterIRL.Schedule

/-! New York's clock, which is the platform's, and the instant it shows a time. -/

def DAY_MS : Int := 86400000
def HOUR_MS : Int := 3600000

/-- What New York's clock is ahead of UTC, in milliseconds, at an instant: four or five hours behind, or between. -/
structure NewYork where
  offset : Int → Int
  behind : ∀ instant, -5 * HOUR_MS ≤ offset instant ∧ offset instant ≤ -4 * HOUR_MS

/-- Whole hours, with more than five between one change and the next. -/
structure NewYork.Switches (zone : NewYork) : Prop where
  hours : ∀ instant, zone.offset instant = -5 * HOUR_MS ∨ zone.offset instant = -4 * HOUR_MS
  apart : ∀ first middle last, first ≤ middle → middle ≤ last → last ≤ first + 5 * HOUR_MS →
    zone.offset first = zone.offset last → zone.offset middle = zone.offset first

/-- A year as the formatter prints it: without its era. -/
def printedYear (year : Int) : Int := if 1 ≤ year then year else 1 - year

/-- The date and the hour that are printed for a wall-clock time; none where the date's text is not one. -/
def printedClock (wall : Int) : Option (CalendarDate × Int) :=
  let written := yearMonthDay (wall / DAY_MS)
  let year := printedYear written.year
  -- The year is not padded: one before 1000 has too few digits, and one past 9999 too many.
  if 1000 ≤ year ∧ year ≤ 9999 then
    ((realDayNumber { written with year }).bind CalendarDate.ofNumber).map fun date => (date, wall % DAY_MS / HOUR_MS)
  else none

/-- The time a date and an hour are, written as if it were UTC. -/
def wallTime (date : CalendarDate) (hour : Int) : Int := date.number * DAY_MS + hour * HOUR_MS

namespace NewYork
variable (zone : NewYork)

def wall (instant : Int) : Int := instant + zone.offset instant

def newYorkClock (instant : Int) : Option (CalendarDate × Int) := printedClock (zone.wall instant)

/-- `offset`; none where it throws its range error. -/
def readOffset (instant : Int) : Option Int :=
  (zone.newYorkClock instant).map fun clock => wallTime clock.1 clock.2 - instant

def newYorkTime (date : CalendarDate) (hour : Int) : Option Int :=
  if 0 ≤ hour ∧ hour ≤ 23 then
    let wall := wallTime date hour
    (zone.readOffset wall).bind fun offset =>
      let guess := wall - offset
      (zone.readOffset guess).map fun offset => wall - offset
  else none

end NewYork

/-- `1000-01-01`, the first date whose year is printed with four digits. -/
def FIRST_PRINTED : Int := -354285

section
variable {wall day : Int} {date : CalendarDate} {hour : Int}

theorem first_printed : daysBeforeYear 1000 = FIRST_PRINTED := by decide

/-- From the year 1000 to 9999 the clock prints the day it is. -/
theorem printedClock_day (least : FIRST_PRINTED ≤ wall / DAY_MS) (most : wall / DAY_MS ≤ LAST_DAY) :
    ∃ date : CalendarDate, date.number = wall / DAY_MS ∧ printedClock wall = some (date, wall % DAY_MS / HOUR_MS) := by
  have early : FIRST_DAY ≤ wall / DAY_MS := le_trans (by decide) least
  have digits := fourDigits_iff.mpr ⟨early, most⟩
  have inYear := yearOf_spec (wall / DAY_MS)
  have printed : 1000 ≤ yearOf (wall / DAY_MS) := by
    by_contra before
    have mono := daysBeforeYear_mono (show yearOf (wall / DAY_MS) + 1 ≤ 1000 by omega)
    rw [first_printed] at mono
    omega
  refine ⟨⟨wall / DAY_MS, digits⟩, rfl, ?_⟩
  have year : (yearMonthDay (wall / DAY_MS)).year = yearOf (wall / DAY_MS) := rfl
  have same : printedYear (yearMonthDay (wall / DAY_MS)).year = (yearMonthDay (wall / DAY_MS)).year := if_pos (by omega)
  unfold printedClock
  simp only
  rw [same, year, if_pos ⟨printed, digits.2⟩, ← year, realDayNumber_yearMonthDay, Option.bind_some,
    CalendarDate.ofNumber, dif_pos digits, Option.map_some]

/-- Before the year 1000 it prints no date. -/
theorem printedClock_early (least : FIRST_DAY - 1 ≤ wall / DAY_MS) (early : wall / DAY_MS < FIRST_PRINTED) :
    printedClock wall = none := by
  have inYear := yearOf_spec (wall / DAY_MS)
  have some_ : -1 ≤ yearOf (wall / DAY_MS) := by
    by_contra before
    have mono := daysBeforeYear_mono (show yearOf (wall / DAY_MS) + 1 ≤ -1 by omega)
    have first : daysBeforeYear (-1) < FIRST_DAY - 1 := by decide
    omega
  have short : yearOf (wall / DAY_MS) < 1000 := by
    by_contra after
    have mono := daysBeforeYear_mono (show 1000 ≤ yearOf (wall / DAY_MS) by omega)
    rw [first_printed] at mono
    omega
  have year : (yearMonthDay (wall / DAY_MS)).year = yearOf (wall / DAY_MS) := rfl
  unfold printedClock
  simp only
  rw [year, if_neg]
  unfold printedYear
  split
  · omega
  · omega

/-- A wall-clock time's day and hour. -/
theorem wallTime_parts (date : CalendarDate) (from_ : 0 ≤ hour) (before : hour < 24) :
    wallTime date hour / DAY_MS = date.number ∧ wallTime date hour % DAY_MS / HOUR_MS = hour := by
  unfold wallTime DAY_MS HOUR_MS
  omega

/-- Past 9999 it prints none either. -/
theorem printedClock_late (late : LAST_DAY < wall / DAY_MS) : printedClock wall = none := by
  have inYear := yearOf_spec (wall / DAY_MS)
  have long : 10000 ≤ yearOf (wall / DAY_MS) := by
    by_contra before
    have mono := daysBeforeYear_mono (show yearOf (wall / DAY_MS) + 1 ≤ 10000 by omega)
    have last : daysBeforeYear 10000 = LAST_DAY + 1 := by decide
    omega
  have year : (yearMonthDay (wall / DAY_MS)).year = yearOf (wall / DAY_MS) := rfl
  unfold printedClock
  simp only
  rw [year, if_neg]
  unfold printedYear
  rw [if_pos (by omega)]
  omega

/-- A date printed in those years is the day it is. -/
theorem printedClock_some (least : FIRST_DAY - 1 ≤ wall / DAY_MS) (printed : printedClock wall = some (date, hour)) :
    date.number = wall / DAY_MS ∧ hour = wall % DAY_MS / HOUR_MS ∧ FIRST_PRINTED ≤ wall / DAY_MS ∧ wall / DAY_MS ≤ LAST_DAY := by
  have from_ : FIRST_PRINTED ≤ wall / DAY_MS := by
    by_contra early
    rw [printedClock_early least (by omega)] at printed
    cases printed
  have upTo : wall / DAY_MS ≤ LAST_DAY := by
    by_contra late
    rw [printedClock_late (by omega)] at printed
    cases printed
  obtain ⟨shown, number, again⟩ := printedClock_day from_ upTo
  rw [again] at printed
  obtain ⟨rfl, rfl⟩ := Prod.mk.inj (Option.some.inj printed)
  exact ⟨number, rfl, from_, upTo⟩

/-- Whatever day it is, a date printed has a year of four digits, and an hour of the day. -/
theorem printedClock_bounds (printed : printedClock wall = some (date, hour)) :
    FIRST_PRINTED ≤ date.number ∧ 0 ≤ hour ∧ hour ≤ 23 := by
  unfold printedClock at printed
  simp only at printed
  split at printed
  · rename_i digits
    obtain ⟨shown, made, same⟩ := Option.map_eq_some_iff.mp printed
    obtain ⟨rfl, rfl⟩ := Prod.mk.inj same
    obtain ⟨day, real, made⟩ := Option.bind_eq_some_iff.mp made
    have number := CalendarDate.ofNumber_some made
    have written := realDayNumber_some real
    have year : yearOf shown.number = printedYear (yearMonthDay (wall / DAY_MS)).year := by
      rw [number]
      exact congrArg YearMonthDay.year written
    have inYear := yearOf_spec shown.number
    have mono := daysBeforeYear_mono (show 1000 ≤ yearOf shown.number by omega)
    rw [first_printed] at mono
    unfold DAY_MS HOUR_MS
    omega
  · cases printed

theorem wallTime_printed (whole : 0 ≤ hour ∧ hour ≤ 23) (printed : FIRST_PRINTED ≤ date.number) :
    printedClock (wallTime date hour) = some (date, hour) := by
  obtain ⟨day, hours⟩ := wallTime_parts date whole.1 (show hour < 24 by omega)
  obtain ⟨shown, number, again⟩ := printedClock_day (show FIRST_PRINTED ≤ wallTime date hour / DAY_MS by omega)
    (by rw [day]; exact date.number_bounds.2)
  rw [again, hours, CalendarDate.ext_number (number.trans day)]

end

section
variable {zone : NewYork} {date : CalendarDate} {hour instant : Int}

/-- The offset read on the hour is the clock's. -/
theorem NewYork.readOffset_some (switches : zone.Switches) (onHour : instant % HOUR_MS = 0)
    (least : FIRST_DAY - 1 ≤ zone.wall instant / DAY_MS) {offset : Int} (read : zone.readOffset instant = some offset) :
    offset = zone.offset instant ∧ FIRST_PRINTED ≤ zone.wall instant / DAY_MS ∧ zone.wall instant / DAY_MS ≤ LAST_DAY := by
  unfold readOffset newYorkClock at read
  obtain ⟨⟨shown, hours⟩, printed, rfl⟩ := Option.map_eq_some_iff.mp read
  obtain ⟨number, rfl, from_, upTo⟩ := printedClock_some least printed
  refine ⟨?_, from_, upTo⟩
  have whole := switches.hours instant
  unfold wallTime
  simp only
  rw [number]
  unfold wall DAY_MS HOUR_MS at *
  omega

theorem NewYork.readOffset_day (switches : zone.Switches) (onHour : instant % HOUR_MS = 0)
    (least : FIRST_PRINTED ≤ zone.wall instant / DAY_MS) (most : zone.wall instant / DAY_MS ≤ LAST_DAY) :
    zone.readOffset instant = some (zone.offset instant) := by
  obtain ⟨shown, number, printed⟩ := printedClock_day least most
  have read : zone.readOffset instant = some (wallTime shown (zone.wall instant % DAY_MS / HOUR_MS) - instant) := by
    unfold readOffset newYorkClock
    rw [printed, Option.map_some]
  rw [read, (readOffset_some switches onHour (le_trans (by decide) least) read).1]

/-- What an instant given for a date and an hour is: the first at which the clock shows them or, where they are
skipped, the one at which it shows the hour before, in standard time. -/
inductive NewYork.Given (zone : NewYork) (date : CalendarDate) (hour instant : Int) : Prop
  | shown (shows : zone.wall instant = wallTime date hour) (clock : zone.newYorkClock instant = some (date, hour))
      (first : ∀ other, zone.wall other = wallTime date hour → instant ≤ other)
  | skipped (none_ : ∀ other, zone.wall other ≠ wallTime date hour) (standard : zone.offset instant = -5 * HOUR_MS)
      (before : zone.wall instant = wallTime date (hour - 1))

/-- The two readings, and what they make of the instant. -/
theorem NewYork.newYorkTime_some (switches : zone.Switches) (given : zone.newYorkTime date hour = some instant) :
    0 ≤ hour ∧ hour ≤ 23 ∧ FIRST_PRINTED ≤ date.number ∧
      instant = wallTime date hour - zone.offset (wallTime date hour - zone.offset (wallTime date hour)) := by
  unfold newYorkTime at given
  split at given
  · rename_i whole
    obtain ⟨first, read, rest⟩ := Option.bind_eq_some_iff.mp given
    obtain ⟨second, again, rfl⟩ := Option.map_eq_some_iff.mp rest
    have bounds := date.number_bounds
    have onHour : wallTime date hour % HOUR_MS = 0 := by
      unfold wallTime DAY_MS HOUR_MS
      omega
    have one := switches.hours (wallTime date hour)
    obtain ⟨rfl, from_, -⟩ := readOffset_some switches onHour
      (by unfold wall wallTime DAY_MS HOUR_MS at *; omega) read
    have two := switches.hours (wallTime date hour - zone.offset (wallTime date hour))
    obtain ⟨rfl, -, -⟩ := readOffset_some switches (by unfold HOUR_MS at *; omega)
      (by unfold wall wallTime DAY_MS HOUR_MS at *; omega) again
    exact ⟨whole.1, whole.2, by unfold wall wallTime DAY_MS HOUR_MS at *; omega, rfl⟩
  · cases given

/-- The four ways the two readings come out. -/
theorem NewYork.readings (switches : zone.Switches) (wall : Int) {instant : Int}
    (read : instant = wall - zone.offset (wall - zone.offset wall)) :
    (zone.wall instant = wall ∧ ∀ other, zone.wall other = wall → instant ≤ other) ∨
      (∀ other, zone.wall other ≠ wall) ∧ zone.offset instant = -5 * HOUR_MS ∧ zone.wall instant = wall - HOUR_MS := by
  have hour_ : HOUR_MS = 3600000 := rfl
  -- An instant that shows the time is four or five hours past it.
  have either : ∀ other, zone.wall other = wall → other = wall + 4 * HOUR_MS ∧ zone.offset other = -4 * HOUR_MS ∨
      other = wall + 5 * HOUR_MS ∧ zone.offset other = -5 * HOUR_MS := by
    intro other shows
    have whole := switches.hours other
    unfold NewYork.wall at shows
    omega
  have between := switches.apart wall (wall + 4 * HOUR_MS) (wall + 5 * HOUR_MS) (by omega) (by omega) le_rfl
  have four := switches.hours (wall + 4 * HOUR_MS)
  have five := switches.hours (wall + 5 * HOUR_MS)
  have shown : ∀ hours : Int, zone.offset (wall + hours * HOUR_MS) = -hours * HOUR_MS →
      zone.wall (wall + hours * HOUR_MS) = wall := by
    intro hours offset
    unfold NewYork.wall
    rw [offset, Int.neg_mul]
    omega
  rcases switches.hours wall with standard | daylight
  · rw [standard, show wall - -5 * HOUR_MS = wall + 5 * HOUR_MS by omega] at read
    rcases five with standard' | daylight'
    · rw [standard', show wall - -5 * HOUR_MS = wall + 5 * HOUR_MS by omega] at read
      subst read
      refine .inl ⟨shown 5 standard', ?_⟩
      intro other shows
      rcases either other shows with ⟨rfl, offset⟩ | ⟨rfl, -⟩
      · omega
      · exact le_rfl
    · rw [daylight', show wall - -4 * HOUR_MS = wall + 4 * HOUR_MS by omega] at read
      subst read
      rcases four with skips | shows
      · refine .inr ⟨?_, skips, ?_⟩
        · intro other shows
          rcases either other shows with ⟨rfl, offset⟩ | ⟨rfl, offset⟩
          · omega
          · omega
        · unfold NewYork.wall
          omega
      · refine .inl ⟨shown 4 shows, ?_⟩
        intro other shows'
        rcases either other shows' with ⟨rfl, -⟩ | ⟨rfl, -⟩
        · exact le_rfl
        · omega
  · rw [daylight, show wall - -4 * HOUR_MS = wall + 4 * HOUR_MS by omega] at read
    rcases four with standard' | daylight'
    · rw [standard', show wall - -5 * HOUR_MS = wall + 5 * HOUR_MS by omega] at read
      subst read
      refine .inl ⟨shown 5 (by omega), ?_⟩
      intro other shows
      rcases either other shows with ⟨rfl, offset⟩ | ⟨rfl, -⟩
      · omega
      · exact le_rfl
    · rw [daylight', show wall - -4 * HOUR_MS = wall + 4 * HOUR_MS by omega] at read
      subst read
      refine .inl ⟨shown 4 daylight', ?_⟩
      intro other shows
      rcases either other shows with ⟨rfl, -⟩ | ⟨rfl, -⟩
      · exact le_rfl
      · omega

/-- Every hour of a date but the first of the first year printed with four digits, and the last of the last. -/
theorem NewYork.newYorkTime_returns (switches : zone.Switches) (whole : 0 ≤ hour ∧ hour ≤ 23)
    (least : FIRST_PRINTED * DAY_MS + 5 * HOUR_MS ≤ wallTime date hour)
    (most : wallTime date hour < (LAST_DAY + 1) * DAY_MS - HOUR_MS) : ∃ instant, zone.newYorkTime date hour = some instant := by
  have onHour : wallTime date hour % HOUR_MS = 0 := by
    unfold wallTime DAY_MS HOUR_MS
    omega
  unfold newYorkTime
  rw [if_pos whole]
  simp only
  generalize wallTime date hour = wall at *
  have one := switches.hours wall
  have two := switches.hours (wall - zone.offset wall)
  rw [readOffset_day switches onHour (by unfold NewYork.wall FIRST_PRINTED DAY_MS HOUR_MS at *; omega)
      (by unfold NewYork.wall LAST_DAY DAY_MS HOUR_MS at *; omega), Option.bind_some,
    readOffset_day switches (by unfold HOUR_MS at *; omega) (by unfold NewYork.wall FIRST_PRINTED DAY_MS HOUR_MS at *; omega)
      (by unfold NewYork.wall LAST_DAY DAY_MS HOUR_MS at *; omega)]
  exact ⟨_, rfl⟩

/-- In the middle of the day no reading leaves the date, whatever the clock's changes. -/
theorem NewYork.newYorkTime_midday (date : CalendarDate) (printed : FIRST_PRINTED ≤ date.number) (hours : 6 ≤ hour ∧ hour ≤ 22) :
    ∃ instant, zone.newYorkTime date hour = some instant := by
  have reads : ∀ instant, date.number * DAY_MS ≤ zone.wall instant → zone.wall instant < (date.number + 1) * DAY_MS →
      zone.readOffset instant = some (date.number * DAY_MS + zone.wall instant % DAY_MS / HOUR_MS * HOUR_MS - instant) := by
    intro instant least most
    have bounds := date.number_bounds
    have day : zone.wall instant / DAY_MS = date.number := by
      unfold DAY_MS at *
      omega
    obtain ⟨shown, number, clock⟩ := printedClock_day (show FIRST_PRINTED ≤ zone.wall instant / DAY_MS by omega) (by omega)
    unfold readOffset newYorkClock
    rw [clock, Option.map_some, CalendarDate.ext_number (number.trans day)]
    rfl
  have one := zone.behind (wallTime date hour)
  unfold newYorkTime
  rw [if_pos (by omega)]
  simp only
  rw [reads _ (by unfold wall wallTime DAY_MS HOUR_MS at *; omega) (by unfold wall wallTime DAY_MS HOUR_MS at *; omega),
    Option.bind_some]
  generalize guessed : wallTime date hour - (date.number * DAY_MS + zone.wall (wallTime date hour) % DAY_MS / HOUR_MS * HOUR_MS -
    wallTime date hour) = guess
  have two := zone.behind guess
  rw [reads guess (by unfold wall wallTime DAY_MS HOUR_MS at *; omega) (by unfold wall wallTime DAY_MS HOUR_MS at *; omega)]
  exact ⟨_, rfl⟩

/-- `newYorkTime` inverts the clock, where the clock prints a date at all. -/
theorem NewYork.newYorkTime_inverts (zone : NewYork) (switches : zone.Switches) (date : CalendarDate) (hour : Int)
    (whole : 0 ≤ hour ∧ hour ≤ 23) :
    (date.number < FIRST_PRINTED → zone.newYorkTime date hour = none) ∧
    (FIRST_PRINTED < date.number → date.number < LAST_DAY → ∃ instant, zone.newYorkTime date hour = some instant) ∧
    ∀ instant, zone.newYorkTime date hour = some instant → zone.Given date hour instant := by
  refine ⟨?_, ?_, ?_⟩
  · intro early
    cases given : zone.newYorkTime date hour with
    | none => rfl
    | some instant =>
      have printed := (newYorkTime_some switches given).2.2.1
      omega
  · intro least most
    apply newYorkTime_returns switches whole
    · unfold wallTime DAY_MS HOUR_MS
      omega
    · unfold wallTime DAY_MS HOUR_MS
      omega
  · intro instant given
    obtain ⟨-, -, printed, read⟩ := newYorkTime_some switches given
    rcases readings switches _ read with ⟨shows, first⟩ | ⟨none_, standard, before⟩
    · refine .shown shows ?_ first
      unfold newYorkClock
      rw [shows, wallTime_printed whole printed]
    · refine .skipped none_ standard ?_
      rw [before]
      unfold wallTime
      rw [Int.sub_mul]
      omega

/-- New York's clock around 2026, as if it changed in that year only. -/
def clockOf2026 : NewYork where
  offset instant := if 20520 * DAY_MS + 7 * HOUR_MS ≤ instant ∧ instant < 20758 * DAY_MS + 6 * HOUR_MS then -4 * HOUR_MS
    else -5 * HOUR_MS
  behind instant := by
    unfold HOUR_MS
    split
    · decide
    · decide

theorem clockOf2026_switches : clockOf2026.Switches := by
  refine ⟨?_, ?_⟩
  · intro instant
    unfold clockOf2026
    simp only
    split
    · exact .inr rfl
    · exact .inl rfl
  · intro first middle last
    unfold clockOf2026 DAY_MS HOUR_MS
    simp only
    intro one two three
    split
    · split
      · intro _
        rw [if_pos (by omega)]
      · intro changes
        cases changes
    · split
      · intro changes
        cases changes
      · intro _
        rw [if_neg (by omega)]

/-- 02:00 on 2026-03-08, which is skipped, and 01:00 on 2026-11-01, which is repeated. -/
theorem clockOf2026_inverts : clockOf2026.Given ⟨20520, by decide⟩ 2 (20520 * DAY_MS + 6 * HOUR_MS) ∧
    clockOf2026.Given ⟨20758, by decide⟩ 1 (20758 * DAY_MS + 5 * HOUR_MS) :=
  ⟨(NewYork.newYorkTime_inverts clockOf2026 clockOf2026_switches ⟨20520, by decide⟩ 2 (by decide)).2.2 _ (by decide +kernel),
    (NewYork.newYorkTime_inverts clockOf2026 clockOf2026_switches ⟨20758, by decide⟩ 1 (by decide)).2.2 _ (by decide +kernel)⟩

/-- 09:00 on `0999-06-01`: the clock prints `999-06-01`, which is no calendar date. -/
theorem newYorkTime_unpadded : ∃ (zone : NewYork) (date : CalendarDate) (hour : Int), zone.Switches ∧ (0 ≤ hour ∧ hour ≤ 23) ∧
    ¬ ∃ instant, zone.newYorkTime date hour = some instant ∧ zone.Given date hour instant := by
  refine ⟨clockOf2026, ⟨-354499, by decide⟩, 9, clockOf2026_switches, by decide, ?_⟩
  rintro ⟨instant, given, -⟩
  have throws : clockOf2026.newYorkTime ⟨-354499, by decide⟩ 9 = none := by decide +kernel
  rw [throws] at given
  cases given

end

end LetterIRL.Schedule
