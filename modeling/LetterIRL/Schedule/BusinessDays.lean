import LetterIRL.Lib.Marked
import LetterIRL.Schedule.Calendar

namespace LetterIRL.Schedule
open Lib

/-! Business days, and the walk from one to another. -/

/-- The days listed as closed, and the last date the list covers. -/
structure Holidays where
  closed : CalendarDate → Bool
  through : CalendarDate

section
variable (holidays : Holidays)

/-- A weekday that is not a holiday; Thursday was day zero. -/
def isBusinessDay (date : CalendarDate) : Bool :=
  let weekday := (date.number + 4) % 7
  weekday != 0 && weekday != 6 && !holidays.closed date

/-- A lead time or a horizon; none where it throws its range error. -/
def dayCount (value : Int) : Option Nat := if 0 ≤ value ∧ value ≤ 1000 then some value.toNat else none

/-- How many dates there are, which no walk outlasts. -/
def CALENDAR_DAYS : Nat := 3652425

/-- The walk's loop, with so many days left in the calendar; none where a day past it is read. -/
def stepFrom (step : Int) : Nat → CalendarDate → Nat → Option CalendarDate
  | _, date, 0 => some date
  | 0, _, _ + 1 => none
  | fuel + 1, date, remaining + 1 =>
    match CalendarDate.ofNumber (date.number + step) with
    | none => none
    | some next => stepFrom step fuel next (if isBusinessDay holidays next then remaining else remaining + 1)

def stepBusinessDays (date : CalendarDate) (count : Int) : Option CalendarDate :=
  stepFrom holidays (if count < 0 then -1 else 1) CALENDAR_DAYS date count.natAbs

def businessDayOnOrBefore (date : CalendarDate) : Option CalendarDate :=
  if isBusinessDay holidays date then some date else stepBusinessDays holidays date (-1)

/-- The business days, as places marked on the line of days. -/
def businessMark (day : Int) : Bool := (CalendarDate.ofNumber day).any (isBusinessDay holidays)

end

section
variable {holidays : Holidays} {date result : CalendarDate} {fuel remaining : Nat}

theorem businessMark_number (holidays : Holidays) (date : CalendarDate) : businessMark holidays date.number = isBusinessDay holidays date := by
  unfold businessMark
  rw [CalendarDate.ofNumber_number, Option.any_some]

/-- A walk forward ends so many business days on. -/
theorem stepFrom_after (walked : stepFrom holidays 1 fuel date remaining = some result) :
    MarksAfter (businessMark holidays) date.number remaining result.number := by
  induction fuel generalizing date remaining with
  | zero =>
    cases remaining with
    | zero =>
      cases walked
      exact ⟨le_rfl, marks_self, .inl rfl⟩
    | succ remaining => cases walked
  | succ fuel ih =>
    cases remaining with
    | zero =>
      cases walked
      exact ⟨le_rfl, marks_self, .inl rfl⟩
    | succ remaining =>
      unfold stepFrom at walked
      split at walked
      · cases walked
      · rename_i next made
        have number := CalendarDate.ofNumber_some made
        have mark := businessMark_number holidays next
        obtain ⟨ordered, count, marked⟩ := ih walked
        have split := marks_add (businessMark holidays) (show date.number ≤ next.number by omega) ordered
        have one := marks_succ (businessMark holidays) (le_refl date.number)
        rw [marks_self, ← number, mark, Nat.zero_add] at one
        by_cases open_ : isBusinessDay holidays next = true
        · simp only [open_, if_true] at count one
          refine ⟨by omega, by omega, .inr ?_⟩
          rcases marked with same | later
          · rw [same, mark, open_]
          · exact later
        · simp only [open_, if_false, Bool.false_eq_true] at count one
          refine ⟨by omega, by omega, .inr ?_⟩
          rcases marked with same | later
          · rw [same, marks_self] at count
            omega
          · exact later

/-- One that runs past the calendar has fewer ahead of it. -/
theorem stepFrom_past (enough : LAST_DAY - date.number < fuel) (walked : stepFrom holidays 1 fuel date remaining = none) :
    marks (businessMark holidays) date.number LAST_DAY < remaining := by
  induction fuel generalizing date remaining with
  | zero =>
    have bounds := date.number_bounds
    omega
  | succ fuel ih =>
    cases remaining with
    | zero => cases walked
    | succ remaining =>
      unfold stepFrom at walked
      split at walked
      · rename_i outside
        have bounds := date.number_bounds
        have last : date.number = LAST_DAY := by
          have past := CalendarDate.ofNumber_none.mp outside
          omega
        rw [last, marks_self]
        omega
      · rename_i next made
        have number := CalendarDate.ofNumber_some made
        have mark := businessMark_number holidays next
        have bounds := next.number_bounds
        have fewer := ih (by omega) walked
        have split := marks_add (businessMark holidays) (show date.number ≤ next.number by omega) bounds.2
        have one := marks_succ (businessMark holidays) (le_refl date.number)
        rw [marks_self, ← number, mark, Nat.zero_add] at one
        by_cases open_ : isBusinessDay holidays next = true
        · simp only [open_, if_true] at fewer one
          omega
        · simp only [open_, if_false, Bool.false_eq_true] at fewer one
          omega

/-- A walk back ends so many business days before. -/
theorem stepFrom_before (walked : stepFrom holidays (-1) fuel date remaining = some result) :
    result.number ≤ date.number ∧ marks (businessMark holidays) (result.number - 1) (date.number - 1) = remaining ∧
      (result = date ∨ isBusinessDay holidays result = true) := by
  induction fuel generalizing date remaining with
  | zero =>
    cases remaining with
    | zero =>
      cases walked
      exact ⟨le_rfl, marks_self, .inl rfl⟩
    | succ remaining => cases walked
  | succ fuel ih =>
    cases remaining with
    | zero =>
      cases walked
      exact ⟨le_rfl, marks_self, .inl rfl⟩
    | succ remaining =>
      unfold stepFrom at walked
      split at walked
      · cases walked
      · rename_i next made
        have number := CalendarDate.ofNumber_some made
        have mark := businessMark_number holidays next
        obtain ⟨ordered, count, marked⟩ := ih walked
        have one := marks_succ (businessMark holidays) (show result.number - 1 ≤ next.number - 1 by omega)
        rw [Int.sub_add_cancel, mark, show next.number = date.number - 1 by omega] at one
        by_cases open_ : isBusinessDay holidays next = true
        · simp only [open_, if_true] at count one
          rw [show next.number - 1 = date.number - 1 - 1 by omega] at count
          refine ⟨by omega, by omega, .inr ?_⟩
          rcases marked with same | later
          · rw [same]
            exact open_
          · exact later
        · simp only [open_, if_false, Bool.false_eq_true] at count one
          rw [show next.number - 1 = date.number - 1 - 1 by omega] at count
          refine ⟨by omega, by omega, .inr ?_⟩
          rcases marked with same | later
          · rw [same, show next.number - 1 = date.number - 1 - 1 by omega, marks_self] at count
            omega
          · exact later

/-- One that runs past the calendar's first day has fewer behind it. -/
theorem stepFrom_short (enough : date.number - FIRST_DAY < fuel) (walked : stepFrom holidays (-1) fuel date remaining = none) :
    marks (businessMark holidays) (FIRST_DAY - 1) (date.number - 1) < remaining := by
  induction fuel generalizing date remaining with
  | zero =>
    have bounds := date.number_bounds
    omega
  | succ fuel ih =>
    cases remaining with
    | zero => cases walked
    | succ remaining =>
      unfold stepFrom at walked
      split at walked
      · rename_i outside
        have bounds := date.number_bounds
        have first : date.number = FIRST_DAY := by
          have past := CalendarDate.ofNumber_none.mp outside
          omega
        rw [first, marks_self]
        omega
      · rename_i next made
        have number := CalendarDate.ofNumber_some made
        have mark := businessMark_number holidays next
        have bounds := next.number_bounds
        have fewer := ih (by omega) walked
        have one := marks_succ (businessMark holidays) (show FIRST_DAY - 1 ≤ next.number - 1 by omega)
        rw [Int.sub_add_cancel, mark, show next.number = date.number - 1 by omega] at one
        rw [show next.number - 1 = date.number - 1 - 1 by omega] at fewer
        by_cases open_ : isBusinessDay holidays next = true
        · simp only [open_, if_true] at fewer one
          omega
        · simp only [open_, if_false, Bool.false_eq_true] at fewer one
          omega

theorem calendar_enough (date : CalendarDate) :
    LAST_DAY - date.number < CALENDAR_DAYS ∧ date.number - FIRST_DAY < CALENDAR_DAYS := by
  obtain ⟨least, most⟩ := date.number_bounds
  unfold FIRST_DAY LAST_DAY at *
  unfold CALENDAR_DAYS
  omega

/-- Business days ahead: that many, where there are as many in the calendar. -/
theorem stepBusinessDays_ahead (count : Nat) (stepped : stepBusinessDays holidays date count = some result) :
    MarksAfter (businessMark holidays) date.number count result.number := by
  unfold stepBusinessDays at stepped
  rw [if_neg (by omega), Int.natAbs_natCast] at stepped
  exact stepFrom_after stepped

theorem stepBusinessDays_ahead_none (count : Nat) : stepBusinessDays holidays date count = none ↔
    marks (businessMark holidays) date.number LAST_DAY < count := by
  constructor
  · intro past
    unfold stepBusinessDays at past
    rw [if_neg (by omega), Int.natAbs_natCast] at past
    exact stepFrom_past (calendar_enough date).1 past
  · intro fewer
    cases stepped : stepBusinessDays holidays date count with
    | none => rfl
    | some result =>
      have after := stepBusinessDays_ahead count stepped
      have counted := after.count
      have split := marks_add (businessMark holidays) after.ordered result.number_bounds.2
      omega

/-- Business days back from one. -/
theorem stepBusinessDays_back (count : Nat) (marked : isBusinessDay holidays date = true)
    (stepped : stepBusinessDays holidays date (-count) = some result) :
    MarksAfter (businessMark holidays) result.number count date.number ∧ isBusinessDay holidays result = true := by
  unfold stepBusinessDays at stepped
  rw [Int.natAbs_neg, Int.natAbs_natCast] at stepped
  cases count with
  | zero =>
    cases stepped
    exact ⟨⟨le_rfl, marks_self, .inl rfl⟩, marked⟩
  | succ count =>
    rw [if_pos (by omega)] at stepped
    obtain ⟨ordered, counted, ended⟩ := stepFrom_before stepped
    have open_ : isBusinessDay holidays result = true := by
      rcases ended with same | open_
      · rw [same]
        exact marked
      · exact open_
    have whole := marks_succ (businessMark holidays) (show result.number - 1 ≤ date.number - 1 by omega)
    have one := marks_succ (businessMark holidays) (le_refl (result.number - 1))
    have split := marks_add (businessMark holidays) (show result.number - 1 ≤ result.number by omega) ordered
    rw [Int.sub_add_cancel, businessMark_number, marked, if_pos rfl] at whole
    rw [Int.sub_add_cancel, businessMark_number, open_, if_pos rfl, marks_self] at one
    exact ⟨⟨ordered, by omega, .inr (by rw [businessMark_number, marked])⟩, open_⟩

/-- The last business day no later than a date, where the calendar has one. -/
theorem businessDayOnOrBefore_last (found : businessDayOnOrBefore holidays date = some result) :
    LastMark (businessMark holidays) date.number result.number := by
  unfold businessDayOnOrBefore at found
  split at found
  · rename_i marked
    cases found
    exact ⟨le_rfl, by rw [businessMark_number, marked], marks_self⟩
  · rename_i unmarked
    have unmarked : isBusinessDay holidays date = false := by simpa using unmarked
    unfold stepBusinessDays at found
    rw [if_pos (by decide)] at found
    obtain ⟨ordered, counted, ended⟩ := stepFrom_before found
    have open_ : isBusinessDay holidays result = true := by
      rcases ended with same | open_
      · rw [same, marks_self] at counted
        cases counted
      · exact open_
    have earlier : result.number ≠ date.number := by
      intro same
      rw [CalendarDate.ext_number same, unmarked] at open_
      cases open_
    have whole := marks_succ (businessMark holidays) (show result.number - 1 ≤ date.number - 1 by omega)
    have one := marks_succ (businessMark holidays) (le_refl (result.number - 1))
    have split := marks_add (businessMark holidays) (show result.number - 1 ≤ result.number by omega) ordered
    rw [Int.sub_add_cancel, businessMark_number, unmarked, if_neg (by decide), counted] at whole
    rw [Int.sub_add_cancel, businessMark_number, open_, if_pos rfl, marks_self] at one
    have single : (-1 : Int).natAbs = 1 := rfl
    exact ⟨ordered, by rw [businessMark_number, open_], by omega⟩

/-- The business days so far: the calendar has as many up to a date. -/
theorem marks_upTo (holidays : Holidays) (date : CalendarDate) : marks (businessMark holidays) (FIRST_DAY - 1) date.number =
    marks (businessMark holidays) (FIRST_DAY - 1) (date.number - 1) + if isBusinessDay holidays date = true then 1 else 0 := by
  have bounds := date.number_bounds
  have whole := marks_succ (businessMark holidays) (show FIRST_DAY - 1 ≤ date.number - 1 by omega)
  rw [Int.sub_add_cancel, businessMark_number] at whole
  exact whole

theorem businessDayOnOrBefore_none : businessDayOnOrBefore holidays date = none ↔
    marks (businessMark holidays) (FIRST_DAY - 1) date.number = 0 := by
  have upTo := marks_upTo holidays date
  constructor
  · intro past
    unfold businessDayOnOrBefore at past
    split at past
    · cases past
    · rename_i unmarked
      unfold stepBusinessDays at past
      rw [if_pos (by decide)] at past
      have fewer := stepFrom_short (calendar_enough date).2 past
      have single : (-1 : Int).natAbs = 1 := rfl
      rw [if_neg unmarked] at upTo
      omega
  · intro none_
    cases found : businessDayOnOrBefore holidays date with
    | none => rfl
    | some result =>
      have last := businessDayOnOrBefore_last found
      have open_ := marks_zero_iff.mp none_ result.number (by have bounds := result.number_bounds; omega) last.ordered
      rw [last.marked] at open_
      cases open_

theorem stepBusinessDays_back_none (count : Nat) (marked : isBusinessDay holidays date = true) :
    stepBusinessDays holidays date (-count) = none ↔
      marks (businessMark holidays) (FIRST_DAY - 1) date.number ≤ count := by
  have upTo := marks_upTo holidays date
  rw [if_pos marked] at upTo
  constructor
  · intro past
    unfold stepBusinessDays at past
    rw [Int.natAbs_neg, Int.natAbs_natCast] at past
    cases count with
    | zero => cases past
    | succ count =>
      rw [if_pos (by omega)] at past
      have fewer := stepFrom_short (calendar_enough date).2 past
      omega
  · intro fewer
    cases stepped : stepBusinessDays holidays date (-count) with
    | none => rfl
    | some result =>
      obtain ⟨after, open_⟩ := stepBusinessDays_back count marked stepped
      have counted := after.count
      have upToResult := marks_upTo holidays result
      have split := marks_add (businessMark holidays)
        (show FIRST_DAY - 1 ≤ result.number by have bounds := result.number_bounds; omega) after.ordered
      rw [if_pos open_] at upToResult
      omega

end

end LetterIRL.Schedule
