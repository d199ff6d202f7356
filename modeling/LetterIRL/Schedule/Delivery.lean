import LetterIRL.Schedule.BusinessDays
import LetterIRL.Schedule.Zone

namespace LetterIRL.Schedule
open Lib

/-! When mail goes to the printer so that it arrives by a date. `none` is the module's range error. -/

def DISPATCH_HOUR : Int := 9
def MAIL_CUTOFF_HOUR : Int := 12

structure ScheduleSettings where
  leadDays : Int
  horizonDays : Int

section
variable (holidays : Holidays) (zone : NewYork)

def mailOnFor (arriveBy : CalendarDate) (leadDays : Int) : Option CalendarDate :=
  (businessDayOnOrBefore holidays arriveBy).bind fun last =>
    (dayCount leadDays).bind fun lead => stepBusinessDays holidays last (-lead)

def earliestMailOn (now : Int) : Option CalendarDate :=
  (zone.newYorkClock now).bind fun (today, hour) =>
    if isBusinessDay holidays today && hour < MAIL_CUTOFF_HOUR then some today else stepBusinessDays holidays today 1

def earliestArrival (now leadDays : Int) : Option CalendarDate :=
  (earliestMailOn holidays zone now).bind fun first =>
    (dayCount leadDays).bind fun lead => stepBusinessDays holidays first lead

/-- The last date on offer; none within for a year past 9999, whose text (`+010000-01`) sorts before every date. -/
def latestArrival (now horizonDays : Int) : Option (Option CalendarDate) :=
  (zone.newYorkClock now).bind fun (today, _) =>
    (dayCount horizonDays).map fun days =>
      (CalendarDate.ofNumber (today.number + days)).map fun latest =>
        if latest < holidays.through then latest else holidays.through

/-- Whether a date's text sorts after the last one's. -/
def pastLatest (date : CalendarDate) (latest : Option CalendarDate) : Bool := latest.all (· < date)

def dispatchAt (mailOn : CalendarDate) : Option Int := zone.newYorkTime mailOn DISPATCH_HOUR

inductive Refusal
  | invalidDate
  | unavailable
  | tooSoon
  | tooLate
  deriving DecidableEq

inductive ArrivalCheck
  | ok (arriveBy mailOn : CalendarDate) (dispatchAt : Int) (earliest : CalendarDate) (latest : Option CalendarDate)
  | refused (reason : Refusal) (earliest : CalendarDate) (latest : Option CalendarDate)
  deriving DecidableEq

def checkArrival (arriveBy : List Char) (now : Int) (settings : ScheduleSettings) : Option ArrivalCheck :=
  (earliestArrival holidays zone now settings.leadDays).bind fun earliest =>
    (latestArrival holidays zone now settings.horizonDays).bind fun latest =>
      match parseCalendarDate arriveBy with
      | none => some (.refused .invalidDate earliest latest)
      | some date =>
        if pastLatest earliest latest then some (.refused .unavailable earliest latest)
        else if date < earliest then some (.refused .tooSoon earliest latest)
        else if pastLatest date latest then some (.refused .tooLate earliest latest)
        else
          (mailOnFor holidays date settings.leadDays).bind fun mailOn =>
            (dispatchAt zone mailOn).map fun dispatchAt => .ok date mailOn dispatchAt earliest latest

end

section
variable {holidays : Holidays} {zone : NewYork} {date other mailOn today first earliest : CalendarDate} {lead : Nat}
  {now hour : Int}

theorem dayCount_some (few : lead ≤ 1000) : dayCount lead = some lead := by
  unfold dayCount
  rw [if_pos (by omega), Int.toNat_natCast]

/-- Every mail date is a business day, so many before the last one no later than the arrival. -/
theorem mailOnFor_some (few : lead ≤ 1000) (mails : mailOnFor holidays date lead = some mailOn) :
    isBusinessDay holidays mailOn = true ∧ ∃ last, LastMark (businessMark holidays) date.number last ∧
      MarksAfter (businessMark holidays) mailOn.number lead last := by
  unfold mailOnFor at mails
  obtain ⟨last, found, mails⟩ := Option.bind_eq_some_iff.mp mails
  rw [dayCount_some few, Option.bind_some] at mails
  have lastMark := businessDayOnOrBefore_last found
  have marked := lastMark.marked
  rw [businessMark_number] at marked
  obtain ⟨after, open_⟩ := stepBusinessDays_back lead marked mails
  exact ⟨open_, last.number, lastMark, after⟩

/-- There is none exactly where the calendar has too few business days up to the arrival. -/
theorem mailOnFor_none (few : lead ≤ 1000) : mailOnFor holidays date lead = none ↔
    marks (businessMark holidays) (FIRST_DAY - 1) date.number ≤ lead := by
  unfold mailOnFor
  rw [dayCount_some few]
  cases found : businessDayOnOrBefore holidays date with
  | none =>
    have none_ := businessDayOnOrBefore_none.mp found
    exact iff_of_true rfl (by omega)
  | some last =>
    have lastMark := businessDayOnOrBefore_last found
    have marked := lastMark.marked
    rw [businessMark_number] at marked
    rw [Option.bind_some, Option.bind_some, stepBusinessDays_back_none lead marked]
    have split := marks_add (businessMark holidays)
      (show FIRST_DAY - 1 ≤ last.number by have bounds := last.number_bounds; omega) lastMark.ordered
    rw [lastMark.none_] at split
    omega

theorem mailOnFor_mono (few : lead ≤ 1000) {mailOn' : CalendarDate} (mails : mailOnFor holidays date lead = some mailOn)
    (mails' : mailOnFor holidays other lead = some mailOn') (ordered : date ≤ other) : mailOn ≤ mailOn' := by
  obtain ⟨open_, last, lastMark, back⟩ := mailOnFor_some few mails
  obtain ⟨open_', last', lastMark', back'⟩ := mailOnFor_some few mails'
  exact marks_mono back (by rw [businessMark_number, open_]) back' (lastMark.mono lastMark' ordered)

/-- The first mail date is a business day: today, or the next one. -/
theorem earliestMailOn_some (clock : zone.newYorkClock now = some (today, hour))
    (found : earliestMailOn holidays zone now = some first) :
    isBusinessDay holidays first = true ∧ MarksAfter (businessMark holidays) today.number
      (if isBusinessDay holidays today && hour < MAIL_CUTOFF_HOUR then 0 else 1) first.number := by
  unfold earliestMailOn at found
  rw [clock, Option.bind_some] at found
  simp only at found
  split at found
  · rename_i early
    obtain ⟨open_, -⟩ := (Bool.and_eq_true _ _).mp early
    cases found
    rw [if_pos early]
    exact ⟨open_, le_rfl, marks_self, .inl rfl⟩
  · rename_i late
    rw [if_neg late]
    have after : MarksAfter (businessMark holidays) _ 1 _ := stepBusinessDays_ahead 1 found
    refine ⟨?_, after⟩
    rcases after.marked with same | marked
    · have counted := after.count
      rw [same, marks_self] at counted
      cases counted
    · rw [businessMark_number] at marked
      exact marked

theorem earliestMailOn_none (clock : zone.newYorkClock now = some (today, hour)) : earliestMailOn holidays zone now = none ↔
    marks (businessMark holidays) today.number LAST_DAY <
      (if isBusinessDay holidays today && hour < MAIL_CUTOFF_HOUR then 0 else 1) := by
  unfold earliestMailOn
  rw [clock, Option.bind_some]
  simp only
  split
  · exact iff_of_false nofun (by omega)
  · exact stepBusinessDays_ahead_none 1

theorem earliestArrival_some (few : lead ≤ 1000) (found : earliestArrival holidays zone now lead = some earliest) :
    ∃ first, earliestMailOn holidays zone now = some first ∧
      MarksAfter (businessMark holidays) first.number lead earliest.number := by
  unfold earliestArrival at found
  obtain ⟨first, mails, found⟩ := Option.bind_eq_some_iff.mp found
  rw [dayCount_some few, Option.bind_some] at found
  exact ⟨first, mails, stepBusinessDays_ahead lead found⟩

/-- There is a first arrival exactly where the clock prints a date, with business days enough after it. -/
theorem earliestArrival_none (few : lead ≤ 1000) : earliestArrival holidays zone now lead = none ↔
    ∀ today hour, zone.newYorkClock now = some (today, hour) → marks (businessMark holidays) today.number LAST_DAY <
      lead + if isBusinessDay holidays today && hour < MAIL_CUTOFF_HOUR then 0 else 1 := by
  cases clock : zone.newYorkClock now with
  | none =>
    refine iff_of_true ?_ fun _ _ shown => (nomatch shown)
    unfold earliestArrival earliestMailOn
    rw [clock]
    rfl
  | some shown =>
    obtain ⟨today, hour⟩ := shown
    have whole : (∀ today' hour', some (today, hour) = some (today', hour') →
        marks (businessMark holidays) today'.number LAST_DAY <
          lead + if isBusinessDay holidays today' && hour' < MAIL_CUTOFF_HOUR then 0 else 1) ↔
        marks (businessMark holidays) today.number LAST_DAY <
          lead + if isBusinessDay holidays today && hour < MAIL_CUTOFF_HOUR then 0 else 1 := by
      constructor
      · intro fewer
        exact fewer today hour rfl
      · intro fewer today' hour' same
        obtain ⟨rfl, rfl⟩ := Prod.mk.inj (Option.some.inj same)
        exact fewer
    rw [whole]
    unfold earliestArrival
    cases mails : earliestMailOn holidays zone now with
    | none =>
      have fewer := (earliestMailOn_none clock).mp mails
      rw [Option.bind_none]
      simp only [true_iff]
      omega
    | some first =>
      obtain ⟨-, after⟩ := earliestMailOn_some clock mails
      have counted := after.count
      have split := marks_add (businessMark holidays) after.ordered first.number_bounds.2
      rw [Option.bind_some, dayCount_some few, Option.bind_some, stepBusinessDays_ahead_none]
      omega

theorem latestArrival_none {horizon : Nat} (few : horizon ≤ 1000) :
    latestArrival holidays zone now horizon = none ↔ zone.newYorkClock now = none := by
  unfold latestArrival
  rw [dayCount_some few]
  cases zone.newYorkClock now with
  | none => exact iff_of_true rfl rfl
  | some shown => exact iff_of_false nofun nofun

theorem marked_after {mark : Int → Bool} {start place : Int} {count : Nat} (after : MarksAfter mark start count place)
    (marked : mark start = true) : mark place = true := by
  rcases after.marked with same | marked'
  · rw [same]
    exact marked
  · exact marked'

/-- Business days enough before it for the mail to go on the first mail date. -/
theorem upTo_arrival (open_ : isBusinessDay holidays first = true)
    (after : MarksAfter (businessMark holidays) first.number lead earliest.number) (ordered : earliest ≤ date) :
    lead < marks (businessMark holidays) (FIRST_DAY - 1) date.number := by
  have bounds := first.number_bounds
  have split := marks_add (businessMark holidays) (show FIRST_DAY - 1 ≤ first.number by omega)
    (after.ordered.trans (show earliest.number ≤ date.number from ordered))
  have split' := marks_add (businessMark holidays) after.ordered (show earliest.number ≤ date.number from ordered)
  have counted := after.count
  have marked : businessMark holidays first.number = true := by rw [businessMark_number, open_]
  have one := marks_pos (show FIRST_DAY - 1 < first.number by omega) marked
  omega

/-- The two walks are adjoint: an arrival is no earlier than the first exactly when its mail date is. -/
theorem arrival_le_iff (few : lead ≤ 1000) (open_ : isBusinessDay holidays first = true)
    (after : MarksAfter (businessMark holidays) first.number lead earliest.number) :
    earliest ≤ date ↔ ∃ mailOn, mailOnFor holidays date lead = some mailOn ∧ first ≤ mailOn := by
  have marked : businessMark holidays first.number = true := by rw [businessMark_number, open_]
  constructor
  · intro ordered
    cases mails : mailOnFor holidays date lead with
    | none =>
      have fewer := (mailOnFor_none few).mp mails
      have enough := upTo_arrival open_ after ordered
      omega
    | some mailOn =>
      obtain ⟨-, last, lastMark, back⟩ := mailOnFor_some few mails
      refine ⟨mailOn, rfl, (marks_adjoint marked after back).mp ?_⟩
      exact (lastMark.le_iff (marked_after after marked)).mp ordered
  · rintro ⟨mailOn, mails, ordered⟩
    obtain ⟨-, last, lastMark, back⟩ := mailOnFor_some few mails
    exact (lastMark.le_iff (marked_after after marked)).mpr ((marks_adjoint marked after back).mpr ordered)

/-- Mail for the first arrival goes on the first mail date. -/
theorem mailOnFor_earliest (few : lead ≤ 1000) (open_ : isBusinessDay holidays first = true)
    (after : MarksAfter (businessMark holidays) first.number lead earliest.number) :
    mailOnFor holidays earliest lead = some first := by
  have marked : businessMark holidays first.number = true := by rw [businessMark_number, open_]
  obtain ⟨mailOn, mails, ordered⟩ := (arrival_le_iff few open_ after).mp (show earliest.number ≤ earliest.number from le_rfl)
  obtain ⟨openMail, last, lastMark, back⟩ := mailOnFor_some few mails
  have same : last = earliest.number := lastMark.unique ⟨le_rfl, marked_after after marked, marks_self⟩
  rw [same] at back
  have markedMail : businessMark holidays mailOn.number = true := by rw [businessMark_number, openMail]
  have number := marks_inj markedMail marked back.ordered after.ordered (back.count.trans after.count.symm)
  rw [mails, CalendarDate.ext_number number]

/-- Mail is never dispatched before the year the clock prints. -/
theorem dispatchAt_some (clock : zone.newYorkClock now = some (today, hour))
    (mails : earliestMailOn holidays zone now = some first) (ordered : first ≤ mailOn) :
    ∃ instant, dispatchAt zone mailOn = some instant := by
  have printed := (printedClock_bounds clock).1
  have after := (earliestMailOn_some clock mails).2.ordered
  have ordered : first.number ≤ mailOn.number := ordered
  exact NewYork.newYorkTime_midday mailOn (by omega) (by decide)

/-- A date not past the last on offer is refused only before the first, which is past the last where none is on offer. -/
theorem checkArrival_text (few : lead ≤ 1000) {horizon : Nat} {latest : Option CalendarDate}
    (from_ : earliestArrival holidays zone now lead = some earliest)
    (upTo : latestArrival holidays zone now horizon = some latest) (offered : pastLatest date latest = false) :
    (earliest ≤ date → ∃ mailOn instant, mailOnFor holidays date lead = some mailOn ∧ dispatchAt zone mailOn = some instant ∧
      checkArrival holidays zone date.text now ⟨lead, horizon⟩ = some (.ok date mailOn instant earliest latest)) ∧
    (date < earliest → checkArrival holidays zone date.text now ⟨lead, horizon⟩ =
      some (.refused (if pastLatest earliest latest then .unavailable else .tooSoon) earliest latest)) := by
  have parsed := parseCalendarDate_text date
  obtain ⟨first, mails, after⟩ := earliestArrival_some few from_
  constructor
  · intro ordered
    have within : pastLatest earliest latest = false := by
      cases latest with
      | none => cases offered
      | some latest =>
        have atMost : ¬ latest.number < date.number := of_decide_eq_false offered
        have ordered : earliest.number ≤ date.number := ordered
        exact decide_eq_false (show ¬ latest.number < earliest.number by omega)
    obtain ⟨⟨today, hour⟩, clock, -⟩ := Option.bind_eq_some_iff.mp mails
    obtain ⟨mailOn, back, later⟩ := (arrival_le_iff few (earliestMailOn_some clock mails).1 after).mp ordered
    obtain ⟨instant, dispatched⟩ := dispatchAt_some clock mails later
    refine ⟨mailOn, instant, back, dispatched, ?_⟩
    have notEarly : ¬ date < earliest := by
      intro early
      have ordered : earliest.number ≤ date.number := ordered
      have early : date.number < earliest.number := early
      omega
    unfold checkArrival
    simp only [from_, upTo, parsed, within, offered, back, dispatched, notEarly, Option.bind_some, Option.map_some, if_false,
      Bool.false_eq_true]
  · intro early
    unfold checkArrival
    simp only [from_, upTo, parsed, early, Option.bind_some, if_true]
    split
    · rfl
    · rfl

/-- What holds of arrivals and their mail dates. -/
structure ArrivalLaws (holidays : Holidays) (zone : NewYork) (lead horizon : Nat) : Prop where
  businessDay : ∀ date mailOn, mailOnFor holidays date lead = some mailOn → isBusinessDay holidays mailOn = true ∧
    ∃ last, LastMark (businessMark holidays) date.number last ∧ MarksAfter (businessMark holidays) mailOn.number lead last
  throws : ∀ date, mailOnFor holidays date lead = none ↔ marks (businessMark holidays) (FIRST_DAY - 1) date.number ≤ lead
  monotone : ∀ date other mailOn mailOn', mailOnFor holidays date lead = some mailOn →
    mailOnFor holidays other lead = some mailOn' → date ≤ other → mailOn ≤ mailOn'
  first : ∀ now earliest, earliestArrival holidays zone now lead = some earliest →
    ∃ first, earliestMailOn holidays zone now = some first ∧ mailOnFor holidays earliest lead = some first
  earliest_throws : ∀ now, earliestArrival holidays zone now lead = none ↔
    ∀ today hour, zone.newYorkClock now = some (today, hour) → marks (businessMark holidays) today.number LAST_DAY <
      lead + if isBusinessDay holidays today && hour < MAIL_CUTOFF_HOUR then 0 else 1
  latest_throws : ∀ now, latestArrival holidays zone now horizon = none ↔ zone.newYorkClock now = none
  check : ∀ now earliest latest date, earliestArrival holidays zone now lead = some earliest →
    latestArrival holidays zone now horizon = some latest → pastLatest date latest = false →
    ((∃ mailOn instant, checkArrival holidays zone date.text now ⟨lead, horizon⟩ = some (.ok date mailOn instant earliest latest) ∧
        mailOnFor holidays date lead = some mailOn ∧ dispatchAt zone mailOn = some instant) ↔
      ∃ first mailOn, earliestMailOn holidays zone now = some first ∧ mailOnFor holidays date lead = some mailOn ∧ first ≤ mailOn) ∧
    ((¬ ∃ first mailOn, earliestMailOn holidays zone now = some first ∧ mailOnFor holidays date lead = some mailOn ∧
        first ≤ mailOn) →
      checkArrival holidays zone date.text now ⟨lead, horizon⟩ =
        some (.refused (if pastLatest earliest latest then .unavailable else .tooSoon) earliest latest))

theorem arrivalLaws (holidays : Holidays) (zone : NewYork) (lead horizon : Nat) (few : lead ≤ 1000) (few' : horizon ≤ 1000) :
    ArrivalLaws holidays zone lead horizon where
  businessDay _ _ := mailOnFor_some few
  throws _ := mailOnFor_none few
  monotone _ _ _ _ := mailOnFor_mono few
  first now earliest found := by
    obtain ⟨first, mails, after⟩ := earliestArrival_some few found
    obtain ⟨⟨today, hour⟩, clock, -⟩ := Option.bind_eq_some_iff.mp mails
    exact ⟨first, mails, mailOnFor_earliest few (earliestMailOn_some clock mails).1 after⟩
  earliest_throws _ := earliestArrival_none few
  latest_throws _ := latestArrival_none few'
  check now earliest latest date from_ upTo offered := by
    obtain ⟨accepted, refused⟩ := checkArrival_text few from_ upTo offered
    obtain ⟨first, mails, after⟩ := earliestArrival_some few from_
    obtain ⟨⟨today, hour⟩, clock, -⟩ := Option.bind_eq_some_iff.mp mails
    have adjoint : earliest ≤ date ↔ _ := arrival_le_iff few (earliestMailOn_some clock mails).1 after
    have same : (∃ first mailOn, earliestMailOn holidays zone now = some first ∧ mailOnFor holidays date lead = some mailOn ∧
        first ≤ mailOn) ↔ earliest ≤ date := by
      rw [adjoint]
      constructor
      · rintro ⟨first', mailOn, mails', back, ordered⟩
        rw [mails] at mails'
        cases mails'
        exact ⟨mailOn, back, ordered⟩
      · rintro ⟨mailOn, back, ordered⟩
        exact ⟨first, mailOn, mails, back, ordered⟩
    rw [same]
    refine ⟨⟨?_, ?_⟩, ?_⟩
    · rintro ⟨mailOn, instant, succeeded, -, -⟩
      by_contra early
      rw [refused (by show date.number < earliest.number; have early : ¬ earliest.number ≤ date.number := early; omega)]
        at succeeded
      cases succeeded
    · intro ordered
      obtain ⟨mailOn, instant, back, dispatched, succeeded⟩ := accepted ordered
      exact ⟨mailOn, instant, succeeded, back, dispatched⟩
    · intro early
      exact refused (by show date.number < earliest.number; have early : ¬ earliest.number ≤ date.number := early; omega)

/-- The days closed around new year 2027, and the end of the list. -/
def newYear2027 : Holidays where
  closed date := date.number = 20812 || date.number = 20819
  through := ⟨21183, by decide⟩

/-- Asked at 17:00 UTC on 2026-12-01, mail is in time for Saturday 2026-12-12, and too late for 2026-12-10. -/
theorem newYear2027_arrivals :
    (∃ mailOn instant, checkArrival newYear2027 clockOf2026 (CalendarDate.text ⟨20799, by decide⟩)
          (20788 * DAY_MS + 17 * HOUR_MS) ⟨(7 : Nat), (60 : Nat)⟩ =
        some (.ok ⟨20799, by decide⟩ mailOn instant ⟨20798, by decide⟩ (some ⟨20848, by decide⟩)) ∧
      mailOnFor newYear2027 ⟨20799, by decide⟩ (7 : Nat) = some mailOn ∧ dispatchAt clockOf2026 mailOn = some instant) ∧
    checkArrival newYear2027 clockOf2026 (CalendarDate.text ⟨20797, by decide⟩) (20788 * DAY_MS + 17 * HOUR_MS)
        ⟨(7 : Nat), (60 : Nat)⟩ =
      some (.refused .tooSoon ⟨20798, by decide⟩ (some ⟨20848, by decide⟩)) := by
  have laws := arrivalLaws newYear2027 clockOf2026 7 60 (by decide) (by decide)
  have from_ : earliestArrival newYear2027 clockOf2026 (20788 * DAY_MS + 17 * HOUR_MS) (7 : Nat) = some ⟨20798, by decide⟩ := by
    decide +kernel
  have upTo : latestArrival newYear2027 clockOf2026 (20788 * DAY_MS + 17 * HOUR_MS) (60 : Nat) =
      some (some ⟨20848, by decide⟩) := by decide +kernel
  have mails : earliestMailOn newYear2027 clockOf2026 (20788 * DAY_MS + 17 * HOUR_MS) = some ⟨20789, by decide⟩ := by
    decide +kernel
  have inTime : mailOnFor newYear2027 ⟨20799, by decide⟩ (7 : Nat) = some ⟨20789, by decide⟩ := by decide +kernel
  have late : mailOnFor newYear2027 ⟨20797, by decide⟩ (7 : Nat) = some ⟨20788, by decide⟩ := by decide +kernel
  refine ⟨(laws.check _ _ _ ⟨20799, by decide⟩ from_ upTo (by decide)).1.mpr ⟨_, _, mails, inTime, by decide⟩,
    (laws.check _ _ _ ⟨20797, by decide⟩ from_ upTo (by decide)).2 ?_⟩
  rintro ⟨first, mailOn, mails', late', ordered⟩
  rw [mails] at mails'
  rw [late] at late'
  cases mails'
  cases late'
  exact absurd ordered (by decide)

/-- `0000-01-01` was a Saturday: the walk back from it leaves the calendar. -/
theorem mailOnFor_throws : ∃ (holidays : Holidays) (date : CalendarDate) (lead : Nat), lead ≤ 1000 ∧
    ¬ ∃ mailOn, mailOnFor holidays date lead = some mailOn :=
  ⟨newYear2027, ⟨FIRST_DAY, by decide⟩, 0, by decide, by
    rintro ⟨mailOn, mails⟩
    have throws : mailOnFor newYear2027 ⟨FIRST_DAY, by decide⟩ (0 : Nat) = none := by decide +kernel
    rw [throws] at mails
    cases mails⟩

end

end LetterIRL.Schedule
