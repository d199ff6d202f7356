import LetterIRL.Lib.Grouped
import LetterIRL.Schedule.Delivery

namespace LetterIRL.Schedule
open Lib

/-! The arrival dates nearest one asked for, of those whose mail date has room. -/

section
variable (holidays : Holidays) (zone : NewYork)

/-- The loop over the dates on offer, from one on; each mail date's group is its first date and its nearest distance. -/
def offerFrom (leadDays target : Int) (latest : Option CalendarDate) :
    Nat → CalendarDate → List (CalendarDate × Cluster CalendarDate) → Option (List (CalendarDate × Cluster CalendarDate))
  | 0, _, _ => none
  | fuel + 1, date, byMailOn =>
    if pastLatest date latest then some byMailOn
    else
      (mailOnFor holidays date leadDays).bind fun mailOn =>
        match CalendarDate.ofNumber (date.number + 1) with
        -- The day after 9999-12-31 sorts before every date, and is then refused as none.
        | none => none
        | some next =>
          offerFrom leadDays target latest fuel next (enter byMailOn mailOn date (date.number - target).natAbs)

/-- `slice(0, count)`: a negative count leaves out so many at the end. -/
def slice {α : Type} (count : Int) (items : List α) : List α :=
  items.take (if count < 0 then (items.length + count).toNat else count.toNat)

def nearestOpenArrivals (arriveBy : CalendarDate) (now : Int) (settings : ScheduleSettings) (hasRoom : CalendarDate → Bool)
    (count : Int) : Option (List CalendarDate) :=
  (earliestArrival holidays zone now settings.leadDays).bind fun earliest =>
    (latestArrival holidays zone now settings.horizonDays).bind fun latest =>
      (offerFrom holidays settings.leadDays arriveBy.number latest (CALENDAR_DAYS + 1) earliest []).map fun byMailOn =>
        let open_ := (byMailOn.filter fun entry => hasRoom entry.1).map (·.2)
        ((slice count (open_.insertionSort nearer)).map (·.first)).insertionSort (· ≤ ·)

end

/-- A date on offer. -/
structure Offered (earliest : CalendarDate) (latest : Option CalendarDate) (date : CalendarDate) : Prop where
  least : earliest ≤ date
  most : pastLatest date latest = false

section
variable {holidays : Holidays} {zone : NewYork} {date other mailOn earliest last : CalendarDate} {latest : Option CalendarDate}
  {lead fuel : Nat} {target : Int} {groups result : List (CalendarDate × Cluster CalendarDate)}

theorem pastLatest_mono (past : pastLatest date latest = true) (ordered : date ≤ other) : pastLatest other latest = true := by
  cases latest with
  | none => rfl
  | some latest => exact decide_eq_true (lt_of_lt_of_le (of_decide_eq_true past) ordered)

/-- The dates before the next are those before one, and it. -/
theorem lt_next (next : last.number = date.number + 1) : other < last ↔ other < date ∨ other = date := by
  have lt : ∀ first second : CalendarDate, first < second ↔ first.number < second.number := fun _ _ => Iff.rfl
  rw [lt, lt, next]
  constructor
  · intro before
    rcases lt_or_eq_of_le (show other.number ≤ date.number by omega) with less | same
    · exact .inl less
    · exact .inr (CalendarDate.ext_number same)
  · rintro (less | rfl)
    · omega
    · omega

/-- The loop ends with the groups of the dates on offer. -/
theorem offerFrom_some (run : offerFrom holidays lead target latest fuel date groups = some result) (from_ : earliest ≤ date)
    (grouped : Grouped (fun date => mailOnFor holidays date lead) (fun date => (date.number - target).natAbs)
      (fun seen => earliest ≤ seen ∧ seen < date) groups)
    (within : ∀ seen, earliest ≤ seen → seen < date → pastLatest seen latest = false) :
    Grouped (fun date => mailOnFor holidays date lead) (fun date => (date.number - target).natAbs) (Offered earliest latest)
      result := by
  induction fuel generalizing date groups with
  | zero => cases run
  | succ fuel ih =>
    unfold offerFrom at run
    split at run
    · rename_i past
      cases run
      have same : Offered earliest latest = fun seen => earliest ≤ seen ∧ seen < date := by
        funext seen
        apply propext
        constructor
        · rintro ⟨least, most⟩
          refine ⟨least, ?_⟩
          by_contra later
          rw [pastLatest_mono past (not_lt.mp later)] at most
          cases most
        · rintro ⟨least, before⟩
          exact ⟨least, within seen least before⟩
      rw [same]
      exact grouped
    · rename_i notPast
      obtain ⟨mailOn, mails, run⟩ := Option.bind_eq_some_iff.mp run
      split at run
      · cases run
      · rename_i next made
        have number := CalendarDate.ofNumber_some made
        have seen : (fun seen => earliest ≤ seen ∧ seen < next) = fun seen => (earliest ≤ seen ∧ seen < date) ∨ seen = date := by
          funext seen
          rw [lt_next number, and_or_left]
          apply propext
          constructor
          · rintro (before | ⟨-, same⟩)
            · exact .inl before
            · exact .inr same
          · rintro (before | rfl)
            · exact .inl before
            · exact .inr ⟨from_, rfl⟩
        refine ih run (from_.trans ((lt_next number).mpr (.inr rfl)).le) ?_ ?_
        · rw [seen]
          exact grouped.enter mails fun other before => before.2.le
        · intro other least before
          rcases (lt_next number).mp before with less | rfl
          · exact within other least less
          · simpa using notPast

/-- It throws exactly where the last date on offer is the calendar's last. -/
theorem offerFrom_none (mails : ∀ other, earliest ≤ other → mailOnFor holidays other lead ≠ none) (from_ : earliest ≤ date)
    (enough : LAST_DAY - date.number < fuel) : offerFrom holidays lead target latest fuel date groups = none ↔
      ∃ last, latest = some last ∧ last.number = LAST_DAY := by
  induction fuel generalizing date groups with
  | zero =>
    have bounds := date.number_bounds
    omega
  | succ fuel ih =>
    have bounds := date.number_bounds
    unfold offerFrom
    split
    · rename_i past
      refine iff_of_false nofun ?_
      rintro ⟨last, rfl, number⟩
      have past : last.number < date.number := of_decide_eq_true past
      omega
    · rename_i notPast
      cases found : mailOnFor holidays date lead with
      | none => exact absurd found (mails date from_)
      | some mailOn =>
        rw [Option.bind_some]
        split
        · rename_i outside
          have past := CalendarDate.ofNumber_none.mp outside
          cases latest with
          | none => exact absurd rfl notPast
          | some last =>
            have notPast : ¬ last.number < date.number := fun past => notPast (decide_eq_true past)
            have bounds' := last.number_bounds
            exact iff_of_true rfl ⟨last, rfl, by omega⟩
        · rename_i next made
          have number := CalendarDate.ofNumber_some made
          exact ih (from_.trans ((lt_next number).mpr (.inr rfl)).le) (by omega)

/-- The first date on offer that mails on its mail date is a business day: the last before it would do. -/
theorem first_businessDay (open_ : isBusinessDay holidays earliest = true)
    (offered : Offered earliest latest date) (mails : mailOnFor holidays date lead = some mailOn)
    (first : ∀ other, Offered earliest latest other → mailOnFor holidays other lead = some mailOn → date ≤ other) :
    isBusinessDay holidays date = true := by
  cases found : businessDayOnOrBefore holidays date with
  | none =>
    unfold mailOnFor at mails
    rw [found] at mails
    cases mails
  | some last =>
    have lastMark := businessDayOnOrBefore_last found
    have marked : isBusinessDay holidays last = true := by
      have marked := lastMark.marked
      rwa [businessMark_number] at marked
    have own : businessDayOnOrBefore holidays last = some last := if_pos marked
    have same : mailOnFor holidays last lead = some mailOn := by
      unfold mailOnFor at mails ⊢
      rw [own]
      rwa [found] at mails
    have least : earliest ≤ last := (lastMark.le_iff (by rw [businessMark_number, open_])).mp offered.least
    have most : pastLatest last latest = false := by
      by_contra past
      have later := pastLatest_mono (by simpa using past) (show last ≤ date from lastMark.ordered)
      rw [offered.most] at later
      cases later
    rw [le_antisymm (first last ⟨least, most⟩ same) lastMark.ordered]
    exact marked

end

/-- How far a mail date is from the date asked for: as far as the nearest date on offer that mails on it. -/
structure DistanceTo (holidays : Holidays) (lead : Nat) (earliest : CalendarDate) (latest : Option CalendarDate)
    (asked mailOn : CalendarDate) (distance : Nat) : Prop where
  reached : ∃ date, Offered earliest latest date ∧ mailOnFor holidays date lead = some mailOn ∧
    (date.number - asked.number).natAbs = distance
  nearest : ∀ date, Offered earliest latest date → mailOnFor holidays date lead = some mailOn →
    distance ≤ (date.number - asked.number).natAbs

/-- The dates nearest one asked for, one for each open mail date. -/
structure NearestOpen (holidays : Holidays) (zone : NewYork) (lead horizon : Nat) (now : Int) (hasRoom : CalendarDate → Bool)
    (count : Nat) (asked earliest : CalendarDate) (latest : Option CalendarDate) (result : List CalendarDate) : Prop where
  ascending : result.Pairwise (· < ·)
  atMost : result.length ≤ count
  fewer : result.length < count → ∀ mailOn, hasRoom mailOn = true →
    (∃ date, Offered earliest latest date ∧ mailOnFor holidays date lead = some mailOn) →
    ∃ date ∈ result, mailOnFor holidays date lead = some mailOn
  each : ∀ date ∈ result, isBusinessDay holidays date = true ∧ ∃ mailOn instant,
    checkArrival holidays zone date.text now ⟨lead, horizon⟩ = some (.ok date mailOn instant earliest latest) ∧
    hasRoom mailOn = true ∧ mailOnFor holidays date lead = some mailOn ∧
    ∀ other, Offered earliest latest other → mailOnFor holidays other lead = some mailOn → date ≤ other
  nearest : ∀ date ∈ result, ∀ mailOn near, mailOnFor holidays date lead = some mailOn →
    DistanceTo holidays lead earliest latest asked mailOn near → ∀ other far, hasRoom other = true →
    DistanceTo holidays lead earliest latest asked other far → (∀ date ∈ result, mailOnFor holidays date lead ≠ some other) →
    near < far ∨ near = far ∧ mailOn < other

section
variable {holidays : Holidays} {zone : NewYork} {asked earliest : CalendarDate} {latest : Option CalendarDate}
  {lead horizon count : Nat} {now : Int} {hasRoom : CalendarDate → Bool} {groups : List (CalendarDate × Cluster CalendarDate)}

theorem DistanceTo.unique {mailOn : CalendarDate} {distance again : Nat}
    (one : DistanceTo holidays lead earliest latest asked mailOn distance)
    (two : DistanceTo holidays lead earliest latest asked mailOn again) : distance = again := by
  obtain ⟨date, offered, mails, reached⟩ := one.reached
  obtain ⟨date', offered', mails', reached'⟩ := two.reached
  have atMost := one.nearest date' offered' mails'
  have atMost' := two.nearest date offered mails
  omega

/-- A cluster of the dates on offer, as a mail date's first date and its distance. -/
theorem cluster_distance {mailOn : CalendarDate} {cluster : Cluster CalendarDate}
    (sound : IsCluster (fun date => mailOnFor holidays date lead) (fun date => (date.number - asked.number).natAbs)
      (Offered earliest latest) mailOn cluster) : DistanceTo holidays lead earliest latest asked mailOn cluster.distance :=
  ⟨sound.reached, sound.nearest⟩

/-- The open clusters' first dates are apart, since their mail dates are. -/
theorem open_nodup (grouped : Grouped (fun date => mailOnFor holidays date lead)
      (fun date => (date.number - asked.number).natAbs) (Offered earliest latest) groups) :
    (((groups.filter fun entry => hasRoom entry.1).map (·.2)).map (·.first)).Nodup := by
  rw [List.map_map]
  refine List.Nodup.map_on ?_ (grouped.nodup.of_map.filter _)
  rintro ⟨mailOn, cluster⟩ member ⟨mailOn', cluster'⟩ member' same
  have inGroups := (List.mem_filter.mp member).1
  have inGroups' := (List.mem_filter.mp member').1
  have key := (grouped.sound mailOn cluster inGroups).first_key
  have key' := (grouped.sound mailOn' cluster' inGroups').first_key
  simp only [Function.comp_apply] at same
  rw [same] at key
  have sameKey : mailOn = mailOn' := Option.some.inj (key.symm.trans key')
  exact List.inj_on_of_nodup_map grouped.nodup inGroups inGroups' sameKey

/-- What the loop's groups are made into. -/
theorem nearestOpen_of_grouped (few : lead ≤ 1000)
    (from_ : earliestArrival holidays zone now lead = some earliest) (upTo : latestArrival holidays zone now horizon = some latest)
    (grouped : Grouped (fun date => mailOnFor holidays date lead) (fun date => (date.number - asked.number).natAbs)
      (Offered earliest latest) groups) :
    NearestOpen holidays zone lead horizon now hasRoom count asked earliest latest
      (((((groups.filter fun entry => hasRoom entry.1).map (·.2)).insertionSort nearer).take count).map (·.first)
        |>.insertionSort (· ≤ ·)) := by
  obtain ⟨first, mails, after⟩ := earliestArrival_some few from_
  obtain ⟨⟨today, hour⟩, clock, -⟩ := Option.bind_eq_some_iff.mp mails
  have openFirst := (earliestMailOn_some clock mails).1
  have markedEarliest := marked_after after (by rw [businessMark_number, openFirst])
  rw [businessMark_number] at markedEarliest
  have apart : (((groups.filter fun entry => hasRoom entry.1).map (·.2)).map (·.first)).Nodup := open_nodup grouped
  have inOpen : ∀ cluster, cluster ∈ (groups.filter fun entry => hasRoom entry.1).map (·.2) ↔
      ∃ mailOn, (mailOn, cluster) ∈ groups ∧ hasRoom mailOn = true := by
    intro cluster
    simp only [List.mem_map, List.mem_filter, Prod.exists, exists_eq_right]
  generalize (groups.filter fun entry => hasRoom entry.1).map (·.2) = open_ at *
  -- A date of the result is the first of a cluster taken.
  have inResult : ∀ date, date ∈ (((open_.insertionSort nearer).take count).map (·.first)).insertionSort (· ≤ ·) ↔
      ∃ cluster ∈ (open_.insertionSort nearer).take count, cluster.first = date := by
    intro date
    rw [List.mem_insertionSort, List.mem_map]
  have opened : ∀ cluster, cluster ∈ (open_.insertionSort nearer).take count → cluster ∈ open_ := by
    intro cluster member
    exact (List.mem_insertionSort nearer).mp (List.mem_of_mem_take member)
  have length : ((((open_.insertionSort nearer).take count).map (·.first)).insertionSort (· ≤ ·)).length =
      min count open_.length := by
    rw [List.length_insertionSort, List.length_map, List.length_take, List.length_insertionSort]
  refine ⟨?_, ?_, ?_, ?_, ?_⟩
  · have sorted := List.pairwise_insertionSort (· ≤ ·) (((open_.insertionSort nearer).take count).map (·.first))
    have taken : (((open_.insertionSort nearer).take count).map (·.first)).Nodup := by
      rw [List.map_take]
      refine List.Nodup.sublist (List.take_sublist _ _) ?_
      exact ((List.perm_insertionSort nearer open_).map _).nodup_iff.mpr apart
    have nodup := (List.perm_insertionSort (· ≤ ·) _).nodup_iff.mpr taken
    exact (sorted.and nodup).imp fun both => lt_of_le_of_ne both.1 both.2
  · rw [length]
    exact min_le_left _ _
  · intro short mailOn room ⟨date, offered, mailsOn⟩
    rw [length] at short
    obtain ⟨⟨key, cluster⟩, inGroups, rfl⟩ := List.mem_map.mp (grouped.all date mailOn offered mailsOn)
    have member : cluster ∈ (open_.insertionSort nearer).take count := by
      rw [List.take_of_length_le (by rw [List.length_insertionSort]; omega), List.mem_insertionSort]
      exact (inOpen cluster).mpr ⟨key, inGroups, room⟩
    exact ⟨cluster.first, (inResult _).mpr ⟨cluster, member, rfl⟩, (grouped.sound _ _ inGroups).first_key⟩
  · intro date member
    obtain ⟨cluster, taken, rfl⟩ := (inResult date).mp member
    obtain ⟨mailOn, inGroups, room⟩ := (inOpen cluster).mp (opened cluster taken)
    have sound := grouped.sound mailOn cluster inGroups
    have offered := sound.first_seen
    obtain ⟨mailOn', instant, mailsOn, -, succeeded⟩ := (checkArrival_text few from_ upTo offered.most).1 offered.least
    obtain rfl := Option.some.inj (mailsOn.symm.trans sound.first_key)
    exact ⟨first_businessDay markedEarliest offered mailsOn sound.first, mailOn', instant, succeeded, room, mailsOn, sound.first⟩
  · intro date member mailOn near mailsOn nearOn other far room farOn left
    obtain ⟨cluster, taken, rfl⟩ := (inResult date).mp member
    obtain ⟨key, inGroups, -⟩ := (inOpen cluster).mp (opened cluster taken)
    have sound := grouped.sound key cluster inGroups
    obtain rfl := Option.some.inj (mailsOn.symm.trans sound.first_key)
    obtain ⟨date', offered', mailsOn', -⟩ := farOn.reached
    obtain ⟨⟨key', cluster'⟩, inGroups', rfl⟩ := List.mem_map.mp (grouped.all date' other offered' mailsOn')
    have sound' := grouped.sound key' cluster' inGroups'
    have out : cluster' ∉ (open_.insertionSort nearer).take count := by
      intro taken'
      exact left cluster'.first ((inResult _).mpr ⟨cluster', taken', rfl⟩) sound'.first_key
    rw [nearOn.unique (cluster_distance sound), farOn.unique (cluster_distance sound')]
    rcases take_sorted taken ((inOpen cluster').mpr ⟨key', inGroups', room⟩) out with less | ⟨same, earlier⟩
    · exact .inl less
    · refine .inr ⟨same, lt_of_le_of_ne (mailOnFor_mono few mailsOn sound'.first_key earlier) ?_⟩
      intro same
      exact left cluster.first member (by rw [mailsOn, same])

/-- The dates nearest the one asked for; it throws only with the first and last dates, or where the calendar's last is on offer. -/
theorem nearestOpenArrivals_nearest (holidays : Holidays) (zone : NewYork) (lead horizon : Nat) (few : lead ≤ 1000) (now : Int)
    (hasRoom : CalendarDate → Bool) (count : Nat) (asked : CalendarDate) :
    (nearestOpenArrivals holidays zone asked now ⟨lead, horizon⟩ hasRoom count = none ↔
      earliestArrival holidays zone now lead = none ∨ latestArrival holidays zone now horizon = none ∨
        ∃ last, latestArrival holidays zone now horizon = some (some last) ∧ last.number = LAST_DAY) ∧
    ∀ result, nearestOpenArrivals holidays zone asked now ⟨lead, horizon⟩ hasRoom count = some result →
      ∃ earliest latest, earliestArrival holidays zone now lead = some earliest ∧
        latestArrival holidays zone now horizon = some latest ∧
        NearestOpen holidays zone lead horizon now hasRoom count asked earliest latest result := by
  unfold nearestOpenArrivals
  constructor
  · cases from_ : earliestArrival holidays zone now lead with
    | none => exact iff_of_true rfl (.inl rfl)
    | some earliest =>
      cases upTo : latestArrival holidays zone now horizon with
      | none => exact iff_of_true rfl (.inr (.inl rfl))
      | some latest =>
        obtain ⟨first, mails, after⟩ := earliestArrival_some few from_
        obtain ⟨⟨today, hour⟩, clock, -⟩ := Option.bind_eq_some_iff.mp mails
        have open_ := (earliestMailOn_some clock mails).1
        have mailed : ∀ other, earliest ≤ other → mailOnFor holidays other lead ≠ none := by
          intro other ordered none_
          obtain ⟨mailOn, mailsOn, -⟩ := (arrival_le_iff few open_ after).mp ordered
          rw [none_] at mailsOn
          cases mailsOn
        have enough := (calendar_enough earliest).1
        rw [Option.bind_some, Option.bind_some, Option.map_eq_none_iff,
          offerFrom_none mailed le_rfl (by omega)]
        simp
  · intro result run
    obtain ⟨earliest, from_, run⟩ := Option.bind_eq_some_iff.mp run
    obtain ⟨latest, upTo, run⟩ := Option.bind_eq_some_iff.mp run
    obtain ⟨byMailOn, looped, rfl⟩ := Option.map_eq_some_iff.mp run
    refine ⟨earliest, latest, from_, upTo, ?_⟩
    have none_ : (fun seen => earliest ≤ seen ∧ seen < earliest) = fun _ => False := by
      funext seen
      exact propext ⟨fun both => absurd both.1 (not_le.mpr both.2), False.elim⟩
    have grouped := offerFrom_some looped le_rfl (by rw [none_]; exact Grouped.none)
      fun seen least before => absurd least (not_le.mpr before)
    have whole : ∀ items : List (Cluster CalendarDate), slice count items = items.take count := by
      intro items
      unfold slice
      rw [if_neg (by omega), Int.toNat_natCast]
    simp only [whole]
    exact nearestOpen_of_grouped few from_ upTo grouped

/-- A full Monday's nearest: the Friday before, a day off by its Sunday, and the two days after. -/
theorem newYear2027_nearest : ∃ earliest latest,
    NearestOpen newYear2027 clockOf2026 7 60 (20788 * DAY_MS + 17 * HOUR_MS) (fun mailOn => mailOn.number != 20790) 3
      ⟨20801, by decide⟩ earliest latest [⟨20798, by decide⟩, ⟨20802, by decide⟩, ⟨20803, by decide⟩] := by
  have nearest := (nearestOpenArrivals_nearest newYear2027 clockOf2026 7 60 (by decide) (20788 * DAY_MS + 17 * HOUR_MS)
    (fun mailOn => mailOn.number != 20790) 3 ⟨20801, by decide⟩).2
  obtain ⟨earliest, latest, -, -, open_⟩ := nearest [⟨20798, by decide⟩, ⟨20802, by decide⟩, ⟨20803, by decide⟩]
    (by decide +kernel)
  exact ⟨earliest, latest, open_⟩

/-- Asked in the year 999, whose dates the clock prints with three digits, it throws. -/
theorem nearestOpenArrivals_throws : nearestOpenArrivals newYear2027 clockOf2026 ⟨20801, by decide⟩ (FIRST_PRINTED * DAY_MS - DAY_MS)
    ⟨7, 60⟩ (fun _ => true) 3 = none := by
  decide +kernel

end

end LetterIRL.Schedule
