import LetterIRL.Maintenance.Lease

namespace LetterIRL.Maintenance
open Lib

/-! The lease over any interleaving of calls. -/

namespace World
variable {interval : Nat} {world after : World} {number other : Nat} {stage : CallStage}

/-- A run has the lock, or was taken over more than an hour after it claimed. -/
def Holds (world : World) (number claimedAt : Nat) : Prop :=
  ∃ latest time, world.latest = some (latest, time) ∧
    (latest = number ∧ time = claimedAt ∧ world.lockedAt = some claimedAt ∨ latest ≠ number ∧ claimedAt + HOUR < time)

structure Sound (interval : Nat) (world : World) : Prop where
  holds : ∀ number claimedAt seen, world.calls number = some (.running claimedAt seen) → world.Holds number claimedAt
  apart : ∀ number claimedAt seen number' claimedAt' seen', world.calls number = some (.running claimedAt seen) →
    world.calls number' = some (.running claimedAt' seen') → number ≠ number' →
    claimedAt + HOUR < claimedAt' ∨ claimedAt' + HOUR < claimedAt
  past : ∀ number time, world.latest = some (number, time) → time ≤ world.clock ∧ world.row ≠ none
  completed : world.lastCompletedAt = world.completions.head?
  falling : ∀ completed ∈ world.completions, completed ≤ world.clock ∧
    ∀ last, world.completions.head? = some last → completed ≤ last
  spaced : ∀ number claimedAt seen, world.calls number = some (.running claimedAt seen) → ∀ completed ∈ seen,
    completed + interval * 1000 ≤ claimedAt
  cutoffs : ∀ number cutoff, world.calls number = some (.claiming cutoff) →
    cutoff + (interval * 1000 : Nat) ≤ world.clock

theorem sound_start : ({} : World).Sound interval where
  holds := fun _ _ _ found => nomatch found
  apart := fun _ _ _ _ _ _ found => nomatch found
  past := fun _ _ latest => nomatch latest
  completed := rfl
  falling := fun _ member => nomatch member
  spaced := fun _ _ _ found => nomatch found
  cutoffs := fun _ _ found => nomatch found

/-- A call found after one was put at a stage. -/
theorem setCall_cases {found : CallStage} (updated : (world.setCall number stage).calls other = some found) :
    other = number ∧ found = stage ∨ other ≠ number ∧ world.calls other = some found := by
  have updated : Function.update world.calls number (some stage) other = some found := updated
  by_cases same : other = number
  · subst same
    rw [Function.update_self] at updated
    exact .inl ⟨rfl, (Option.some.inj updated).symm⟩
  · rw [Function.update_of_ne same] at updated
    exact .inr ⟨same, updated⟩

/-- A call put at a stage that is no run, nor a claim with a late cutoff. -/
theorem Sound.put (sound : world.Sound interval) (number : Nat) {stage : CallStage}
    (idle : ∀ claimedAt seen, stage ≠ .running claimedAt seen)
    (early : ∀ cutoff, stage = .claiming cutoff → cutoff + (interval * 1000 : Nat) ≤ world.clock) :
    (world.setCall number stage).Sound interval := by
  have old : ∀ {other claimedAt seen}, (world.setCall number stage).calls other = some (.running claimedAt seen) →
      world.calls other = some (.running claimedAt seen) := by
    intro other claimedAt seen found
    obtain ⟨-, same⟩ | ⟨-, before⟩ := setCall_cases found
    · exact absurd same.symm (idle claimedAt seen)
    · exact before
  exact {
    holds := fun other claimedAt seen found => sound.holds other claimedAt seen (old found)
    apart := fun first _ _ second _ _ found found' => sound.apart first _ _ second _ _ (old found) (old found')
    past := sound.past
    completed := sound.completed
    falling := sound.falling
    spaced := fun other claimedAt seen found => sound.spaced other claimedAt seen (old found)
    cutoffs := fun other cutoff found => by
      obtain ⟨-, same⟩ | ⟨-, before⟩ := setCall_cases found
      · exact early cutoff same.symm
      · exact sound.cutoffs other cutoff before }

theorem Sound.tick (sound : world.Sound interval) (elapsed : Nat) :
    ({ world with clock := world.clock + elapsed } : World).Sound interval where
  holds := sound.holds
  apart := sound.apart
  past := fun number time latest => by
    obtain ⟨past, some_⟩ := sound.past number time latest
    exact ⟨past.trans (Nat.le_add_right _ _), some_⟩
  completed := sound.completed
  falling := fun completed member => by
    obtain ⟨past, last⟩ := sound.falling completed member
    exact ⟨past.trans (Nat.le_add_right _ _), last⟩
  spaced := sound.spaced
  cutoffs := fun number cutoff found => by
    have past := sound.cutoffs number cutoff found
    show cutoff + _ ≤ ((world.clock + elapsed : Nat) : Int)
    omega

/-- The row is inserted where there is none. -/
theorem Sound.insert (sound : world.Sound interval) :
    ({ world with row := some (world.row.getD { updatedAt := world.clock }) } : World).Sound interval := by
  cases row : world.row with
  | some row' =>
    have same : ({ world with row := some row' } : World) = world := by rw [← row]
    rw [Option.getD_some, same]
    exact sound
  | none =>
    have unclaimed : world.latest = none := by
      cases latest : world.latest with
      | none => rfl
      | some claim => exact absurd row (sound.past claim.1 claim.2 latest).2
    have idle : ∀ number claimedAt seen, world.calls number ≠ some (.running claimedAt seen) := by
      intro number claimedAt seen found
      obtain ⟨latest, time, claimed, -⟩ := sound.holds number claimedAt seen found
      rw [unclaimed] at claimed
      cases claimed
    exact {
      holds := fun number claimedAt seen found => absurd found (idle number claimedAt seen)
      apart := fun number claimedAt seen _ _ _ found => absurd found (idle number claimedAt seen)
      past := fun number time latest => by
        have latest : world.latest = some (number, time) := latest
        rw [unclaimed] at latest
        cases latest
      completed := by
        have completed := sound.completed
        unfold lastCompletedAt at completed ⊢
        rw [row] at completed
        exact completed
      falling := sound.falling
      spaced := sound.spaced
      cutoffs := sound.cutoffs }

/-- A claim is an hour after the claim of every run still going, and an interval after every completion. -/
theorem Sound.claim (sound : world.Sound interval) {cutoff : Int} {row : TaskRow} {answered : Bool}
    (found : world.calls number = some (.claiming cutoff)) (here : world.row = some row)
    (open_ : claimable row cutoff world.clock = true) :
    ({ world with
      row := some { row with
        lockedAt := some world.clock, lastStartedAt := some world.clock, lastStatus := .running, lastError := none
        updatedAt := world.clock }
      latest := some (number, world.clock)
    }.setCall number (if answered then .running world.clock world.completions else .settled) : World).Sound interval := by
  unfold claimable at open_
  obtain ⟨due, free⟩ := Bool.and_eq_true_iff.mp open_
  have early := sound.cutoffs number cutoff found
  have locked : world.lockedAt = row.lockedAt := by rw [lockedAt, here, Option.bind_some]
  have completed : row.lastCompletedAt = world.completions.head? := by
    rw [← sound.completed, lastCompletedAt, here, Option.bind_some]
  -- Every run still going claimed more than an hour ago.
  have hour : ∀ other claimedAt seen, world.calls other = some (.running claimedAt seen) →
      claimedAt + HOUR < world.clock := by
    intro other claimedAt seen running
    obtain ⟨latest, time, claimed, ⟨-, -, held⟩ | ⟨-, later⟩⟩ := sound.holds other claimedAt seen running
    · rw [← locked, held, Option.all_some] at free
      exact of_decide_eq_true free
    · have past := (sound.past latest time claimed).1
      omega
  have spaced : ∀ finished ∈ world.completions, finished + interval * 1000 ≤ world.clock := by
    intro finished member
    cases last : world.completions.head? with
    | none =>
      rw [List.head?_eq_none_iff.mp last] at member
      cases member
    | some last' =>
      have ordered := (sound.falling finished member).2 last' last
      rw [completed, last, Option.all_some] at due
      have due := of_decide_eq_true due
      omega
  have cases_ : ∀ {other claimedAt seen}, (({ world with
      row := some { row with
        lockedAt := some world.clock, lastStartedAt := some world.clock, lastStatus := .running, lastError := none
        updatedAt := world.clock }
      latest := some (number, world.clock)
    }.setCall number (if answered then .running world.clock world.completions else .settled) : World)).calls other =
      some (.running claimedAt seen) → other = number ∧ claimedAt = world.clock ∧ seen = world.completions ∨
        other ≠ number ∧ world.calls other = some (.running claimedAt seen) := by
    intro other claimedAt seen running
    obtain ⟨rfl, same⟩ | old := setCall_cases running
    · cases answered with
      | false => cases same
      | true =>
        cases same
        exact .inl ⟨rfl, rfl, rfl⟩
    · exact .inr old
  exact {
    holds := fun other claimedAt seen running => by
      obtain ⟨rfl, rfl, -⟩ | ⟨differs, old⟩ := cases_ running
      · exact ⟨other, world.clock, rfl, .inl ⟨rfl, rfl, rfl⟩⟩
      · exact ⟨number, world.clock, rfl, .inr ⟨Ne.symm differs, hour other claimedAt seen old⟩⟩
    apart := fun first claimedAt seen second claimedAt' seen' running running' differs => by
      obtain ⟨rfl, rfl, -⟩ | ⟨-, old⟩ := cases_ running
      · obtain ⟨rfl, -⟩ | ⟨-, old'⟩ := cases_ running'
        · exact absurd rfl differs
        · exact .inr (hour second claimedAt' seen' old')
      · obtain ⟨rfl, rfl, -⟩ | ⟨-, old'⟩ := cases_ running'
        · exact .inl (hour first claimedAt seen old)
        · exact sound.apart first claimedAt seen second claimedAt' seen' old old' differs
    past := fun latest time same => by
      cases same
      exact ⟨le_rfl, nofun⟩
    completed := completed
    falling := sound.falling
    spaced := fun other claimedAt seen running => by
      obtain ⟨rfl, rfl, rfl⟩ | ⟨-, old⟩ := cases_ running
      · exact spaced
      · exact sound.spaced other claimedAt seen old
    cutoffs := fun other cutoff' claiming => by
      obtain ⟨rfl, same⟩ | ⟨-, old⟩ := setCall_cases claiming
      · cases answered <;> cases same
      · exact sound.cutoffs other cutoff' old }

/-- Once a call is settled in time, no run that goes on had the lock. -/
theorem Sound.released (sound : world.Sound interval) (inTime : world.TakenOver number → world.lockedAt = none)
    {claimedAt : Nat} {seen : List Nat} (differs : other ≠ number)
    (running : world.calls other = some (.running claimedAt seen)) :
    ∃ latest time, world.latest = some (latest, time) ∧ latest ≠ other ∧ claimedAt + HOUR < time := by
  obtain ⟨latest, time, claimed, ⟨rfl, rfl, held⟩ | ⟨elsewhere, later⟩⟩ := sound.holds other claimedAt seen running
  · have takenOver : world.TakenOver number := fun time' claimed' => by
      rw [claimed] at claimed'
      exact differs (Prod.mk.inj (Option.some.inj claimed')).1
    rw [inTime takenOver] at held
    cases held
  · exact ⟨latest, time, claimed, elsewhere, later⟩

/-- A statement that clears the lock, of a call that is then no run. -/
theorem Sound.settle (sound : world.Sound interval) (inTime : world.TakenOver number → world.lockedAt = none)
    {row : Option TaskRow} {completions : List Nat} {stage : CallStage}
    (idle : ∀ claimedAt seen, stage ≠ .running claimedAt seen) (noClaim : ∀ cutoff, stage ≠ .claiming cutoff)
    (some_ : world.row ≠ none → row ≠ none)
    (completed : row.bind (·.lastCompletedAt) = completions.head?)
    (falling : ∀ completed ∈ completions, completed ≤ world.clock ∧
      ∀ last, completions.head? = some last → completed ≤ last) :
    ({ world with row, completions }.setCall number stage : World).Sound interval := by
  have old : ∀ {other claimedAt seen}, ({ world with row, completions }.setCall number stage : World).calls other =
      some (.running claimedAt seen) → other ≠ number ∧ world.calls other = some (.running claimedAt seen) := by
    intro other claimedAt seen found
    obtain ⟨-, same⟩ | before := setCall_cases found
    · exact absurd same.symm (idle claimedAt seen)
    · exact before
  exact {
    holds := fun other claimedAt seen found => by
      obtain ⟨differs, running⟩ := old found
      obtain ⟨latest, time, claimed, elsewhere, later⟩ := sound.released inTime differs running
      exact ⟨latest, time, claimed, .inr ⟨elsewhere, later⟩⟩
    apart := fun first _ _ second _ _ found found' =>
      sound.apart first _ _ second _ _ (old found).2 (old found').2
    past := fun latest time claimed => by
      obtain ⟨past, here⟩ := sound.past latest time claimed
      exact ⟨past, some_ here⟩
    completed
    falling
    spaced := fun other claimedAt seen found => sound.spaced other claimedAt seen (old found).2
    cutoffs := fun other cutoff found => by
      obtain ⟨-, same⟩ | ⟨-, before⟩ := setCall_cases found
      · exact absurd same.symm (noClaim cutoff)
      · exact sound.cutoffs other cutoff before }

theorem Sound.complete (sound : world.Sound interval) (inTime : world.TakenOver number → world.lockedAt = none)
    {claimedAt : Nat} {seen : List Nat} (running : world.calls number = some (.running claimedAt seen))
    {stage : CallStage} (idle : ∀ claimedAt seen, stage ≠ .running claimedAt seen)
    (noClaim : ∀ cutoff, stage ≠ .claiming cutoff) : (world.recordCompletion.setCall number stage).Sound interval := by
  obtain ⟨latest, time, claimed, -⟩ := sound.holds number claimedAt seen running
  cases here : world.row with
  | none => exact absurd here (sound.past latest time claimed).2
  | some row =>
    refine sound.settle inTime idle noClaim (fun _ => by rw [here]; exact nofun) (by rw [here]; rfl) ?_
    intro completed member
    rcases List.mem_cons.mp member with same | old
    · refine ⟨same.le, fun last first => ?_⟩
      cases first
      exact same.le
    · have past := (sound.falling completed old).1
      refine ⟨past, fun last first => ?_⟩
      cases first
      exact past

theorem Sound.recordFailed (sound : world.Sound interval) (inTime : world.TakenOver number → world.lockedAt = none)
    (error : String) : ((world.recordFailed error).setCall number .settled).Sound interval := by
  refine sound.settle inTime (fun _ _ => nofun) (fun _ => nofun) (fun some_ => ?_) ?_ sound.falling
  · cases here : world.row with
    | none => exact absurd here some_
    | some row => exact nofun
  · rw [← sound.completed, lastCompletedAt]
    cases world.row with
    | none => rfl
    | some row => rfl

theorem next_of_step {event : LeaseEvent} (committed : world.step interval event = .ok after) :
    world.next interval event = some after := by
  unfold step at committed
  cases came : world.next interval event with
  | none =>
    rw [came] at committed
    cases committed
  | some next =>
    rw [came] at committed
    cases committed
    rfl

theorem Sound.step {event : LeaseEvent} (sound : world.Sound interval) (inTime : world.InTime event)
    (committed : world.step interval event = .ok after) : after.Sound interval := by
  have came := next_of_step committed
  cases event with
  | tick elapsed =>
    cases came
    exact sound.tick elapsed
  | call number =>
    simp only [next] at came
    split at came
    · cases came
      exact sound.put number (fun _ _ => nofun) (fun _ => nofun)
    · cases came
  | insert number =>
    simp only [next] at came
    split at came
    · cases came
      exact sound.insert.put number (fun _ _ => nofun) (fun _ => nofun)
    · cases came
  | prepare number =>
    simp only [next] at came
    split at came
    · cases came
      refine sound.put number (fun _ _ => nofun) fun cutoff same => ?_
      cases same
      omega
    · cases came
  | claim number answered =>
    simp only [next] at came
    split at came
    · rename_i cutoff found
      cases came
      unfold claimTask
      split
      · exact sound.put number (fun _ _ => nofun) (fun _ => nofun)
      · rename_i row here
        split
        · rename_i open_
          exact sound.claim found here open_
        · exact sound.put number (fun _ _ => nofun) (fun _ => nofun)
    · cases came
  | complete number answered lost =>
    simp only [next] at came
    split at came
    · rename_i claimedAt seen running
      cases came
      have free : world.TakenOver number → world.lockedAt = none := fun takenOver => (inTime takenOver).1
      refine sound.complete free running (fun _ _ => ?_) (fun _ => ?_)
      · cases answered <;> exact nofun
      · cases answered <;> exact nofun
    · cases came
  | fail number error =>
    simp only [next] at came
    split at came
    · cases came
      exact sound.put number (fun _ _ => nofun) (fun _ => nofun)
    · cases came
  | recordFailure number =>
    simp only [next] at came
    split at came
    · rename_i error failing
      cases came
      exact sound.recordFailed inTime error
    · cases came
  | crash number =>
    obtain ⟨stage, found, settled⟩ := Option.map_eq_some_iff.mp came
    cases settled
    exact sound.put number (fun _ _ => nofun) (fun _ => nofun)

/-- A settling statement of a call that was taken over. -/
def Late (world : World) : LeaseEvent → Prop
  | .complete number _ _ | .recordFailure number => world.TakenOver number
  | _ => False

/-- A run that was taken over leaves lock and completion as they are, where it settles in time, and not where not. -/
theorem Sound.inTime_iff (sound : world.Sound interval) {event : LeaseEvent} (late : world.Late event)
    (committed : world.step interval event = .ok after) :
    world.InTime event ↔ after.lockedAt = world.lockedAt ∧ after.lastCompletedAt = world.lastCompletedAt := by
  have came := next_of_step committed
  cases event with
  | complete number answered lost =>
    simp only [next] at came
    split at came
    · rename_i claimedAt seen running
      cases came
      obtain ⟨latest, time, claimed, -⟩ := sound.holds number claimedAt seen running
      obtain ⟨row, here⟩ := Option.ne_none_iff_exists'.mp (sound.past latest time claimed).2
      have locked : (world.recordCompletion.setCall number (if answered then .settled else .failing lost)).lockedAt =
          none := by
        simp only [lockedAt, setCall, recordCompletion, here]
        rfl
      have completed : (world.recordCompletion.setCall number
          (if answered then .settled else .failing lost)).lastCompletedAt = some world.clock := by
        simp only [lastCompletedAt, setCall, recordCompletion, here]
        rfl
      rw [locked, completed]
      exact ⟨fun inTime => ⟨(inTime late).1.symm, (inTime late).2.symm⟩, fun same _ => ⟨same.1.symm, same.2.symm⟩⟩
    · cases came
  | recordFailure number =>
    simp only [next] at came
    split at came
    · rename_i error failing
      cases came
      have cleared : ((world.recordFailed error).setCall number .settled).lockedAt = none ∧
          ((world.recordFailed error).setCall number .settled).lastCompletedAt = world.lastCompletedAt := by
        simp only [lockedAt, lastCompletedAt, setCall, World.recordFailed]
        cases world.row with
        | none => exact ⟨rfl, rfl⟩
        | some row => exact ⟨rfl, rfl⟩
      rw [cleared.1, cleared.2]
      exact ⟨fun inTime => ⟨(inTime late).symm, rfl⟩, fun same _ => same.1.symm⟩
    · cases came
  | _ => cases late

/-- What the lease is to keep to, in a state and of its next step. -/
structure Leased (interval : Nat) (world : World) : Prop where
  apart : ∀ number claimedAt seen number' claimedAt' seen', world.calls number = some (.running claimedAt seen) →
    world.calls number' = some (.running claimedAt' seen') → number ≠ number' →
    claimedAt + HOUR < claimedAt' ∨ claimedAt' + HOUR < claimedAt
  spaced : ∀ number claimedAt seen, world.calls number = some (.running claimedAt seen) → ∀ completed ∈ seen,
    completed + interval * 1000 ≤ claimedAt
  keeps : ∀ event after, world.Late event → world.step interval event = .ok after →
    (world.InTime event ↔ after.lockedAt = world.lockedAt ∧ after.lastCompletedAt = world.lastCompletedAt)

theorem leased_inTime (reach : Reach (step interval) InTime {} world) : world.Leased interval := by
  have sound : world.Sound interval := reach.invariant sound_start fun _ _ _ sound inTime committed =>
    sound.step inTime committed
  exact ⟨sound.apart, sound.spaced, fun _ _ late committed => sound.inTime_iff late committed⟩

/-- A call and its claim. -/
def claiming (number : Nat) : List LeaseEvent := [.call number, .insert number, .prepare number, .claim number true]

theorem oneRun_leased : ∃ world, Reach (step 86400000) InTime {} world ∧ world.completions = [90000000000] ∧
    world.Leased 86400000 := by
  have ran : runAll (step 86400000) {} (.tick 90000000000 :: claiming 0) = .ok _ := rfl
  have claimed : Reach (step 86400000) InTime {} _ := reach_of_runAll ran fun _ event member => by
    simp only [claiming, List.mem_cons, List.not_mem_nil, or_false] at member
    obtain rfl | rfl | rfl | rfl | rfl := member <;> exact trivial
  have completed := claimed.after (.complete 0 true "") (fun takenOver => absurd rfl (takenOver 90000000000)) rfl
  exact ⟨_, completed, rfl, leased_inTime completed⟩

/-- A run that outlived its hour fails after it was taken over: the lock is cleared, and a third run starts a minute
after the second. -/
theorem overlapping_runs : ∃ world, Reach (step 86400000) anyStep {} world ∧
    world.calls 1 = some (.running 93660000000 []) ∧ world.calls 2 = some (.running 93720000000 []) := by
  obtain ⟨world, reach, passes⟩ := exists_reach (step 86400000) {}
    (fun world => decide (world.calls 1 = some (.running 93660000000 []) ∧
      world.calls 2 = some (.running 93720000000 [])))
    (.tick 90000000000 :: claiming 0 ++ .tick 3660000000 :: claiming 1 ++
      [.fail 0 "database_error", .recordFailure 0, .tick 60000000] ++ claiming 2) (by decide +kernel)
  exact ⟨world, reach, of_decide_eq_true passes⟩

end World

end LetterIRL.Maintenance
