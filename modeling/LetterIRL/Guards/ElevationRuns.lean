import LetterIRL.Guards.Elevation

namespace LetterIRL.Guards
open Lib
open Layout (Text)

/-! The second factor over any interleaving of calls, sessions and processes. -/

namespace ElevationGuard
variable {guard : ElevationGuard} {login other : Text} {now : Nat} {policy : ElevationPolicy}

theorem lock_update (guards : Nat → ElevationGuard) (process process' : Nat) (guard : ElevationGuard) (login : Text) :
    (Function.update guards process guard process').lock login =
      if process' = process then guard.lock login else (guards process').lock login := by
  split
  · rename_i same
    subst same
    rw [Function.update_self]
  · rename_i differs
    rw [Function.update_of_ne differs]

theorem lock_set (guard : ElevationGuard) (login other : Text) (state : LoginElevationState) :
    (guard.set login state).lock other = if other = login then state.lockedUntil else guard.lock other := by
  unfold lock set
  split
  · rename_i same
    subst same
    simp
  · rename_i differs
    simp [Function.update_of_ne differs]

theorem state_set (guard : ElevationGuard) (login other : Text) (state : LoginElevationState) :
    (guard.set login state).state other = if other = login then state else guard.state other := by
  unfold ElevationGuard.state set
  split
  · rename_i same
    subst same
    simp
  · rename_i differs
    simp [Function.update_of_ne differs]

theorem state_clear (guard : ElevationGuard) (login other : Text) :
    (guard.clearFailures login).state other = if other = login then {} else guard.state other := by
  unfold ElevationGuard.state clearFailures
  split
  · rename_i same
    subst same
    simp
  · rename_i differs
    simp [Function.update_of_ne differs]

theorem lock_state (guard : ElevationGuard) (login : Text) : (guard.state login).lockedUntil = guard.lock login := by
  unfold ElevationGuard.state lock
  cases guard.byLogin login with
  | none => rfl
  | some _ => rfl

/-- A lock that stands is answered and kept; one that has ended is cleared. -/
theorem lockedUntil_cases (guard : ElevationGuard) (login : Text) (now : Nat) :
    (∃ until_, guard.lock login = some until_ ∧ now < until_ ∧ guard.lockedUntil login now = (some until_, guard)) ∨
    (∃ until_, guard.lock login = some until_ ∧ until_ ≤ now ∧
      guard.lockedUntil login now = (none, guard.set login { guard.state login with lockedUntil := none })) ∨
    (guard.lock login = none ∧ guard.lockedUntil login now = (none, guard)) := by
  unfold lockedUntil lock ElevationGuard.state
  cases kept : guard.byLogin login with
  | none => exact .inr (.inr ⟨rfl, rfl⟩)
  | some state =>
    cases locked : state.lockedUntil with
    | none => exact .inr (.inr ⟨locked, by simp only [locked]⟩)
    | some until_ =>
      by_cases ended : until_ ≤ now
      · exact .inr (.inl ⟨until_, locked, ended, by simp only [locked, if_pos ended, Option.getD_some]⟩)
      · exact .inl ⟨until_, locked, by omega, by simp only [locked, if_neg ended]⟩

/-- Asking for a lock changes no count, and no lock that has not ended. -/
theorem lockedUntil_guard (guard : ElevationGuard) (login other : Text) (now : Nat) :
    ((guard.lockedUntil login now).2.state other).failures = (guard.state other).failures ∧
    ((guard.lockedUntil login now).2.state other).lockouts = (guard.state other).lockouts ∧
    ((guard.lockedUntil login now).2.lock other = guard.lock other ∨
      (guard.lockedUntil login now).2.lock other = none ∧ ∃ until_, guard.lock other = some until_ ∧ until_ ≤ now) := by
  obtain ⟨_, _, _, asked⟩ | ⟨until_, locked, ended, asked⟩ | ⟨_, asked⟩ := guard.lockedUntil_cases login now
  · rw [asked]
    exact ⟨rfl, rfl, .inl rfl⟩
  · rw [asked]
    simp only [state_set, lock_set]
    by_cases same : other = login
    · subst same
      rw [if_pos rfl, if_pos rfl]
      exact ⟨rfl, rfl, .inr ⟨rfl, until_, locked, ended⟩⟩
    · rw [if_neg same, if_neg same]
      exact ⟨rfl, rfl, .inl rfl⟩
  · rw [asked]
    exact ⟨rfl, rfl, .inl rfl⟩

theorem lockedUntil_none (free : (guard.lockedUntil login now).1 = none) :
    (guard.lockedUntil login now).2.lock login = none ∧ ∀ until_, guard.lock login = some until_ → until_ ≤ now := by
  obtain ⟨_, _, _, asked⟩ | ⟨until_, locked, ended, asked⟩ | ⟨unlocked, asked⟩ := guard.lockedUntil_cases login now
  · rw [asked] at free
    cases free
  · rw [asked, lock_set, if_pos rfl]
    refine ⟨rfl, fun other same => ?_⟩
    rw [locked] at same
    cases same
    exact ended
  · rw [asked]
    exact ⟨unlocked, fun other same => by rw [unlocked] at same; cases same⟩

/-- How long the lock of a login's `count`-th failure lasts, where that failure locks. -/
def lockMs (policy : ElevationPolicy) (count : Nat) : Nat :=
  min (policy.failureWindowMs * 2 ^ (count / policy.maxFailures - 1)) MAX_LOCK_MS

/-- What a failure is counted as, from counts that agree with the failures before it. -/
theorem recordFailure_eq (now : Nat) {count : Nat} (failures : (guard.state login).failures = count)
    (lockouts : (guard.state login).lockouts = count / policy.maxFailures) :
    ∃ lockedUntil left state, guard.recordFailure policy login now = (lockedUntil, left, guard.set login state) ∧
      state.failures = count + 1 ∧ state.lockouts = (count + 1) / policy.maxFailures ∧
      lockedUntil = (if policy.maxFailures ∣ count + 1 then some (now + lockMs policy (count + 1)) else none) ∧
      state.lockedUntil = lockedUntil.or (guard.lock login) ∧ (lockedUntil.isSome → left = 0) := by
  unfold recordFailure
  simp only [failures, lockouts, ← Nat.dvd_iff_mod_eq_zero]
  by_cases locks : policy.maxFailures ∣ count + 1
  · have more : (count + 1) / policy.maxFailures = count / policy.maxFailures + 1 := by
      rw [Nat.succ_div, if_pos locks]
    simp only [if_pos locks]
    refine ⟨_, _, _, rfl, rfl, more.symm, ?_, rfl, fun _ => rfl⟩
    rw [lockMs, more, Nat.add_sub_cancel]
  · have more : (count + 1) / policy.maxFailures = count / policy.maxFailures := by
      rw [Nat.succ_div, if_neg locks]
      rfl
    simp only [if_neg locks]
    exact ⟨_, _, _, rfl, rfl, more.symm, rfl, guard.lock_state login, nofun⟩

end ElevationGuard

/-- A login's state agrees with its failures since the last accepted code. -/
structure Tally (policy : ElevationPolicy) (state : LoginElevationState) (past : List Failure) : Prop where
  failures : state.failures = past.length
  lockouts : state.lockouts = past.length / policy.maxFailures
  locks : ∀ i failure, past[i]? = some failure → failure.lockedUntil =
    if policy.maxFailures ∣ i + 1 then some (failure.now + ElevationGuard.lockMs policy (i + 1)) else none
  last : ∀ until_, state.lockedUntil = some until_ → (past.filterMap (·.lockedUntil)).getLast? = some until_

theorem tally_start (policy : ElevationPolicy) : Tally policy {} [] where
  failures := rfl
  lockouts := (Nat.zero_div _).symm
  locks := fun _ _ found => nomatch found
  last := fun _ locked => nomatch locked

namespace Tally
variable {policy : ElevationPolicy} {guard : ElevationGuard} {login other : Text} {now : Nat} {past : List Failure}

theorem look (tally : Tally policy (guard.state other) past) :
    Tally policy ((guard.lockedUntil login now).2.state other) past := by
  obtain ⟨failures, lockouts, lock⟩ := guard.lockedUntil_guard login other now
  refine ⟨failures.trans tally.failures, lockouts.trans tally.lockouts, tally.locks, fun until_ locked => ?_⟩
  rw [ElevationGuard.lock_state] at locked
  rcases lock with same | ⟨cleared, -⟩
  · exact tally.last until_ ((guard.lock_state other).trans (same.symm.trans locked))
  · rw [cleared] at locked
    cases locked

theorem fail (now : Nat) (tally : Tally policy (guard.state login) past) :
    ∃ lockedUntil left state, guard.recordFailure policy login now = (lockedUntil, left, guard.set login state) ∧
      Tally policy state (past ++ [Failure.mk now lockedUntil]) ∧ state.lockedUntil = lockedUntil.or (guard.lock login) ∧
      (lockedUntil.isSome → left = 0) := by
  obtain ⟨lockedUntil, left, state, recorded, failures, lockouts, locks, lock, none_⟩ :=
    ElevationGuard.recordFailure_eq now tally.failures tally.lockouts
  refine ⟨lockedUntil, left, state, recorded, ⟨?_, ?_, fun i failure found => ?_, fun until_ locked => ?_⟩, lock, none_⟩
  · rw [failures, List.length_append, List.length_singleton]
  · rw [lockouts, List.length_append, List.length_singleton]
  · by_cases old : i < past.length
    · rw [List.getElem?_append_left old] at found
      exact tally.locks i failure found
    · rw [List.getElem?_append_right (not_lt.mp old)] at found
      obtain ⟨here, -⟩ := List.getElem?_eq_some_iff.mp found
      have new : i = past.length := by
        rw [List.length_singleton] at here
        omega
      subst new
      rw [Nat.sub_self] at found
      cases found
      exact locks
  · rw [List.filterMap_append]
    rw [lock] at locked
    cases lockedUntil with
    | none => simpa using tally.last until_ ((guard.lock_state login).trans locked)
    | some until_' =>
      cases locked
      simp

end Tally

namespace AttemptStage

def isClaiming : AttemptStage → Bool
  | .claiming _ _ => true
  | _ => false

/-- At an await. -/
def isWaiting : AttemptStage → Bool
  | .reading _ | .claiming _ _ => true
  | _ => false

/-- The counter the store has recorded for a call. -/
def holds : AttemptStage → Option Int
  | .claiming counter (some true) | .accepted counter _ => some counter
  | _ => none

/-- Settled with a code accepted or a lock set. -/
def isDecided : AttemptStage → Bool
  | .accepted _ _ | .refused .locked (some _) 0 => true
  | _ => false

theorem isWaiting_claiming {stage : AttemptStage} (claiming : stage.isClaiming = true) : stage.isWaiting = true := by
  cases stage with
  | claiming _ _ => rfl
  | _ => cases claiming

end AttemptStage

/-- No lock of this login stands in the process that verifies the code. -/
def Verification.Unlocked (verification : Verification) : Prop :=
  ∀ until_, (verification.guards verification.process).lock verification.login = some until_ →
    until_ ≤ verification.clock

namespace World
variable {platform : Platform} {policy : ElevationPolicy} {world after later : World} {number : Nat} {attempt : Attempt}

theorem requireElevation_guard (holder : AdminSession) (guard : ElevationGuard) (now : Nat) :
    (requireElevation holder guard now).2 = (guard.lockedUntil holder.login now).2 := by
  unfold requireElevation
  split
  · rename_i asked
    rw [asked]
  · rename_i asked
    rw [asked]

/-- What a step is made of. -/
inductive Move (policy : ElevationPolicy) (world : World) : World → Prop
  | idle {clock sessions} (onward : world.clock ≤ clock) : Move policy world { world with clock, sessions }
  | look {process login now} (past : now ≤ world.clock) :
      Move policy world (world.setGuard process ((world.guards process).lockedUntil login now).2)
  | verify {verification : Verification} (unlocked : verification.Unlocked) :
      Move policy world { world with verifications := verification :: world.verifications }
  | stage {number attempt stage} (past : attempt.now ≤ world.clock)
      (waiting : ∀ old, world.attempts number = some old → old = attempt ∧ attempt.stage.isWaiting = true)
      (free : stage.holds = none)
      (claims : stage.isClaiming = true → world.attempts number = some attempt ∧
        (attempt.stage.isClaiming = true ∨ world.lock attempt.process attempt.login = none)) :
      Move policy world (world.setStage number attempt stage)
  | claim {number attempt counter} (found : world.attempts number = some attempt)
      (claiming : attempt.stage = .claiming counter none)
      (above : ∀ last, world.counters attempt.counterKey = some last → last < counter) :
      Move policy world ({ world with
        counters := Function.update world.counters attempt.counterKey (some counter)
        claimed := Function.update world.claimed attempt.counterKey (counter :: world.claimed attempt.counterKey)
      }.setStage number attempt (.claiming counter (some true)))
  | fail {number attempt reason} (found : world.attempts number = some attempt)
      (waiting : attempt.stage.isWaiting = true)
      (unlocked : attempt.stage.isClaiming = true ∨ world.lock attempt.process attempt.login = none) :
      Move policy world (world.fail policy number attempt reason)
  | accept {number attempt counter} (found : world.attempts number = some attempt)
      (claimed : attempt.stage = .claiming counter (some true)) :
      Move policy world (world.accept policy number attempt counter)

abbrev Moves (policy : ElevationPolicy) : World → World → Prop := Relation.ReflTransGen (Move policy)

/-- A failed code is counted, and its call refused. -/
theorem fail_eq (policy : ElevationPolicy) (number : Nat) (reason : RefusalReason) {lockedUntil : Option Nat} {left : Nat}
    {guard : ElevationGuard}
    (recorded : (world.guards attempt.process).recordFailure policy attempt.login attempt.now =
      (lockedUntil, left, guard)) :
    ∃ sessions stage, stage.holds = none ∧ stage.isClaiming = false ∧ (lockedUntil ≠ none → stage.isDecided = true) ∧
      world.fail policy number attempt reason = { world with
        guards := Function.update world.guards attempt.process guard
        failures := Function.update world.failures (attempt.process, attempt.login)
          (world.failures (attempt.process, attempt.login) ++ [Failure.mk attempt.now lockedUntil])
        sessions
        attempts := Function.update world.attempts number (some { attempt with stage }) } := by
  unfold fail
  rw [recorded]
  cases lockedUntil with
  | none => exact ⟨_, _, rfl, rfl, fun locked => absurd rfl locked, rfl⟩
  | some lock => exact ⟨_, _, rfl, rfl, fun _ => rfl, rfl⟩

theorem begin_moves (past : attempt.now ≤ world.clock) (new : world.attempts number = none) :
    Moves policy world (world.begin_ number attempt) := by
  have looked : Move policy world (world.setGuard attempt.process
      ((world.guards attempt.process).lockedUntil attempt.login attempt.now).2) := .look past
  unfold begin_
  split
  · rename_i standingLock guard asked
    rw [asked] at looked
    exact .tail (.single looked) (.stage past (fun old found => nomatch new.symm.trans found) rfl nofun)
  · rename_i guard asked
    rw [asked] at looked
    exact .tail (.single looked) (.stage past (fun old found => nomatch new.symm.trans found) rfl nofun)

theorem verify_moves {lastCounter : Option Int} (past : attempt.now ≤ world.clock)
    (found : world.attempts number = some attempt) (reading : attempt.stage = .reading (some lastCounter)) :
    Moves policy world (world.verify platform policy number attempt lastCounter) := by
  have looked : Move policy world (world.setGuard attempt.process
      ((world.guards attempt.process).lockedUntil attempt.login attempt.now).2) := .look past
  have waiting : attempt.stage.isWaiting = true := by
    rw [reading]
    rfl
  have same : ∀ old, world.attempts number = some old → old = attempt ∧ attempt.stage.isWaiting = true := by
    intro old found'
    rw [found] at found'
    exact ⟨(Option.some.inj found').symm, waiting⟩
  unfold verify
  split
  · rename_i lockedSince guard asked
    rw [asked] at looked
    exact .tail (.single looked) (.stage past same rfl nofun)
  · rename_i guard asked
    obtain ⟨cleared, ended⟩ := ElevationGuard.lockedUntil_none (congrArg Prod.fst asked)
    rw [asked] at looked cleared
    let verification := Verification.mk attempt.process attempt.login world.clock world.guards
    have unlocked : verification.Unlocked := fun until_ locked => (ended until_ locked).trans past
    have verified : Moves policy world { world.setGuard attempt.process guard with
        verifications := verification :: world.verifications } := .tail (.single looked) (.verify unlocked)
    have free : (world.setGuard attempt.process guard).lock attempt.process attempt.login = none := by
      unfold lock setGuard
      simpa using cleared
    simp only
    split
    · exact .tail verified (.stage past same rfl nofun)
    · exact .tail verified (.stage past same rfl fun _ => ⟨found, .inr free⟩)
    · exact .tail verified (.fail found waiting (.inr free))
    · exact .tail verified (.fail found waiting (.inr free))

theorem answer_moves (past : attempt.now ≤ world.clock) (found : world.attempts number = some attempt)
    (answered : world.answer number attempt = some after) : Moves policy world after := by
  have same : ∀ old, world.attempts number = some old → attempt.stage.isWaiting = true →
      old = attempt ∧ attempt.stage.isWaiting = true := by
    intro old found' waiting
    rw [found] at found'
    exact ⟨(Option.some.inj found').symm, waiting⟩
  unfold answer at answered
  split at answered
  · rename_i reading
    cases answered
    exact .single (.stage past (fun old found' => same old found' (by rw [reading]; rfl)) rfl nofun)
  · rename_i counter claiming
    have claims : attempt.stage.isClaiming = true := by
      rw [claiming]
      rfl
    split at answered
    · cases answered
      exact .single (.stage past (fun old found' => same old found' (AttemptStage.isWaiting_claiming claims)) rfl
        fun _ => ⟨found, .inl claims⟩)
    · rename_i above
      cases answered
      refine .single (.claim found claiming fun last stored => ?_)
      rw [stored] at above
      simpa using above
  · cases answered

theorem resume_moves (past : attempt.now ≤ world.clock) (found : world.attempts number = some attempt)
    (resumed : world.resume platform policy number attempt = some after) : Moves policy world after := by
  unfold resume at resumed
  split at resumed
  · rename_i lastCounter reading
    cases resumed
    exact verify_moves past found reading
  · rename_i counter claimed
    cases resumed
    exact .single (.accept found claimed)
  · rename_i counter claimed
    cases resumed
    have claims : attempt.stage.isClaiming = true := by
      rw [claimed]
      rfl
    exact .single (.fail found (AttemptStage.isWaiting_claiming claims) (.inl claims))
  · cases resumed

theorem reject_moves (past : attempt.now ≤ world.clock) (found : world.attempts number = some attempt)
    (rejected : world.reject number attempt = some after) : Moves policy world after := by
  have thrown : attempt.stage.isWaiting = true → Moves policy world (world.setStage number attempt .thrown) := by
    intro waiting
    refine .single (.stage past (fun old found' => ?_) rfl nofun)
    rw [found] at found'
    exact ⟨(Option.some.inj found').symm, waiting⟩
  unfold reject at rejected
  split at rejected
  · rename_i reading
    cases rejected
    exact thrown (by rw [reading]; rfl)
  · rename_i claiming
    cases rejected
    exact thrown (by rw [claiming]; rfl)
  · cases rejected

/-- Every call was made at a time read from the clock. -/
def Timely (world : World) : Prop := ∀ number attempt, world.attempts number = some attempt → attempt.now ≤ world.clock

/-- A call found after one was put in its place. -/
theorem update_cases {attempts : Nat → Option Attempt} {other : Nat} {put found : Attempt}
    (updated : Function.update attempts number (some put) other = some found) :
    other = number ∧ found = put ∨ other ≠ number ∧ attempts other = some found := by
  by_cases same : other = number
  · subst same
    rw [Function.update_self] at updated
    exact .inl ⟨rfl, (Option.some.inj updated).symm⟩
  · rw [Function.update_of_ne same] at updated
    exact .inr ⟨same, updated⟩

theorem Timely.move (timely : world.Timely) (move : Move policy world after) : after.Timely := by
  have put : ∀ {number : Nat} {attempt : Attempt} {stage}, attempt.now ≤ world.clock → ∀ other found,
      Function.update world.attempts number (some { attempt with stage }) other = some found → found.now ≤ world.clock := by
    intro number attempt stage past other found updated
    obtain ⟨rfl, rfl⟩ | ⟨-, old⟩ := update_cases updated
    · exact past
    · exact timely other found old
  cases move with
  | idle onward => exact fun number attempt found => (timely number attempt found).trans onward
  | look past => exact timely
  | verify unlocked => exact timely
  | stage past waiting free claims => exact put past
  | claim found claiming above => exact put (timely _ _ found)
  | @fail number attempt reason found waiting unlocked =>
    obtain ⟨sessions, stage, -, -, -, failed⟩ := fail_eq policy number reason rfl
    rw [failed]
    exact put (timely _ _ found)
  | accept found claimed => exact put (timely _ _ found)

theorem Timely.moves (timely : world.Timely) (moves : Moves policy world after) : after.Timely := by
  induction moves with
  | refl => exact timely
  | tail _ move ih => exact ih.move move

theorem step_moves {event : ElevationEvent} (timely : world.Timely) (committed : world.step platform policy event = .ok after) :
    Moves policy world after := by
  have stepped : world.next platform policy event = some after := by
    unfold step at committed
    cases came : world.next platform policy event with
    | none =>
      rw [came] at committed
      cases committed
    | some next =>
      rw [came] at committed
      cases committed
      rfl
  cases event with
  | tick elapsed =>
    cases stepped
    exact .single (.idle (Nat.le_add_right _ _))
  | create process session login =>
    simp only [next] at stepped
    split at stepped
    · cases stepped
    · cases stepped
      exact .single (.idle le_rfl)
  | rotate process session renewed =>
    simp only [next] at stepped
    split at stepped
    · cases stepped
      exact .single (.idle le_rfl)
    · cases stepped
  | dropElevation process session =>
    cases stepped
    exact .single (.idle le_rfl)
  | requireElevation process session now =>
    obtain ⟨holder, _, asked⟩ := Option.bind_eq_some_iff.mp stepped
    split at asked
    · rename_i past
      cases asked
      rw [requireElevation_guard]
      exact .single (.look past)
    · cases asked
  | attemptElevation number process session secretBase32 code now counterKey =>
    obtain ⟨holder, _, called⟩ := Option.bind_eq_some_iff.mp stepped
    split at called
    · rename_i allowed
      cases called
      exact begin_moves allowed.1 (Option.isNone_iff_eq_none.mp allowed.2)
    · cases called
  | answer number =>
    obtain ⟨attempt, found, answered⟩ := Option.bind_eq_some_iff.mp stepped
    exact answer_moves (timely _ _ found) found answered
  | resume number =>
    obtain ⟨attempt, found, resumed⟩ := Option.bind_eq_some_iff.mp stepped
    exact resume_moves (timely _ _ found) found resumed
  | reject number =>
    obtain ⟨attempt, found, rejected⟩ := Option.bind_eq_some_iff.mp stepped
    exact reject_moves (timely _ _ found) found rejected

/-- Every login's state in every process agrees with the failures there. -/
def Counted (policy : ElevationPolicy) (world : World) : Prop :=
  ∀ process login, Tally policy ((world.guards process).state login) (world.failures (process, login))

theorem Counted.move (counted : world.Counted policy) (move : Move policy world after) : after.Counted policy := by
  have put : ∀ {process login} {guard : ElevationGuard} {past : List Failure},
      (∀ other, other ≠ login → guard.state other = (world.guards process).state other) →
      Tally policy (guard.state login) past → ∀ process' login', Tally policy
        ((Function.update world.guards process guard process').state login')
        (Function.update world.failures (process, login) past (process', login')) := by
    intro process login guard past kept tally process' login'
    by_cases here : process' = process
    · subst here
      rw [Function.update_self]
      by_cases same : login' = login
      · subst same
        rw [Function.update_self]
        exact tally
      · rw [Function.update_of_ne (fun pair => same (Prod.mk.inj pair).2), kept login' same]
        exact counted process' login'
    · rw [Function.update_of_ne here, Function.update_of_ne (fun pair => here (Prod.mk.inj pair).1)]
      exact counted process' login'
  cases move with
  | idle onward => exact counted
  | @look process login now past =>
    intro process' login'
    show Tally policy ((Function.update world.guards process _ process').state login') _
    by_cases here : process' = process
    · subst here
      rw [Function.update_self]
      exact (counted process' login').look
    · rw [Function.update_of_ne here]
      exact counted process' login'
  | verify unlocked => exact counted
  | stage past waiting free claims => exact counted
  | claim found claiming above => exact counted
  | @fail number attempt reason found waiting unlocked =>
    obtain ⟨lockedUntil, left, state, recorded, tally, -⟩ := (counted attempt.process attempt.login).fail attempt.now
    obtain ⟨sessions, stage, -, -, -, failed⟩ := fail_eq policy number reason recorded
    rw [failed]
    refine put (fun other differs => ?_) ?_
    · rw [ElevationGuard.state_set, if_neg differs]
    · rw [ElevationGuard.state_set, if_pos rfl]
      exact tally
  | @accept number attempt counter found claimed =>
    refine put (fun other differs => ?_) ?_
    · rw [ElevationGuard.state_clear, if_neg differs]
    · rw [ElevationGuard.state_clear, if_pos rfl]
      exact tally_start policy

/-- The counters recorded under a key, and the calls that hold one. -/
structure Claimed (world : World) : Prop where
  stored : ∀ key, world.counters key = (world.claimed key).head?
  rising : ∀ key, (world.claimed key).Pairwise (· > ·)
  held : ∀ number attempt counter, world.attempts number = some attempt → attempt.stage.holds = some counter →
    counter ∈ world.claimed attempt.counterKey
  once : ∀ number attempt number' attempt' counter, world.attempts number = some attempt →
    world.attempts number' = some attempt' → attempt.stage.holds = some counter → attempt'.stage.holds = some counter →
    attempt.counterKey = attempt'.counterKey → number = number'

/-- A call put at a stage holds no counter it did not hold. -/
theorem Claimed.put (claimed : world.Claimed) {stage : AttemptStage} (world' : World)
    (attempts : world'.attempts = Function.update world.attempts number (some { attempt with stage }))
    (counters : world'.counters = world.counters) (same : world'.claimed = world.claimed)
    (holds : ∀ counter, stage.holds = some counter →
      world.attempts number = some attempt ∧ attempt.stage.holds = some counter) : world'.Claimed := by
  -- Who holds a counter now held it before.
  have before : ∀ {number' found counter}, world'.attempts number' = some found → found.stage.holds = some counter →
      ∃ old, world.attempts number' = some old ∧ old.stage.holds = some counter ∧ old.counterKey = found.counterKey := by
    intro number' found counter here held
    rw [attempts] at here
    obtain ⟨rfl, rfl⟩ | ⟨-, old⟩ := update_cases here
    · obtain ⟨was, held'⟩ := holds counter held
      exact ⟨attempt, was, held', rfl⟩
    · exact ⟨found, old, held, rfl⟩
  refine ⟨fun key => ?_, fun key => ?_, ?_, ?_⟩
  · rw [counters, same]
    exact claimed.stored key
  · rw [same]
    exact claimed.rising key
  · intro number' found counter here held
    obtain ⟨old, was, held', key⟩ := before here held
    rw [same, ← key]
    exact claimed.held number' old counter was held'
  · intro number' found number'' found' counter here here' held held' sameKey
    obtain ⟨old, was, holds, key⟩ := before here held
    obtain ⟨old', was', holds', key'⟩ := before here' held'
    exact claimed.once number' old number'' old' counter was was' holds holds' (key.trans (sameKey.trans key'.symm))

/-- A claim above the stored counter is above all of them. -/
theorem Claimed.claim (claimed : world.Claimed) {counter : Int}
    (above : ∀ last, world.counters attempt.counterKey = some last → last < counter) :
    ({ world with
      counters := Function.update world.counters attempt.counterKey (some counter)
      claimed := Function.update world.claimed attempt.counterKey (counter :: world.claimed attempt.counterKey)
    }.setStage number attempt (.claiming counter (some true))).Claimed := by
  have aboveAll : ∀ last ∈ world.claimed attempt.counterKey, last < counter := by
    intro last member
    have stored := claimed.stored attempt.counterKey
    have rising := claimed.rising attempt.counterKey
    cases recorded : world.claimed attempt.counterKey with
    | nil =>
      rw [recorded] at member
      cases member
    | cons first rest =>
      rw [recorded] at member stored rising
      have below := above first stored
      rcases List.mem_cons.mp member with same | old
      · omega
      · have falling := (List.pairwise_cons.mp rising).1 last old
        omega
  have new : ∀ number' old, world.attempts number' = some old → old.counterKey = attempt.counterKey →
      old.stage.holds ≠ some counter := by
    intro number' old found key held
    have member := claimed.held number' old counter found held
    rw [key] at member
    exact lt_irrefl _ (aboveAll counter member)
  refine ⟨fun key => ?_, fun key => ?_, ?_, ?_⟩
  · show Function.update world.counters _ _ key = (Function.update world.claimed _ _ key).head?
    by_cases same : key = attempt.counterKey
    · subst same
      rw [Function.update_self, Function.update_self]
      rfl
    · rw [Function.update_of_ne same, Function.update_of_ne same]
      exact claimed.stored key
  · show (Function.update world.claimed _ _ key).Pairwise _
    by_cases same : key = attempt.counterKey
    · subst same
      rw [Function.update_self]
      exact List.pairwise_cons.mpr ⟨aboveAll, claimed.rising _⟩
    · rw [Function.update_of_ne same]
      exact claimed.rising key
  · intro number' found counter' here held
    show counter' ∈ Function.update world.claimed _ _ found.counterKey
    obtain ⟨rfl, rfl⟩ | ⟨-, old⟩ := update_cases here
    · cases held
      rw [Function.update_self]
      exact List.mem_cons_self
    · have member := claimed.held number' found counter' old held
      by_cases same : found.counterKey = attempt.counterKey
      · rw [same, Function.update_self, ← same]
        exact List.mem_cons_of_mem _ member
      · rw [Function.update_of_ne same]
        exact member
  · intro number' found number'' found' counter' here here' held held' sameKey
    obtain ⟨rfl, rfl⟩ | ⟨-, old⟩ := update_cases here
    · cases held
      obtain ⟨rfl, -⟩ | ⟨-, old'⟩ := update_cases here'
      · rfl
      · exact absurd held' (new _ _ old' sameKey.symm)
    · obtain ⟨rfl, rfl⟩ | ⟨-, old'⟩ := update_cases here'
      · cases held'
        exact absurd held (new _ _ old sameKey)
      · exact claimed.once number' found number'' found' counter' old old' held held' sameKey

theorem Claimed.move (claimed : world.Claimed) (move : Move policy world after) : after.Claimed := by
  cases move with
  | idle onward => exact { claimed with }
  | look past => exact { claimed with }
  | verify unlocked => exact { claimed with }
  | @stage number attempt stage past waiting free claims =>
    refine claimed.put _ rfl rfl rfl fun counter held => ?_
    rw [free] at held
    cases held
  | claim found claiming above => exact claimed.claim above
  | @fail number attempt reason found waiting unlocked =>
    obtain ⟨sessions, stage, free, -, -, failed⟩ := fail_eq policy number reason rfl
    rw [failed]
    refine claimed.put _ rfl rfl rfl fun counter held => ?_
    rw [free] at held
    cases held
  | @accept number attempt counter found held =>
    refine claimed.put _ rfl rfl rfl fun counter' same => ?_
    cases same
    refine ⟨found, ?_⟩
    rw [held]
    rfl

/-- What the claims, the counts and the verifications come to. -/
structure Sound (policy : ElevationPolicy) (world : World) : Prop where
  timely : world.Timely
  counted : world.Counted policy
  claimed : world.Claimed
  verified : ∀ verification ∈ world.verifications, verification.Unlocked

theorem sound_start (policy : ElevationPolicy) : ({} : World).Sound policy where
  timely := fun _ _ found => nomatch found
  counted := fun _ _ => tally_start policy
  claimed := ⟨fun _ => rfl, fun _ => .nil, fun _ _ _ found => (nomatch found), fun _ _ _ _ _ found => (nomatch found)⟩
  verified := fun _ member => (nomatch member)

theorem Sound.moves (sound : world.Sound policy) (moves : Moves policy world after) : after.Sound policy := by
  induction moves with
  | refl => exact sound
  | tail _ move ih =>
    refine ⟨ih.timely.move move, ih.counted.move move, ih.claimed.move move, ?_⟩
    cases move with
    | verify unlocked => exact List.forall_mem_cons.mpr ⟨unlocked, ih.verified⟩
    | @fail number attempt reason found waiting unlocked =>
      obtain ⟨sessions, stage, -, -, -, failed⟩ := fail_eq policy number reason rfl
      rw [failed]
      exact ih.verified
    | _ => exact ih.verified

/-- A call of a process for a login that was at its claim in a state. -/
def InFlight (world : World) (process : Nat) (login : Text) (number : Nat) : Prop :=
  ∃ attempt, world.attempts number = some attempt ∧ attempt.process = process ∧ attempt.login = login ∧
    attempt.stage.isClaiming = true

/-- One of the calls at their claim in `start` has had its code accepted, or has set a lock. -/
def Decided (start : World) (process : Nat) (login : Text) (world : World) : Prop :=
  ∃ number attempt, start.InFlight process login number ∧ world.attempts number = some attempt ∧
    attempt.stage.isDecided = true

/-- A lock is kept, and only calls at their claim in `start` are at it now. -/
def Keeps (start : World) (process : Nat) (login : Text) (until_ : Nat) (world : World) : Prop :=
  world.lock process login = some until_ ∧ ∀ number, world.InFlight process login number →
    start.InFlight process login number

def Stands (start : World) (process : Nat) (login : Text) (until_ : Nat) (world : World) : Prop :=
  until_ ≤ world.clock ∨ Decided start process login world ∨ Keeps start process login until_ world

section
variable {start : World} {process : Nat} {login : Text} {until_ : Nat}

/-- Putting a call where another was waiting undoes no decision. -/
theorem Decided.put (decided : Decided start process login world) {world' : World} {put : Attempt}
    (attempts : world'.attempts = Function.update world.attempts number (some put))
    (waiting : ∀ old, world.attempts number = some old → old.stage.isWaiting = true) :
    Decided start process login world' := by
  obtain ⟨number', found, inFlight, here, settled⟩ := decided
  refine ⟨number', found, inFlight, ?_, settled⟩
  rw [attempts, Function.update_of_ne]
  · exact here
  · rintro rfl
    have stage := waiting found here
    revert stage settled
    generalize found.stage = stage
    cases stage <;> exact fun decided waiting => (nomatch decided, waiting)

/-- A call put at a stage is at its claim only if it was. -/
theorem Keeps.put (keeps : Keeps start process login until_ world) {world' : World} {stage : AttemptStage}
    (lock : world'.lock process login = world.lock process login)
    (attempts : world'.attempts = Function.update world.attempts number (some { attempt with stage }))
    (claims : attempt.process = process → attempt.login = login → stage.isClaiming = true →
      world.InFlight process login number) : Keeps start process login until_ world' := by
  refine ⟨lock.trans keeps.1, ?_⟩
  rintro number' ⟨found, here, own, name, claiming⟩
  apply keeps.2
  rw [attempts] at here
  obtain ⟨rfl, rfl⟩ | ⟨-, old⟩ := update_cases here
  · exact claims own name claiming
  · exact ⟨found, old, own, name, claiming⟩

/-- A failure of another login, or in another process, leaves a lock; one of this login that locks decides its call. -/
theorem lock_fail {reason : RefusalReason} (counted : world.Counted policy) :
    (world.fail policy number attempt reason).lock process login = world.lock process login ∨
    attempt.process = process ∧ attempt.login = login ∧
      ∃ failed, (world.fail policy number attempt reason).attempts number = some failed ∧ failed.stage.isDecided = true := by
  obtain ⟨lockedUntil, left, state, recorded, -, locked, -⟩ := (counted attempt.process attempt.login).fail attempt.now
  obtain ⟨sessions, stage, -, -, decides, failed⟩ := fail_eq policy number reason recorded
  rw [failed]
  show (Function.update world.guards _ _ process).lock login = (world.guards process).lock login ∨ _
  rw [ElevationGuard.lock_update, ElevationGuard.lock_set, locked]
  by_cases here : process = attempt.process
  · rw [if_pos here]
    by_cases same : login = attempt.login
    · rw [if_pos same]
      subst here same
      cases lockedUntil with
      | none => exact .inl rfl
      | some lock => exact .inr ⟨rfl, rfl, _, Function.update_self _ _ _, decides nofun⟩
    · rw [if_neg same, here]
      exact .inl rfl
  · rw [if_neg here]
    exact .inl rfl

theorem Stands.move (stands : Stands start process login until_ world) (counted : world.Counted policy)
    (move : Move policy world after) : Stands start process login until_ after := by
  cases move with
  | idle onward =>
    rcases stands with ended | decided | keeps
    · exact .inl (ended.trans onward)
    · exact .inr (.inl decided)
    · exact .inr (.inr keeps)
  | @look process' login' now past =>
    rcases stands with ended | decided | ⟨locked, inFlight⟩
    · exact .inl ended
    · exact .inr (.inl decided)
    · have looked := ElevationGuard.lock_update world.guards process' process
        ((world.guards process').lockedUntil login' now).2 login
      by_cases here : process = process'
      · rw [if_pos here] at looked
        subst here
        obtain ⟨-, -, same | ⟨-, until_', locked', ended⟩⟩ := (world.guards process).lockedUntil_guard login' login now
        · exact .inr (.inr ⟨looked.trans (same.trans locked), inFlight⟩)
        · have same : some until_' = some until_ := locked'.symm.trans locked
          cases same
          exact .inl (ended.trans past)
      · rw [if_neg here] at looked
        exact .inr (.inr ⟨looked.trans locked, inFlight⟩)
  | verify unlocked => exact stands
  | @stage number attempt stage past waiting free claims =>
    rcases stands with ended | decided | keeps
    · exact .inl ended
    · refine .inr (.inl (decided.put rfl fun old found => ?_))
      obtain ⟨rfl, waits⟩ := waiting old found
      exact waits
    · refine .inr (.inr (keeps.put rfl rfl fun own name claiming => ?_))
      obtain ⟨found, was | unlocked⟩ := claims claiming
      · exact ⟨attempt, found, own, name, was⟩
      · rw [own, name, keeps.1] at unlocked
        cases unlocked
  | @claim number attempt counter found claiming above =>
    have was : attempt.stage.isClaiming = true := by
      rw [claiming]
      rfl
    rcases stands with ended | decided | keeps
    · exact .inl ended
    · refine .inr (.inl (decided.put rfl fun old found' => ?_))
      rw [found] at found'
      cases found'
      exact AttemptStage.isWaiting_claiming was
    · exact .inr (.inr (keeps.put rfl rfl fun own name _ => ⟨attempt, found, own, name, was⟩))
  | @fail number attempt reason found waiting unlocked =>
    obtain ⟨sessions, stage, -, notClaiming, -, failed⟩ := fail_eq policy number reason rfl
    have clock : (world.fail policy number attempt reason).clock = world.clock := by rw [failed]
    have attempts : (world.fail policy number attempt reason).attempts =
        Function.update world.attempts number (some { attempt with stage }) := by rw [failed]
    rcases stands with ended | decided | keeps
    · exact .inl (ended.trans clock.ge)
    · refine .inr (.inl (decided.put attempts fun old found' => ?_))
      rw [found] at found'
      cases found'
      exact waiting
    · rcases lock_fail counted with same | ⟨own, name, settled, here, decides⟩
      · refine .inr (.inr (keeps.put same attempts fun _ _ claiming => ?_))
        rw [notClaiming] at claiming
        cases claiming
      · rcases unlocked with claiming | unlocked
        · exact .inr (.inl ⟨number, settled, keeps.2 number ⟨attempt, found, own, name, claiming⟩, here, decides⟩)
        · rw [own, name, keeps.1] at unlocked
          cases unlocked
  | @accept number attempt counter found claimed =>
    have was : attempt.stage.isClaiming = true := by
      rw [claimed]
      rfl
    rcases stands with ended | decided | keeps
    · exact .inl ended
    · refine .inr (.inl (decided.put rfl fun old found' => ?_))
      rw [found] at found'
      cases found'
      exact AttemptStage.isWaiting_claiming was
    · by_cases own : attempt.process = process ∧ attempt.login = login
      · obtain ⟨here, name⟩ := own
        refine .inr (.inl ⟨number, _, keeps.2 number ⟨attempt, found, here, name, was⟩, Function.update_self _ _ _, rfl⟩)
      · refine .inr (.inr (keeps.put ?_ rfl fun _ _ claiming => nomatch claiming))
        show (Function.update world.guards _ _ process).lock login = (world.guards process).lock login
        rw [ElevationGuard.lock_update]
        split
        · rename_i same
          subst same
          rw [← ElevationGuard.lock_state, ElevationGuard.state_clear, if_neg fun name => own ⟨rfl, name.symm⟩,
            ElevationGuard.lock_state]
        · rfl

/-- A lock stands until it ends, or a call at its claim when it stood has its code accepted or sets another. -/
theorem stands_moves (sound : start.Sound policy) (locked : start.lock process login = some until_)
    (moves : Moves policy start world) : Stands start process login until_ world := by
  induction moves with
  | refl => exact .inr (.inr ⟨locked, fun _ inFlight => inFlight⟩)
  | tail earlier move ih => exact ih.move (sound.moves earlier).counted move

theorem requireElevation_locked {guard : ElevationGuard} {holder : AdminSession} {now : Nat}
    (locked : guard.lock holder.login = some until_) (standing : now < until_) :
    (requireElevation holder guard now).1 = .error .ADMIN_ELEVATION_LOCKED := by
  obtain ⟨_, _, _, asked⟩ | ⟨until_', locked', ended, _⟩ | ⟨unlocked, _⟩ := guard.lockedUntil_cases holder.login now
  · unfold requireElevation
    rw [asked]
  · rw [locked] at locked'
    cases locked'
    omega
  · rw [locked] at unlocked
    cases unlocked

end

/-- A run, by its moves. -/
theorem run_moves (timely : world.Timely) (reach : Reach (step platform policy) anyStep world after) :
    Moves policy world after := by
  induction reach with
  | start => exact .refl
  | next previous _ committed ih => exact ih.trans (step_moves (timely.moves ih) committed)

/-- What the second factor keeps to, in a state and from it on. -/
structure Guarded (platform : Platform) (policy : ElevationPolicy) (world : World) : Prop where
  verified : ∀ verification ∈ world.verifications, verification.Unlocked
  locks : ∀ process login i failure, (world.failures (process, login))[i]? = some failure →
    failure.lockedUntil = if policy.maxFailures ∣ i + 1 then
      some (failure.now + min (policy.failureWindowMs * 2 ^ ((i + 1) / policy.maxFailures - 1)) MAX_LOCK_MS) else none
  last : ∀ process login until_, world.lock process login = some until_ →
    ((world.failures (process, login)).filterMap (·.lockedUntil)).getLast? = some until_
  rising : ∀ key, (world.claimed key).Pairwise (· > ·)
  recorded : ∀ number attempt counter elevatedUntil, world.attempts number = some attempt →
    attempt.stage = .accepted counter elevatedUntil → counter ∈ world.claimed attempt.counterKey
  once : ∀ number attempt number' attempt' counter elevatedUntil elevatedUntil', world.attempts number = some attempt →
    world.attempts number' = some attempt' → attempt.stage = .accepted counter elevatedUntil →
    attempt'.stage = .accepted counter elevatedUntil' → attempt.counterKey = attempt'.counterKey → number = number'
  refuses : ∀ later, Reach (step platform policy) anyStep world later → ∀ process login until_,
    world.lock process login = some until_ → until_ ≤ later.clock ∨ Decided world process login later ∨
    ∀ holder now, holder.login = login → now ≤ later.clock →
      (requireElevation holder (later.guards process) now).1 = .error .ADMIN_ELEVATION_LOCKED

theorem attemptElevation_guarded (reach : Reach (step platform policy) anyStep {} world) :
    world.Guarded platform policy := by
  have start := sound_start policy
  have sound := start.moves (run_moves start.timely reach)
  refine ⟨sound.verified, fun process login => (sound.counted process login).locks, fun process login until_ locked => ?_,
    sound.claimed.rising, fun number attempt counter until_ found accepted => ?_,
    fun number attempt number' attempt' counter until_ until_' found found' accepted accepted' => ?_,
    fun later onward process login until_ locked => ?_⟩
  · exact (sound.counted process login).last until_ ((ElevationGuard.lock_state _ _).trans locked)
  · exact sound.claimed.held number attempt counter found (by rw [accepted]; rfl)
  · exact sound.claimed.once number attempt number' attempt' counter found found' (by rw [accepted]; rfl)
      (by rw [accepted']; rfl)
  · rcases stands_moves sound locked (run_moves sound.timely onward) with ended | decided | ⟨kept, -⟩
    · exact .inl ended
    · exact .inr (.inl decided)
    · by_cases ended : until_ ≤ later.clock
      · exact .inl ended
      · refine .inr (.inr fun holder now same past => ?_)
        subst same
        exact requireElevation_locked kept (by omega)

/-! One secret, `12345678901234567890`, and the digests of the counters 0, 1 and 2 under it. -/

def sampleSecret : Text := "GEZDGNBVGY3TQOJQGEZDGNBVGY3TQOJQ".toList.map Char.toNat

/-- The code of counter 1, and one that is none. -/
def sampleCode : Text := "287082".toList.map Char.toNat
def noCode : Text := [120]

def sampleLogin : Text := "op".toList.map Char.toNat

def samplePlatform : Platform where
  toUpperCase := id
  hmacSha1 _ message :=
    let digest : BitVec 160 := match message.getLast? with
      | some 0 => 0xcc93cf18508d94934c64b65d8ba7667fb7cde4b0
      | some 1 => 0x75a48a19d4cbe100644e8ac1397eea747a2d33ab
      | _ => 0x0bacb7fa082fef30782211938bc1c5e70416ff44
    (List.range 20).map fun place => digest.extractLsb' (8 * (19 - place)) 8

def samplePolicy : ElevationPolicy := { ttlMs := 600000, maxFailures := 5, failureWindowMs := 900000 }

/-- A call that fails at once. -/
def failing (number session now : Nat) : List ElevationEvent :=
  [.attemptElevation number 0 session sampleSecret noCode now sampleLogin, .answer number, .resume number]

/-- Five calls that fail, in process 0. -/
def lockingEvents : List ElevationEvent :=
  [.create 0 0 sampleLogin, .tick 30000] ++ (List.range 5).flatMap fun number => failing number 0 30000

theorem fiveFailures_guarded : ∃ world, Reach (step samplePlatform samplePolicy) anyStep {} world ∧
    world.lock 0 sampleLogin = some 930000 ∧ world.Guarded samplePlatform samplePolicy := by
  obtain ⟨world, reach, passes⟩ := exists_reach (step samplePlatform samplePolicy) {}
    (fun world => decide (world.lock 0 sampleLogin = some 930000)) lockingEvents (by decide +kernel)
  exact ⟨world, reach, of_decide_eq_true passes, attemptElevation_guarded reach⟩

/-- A code is verified and accepted in one process while a lock stands for its login in another; and a failure of a
call made long before a lock can put an earlier end in its place. -/
theorem lock_elsewhere :
    (∃ world, Reach (step samplePlatform samplePolicy) anyStep {} world ∧
      world.lock 0 sampleLogin = some 930000 ∧ world.clock = 30000 ∧
      (∃ verification ∈ world.verifications, verification.process = 1 ∧ verification.login = sampleLogin ∧
        (verification.guards 0).lock sampleLogin = some 930000 ∧ verification.clock = 30000) ∧
      world.sessions 1 0 = some ⟨sampleLogin, some 630000⟩ ∧
      (requireElevation ⟨sampleLogin, some 630000⟩ (world.guards 1) 30000).1 = .ok ()) ∧
    ∃ locked world, Reach (step samplePlatform { samplePolicy with maxFailures := 1, failureWindowMs := 60000 })
        anyStep {} locked ∧
      Reach (step samplePlatform { samplePolicy with maxFailures := 1, failureWindowMs := 60000 }) anyStep locked world ∧
      locked.lock 0 sampleLogin = some 260000 ∧ world.clock = 200000 ∧
      (world.attempts 1).map (·.stage) = some (.refused .locked (some 150000) 0) ∧
      world.sessions 0 0 = some ⟨sampleLogin, some 630000⟩ ∧
      (requireElevation ⟨sampleLogin, some 630000⟩ (world.guards 0) 200000).1 = .ok () := by
  constructor
  · obtain ⟨world, reach, passes⟩ := exists_reach (step samplePlatform samplePolicy) {}
      (fun world => decide (world.lock 0 sampleLogin = some 930000 ∧ world.clock = 30000 ∧
        (∃ verification ∈ world.verifications, verification.process = 1 ∧ verification.login = sampleLogin ∧
          (verification.guards 0).lock sampleLogin = some 930000 ∧ verification.clock = 30000) ∧
        world.sessions 1 0 = some ⟨sampleLogin, some 630000⟩ ∧
        (requireElevation ⟨sampleLogin, some 630000⟩ (world.guards 1) 30000).1 = .ok ()))
      (lockingEvents ++ [.create 1 0 sampleLogin, .attemptElevation 5 1 0 sampleSecret sampleCode 30000 sampleLogin,
        .answer 5, .resume 5, .answer 5, .resume 5]) (by decide +kernel)
    exact ⟨world, reach, of_decide_eq_true passes⟩
  · let policy : ElevationPolicy := { samplePolicy with maxFailures := 1, failureWindowMs := 60000 }
    obtain ⟨locked, world, reach, committed, passes⟩ := exists_step (step samplePlatform policy) {}
      (fun locked world => decide (locked.lock 0 sampleLogin = some 260000 ∧ world.clock = 200000 ∧
        (world.attempts 1).map (·.stage) = some (.refused .locked (some 150000) 0) ∧
        world.sessions 0 0 = some ⟨sampleLogin, some 630000⟩ ∧
        (requireElevation ⟨sampleLogin, some 630000⟩ (world.guards 0) 200000).1 = .ok ()))
      ([.create 0 0 sampleLogin, .create 0 1 sampleLogin, .create 0 2 sampleLogin, .tick 30000,
        .attemptElevation 0 0 0 sampleSecret sampleCode 30000 sampleLogin, .answer 0,
        .attemptElevation 1 0 1 sampleSecret sampleCode 30000 sampleLogin, .answer 1,
        .resume 0, .resume 1, .answer 0, .resume 0, .answer 1, .tick 170000] ++ failing 2 2 200000)
      (.resume 1) (by decide +kernel)
    exact ⟨locked, world, reach, Reach.start.after (.resume 1) trivial committed, of_decide_eq_true passes⟩

end World

end LetterIRL.Guards
