import LetterIRL.Mail.Reversals
import LetterIRL.Commerce.Settlements

namespace LetterIRL.Mail
open Lib Ledger Commerce Relation

/-! Mail held for its funding: placed with the reversal, honoured by the claim, the marker, the
put-back and the sweeps, until an operator releases it. -/

variable {cfg : Config} {s s' : Store} {event : Event} {jobId : JobId}

/-- No dispatch of the job has passed the marker. -/
def Idle (s : Store) (jobId : JobId) : Prop :=
  ∀ worker ∈ s.workers, worker.claim.jobId = jobId → worker.pastMarker = false

/-- A job the outbox must not send: cancelled, or waiting with a funding hold. -/
def Stopped (job : LetterJob) : Prop :=
  job.providerOutcome = .notDispatched ∧
    (job.status = .cancelled ∨
      (job.status = .pending ∨ job.status = .processing) ∧ isFundingHoldReason job.holdReason = true)

/-- Mail that was not dispatched when its hold was placed, and still is not. -/
structure Withheld (s : Store) (jobId : JobId) : Prop where
  job : ∃ job, s.jobs.find jobId = some job ∧ Stopped job
  idle : Idle s jobId

theorem heldForFunding_of_hold {job : LetterJob} (held : isFundingHoldReason job.holdReason = true) :
    s.heldForFunding job = true := by
  simp [Store.heldForFunding, held]

theorem stoppedJob_stopped {reason : JobHoldReason} {job : LetterJob} (stopped : Stopped job) :
    Stopped (stoppedJob reason job) := by
  obtain ⟨undispatched, status⟩ := stopped
  unfold stoppedJob
  split
  · rename_i completed
    rw [completed] at status
    simp at status
  · exact ⟨undispatched, .inl rfl⟩

/-- The step lemma of a stopped job: only a release by an operator ends the hold. -/
theorem JobMove.stopped_kept {job job' : LetterJob} (move : JobMove s event job job') (stopped : Stopped job)
    (idle : Idle s job.jobId) (unreleased : ∀ userId, event ≠ .release job.jobId userId) : Stopped job' := by
  obtain ⟨undispatched, status⟩ := stopped
  have past : ∀ {worker : Worker}, worker ∈ s.workers → worker.claim.jobId = job.jobId →
      worker.phase ≠ .claimed → worker.phase ≠ .faulted → False := by
    intro worker member same claimed faulted
    have behind := idle worker member same
    simp [Worker.pastMarker, claimed, faulted] at behind
  have held : job.status = .pending ∨ job.status = .processing → isFundingHoldReason job.holdReason = true := by
    intro waiting
    rcases status with cancelled | ⟨-, held⟩
    · rw [cancelled] at waiting
      simp at waiting
    · exact held
  cases move with
  | claimed here candidate =>
    simp only [claimable, Bool.and_eq_true, Bool.or_eq_true, beq_iff_eq, Bool.not_eq_true'] at candidate
    obtain ⟨-, ⟨⟨⟨waiting, -⟩, free⟩⟩ | ⟨taken, -⟩⟩ := candidate
    · exfalso
      rcases waiting with pending | failed
      · simp [Store.leftForOperator, undispatched, held (.inl pending)] at free
      · rw [failed] at status
        simp at status
    · exact ⟨undispatched, .inr ⟨.inr rfl, held (.inr taken)⟩⟩
  | putBack taken _ _ => exact ⟨undispatched, .inr ⟨.inl rfl, held (.inr taken)⟩⟩
  | marked here member same phase owned free =>
    rw [heldForFunding_of_hold (held (.inr (stillClaimed_iff.mp owned).1))] at free
    cases free
  | quarantined _ _ member same phase => exact (past member same (by simp [phase]) (by simp [phase])).elim
  | completed member same phase _ => exact (past member same (by simp [phase]) (by simp [phase])).elim
  | rejected member same phase _ _ => exact (past member same (by simp [phase]) (by simp [phase])).elim
  | undispatched delay member same phase owned free =>
    rw [heldForFunding_of_hold (held (.inr (stillClaimed_iff.mp owned).1))] at free
    cases free
  | cancelled resolution pending _ => exact ⟨undispatched, .inl rfl⟩
  | resolved here ambiguous _ _ => rw [ambiguous] at status; simp at status
  | requeued here failed _ _ => rw [failed] at status; simp at status
  | released here _ _ => exact absurd here (unreleased _)
  | stopped reason _ => exact stoppedJob_stopped ⟨undispatched, status⟩
  | halted reason past => rw [undispatched] at past; simp at past
  | withheld funding waiting _ => exact ⟨undispatched, .inr ⟨waiting, funding⟩⟩

/-- A stopped job's dispatches stay before the marker, whoever makes them. -/
theorem Idle.step {job : LetterJob} (idle : Idle s jobId) (found : s.jobs.find jobId = some job)
    (stopped : Stopped job) (committed : step cfg s event = .ok s') :
    Idle s' jobId ∧ s'.submissions.count jobId = s.submissions.count jobId := by
  obtain ⟨-, workers, submissions⟩ := step_moves committed
  refine ⟨?_, ?_⟩
  · intro worker member same
    cases workers worker member with
    | stays old => exact idle worker old same
    | @advances worker phase old on marks =>
      have behind := idle worker old same
      rcases on.start with rfl | rfl | ⟨claimed, faulted⟩
      · rfl
      · obtain ⟨-, -, row, atRow, owned, free, -⟩ := marks rfl
        have here : worker.claim.jobId = jobId := same
        rw [here, found] at atRow
        cases atRow
        obtain ⟨taken, -, -⟩ := stillClaimed_iff.mp owned
        rcases stopped.2 with cancelled | ⟨-, held⟩
        · rw [cancelled] at taken
          cases taken
        · rw [heldForFunding_of_hold held] at free
          cases free
      · simp [Worker.pastMarker, claimed, faulted] at behind
    | claims here atJob candidate => rfl
    | @sweeps row atRow taken dispatching =>
      have here : row.jobId = jobId := same
      rw [here, found] at atRow
      cases atRow
      rw [stopped.1] at dispatching
      cases dispatching
    | givesUp atJob spent free => rfl
  · rcases submissions with same | ⟨worker, provider, -, member, marked, grown⟩
    · rw [same]
    · have other : worker.claim.jobId ≠ jobId := by
        intro same
        have behind := idle worker member same
        simp [Worker.pastMarker, marked] at behind
      rw [grown, List.count_cons_of_ne other]

theorem Withheld.step (withheld : Withheld s jobId) (committed : step cfg s event = .ok s')
    (unreleased : ∀ userId, event ≠ .release jobId userId) :
    Withheld s' jobId ∧ s'.submissions.count jobId = s.submissions.count jobId := by
  obtain ⟨⟨job, found, stopped⟩, idle⟩ := withheld
  obtain ⟨job', found', moves⟩ := (step_moves committed).jobs.moved jobId job found
  have named := Table.find_key found
  have kept : Stopped job' := moves.invariant stopped fun before after same holds move => by
    rw [named] at same
    exact move.stopped_kept holds (same.symm ▸ idle) (same.symm ▸ unreleased)
  obtain ⟨still, same⟩ := idle.step found stopped committed
  exact ⟨⟨⟨job', found', kept⟩, still⟩, same⟩

/-- The run lemma: held mail stays unsent in every run without its release. -/
theorem Withheld.run (withheld : Withheld s jobId)
    (reach : Reach (Mail.step cfg) (fun _ event => ∀ userId, event ≠ .release jobId userId) s s') :
    Withheld s' jobId ∧ s'.submissions.count jobId = s.submissions.count jobId := by
  refine reach.invariant (I := fun after =>
    Withheld after jobId ∧ after.submissions.count jobId = s.submissions.count jobId) ⟨withheld, rfl⟩
    fun before event after holds unreleased committed => ?_
  obtain ⟨kept, same⟩ := holds.1.step committed unreleased
  exact ⟨kept, same.trans holds.2⟩

/-! A job no operator sends again: past the marker it is no longer `not_dispatched`. -/

/-- No operator decides that the job be tried again. -/
def Unretried (jobId : JobId) (event : Event) : Prop :=
  (∀ userId, event ≠ .retry jobId userId) ∧ ∀ userId provider, event ≠ .resolve jobId userId .retry provider

theorem ambiguousJob_dispatched {job : LetterJob} (dispatched : job.providerOutcome ≠ .notDispatched) :
    (ambiguousJob job).providerOutcome ≠ .notDispatched := by
  unfold ambiguousJob
  split
  · exact dispatched
  · simp

theorem JobMove.dispatched_kept {job job' : LetterJob} (move : JobMove s event job job')
    (dispatched : job.providerOutcome ≠ .notDispatched) (unretried : Unretried job.jobId event) :
    job'.providerOutcome ≠ .notDispatched := by
  cases move with
  | claimed here candidate =>
    simp only [claimable, Bool.and_eq_true, beq_iff_eq] at candidate
    exact absurd candidate.1.2 dispatched
  | putBack _ undispatched _ => exact absurd undispatched dispatched
  | marked => simp
  | quarantined => exact ambiguousJob_dispatched dispatched
  | completed => simp
  | rejected => simp
  | undispatched delay member same phase owned free => exact absurd (stillClaimed_iff.mp owned).2.2 dispatched
  | cancelled _ _ undispatched => exact absurd undispatched dispatched
  | @resolved userId decision provider here _ _ _ =>
    cases decision with
    | retry => exact absurd here (unretried.2 userId provider)
    | accepted => simp [resolvedJob]
    | rejected => simp [resolvedJob]
  | requeued here _ _ _ => exact absurd here (unretried.1 _)
  | released _ _ undispatched => exact absurd undispatched dispatched
  | stopped _ undispatched => exact absurd undispatched dispatched
  | halted => simp [haltedJob]
  | withheld _ _ undispatched => exact absurd undispatched dispatched

/-- A dispatch past the marker has a job that says so. -/
def Dispatched (s : Store) (jobId : JobId) : Prop :=
  ∀ worker ∈ s.workers, worker.claim.jobId = jobId → worker.pastMarker = true →
    ∃ job, s.jobs.find jobId = some job ∧ job.providerOutcome ≠ .notDispatched

theorem Dispatched.step (dispatched : Dispatched s jobId) (committed : step cfg s event = .ok s')
    (unretried : Unretried jobId event) : Dispatched s' jobId := by
  obtain ⟨jobs, workers, -⟩ := step_moves committed
  have later : (∃ job, s.jobs.find jobId = some job ∧ job.providerOutcome ≠ .notDispatched) →
      ∃ job, s'.jobs.find jobId = some job ∧ job.providerOutcome ≠ .notDispatched := by
    rintro ⟨job, found, marked⟩
    obtain ⟨job', found', moves⟩ := jobs.moved jobId job found
    have named := Table.find_key found
    refine ⟨job', found', moves.invariant (I := fun job => job.providerOutcome ≠ .notDispatched) marked
      fun before after same holds move => ?_⟩
    rw [named] at same
    exact move.dispatched_kept holds (same.symm ▸ unretried)
  intro worker member same past
  cases workers worker member with
  | stays old => exact later (dispatched worker old same past)
  | @advances worker phase old on marks =>
    rcases on.start with rfl | rfl | ⟨claimed, faulted⟩
    · cases past
    · obtain ⟨-, -, job, -, -, -, marked⟩ := marks rfl
      have here : worker.claim.jobId = jobId := same
      rw [here] at marked
      exact ⟨_, marked, by simp⟩
    · exact later (dispatched worker old same (by simp [Worker.pastMarker, claimed, faulted]))
  | claims here atJob candidate => cases past
  | @sweeps row atRow taken dispatching =>
    have here : row.jobId = jobId := same
    rw [here] at atRow
    exact later ⟨row, atRow, by simp [dispatching]⟩
  | givesUp atJob spent free => cases past

/-- Without a decision to try it again, a job not dispatched has no dispatch past its marker. -/
theorem idle_of_unretried {job : LetterJob}
    (reach : Reach (Mail.step cfg) (fun _ event => Unretried jobId event) {} s)
    (found : s.jobs.find jobId = some job) (undispatched : job.providerOutcome = .notDispatched) :
    Idle s jobId := by
  have dispatched : Dispatched s jobId :=
    reach.invariant (I := fun s => Dispatched s jobId) (fun _ member => absurd member List.not_mem_nil)
      fun _ _ _ holds unretried committed => holds.step committed unretried
  intro worker member same
  by_contra past
  obtain ⟨row, atRow, marked⟩ := dispatched worker member same (by simpa using past)
  rw [found] at atRow
  cases atRow
  exact marked undispatched

/-! A claim in progress when the hold lands. -/

/-- A claim has counted its attempt. -/
def CountsAttempts (job : LetterJob) : Prop := job.status = .processing → 0 < job.attempts

theorem JobMove.counts {job job' : LetterJob} (counts : CountsAttempts job) (move : JobMove s event job job') :
    CountsAttempts job' := by
  intro taken
  cases move with
  | claimed => exact Nat.succ_pos _
  | putBack => cases taken
  | marked => exact counts taken
  | quarantined =>
    unfold ambiguousJob at taken ⊢
    split at taken
    · rename_i ended
      rw [if_pos ended]
      exact counts taken
    · cases taken
  | completed => cases taken
  | rejected => cases taken
  | undispatched delay member same phase owned free =>
    simp only [undispatchedJob] at taken
    split at taken <;> cases taken
  | cancelled => cases taken
  | @resolved userId decision provider here held ambiguous _ => cases decision <;> cases taken
  | requeued => cases taken
  | released here pending undispatched =>
    have same : (releasedJob s.now job).status = job.status := rfl
    rw [same, pending] at taken
    cases taken
  | stopped reason undispatched =>
    unfold stoppedJob at taken ⊢
    split at taken
    · rename_i completed
      rw [completed] at taken
      cases taken
    · cases taken
  | halted => cases taken
  | withheld => exact counts taken

theorem reachable_counts (reach : Reachable cfg s) : ∀ job ∈ s.jobs.rows, CountsAttempts job := by
  refine reach.invariant (I := fun s => ∀ job ∈ s.jobs.rows, CountsAttempts job) ?_ ?_
  · intro job member
    exact absurd member List.not_mem_nil
  · intro s event s' holds _ committed
    exact (step_moves committed).every holds (fun _ _ _ _ _ taken => by cases taken)
      fun _ _ counts move => move.counts counts

/-- The marker and the failure before it both put a held claim back. -/
theorem claim_put_back {worker : Worker} {dispatch : DispatchEvent} {job : LetterJob}
    (found : s.jobs.find worker.claim.jobId = some job) (owned : stillClaimed job worker.claim = true)
    (held : isFundingHoldReason job.holdReason = true) (before : worker.pastMarker = false)
    (settles : dispatch = .marks ∨ ∃ delay, dispatch = .settles delay)
    (committed : step cfg s (.dispatch worker dispatch) = .ok s') :
    s'.jobs.find worker.claim.jobId = some (putBack job) := by
  have forFunding : s.heldForFunding job = true := heldForFunding_of_hold held
  have stored : (s.setJob (putBack job)).jobs.find worker.claim.jobId = some (putBack job) :=
    Table.find_put_over found rfl
  simp only [step, processClaimedJob] at committed
  split at committed
  · cases committed
  · rcases settles with rfl | ⟨delay, rfl⟩
    · dsimp only at committed
      split at committed
      · cases committed
      · obtain ⟨⟨marked, dispatched⟩, mark, rest⟩ := bind_eq_ok.mp committed
        obtain ⟨row, letter, atRow, -, -, -, -, -, outcome⟩ := markProviderDispatch_ok mark
        rw [found] at atRow
        cases atRow
        rcases outcome with ⟨rfl, -, rfl⟩ | ⟨-, free, -⟩
        · cases rest
          exact stored
        · rw [forFunding] at free
          cases free
    · dsimp only at committed
      split at committed
      · rename_i recovering
        simp [Worker.pastMarker, recovering] at before
      · obtain ⟨settled, done, rest⟩ := bind_eq_ok.mp committed
        cases rest
        simp only [Worker.pastMarker, Bool.and_eq_false_iff, bne_eq_false_iff_eq] at before
        rcases before with claimed | faulted
        · simp [settleDispatch, claimed] at done
        · simp only [settleDispatch, faulted] at done
          unfold failBeforeDispatch at done
          split at done
          · rename_i row letter atRow atLetter
            rw [found] at atRow
            cases atRow
            rw [forFunding, if_pos rfl, owned, if_pos rfl] at done
            cases done
            exact stored
          · cases done

/-- The event reverses a pack's money: refunded in full, or lost to a dispute. -/
def ReversesPack (cfg : Config) (s : Store) (event : Commerce.Event) (order : Order) : Prop :=
  order.orderType = .letterPack ∧
    ∃ reversal ∈ reversals cfg s.commerce event, reversal.order = order ∧ reversal.hold.isSome = true

/-- A ten-credit pack's letter is sent, to be mailed now. -/
def sentLetter : List Event :=
  (boughtPack.map fun event => .commerce event { jobId := 0 }) ++
    [.commerce (.createDraft
        { draftId := 1, mailOption := { mailType := .letter }, expiresAt := days 30, requiredCredits := 2 })
        { jobId := 0 },
      .commerce (.sendDraft 1 .letter 40) { jobId := 5 }]

/-- The claim of its job. -/
def letterClaim : Worker :=
  { claim := { jobId := 5, letterId := 40, status := .processing, attempts := 1, nextAttemptAt := 0,
               scheduledAt := 0, lockedAt := some 0 },
    phase := .claimed }

end LetterIRL.Mail
