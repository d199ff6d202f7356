import LetterIRL.Mail.Unreturned

namespace LetterIRL.Mail
open Lib Ledger Commerce Relation

/-! Mail paid back is over: its letter has failed or is cancelled, and stays so. -/

variable {cfg : Config} {s s' : Store} {event : Event}

/-! Where a job can stand. -/

/-- A held job's outcome is open, a cancelled one's is not, and one failed undispatched has no attempt left. -/
structure Placed (job : LetterJob) : Prop where
  held : job.status = .held → job.past
  cancelled : job.status = .cancelled → ¬job.past
  failed : job.status = .failed → job.providerOutcome = .notDispatched → job.maxAttempts ≤ job.attempts

theorem unpast_of_undispatched {job : LetterJob} (undispatched : job.providerOutcome = .notDispatched) : ¬job.past := by
  intro past
  exact past.dispatched undispatched

/-- A job waiting for its dispatch or claimed for it is placed. -/
theorem placed_open {job : LetterJob} (open_ : job.status = .pending ∨ job.status = .processing) : Placed job where
  held := fun held => by rw [held] at open_; simp at open_
  cancelled := fun cancelled => by rw [cancelled] at open_; simp at open_
  failed := fun failed => by rw [failed] at open_; simp at open_

theorem JobMove.placed {job job' : LetterJob} (move : JobMove s event job job') (placed : Placed job)
    (budgeted : Budgeted s job) : Placed job' := by
  cases move with
  | claimed | putBack | requeued => exact placed_open (by simp [claimedJob, Mail.putBack, requeuedJob])
  | marked here member same phase owned => exact placed_open (.inr (stillClaimed_iff.mp owned).1)
  | quarantined =>
    unfold ambiguousJob
    split
    · exact placed
    · exact ⟨fun _ => .inr rfl, fun status => (by cases status), fun status => (by cases status)⟩
  | completed => exact ⟨fun status => (by cases status), fun status => (by cases status), fun status => (by cases status)⟩
  | rejected =>
    exact ⟨fun status => (by cases status), fun status => (by cases status), fun _ outcome => (by cases outcome)⟩
  | @undispatched worker delay member same phase owned free =>
    obtain ⟨taken, attempts, undispatched⟩ := stillClaimed_iff.mp owned
    by_cases retryable : worker.claim.attempts < worker.claim.maxAttempts
    · exact placed_open (.inl (by simp [undispatchedJob, retryable]))
    · have none : decide (worker.claim.attempts < worker.claim.maxAttempts) = false := by simpa using retryable
      rw [none]
      refine ⟨fun status => (by cases status), fun status => (by cases status), fun _ _ => ?_⟩
      show job.maxAttempts ≤ job.attempts
      by_contra below
      have budget := budgeted.claims worker member same
      have raised := (budget.raised (by omega)).2 taken undispatched
      omega
  | cancelled resolution pending undispatched =>
    exact ⟨fun status => (by cases status), fun _ => unpast_of_undispatched undispatched, fun status => (by cases status)⟩
  | @resolved userId decision provider =>
    cases decision with
    | accepted => exact ⟨fun status => (by cases status), fun status => (by cases status), fun status => (by cases status)⟩
    | retry => exact placed_open (.inl rfl)
    | rejected =>
      exact ⟨fun status => (by cases status), fun status => (by cases status), fun _ outcome => (by cases outcome)⟩
  | released here pending => exact placed_open (.inl pending)
  | stopped reason undispatched =>
    unfold stoppedJob
    split
    · exact placed
    · exact ⟨fun status => (by cases status), fun _ => unpast_of_undispatched undispatched, fun status => (by cases status)⟩
  | halted => exact ⟨fun _ => .inr rfl, fun status => (by cases status), fun status => (by cases status)⟩
  | withheld funding waiting => exact placed_open waiting

theorem JobMoves.placed {job job' : LetterJob} (moves : JobMoves s event job job') (placed : Placed job)
    (budgeted : Budgeted s job) : Placed job' := by
  induction moves with
  | refl => exact placed
  | tail before move ih => exact move.placed ih (JobMoves.budgeted before budgeted)

theorem placed_step (settled : Settled s) (placed : ∀ job ∈ s.jobs.rows, Placed job)
    (committed : step cfg s event = .ok s') : ∀ job ∈ s'.jobs.rows, Placed job := by
  have steps := step_moves committed
  intro job' member
  have found := Table.find_of_mem member
  cases before : s.jobs.find job'.jobId with
  | none =>
    obtain ⟨now, letterId, notBefore, maxAttempts, moves⟩ := steps.jobs.added _ _ before found
    exact moves.placed (placed_open (.inl rfl)) (newJob_budgeted settled.filed before)
  | some job =>
    obtain ⟨other, there, moves⟩ := steps.jobs.moved _ job before
    rw [found] at there
    cases there
    exact moves.placed (placed job (Table.find_mem before)) (settled.budgeted job (Table.find_mem before))

/-! A held letter waits for no dispatch. -/

/-- Waiting for its dispatch, or claimed for it. -/
def LetterJob.waiting (job : LetterJob) : Prop :=
  (job.status = .pending ∨ job.status = .processing) ∧ job.providerOutcome = .notDispatched

theorem LetterJob.waiting.live {job : LetterJob} (waiting : job.waiting) : job.live :=
  waiting.1.imp_right .inl

/-- An operator has the job sent again. -/
def sentAgain (event : Event) (jobId : JobId) : Prop :=
  (∃ userId provider, event = .resolve jobId userId .retry provider) ∨ ∃ userId, event = .retry jobId userId

theorem ambiguousJob_unwaiting (job : LetterJob) : ¬(ambiguousJob job).waiting := by
  rintro ⟨open_, -⟩
  unfold ambiguousJob at open_
  split at open_
  · rename_i ended
    rcases ended with ended | ended <;> rw [ended] at open_ <;> simp at open_
  · simp at open_

theorem JobMove.waiting_origin {job job' : LetterJob} (move : JobMove s event job job') (placed : Placed job)
    (waiting : job'.waiting) : job.waiting ∨ sentAgain event job.jobId := by
  have ⟨open_, outcome⟩ := waiting
  cases move with
  | claimed here candidate =>
    obtain ⟨below, undispatched, pending | failed | taken⟩ := claimable_iff candidate
    · exact .inl ⟨.inl pending, undispatched⟩
    · have spent := placed.failed failed undispatched
      omega
    · exact .inl ⟨.inr taken, undispatched⟩
  | putBack taken undispatched => exact .inl ⟨.inr taken, undispatched⟩
  | marked => cases outcome
  | quarantined => exact absurd waiting (ambiguousJob_unwaiting job)
  | completed | rejected => simp at open_
  | undispatched delay member same phase owned =>
    obtain ⟨taken, -, undispatched⟩ := stillClaimed_iff.mp owned
    exact .inl ⟨.inr taken, undispatched⟩
  | cancelled => simp at open_
  | @resolved userId decision provider here =>
    cases decision with
    | accepted | rejected => simp [resolvedJob] at open_
    | retry => exact .inr (.inl ⟨userId, provider, here⟩)
  | @requeued userId here => exact .inr (.inr ⟨userId, here⟩)
  | released here pending undispatched => exact .inl ⟨.inl pending, undispatched⟩
  | stopped reason undispatched =>
    unfold stoppedJob at open_
    split at open_
    · rename_i completed
      rw [completed] at open_
      simp at open_
    · simp at open_
  | halted => simp [haltedJob] at open_
  | withheld funding open_ undispatched => exact .inl ⟨open_, undispatched⟩

theorem JobMoves.jobId {job job' : LetterJob} (moves : JobMoves s event job job') : job'.jobId = job.jobId := by
  induction moves with
  | refl => rfl
  | tail _ move ih => exact move.jobId.trans ih

theorem JobMoves.waiting_origin {job job' : LetterJob} (moves : JobMoves s event job job') (placed : Placed job)
    (budgeted : Budgeted s job) (waiting : job'.waiting) : job.waiting ∨ sentAgain event job.jobId := by
  induction moves with
  | refl => exact .inl waiting
  | tail before move ih =>
    rcases move.waiting_origin (JobMoves.placed before placed budgeted) waiting with here | again
    · exact ih here
    · rw [JobMoves.jobId before] at again
      exact .inr again

/-- An operator who has mail sent again queues its letter. -/
theorem sentAgain_queues {jobId : JobId} {job : LetterJob} {letter : MailItem} (again : sentAgain event jobId)
    (committed : step cfg s event = .ok s') (found : s.jobs.find jobId = some job)
    (after : s'.letters.find job.letterId = some letter) : letter.status = .queued := by
  rcases again with ⟨userId, provider, rfl⟩ | ⟨userId, rfl⟩
  · obtain ⟨other, old, there, atLetter, -, -, -, -, funds⟩ := resolveAmbiguousLetterJob_ok committed
    rw [found] at there
    cases there
    rw [funds.letters] at after
    have written : (s.letters.put (resolvedLetter .retry old)).find job.letterId = _ :=
      Table.find_put_over atLetter (resolvedLetter_letterId _ _)
    have same : some (resolvedLetter .retry old) = some letter := written.symm.trans after
    cases same
    rfl
  · obtain ⟨other, old, there, atLetter, -, -, -, -, funds⟩ := retryLetterJob_ok cfg committed
    rw [found] at there
    cases there
    rw [funds.letters] at after
    have written : (s.letters.put { old with status := .queued }).find job.letterId = _ := Table.find_put_over atLetter rfl
    have same : some { old with status := .queued } = some letter := written.symm.trans after
    cases same
    rfl

/-- What `holdAmbiguousDispatch` writes of the mail. -/
theorem quarantine_writes {worker : Worker} {delay : Time} (phase : worker.phase = .uncertain)
    (committed : step cfg s (.dispatch worker (.settles delay)) = .ok s') :
    s'.jobs = (s.modifyJob worker.claim.jobId ambiguousJob).jobs ∧
      s'.letters = (s.modifyLetter worker.claim.letterId quarantinedLetter).letters := by
  simp only [step, processClaimedJob] at committed
  split at committed
  · cases committed
  · rw [if_neg (by simp [phase])] at committed
    obtain ⟨settled, done, rest⟩ := bind_eq_ok.mp committed
    cases rest
    unfold settleDispatch at done
    rw [phase] at done
    have funds := holdAmbiguousDispatch_ok cfg done
    refine ⟨?_, ?_⟩
    · show settled.jobs = _
      rw [funds.jobs, modifyLetter_jobs]
    · show settled.letters = _
      rw [funds.letters]
      exact modifyLetter_letters (modifyJob_letters _ _ _)

theorem syncStatus_ok {letterId : LetterId} {status : LetterStatus}
    (committed : step cfg s (.syncStatus letterId status) = .ok s') :
    ∃ letter, s.letters.find letterId = some letter ∧ letter.tracked = true ∧
      status ∈ [LetterStatus.queued, .processing, .inTransit, .delivered, .returned, .accepted, .sent] ∧
      s' = s.setLetter { letter with status } := by
  simp only [step, syncStatus] at committed
  split at committed
  · cases committed
  · rename_i letter found
    split at committed
    · cases committed
    · rename_i guard
      simp only [Bool.or_eq_true, Bool.not_eq_true', not_or, Bool.not_eq_false] at guard
      cases committed
      exact ⟨letter, found, guard.1, by simpa only [decide_eq_true_eq, not_not] using guard.2, rfl⟩

/-- What puts a letter on hold: an uncertain dispatch, or a reversal that finds its mail past the marker. -/
theorem LetterMove.held_origin {jobs : Table LetterJob.jobId} {letter letter' : MailItem}
    (move : LetterMove s event jobs letter letter') (committed : step cfg s event = .ok s')
    (held : letter'.status = .held) :
    letter.status = .held ∨
      (∃ worker delay, event = .dispatch worker (.settles delay) ∧ worker ∈ s.workers ∧ worker.phase = .uncertain ∧
        worker.claim.letterId = letter.letterId) ∨
      ∃ job, s.jobOfLetter letter.letterId = some job ∧ job.past := by
  cases move with
  | marked | accepted | rejected | cancelled | requeued | lost => cases held
  | @quarantined worker delay here member same phase => exact .inr (.inl ⟨worker, delay, here, member, phase, same⟩)
  | undispatched retryable =>
    unfold undispatchedLetter at held
    split at held
    · exact .inl held
    · split at held <;> cases held
  | resolved decision here undelivered =>
    cases decision with
    | accepted => exact absurd rfl undelivered
    | retry | rejected => cases held
  | synced status here =>
    subst here
    obtain ⟨-, -, -, listed, -⟩ := syncStatus_ok committed
    have held : status = .held := held
    simp [held] at listed
  | redacted => exact .inl held
  | stopped =>
    unfold stoppedLetter at held
    split at held
    · exact .inl held
    · cases held
  | halted found past => exact .inr (.inr ⟨_, found, past⟩)

theorem queuedLetter_status (s : Store) (letter : Letter) (mail : NewMail) : (queuedLetter s letter mail).status = .queued := by
  unfold queuedLetter
  split <;> rfl

/-- No letter on hold waits for a dispatch. -/
def Seated (s : Store) : Prop :=
  ∀ job ∈ s.jobs.rows, job.waiting → ∀ letter, s.letters.find job.letterId = some letter → letter.status ≠ .held

theorem only_job (filed : Filed s) {job other : LetterJob} {letterId : LetterId} (member : job ∈ s.jobs.rows)
    (named : job.letterId = letterId) (there : other ∈ s.jobs.rows) (same : other.letterId = letterId) : other = job := by
  have ids := filed.oneJob other there job member (same.trans named.symm)
  exact eq_of_key_eq s.jobs.unique there member ids

theorem Seated.step (seated : Seated s) (settled : Settled s) (placed : ∀ job ∈ s.jobs.rows, Placed job)
    (committed : step cfg s event = .ok s') : Seated s' := by
  have steps := step_moves committed
  intro job' member waiting letter' found' held
  rcases step_letters committed with ⟨commerce, mail, _, letter, rfl, _, _, freshJob, freshLetter, funds⟩ | moves
  · rw [funds.jobs] at member
    rw [funds.letters, Table.find_insert] at found'
    split at found'
    · cases found'
      rw [queuedLetter_status] at held
      cases held
    · rename_i other
      rcases List.mem_append.mp member with old | added
      · exact seated job' old waiting letter' found' held
      · rw [List.mem_singleton.mp added, queuedLetter_letterId] at other
        exact other rfl
  · obtain ⟨job, found, moved⟩ := moves.origin steps member
    have inJobs := Table.find_mem found
    rw [moved.letterId] at found'
    obtain ⟨letter, atLetter⟩ := Option.isSome_iff_exists.mp (settled.filed.letter job inJobs)
    obtain ⟨after, there, change⟩ := moves.letters.moved _ letter atLetter
    rw [found'] at there
    cases there
    rcases moved.waiting_origin (placed job inJobs) (settled.budgeted job inJobs) waiting with was | again
    · rcases change with rfl | move
      · exact seated job inJobs was _ atLetter held
      · rcases move.held_origin committed held with
          before | ⟨worker, delay, rfl, inWorkers, phase, named⟩ | ⟨other, there, past⟩
        · exact seated job inJobs was letter atLetter before
        · obtain ⟨claimed, atClaim, same⟩ := settled.filed.claims worker inWorkers
          have one := only_job settled.filed inJobs (Table.find_key atLetter).symm (Table.find_mem atClaim)
            (same.trans named)
          subst one
          obtain ⟨jobs, -⟩ := quarantine_writes phase committed
          have here := Table.find_of_mem member
          have ids : job'.jobId = worker.claim.jobId := moved.jobId.trans (Table.find_key atClaim)
          rw [jobs, Store.modifyJob, atClaim, ids] at here
          have written : (s.jobs.put (ambiguousJob claimed)).find worker.claim.jobId = _ :=
            Table.find_put_over atClaim (ambiguousJob_jobId claimed)
          have same : some (ambiguousJob claimed) = some job' := written.symm.trans here
          cases same
          exact ambiguousJob_unwaiting claimed waiting
        · obtain ⟨inRows, same⟩ := jobOfLetter_find there
          have one := only_job settled.filed inJobs (Table.find_key atLetter).symm (Table.find_mem inRows) same
          subst one
          exact past.dispatched was.2
    · have queued := sentAgain_queues again committed (Table.find_key found ▸ found) found'
      rw [queued] at held
      cases held

/-! Nothing reopens mail that was paid back, but for two writes. -/

/-- The status sync writes over no mail that has ended, and no mail that was cancelled is held as uncertain. -/
def Careful (s : Store) : Event → Prop
  | .syncStatus letterId _ => ∀ letter, s.letters.find letterId = some letter → letter.status ∉ ENDED_LETTER_STATUSES
  | .dispatch worker (.settles _) => worker.phase = .uncertain →
      (∀ letter, s.letters.find worker.claim.letterId = some letter → letter.status ≠ .cancelled) ∧
        ∀ job, s.jobs.find worker.claim.jobId = some job → job.status ≠ .cancelled
  | _ => True

def MailItem.finished (letter : MailItem) : Prop := letter.status = .failed ∨ letter.status = .cancelled

/-- Mail paid back is over, and its outcome is not open. -/
structure Closed (s : Store) : Prop where
  letter : ∀ letterId, Returned s.commerce letterId → ∀ letter, s.letters.find letterId = some letter → letter.finished
  job : ∀ job ∈ s.jobs.rows, Returned s.commerce job.letterId → ¬job.past

theorem JobMove.unpast_kept {job job' : LetterJob} (move : JobMove s event job job') (careful : Careful s event)
    (placed : Placed job) (spent : ¬job.live) (unpast : ¬job.past) : ¬job'.past := by
  cases move with
  | putBack taken undispatched => exact unpast_of_undispatched undispatched
  | marked here member same phase owned => exact absurd (.inr (.inl (stillClaimed_iff.mp owned).1)) spent
  | quarantined here found member same phase =>
    subst here
    have standing := (careful phase).2 job found
    unfold ambiguousJob
    split
    · exact unpast
    · rename_i open_
      exfalso
      cases status : job.status with
      | pending => exact spent (.inl status)
      | processing => exact spent (.inr (.inl status))
      | completed => exact open_ (.inl status)
      | failed => exact open_ (.inr status)
      | held => exact unpast (placed.held status)
      | cancelled => exact standing status
  | completed | rejected => simp [LetterJob.past]
  | @resolved userId decision provider here held ambiguous => exact absurd (.inr ambiguous) unpast
  | requeued => simp [LetterJob.past, requeuedJob]
  | stopped =>
    unfold stoppedJob
    split <;> exact unpast
  | halted reason past => exact absurd past unpast
  | claimed | undispatched | cancelled | released | withheld => exact unpast

theorem JobMoves.unpast_kept {job job' : LetterJob} (moves : JobMoves s event job job') (careful : Careful s event)
    (placed : Placed job) (budgeted : Budgeted s job) (returned : Returned s.commerce job.letterId) (spent : ¬job.live)
    (unpast : ¬job.past) : ¬job'.past := by
  induction moves with
  | refl => exact unpast
  | tail before move ih =>
    have standing := JobMoves.placed before placed budgeted
    exact move.unpast_kept careful standing (JobMoves.spent_kept before returned spent) ih

theorem LetterMove.finished_kept {jobs : Table LetterJob.jobId} {letter letter' : MailItem}
    (move : LetterMove s event jobs letter letter') (careful : Careful s event) (settled : Settled s) (closed : Closed s)
    (found : s.letters.find letter.letterId = some letter) (returned : Returned s.commerce letter.letterId)
    (finished : letter.finished) : letter'.finished := by
  have idle : ∀ status : LetterStatus, letter.status = status → status ≠ .failed → status ≠ .cancelled → False := by
    intro status here unfailed uncancelled
    rcases finished with failed | cancelled
    · exact unfailed (here.symm.trans failed)
    · exact uncancelled (here.symm.trans cancelled)
  cases move with
  | marked _ _ _ waiting =>
    rcases waiting with queued | processing
    · exact (idle _ queued (by decide) (by decide)).elim
    · exact (idle _ processing (by decide) (by decide)).elim
  | @quarantined worker delay here member same phase =>
    subst here
    have standing := (careful phase).1 letter (same ▸ found)
    have failed := finished.resolve_right standing
    unfold quarantinedLetter
    rw [if_pos (.inr failed)]
    exact finished
  | accepted _ _ _ _ waiting =>
    rcases waiting with processing | held
    · exact (idle _ processing (by decide) (by decide)).elim
    · exact (idle _ held (by decide) (by decide)).elim
  | rejected | lost => exact .inl rfl
  | @undispatched worker job retryable member same atJob owned =>
    -- The job would still be claimed, and what may still be sent is not paid back.
    obtain ⟨claimed, atClaim, named⟩ := settled.filed.claims worker member
    rw [atJob] at atClaim
    cases atClaim
    have live : job.live := .inr (.inl (stillClaimed_iff.mp owned).1)
    exact (settled.unreturned job (Table.find_mem atJob) live (by rw [named, same]; exact returned)).elim
  | cancelled => exact .inr rfl
  | resolved decision held => exact (idle _ held (by decide) (by decide)).elim
  | requeued failed owed => exact (unreturned_of_uncompensated owed returned).elim
  | synced status here =>
    subst here
    have going := careful letter found
    rcases finished with failed | cancelled
    · exact absurd (by rw [failed]; decide) going
    · exact absurd (by rw [cancelled]; decide) going
  | redacted => exact finished
  | stopped =>
    unfold stoppedLetter
    split
    · exact finished
    · exact .inr rfl
  | halted there past =>
    obtain ⟨inJobs, same⟩ := jobOfLetter_find there
    exact absurd past (closed.job _ (Table.find_mem inJobs) (by rw [same]; exact returned))

/-- A letter a step queues had not been sent, so it is not one paid back. -/
theorem queued_unreturned (settled : Settled s) {commerce : Commerce.Store} {letter : Letter}
    (new : newLetter s.commerce commerce = some letter) : ¬Returned s.commerce letter.letterId := by
  intro returned
  obtain ⟨fundingType, sent, inLetters, named, -⟩ := returned.sent settled.backed.paid
  have unsent := List.find?_some new
  rw [← named, Table.find_of_mem inLetters] at unsent
  cases unsent

theorem Closed.step (closed : Closed s) (settled : Settled s) (placed : ∀ job ∈ s.jobs.rows, Placed job)
    (seated : Seated s) (careful : Careful s event) (committed : step cfg s event = .ok s') : Closed s' := by
  have steps := step_moves committed
  have filed := settled.filed.step settled.backed committed
  have placed' := placed_step settled placed committed
  rcases step_letters committed with ⟨commerce, mail, _, letter, rfl, _, new, freshJob, freshLetter, funds⟩ | moves
  · have before (letterId : LetterId) (returned : Returned s'.commerce letterId) : Returned s.commerce letterId :=
      (commerceStep_money committed).returned settled.backed returned
    have fresh := queued_unreturned settled new
    refine ⟨fun letterId returned row found => ?_, fun job member returned => ?_⟩
    · rw [funds.letters, Table.find_insert] at found
      split at found
      · rename_i same
        rw [queuedLetter_letterId] at same
        exact absurd (same ▸ before letterId returned) fresh
      · exact closed.letter letterId (before letterId returned) row found
    · rw [funds.jobs] at member
      rcases List.mem_append.mp member with old | added
      · exact closed.job job old (before _ returned)
      · rw [List.mem_singleton.mp added]
        exact unpast_of_undispatched rfl
  · refine ⟨fun letterId returned row found => ?_, fun job' member returned => ?_⟩
    · have sameId := Table.find_key found
      obtain ⟨letter, atLetter, change⟩ := moves.letterOrigin (Table.find_mem found)
      rw [sameId] at atLetter
      rcases step_returned settled.backed committed returned with before | ⟨-, ends⟩
      · have finished := closed.letter letterId before letter atLetter
        rcases change with rfl | move
        · exact finished
        · have named := Table.find_key atLetter
          exact move.finished_kept careful settled closed (named.symm ▸ atLetter) (named.symm ▸ before) finished
      · rcases ends row found with finished | ⟨held, was, worker, inWorkers, named, job, atJob, taken, undispatched⟩
        · exact finished
        · obtain ⟨claimed, atClaim, same⟩ := settled.filed.claims worker inWorkers
          rw [atJob] at atClaim
          cases atClaim
          have waits := seated job (Table.find_mem atJob) ⟨.inr taken, undispatched⟩ row
          rw [same, named] at waits
          exact absurd held (waits was)
    · obtain ⟨job, found, moved⟩ := moves.origin steps member
      have inJobs := Table.find_mem found
      rcases step_returned settled.backed committed returned with before | ⟨ends, -⟩
      · rw [moved.letterId] at before
        have spent := fun live => settled.unreturned job inJobs live before
        exact moved.unpast_kept careful (placed job inJobs) (settled.budgeted job inJobs) before spent
          (closed.job job inJobs before)
      · rcases ends.outcome settled filed committed member rfl with
          cancelled | delivered | ⟨-, definite | ⟨-, undispatched⟩⟩
        · exact (placed' job' member).cancelled cancelled
        · simp [LetterJob.past, delivered.2]
        · simp [LetterJob.past, definite]
        · exact unpast_of_undispatched undispatched

/-- What a careful run keeps. -/
structure Concluded (s : Store) : Prop where
  settled : Settled s
  placed : ∀ job ∈ s.jobs.rows, Placed job
  seated : Seated s
  closed : Closed s

theorem concluded_start : Concluded {} where
  settled := settled_start
  placed _ member := (nomatch member)
  seated _ member := (nomatch member)
  closed := ⟨fun _ _ _ found => (nomatch found), fun _ member => (nomatch member)⟩

theorem Concluded.step (concluded : Concluded s) (careful : Careful s event) (committed : step cfg s event = .ok s') :
    Concluded s' where
  settled := concluded.settled.step committed
  placed := placed_step concluded.settled concluded.placed committed
  seated := concluded.seated.step concluded.settled concluded.placed committed
  closed := concluded.closed.step concluded.settled concluded.placed concluded.seated careful committed

/-! What was paid back stays paid back. -/

/-- No gift letter leaves the table or changes where it came from. -/
def SourcesLast (before after : Table GiftLetter.grant) : Prop :=
  ∀ gift ∈ before.rows, ∃ new ∈ after.rows, new.source = gift.source

theorem SourcesLast.of_subset {before after : Table GiftLetter.grant}
    (kept : ∀ gift ∈ before.rows, gift ∈ after.rows) : SourcesLast before after :=
  fun gift member => ⟨gift, kept gift member, rfl⟩

theorem SourcesLast.granted (now : Time) (giftLetters : Table GiftLetter.grant) (gift : GiftLetter) (quantity : Nat) :
    SourcesLast giftLetters (grantGiftLettersWithClient now giftLetters gift quantity) := by
  refine .of_subset fun other member => ?_
  unfold grantGiftLettersWithClient
  generalize List.range quantity = indices
  induction indices generalizing giftLetters with
  | nil => exact member
  | cons grantIndex rest ih => exact ih _ (Table.mem_insertNew.mpr (.inl member))

theorem SourcesLast.update (giftLetters : Table GiftLetter.grant) (selected : GiftLetter → Bool)
    (change : GiftLetter → GiftLetter) (kept : ∀ gift, (change gift).grant = gift.grant) :
    SourcesLast giftLetters (giftLetters.update selected change kept) := by
  intro gift member
  by_cases hit : selected gift = true
  · exact ⟨change gift, mem_updateWhere.mpr (.inr ⟨gift, member, hit, rfl⟩), congrArg Prod.fst (kept gift)⟩
  · exact ⟨gift, mem_updateWhere.mpr (.inl ⟨member, (Bool.not_eq_true _).mp hit⟩), rfl⟩

theorem SourcesLast.put (giftLetters : Table GiftLetter.grant) {gift changed : GiftLetter} (offered : gift ∈ giftLetters.rows)
    (same : changed.grant = gift.grant) : SourcesLast giftLetters (giftLetters.put changed) := by
  intro other member
  by_cases here : other.grant = changed.grant
  · exact ⟨changed, Table.mem_put.mpr (.inr ⟨rfl, gift, offered, same.symm⟩), (congrArg Prod.fst here).symm⟩
  · exact ⟨other, Table.mem_put.mpr (.inl ⟨member, here⟩), rfl⟩

theorem SourcesLast.trans {first second third : Table GiftLetter.grant} (left : SourcesLast first second)
    (right : SourcesLast second third) : SourcesLast first third := by
  intro gift member
  obtain ⟨middle, there, same⟩ := left gift member
  obtain ⟨last, inLast, same'⟩ := right middle there
  exact ⟨last, inLast, same'.trans same⟩

theorem SourcesLast.spent {now : Time} {giftLetters later : Table GiftLetter.grant} {userId : UserId}
    {letterId : LetterId} {gift : GiftLetter}
    (consumed : consumeGiftLetter now giftLetters userId letterId = some (gift, later)) :
    SourcesLast giftLetters later := by
  obtain ⟨expired, rfl, offered, -, -, rfl⟩ := Gift.consumeGiftLetter_spec consumed
  have aged := SourcesLast.update giftLetters
    (fun gift => gift.userId == userId && gift.status == .available && gift.expiresAt.any (· ≤ now))
    (fun gift => { gift with status := .expired }) fun _ => rfl
  exact aged.trans (.put _ offered rfl)

theorem Returned.of_gifts {s s' : Commerce.Store} {letterId : LetterId} (returned : Returned s letterId)
    (account : s'.account = s.account) (gifts : SourcesLast s.giftLetters s'.giftLetters) : Returned s' letterId := by
  rcases returned with credits | ⟨gift, member, source⟩
  · exact .inl (account ▸ credits)
  · obtain ⟨new, there, same⟩ := gifts gift member
    exact .inr ⟨new, there, same.trans source⟩

theorem Returned.of_account {s s' : Commerce.Store} {letterId : LetterId} {event : AccountEvent} {now : Time}
    (returned : Returned s letterId) (applied : applyAccountEvent now s.account event = .ok s'.account)
    (gifts : s'.giftLetters = s.giftLetters) : Returned s' letterId := by
  rcases returned with credits | gift
  · exact .inl (Balance.hasReturned_kept applied credits)
  · exact .inr (gifts ▸ gift)

theorem Returned.write {hands : Beneficiary → Prop} {s s' : Commerce.Store} {letterId : LetterId}
    (returned : Returned s letterId) (write : Write cfg hands s s') : Returned s' letterId := by
  cases write with
  | account event loose allowed whole applied => exact returned.of_account applied rfl
  | @restore order current disputeId =>
    have applied : applyAccountEvent s.now s.account (.compensateDisputedPacks order disputeId) = .ok _ := rfl
    exact returned.of_account applied rfl
  | gifts | otherGifts => exact returned.of_gifts rfl (.granted _ _ _ _)
  | revokeGifts orderId => exact returned.of_gifts rfl (.update _ _ _ GiftLetter.reverse_grant)
  | @fulfilPack old new session account found pack unfunded moved status attached granted checked =>
    have applied : applyAccountEvent s.now s.account (.addCredits (packGrant new session)) = .ok account := granted
    exact returned.of_account applied rfl
  | @regrantPack order session account found pack status attached missing granted =>
    have applied : applyAccountEvent s.now s.account (.addCredits (packGrant order session)) = .ok account := granted
    exact returned.of_account applied rfl
  | @mailPrepaid draft sent account drafted pending fresh deducted =>
    have applied : applyAccountEvent s.now s.account (.deductCredits draft.requiredCredits sent) = .ok account := deducted
    exact returned.of_account applied rfl
  | mailGift drafted pending fresh spent => exact returned.of_gifts rfl (.spent spent)
  | @withdraw order row account exhausted found pack fulfilled named credits amount state free below fresh revoked
      checked =>
    have applied : applyAccountEvent s.now s.account (.revokeProportionally order row.credits row.packRefundId) =
        .ok account := by
      rw [applyAccountEvent, revoked]
      rfl
    exact returned.of_account applied rfl
  | @compensate row | @compensateNothing row =>
    have applied : applyAccountEvent s.now s.account (.compensatePackRefund row) = .ok _ := rfl
    exact returned.of_account applied rfl
  | _ => exact returned

theorem Returned.writes {hands : Beneficiary → Prop} {s s' : Commerce.Store} {letterId : LetterId}
    (returned : Returned s letterId) (writes : Writes cfg hands s s') : Returned s' letterId := by
  induction writes with
  | refl => exact returned
  | tail _ write ih => exact ih.write write

theorem Returned.reversals {s : Store} {letterId : LetterId} (returned : Returned s.commerce letterId)
    (reversed : List Reversal) : Returned (reversed.foldl applyReversal s).commerce letterId := by
  induction reversed generalizing s with
  | nil => exact returned
  | cons reversal reversed ih =>
    refine ih ?_
    obtain ⟨giftLetters, same, gifts⟩ := applyReversal_commerce s reversal
    rw [same]
    have last : SourcesLast s.commerce.giftLetters giftLetters := by
      rcases gifts with rfl | rfl
      · exact .of_subset fun _ member => member
      · exact .update _ _ _ GiftLetter.reverse_grant
    exact Returned.of_gifts returned rfl last

theorem FundsMove.returned_kept {letterId other : LetterId} {pays : Prop} (move : FundsMove cfg letterId pays s s')
    (returned : Returned s.commerce other) : Returned s'.commerce other := by
  cases move with
  | order funds found shift updated =>
    obtain ⟨-, -, rfl⟩ := Commerce.Store.updateOrder_ok updated
    exact returned
  | codes => exact returned
  | credits =>
    have applied : applyAccountEvent s.now s.commerce.account (.returnCredits letterId) =
        .ok (s.returnCredits letterId).1.commerce.account := rfl
    exact returned.of_account applied rfl
  | gift cause =>
    refine returned.of_gifts rfl (.of_subset fun gift member => ?_)
    show gift ∈ (Gift.returnGiftLetterForFailedSend cfg s.now s.giftTables s.commerce.userId letterId
      cause).1.giftLetters.rows
    rcases Gift.returnGiftLetter_cases cfg s.now s.giftTables s.commerce.userId letterId cause with
      same | ⟨-, same | ⟨spent, -, -, -, same⟩⟩
    · rw [same]
      exact member
    · rw [same]
      exact member
    · rw [same]
      exact Table.mem_insertNew.mpr (.inl member)

theorem Funds.returned_kept {letterId other : LetterId} {pays : Prop} (funds : Funds cfg letterId pays s s')
    (returned : Returned s.commerce other) : Returned s'.commerce other := by
  induction funds with
  | refl => exact returned
  | tail _ move ih => exact move.returned_kept ih

/-- No step takes a letter's return back. -/
theorem returned_lasts (settled : Settled s) (committed : step cfg s event = .ok s') {letterId : LetterId}
    (returned : Returned s.commerce letterId) : Returned s'.commerce letterId := by
  cases step_money committed with
  | commerce here money =>
    obtain ⟨after, middle, other, funds, free, stepped, reversed⟩ := money
    have written := returned.writes (step_writes settled.backed.regular stepped)
    have middles : Returned middle.commerce letterId := by
      rw [reversed]
      exact Returned.reversals (s := { s with commerce := after }) written _
    exact funds.returned_kept middles
  | @redeems userId code tables sameAddress redeemed after =>
    obtain ⟨row, granted⟩ := redeemChainCode_gifts redeemed
    subst after
    refine returned.of_gifts rfl ?_
    show SourcesLast s.commerce.giftLetters tables.giftLetters
    rw [granted]
    exact .granted _ _ _ _
  | funds settles =>
    obtain ⟨middle, other, funds, same, -⟩ := settles
    refine funds.returned_kept ?_
    rw [same]
    exact returned

end LetterIRL.Mail
