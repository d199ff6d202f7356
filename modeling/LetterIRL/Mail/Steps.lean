import LetterIRL.Mail.Moves

namespace LetterIRL.Mail
open Lib Ledger Commerce Relation

/-! What a step can do, read off once: to a job, to the dispatches in progress, to the calls made. -/

variable {cfg : Config} {s s' : Store} {event : Event}

/-- One change of a job, with what the transaction making it checked. -/
inductive JobMove (s : Store) (event : Event) (job : LetterJob) : LetterJob → Prop
  | claimed (here : event = .claim job.jobId) (candidate : claimable s job = true) :
      JobMove s event job (claimedJob s.now job)
  | putBack (taken : job.status = .processing) (undispatched : job.providerOutcome = .notDispatched)
      (held : s.heldForFunding job = true) : JobMove s event job (putBack job)
  | marked {worker : Worker} (here : event = .dispatch worker .marks) (member : worker ∈ s.workers)
      (same : worker.claim.jobId = job.jobId) (phase : worker.phase = .claimed)
      (owned : stillClaimed job worker.claim = true) (free : s.heldForFunding job = false) :
      JobMove s event job { job with providerOutcome := .dispatching }
  | quarantined {worker : Worker} {delay : Time} (here : event = .dispatch worker (.settles delay))
      (found : s.jobs.find worker.claim.jobId = some job) (member : worker ∈ s.workers)
      (same : worker.claim.jobId = job.jobId) (phase : worker.phase = .uncertain) :
      JobMove s event job (ambiguousJob job)
  | completed {worker : Worker} (member : worker ∈ s.workers) (same : worker.claim.jobId = job.jobId)
      (phase : worker.phase = .accepted) (eligible : acceptable job = true) :
      JobMove s event job { job with status := .completed, providerOutcome := .accepted, lockedAt := none }
  | rejected {worker : Worker} (member : worker ∈ s.workers) (same : worker.claim.jobId = job.jobId)
      (phase : worker.phase = .rejected) (taken : job.status = .processing)
      (dispatching : job.providerOutcome = .dispatching) :
      JobMove s event job { job with
        status := .failed, providerOutcome := .definiteFailure, nextAttemptAt := s.now, lockedAt := none }
  | undispatched {worker : Worker} (delay : Time) (member : worker ∈ s.workers)
      (same : worker.claim.jobId = job.jobId) (phase : worker.phase = .faulted)
      (owned : stillClaimed job worker.claim = true) (free : s.heldForFunding job = false) :
      JobMove s event job
        (undispatchedJob s.now delay (worker.claim.attempts < worker.claim.maxAttempts) job)
  | cancelled (resolution : Option OperatorResolution) (pending : job.status = .pending)
      (undispatched : job.providerOutcome = .notDispatched) :
      JobMove s event job
        { job with status := .cancelled, lockedAt := none, operatorResolution := resolution }
  | resolved {userId : UserId} {decision : AmbiguousMailDecision} {provider : ProviderName}
      (here : event = .resolve job.jobId userId decision provider) (held : job.status = .held)
      (ambiguous : job.providerOutcome = .ambiguous)
      (owed : decision ≠ .rejected → s.isLetterAlreadyCompensated job.letterId = false) :
      JobMove s event job (resolvedJob s.now decision job)
  | requeued {userId : UserId} (here : event = .retry job.jobId userId) (failed : job.status = .failed)
      (definite : job.providerOutcome = .definiteFailure)
      (owed : s.isLetterAlreadyCompensated job.letterId = false) : JobMove s event job (requeuedJob s.now job)
  | released {userId : UserId} (here : event = .release job.jobId userId) (pending : job.status = .pending)
      (undispatched : job.providerOutcome = .notDispatched) : JobMove s event job (releasedJob s.now job)
  | stopped (reason : JobHoldReason) (undispatched : job.providerOutcome = .notDispatched) :
      JobMove s event job (stoppedJob reason job)
  | halted (reason : JobHoldReason)
      (past : job.providerOutcome = .dispatching ∨ job.providerOutcome = .ambiguous) :
      JobMove s event job (haltedJob reason job)
  | withheld {reason : JobHoldReason} (funding : isFundingHoldReason (some reason) = true)
      (waiting : job.status = .pending ∨ job.status = .processing)
      (undispatched : job.providerOutcome = .notDispatched) :
      JobMove s event job { job with holdReason := some reason }

/-- The changes a step makes to a job, in order. -/
abbrev JobMoves (s : Store) (event : Event) : LetterJob → LetterJob → Prop := ReflTransGen (JobMove s event)

/-- Every job is there after the step, moved as a step can, beside new jobs. -/
structure JobsMove (s : Store) (event : Event) (before after : Table LetterJob.jobId) : Prop where
  moved : ∀ jobId job, before.find jobId = some job →
    ∃ job', after.find jobId = some job' ∧ JobMoves s event job job'
  added : ∀ jobId job', before.find jobId = none → after.find jobId = some job' →
    ∃ now letterId notBefore maxAttempts,
      JobMoves s event (newJob now jobId letterId notBefore maxAttempts) job'

theorem JobsMove.refl (jobs : Table LetterJob.jobId) : JobsMove s event jobs jobs where
  moved _ job found := ⟨job, found, .refl⟩
  added _ _ none found := by
    rw [none] at found
    cases found

theorem JobsMove.trans {first second third : Table LetterJob.jobId} (left : JobsMove s event first second)
    (right : JobsMove s event second third) : JobsMove s event first third where
  moved jobId job found := by
    obtain ⟨middle, atMiddle, before⟩ := left.moved jobId job found
    obtain ⟨last, atLast, after⟩ := right.moved jobId middle atMiddle
    exact ⟨last, atLast, before.trans after⟩
  added jobId last none found := by
    cases atMiddle : second.find jobId with
    | none => exact right.added jobId last atMiddle found
    | some middle =>
      obtain ⟨now, letterId, notBefore, maxAttempts, before⟩ := left.added jobId middle none atMiddle
      obtain ⟨other, atOther, after⟩ := right.moved jobId middle atMiddle
      rw [found] at atOther
      cases atOther
      exact ⟨now, letterId, notBefore, maxAttempts, before.trans after⟩

theorem JobsMove.put {jobs : Table LetterJob.jobId} {jobId : JobId} {job changed : LetterJob}
    (found : jobs.find jobId = some job) (same : changed.jobId = job.jobId)
    (move : JobMove s event job changed) : JobsMove s event jobs (jobs.put changed) := by
  have here : jobs.find changed.jobId = some job := by
    rw [same, Table.find_key found, found]
  refine ⟨fun other row atRow => ?_, fun other row none atRow => ?_⟩
  · by_cases hit : other = changed.jobId
    · subst hit
      rw [here] at atRow
      cases atRow
      exact ⟨changed, Table.find_put_self changed here, .single move⟩
    · exact ⟨row, by rw [Table.find_put_of_ne hit, atRow], .refl⟩
  · have miss : other ≠ changed.jobId := by
      rintro rfl
      rw [here] at none
      cases none
    rw [Table.find_put_of_ne miss, none] at atRow
    cases atRow

theorem JobsMove.update {jobs : Table LetterJob.jobId} {selected : LetterJob → Bool}
    {change : LetterJob → LetterJob} (kept : ∀ job, (change job).jobId = job.jobId)
    (moves : ∀ job, selected job = true → JobMove s event job (change job)) :
    JobsMove s event jobs (jobs.update selected change kept) := by
  refine ⟨fun jobId job found => ?_, fun jobId row none atRow => ?_⟩
  · have after : (jobs.update selected change kept).find jobId = some (if selected job then change job else job) := by
      rw [Table.find_update, found, Option.map_some]
    refine ⟨_, after, ?_⟩
    split
    · rename_i hit
      exact .single (moves job hit)
    · exact .refl
  · have stored := Table.find_mem atRow
    rw [Table.update_rows] at stored
    rcases mem_updateWhere.mp stored with ⟨old, -⟩ | ⟨old, member, -, rfl⟩
    · exact absurd (Table.find_key atRow) (Table.find_eq_none.mp none row old)
    · exact absurd ((kept old).symm.trans (Table.find_key atRow)) (Table.find_eq_none.mp none old member)

/-- A new job is one no row had the id of. -/
theorem JobsMove.insert {jobs : Table LetterJob.jobId} {now : Time} {jobId : JobId} {letterId : LetterId}
    {notBefore : Option Time} {maxAttempts : Nat}
    (fresh : (newJob now jobId letterId notBefore maxAttempts).jobId ∉ jobs.rows.map LetterJob.jobId) :
    JobsMove s event jobs (jobs.insert (newJob now jobId letterId notBefore maxAttempts) fresh) := by
  refine ⟨fun other row found => ⟨row, ?_, .refl⟩, fun other row none found => ?_⟩
  · rw [Table.find_insert fresh, if_neg, found]
    rintro rfl
    exact fresh (List.mem_map.mpr ⟨row, Table.find_mem found, Table.find_key found⟩)
  · rw [Table.find_insert fresh] at found
    split at found
    · rename_i same
      cases found
      subst same
      exact ⟨now, letterId, notBefore, maxAttempts, .refl⟩
    · rw [none] at found
      cases found

theorem ambiguousJob_jobId (job : LetterJob) : (ambiguousJob job).jobId = job.jobId := by
  unfold ambiguousJob
  split <;> rfl

theorem stoppedJob_jobId (reason : JobHoldReason) (job : LetterJob) :
    (stoppedJob reason job).jobId = job.jobId := by
  unfold stoppedJob
  split <;> rfl

theorem resolvedJob_jobId (now : Time) (decision : AmbiguousMailDecision) (job : LetterJob) :
    (resolvedJob now decision job).jobId = job.jobId := by
  cases decision <;> rfl

theorem stillClaimed_iff {job claim : LetterJob} :
    stillClaimed job claim = true ↔
      job.status = .processing ∧ job.attempts = claim.attempts ∧ job.providerOutcome = .notDispatched := by
  simp [stillClaimed, and_assoc]

theorem JobMove.jobId {job job' : LetterJob} (move : JobMove s event job job') : job'.jobId = job.jobId := by
  cases move with
  | quarantined => exact ambiguousJob_jobId job
  | resolved => exact resolvedJob_jobId _ _ _
  | stopped reason => exact stoppedJob_jobId reason job
  | _ => rfl

/-- What every change of a job preserves, a step preserves. -/
theorem JobMoves.invariant {I : LetterJob → Prop} {job job' : LetterJob} (moves : JobMoves s event job job')
    (holds : I job)
    (preserved : ∀ before after, before.jobId = job.jobId → I before → JobMove s event before after → I after) :
    I job' := by
  have both : job'.jobId = job.jobId ∧ I job' := by
    induction moves with
    | refl => exact ⟨rfl, holds⟩
    | tail _ move ih => exact ⟨move.jobId.trans ih.1, preserved _ _ ih.1 ih.2 move⟩
  exact both.2

/-! Commerce, with the mail it stops and holds. -/

/-- Why mail is held for its funding: the reason is a funding reason. -/
def Reversal.Valid (reversal : Reversal) : Prop :=
  ∀ reason, reversal.hold = some reason → isFundingHoldReason (some reason) = true

theorem refundReversals_valid {reversal : Reversal} {s : Commerce.Store} {refund : RefundEvent}
    (member : reversal ∈ refundReversals s refund) : reversal.Valid := by
  unfold refundReversals at member
  split at member
  · cases member
  · split at member
    · cases member
    · split at member
      · cases member
      · cases List.mem_singleton.mp member
        intro reason held
        dsimp only at held
        split at held
        · cases held
          decide
        · cases held

theorem disputeReversals_valid {reversal : Reversal} {s : Commerce.Store} {dispute : DisputeEvent}
    (member : reversal ∈ disputeReversals s dispute) : reversal.Valid := by
  unfold disputeReversals at member
  split at member
  · cases member
  · split at member
    · cases member
    · split at member
      · cases member
      · cases List.mem_singleton.mp member
        intro reason held
        dsimp only at held
        split at held
        · cases held
          decide
        · cases held

theorem checkoutReversals_valid {reversal : Reversal} {s : Commerce.Store} {checkout : CheckoutEvent}
    (member : reversal ∈ checkoutReversals cfg s checkout) : reversal.Valid := by
  unfold checkoutReversals at member
  split at member
  · cases member
  · split at member
    · cases member
    · unfold recoveredReversals at member
      split at member
      · cases member
      · obtain ⟨dispute, -, rfl⟩ := List.mem_map.mp member
        intro reason held
        dsimp only at held
        split at held
        · cases held
          decide
        · cases held

theorem reversals_valid {reversal : Reversal} {s : Commerce.Store} {event : Commerce.Event}
    (member : reversal ∈ reversals cfg s event) : reversal.Valid := by
  cases event with
  | refund event => exact refundReversals_valid member
  | dispute event => exact disputeReversals_valid member
  | checkoutSession event => exact checkoutReversals_valid member
  | _ => cases member

theorem jobOfLetter_find {letterId : LetterId} {job : LetterJob} (found : s.jobOfLetter letterId = some job) :
    s.jobs.find job.jobId = some job ∧ job.letterId = letterId := by
  have here := List.find?_some found
  exact ⟨Table.find_of_mem (List.mem_of_find?_eq_some found), by simpa using here⟩

theorem stopFundedMail_jobs (s before : Store) (event : Event) (order : Order) (reason : JobHoldReason) :
    JobsMove s event before.jobs (stopFundedMail before order reason).jobs := by
  unfold stopFundedMail
  split
  · split
    · exact .refl _
    · rename_i job found
      have here := (jobOfLetter_find found).1
      split
      · rename_i undispatched
        rw [modifyLetter_jobs]
        exact .put here (stoppedJob_jobId reason job) (.stopped reason undispatched)
      · rename_i past
        rw [modifyLetter_jobs]
        exact .put here rfl (.halted reason (.inl past))
      · rename_i past
        rw [modifyLetter_jobs]
        exact .put here rfl (.halted reason (.inr past))
      · exact .refl _
  · exact .refl _

theorem holdMailFundedByOrder_jobs {before : Store} (order : Order) {reason : JobHoldReason}
    (funding : isFundingHoldReason (some reason) = true) :
    JobsMove s event before.jobs (holdMailFundedByOrder before order reason).jobs := by
  unfold holdMailFundedByOrder
  split
  · exact .refl _
  · refine JobsMove.update (by intro; rfl) fun job selected => ?_
    simp only [holdable, Bool.and_eq_true, Bool.or_eq_true, beq_iff_eq] at selected
    exact .withheld funding selected.1.2 selected.2

theorem applyReversal_jobs {before : Store} {reversal : Reversal} (valid : reversal.Valid) :
    JobsMove s event before.jobs (applyReversal before reversal).jobs := by
  unfold applyReversal
  have stopped := stopFundedMail_jobs s before event reversal.order reversal.stop
  dsimp only
  split
  · exact stopped
  · rename_i reason held
    have holds := stopped.trans
      (holdMailFundedByOrder_jobs reversal.order (valid reason held))
    split
    · exact holds
    · exact holds

theorem stopFundedMail_rest (s : Store) (order : Order) (reason : JobHoldReason) :
    (stopFundedMail s order reason).workers = s.workers ∧
      (stopFundedMail s order reason).submissions = s.submissions ∧
      (stopFundedMail s order reason).commerce = s.commerce := by
  unfold stopFundedMail
  split
  · split
    · exact ⟨rfl, rfl, rfl⟩
    · split
      all_goals first
        | exact ⟨modifyLetter_workers _ _ _, modifyLetter_submissions _ _ _, modifyLetter_commerce _ _ _⟩
        | exact ⟨rfl, rfl, rfl⟩
  · exact ⟨rfl, rfl, rfl⟩

theorem applyReversal_rest (s : Store) (reversal : Reversal) :
    (applyReversal s reversal).workers = s.workers ∧
      (applyReversal s reversal).submissions = s.submissions := by
  obtain ⟨workers, submissions, -⟩ := stopFundedMail_rest s reversal.order reversal.stop
  unfold applyReversal
  dsimp only
  split
  · exact ⟨workers, submissions⟩
  · unfold holdMailFundedByOrder
    split
    · split
      · exact ⟨workers, submissions⟩
      · exact ⟨workers, submissions⟩
    · split
      · exact ⟨workers, submissions⟩
      · exact ⟨workers, submissions⟩

theorem applyReversals_jobs (before : Store) (reversed : List Reversal)
    (valid : ∀ reversal ∈ reversed, reversal.Valid) :
    JobsMove s event before.jobs (reversed.foldl applyReversal before).jobs := by
  induction reversed generalizing before with
  | nil => exact .refl _
  | cons reversal reversed ih =>
    have first : JobsMove s event before.jobs (applyReversal before reversal).jobs :=
      applyReversal_jobs (valid reversal List.mem_cons_self)
    exact first.trans (ih _ fun later member => valid later (List.mem_cons_of_mem _ member))

theorem applyReversals_rest (s : Store) (reversed : List Reversal) :
    (reversed.foldl applyReversal s).workers = s.workers ∧
      (reversed.foldl applyReversal s).submissions = s.submissions := by
  induction reversed generalizing s with
  | nil => exact ⟨rfl, rfl⟩
  | cons reversal reversed ih =>
    obtain ⟨workers, submissions⟩ := applyReversal_rest s reversal
    obtain ⟨laterWorkers, laterSubmissions⟩ := ih (applyReversal s reversal)
    exact ⟨laterWorkers.trans workers, laterSubmissions.trans submissions⟩

/-- A mint adds a code, and no gift letter. -/
theorem mintChainCode_giftLetters {now : Time} {campaigns : Gift.Campaigns} {t tables : Gift.Tables}
    {gift : GiftLetter} {letterId : LetterId} {mailsAt : Option Time} {generated : List ChainCode}
    (minted : Gift.mintChainCode cfg now campaigns t gift letterId mailsAt generated = .ok tables) :
    tables.giftLetters = t.giftLetters := by
  unfold Gift.mintChainCode Gift.Tables.insertCode at minted
  dsimp only at minted
  split at minted
  · cases minted
  · split at minted
    · split at minted
      · cases minted
      · cases minted
        rfl
    · cases minted

theorem mintForGift_funds {letterId : LetterId} {mail : NewMail}
    (minted : mintForGift cfg s letterId mail = .ok s') : Funds cfg letterId False s s' := by
  unfold mintForGift at minted
  split at minted
  · cases minted
    exact .refl
  · split at minted
    · cases minted
      exact .refl
    · split at minted
      · cases minted
      · rename_i tables mint
        have same := mintChainCode_giftLetters mint
        have codes : s.withGiftTables tables = { s with giftCodes := tables.giftCodes } := by
          unfold Store.withGiftTables
          rw [same]
          rfl
        cases minted
        rw [codes]
        exact .single (.codes _)

theorem queueMail_ok {letter : Letter} {mail : NewMail} (queued : queueMail cfg s letter mail = .ok s') :
    ∃ (freshJob : mail.jobId ∉ s.jobs.rows.map LetterJob.jobId)
      (freshLetter : (queuedLetter s letter mail).letterId ∉ s.letters.rows.map MailItem.letterId),
      Funds cfg letter.letterId False { s with
        letters := s.letters.insert (queuedLetter s letter mail) freshLetter
        jobs := s.jobs.insert (newJob s.now mail.jobId letter.letterId mail.mailOn mail.maxAttempts)
          freshJob } s' := by
  unfold queueMail at queued
  split at queued
  · rename_i freshJob
    split at queued
    · rename_i freshLetter
      refine ⟨freshJob, by rwa [queuedLetter_letterId], ?_⟩
      dsimp only at queued
      split at queued
      · exact mintForGift_funds queued
      · cases queued
        exact .refl
    · cases queued
  · cases queued

/-- A committed transaction of commerce: its reversals, and then any letter it queued. -/
theorem commerceStep_ok {commerce : Commerce.Event} {mail : NewMail}
    (committed : commerceStep cfg s commerce mail = .ok s') :
    outboxOwns commerce = false ∧ ∃ after, Commerce.step cfg s.commerce commerce = .ok after ∧
      ((newLetter s.commerce after = none ∧
          s' = (reversals cfg s.commerce commerce).foldl applyReversal { s with commerce := after }) ∨
        ∃ letter, newLetter s.commerce after = some letter ∧
          queueMail cfg ((reversals cfg s.commerce commerce).foldl applyReversal { s with commerce := after })
            letter mail = .ok s') := by
  unfold commerceStep at committed
  split at committed
  · cases committed
  · rename_i free
    refine ⟨by simpa using free, ?_⟩
    split at committed
    · cases committed
    · rename_i after stepped
      refine ⟨after, stepped, ?_⟩
      dsimp only at committed
      split at committed
      · rename_i none
        cases committed
        exact .inl ⟨none, rfl⟩
      · rename_i letter new
        exact .inr ⟨letter, new, committed⟩

theorem commerceStep_jobs {commerce : Commerce.Event} {mail : NewMail}
    (committed : commerceStep cfg s commerce mail = .ok s') : JobsMove s event s.jobs s'.jobs := by
  obtain ⟨-, after, -, ⟨-, rfl⟩ | ⟨letter, -, queued⟩⟩ := commerceStep_ok committed
  · exact applyReversals_jobs { s with commerce := after } _ fun _ => reversals_valid
  · have reversed : JobsMove s event s.jobs _ :=
      applyReversals_jobs { s with commerce := after } (reversals cfg s.commerce commerce) fun _ => reversals_valid
    obtain ⟨freshJob, _, funds⟩ := queueMail_ok queued
    rw [funds.jobs]
    exact reversed.trans (.insert freshJob)

theorem commerceStep_rest {commerce : Commerce.Event} {mail : NewMail}
    (committed : commerceStep cfg s commerce mail = .ok s') :
    s'.workers = s.workers ∧ s'.submissions = s.submissions := by
  obtain ⟨-, after, -, ⟨-, rfl⟩ | ⟨letter, -, queued⟩⟩ := commerceStep_ok committed
  · exact applyReversals_rest { s with commerce := after } _
  · obtain ⟨workers, submissions⟩ := applyReversals_rest { s with commerce := after }
      (reversals cfg s.commerce commerce)
    obtain ⟨_, _, funds⟩ := queueMail_ok queued
    exact ⟨funds.workers.trans workers, funds.submissions.trans submissions⟩

/-! The dispatches. -/

/-- Where one dispatch can go on its own. -/
inductive Advance : Phase → Phase → Prop
  | faulted : Advance .claimed .faulted
  | marked : Advance .claimed .marked
  | refused : Advance .marked .rejected
  | called : Advance .marked .called
  | accepted : Advance .called .accepted
  | rejected : Advance .called .rejected
  | uncertain {phase : Phase} (past : phase ≠ .claimed) (caught : phase ≠ .faulted) : Advance phase .uncertain
  | recovering : Advance .accepted .recovering

/-- A dispatch gets past the marker by the marker. -/
theorem Advance.start {before after : Phase} (on : Advance before after) :
    after = .faulted ∨ after = .marked ∨ before ≠ .claimed ∧ before ≠ .faulted := by
  cases on with
  | faulted => exact .inl rfl
  | marked => exact .inr (.inl rfl)
  | uncertain past caught => exact .inr (.inr ⟨past, caught⟩)
  | _ => exact .inr (.inr ⟨by simp, by simp⟩)

/-- What the marker found and wrote when it let a dispatch go on. -/
def MarksJob (s : Store) (event : Event) (jobs : Table LetterJob.jobId) (worker : Worker) : Prop :=
  event = .dispatch worker .marks ∧ worker.phase = .claimed ∧
    ∃ job, s.jobs.find worker.claim.jobId = some job ∧ stillClaimed job worker.claim = true ∧
      s.heldForFunding job = false ∧
      jobs.find worker.claim.jobId = some { job with providerOutcome := .dispatching }

/-- A dispatch in progress after a step: one of those before it, gone on, or a new one. -/
inductive WorkerMove (s : Store) (event : Event) (jobs : Table LetterJob.jobId) : Worker → Prop
  | stays {worker : Worker} (member : worker ∈ s.workers) : WorkerMove s event jobs worker
  | advances {worker : Worker} {phase : Phase} (member : worker ∈ s.workers)
      (on : Advance worker.phase phase) (marks : phase = .marked → MarksJob s event jobs worker) :
      WorkerMove s event jobs { worker with phase }
  | claims {job : LetterJob} (here : event = .claim job.jobId) (found : s.jobs.find job.jobId = some job)
      (candidate : claimable s job = true) (after : jobs.find job.jobId = some (claimedJob s.now job)) :
      WorkerMove s event jobs { claim := claimedJob s.now job, phase := .claimed }
  | sweeps {job : LetterJob} (found : s.jobs.find job.jobId = some job) (taken : job.status = .processing)
      (dispatching : job.providerOutcome = .dispatching) (after : jobs.find job.jobId = some job) :
      WorkerMove s event jobs { claim := job, phase := .uncertain }
  | givesUp {job : LetterJob} (found : s.jobs.find job.jobId = some job)
      (spent : spentUndispatched s.now job = true) (free : s.leftForOperator job = false)
      (after : jobs.find job.jobId = some job) : WorkerMove s event jobs { claim := job, phase := .faulted }

theorem advance_workers {before : Store} (workers : before.workers = s.workers) {worker : Worker} {phase : Phase}
    (member : worker ∈ s.workers) (on : Advance worker.phase phase)
    (marks : phase = .marked → MarksJob s event before.jobs worker) :
    ∀ other ∈ (before.advance worker phase).workers, WorkerMove s event before.jobs other := by
  intro other inList
  rcases List.mem_cons.mp inList with rfl | old
  · exact .advances member on marks
  · rw [workers] at old
    exact .stays (List.mem_of_mem_erase old)

theorem retire_workers {before : Store} (workers : before.workers = s.workers) (worker : Worker) :
    ∀ other ∈ (before.retire worker).workers, WorkerMove s event before.jobs other := by
  intro other inList
  rw [show (before.retire worker).workers = s.workers.erase worker by rw [← workers]; rfl] at inList
  exact .stays (List.mem_of_mem_erase inList)

theorem settleDispatch_rest {worker : Worker} {delay : Time} (settled : settleDispatch cfg s worker delay = .ok s') :
    s'.workers = s.workers ∧ s'.submissions = s.submissions := by
  unfold settleDispatch at settled
  split at settled
  · rcases failBeforeDispatch_ok settled with rfl | ⟨_, _, _, _, _, ⟨-, rfl⟩ | ⟨-, funds⟩⟩
    · exact ⟨rfl, rfl⟩
    · exact ⟨rfl, rfl⟩
    · exact ⟨funds.workers, funds.submissions⟩
  · obtain ⟨_, _, ⟨rfl, -⟩ | ⟨_, _, _, _, funds⟩⟩ := completeJob_ok cfg settled
    · exact ⟨rfl, rfl⟩
    · exact ⟨funds.workers, funds.submissions⟩
  · rcases failOrRescheduleJob_ok settled with rfl | ⟨_, _, _, _, _, _, funds⟩
    · exact ⟨rfl, rfl⟩
    · exact ⟨funds.workers, funds.submissions⟩
  · have funds := holdAmbiguousDispatch_ok cfg settled
    rw [funds.workers, funds.submissions, modifyLetter_workers, modifyLetter_submissions, modifyJob_workers,
      modifyJob_submissions]
    exact ⟨rfl, rfl⟩
  · cases settled

theorem settleDispatch_jobs {worker : Worker} {delay : Time} (here : event = .dispatch worker (.settles delay))
    (member : worker ∈ s.workers) (settled : settleDispatch cfg s worker delay = .ok s') : JobsMove s event s.jobs s'.jobs := by
  unfold settleDispatch at settled
  split at settled
  · rename_i phase
    rcases failBeforeDispatch_ok settled with rfl | ⟨job, _, found, _, owned, rest⟩
    · exact .refl _
    · have same : worker.claim.jobId = job.jobId := (Table.find_key found).symm
      obtain ⟨taken, -, undispatched⟩ := stillClaimed_iff.mp owned
      rcases rest with ⟨held, rfl⟩ | ⟨free, funds⟩
      · exact .put found rfl (.putBack taken undispatched held)
      · rw [funds.jobs]
        exact .put found rfl (.undispatched delay member same phase owned free)
  · rename_i phase
    obtain ⟨job, found, ⟨rfl, -⟩ | ⟨_, _, eligible, _, funds⟩⟩ := completeJob_ok cfg settled
    · exact .refl _
    · rw [funds.jobs]
      exact .put found rfl (.completed member (Table.find_key found).symm phase eligible)
  · rename_i phase
    rcases failOrRescheduleJob_ok settled with rfl | ⟨job, _, found, _, taken, dispatching, funds⟩
    · exact .refl _
    · rw [funds.jobs]
      exact .put found rfl (.rejected member (Table.find_key found).symm phase taken dispatching)
  · rename_i phase
    have funds := holdAmbiguousDispatch_ok cfg settled
    rw [funds.jobs, modifyLetter_jobs]
    unfold Store.modifyJob
    split
    · exact .refl _
    · rename_i job found
      exact .put found (ambiguousJob_jobId job) (.quarantined here found member (Table.find_key found).symm phase)
  · cases settled

/-- One step of a dispatch. -/
theorem processClaimedJob_moves {worker : Worker} {dispatch : DispatchEvent}
    (here : event = .dispatch worker dispatch) (stepped : processClaimedJob cfg s worker dispatch = .ok s') :
    JobsMove s event s.jobs s'.jobs ∧ (∀ other ∈ s'.workers, WorkerMove s event s'.jobs other) ∧
      (s'.submissions = s.submissions ∨
        worker ∈ s.workers ∧ worker.phase = .marked ∧
          s'.submissions = worker.claim.jobId :: s.submissions) := by
  unfold processClaimedJob at stepped
  split at stepped
  · cases stepped
  · rename_i present
    have member : worker ∈ s.workers := by simpa using present
    cases dispatch with
    | crashes =>
      cases stepped
      exact ⟨.refl _, retire_workers rfl worker, .inl rfl⟩
    | faults =>
      dsimp only at stepped
      split at stepped
      · cases stepped
      · rename_i phase caught
        cases stepped
        refine ⟨.refl _, advance_workers rfl member ?_ ?_, .inl rfl⟩
        · cases at_ : worker.phase with
          | claimed => rw [at_] at caught; cases caught; exact .faulted
          | accepted => rw [at_] at caught; cases caught; exact .recovering
          | marked | called | rejected => rw [at_] at caught; cases caught; exact .uncertain (by simp) (by simp)
          | faulted | recovering | uncertain => rw [at_] at caught; cases caught
        · intro marked
          subst marked
          cases at_ : worker.phase <;> rw [at_] at caught <;> cases caught
    | marks =>
      dsimp only at stepped
      split at stepped
      · cases stepped
      · rename_i phase
        have claimed : worker.phase = .claimed := by simpa using phase
        obtain ⟨⟨marked, dispatched⟩, mark, rest⟩ := bind_eq_ok.mp stepped
        obtain ⟨job, letter, found, -, -, owned, -, -, ⟨rfl, held, rfl⟩ | ⟨rfl, free, rfl⟩⟩ :=
          markProviderDispatch_ok mark
        · obtain ⟨taken, -, undispatched⟩ := stillClaimed_iff.mp owned
          cases rest
          have stays : (s.setJob (putBack job)).workers = s.workers := rfl
          exact ⟨.put found rfl (.putBack taken undispatched held), retire_workers stays worker, .inl rfl⟩
        · cases rest
          have stays : ((s.setJob { job with providerOutcome := .dispatching }).setLetter
              { letter with status := .processing }).workers = s.workers := rfl
          refine ⟨.put found rfl (.marked here member (Table.find_key found).symm claimed owned free),
            advance_workers stays member (claimed ▸ .marked) fun _ =>
              ⟨here, claimed, job, found, owned, free, ?_⟩, .inl rfl⟩
          exact Table.find_put_over found rfl
    | submits provider =>
      dsimp only at stepped
      split at stepped
      · cases stepped
      · rename_i phase
        have marked : worker.phase = .marked := by simpa using phase
        unfold submitToProvider at stepped
        split at stepped
        · cases stepped
        · split at stepped
          · cases stepped
            exact ⟨.refl _, advance_workers rfl member (marked ▸ .refused) (fun same => by cases same), .inl rfl⟩
          · cases stepped
            exact ⟨.refl _, advance_workers rfl member (marked ▸ .called) (fun same => by cases same),
              .inr ⟨member, marked, rfl⟩⟩
    | answered answer =>
      dsimp only at stepped
      split at stepped
      · cases stepped
      · rename_i phase
        have called : worker.phase = .called := by simpa using phase
        cases stepped
        refine ⟨.refl _, advance_workers rfl member ?_ ?_, .inl rfl⟩
        · cases answer with
          | accepted => exact called ▸ .accepted
          | definiteRejection => exact called ▸ .rejected
          | ambiguous => exact .uncertain (by simp [called]) (by simp [called])
        · intro same
          cases answer <;> cases same
    | settles delay =>
      dsimp only at stepped
      split at stepped
      · rename_i recovering
        cases stepped
        split
        · exact ⟨.refl _, retire_workers rfl worker, .inl rfl⟩
        · exact ⟨.refl _, advance_workers rfl member (.uncertain (by simp [recovering]) (by simp [recovering]))
            (fun same => by cases same), .inl rfl⟩
      · obtain ⟨settled, done, rest⟩ := bind_eq_ok.mp stepped
        cases rest
        obtain ⟨workers, submissions⟩ := settleDispatch_rest done
        have jobs : JobsMove s event s.jobs settled.jobs := settleDispatch_jobs here member done
        exact ⟨jobs, retire_workers workers worker, .inl submissions⟩

/-- What any step can do. -/
structure StepMoves (s : Store) (event : Event) (s' : Store) : Prop where
  jobs : JobsMove s event s.jobs s'.jobs
  workers : ∀ worker ∈ s'.workers, WorkerMove s event s'.jobs worker
  submissions : s'.submissions = s.submissions ∨
    ∃ worker provider, event = .dispatch worker (.submits provider) ∧ worker ∈ s.workers ∧
      worker.phase = .marked ∧ s'.submissions = worker.claim.jobId :: s.submissions

theorem staying (same : s'.workers = s.workers) : ∀ worker ∈ s'.workers, WorkerMove s event s'.jobs worker :=
  fun _ member => .stays (same ▸ member)

theorem step_moves (committed : step cfg s event = .ok s') : StepMoves s event s' := by
  cases event with
  | commerce event mail =>
    obtain ⟨workers, submissions⟩ := commerceStep_rest committed
    exact ⟨commerceStep_jobs committed, staying workers, .inl submissions⟩
  | redeemCode userId sameAddress code =>
    simp only [step, redeemCode] at committed
    split at committed
    · cases committed
    · cases committed
      exact ⟨.refl _, staying rfl, .inl rfl⟩
  | claim jobId =>
    obtain ⟨job, found, candidate, rfl⟩ := claimJob_ok committed
    cases Table.find_key found
    refine ⟨.put found rfl (.claimed rfl candidate), fun worker member => ?_, .inl rfl⟩
    rcases List.mem_cons.mp member with rfl | old
    · exact .claims rfl found candidate (Table.find_put_over found rfl)
    · exact .stays old
  | dispatch worker dispatch =>
    obtain ⟨jobs, workers, submissions⟩ := processClaimedJob_moves rfl committed
    refine ⟨jobs, workers, submissions.imp_right ?_⟩
    rintro ⟨member, marked, grown⟩
    cases dispatch with
    | submits provider => exact ⟨worker, provider, rfl, member, marked, grown⟩
    | _ =>
      have unmarked : worker.phase = .marked := marked
      exfalso
      have called : s'.submissions = s.submissions := by
        simp only [step, processClaimedJob, member, not_true_eq_false, if_false, marked, Phase.afterFault] at committed
        first
          | (cases committed; rfl)
          | (simp [settleDispatch, bind, Except.bind, marked] at committed)
      rw [called] at grown
      exact absurd (congrArg List.length grown) (by simp)
  | sweepDispatched jobId =>
    simp only [step, sweepDispatched] at committed
    split at committed
    · cases committed
    · rename_i job found
      split at committed
      · rename_i stale
        cases committed
        refine ⟨.refl _, fun worker member => ?_, .inl rfl⟩
        rcases List.mem_cons.mp member with rfl | old
        · have here : s.jobs.find job.jobId = some job := Table.find_of_mem (Table.find_mem found)
          exact .sweeps here stale.1 stale.2.1 here
        · exact .stays old
      · cases committed
  | sweepPutBack =>
    cases committed
    have back : JobsMove s .sweepPutBack s.jobs (sweepPutBack s).jobs := by
      unfold sweepPutBack
      refine JobsMove.update (by intro; rfl) fun job selected => ?_
      simp only [spentUndispatched, Bool.and_eq_true, beq_iff_eq] at selected
      refine .putBack selected.1.1.1.1 selected.1.1.1.2 ?_
      have left := selected.2
      simp only [Store.leftForOperator, Bool.or_eq_true, Bool.and_eq_true] at left
      simp only [Store.heldForFunding, Bool.or_eq_true]
      exact left.imp_left And.right
    exact ⟨back, staying rfl, .inl rfl⟩
  | sweepUndispatched jobId =>
    simp only [step, sweepUndispatched] at committed
    split at committed
    · cases committed
    · rename_i job found
      split at committed
      · rename_i spent
        simp only [Bool.and_eq_true, Bool.not_eq_true'] at spent
        cases committed
        refine ⟨.refl _, fun worker member => ?_, .inl rfl⟩
        rcases List.mem_cons.mp member with rfl | old
        · have here : s.jobs.find job.jobId = some job := Table.find_of_mem (Table.find_mem found)
          exact .givesUp here spent.1 spent.2 here
        · exact .stays old
      · cases committed
  | cancelScheduled letterId userId busy =>
    cases committed
    rcases cancelScheduledMail_ok cfg s letterId userId busy with
      same | ⟨job, letter, atJob, -, -, pending, undispatched, funds⟩
    · rw [same]
      exact ⟨.refl _, staying rfl, .inl rfl⟩
    · refine ⟨?_, staying funds.workers, .inl funds.submissions⟩
      rw [funds.jobs]
      exact .put (jobOfLetter_find atJob).1 rfl (.cancelled job.operatorResolution pending undispatched)
  | cancelLeft jobId expectedUserId =>
    obtain ⟨job, letter, found, -, -, -, -, -, pending, undispatched, rfl⟩ := cancelLeftLetterJob_ok committed
    have funds : Funds cfg _ _ _ _ := returnPrepaidCredits_funds
      (cancelMail s { job with operatorResolution := some .operatorCancelled } letter) job.letterId
    refine ⟨?_, staying funds.workers, .inl funds.submissions⟩
    rw [funds.jobs]
    exact .put found rfl (.cancelled (some .operatorCancelled) pending undispatched)
  | resolve jobId expectedUserId decision provider =>
    obtain ⟨job, letter, found, -, -, held, ambiguous, owed, funds⟩ := resolveAmbiguousLetterJob_ok committed
    cases Table.find_key found
    refine ⟨?_, staying funds.workers, .inl funds.submissions⟩
    rw [funds.jobs]
    exact .put found (resolvedJob_jobId _ _ _) (.resolved rfl held ambiguous owed)
  | retry jobId expectedUserId =>
    obtain ⟨job, letter, found, -, failed, definite, -, owed, funds⟩ := retryLetterJob_ok cfg committed
    cases Table.find_key found
    refine ⟨?_, staying funds.workers, .inl funds.submissions⟩
    rw [funds.jobs]
    exact .put found rfl (.requeued rfl failed definite owed)
  | release jobId expectedUserId =>
    obtain ⟨job, letter, found, -, -, pending, undispatched, rfl⟩ := releaseHeldLetterJob_ok committed
    cases Table.find_key found
    exact ⟨.put found rfl (.released rfl pending undispatched), staying rfl, .inl rfl⟩
  | providerCancelled letterId =>
    simp only [step, failProviderCancelledLetter] at committed
    split at committed
    · cases committed
    · split at committed
      · cases committed
      · cases committed
        split
        · exact ⟨.refl _, staying rfl, .inl rfl⟩
        · rename_i letter _ _ _
          have funds : Funds cfg _ _ _ _ :=
            returnPrepaidCredits_funds (s.setLetter { letter with status := .failed }) letterId
          refine ⟨?_, staying funds.workers, .inl funds.submissions⟩
          rw [funds.jobs]
          exact .refl _
  | syncStatus letterId status =>
    simp only [step, syncStatus] at committed
    split at committed
    · cases committed
    · split at committed
      · cases committed
      · cases committed
        exact ⟨.refl _, staying rfl, .inl rfl⟩
  | redact letterId redacted =>
    cases committed
    refine ⟨?_, staying (modifyLetter_workers _ _ _), .inl (modifyLetter_submissions _ _ _)⟩
    rw [redactLetter, modifyLetter_jobs]
    exact .refl _

/-- What new jobs have and every change of a job preserves, all jobs keep. -/
theorem StepMoves.every {I : LetterJob → Prop} (step : StepMoves s event s') (holds : ∀ job ∈ s.jobs.rows, I job)
    (new : ∀ now jobId letterId notBefore maxAttempts, I (newJob now jobId letterId notBefore maxAttempts))
    (preserved : ∀ before after, I before → JobMove s event before after → I after) :
    ∀ job ∈ s'.jobs.rows, I job := by
  intro job member
  have found := Table.find_of_mem member
  cases atBefore : s.jobs.find job.jobId with
  | none =>
    obtain ⟨now, letterId, notBefore, maxAttempts, moves⟩ := step.jobs.added _ _ atBefore found
    exact moves.invariant (new now job.jobId letterId notBefore maxAttempts) fun _ _ _ => preserved _ _
  | some before =>
    obtain ⟨after, atAfter, moves⟩ := step.jobs.moved _ _ atBefore
    rw [found] at atAfter
    cases atAfter
    exact moves.invariant (holds before (Table.find_mem atBefore)) fun _ _ _ => preserved _ _

end LetterIRL.Mail
