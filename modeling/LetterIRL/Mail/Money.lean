import LetterIRL.Mail.Paid

namespace LetterIRL.Mail
open Lib Ledger Commerce Relation

/-! What a step does with what paid for mail, and when it pays a letter back. -/

variable {cfg : Config} {s s' : Store} {event : Event}

/-- A step ended the letter's mail; `jobs` are the jobs it left. -/
inductive EndsMail (s : Store) (jobs : Table LetterJob.jobId) (letterId : LetterId) : Prop
  | dispatch {worker : Worker} {job : LetterJob} (member : worker ∈ s.workers)
      (named : worker.claim.letterId = letterId) (after : jobs.find worker.claim.jobId = some job)
      (failed : job.status = .failed) (definite : job.providerOutcome = .definiteFailure) :
      EndsMail s jobs letterId
  | undispatched {worker : Worker} {job : LetterJob} (member : worker ∈ s.workers)
      (named : worker.claim.letterId = letterId) (phase : worker.phase = .faulted)
      (found : s.jobs.find worker.claim.jobId = some job) (owned : stillClaimed job worker.claim = true)
      (spent : worker.claim.maxAttempts ≤ worker.claim.attempts) {delay : Time}
      (after : jobs.find worker.claim.jobId = some (undispatchedJob s.now delay false job)) :
      EndsMail s jobs letterId
  | ended {jobId : JobId} {job : LetterJob} (after : jobs.find jobId = some job) (named : job.letterId = letterId)
      (status : job.status = .cancelled ∨ job.status = .failed ∧ job.providerOutcome = .definiteFailure) :
      EndsMail s jobs letterId
  | lost {letter : MailItem} (found : s.letters.find letterId = some letter) (tracked : letter.tracked = true) :
      EndsMail s jobs letterId

/-- The letter it left has failed or is cancelled, or it was held already while its job was claimed. -/
def EndsLetter (s : Store) (letters : Table MailItem.letterId) (letterId : LetterId) : Prop :=
  ∀ letter, letters.find letterId = some letter →
    (letter.status = .failed ∨ letter.status = .cancelled) ∨
      letter.status = .held ∧ s.letters.find letterId = some letter ∧
        ∃ worker ∈ s.workers, worker.claim.letterId = letterId ∧
          ∃ job, s.jobs.find worker.claim.jobId = some job ∧ job.status = .processing ∧
            job.providerOutcome = .notDispatched

/-- A step of the mail changed commerce for one letter, which it pays back only where it ends its mail. -/
def SettlesFunds (cfg : Config) (s s' : Store) : Prop :=
  ∃ middle letterId, Funds cfg letterId (EndsMail s s'.jobs letterId ∧ EndsLetter s s'.letters letterId) middle s' ∧
    middle.commerce = s.commerce ∧ middle.giftCodes = s.giftCodes

/-- A transaction of commerce, with what it reversed, paid no letter back. -/
def CommerceFunds (cfg : Config) (s : Store) (commerce : Commerce.Event) (s' : Store) : Prop :=
  ∃ after middle letterId, Funds cfg letterId False middle s' ∧ outboxOwns commerce = false ∧
    Commerce.step cfg s.commerce commerce = .ok after ∧
    middle.commerce = ((reversals cfg s.commerce commerce).foldl applyReversal { s with commerce := after }).commerce

/-- How a step changed commerce and the gift tables. -/
inductive StepMoney (cfg : Config) (s : Store) (event : Event) (s' : Store) : Prop
  | commerce {commerce : Commerce.Event} {mail : NewMail} (here : event = .commerce commerce mail)
      (funds : CommerceFunds cfg s commerce s')
  | redeems {userId : UserId} {code : ChainCode} {tables : Gift.Tables} (sameAddress : Bool)
      (redeemed : Gift.redeemChainCode cfg s.now s.giftTables userId sameAddress code = .ok tables)
      (after : s' = s.withGiftTables tables)
  | funds (settles : SettlesFunds cfg s s')

theorem SettlesFunds.nothing (commerce : s'.commerce = s.commerce) (codes : s'.giftCodes = s.giftCodes) :
    SettlesFunds cfg s s' := ⟨s', 0, .refl, commerce, codes⟩

/-- The dispatches in progress do not matter to it. -/
theorem Funds.beside {letterId : LetterId} {pays : Prop} (funds : Funds cfg letterId pays s s')
    (workers : List Worker) (submissions : List JobId) :
    Funds cfg letterId pays { s with workers, submissions } { s' with workers, submissions } :=
  funds.lift (fun s => { s with workers, submissions }) fun _ _ move => by
    cases move with
    | order funds found shift updated => exact .order funds found shift updated
    | codes giftCodes => exact .codes giftCodes
    | credits paid => exact .credits paid
    | gift cause paid => exact .gift cause paid

theorem find_setJob {job changed : LetterJob} {jobId : JobId} (found : s.jobs.find jobId = some job)
    (same : changed.jobId = job.jobId) : (s.setJob changed).jobs.find jobId = some changed :=
  Table.find_put_over found same

/-- A letter written failed or cancelled is left so. -/
theorem EndsLetter.put {letterId : LetterId} {letter changed : MailItem}
    (found : s.letters.find letterId = some letter) (same : changed.letterId = letter.letterId)
    (ended : changed.status = .failed ∨ changed.status = .cancelled) :
    EndsLetter s (s.letters.put changed) letterId := by
  intro after there
  rw [Table.find_put_over found same] at there
  cases there
  exact .inl ended

/-- A letter not failed for good stays held, or cancelled. -/
theorem EndsLetter.undispatched {worker : Worker} {job : LetterJob} {letter : MailItem} (member : worker ∈ s.workers)
    (atLetter : s.letters.find worker.claim.letterId = some letter)
    (found : s.jobs.find worker.claim.jobId = some job) (taken : job.status = .processing)
    (undispatched : job.providerOutcome = .notDispatched) :
    EndsLetter s (s.letters.put (undispatchedLetter false letter)) worker.claim.letterId := by
  intro after there
  rw [Table.find_put_over atLetter (undispatchedLetter_letterId _ _)] at there
  cases there
  unfold undispatchedLetter
  split
  · rename_i stays
    rcases stays with held | cancelled
    · exact .inr ⟨held, atLetter, worker, member, rfl, job, found, taken, undispatched⟩
    · exact .inl (.inr cancelled)
  · exact .inl (.inl rfl)

theorem commerceStep_money {commerce : Commerce.Event} {mail : NewMail}
    (committed : commerceStep cfg s commerce mail = .ok s') : CommerceFunds cfg s commerce s' := by
  obtain ⟨free, after, stepped, ⟨-, rfl⟩ | ⟨letter, new, queued⟩⟩ := commerceStep_ok committed
  · exact ⟨after, _, 0, .refl, free, stepped, rfl⟩
  · obtain ⟨freshJob, freshLetter, funds⟩ := queueMail_ok queued
    exact ⟨after, _, _, funds, free, stepped, rfl⟩

theorem settleDispatch_money {worker : Worker} {delay : Time} (member : worker ∈ s.workers)
    (settled : settleDispatch cfg s worker delay = .ok s') : SettlesFunds cfg s s' := by
  unfold settleDispatch at settled
  split at settled
  · rename_i phase
    rcases failBeforeDispatch_ok settled with rfl | ⟨job, letter, found, atLetter, owned, ⟨-, rfl⟩ | ⟨-, funds⟩⟩
    · exact .nothing rfl rfl
    · exact .nothing rfl rfl
    · refine ⟨_, _, funds.mono fun spent => ?_, rfl, rfl⟩
      have after : s'.jobs.find worker.claim.jobId = some (undispatchedJob s.now delay false job) := by
        rw [funds.jobs]
        have used : decide (worker.claim.attempts < worker.claim.maxAttempts) = false := by simpa using spent
        rw [used]
        exact find_setJob found rfl
      refine ⟨.undispatched member rfl phase found owned spent after, ?_⟩
      rw [funds.letters]
      have used : decide (worker.claim.attempts < worker.claim.maxAttempts) = false := by simpa using spent
      rw [used]
      obtain ⟨taken, -, undispatched⟩ := stillClaimed_iff.mp owned
      exact .undispatched member atLetter found taken undispatched
  · obtain ⟨job, found, ⟨rfl, -⟩ | ⟨letter, atLetter, -, status, funds⟩⟩ := completeJob_ok cfg settled
    · exact .nothing rfl rfl
    · exact ⟨_, _, funds.mono False.elim, rfl, rfl⟩
  · rcases failOrRescheduleJob_ok settled with rfl | ⟨job, letter, found, atLetter, taken, -, funds⟩
    · exact .nothing rfl rfl
    · refine ⟨_, _, funds.mono fun _ => ?_, rfl, rfl⟩
      rw [funds.jobs, funds.letters]
      exact ⟨.dispatch member rfl (find_setJob found rfl) rfl rfl, .put atLetter rfl (.inl rfl)⟩
  · have funds := holdAmbiguousDispatch_ok cfg settled
    refine ⟨_, _, funds.mono False.elim, ?_, ?_⟩
    · rw [modifyLetter_commerce, modifyJob_commerce]
    · unfold Store.modifyLetter Store.modifyJob
      split <;> split <;> rfl
  · cases settled

theorem step_money (committed : step cfg s event = .ok s') : StepMoney cfg s event s' := by
  cases event with
  | commerce commerce mail => exact .commerce rfl (commerceStep_money committed)
  | redeemCode userId sameAddress code =>
    simp only [step, redeemCode] at committed
    split at committed
    · cases committed
    · rename_i tables redeemed
      exact .redeems sameAddress redeemed (Except.ok.inj committed).symm
  | claim jobId =>
    obtain ⟨job, -, -, rfl⟩ := claimJob_ok committed
    exact .funds (.nothing rfl rfl)
  | dispatch worker dispatch =>
    obtain ⟨member, written, dispatches, workers, submissions, rfl⟩ := processClaimedJob_ok committed
    cases dispatches with
    | nothing => exact .funds (.nothing rfl rfl)
    | marks phase mark =>
      obtain ⟨job, letter, -, -, -, -, -, -, ⟨-, -, rfl⟩ | ⟨-, -, rfl⟩⟩ := markProviderDispatch_ok mark
      · exact .funds (.nothing rfl rfl)
      · exact .funds (.nothing rfl rfl)
    | settles delay here done =>
      obtain ⟨middle, letterId, funds, commerce, codes⟩ := settleDispatch_money member done
      exact .funds ⟨_, _, funds.beside workers submissions, commerce, codes⟩
  | sweepDispatched jobId =>
    simp only [step, sweepDispatched] at committed
    split at committed
    · cases committed
    · split at committed
      · cases committed
        exact .funds (.nothing rfl rfl)
      · cases committed
  | sweepPutBack =>
    cases committed
    exact .funds (.nothing rfl rfl)
  | sweepUndispatched jobId =>
    simp only [step, sweepUndispatched] at committed
    split at committed
    · cases committed
    · split at committed
      · cases committed
        exact .funds (.nothing rfl rfl)
      · cases committed
  | cancelScheduled letterId userId busy =>
    cases committed
    rcases cancelScheduledMail_ok cfg s letterId userId busy with
      same | ⟨job, letter, atJob, atLetter, queued, -, -, funds⟩
    · rw [same]
      exact .funds (.nothing rfl rfl)
    · obtain ⟨found, named⟩ := jobOfLetter_find atJob
      refine .funds ⟨_, _, funds.mono fun _ => ?_, rfl, rfl⟩
      rw [funds.jobs, funds.letters]
      have after : (cancelMail s job letter).jobs.find job.jobId =
          some { job with status := .cancelled, lockedAt := none } := find_setJob found rfl
      exact ⟨.ended after named (.inl rfl), .put atLetter rfl (.inr rfl)⟩
  | cancelLeft jobId expectedUserId =>
    obtain ⟨job, letter, found, atLetter, -, queued, -, -, -, -, rfl⟩ := cancelLeftLetterJob_ok committed
    have funds : Funds cfg _ _ _ _ := returnPrepaidCredits_funds
      (cancelMail s { job with operatorResolution := some .operatorCancelled } letter) job.letterId
    refine .funds ⟨_, _, funds.mono fun _ => ?_, rfl, rfl⟩
    rw [funds.jobs, funds.letters]
    have after : (cancelMail s { job with operatorResolution := some .operatorCancelled } letter).jobs.find jobId =
        some { job with status := .cancelled, lockedAt := none, operatorResolution := some .operatorCancelled } :=
      find_setJob found rfl
    exact ⟨.ended after rfl (.inl rfl), .put atLetter rfl (.inr rfl)⟩
  | resolve jobId expectedUserId decision provider =>
    obtain ⟨job, letter, found, atLetter, held, -, -, -, funds⟩ := resolveAmbiguousLetterJob_ok committed
    refine .funds ⟨_, _, funds.mono fun rejected => ?_, rfl, rfl⟩
    subst rejected
    rw [funds.jobs, funds.letters]
    have after : ((s.setLetter (resolvedLetter .rejected letter)).setJob (resolvedJob s.now .rejected job)).jobs.find
        jobId = some (resolvedJob s.now .rejected job) := Table.find_put_over found rfl
    exact ⟨.ended after rfl (.inr ⟨rfl, rfl⟩), .put atLetter rfl (.inl rfl)⟩
  | retry jobId expectedUserId =>
    obtain ⟨job, letter, -, atLetter, -, -, failed, -, funds⟩ := retryLetterJob_ok cfg committed
    exact .funds ⟨_, _, funds.mono False.elim, rfl, rfl⟩
  | release jobId expectedUserId =>
    obtain ⟨job, letter, -, -, -, -, -, rfl⟩ := releaseHeldLetterJob_ok committed
    exact .funds (.nothing rfl rfl)
  | providerCancelled letterId =>
    simp only [step, failProviderCancelledLetter] at committed
    split at committed
    · cases committed
    · rename_i letter found
      split at committed
      · cases committed
      · rename_i guard
        simp only [Bool.or_eq_true, Bool.not_eq_true', decide_eq_true_eq, not_or, Bool.not_eq_false] at guard
        cases committed
        split
        · exact .funds (.nothing rfl rfl)
        · have funds : Funds cfg _ _ _ _ :=
            returnPrepaidCredits_funds (s.setLetter { letter with status := .failed }) letterId
          refine .funds ⟨_, _, funds.mono fun _ => ⟨.lost found guard.1, ?_⟩, rfl, rfl⟩
          rw [funds.letters]
          exact .put found rfl (.inl rfl)
  | syncStatus letterId status =>
    simp only [step, syncStatus] at committed
    split at committed
    · cases committed
    · split at committed
      · cases committed
      · cases committed
        exact .funds (.nothing rfl rfl)
  | redact letterId redacted =>
    cases committed
    refine .funds (.nothing (modifyLetter_commerce _ _ _) ?_)
    unfold redactLetter Store.modifyLetter
    split <;> rfl

end LetterIRL.Mail
