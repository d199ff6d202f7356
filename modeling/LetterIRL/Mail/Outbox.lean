import LetterIRL.Mail.Store

namespace LetterIRL.Mail
open Lib Ledger Commerce

/-! The outbox: claims, the dispatch marker, and what settles a dispatch. -/

/-- `STALE_LOCK_MINUTES`. -/
def STALE_LOCK : Time := 15 * 60

/-- `locked_at < NOW() - INTERVAL '15 minutes'`. -/
def staleLock (now : Time) (job : LetterJob) : Bool :=
  job.lockedAt.any fun at_ => at_ + STALE_LOCK < now

/-- The candidates of `claimJob`. -/
def claimable (s : Store) (job : LetterJob) : Bool :=
  job.attempts < job.maxAttempts && job.providerOutcome == .notDispatched &&
    (((job.status == .pending || job.status == .failed) && job.nextAttemptAt ≤ s.now &&
        !s.leftForOperator job) ||
      (job.status == .processing && staleLock s.now job))

def claimedJob (now : Time) (job : LetterJob) : LetterJob :=
  { job with status := .processing, attempts := job.attempts + 1, lockedAt := some now }

/-- `claimJob`: any candidate, since rows locked elsewhere are skipped. -/
def claimJob (s : Store) (jobId : JobId) : Except Abort Store :=
  match s.jobs.find jobId with
  | none => .error .thrown
  | some job =>
    if !claimable s job then .error .thrown
    else
      let claim := claimedJob s.now job
      .ok { s.setJob claim with workers := { claim, phase := .claimed } :: s.workers }

/-- A job left for the operator: pending again, its attempt given back. -/
def putBack (job : LetterJob) : LetterJob :=
  { job with status := .pending, attempts := job.attempts - 1, lockedAt := none }

/-- The funding order, where there is one, waits for this mail. -/
def fundingDispatchable (s : Store) (letterId : LetterId) : Bool :=
  match s.fundingOrderId letterId with
  | none => true
  | some orderId => (s.commerce.orders.find orderId).any fun order => order.status == .fulfillmentPending

/-- Still the claim's job: processing, at the attempts the claim set, not dispatched. -/
def stillClaimed (job claim : LetterJob) : Bool :=
  job.status == .processing && job.attempts == claim.attempts && job.providerOutcome == .notDispatched

/-- `markProviderDispatch`: whether the dispatch may go on, or the job was left for the operator. -/
def markProviderDispatch (s : Store) (claim : LetterJob) : Except Abort (Store × Bool) :=
  match s.jobs.find claim.jobId with
  | none => .error .thrown
  | some job =>
    match s.letters.find job.letterId with
    | none => .error .thrown
    | some letter =>
      if !fundingDispatchable s job.letterId then .error .thrown
      else if !stillClaimed job claim || letter.status ∉ [.queued, .processing] || letter.redacted then
        .error .thrown
      else if s.heldForFunding job then .ok (s.setJob (putBack job), false)
      else .ok ((s.setJob { job with providerOutcome := .dispatching }).setLetter
        { letter with status := .processing }, true)

/-- A terminal job is not reopened. -/
def ambiguousJob (job : LetterJob) : LetterJob :=
  if job.status = .completed ∨ job.status = .failed then job
  else { job with
    status := .held, providerOutcome := .ambiguous, holdReason := some .providerOutcomeAmbiguous,
    lockedAt := none }

def quarantinedLetter (letter : MailItem) : MailItem :=
  if letter.status ∈ ACCEPTED_LETTER_STATUSES ∨ letter.status = .failed then letter
  else { letter with status := .held }

def quarantinedOrder (now : Time) (order : Order) : Order :=
  { order with
    status := .held, holdPreviousStatus := some order.status, heldAt := some now,
    holdReason := some .providerOutcomeAmbiguous }

/-- `holdAmbiguousDispatch`. -/
def holdAmbiguousDispatch (s : Store) (claim : LetterJob) : Except Abort Store :=
  let held := (s.modifyJob claim.jobId ambiguousJob).modifyLetter claim.letterId quarantinedLetter
  match s.fundingOrderId claim.letterId with
  | none => .ok held
  | some orderId =>
    held.moveOrder orderId (fun order => order.status == .fulfillmentPending) (quarantinedOrder s.now)

def waitsForMail (order : Order) : Bool :=
  order.orderType == .jitMail && order.status == .fulfillmentPending

/-- A job whose provider acceptance may still be recorded. -/
def acceptable (job : LetterJob) : Bool :=
  (job.status == .processing && job.providerOutcome == .dispatching) ||
    (job.status == .held && job.providerOutcome == .ambiguous)

/-- `completeJob`: an error is the throw that `recoverProviderAcceptancePersistence` catches. -/
def completeJob (s : Store) (claim : LetterJob) : Except Abort Store :=
  match s.jobs.find claim.jobId with
  | none => .error .thrown
  | some job =>
    if job.status = .completed ∧ job.providerOutcome = .accepted then .ok s
    else
      match s.letters.find job.letterId with
      | none => .error .thrown
      | some letter =>
        let orderId := s.fundingOrderId job.letterId
        if !acceptable job || (orderId.any fun id => (s.commerce.orders.find id).isNone) ||
            letter.status ∉ [.processing, .held] then .error .thrown
        else
          let completed := (s.setLetter { letter with status := .accepted, tracked := true }).setJob
            { job with status := .completed, providerOutcome := .accepted, lockedAt := none }
          match orderId with
          | none => .ok completed
          | some orderId =>
            completed.moveOrder orderId waitsForMail fun order =>
              { order with status := .fulfilled, lastErrorCode := none }

/-- The order of mail that ended unsent: its money goes back. -/
def owedOrder (now : Time) (code : ErrorCode) (order : Order) : Order :=
  { order with status := .refundPending, refundPendingAt := some now, lastErrorCode := some code }

/-- What paid for mail that failed for good goes back: the order's money, or the credits or gift. -/
def compensateSend (cfg : Config) (s : Store) (letterId : LetterId) (code : ErrorCode) : Except Abort Store :=
  match s.fundingOrderId letterId with
  | none => .ok (s.returnPrepaidCredits cfg letterId)
  | some orderId => s.moveOrder orderId waitsForMail (owedOrder s.now code)

/-- `failOrRescheduleJob` on a definite rejection: only the dispatch the result belongs to. -/
def failOrRescheduleJob (cfg : Config) (s : Store) (claim : LetterJob) : Except Abort Store :=
  match s.jobs.find claim.jobId, s.letters.find claim.letterId with
  | some job, some letter =>
    if job.status ≠ .processing ∨ job.providerOutcome ≠ .dispatching then .ok s
    else compensateSend cfg
      ((s.setJob { job with
          status := .failed, providerOutcome := .definiteFailure, nextAttemptAt := s.now,
          lockedAt := none }).setLetter { letter with status := .failed })
      claim.letterId .providerSubmissionFailed
  | _, _ => .error .thrown

/-- The letter of a job that failed before its dispatch. -/
def undispatchedLetter (retryable : Bool) (letter : MailItem) : MailItem :=
  if letter.status = .held ∨ letter.status = .cancelled then letter
  else { letter with status := if retryable then .queued else .failed }

/-- A job that failed before its dispatch, to be tried again or not. -/
def undispatchedJob (now delay : Time) (retryable : Bool) (job : LetterJob) : LetterJob :=
  { job with
    status := if retryable then .pending else .failed, nextAttemptAt := now + delay, lockedAt := none }

/-- `failBeforeDispatch`; `delay` is `retryDelayMilliseconds`, drawn at random. -/
def failBeforeDispatch (cfg : Config) (s : Store) (claim : LetterJob) (delay : Time) : Except Abort Store :=
  match s.jobs.find claim.jobId, s.letters.find claim.letterId with
  | some job, some letter =>
    if s.heldForFunding job then
      .ok (if stillClaimed job claim then s.setJob (putBack job) else s)
    else if !stillClaimed job claim then .ok s
    else
      let retryable : Bool := claim.attempts < claim.maxAttempts
      let settled := (s.setJob (undispatchedJob s.now delay retryable job)).setLetter
        (undispatchedLetter retryable letter)
      if retryable then .ok settled
      else compensateSend cfg settled claim.letterId .preDispatchTerminalFailure
  | _, _ => .error .thrown

/-! The sweeps of `processDueLetterJobs` over the claims a crash left behind. -/

/-- A job the marker passed whose claim went stale: its outcome is uncertain. -/
def sweepDispatched (s : Store) (jobId : JobId) : Except Abort Store :=
  match s.jobs.find jobId with
  | none => .error .thrown
  | some job =>
    if job.status = .processing ∧ job.providerOutcome = .dispatching ∧ staleLock s.now job then
      .ok { s with workers := { claim := job, phase := .uncertain } :: s.workers }
    else .error .thrown

/-- A last attempt spent by a claim that never reached the provider. -/
def spentUndispatched (now : Time) (job : LetterJob) : Bool :=
  job.status == .processing && job.providerOutcome == .notDispatched && job.maxAttempts ≤ job.attempts &&
    staleLock now job

/-- Mail left for the operator is put back, not failed. -/
def sweepPutBack (s : Store) : Store :=
  { s with
    jobs := s.jobs.update (fun job => spentUndispatched s.now job && s.leftForOperator job) putBack fun _ => rfl }

/-- Any other is settled as a failure before the dispatch. -/
def sweepUndispatched (s : Store) (jobId : JobId) : Except Abort Store :=
  match s.jobs.find jobId with
  | none => .error .thrown
  | some job =>
    if spentUndispatched s.now job && !s.leftForOperator job then
      .ok { s with workers := { claim := job, phase := .faulted } :: s.workers }
    else .error .thrown

namespace Store

def advance (s : Store) (worker : Worker) (phase : Phase) : Store :=
  { s with workers := { worker with phase } :: s.workers.erase worker }

def retire (s : Store) (worker : Worker) : Store :=
  { s with workers := s.workers.erase worker }

end Store

/-- What a dispatch can do next; `crashes` is its process dying. -/
inductive DispatchEvent
  | faults
  | marks
  | submits (provider : Provider)
  | answered (answer : ProviderAnswer)
  | settles (delay : Time)
  | crashes
  deriving DecidableEq

/-- A dispatch throws: before the marker it failed there, after it the outcome is uncertain. What
handles a fault is not handled itself. -/
def Phase.afterFault : Phase → Option Phase
  | .claimed => some .faulted
  | .accepted => some .recovering
  | .marked | .called | .rejected => some .uncertain
  | .faulted | .recovering | .uncertain => none

/-- `submitToProvider`: a refusal of our own counts as a rejection, and contacts nobody. -/
def submitToProvider (s : Store) (worker : Worker) (provider : Provider) : Except Abort Store :=
  match s.letters.find worker.claim.letterId with
  | none => .error .thrown
  | some letter =>
    if refusedUnsent provider letter then .ok (s.advance worker .rejected)
    else .ok { s.advance worker .called with submissions := worker.claim.jobId :: s.submissions }

/-- The transaction a dispatch's phase calls for. -/
def settleDispatch (cfg : Config) (s : Store) (worker : Worker) (delay : Time) : Except Abort Store :=
  match worker.phase with
  | .faulted => failBeforeDispatch cfg s worker.claim delay
  | .accepted => completeJob s worker.claim
  | .rejected => failOrRescheduleJob cfg s worker.claim
  | .uncertain => holdAmbiguousDispatch s worker.claim
  | _ => .error .thrown

/-- `processClaimedJob`, one step at a time. -/
def processClaimedJob (cfg : Config) (s : Store) (worker : Worker) (event : DispatchEvent) :
    Except Abort Store :=
  if worker ∉ s.workers then .error .thrown
  else
    match event with
    | .crashes => .ok (s.retire worker)
    | .faults =>
      match worker.phase.afterFault with
      | none => .error .thrown
      | some phase => .ok (s.advance worker phase)
    | .marks =>
      if worker.phase ≠ .claimed then .error .thrown
      else do
        let (marked, dispatched) ← markProviderDispatch s worker.claim
        .ok (if dispatched then marked.advance worker .marked else marked.retire worker)
    | .submits provider =>
      if worker.phase ≠ .marked then .error .thrown else submitToProvider s worker provider
    | .answered answer =>
      if worker.phase ≠ .called then .error .thrown
      else .ok (s.advance worker (match answer with
        | .accepted => .accepted
        | .definiteRejection => .rejected
        | .ambiguous => .uncertain))
    | .settles delay =>
      -- `recoverProviderAcceptancePersistence` reads the job before it holds it.
      if worker.phase = .recovering then
        .ok (if (s.jobs.find worker.claim.jobId).any fun job => job.status == .completed then s.retire worker
          else s.advance worker .uncertain)
      else do
        let settled ← settleDispatch cfg s worker delay
        .ok (settled.retire worker)

end LetterIRL.Mail
