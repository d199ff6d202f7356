import LetterIRL.Mail.Outbox

namespace LetterIRL.Mail
open Lib Ledger Commerce

/-! What a customer or an operator does to mail outside a dispatch. -/

inductive ScheduledMailRefusal
  | notFound
  | tooLate
  | payAndSend
  | notScheduled
  | busy
  deriving DecidableEq

/-- `ReturnShortfall`. -/
inductive ReturnShortfall
  | none
  | partly
  | expired
  | refunded
  deriving DecidableEq

structure CancelledMail where
  alreadyCancelled : Bool
  returned : Nat
  shortfall : ReturnShortfall
  deriving DecidableEq

abbrev CancelScheduledMailResult := Except ScheduledMailRefusal CancelledMail

/-- A returned gift letter that ran out while the mail was held. -/
def returnedGiftExpired (s : Store) (letterId : LetterId) : Bool :=
  s.commerce.giftLetters.rows.any fun gift =>
    gift.source == .sendFailed letterId && gift.expiresAt.any (· ≤ s.now)

/-- `giftBack`. -/
def giftBack (cfg : Config) (s : Store) (letterId : LetterId) : Store × Nat × ReturnShortfall :=
  let back := s.returnGift cfg letterId .cancelled
  if back.2 = 0 then (back.1, 0, .refunded)
  else if returnedGiftExpired back.1 letterId then (back.1, 0, .expired)
  else (back.1, back.2, .none)

/-- The credits of a letter's return posted past their expiry. -/
def returnedExpired (s : Store) (letterId : LetterId) : Nat :=
  total Lot.initialAmount (s.commerce.account.creditLedger.rows.filter fun lot =>
    lot.sourceType == .adjustment && lot.sourceMetadata.letterId == some letterId &&
      lot.sourceMetadata.reason == some .sendFailed && lapsed s.now lot)

def shortfallOf (usable expired creditsCost : Nat) : ReturnShortfall :=
  if creditsCost ≤ usable then .none
  else if 0 < usable then .partly
  else if 0 < expired then .expired
  else .refunded

/-- `creditsBack`: counted in letters. -/
def creditsBack (s : Store) (letterId : LetterId) (creditsCost : Nat) : Store × Nat × ReturnShortfall :=
  let back := s.returnCredits letterId
  let expired := if 0 < back.2 then returnedExpired back.1 letterId else 0
  let usable := back.2 - expired
  (back.1, usable / CREDITS_PER_LETTER, shortfallOf usable expired creditsCost)

/-- The letter and its job once a cancel has taken them. -/
def cancelMail (s : Store) (job : LetterJob) (letter : MailItem) : Store :=
  (s.setJob { job with status := .cancelled, lockedAt := none }).setLetter { letter with status := .cancelled }

/-- `cancelScheduledMail`; `busy` is the job's row locked by the outbox. -/
def cancelScheduledMail (cfg : Config) (s : Store) (letterId : LetterId) (userId : UserId) (busy : Bool) :
    Store × CancelScheduledMailResult :=
  match s.letters.find letterId, s.commerce.letters.find letterId with
  | some letter, some funded =>
    if userId ≠ s.commerce.userId then (s, .error .notFound)
    else if letter.status = .cancelled then
      (s, .ok { alreadyCancelled := true, returned := 0, shortfall := .none })
    else if letter.status ≠ .queued then (s, .error .tooLate)
    else if funded.fundingType = .jitOrder then (s, .error .payAndSend)
    else if letter.mailOn = none then (s, .error .notScheduled)
    else if busy then (s, .error .busy)
    else
      match s.jobOfLetter letterId with
      | none => (s, .error .tooLate)
      | some job =>
        if job.status ≠ .pending ∨ job.providerOutcome ≠ .notDispatched then (s, .error .tooLate)
        else
          let cancelled := cancelMail s job letter
          let back :=
            if funded.fundingType = .giftLetter then giftBack cfg cancelled letterId
            else creditsBack cancelled letterId letter.creditsCost
          (back.1, .ok { alreadyCancelled := false, returned := back.2.1, shortfall := back.2.2 })
  | _, _ => (s, .error .notFound)

/-- `failProviderCancelledLetter`, for mail the provider has a tracking number of. -/
def failProviderCancelledLetter (cfg : Config) (s : Store) (letterId : LetterId) : Except Abort Store :=
  match s.letters.find letterId with
  | none => .error .thrown
  | some letter =>
    if !letter.tracked || letter.status ∈ ENDED_LETTER_STATUSES then .error .thrown
    else
      let failed := s.setLetter { letter with status := .failed }
      .ok (if (s.fundingOrderId letterId).isSome || letter.status ∉ NOT_YET_PRINTING_STATUSES then failed
        else failed.returnPrepaidCredits cfg letterId)

/-- The letter and job an operator's command names, the account's own; `foreign` is how it refuses
another account's letter. -/
def lockMail (s : Store) (jobId : JobId) (expectedUserId : UserId) (foreign : AdminError) :
    Except Abort (LetterJob × MailItem) :=
  match s.jobs.find jobId with
  | none => .error (.admin .notFound)
  | some job =>
    match s.letters.find job.letterId with
    | none => .error (.admin .notFound)
    | some letter =>
      if expectedUserId ≠ s.commerce.userId then .error (.admin foreign) else .ok (job, letter)

/-- A retry or a release looks at the funding order first, and says `not_found` of another account's. -/
def foreignMail (s : Store) (jobId : JobId) : AdminError :=
  if ((s.jobs.find jobId).bind fun job => s.fundingOrderId job.letterId).isSome then .notFound else .invalidState

/-- `cancelLeftLetterJobAsAdmin`, past its replay check. -/
def cancelLeftLetterJob (cfg : Config) (s : Store) (jobId : JobId) (expectedUserId : UserId) :
    Except Abort Store := do
  let (job, letter) ← lockMail s jobId expectedUserId .notFound
  if !s.heldForFunding job || letter.status != .queued || (s.fundingOrderId job.letterId).isSome ||
      ((s.commerce.letters.find job.letterId).map Letter.fundingType).all (· == .jitOrder) ||
      job.status != .pending || job.providerOutcome != .notDispatched || job.maxAttempts ≤ job.attempts ||
      (job.operatorResolution.isSome && !isFundingHoldReason job.holdReason) then
    .error (.admin .invalidState)
  else
    .ok ((cancelMail s { job with operatorResolution := some .operatorCancelled } letter).returnPrepaidCredits
      cfg job.letterId)

inductive AmbiguousMailDecision
  | accepted
  | retry
  | rejected
  deriving DecidableEq

def AmbiguousMailDecision.resolution : AmbiguousMailDecision → OperatorResolution
  | .accepted => .providerConfirmedAccepted
  | .retry => .providerConfirmedRejectedRetry
  | .rejected => .providerConfirmedRejectedRefund

inductive ProviderName
  | postgrid
  | dummy
  | diy
  deriving DecidableEq

/-- `providerSellsExtraServices` and `providerPrintsRenderedPdf` name the same providers. -/
def EXTRA_SERVICE_PROVIDER_NAMES : List ProviderName := [.postgrid, .dummy]
def RENDERED_PDF_PROVIDER_NAMES : List ProviderName := [.postgrid, .dummy]

/-- An acceptance no such provider can have given. -/
def unbelievable (provider : ProviderName) (letter : MailItem) : Bool :=
  (letter.mailService.isSome && provider ∉ EXTRA_SERVICE_PROVIDER_NAMES) ||
    (letter.drawnByRenderer && provider ∉ RENDERED_PDF_PROVIDER_NAMES)

/-- The order quarantined with its mail. -/
def heldWithMail (order : Order) : Bool :=
  order.status == .held &&
    (order.holdReason == some .providerOutcomeAmbiguous ||
      order.holdReason == some .legacyProcessingOutcomeUnknown)

def releasedHold (order : Order) : Order :=
  { order with holdPreviousStatus := none, heldAt := none, holdReason := none }

/-- `GREATEST(max_attempts, attempts + 1)`, due now. -/
def requeuedJob (now : Time) (job : LetterJob) : LetterJob :=
  { job with
    status := .pending, providerOutcome := .notDispatched, maxAttempts := max job.maxAttempts (job.attempts + 1),
    nextAttemptAt := now, scheduledAt := now }

def resolvedJob (now : Time) (decision : AmbiguousMailDecision) (job : LetterJob) : LetterJob :=
  let released := { job with
    operatorResolution := some decision.resolution, lockedAt := none, holdReason := none }
  match decision with
  | .accepted => { released with status := .completed, providerOutcome := .accepted }
  | .retry => requeuedJob now released
  | .rejected =>
    { released with status := .failed, providerOutcome := .definiteFailure, attempts := job.maxAttempts }

def resolvedLetter (decision : AmbiguousMailDecision) (letter : MailItem) : MailItem :=
  match decision with
  | .accepted => { letter with status := .accepted, tracked := true }
  | .retry => { letter with status := .queued }
  | .rejected => { letter with status := .failed }

def resolvedOrder (now : Time) (decision : AmbiguousMailDecision) (order : Order) : Order :=
  match decision with
  | .accepted => { releasedHold order with status := .fulfilled }
  | .retry => { releasedHold order with status := .fulfillmentPending, lastErrorCode := none }
  | .rejected => { releasedHold order with
      status := .refundPending, refundPendingAt := order.refundPendingAt <|> some now,
      lastErrorCode := some .providerConfirmedRejection }

/-- `resolveAmbiguousLetterJobAsAdmin`, past its validation and its replay check. -/
def resolveAmbiguousLetterJob (cfg : Config) (s : Store) (jobId : JobId) (expectedUserId : UserId)
    (decision : AmbiguousMailDecision) (provider : ProviderName) : Except Abort Store := do
  let (job, letter) ← lockMail s jobId expectedUserId .notFound
  let orderId := s.fundingOrderId job.letterId
  let order := orderId.bind s.commerce.orders.find
  if letter.status ≠ .held ∨ job.status ≠ .held ∨ job.providerOutcome ≠ .ambiguous ∨
      (orderId.isSome ∧ order = none) then .error (.admin .invalidState)
  else if decision = .accepted ∧ unbelievable provider letter then .error (.admin .invalidState)
  else if decision ≠ .rejected ∧ s.isLetterAlreadyCompensated job.letterId then .error (.admin .invalidState)
  else if decision = .retry ∧ orderId.isSome ∧ !order.any heldWithMail then .error (.admin .invalidState)
  else
    let resolved := (s.setLetter (resolvedLetter decision letter)).setJob (resolvedJob s.now decision job)
    let returned :=
      if decision = .rejected then resolved.returnPrepaidCredits cfg job.letterId else resolved
    match orderId with
    | none => .ok returned
    | some orderId => returned.moveOrder orderId heldWithMail (resolvedOrder s.now decision)

/-- `retryableJitRefund`: owed a refund the app has not asked Stripe for. -/
def retryableJitRefund (order : Order) : Bool :=
  order.status == .refundPending &&
    (order.lastErrorCode == some .providerSubmissionFailed ||
      order.lastErrorCode == some .preDispatchTerminalFailure) &&
    order.refundAttempts == 0 && order.stripeRefundId.isNone

/-- `retryLetterJobAsAdmin`, past its replay check. -/
def retryLetterJob (s : Store) (jobId : JobId) (expectedUserId : UserId) : Except Abort Store := do
  let (job, letter) ← lockMail s jobId expectedUserId (foreignMail s jobId)
  let orderId := s.fundingOrderId job.letterId
  let order := orderId.bind s.commerce.orders.find
  if orderId.isSome ∧ order = none then .error (.admin .notFound)
  else if job.status ≠ .failed ∨ job.providerOutcome ≠ .definiteFailure ∨ job.operatorResolution.isSome ∨
      letter.status ≠ .failed ∨ letter.redacted ∨
      (order.any fun order => order.status != .fulfillmentPending && !retryableJitRefund order) then
    .error (.admin .invalidState)
  else if s.isLetterAlreadyCompensated job.letterId then .error (.admin .invalidState)
  else
    let requeued := (s.setJob (requeuedJob s.now job)).setLetter { letter with status := .queued }
    match orderId with
    | none => .ok requeued
    | some orderId =>
      requeued.moveOrder orderId retryableJitRefund fun order =>
        { order with status := .fulfillmentPending, refundPendingAt := none, lastErrorCode := none }

/-- `heldMailJobSql`: mail waiting for its mail date. -/
def heldMailJob (now : Time) (job : LetterJob) : Bool :=
  job.status == .pending && job.providerOutcome == .notDispatched && job.attempts == 0 &&
    job.mailHoldUntil.isSome && now < job.nextAttemptAt

/-- A released job: a funding hold ends and its mail keeps its date; held mail is due now. -/
def releasedJob (now : Time) (job : LetterJob) : LetterJob :=
  { job with
    nextAttemptAt := if isFundingHoldReason job.holdReason then max job.nextAttemptAt now else now
    scheduledAt := if isFundingHoldReason job.holdReason then max job.scheduledAt now else now
    holdReason := none }

/-- What an operator may release: mail held for its funding, or for a mail date not yet come. -/
def releasable (now : Time) (job : LetterJob) (letter : MailItem) : Bool :=
  let fundingHeld := isFundingHoldReason job.holdReason
  letter.status == .queued && job.status == .pending && job.providerOutcome == .notDispatched &&
    (if fundingHeld then job.attempts < job.maxAttempts else job.attempts == 0) &&
    (job.operatorResolution.isNone || fundingHeld) && (heldMailJob now job || fundingHeld)

/-- `releaseHeldLetterJobAsAdmin`, past its replay check. -/
def releaseHeldLetterJob (s : Store) (jobId : JobId) (expectedUserId : UserId) : Except Abort Store := do
  let (job, letter) ← lockMail s jobId expectedUserId (foreignMail s jobId)
  let order := (s.fundingOrderId job.letterId).map s.commerce.orders.find
  if order = some none then .error (.admin .notFound)
  else if !(order.join.all fun order => order.status == .fulfillmentPending) || !releasable s.now job letter then
    .error (.admin .invalidState)
  else .ok (s.setJob (releasedJob s.now job))

/-- The provider's own word on mail it has taken: no guard but the tracking number. -/
def syncStatus (s : Store) (letterId : LetterId) (status : LetterStatus) : Except Abort Store :=
  match s.letters.find letterId with
  | none => .error .thrown
  | some letter =>
    if !letter.tracked || status ∉ [.queued, .processing, .inTransit, .delivered, .returned, .accepted, .sent] then
      .error .thrown
    else .ok (s.setLetter { letter with status })

/-- Retention redacts a letter's content, or an operator restores it. -/
def redactLetter (s : Store) (letterId : LetterId) (redacted : Bool) : Store :=
  s.modifyLetter letterId fun letter => { letter with redacted }

end LetterIRL.Mail
