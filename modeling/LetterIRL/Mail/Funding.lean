import LetterIRL.Mail.Commands

namespace LetterIRL.Mail
open Lib Ledger Commerce

/-! What reversed money does to the mail it paid for, and commerce as the mail sees it. -/

def stoppedJob (reason : JobHoldReason) (job : LetterJob) : LetterJob :=
  if job.status = .completed then job
  else { job with status := .cancelled, lockedAt := none, holdReason := some reason }

def haltedJob (reason : JobHoldReason) (job : LetterJob) : LetterJob :=
  { job with
    status := .held, providerOutcome := .ambiguous, holdReason := some reason, lockedAt := none }

/-- `UPDATE letters SET status = …` for mail the provider has not taken. -/
def stoppedLetter (status : LetterStatus) (letter : MailItem) : MailItem :=
  if letter.status ∈ ACCEPTED_LETTER_STATUSES then letter else { letter with status }

/-- `stopFundedMailBeforeFinancialReversal`. -/
def stopFundedMail (s : Store) (order : Order) (reason : JobHoldReason) : Store :=
  match order.orderType, order.letterId with
  | .jitMail, some letterId =>
    match s.jobOfLetter letterId with
    | none => s
    | some job =>
      match job.providerOutcome with
      | .notDispatched =>
        (s.setJob (stoppedJob reason job)).modifyLetter letterId (stoppedLetter .cancelled)
      | .dispatching | .ambiguous =>
        (s.setJob (haltedJob reason job)).modifyLetter letterId (stoppedLetter .held)
      | _ => s
  | _, _ => s

/-- The lots of a pack, bought or posted back, as the funded letters' query reads them. -/
def fundingLot (order : Order) (lot : Lot) : Bool :=
  lot.sourceReferenceId == some (.order order.orderId) ||
    (order.stripeCheckoutSessionId.isSome &&
      lot.sourceMetadata.stripeSessionId == order.stripeCheckoutSessionId)

/-- The letter's deduction drew on a lot of the pack, or a gift letter of the pack paid for it. -/
def fundedBy (s : Store) (order : Order) (letterId : LetterId) : Bool :=
  (s.commerce.letters.find letterId).isSome &&
    ((s.commerce.account.creditConsumption.any fun consumption =>
        consumption.letterId == letterId &&
          (s.commerce.account.creditLedger.find consumption.ledgerId).any (fundingLot order)) ||
      s.commerce.giftLetters.rows.any fun gift =>
        gift.sourceOrderId == some order.orderId && gift.consumedByLetterId == some letterId)

/-- A job that can still be held for its funding. -/
def holdable (s : Store) (order : Order) (job : LetterJob) : Bool :=
  fundedBy s order job.letterId &&
    ((s.letters.find job.letterId).any fun letter => letter.status == .queued) &&
    (job.status == .pending || job.status == .processing) && job.providerOutcome == .notDispatched

/-- `holdMailFundedByOrder`. -/
def holdMailFundedByOrder (s : Store) (order : Order) (reason : JobHoldReason) : Store :=
  if order.orderType ≠ .letterPack then s
  else { s with
    jobs := s.jobs.update (holdable s order) (fun job => { job with holdReason := some reason }) fun _ => rfl }

/-- A reversal of an order's money: why its mail stops, and why what it funded is held. -/
structure Reversal where
  order : Order
  stop : JobHoldReason
  hold : Option JobHoldReason
  deriving DecidableEq

/-- The mail of a reversed order, and the codes a disputed pack's gift letters printed. -/
def applyReversal (s : Store) (reversal : Reversal) : Store :=
  let stopped := stopFundedMail s reversal.order reversal.stop
  match reversal.hold with
  | none => stopped
  | some reason =>
    let held := holdMailFundedByOrder stopped reversal.order reason
    if reason = .fundingDisputed ∧ reversal.order.orderType = .letterPack then
      held.withGiftTables (Gift.revokeGiftLettersForOrder held.giftTables reversal.order.orderId true)
    else held

/-- `processRefundEvent` stops and holds mail where it takes the full-refund branch. -/
def refundReversals (s : Commerce.Store) (event : RefundEvent) : List Reversal :=
  match s.claimStripeEvent event.eventId .refund with
  | none => []
  | some claimed =>
    match claimed.orderOfRefund event.metadataOrderId event.paymentIntent with
    | none => []
    | some order =>
      if (event.isRefund && event.packRefundId.isSome) || !completesThePayment claimed order event ||
          order.status == .refunded then []
      else [{ order, stop := .paymentReversed,
              hold := if event.refundStatus = .succeeded then some .fundingReversed else none }]

/-- `processDisputeEvent`, where the event is more than a record. -/
def disputeReversals (s : Commerce.Store) (event : DisputeEvent) : List Reversal :=
  match s.claimStripeEvent event.eventId (.dispute event.disputeId) with
  | none => []
  | some claimed =>
    match claimed.orderOfIntent event.paymentIntent with
    | none => []
    | some order =>
      if recordedOnly (claimed.disputes.find event.disputeId) event then []
      else [{ order, stop := .paymentDisputed,
              hold := if event.status.loss then some .fundingDisputed else none }]

/-- `applyRecoveredDisputes`: an order still at Checkout has had nothing granted or queued. -/
def recoveredReversals (s : Commerce.Store) (order : Order) (disputeIds : List DisputeId) : List Reversal :=
  if order.status = .checkoutPending then []
  else (takenOver s disputeIds).map fun dispute =>
    { order, stop := .paymentDisputed,
      hold := if standing dispute then some .fundingDisputed else none }

/-- A checkout event that finds money waiting for its order. -/
def checkoutReversals (cfg : Config) (s : Commerce.Store) (event : CheckoutEvent) : List Reversal :=
  match s.claimStripeEvent event.eventId .checkout with
  | none => []
  | some claimed =>
    match claimed.findCheckoutOrder event.session.id <|> legacyPackOrder cfg claimed event.session with
    | none => []
    | some order =>
      recoveredReversals claimed order
        ((claimed.webhookEvents.rows.filter (unmatchedMoney claimed order event.session)).filterMap
          WebhookEvent.disputeId)

def reversals (cfg : Config) (s : Commerce.Store) : Commerce.Event → List Reversal
  | .refund event => refundReversals s event
  | .dispute event => disputeReversals s event
  | .checkoutSession event => checkoutReversals cfg s event
  | _ => []

/-- A send's choices, and what its chain code is drawn from. -/
structure NewMail where
  jobId : JobId
  drawnByRenderer : Bool := false
  /-- The mail date of a scheduled send, when its job is due. -/
  mailOn : Option Time := none
  maxAttempts : Nat := 5
  campaigns : Gift.Campaigns := {}
  generated : List ChainCode := []

/-- The letter a transaction added. -/
def newLetter (before after : Commerce.Store) : Option Letter :=
  after.letters.rows.find? fun letter => (before.letters.find letter.letterId).isNone

/-- The chain code a gift-funded letter prints. -/
def mintForGift (cfg : Config) (s : Store) (letterId : LetterId) (mail : NewMail) : Except Abort Store :=
  match s.commerce.giftLetters.rows.find? fun gift => gift.consumedByLetterId == some letterId with
  | none => .ok s
  | some gift =>
    if gift.cardCampaignId.any mail.campaigns.seedCodePrints || gift.generationsRemaining == 0 then .ok s
    else
      match Gift.mintChainCode cfg s.now mail.campaigns s.giftTables gift letterId mail.mailOn
          mail.generated with
      | .error reason => .error (.commerce reason)
      | .ok tables => .ok (s.withGiftTables tables)

/-- The `letters` row a send inserts, from its draft. -/
def queuedLetter (s : Store) (letter : Letter) (mail : NewMail) : MailItem :=
  let row : MailItem :=
    { letterId := letter.letterId, drawnByRenderer := mail.drawnByRenderer, mailOn := mail.mailOn }
  match s.commerce.drafts.find letter.draftId with
  | none => row
  | some draft => { row with
      creditsCost := draft.requiredCredits
      mailType := draft.mailOption.mailType
      mailService := extraServiceOf draft.mailOption.mailService }

theorem queuedLetter_letterId (s : Store) (letter : Letter) (mail : NewMail) :
    (queuedLetter s letter mail).letterId = letter.letterId := by
  unfold queuedLetter
  cases s.commerce.drafts.find letter.draftId <;> rfl

/-- The mail a send queued: its letter, its job, and the code its gift prints. -/
def queueMail (cfg : Config) (s : Store) (letter : Letter) (mail : NewMail) : Except Abort Store :=
  if freshJob : mail.jobId ∉ s.jobs.rows.map LetterJob.jobId then
    if freshLetter : letter.letterId ∉ s.letters.rows.map MailItem.letterId then
      let queued := { s with
        letters := s.letters.insert (queuedLetter s letter mail) (by rwa [queuedLetter_letterId])
        jobs := s.jobs.insert (newJob s.now mail.jobId letter.letterId mail.mailOn mail.maxAttempts)
          freshJob }
      if letter.fundingType = .giftLetter then mintForGift cfg queued letter.letterId mail else .ok queued
    else .error .thrown
  else .error .thrown

/-- The outbox moves these itself. -/
def outboxOwns : Commerce.Event → Bool
  | .letterJob .. | .returnCredits .. => true
  | _ => false

/-- A transaction of commerce, with what it does to mail. -/
def commerceStep (cfg : Config) (s : Store) (event : Commerce.Event) (mail : NewMail) : Except Abort Store :=
  if outboxOwns event then .error .thrown
  else
    match Commerce.step cfg s.commerce event with
    | .error reason => .error (.commerce reason)
    | .ok commerce =>
      let reversed := (reversals cfg s.commerce event).foldl applyReversal { s with commerce }
      match newLetter s.commerce commerce with
      | none => .ok reversed
      | some letter => queueMail cfg reversed letter mail

/-- A transaction of one account's mail, with what reaches it from outside. -/
inductive Event
  | commerce (event : Commerce.Event) (mail : NewMail)
  | redeemCode (userId : UserId) (sameAddress : Bool) (code : ChainCode)
  | claim (jobId : JobId)
  | dispatch (worker : Worker) (event : DispatchEvent)
  | sweepDispatched (jobId : JobId)
  | sweepPutBack
  | sweepUndispatched (jobId : JobId)
  | cancelScheduled (letterId : LetterId) (userId : UserId) (busy : Bool)
  | cancelLeft (jobId : JobId) (expectedUserId : UserId)
  | resolve (jobId : JobId) (expectedUserId : UserId) (decision : AmbiguousMailDecision) (provider : ProviderName)
  | retry (jobId : JobId) (expectedUserId : UserId)
  | release (jobId : JobId) (expectedUserId : UserId)
  | providerCancelled (letterId : LetterId)
  | syncStatus (letterId : LetterId) (status : LetterStatus)
  | redact (letterId : LetterId) (redacted : Bool)

def redeemCode (cfg : Config) (s : Store) (userId : UserId) (sameAddress : Bool) (code : ChainCode) :
    Except Abort Store :=
  match Gift.redeemChainCode cfg s.now s.giftTables userId sameAddress code with
  | .error reason => .error (.commerce reason)
  | .ok tables => .ok (s.withGiftTables tables)

/-- One transaction; an error is a rollback. -/
def step (cfg : Config) (s : Store) : Event → Except Abort Store
  | .commerce event mail => commerceStep cfg s event mail
  | .redeemCode userId sameAddress code => redeemCode cfg s userId sameAddress code
  | .claim jobId => claimJob s jobId
  | .dispatch worker event => processClaimedJob cfg s worker event
  | .sweepDispatched jobId => sweepDispatched s jobId
  | .sweepPutBack => .ok (sweepPutBack s)
  | .sweepUndispatched jobId => sweepUndispatched s jobId
  | .cancelScheduled letterId userId busy => .ok (cancelScheduledMail cfg s letterId userId busy).1
  | .cancelLeft jobId expectedUserId => cancelLeftLetterJob cfg s jobId expectedUserId
  | .resolve jobId expectedUserId decision provider =>
    resolveAmbiguousLetterJob cfg s jobId expectedUserId decision provider
  | .retry jobId expectedUserId => retryLetterJob s jobId expectedUserId
  | .release jobId expectedUserId => releaseHeldLetterJob s jobId expectedUserId
  | .providerCancelled letterId => failProviderCancelledLetter cfg s letterId
  | .syncStatus letterId status => syncStatus s letterId status
  | .redact letterId redacted => .ok (redactLetter s letterId redacted)

abbrev Reachable (cfg : Config) : Store → Prop := Reach (step cfg) anyStep {}

end LetterIRL.Mail
