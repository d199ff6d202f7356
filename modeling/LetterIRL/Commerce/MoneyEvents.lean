import LetterIRL.Commerce.PackRefunds

namespace LetterIRL.Commerce
open Lib Ledger

/-! Refund and dispute webhooks, and the refunds the app itself asks for. -/

/-- A `refund.*` event, or `charge.refunded` with its cumulative figure. -/
structure RefundEvent where
  eventId : EventId
  /-- `eventType.startsWith('refund.')`. -/
  isRefund : Bool
  refundId : RefundId
  paymentIntent : Option IntentId
  metadataOrderId : Option OrderId := none
  packRefundId : Option PackRefundId := none
  status : RefundStatus
  amount : Cents
  deriving DecidableEq

/-- The refund's status as the handler reads it: a charge event reports money gone. -/
def RefundEvent.refundStatus (event : RefundEvent) : RefundStatus :=
  if event.isRefund then event.status else .succeeded

/-- The full refund, or not: measured against what is known to have left. -/
def completesThePayment (s : Store) (order : Order) (event : RefundEvent) : Bool :=
  if event.isRefund then order.amountCents ≤ knownRefundedCents s order + event.amount
  else order.amountCents ≤ event.amount

/-- The order a full refund leaves. -/
def refundedOrder (now : Time) (order : Order) (event : RefundEvent) (nextStatus : OrderStatus) : Order :=
  { order with
    status := nextStatus
    stripeRefundId := if event.isRefund then some event.refundId else order.stripeRefundId
    refundPendingAt :=
      if nextStatus = .refundPending then order.refundPendingAt <|> some now else order.refundPendingAt
    refundedAt := if nextStatus = .refunded then some now else order.refundedAt
    amountRefundedCents := if nextStatus = .refunded then order.amountCents else order.amountRefundedCents }

/-- `clearRefundHold`. -/
def clearRefundHold (order : Order) : Order :=
  if order.lastErrorCode = some .refundNotCompleted then { order with lastErrorCode := none } else order

/-- The code `holdRefundNotCompletedWithClient` leaves on an order still `refund_pending`. -/
def holdRefundNotCompleted (order : Order) : Order :=
  if order.status = .refundPending ∧ order.lastErrorCode ≠ some .paymentAmountMismatch then
    { order with lastErrorCode := some .refundNotCompleted }
  else order

/-- The full-refund branch: a pack's lots and gifts go, then the images, then the order changes. -/
def applyFullRefund (s : Store) (order : Order) (event : RefundEvent) : Except Abort Store :=
  if event.refundStatus = .succeeded then
    let revoked := if order.orderType = .letterPack then s.revokePackLots order .paymentRefunded else s
    (revoked.revokeImageEntitlements order.orderId).updateOrder
      (clearRefundHold (refundedOrder s.now order event .refunded))
  else
    let pending := refundedOrder s.now order event .refundPending
    s.updateOrder
      (if event.isRefund ∧ event.status.ended then holdRefundNotCompleted pending else pending)

/-- The command a refund's metadata names, when the refund is that command's. -/
def matchesCommand (order : Order) (event : RefundEvent) (command : PackRefund) : Bool :=
  command.orderId == order.orderId && event.paymentIntent == some command.stripePaymentIntentId &&
    command.amountCents == event.amount &&
    (command.stripeRefundId.isNone || command.stripeRefundId == some event.refundId)

/-- `processRefundEvent`. Refunds no command matches and partial refunds open an
alert for an operator and change no balance. -/
def processRefundEvent (s : Store) (event : RefundEvent) : Except Abort Store :=
  match s.claimStripeEvent event.eventId .refund with
  | none => .ok s
  | some claimed =>
    match claimed.orderOfRefund event.metadataOrderId event.paymentIntent with
    | none => .ok (claimed.recordUnmatched
        { eventId := event.eventId, kind := .refund, providerPaymentIntentId := event.paymentIntent,
          metadataOrderId := event.metadataOrderId })
    | some order =>
      match (if event.isRefund then event.packRefundId else none) with
      | some packRefundId =>
        match claimed.packRefund packRefundId with
        | none => .ok claimed
        | some command =>
          if matchesCommand order event command then
            settlePackRefund claimed command { id := event.refundId, status := event.status }
          else .ok claimed
      | none =>
        if !completesThePayment claimed order event then .ok claimed
        else if order.status = .refunded then .ok claimed
        else applyFullRefund claimed order event

/-- `requestRefund`, the claim: what the caller holds while Stripe answers. -/
def claimRefund (cfg : Config) (s : Store) (orderId : OrderId) : Except Abort Store :=
  match s.orders.find orderId with
  | none => .error .refused
  | some order =>
    if cfg.jitRefundRetryLimit = 0 then .error .refused
    else if order.status ≠ .refundPending ∨ order.lastErrorCode = some .paymentAmountMismatch ∨
        order.lastErrorCode = some .refundNotCompleted ∨ order.stripePaymentIntentId = none ∨
        (order.refundAttempts ≠ 0 ∧ s.now < order.updatedAt + cfg.refundRetryDelaySeconds) then
      .error .refused
    else do
      let claim := { order with
        refundAttempts :=
          if order.stripeRefundId = none ∧ order.refundAttempts < cfg.jitRefundRetryLimit then
            order.refundAttempts + 1
          else order.refundAttempts
        refundPendingAt := order.refundPendingAt <|> some s.now }
      let claimed ← s.updateOrder claim
      .ok { claimed with refundClaims := claim :: claimed.refundClaims }

/-- The order once Stripe has answered a refund the app asked for. -/
def requestedOrder (now : Time) (order : Order) (outcome : StripeRefundOutcome) : Order :=
  { order with
    stripeRefundId := some outcome.id
    status := if outcome.status = .succeeded then .refunded else .refundPending
    refundedAt := if outcome.status = .succeeded then some now else order.refundedAt }

/-- `requestRefund`, the outcome: a webhook that finalized the same refund
meanwhile wins, and this is a no-op. Revocations use the order as claimed. -/
def finalizeRefund (s : Store) (claim : Order) (outcome : StripeRefundOutcome) : Except Abort Store :=
  if claim ∉ s.refundClaims then .error .refused
  else
    match s.orders.find claim.orderId with
    | none => .ok s
    | some order =>
      if order.status ≠ .refundPending then .ok s
      else if outcome.status = .succeeded then
        let revoked := if claim.orderType = .letterPack then s.revokePackLots claim .paymentRefunded else s
        (revoked.revokeImageEntitlements claim.orderId).updateOrder
          (clearRefundHold (requestedOrder s.now order outcome))
      else s.updateOrder (requestedOrder s.now order outcome)

/-- `requestRefund` found the order's refund ended at Stripe: a person decides. -/
def holdEndedRefund (s : Store) (claim : Order) : Except Abort Store :=
  if claim ∉ s.refundClaims then .error .refused
  else
    match s.orders.find claim.orderId with
    | none => .ok s
    | some order =>
      if order.stripeRefundId ≠ claim.stripeRefundId then .ok s
      else s.updateOrder (holdRefundNotCompleted order)

/-- `requestRefund`'s catch: the order stays, with a code. -/
def failRefundRequest (s : Store) (claim : Order) : Except Abort Store :=
  if claim ∉ s.refundClaims then .error .refused
  else
    match s.orders.find claim.orderId with
    | none => .ok s
    | some order =>
      if order.status ≠ .refundPending then .ok s
      else s.updateOrder { order with lastErrorCode := some .refundRequestFailed }

inductive DisputeEventType
  | created
  | updated
  | fundsWithdrawn
  | closed
  deriving DecidableEq

/-- A `charge.dispute.*` event. -/
structure DisputeEvent where
  eventId : EventId
  eventType : DisputeEventType
  disputeId : DisputeId
  status : DisputeStatus
  paymentIntent : Option IntentId
  deriving DecidableEq

def DisputeEvent.closes (event : DisputeEvent) : Bool := event.eventType == .closed

def DisputeEvent.escalation (event : DisputeEvent) : Bool :=
  event.eventType == .updated || event.eventType == .fundsWithdrawn

/-- `priorLoss`: the dispute was a loss whose effects ran. -/
def priorLoss (prior : Option Dispute) : Bool :=
  match prior with
  | none => false
  | some dispute => dispute.status.loss && dispute.ours

/-- `settledBefore`: an event other than a close, after the close. -/
def settledBefore (prior : Option Dispute) (event : DisputeEvent) : Bool :=
  !event.closes && match prior with
    | none => false
    | some dispute => dispute.resolved

/-- `recordedOnly`: the event brings nothing new. -/
def recordedOnly (prior : Option Dispute) (event : DisputeEvent) : Bool :=
  !event.closes &&
    (settledBefore prior event || priorLoss prior || (event.escalation && !event.status.loss))

def keepStoredStatus (prior : Option Dispute) (event : DisputeEvent) : Bool :=
  settledBefore prior event || (!event.closes && priorLoss prior && !event.status.loss)

/-- The row `recordDispute` writes: a resolution is set, never cleared. -/
def recordedDispute (prior : Option Dispute) (event : DisputeEvent) (ours : Bool) : Dispute :=
  match prior with
  | none =>
    { disputeId := event.disputeId, paymentIntentId := event.paymentIntent, ours, status := event.status,
      resolved := event.closes }
  | some dispute =>
    { dispute with
      paymentIntentId := event.paymentIntent <|> dispute.paymentIntentId
      ours := ours || dispute.ours
      status := if keepStoredStatus prior event then dispute.status else event.status
      resolved := dispute.resolved || event.closes }

/-- `recordDispute`: keyed on Stripe's dispute id. -/
def Store.recordDispute (s : Store) (event : DisputeEvent) (ours : Bool) : Store :=
  let row := recordedDispute (s.disputes.find event.disputeId) event ours
  { s with disputes := (s.disputes.insertNew row).put row }

/-- `blockAccountSends`: an earlier block keeps its reason. -/
def Store.blockAccountSends (s : Store) : Store :=
  { s with account := { s.account with
      sendsBlockedReason := s.account.sendsBlockedReason <|> some .paymentDisputed } }

/-- `unblockAccountSends`: only a dispute's block, and while no other dispute would justify it. -/
def Store.unblockAccountSends (s : Store) (resolved : DisputeId) : Store :=
  if s.account.sendsBlockedReason ≠ some .paymentDisputed ∨
      s.disputes.rows.any fun other => other.ours && other.disputeId != resolved && standing other then s
  else { s with account := { s.account with sendsBlockedReason := none } }

/-- A lot a dispute revoked, by its audit row, with what it held. -/
def disputeAudit (disputeId : DisputeId) (revoked audit : Lot) : Bool :=
  audit.relatedLedgerId == some revoked.ledgerId && audit.sourceType == .refund &&
    audit.sourceMetadata.reason == some .paymentDisputed &&
    audit.sourceMetadata.disputeId == some disputeId

/-- `NOT EXISTS` a compensation of this lot: a lot is compensated once. -/
def compensatedLot (ledger : CreditLedger) (revoked : Lot) : Bool :=
  ledger.rows.any fun compensation =>
    compensation.relatedLedgerId == some revoked.ledgerId && compensation.sourceType == .adjustment &&
      compensation.sourceMetadata.reason == some .disputeResolvedInOurFavour

/-- The lots of the order this dispute took that nothing has made good, with the
credits each held (`remaining_at_revocation`), those that held some. -/
def disputeRestores (ledger : CreditLedger) (order : Order) (disputeId : DisputeId) : List (Lot × Nat) :=
  ((ledger.rows.filter fun revoked =>
      packLot order revoked && revoked.status == .revoked && !compensatedLot ledger revoked).flatMap
    fun revoked => (ledger.rows.filter (disputeAudit disputeId revoked)).map fun audit =>
      (revoked, audit.sourceMetadata.remainingAtRevocation)).filter fun entry => 0 < entry.2

/-- The compensating lot: the source's expiry, linked to the lot it makes good. -/
def disputeCompensation (now : Time) (order : Order) (disputeId : DisputeId) (entry : Lot × Nat) : Lot :=
  { ledgerId := 0, initialAmount := entry.2, remainingAmount := entry.2, sourceType := .adjustment,
    sourceReferenceId := some (.order order.orderId),
    sourceMetadata := { reason := some .disputeResolvedInOurFavour, disputeId := some disputeId },
    expiresAt := entry.1.expiresAt, relatedLedgerId := some entry.1.ledgerId, createdAt := now }

/-- `compensateDisputedPacks`. A refunded order must never be compensated: the
guard reads the status the order had before this event. -/
def compensateDisputedPacks (now : Time) (account : Account) (order : Order) (disputeId : DisputeId) :
    Account :=
  if order.status = .refunded ∨ order.status = .refundPending then account
  else
    let entries := disputeRestores account.creditLedger order disputeId
    { account with
      credits := account.credits + total Prod.snd entries
      creditLedger := postLots (entries.map (disputeCompensation now order disputeId))
        account.creditLedger }

/-- The order a matched dispute leaves: held, with its first previous status kept. -/
def disputedOrder (now : Time) (order : Order) (status : DisputeStatus) : Order :=
  { order with
    status := .disputed
    holdPreviousStatus := order.holdPreviousStatus <|> some order.status
    heldAt := order.heldAt <|> some now
    holdReason := some .paymentDisputed
    stripeDisputeStatus := some status }

/-- The loss, or the favourable close, once the order is held. -/
def applyDisputeOutcome (s : Store) (order : Order) (event : DisputeEvent) : Store :=
  if event.status.loss then
    let revoked :=
      if order.orderType = .letterPack then s.revokePackLots order (.paymentDisputed event.disputeId)
      else s
    revoked.blockAccountSends
  else if event.closes && event.status ∈ FAVOURABLE_DISPUTE_STATUSES then
    let compensated :=
      if order.orderType = .letterPack then
        { s with account := compensateDisputedPacks s.now s.account order event.disputeId }
      else s
    compensated.unblockAccountSends event.disputeId
  else s

/-- `processDisputeEvent`. -/
def processDisputeEvent (s : Store) (event : DisputeEvent) : Except Abort Store :=
  match s.claimStripeEvent event.eventId (.dispute event.disputeId) with
  | none => .ok s
  | some claimed =>
    let prior := claimed.disputes.find event.disputeId
    match claimed.orderOfIntent event.paymentIntent with
    | none =>
      .ok ((claimed.recordDispute event false).recordUnmatched
        { eventId := event.eventId, kind := .dispute event.disputeId,
          providerPaymentIntentId := event.paymentIntent })
    | some order =>
      let recorded := claimed.recordDispute event true
      if recordedOnly prior event then
        if keepStoredStatus prior event then .ok recorded
        else recorded.updateOrder { order with stripeDisputeStatus := some event.status }
      else do
        let held ← recorded.updateOrder (disputedOrder s.now order event.status)
        .ok (applyDisputeOutcome held order event)

/-- `liftSendBlock`: refused while a dispute that would justify a block stands. -/
def liftSendBlock (s : Store) : Except Abort Store :=
  if s.account.sendsBlockedReason = none then .error .refused
  else if s.disputes.rows.any fun dispute => dispute.ours && standing dispute then .error .refused
  else .ok { s with account := { s.account with sendsBlockedReason := none } }

/-- `releaseAmountMismatchQuarantine`. -/
def releaseAmountMismatchQuarantine (s : Store) (orderId : OrderId) : Except Abort Store :=
  match s.orders.find orderId with
  | none => .error .refused
  | some order =>
    if order.lastErrorCode ≠ some .paymentAmountMismatch then .error .refused
    else s.updateOrder { order with lastErrorCode := none }

end LetterIRL.Commerce
