import LetterIRL.Commerce.Sends

namespace LetterIRL.Commerce
open Lib Ledger

/-! Checkout Sessions: what a payment event does to its order. -/

inductive CheckoutEventType
  | completed
  | asyncPaymentSucceeded
  | asyncPaymentFailed
  | expired
  /-- `maintenance.checkout.reconciled`: the maintenance run found the session paid. -/
  | reconciled
  deriving DecidableEq

/-- A Checkout Session as an event carries it. -/
structure CheckoutSession where
  id : SessionId
  /-- The pack product a legacy session's metadata names, with its user. -/
  legacyProduct : Option PackProductCode := none
  /-- `payment_status === 'paid'`. -/
  paid : Bool
  amountTotal : Option Cents
  currency : Option Currency
  paymentIntent : Option IntentId
  url : Bool := false
  expiresAt : Time := 0
  deriving DecidableEq

structure CheckoutEvent where
  eventId : EventId
  eventType : CheckoutEventType
  session : CheckoutSession
  /-- The letter id a fulfilment would take. -/
  letterId : LetterId
  /-- A fault inside the fulfilment's savepoint other than a draft check. -/
  faulted : Bool := false
  deriving DecidableEq

/-- `findCheckoutOrder`: the order in the metadata, else the one the session is attached to. -/
def Store.findCheckoutOrder (s : Store) (session : SessionId) : Option Order :=
  (session.metadataOrderId.bind s.orders.find) <|>
    s.orders.rows.find? fun order => order.stripeCheckoutSessionId == some session

/-- What the session says was paid: `session.amount_total || 0` in the trimmed,
lower-cased currency. -/
def paidFigures (session : CheckoutSession) : Cents × Currency :=
  (session.amountTotal.getD 0, normalizedCurrency (session.currency.getD []))

/-- The order's own figures, through the same normalizer. -/
def Order.figures (order : Order) : Cents × Currency :=
  (order.amountCents, normalizedCurrency order.currency)

/-- The order a legacy session would be adopted as: only at exactly the pinned price. -/
def legacyPackOrder (cfg : Config) (s : Store) (session : CheckoutSession) : Option Order :=
  match session.id, session.legacyProduct.bind fun code =>
      PACK_PRODUCTS.find? fun product => product.productCode == code with
  | .legacy serial, some definition =>
    if session.amountTotal ≠ some definition.expectedAmountCents ∨
        (paidFigures session).2 ≠ normalizedCurrency cfg.packCurrency then none
    else some
      { orderId := .stripe serial, orderType := .letterPack, productCode := .pack definition.productCode,
        credits := definition.credits, amountCents := definition.expectedAmountCents,
        currency := normalizedCurrency cfg.packCurrency, stripeCheckoutSessionId := some session.id,
        stripePaymentIntentId := session.paymentIntent, checkoutExpiresAt := some session.expiresAt,
        createdAt := s.now, updatedAt := s.now }
  | _, _ => none

/-- An unmatched money event that is this order's: by payment, or by metadata; a
dispute's only when the dispute's own payment is the one the order ends up with. -/
def unmatchedMoney (s : Store) (order : Order) (session : CheckoutSession) (event : WebhookEvent) : Bool :=
  event.unmatched &&
    ((session.paymentIntent.isSome && event.providerPaymentIntentId == session.paymentIntent) ||
      event.metadataOrderId == some order.orderId) &&
    match event.kind with
    | .dispute disputeId =>
      s.disputes.rows.any fun dispute => dispute.disputeId == disputeId &&
        dispute.paymentIntentId.isSome &&
        dispute.paymentIntentId == (order.stripePaymentIntentId <|> session.paymentIntent)
    | _ => true

/-- The dispute an event reports, if it is a dispute's event. -/
def WebhookEvent.disputeId (event : WebhookEvent) : Option DisputeId :=
  match event.kind with
  | .dispute disputeId => some disputeId
  | _ => none

/-- The order money found waiting for it leaves: held by a dispute, or owed a refund. -/
def recoveredOrder (now : Time) (order : Order) (session : CheckoutSession) (isDispute : Bool) : Order :=
  let attached : Order := { order with
    stripeCheckoutSessionId := order.stripeCheckoutSessionId <|> some session.id
    stripePaymentIntentId := order.stripePaymentIntentId <|> session.paymentIntent
    lastErrorCode :=
      if order.lastErrorCode = some .paymentAmountMismatch then order.lastErrorCode
      else some .unmatchedMoneyEventRecovered }
  if isDispute then { attached with
    status := .disputed
    holdPreviousStatus := order.holdPreviousStatus <|> some order.status
    heldAt := order.heldAt <|> some now
    holdReason := some .paymentDisputed }
  else { attached with
    status := .refundPending
    refundPendingAt := order.refundPendingAt <|> some now }

/-- The recovered disputes not already the account's, by id. -/
def takenOver (s : Store) (disputeIds : List DisputeId) : List Dispute :=
  (s.disputes.rows.filter fun dispute => dispute.disputeId ∈ disputeIds && !dispute.ours).insertionSort
    fun first second => first.disputeId ≤ second.disputeId

/-- Each loss's revocation of a pack, in order. -/
def Store.revokeForLosses (s : Store) (order : Order) (losses : List Dispute) : Store :=
  losses.foldl (fun revoked loss => revoked.revokePackLots order (.paymentDisputed loss.disputeId)) s

/-- `applyRecoveredDisputes`: the loss rule for disputes recorded while no order
matched. An order still at Checkout has had nothing granted, so the block is the
whole of it. -/
def applyRecoveredDisputes (s : Store) (order : Order) (disputeIds : List DisputeId) :
    Except Abort Store :=
  let disputes := takenOver s disputeIds
  let losses := disputes.filter standing
  match (losses ++ disputes).head? with
  | none => .ok s
  | some shown =>
    match s.orders.find order.orderId with
    | none => .ok s
    | some current => do
      let ours := { s with
        disputes := s.disputes.update (fun dispute => dispute.disputeId ∈ disputeIds)
          (fun dispute => { dispute with ours := true }) fun _ => rfl }
      let displayed ← ours.updateOrder { current with stripeDisputeStatus := some shown.status }
      let revoked :=
        if order.status ≠ .checkoutPending ∧ order.orderType = .letterPack then
          displayed.revokeForLosses order losses
        else displayed
      .ok (if losses = [] then revoked else revoked.blockAccountSends)

/-- The events a recovery marks processed: those found, and the others of their disputes. -/
def markProcessed (s : Store) (found : List EventId) (disputeIds : List DisputeId) : Store :=
  { s with
    webhookEvents := s.webhookEvents.update
      (fun event => event.eventId ∈ found ||
        (event.unmatched && event.disputeId.any fun disputeId => disputeId ∈ disputeIds))
      (fun event => { event with unmatched := false }) fun _ => rfl }

/-- The checkout found money events waiting for its order. -/
def recoverUnmatchedMoney (s : Store) (order : Order) (session : CheckoutSession)
    (events : List WebhookEvent) : Except Abort Store := do
  let disputeIds := events.filterMap WebhookEvent.disputeId
  let held ← s.updateOrder (recoveredOrder s.now order session (disputeIds ≠ []))
  applyRecoveredDisputes (markProcessed held (events.map WebhookEvent.eventId) disputeIds) order disputeIds

/-- The order with the paid session's references. -/
def attachedOrder (order : Order) (session : CheckoutSession) : Order :=
  { order with
    stripeCheckoutSessionId := order.stripeCheckoutSessionId <|> some session.id
    stripePaymentIntentId := order.stripePaymentIntentId <|> session.paymentIntent
    checkoutUrl := order.checkoutUrl || session.url }

/-- The purchase grant of a pack order. -/
def packGrant (order : Order) (session : SessionId) : AddCredits :=
  { credits := order.credits, sourceType := .purchase,
    sourceReferenceId := some (.order order.orderId), stripeSessionId := some session,
    expirationDays := some PURCHASE_CREDIT_EXPIRY_DAYS }

/-- The gift letters of the order's product, while the programme is on. -/
def giftQuantity (cfg : Config) (order : Order) : Nat :=
  if cfg.giftLettersEnabled then
    match PACK_PRODUCTS.find? fun product => order.productCode == .pack product.productCode with
    | none => 0
    | some product => product.giftLetters
  else 0

/-- The gift letters a pack brings. -/
def packGift (cfg : Config) (now : Time) (order : Order) : GiftLetter :=
  { source := .packPurchase order.orderId
    generationsRemaining :=
      match PACK_PRODUCTS.find? fun product => order.productCode == .pack product.productCode with
      | none => 0
      | some product => product.giftGenerationsRemaining
    sourceOrderId := some order.orderId
    expiresAt := some (now + days cfg.giftLetterTtlDays)
    createdAt := now }

/-- The pack branch of `transitionPaidCheckout`: the lot, the images, the gifts, then `fulfilled`. -/
def fulfilPack (cfg : Config) (s : Store) (order : Order) (session : SessionId) : Except Abort Store := do
  let account ← addCreditsToLedgerWithClient s.now s.account (packGrant order session)
  let granted := Store.grantPurchaseImageEntitlement cfg { s with account } .letterPack order.orderId
    (packImageGrant cfg order.credits)
  let gifted := granted.grantGiftLetters (packGift cfg s.now order) (giftQuantity cfg order)
  gifted.updateOrder { order with status := .fulfilled }

/-- The mail of a paid Pay & Send order, with its images, inside a savepoint: any
fault there leaves the order owed a refund. -/
def fulfilJit (cfg : Config) (s : Store) (order : Order) (letterId : LetterId) (faulted : Bool)
    (code : ErrorCode) : Except Abort Store :=
  let rejected := { order with
    status := .refundPending, refundPendingAt := some s.now, lastErrorCode := some code }
  match order.draftId with
  | none => s.updateOrder rejected
  | some draftId =>
    match createMailOrderFromDraftWithClient s draftId (snapshotMailType order.productCode)
        (.jitOrder order.orderId) letterId with
    | .error _ => s.updateOrder rejected
    | .ok sent =>
      if faulted then s.updateOrder rejected
      else .ok (Store.grantPurchaseImageEntitlement cfg sent .jitMail order.orderId
        cfg.imageEntitlementsPerJitOrder)

/-- The order marked paid, its old error gone. -/
def paidOrder (order : Order) : Order :=
  { order with status := .paid, lastErrorCode := none }

/-- The order quarantined because the payment was not for its amount or currency. -/
def mismatchedOrder (now : Time) (order : Order) : Order :=
  { order with
    status := .refundPending, refundPendingAt := some now, lastErrorCode := some .paymentAmountMismatch }

/-- `transitionPaidCheckout`. -/
def transitionPaidCheckout (cfg : Config) (s : Store) (order : Order) (event : CheckoutEvent) :
    Except Abort Store := do
  let attached := attachedOrder order event.session
  let seen ← s.updateOrder attached
  if !event.session.paid then .ok seen
  else if order.status ∈ FUNDED_OR_REVERSED_ORDER_STATUSES then .ok seen
  else if paidFigures event.session ≠ order.figures then seen.updateOrder (mismatchedOrder s.now attached)
  else do
    let paid ← seen.updateOrder (paidOrder attached)
    match order.orderType with
    | .letterPack => fulfilPack cfg paid (paidOrder attached) event.session.id
    | .jitMail =>
      fulfilJit cfg paid (paidOrder attached) event.letterId event.faulted .jitFulfillmentRejected

/-- An event of a payment that did not happen ends a checkout still pending. -/
def endCheckout (s : Store) (order : Order) (status : OrderStatus) : Except Abort Store :=
  if order.status ≠ .checkoutPending then .ok s else s.updateOrder { order with status }

/-- What the event does once its order is known. -/
def applyCheckoutEvent (cfg : Config) (s : Store) (order : Order) (event : CheckoutEvent) :
    Except Abort Store :=
  match s.webhookEvents.rows.filter (unmatchedMoney s order event.session) with
  | first :: rest => recoverUnmatchedMoney s order event.session (first :: rest)
  | [] =>
    -- Once a session is attached, no other session may authorize the order.
    if order.stripeCheckoutSessionId.isSome && order.stripeCheckoutSessionId != some event.session.id then
      .ok s
    else
      match event.eventType with
      | .asyncPaymentFailed => endCheckout s order .paymentFailed
      | .expired => endCheckout s order .cancelled
      | _ => transitionPaidCheckout cfg s order event

/-- `processCheckoutSessionEvent`. -/
def processCheckoutSessionEvent (cfg : Config) (s : Store) (event : CheckoutEvent) : Except Abort Store :=
  match s.claimStripeEvent event.eventId .checkout with
  | none => .ok s
  | some claimed =>
    match claimed.findCheckoutOrder event.session.id with
    | some order => applyCheckoutEvent cfg claimed order event
    | none =>
      match legacyPackOrder cfg claimed event.session with
      | some order => do
        let adopted ← claimed.insertOrder order
        applyCheckoutEvent cfg adopted order event
      | none =>
        .ok (if event.session.paid then claimed.recordUnmatched
          { eventId := event.eventId, kind := .checkout,
            providerPaymentIntentId := event.session.paymentIntent }
        else claimed)

/-- `fulfillPaidOrder`: the maintenance run's recovery of an order left `paid`. -/
def fulfillPaidOrder (cfg : Config) (s : Store) (orderId : OrderId) (letterId : LetterId) (faulted : Bool) :
    Except Abort Store :=
  match s.orders.find orderId with
  | none => .error .refused
  | some order =>
    if order.orderType ≠ .jitMail ∨ order.status ≠ .paid then .error .refused
    else fulfilJit cfg s order letterId faulted .recoveryFailed

/-- `repairFulfilledPackGrant`: the grant of a fulfilled order found without its lot. -/
def repairFulfilledPackGrant (cfg : Config) (s : Store) (orderId : OrderId) (session : SessionId)
    (expectedCredits : Nat) (paidAmountCents : Cents) (paidCurrency : Currency) : Except Abort Store :=
  match s.orders.find orderId with
  | none => .error .refused
  | some order =>
    if order.orderType ≠ .letterPack ∨ order.status ≠ .fulfilled ∨
        order.stripeCheckoutSessionId ≠ some session ∨ order.credits ≠ expectedCredits ∨
        order.amountCents ≠ paidAmountCents ∨
        normalizedCurrency order.currency ≠ normalizedCurrency paidCurrency then .error .refused
    else
      let imaged := Store.grantPurchaseImageEntitlement cfg s .letterPack orderId
        (packImageGrant cfg order.credits)
      if s.account.creditLedger.rows.any fun lot =>
          lot.sourceType == .purchase && lot.sourceReferenceId == some (.order orderId) then .ok imaged
      else do
        let account ← addCreditsToLedgerWithClient s.now imaged.account (packGrant order session)
        .ok { imaged with account }

end LetterIRL.Commerce
