import LetterIRL.Ledger.Account

namespace LetterIRL.Commerce
open Lib Ledger

/-- Deployment settings the commerce functions read. -/
structure Config where
  imageGenerationOff : Bool := false
  imageEntitlementsPerPackLetter : Nat := 5
  imageEntitlementsPerJitOrder : Nat := 2
  giftLettersEnabled : Bool := false
  giftLetterTtlDays : Nat := 180
  giftCodeTtlDays : Nat := 90
  packCurrency : Currency := ['u', 's', 'd']
  jitCurrency : Currency := ['u', 's', 'd']
  jitProductSold : JitProductCode → Bool := fun _ => true
  jitAllowWithPrepaidBalance : Bool := false
  jitRefundRetryLimit : Nat := 5
  refundRetryDelaySeconds : Nat := 30
  packRefundStripeAttemptLimit : Nat := 5
  jitCheckoutExpiryMinutes : Nat := 40

abbrev Orders := Table Order.orderId

def ImageEntitlement.source (entitlement : ImageEntitlement) : OrderType × OrderId :=
  (entitlement.sourceType, entitlement.sourceReferenceId)

def GiftLetter.grant (gift : GiftLetter) : GiftSource × Nat :=
  (gift.source, gift.grantIndex)

/-- The tables of one account's commerce. -/
structure Store where
  userId : UserId := 0
  now : Time := 0
  account : Account := {}
  orders : Orders := Table.empty
  packRefunds : Table PackRefund.packRefundId := Table.empty
  disputes : Table Dispute.disputeId := Table.empty
  webhookEvents : Table WebhookEvent.eventId := Table.empty
  imageEntitlements : Table ImageEntitlement.source := Table.empty
  giftLetters : Table GiftLetter.grant := Table.empty
  drafts : Table Draft.draftId := Table.empty
  letters : Table Letter.letterId := Table.empty
  /-- `requestRefund` calls that hold a claimed order while Stripe answers. -/
  refundClaims : List Order := []

/-- An active Pay & Send order of a draft, as `idx_orders_active_jit_draft_unique` counts it. -/
def Order.activeJit (order : Order) : Bool :=
  order.orderType == .jitMail && order.status ∈ ACTIVE_JIT_STATUSES

/-- Two rows the unique indexes of `orders` do not allow together. -/
def Order.conflicts (order other : Order) : Bool :=
  other.orderId != order.orderId &&
    ((order.stripeCheckoutSessionId.isSome &&
        other.stripeCheckoutSessionId == order.stripeCheckoutSessionId) ||
      (order.stripePaymentIntentId.isSome &&
        other.stripePaymentIntentId == order.stripePaymentIntentId) ||
      (order.stripeRefundId.isSome && other.stripeRefundId == order.stripeRefundId) ||
      (order.activeJit && other.activeJit && other.draftId == order.draftId))

/-- `UPDATE orders … WHERE order_id = …`: the row as changed, under the table's constraints. -/
def Store.updateOrder (s : Store) (order : Order) : Except Abort Store :=
  if !order.checks then .error .ordersCheck
  else if s.orders.rows.any order.conflicts then .error .uniqueIndex
  else .ok { s with orders := s.orders.put { order with updatedAt := s.now } }

/-- `INSERT INTO orders`. -/
def Store.insertOrder (s : Store) (order : Order) : Except Abort Store :=
  if fresh : order.orderId ∉ s.orders.rows.map Order.orderId then
    if !order.checks then .error .ordersCheck
    else if s.orders.rows.any order.conflicts then .error .uniqueIndex
    else .ok { s with orders := s.orders.insert order fresh }
  else .error .uniqueIndex

/-- `UPDATE commerce_pack_refunds`, under migration 029's constraints. -/
def Store.updatePackRefund (s : Store) (row : PackRefund) : Except Abort Store :=
  if row.status = .compensated ∧ row.compensationLedgerId = none then .error .refused
  else if s.packRefunds.rows.any fun other =>
      other.packRefundId != row.packRefundId && row.stripeRefundId.isSome &&
        other.stripeRefundId == row.stripeRefundId then .error .uniqueIndex
  else .ok { s with packRefunds := s.packRefunds.put row }

/-- `claimStripeEvent`: `none` when the event was already claimed. -/
def Store.claimStripeEvent (s : Store) (eventId : EventId) (kind : MoneyEvent) : Option Store :=
  if fresh : eventId ∉ s.webhookEvents.rows.map WebhookEvent.eventId then
    some { s with webhookEvents := s.webhookEvents.insert { eventId, kind } fresh }
  else none

/-- Record an event no order matched. -/
def Store.recordUnmatched (s : Store) (event : WebhookEvent) : Store :=
  { s with webhookEvents := s.webhookEvents.put { event with unmatched := true } }

/-- `lockPackRefund`. -/
def Store.packRefund (s : Store) (packRefundId : PackRefundId) : Option PackRefund :=
  s.packRefunds.find packRefundId

/-- The order a Stripe money event names: by its metadata, or by the payment it
belongs to, the newest first. -/
def Store.orderOfRefund (s : Store) (metadataOrderId : Option OrderId) (intent : Option IntentId) :
    Option Order :=
  s.orders.rows.reverse.find? fun order =>
    metadataOrderId == some order.orderId ||
      (intent.isSome && order.stripePaymentIntentId == intent)

/-- `SELECT * FROM orders WHERE stripe_payment_intent_id = $1`. -/
def Store.orderOfIntent (s : Store) (intent : Option IntentId) : Option Order :=
  s.orders.rows.find? fun order => intent.isSome && order.stripePaymentIntentId == intent

/-- `UPDATE image_entitlements SET status = 'revoked' WHERE source_order_id = …`. -/
def Store.revokeImageEntitlements (s : Store) (orderId : OrderId) : Store :=
  { s with
    imageEntitlements := s.imageEntitlements.update
      (fun entitlement => entitlement.sourceReferenceId == orderId && !entitlement.revoked)
      (fun entitlement => { entitlement with revoked := true }) fun _ => rfl }

/-- A gift letter once the purchase that granted it is reversed. -/
def GiftLetter.reverse (gift : GiftLetter) : GiftLetter :=
  match gift.status with
  | .available => { gift with status := .revoked }
  | .consumed => { gift with sourceReversed := true }
  | _ => gift

theorem GiftLetter.reverse_grant (gift : GiftLetter) : gift.reverse.grant = gift.grant := by
  unfold GiftLetter.reverse
  split <;> rfl

/-- `revokeGiftLettersForOrderWithClient`: unsent ones are revoked, sent ones marked. -/
def Store.revokeGiftLettersForOrder (s : Store) (orderId : OrderId) : Store :=
  { s with
    giftLetters := s.giftLetters.update (fun gift => gift.sourceOrderId == some orderId)
      GiftLetter.reverse GiftLetter.reverse_grant }

/-- `grantImageEntitlementWithClient`: one grant per source, none for no images. -/
def grantImageEntitlement (images : Table ImageEntitlement.source) (sourceType : OrderType)
    (orderId : OrderId) (quantity : Nat) : Table ImageEntitlement.source :=
  if quantity = 0 then images
  else images.insertNew { sourceType, sourceReferenceId := orderId, quantity }

/-- `grantPurchaseImageEntitlement`: none while image generation is switched off. -/
def Store.grantPurchaseImageEntitlement (cfg : Config) (s : Store) (sourceType : OrderType)
    (orderId : OrderId) (quantity : Nat) : Store :=
  { s with
    imageEntitlements :=
      if cfg.imageGenerationOff then s.imageEntitlements
      else grantImageEntitlement s.imageEntitlements sourceType orderId quantity }

def packImageGrant (cfg : Config) (credits : Nat) : Nat :=
  credits / 2 * cfg.imageEntitlementsPerPackLetter

/-- `grantGiftLettersWithClient`: idempotent per source and grant index. -/
def grantGiftLettersWithClient (now : Time) (giftLetters : Table GiftLetter.grant) (gift : GiftLetter)
    (quantity : Nat) : Table GiftLetter.grant :=
  (List.range quantity).foldl (fun gifts grantIndex =>
    gifts.insertNew { gift with grantIndex, status := .available, createdAt := now,
                                consumedByLetterId := none, sourceReversed := false }) giftLetters

def Store.grantGiftLetters (s : Store) (gift : GiftLetter) (quantity : Nat) : Store :=
  { s with giftLetters := grantGiftLettersWithClient s.now s.giftLetters { gift with userId := s.userId } quantity }

end LetterIRL.Commerce
