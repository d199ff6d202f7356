import LetterIRL.Commerce.AccountSteps
import LetterIRL.Commerce.OrderRows
import LetterIRL.Lib.Outcome

namespace LetterIRL.Commerce
open Lib Ledger Relation

/-! The writes a transaction is made of. Every invariant is proved of these. -/

/-- Statuses of a Pay & Send order whose letter exists. -/
def MAILED_ORDER_STATUSES : List OrderStatus := [.fulfillmentPending, .fulfilled, .held]

/-- No lot bought by the order or posted against it has credits left to spend. -/
def Store.packRevoked (s : Store) (orderId : OrderId) : Prop :=
  ∀ lot ∈ s.account.creditLedger.rows, lot.sourceType = .purchase ∨ lot.sourceType = .adjustment →
    lot.sourceReferenceId = some (.order orderId) → lot.status = .revoked

/-- An update of one order that grants, withdraws and refunds nothing. -/
structure OrderMove (s : Store) (old new : Order) : Prop extends Order.Advances old new where
  unpaid : new.status = .paid → old.status = .paid
  ungranted : new.orderType = .letterPack → new.status = .fulfilled → old.status = .fulfilled
  mailed : new.orderType = .jitMail → new.status ∈ MAILED_ORDER_STATUSES →
    old.status ∈ MAILED_ORDER_STATUSES ∨
      ∃ letter ∈ s.letters.rows, letter.fundingOrderId = some new.orderId
  emptied : new.orderType = .letterPack → new.status = .refunded →
    old.status = .refunded ∨ s.packRevoked new.orderId ∧ new.refundedAt.isSome = true

/-- How a refund command's row moves outside a success and a compensation. -/
structure PackRefund.Waits (old new : PackRefund) : Prop where
  packRefundId : new.packRefundId = old.packRefundId
  orderId : new.orderId = old.orderId
  credits : new.credits = old.credits
  amountCents : new.amountCents = old.amountCents
  status : (old.inFlight = true ∧ new.inFlight = true) ∨ (old.inUse = true ∧ new.status = .failed)

/-- Whom a transaction gives something back to: letters to an order, or its credits to a letter;
and the order whose letters its money takes back, or made good. -/
inductive Beneficiary
  | order (orderId : OrderId)
  | letter (letterId : LetterId)
  | reversed (orderId : OrderId)
  deriving DecidableEq

/-- One write, with what the code around it checked. Letters go back only to the
orders of `hands`, and credits only to its letters. -/
inductive Write (cfg : Config) (hands : Beneficiary → Prop) (s : Store) : Store → Prop
  | tick (elapsed : Time) : Write cfg hands s { s with now := s.now + elapsed }
  | notes (disputes : Table Dispute.disputeId) (webhookEvents : Table WebhookEvent.eventId) :
      Write cfg hands s { s with disputes, webhookEvents }
  | claim {claim order : Order} (found : s.orders.find claim.orderId = some order)
      (terms : order.terms = claim.terms) : Write cfg hands s { s with refundClaims := claim :: s.refundClaims }
  | account (event : AccountEvent) {account : Account} (loose : event.loose = true)
      (returned : ∀ letterId, event = .returnCredits letterId → hands (.letter letterId))
      (reversed : ∀ order cause, event = .revokeWholePack order cause → hands (.reversed order.orderId))
      (applied : applyAccountEvent s.now s.account event = .ok account) : Write cfg hands s { s with account }
  | restore {order current : Order} (disputeId : DisputeId)
      (found : s.orders.find order.orderId = some current) (pack : current.orderType = .letterPack)
      (disputed : current.status = .disputed) (handed : hands (.order order.orderId))
      (reversed : hands (.reversed order.orderId)) :
      Write cfg hands s { s with account := compensateDisputedPacks s.now s.account order disputeId }
  | images {order : Order} (quantity : Nat) (found : s.orders.find order.orderId = some order) :
      Write cfg hands s (s.grantPurchaseImageEntitlement cfg order.orderType order.orderId quantity)
  | gifts {order : Order} (found : s.orders.find order.orderId = some order)
      (pack : order.orderType = .letterPack) :
      Write cfg hands s (s.grantGiftLetters (packGift cfg s.now order) (giftQuantity cfg order))
  | otherGifts (reference generationsRemaining : Nat) (cardCampaignId : Option CampaignId) (expiresAt : Time) :
      Write cfg hands s
        (s.grantGiftLetters (grantedGift s.now reference generationsRemaining cardCampaignId expiresAt) 1)
  | revokeImages (orderId : OrderId) : Write cfg hands s (s.revokeImageEntitlements orderId)
  | revokeGifts (orderId : OrderId) : Write cfg hands s (s.revokeGiftLettersForOrder orderId)
  | openOrder {order : Order} (opened : order.Opened) (checked : order.checks = true)
      (fresh : order.orderId ∉ s.orders.rows.map Order.orderId) :
      Write cfg hands s { s with orders := s.orders.insert order fresh }
  | moveOrder {old new : Order} (found : s.orders.find new.orderId = some old)
      (moved : OrderMove s old new) (checked : new.checks = true) :
      Write cfg hands s { s with orders := s.orders.put (new.stamped s.now) }
  | refundOrder {old new : Order} (found : s.orders.find new.orderId = some old) (moved : old.Moves new)
      (creditsRefunded : new.creditsRefunded = old.creditsRefunded) (status : new.status = .refunded)
      (whole : new.amountRefundedCents = new.amountCents) (dated : new.refundedAt.isSome = true)
      (emptied : new.orderType = .letterPack → s.packRevoked new.orderId) (checked : new.checks = true) :
      Write cfg hands s { s with orders := s.orders.put (new.stamped s.now) }
  | fulfilPack {old new : Order} {session : SessionId} {account : Account}
      (found : s.orders.find new.orderId = some old) (pack : old.orderType = .letterPack)
      (unfunded : old.status ∉ FUNDED_OR_REVERSED_ORDER_STATUSES) (moved : old.Advances new)
      (status : new.status = .fulfilled) (attached : new.stripeCheckoutSessionId = some session)
      (granted : addCreditsToLedgerWithClient s.now s.account (packGrant new session) = .ok account)
      (checked : new.checks = true) :
      Write cfg hands s { s with account, orders := s.orders.put (new.stamped s.now) }
  | regrantPack {order : Order} {session : SessionId} {account : Account}
      (found : s.orders.find order.orderId = some order) (pack : order.orderType = .letterPack)
      (status : order.status = .fulfilled) (attached : order.stripeCheckoutSessionId = some session)
      (missing : ∀ lot ∈ s.account.creditLedger.rows, lot.sourceType = .purchase →
        lot.sourceReferenceId ≠ some (.order order.orderId))
      (granted : addCreditsToLedgerWithClient s.now s.account (packGrant order session) = .ok account) :
      Write cfg hands s { s with account }
  | mailOrder {old new : Order} {draft : Draft} {letterId : LetterId} {product : JitProduct}
      (found : s.orders.find new.orderId = some old) (jit : old.orderType = .jitMail)
      (unfunded : old.status ∉ FUNDED_OR_REVERSED_ORDER_STATUSES) (moved : old.Advances new)
      (status : new.status = .fulfillmentPending) (checked : new.checks = true)
      (drafted : s.drafts.find draft.draftId = some draft) (ordered : new.draftId = some draft.draftId)
      (pending : draft.status = .pending) (priced : jitProductMatching draft.mailOption = some product)
      (paidFor : new.productCode = .jit product.productCode)
      (fresh : letterId ∉ s.letters.rows.map Letter.letterId) :
      Write cfg hands s { s with
        letters := s.letters.insert
          { letterId, fundingType := .jitOrder, fundingOrderId := some new.orderId, draftId := draft.draftId }
          fresh
        drafts := s.drafts.put (consumedDraft draft letterId)
        orders := s.orders.put (new.stamped s.now) }
  | mailPrepaid {draft : Draft} {letterId : LetterId} {account : Account}
      (drafted : s.drafts.find draft.draftId = some draft) (pending : draft.status = .pending)
      (fresh : letterId ∉ s.letters.rows.map Letter.letterId)
      (deducted : deductCreditsFromLedgerWithClient s.now s.account draft.requiredCredits letterId =
        .ok account) :
      Write cfg hands s { s with
        letters := s.letters.insert { letterId, fundingType := .prepaidBalance, draftId := draft.draftId } fresh
        account
        drafts := s.drafts.put (consumedDraft draft letterId) }
  | mailGift {draft : Draft} {letterId : LetterId} {gift : GiftLetter} {giftLetters : Table GiftLetter.grant}
      (drafted : s.drafts.find draft.draftId = some draft) (pending : draft.status = .pending)
      (fresh : letterId ∉ s.letters.rows.map Letter.letterId)
      (spent : consumeGiftLetter s.now s.giftLetters s.userId letterId = some (gift, giftLetters)) :
      Write cfg hands s { s with
        letters := s.letters.insert { letterId, fundingType := .giftLetter, draftId := draft.draftId } fresh
        giftLetters
        drafts := s.drafts.put (consumedDraft draft letterId) }
  | openDraft {draft : Draft} (pending : draft.status = .pending)
      (fresh : draft.draftId ∉ s.drafts.rows.map Draft.draftId) :
      Write cfg hands s { s with drafts := s.drafts.insert draft fresh }
  | changeDraft {old new : Draft} (found : s.drafts.find new.draftId = some old)
      (pending : old.status = .pending) (unsent : new.status ≠ .consumed) :
      Write cfg hands s { s with drafts := s.drafts.put new }
  | withdraw {order : Order} {row : PackRefund} {account : Account} {exhausted : Bool}
      (found : s.orders.find order.orderId = some order) (pack : order.orderType = .letterPack)
      (fulfilled : order.status = .fulfilled) (named : row.orderId = order.orderId)
      (credits : 0 < row.credits) (amount : 0 < row.amountCents) (state : row.status = .lettersRevoked)
      (free : ∀ other ∈ s.packRefunds.rows, other.orderId = order.orderId → other.inUse = false)
      (below : order.amountRefundedCents + row.amountCents < order.amountCents)
      (fresh : row.packRefundId ∉ s.packRefunds.rows.map PackRefund.packRefundId)
      (revoked : revokePackCreditsProportionally s.now s.account order row.credits row.packRefundId =
        .ok (account, exhausted))
      (checked : ({ order with creditsRefunded := order.creditsRefunded + row.credits } : Order).checks)
      (reversed : hands (.reversed order.orderId)) :
      Write cfg hands s { s with
        account
        packRefunds := s.packRefunds.insert row fresh
        orders := s.orders.put
          (({ order with creditsRefunded := order.creditsRefunded + row.credits } : Order).stamped s.now) }
  | await {old new : PackRefund} (found : s.packRefunds.find new.packRefundId = some old)
      (waits : old.Waits new) : Write cfg hands s { s with packRefunds := s.packRefunds.put new }
  | orphan {row new : PackRefund} (found : s.packRefunds.find new.packRefundId = some row)
      (missing : s.orders.find row.orderId = none) :
      Write cfg hands s { s with packRefunds := s.packRefunds.put new }
  | confirm {row : PackRefund} {order : Order} (refundId : RefundId)
      (found : s.packRefunds.find row.packRefundId = some row) (inFlight : row.inFlight = true)
      (owner : s.orders.find row.orderId = some order)
      (checked : (confirmedOrder order row).checks = true) :
      Write cfg hands s { s with
        packRefunds := s.packRefunds.put
          { row with status := .succeeded, stripeRefundId := some refundId }
        orders := s.orders.put ((confirmedOrder order row).stamped s.now) }
  | compensate {row ended : PackRefund} {order : Order}
      (found : s.packRefunds.find row.packRefundId = some row) (inUse : row.inUse = true)
      (owner : s.orders.find row.orderId = some order)
      (unheld : compensationWithheld s row = false)
      (restores : restoredCredits s.account row.packRefundId ≠ 0) (handed : hands (.order row.orderId))
      (same : ended = { row with
        status := .compensated
        stripeRefundId := ended.stripeRefundId
        compensationLedgerId := ended.compensationLedgerId })
      (checked : (uncreditedOrder order row (restoredCredits s.account row.packRefundId)).checks = true) :
      Write cfg hands s { s with
        account := compensateAccount s.now s.account row
        orders := s.orders.put
          ((uncreditedOrder order row (restoredCredits s.account row.packRefundId)).stamped s.now)
        packRefunds := s.packRefunds.put ended }
  | compensateNothing {row new : PackRefund} (found : s.packRefunds.find row.packRefundId = some row)
      (inUse : row.inUse = true) (owned : (s.orders.find row.orderId).isSome = true)
      (restores : restoredCredits s.account row.packRefundId = 0) (handed : hands (.order row.orderId))
      (same : new.packRefundId = row.packRefundId) :
      Write cfg hands s { s with
        account := compensateAccount s.now s.account row
        packRefunds := s.packRefunds.put new }

/-- The writes of one transaction, in order. -/
abbrev Writes (cfg : Config) (hands : Beneficiary → Prop) : Store → Store → Prop := ReflTransGen (Write cfg hands)

end LetterIRL.Commerce
