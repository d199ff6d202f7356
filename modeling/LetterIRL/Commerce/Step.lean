import LetterIRL.Commerce.Checkout
import LetterIRL.Lib.Runs

namespace LetterIRL.Commerce
open Lib Ledger

/-- Where a letter's job takes its Pay & Send order. -/
def letterJobTransitions : List (OrderStatus × OrderStatus) :=
  [(.fulfillmentPending, .fulfilled), (.fulfillmentPending, .held), (.fulfillmentPending, .refundPending),
   (.held, .fulfilled), (.held, .fulfillmentPending), (.held, .refundPending),
   (.refundPending, .fulfillmentPending)]

/-- A transaction of one account's commerce, with what reaches it from outside. -/
inductive Event
  | tick (elapsed : Time)
  | createPackCheckout (number : Nat) (product : PackProduct) (amountCents : Cents)
  | prepareJitOrder (request : JitCheckoutRequest)
  | attachCheckout (number serial : Nat) (url : Bool) (expiresAt : Option Time)
  | markCheckoutCreationFailure (orderId : OrderId) (terminal : Bool)
  | cancelOrphanedCheckout (orderId : OrderId)
  | checkoutSession (event : CheckoutEvent)
  | repairFulfilledPackGrant (orderId : OrderId) (session : SessionId) (expectedCredits : Nat)
      (paidAmountCents : Cents) (paidCurrency : Currency)
  | fulfillPaidOrder (orderId : OrderId) (letterId : LetterId) (faulted : Bool)
  | letterJob (letterId : LetterId) (status : OrderStatus)
  | createDraft (draft : Draft)
  | changeDraft (draftId : DraftId) (mailOption : MailOption) (requiredCredits : Nat)
  | endDraft (draftId : DraftId) (cancelled : Bool)
  | sendDraft (draftId : DraftId) (mailType : MailType) (letterId : LetterId)
  | grantGift (reference : Nat) (generationsRemaining : Nat) (cardCampaignId : Option CampaignId)
      (expiresAt : Time)
  | returnCredits (letterId : LetterId)
  | redeemPromo (campaign : CampaignId) (creditsAmount : Nat) (expiresAt : Option Time)
  | grantAdjustment (amount : Nat)
  | removeCredits (amount : Nat)
  | markExpiredEntries
  | reconcileBalances
  | refundPackLetters (orderId : OrderId) (letters : Nat) (packRefundId : PackRefundId)
  | stripeResponse (packRefundId : PackRefundId) (outcome : StripeRefundOutcome)
  | stripeFailure (packRefundId : PackRefundId) (terminal : Bool)
  | reconcilePackRefund (packRefundId : PackRefundId) (seenAttempts : Nat) (refunds : List ListedRefund)
  | refund (event : RefundEvent)
  | dispute (event : DisputeEvent)
  | claimRefund (orderId : OrderId)
  | finalizeRefund (claim : Order) (outcome : StripeRefundOutcome)
  | holdEndedRefund (claim : Order)
  | failRefundRequest (claim : Order)
  | liftSendBlock
  | releaseAmountMismatchQuarantine (orderId : OrderId)

/-- A letter's job settles the Pay & Send order that funds it; see the mail model
for when it does. -/
def applyLetterJob (s : Store) (letterId : LetterId) (status : OrderStatus) : Except Abort Store :=
  match ((s.letters.find letterId).bind Letter.fundingOrderId).bind s.orders.find with
  | none => .error .refused
  | some order =>
    if order.orderType ≠ .jitMail ∨ (order.status, status) ∉ letterJobTransitions then .error .refused
    else s.updateOrder { order with status }

/-- An account operation inside a transaction. -/
def Store.onAccount (s : Store) (result : Except Abort Account) : Except Abort Store :=
  match result with
  | .error abort => .error abort
  | .ok account => .ok { s with account }

/-- A gift letter from a seed campaign's redemption or an operator. -/
def grantedGift (now : Time) (reference generationsRemaining : Nat) (cardCampaignId : Option CampaignId)
    (expiresAt : Time) : GiftLetter :=
  { source := .other reference, generationsRemaining, cardCampaignId, expiresAt := some expiresAt, createdAt := now }

/-- One transaction; an error is a rollback. -/
def step (cfg : Config) (s : Store) : Event → Except Abort Store
  | .tick elapsed => .ok { s with now := s.now + elapsed }
  | .createPackCheckout number product amountCents => createPackCheckout cfg s number product amountCents
  | .prepareJitOrder request => prepareJitOrder cfg s request
  | .attachCheckout number serial url expiresAt => attachCheckout s number serial url expiresAt
  | .markCheckoutCreationFailure orderId terminal => markCheckoutCreationFailure s orderId terminal
  | .cancelOrphanedCheckout orderId => cancelOrphanedCheckout s orderId
  | .checkoutSession event => processCheckoutSessionEvent cfg s event
  | .repairFulfilledPackGrant orderId session expectedCredits paidAmountCents paidCurrency =>
    repairFulfilledPackGrant cfg s orderId session expectedCredits paidAmountCents paidCurrency
  | .fulfillPaidOrder orderId letterId faulted => fulfillPaidOrder cfg s orderId letterId faulted
  | .letterJob letterId status => applyLetterJob s letterId status
  | .createDraft draft => createDraft s draft
  | .changeDraft draftId mailOption requiredCredits => changeDraft s draftId mailOption requiredCredits
  | .endDraft draftId cancelled => endDraft s draftId cancelled
  | .sendDraft draftId mailType letterId =>
    createMailOrderFromDraftWithClient s draftId mailType .prepaidBalance letterId
  | .grantGift reference generationsRemaining cardCampaignId expiresAt =>
    .ok (s.grantGiftLetters (grantedGift s.now reference generationsRemaining cardCampaignId expiresAt) 1)
  | .returnCredits letterId =>
    .ok { s with account := (returnConsumedCreditsForLetter s.now s.account letterId).1 }
  | .redeemPromo campaign creditsAmount expiresAt =>
    s.onAccount (grantPromoCreditsWithClient s.now s.account campaign creditsAmount expiresAt)
  | .grantAdjustment amount => s.onAccount (grantAdjustmentWithClient s.now s.account amount)
  | .removeCredits amount => s.onAccount (removeCreditsWithClient s.now s.account amount)
  | .markExpiredEntries => .ok { s with account := Ledger.markExpiredEntries s.now s.account }
  | .reconcileBalances => .ok { s with account := Ledger.reconcileBalances s.now s.account }
  | .refundPackLetters orderId letters packRefundId => refundPackLetters s orderId letters packRefundId
  | .stripeResponse packRefundId outcome => finalizeWithStripe s packRefundId outcome
  | .stripeFailure packRefundId terminal => handleStripeFailure s packRefundId terminal
  | .reconcilePackRefund packRefundId seenAttempts refunds =>
    reconcilePackRefund cfg s packRefundId seenAttempts refunds
  | .refund event => processRefundEvent s event
  | .dispute event => processDisputeEvent s event
  | .claimRefund orderId => claimRefund cfg s orderId
  | .finalizeRefund claim outcome => finalizeRefund s claim outcome
  | .holdEndedRefund claim => holdEndedRefund s claim
  | .failRefundRequest claim => failRefundRequest s claim
  | .liftSendBlock => liftSendBlock s
  | .releaseAmountMismatchQuarantine orderId => releaseAmountMismatchQuarantine s orderId

/-- The states an account's commerce reaches from an empty account by committed
transactions that each satisfy `allowed`. -/
abbrev Reachable (cfg : Config) (allowed : Store → Event → Prop) : Store → Prop :=
  Reach (step cfg) allowed {}

end LetterIRL.Commerce
