import LetterIRL.Lib.Table

namespace LetterIRL.Commerce
open Lib

/-! Rows of the commerce tables, with the columns the modelled functions read. -/

abbrev Time := Nat
abbrev Cents := Nat
abbrev LedgerId := Nat
abbrev LetterId := Nat
abbrev DraftId := Nat
abbrev IntentId := Nat
abbrev RefundId := Nat
abbrev DisputeId := Nat
abbrev EventId := Nat
abbrev PackRefundId := Nat
abbrev CampaignId := Nat
abbrev UserId := Nat
/-- A chain code, as `normalizeGiftCode` reads it. -/
abbrev ChainCode := Nat
/-- A currency code as stored; see `normalizedCurrency`. -/
abbrev Currency := List Char

/-- `normalizedCurrency`: trim, then lower case. -/
def normalizedCurrency (value : Currency) : Currency :=
  ((((value.dropWhile Char.isWhitespace).reverse).dropWhile Char.isWhitespace).reverse).map Char.toLower

/-- A Checkout Session carries the order it was created for in its metadata;
a session from before orders existed names a pack product instead. -/
inductive SessionId
  | forOrder (number serial : Nat)
  | legacy (serial : Nat)
  deriving DecidableEq

/-- An order placed by the app, or adopted from a legacy session under the id
`stripe-<session>`. -/
inductive OrderId
  | placed (number : Nat)
  | stripe (serial : Nat)
  deriving DecidableEq

/-- The order id in a session's metadata (`metadata.orderId`). -/
def SessionId.metadataOrderId : SessionId → Option OrderId
  | .forOrder number _ => some (.placed number)
  | .legacy _ => none

inductive OrderType
  | letterPack
  | jitMail
  deriving DecidableEq

inductive OrderStatus
  | checkoutPending
  | paid
  | fulfillmentPending
  | fulfilled
  | paymentFailed
  | refundPending
  | refunded
  | disputed
  | held
  | cancelled
  deriving DecidableEq

/-- Must mirror `idx_orders_active_jit_draft_unique` in migration 023. -/
def ACTIVE_JIT_STATUSES : List OrderStatus :=
  [.checkoutPending, .paid, .fulfillmentPending, .refundPending, .disputed, .held]

/-- Statuses in which a paid Checkout Session has already been acted on. -/
def FUNDED_OR_REVERSED_ORDER_STATUSES : List OrderStatus :=
  [.fulfillmentPending, .fulfilled, .refundPending, .refunded, .disputed, .held]

/-- `orders.last_error_code`, the codes the modelled functions write or read. -/
inductive ErrorCode
  | paymentAmountMismatch
  | unmatchedMoneyEventRecovered
  | jitFulfillmentRejected
  | recoveryFailed
  | refundNotCompleted
  | refundRequestFailed
  | checkoutCreationFailed
  | providerSubmissionFailed
  | preDispatchTerminalFailure
  | providerConfirmedRejection
  deriving DecidableEq

inductive HoldReason
  | paymentDisputed
  | providerOutcomeAmbiguous
  | legacyProcessingOutcomeUnknown
  deriving DecidableEq

/-- `stripe_disputes.status`. -/
inductive DisputeStatus
  | won
  | prevented
  | warningNeedsResponse
  | warningUnderReview
  | warningClosed
  | needsResponse
  | underReview
  | lost
  | other
  deriving DecidableEq

/-- `NON_LOSS_DISPUTE_STATUSES`: no money was, or will be, taken. -/
def NON_LOSS_DISPUTE_STATUSES : List DisputeStatus :=
  [.won, .prevented, .warningNeedsResponse, .warningUnderReview, .warningClosed]

/-- `FAVOURABLE_DISPUTE_STATUSES`: outcomes that compensate a revoked pack. -/
def FAVOURABLE_DISPUTE_STATUSES : List DisputeStatus := [.won, .prevented]

def DisputeStatus.loss (status : DisputeStatus) : Bool := status ∉ NON_LOSS_DISPUTE_STATUSES

inductive PackProductCode
  | creditPack4
  | creditPack10
  | creditPack100
  deriving DecidableEq

/-- A row of `PACK_PRODUCTS`. -/
structure PackProduct where
  productCode : PackProductCode
  credits : Nat
  expectedAmountCents : Cents
  giftLetters : Nat
  giftGenerationsRemaining : Nat := 1
  deriving DecidableEq

def PACK_PRODUCTS : List PackProduct :=
  [{ productCode := .creditPack4, credits := 4, expectedAmountCents := 500, giftLetters := 1 },
   { productCode := .creditPack10, credits := 10, expectedAmountCents := 1000, giftLetters := 1 },
   { productCode := .creditPack100, credits := 100, expectedAmountCents := 9000, giftLetters := 1 }]

def CREDITS_PER_LETTER : Nat := 2
def PURCHASE_CREDIT_EXPIRY_DAYS : Nat := 730

def days (n : Nat) : Time := n * 86400

inductive MailType
  | letter
  | postcard
  deriving DecidableEq

inductive PostcardSize
  | size6x4
  | size6x9
  | size6x11
  deriving DecidableEq

inductive MailService
  | standard
  | certified
  | certifiedReturnReceipt
  deriving DecidableEq

/-- What a Pay & Send price depends on: `MailOption`, with its defaults filled in. -/
structure MailOption where
  mailType : MailType
  pages : Nat := 1
  postcardSize : PostcardSize := .size6x9
  mailService : MailService := .standard
  deriving DecidableEq

inductive JitProductCode
  | jitLetter
  | jitPostcard
  | jitLetter2Pages
  | jitLetter3Pages
  | jitPostcard4x6
  | jitPostcard11x6
  | jitLetterCertified
  | jitLetterCertifiedReceipt
  deriving DecidableEq

/-- A row of `JIT_PRODUCTS`. -/
structure JitProduct where
  productCode : JitProductCode
  mailType : MailType
  pages : Option Nat := none
  postcardSize : Option PostcardSize := none
  mailService : Option MailService := none
  expectedAmountCents : Cents
  deriving DecidableEq

def JIT_PRODUCTS : List JitProduct :=
  [{ productCode := .jitLetter, mailType := .letter, pages := some 1, expectedAmountCents := 499 },
   { productCode := .jitPostcard, mailType := .postcard, postcardSize := some .size6x9,
     expectedAmountCents := 499 },
   { productCode := .jitLetter2Pages, mailType := .letter, pages := some 2, expectedAmountCents := 599 },
   { productCode := .jitLetter3Pages, mailType := .letter, pages := some 3, expectedAmountCents := 699 },
   { productCode := .jitPostcard4x6, mailType := .postcard, postcardSize := some .size6x4,
     expectedAmountCents := 399 },
   { productCode := .jitPostcard11x6, mailType := .postcard, postcardSize := some .size6x11,
     expectedAmountCents := 599 },
   { productCode := .jitLetterCertified, mailType := .letter, mailService := some .certified,
     expectedAmountCents := 1199 },
   { productCode := .jitLetterCertifiedReceipt, mailType := .letter,
     mailService := some .certifiedReturnReceipt, expectedAmountCents := 1499 }]

/-- `jitProductMatching`: a certified letter is priced by its service, whatever
its pages; every other letter by its pages; a postcard by its size, never certified. -/
def jitProductMatching (option : MailOption) : Option JitProduct :=
  JIT_PRODUCTS.find? fun candidate =>
    candidate.mailType == option.mailType &&
      match option.mailType with
      | .postcard =>
        option.mailService == .standard && candidate.postcardSize == some option.postcardSize
      | .letter =>
        if option.mailService = .standard then
          candidate.mailService == none && candidate.pages == some option.pages
        else candidate.mailService == some option.mailService

/-- `isPackPayable`: a one-page standard letter or a 6x9 postcard. -/
def isPackPayable (option : MailOption) : Bool :=
  option.mailService == .standard &&
    match option.mailType with
    | .postcard => option.postcardSize == .size6x9
    | .letter => option.pages == 1

/-- What the order buys: a pack, or one piece of mail, each option its own product. -/
inductive ProductCode
  | pack (code : PackProductCode)
  | jit (code : JitProductCode)
  deriving DecidableEq

/-- A row of `orders`. `credits` is 0 where the column is NULL (`order.credits || 0`). -/
structure Order where
  orderId : OrderId
  orderType : OrderType
  draftId : Option DraftId := none
  letterId : Option LetterId := none
  productCode : ProductCode
  credits : Nat := 0
  amountCents : Cents
  amountKnown : Bool := true
  currency : Currency
  stripeCheckoutSessionId : Option SessionId := none
  stripePaymentIntentId : Option IntentId := none
  stripeRefundId : Option RefundId := none
  checkoutUrl : Bool := false
  checkoutExpiresAt : Option Time := none
  status : OrderStatus := .checkoutPending
  creditsRefunded : Nat := 0
  amountRefundedCents : Cents := 0
  refundAttempts : Nat := 0
  refundPendingAt : Option Time := none
  refundedAt : Option Time := none
  lastErrorCode : Option ErrorCode := none
  holdPreviousStatus : Option OrderStatus := none
  heldAt : Option Time := none
  holdReason : Option HoldReason := none
  stripeDisputeStatus : Option DisputeStatus := none
  createdAt : Time
  updatedAt : Time
  deriving DecidableEq

/-- Migration 029: `valid_order_credits_refunded` and `valid_order_amount_refunded`. -/
def Order.checks (order : Order) : Bool :=
  (order.orderType == .jitMail || order.creditsRefunded ≤ order.credits) &&
    order.amountRefundedCents ≤ order.amountCents

inductive SourceType
  | purchase
  | signupBonus
  | promo
  | adjustment
  | refund
  deriving DecidableEq

inductive LotStatus
  | active
  | depleted
  | expired
  | revoked
  deriving DecidableEq

/-- `credit_ledger.source_reference_id`. -/
inductive SourceReference
  | order (id : OrderId)
  | campaign (id : CampaignId)
  deriving DecidableEq

/-- `source_metadata->>'reason'`. -/
inductive LotReason
  | paymentRefunded
  | paymentDisputed
  | partialRefund
  | partialRefundFailed
  | disputeResolvedInOurFavour
  | sendFailed
  deriving DecidableEq

/-- The keys of `credit_ledger.source_metadata` that queries read. -/
structure LotMetadata where
  stripeSessionId : Option SessionId := none
  reason : Option LotReason := none
  letterId : Option LetterId := none
  disputeId : Option DisputeId := none
  packRefundId : Option PackRefundId := none
  remainingAtRevocation : Nat := 0
  deriving DecidableEq

/-- A row of `credit_ledger`. -/
structure Lot where
  ledgerId : LedgerId
  initialAmount : Nat
  remainingAmount : Nat
  sourceType : SourceType
  sourceReferenceId : Option SourceReference := none
  sourceMetadata : LotMetadata := {}
  expiresAt : Option Time := none
  status : LotStatus := .active
  relatedLedgerId : Option LedgerId := none
  createdAt : Time
  deriving DecidableEq

/-- A row of `credit_consumption` joined to the deduction it belongs to. -/
structure Consumption where
  letterId : LetterId
  ledgerId : LedgerId
  amount : Nat
  deriving DecidableEq

inductive PackRefundStatus
  | lettersRevoked
  | stripePending
  | succeeded
  | failed
  | compensated
  deriving DecidableEq

/-- A row of `commerce_pack_refunds` (migration 029). -/
structure PackRefund where
  packRefundId : PackRefundId
  orderId : OrderId
  letters : Nat
  credits : Nat
  amountCents : Cents
  status : PackRefundStatus := .lettersRevoked
  stripePaymentIntentId : IntentId
  stripeRefundId : Option RefundId := none
  stripeAttempts : Nat := 0
  compensationLedgerId : Option LedgerId := none
  deriving DecidableEq

/-- A row of `stripe_disputes`; `ours` is a `user_id` that is not NULL. -/
structure Dispute where
  disputeId : DisputeId
  paymentIntentId : Option IntentId
  ours : Bool
  status : DisputeStatus
  resolved : Bool
  deriving DecidableEq

/-- What kind of money event a `stripe_webhook_events` row recorded. -/
inductive MoneyEvent
  | checkout
  | refund
  | dispute (id : DisputeId)
  deriving DecidableEq

/-- A row of `stripe_webhook_events`; `unmatched` is its `processing_status`. -/
structure WebhookEvent where
  eventId : EventId
  kind : MoneyEvent
  unmatched : Bool := false
  providerPaymentIntentId : Option IntentId := none
  metadataOrderId : Option OrderId := none
  deriving DecidableEq

/-- A row of `image_entitlements` a purchase brought, keyed by its source. -/
structure ImageEntitlement where
  sourceType : OrderType
  sourceReferenceId : OrderId
  quantity : Nat
  revoked : Bool := false
  deriving DecidableEq

inductive GiftStatus
  | available
  | consumed
  | expired
  | revoked
  deriving DecidableEq

/-- What a gift letter was granted for: `(source, source_reference_id)`; `other` is a
seed redemption or an operator's grant. -/
inductive GiftSource
  | packPurchase (order : OrderId)
  | chainRedemption (code : ChainCode)
  | sendFailed (letterId : LetterId)
  | other (reference : Nat)
  deriving DecidableEq

/-- A row of `gift_letters`. -/
structure GiftLetter where
  source : GiftSource
  grantIndex : Nat := 0
  userId : UserId := 0
  generationsRemaining : Nat := 0
  sourceOrderId : Option OrderId := none
  parentCode : Option ChainCode := none
  cardCampaignId : Option CampaignId := none
  status : GiftStatus := .available
  expiresAt : Option Time := none
  createdAt : Time
  consumedByLetterId : Option LetterId := none
  sourceReversed : Bool := false
  deriving DecidableEq

inductive DraftStatus
  | pending
  | consumed
  | expired
  | cancelled
  deriving DecidableEq

/-- A row of `letter_drafts`; `mailOption` is what `draftMailOption` reads of it. -/
structure Draft where
  draftId : DraftId
  mailOption : MailOption
  status : DraftStatus := .pending
  expiresAt : Time
  consumedLetterId : Option LetterId := none
  isGiftSend : Bool := false
  requiredCredits : Nat
  redacted : Bool := false
  deriving DecidableEq

inductive FundingType
  | prepaidBalance
  | giftLetter
  | jitOrder
  deriving DecidableEq

/-- A row of `letters` as the send inserts it. The table does not name the draft
a letter came from; `draftId` records it here, and no modelled function reads it. -/
structure Letter where
  letterId : LetterId
  fundingType : FundingType
  fundingOrderId : Option OrderId := none
  draftId : DraftId
  deriving DecidableEq

end LetterIRL.Commerce
