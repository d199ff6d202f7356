import LetterIRL.Commerce.MoneyEvents

namespace LetterIRL.Commerce
open Lib Ledger

/-! What funds a draft: sends from the balance or a gift, and Pay & Send orders. -/

/-- `MailFunding`: the balance (or the draft's gift letter), or a paid order. -/
inductive MailFunding
  | prepaidBalance
  | jitOrder (orderId : OrderId)
  deriving DecidableEq

/-- `LIVE_PAY_AND_SEND_STATUSES` of `draftService`, held equal to `ACTIVE_JIT_STATUSES` by a test. -/
def LIVE_PAY_AND_SEND_STATUSES : List OrderStatus := ACTIVE_JIT_STATUSES

/-- A live Pay & Send order of the draft. Where `sessionHolds`, a Stripe session
once opened holds the draft past its window (the edit lock); otherwise a
checkout past its window counts as closed (the send). -/
def liveCheckout (now : Time) (sessionHolds : Bool) (draftId : DraftId) (order : Order) : Bool :=
  order.orderType == .jitMail && order.draftId == some draftId &&
    order.status ∈ LIVE_PAY_AND_SEND_STATUSES &&
    (order.status != .checkoutPending ||
      (match order.checkoutExpiresAt with
        | none => true
        | some at_ => now < at_) ||
      (sessionHolds && (order.stripeCheckoutSessionId.isSome || order.checkoutUrl)))

/-- `letter_drafts.status = 'consumed'`, with the letter it became. -/
def consumedDraft (draft : Draft) (letterId : LetterId) : Draft :=
  { draft with status := .consumed, consumedLetterId := some letterId }

/-- The order once its letter is queued. -/
def queuedOrder (order : Order) (letterId : LetterId) : Order :=
  { order with status := .fulfillmentPending, letterId := some letterId, lastErrorCode := none }

def Store.insertLetter (s : Store) (letter : Letter) : Except Abort Store :=
  if fresh : letter.letterId ∉ s.letters.rows.map Letter.letterId then
    .ok { s with letters := s.letters.insert letter fresh }
  else .error .uniqueIndex

/-- `ORDER BY expires_at NULLS LAST, created_at`. -/
def soonestGift (first second : GiftLetter) : Bool :=
  match first.expiresAt, second.expiresAt with
  | some a, some b => a ≤ b
  | some _, none => true
  | none, some _ => false
  | none, none => first.createdAt ≤ second.createdAt

/-- The first part of `consumeGiftLetterForSendWithClient`: the account's gifts past their
date expire, then the one expiring soonest is spent. -/
def consumeGiftLetter (now : Time) (giftLetters : Table GiftLetter.grant) (userId : UserId)
    (letterId : LetterId) : Option (GiftLetter × Table GiftLetter.grant) :=
  let expired := giftLetters.update
    (fun gift => gift.userId == userId && gift.status == .available && gift.expiresAt.any (· ≤ now))
    (fun gift => { gift with status := .expired }) fun _ => rfl
  ((expired.rows.filter fun gift => gift.userId == userId && gift.status == .available).insertionSort
      fun a b => soonestGift a b).head?.map fun gift =>
    (gift, expired.put { gift with status := .consumed, consumedByLetterId := some letterId })

def Store.consumeGiftLetter (s : Store) (letterId : LetterId) : Except Abort Store :=
  match Commerce.consumeGiftLetter s.now s.giftLetters s.userId letterId with
  | none => .error .refused
  | some (_, giftLetters) => .ok { s with giftLetters }

/-- A send that found its draft already consumed: a paid order converges on the
letter only when that letter is its own. -/
def resumeConsumedDraft (s : Store) (draft : Draft) (funding : MailFunding) : Except Abort Store :=
  match draft.consumedLetterId.bind s.letters.find with
  | none => .error .refused
  | some existing =>
    match funding with
    | .prepaidBalance => .ok s
    | .jitOrder orderId =>
      if existing.fundingType ≠ .jitOrder ∨ existing.fundingOrderId ≠ some orderId then .error .refused
      else
        match s.orders.find orderId with
        | none => .ok s
        | some order =>
          if order.status = .paid then s.updateOrder (queuedOrder order existing.letterId) else .ok s

/-- The balance or gift part of a send, once its draft may be sent. -/
def sendFromBalance (s : Store) (draft : Draft) (letterId : LetterId) : Except Abort Store :=
  if s.account.sendsBlockedReason.isSome then .error .refused
  else if !isPackPayable draft.mailOption then .error .refused
  else if s.orders.rows.any (liveCheckout s.now false draft.draftId) then .error .refused
  else do
    let lettered ← s.insertLetter
      { letterId, fundingType := if draft.isGiftSend then .giftLetter else .prepaidBalance,
        draftId := draft.draftId }
    let paid ←
      if draft.isGiftSend then lettered.consumeGiftLetter letterId
      else do
        let account ← deductCreditsFromLedgerWithClient s.now lettered.account draft.requiredCredits letterId
        .ok { lettered with account }
    .ok { paid with drafts := paid.drafts.put (consumedDraft draft letterId) }

/-- The paid-order part of a send: the order must have paid for the mail the draft is now. -/
def sendForOrder (s : Store) (draft : Draft) (orderId : OrderId) (letterId : LetterId) :
    Except Abort Store :=
  match s.orders.find orderId with
  | none => .error .refused
  | some order =>
    if order.orderType ≠ .jitMail ∨ order.draftId ≠ some draft.draftId ∨ order.status ≠ .paid then
      .error .refused
    else
      match jitProductMatching draft.mailOption with
      | none => .error .refused
      | some paidFor =>
        if ProductCode.jit paidFor.productCode ≠ order.productCode then .error .refused
        else do
          let lettered ← s.insertLetter
            { letterId, fundingType := .jitOrder, fundingOrderId := some orderId, draftId := draft.draftId }
          let consumed := { lettered with drafts := lettered.drafts.put (consumedDraft draft letterId) }
          consumed.updateOrder (queuedOrder order letterId)

/-- `createMailOrderFromDraftWithClient`. -/
def createMailOrderFromDraftWithClient (s : Store) (draftId : DraftId) (mailType : MailType)
    (funding : MailFunding) (letterId : LetterId) : Except Abort Store :=
  match s.drafts.find draftId with
  | none => .error .refused
  | some draft =>
    if draft.mailOption.mailType ≠ mailType then .error .refused
    else if draft.status = .consumed then resumeConsumedDraft s draft funding
    else if draft.status ≠ .pending ∨ draft.expiresAt ≤ s.now then .error .refused
    else
      match funding with
      | .prepaidBalance => sendFromBalance s draft letterId
      | .jitOrder orderId => sendForOrder s draft orderId letterId

/-- The mail type in an order's product snapshot. -/
def snapshotMailType (productCode : ProductCode) : MailType :=
  match productCode with
  | .pack _ => .letter
  | .jit code =>
    match JIT_PRODUCTS.find? fun product => product.productCode == code with
    | none => .letter
    | some product => product.mailType

def STRIPE_MIN_CHECKOUT_WINDOW_MINUTES : Nat := 30
def CHECKOUT_REUSE_BUDGET_MINUTES : Nat := 10
def CHECKOUT_STAMP_MARGIN : Time := 5

/-- `checkoutExpiry`: none when the draft expires too soon for a safe checkout. -/
def checkoutExpiry (cfg : Config) (now draftExpiresAt : Time) : Option Time :=
  let floor := STRIPE_MIN_CHECKOUT_WINDOW_MINUTES + CHECKOUT_REUSE_BUDGET_MINUTES
  let configuredMinutes := min (24 * 60) (max floor cfg.jitCheckoutExpiryMinutes)
  if draftExpiresAt < now + floor * 60 + CHECKOUT_STAMP_MARGIN then none
  else some (min (now + configuredMinutes * 60 + CHECKOUT_STAMP_MARGIN) draftExpiresAt)

/-- What the rest of a Pay & Send checkout request decides before an order is made. -/
structure JitCheckoutRequest where
  draftId : DraftId
  /-- The number of the order id a new order would take. -/
  number : Nat
  /-- The catalog's price for the draft's product; 0 is unresolved. -/
  amountCents : Cents
  /-- The mail date has passed, or is full. -/
  scheduleRefused : Bool := false
  /-- The Stripe price or the return URLs differ from those an earlier try recorded. -/
  requestChanged : Bool := false
  deriving DecidableEq

/-- The draft's newest active Pay & Send order. -/
def Store.activeJitOrder (s : Store) (draftId : DraftId) : Option Order :=
  s.orders.rows.reverse.find? fun order => order.activeJit && order.draftId == some draftId

/-- A checkout whose Stripe session was never made. -/
def Order.sessionless (order : Order) : Bool :=
  order.stripeCheckoutSessionId.isNone && !order.checkoutUrl

/-- The new order `prepareJitOrder` inserts. -/
def newJitOrder (cfg : Config) (s : Store) (draft : Draft) (product : JitProduct)
    (request : JitCheckoutRequest) (expiresAt : Time) : Order :=
  { orderId := .placed request.number, orderType := .jitMail, draftId := some draft.draftId,
    productCode := .jit product.productCode, amountCents := request.amountCents,
    currency := cfg.jitCurrency, checkoutExpiresAt := some expiresAt, createdAt := s.now, updatedAt := s.now }

/-- The last refusals, then the insert. -/
def openJitOrder (cfg : Config) (s : Store) (draft : Draft) (product : JitProduct)
    (request : JitCheckoutRequest) : Except Abort Store :=
  if request.amountCents = 0 then .error .refused
  else if !cfg.jitAllowWithPrepaidBalance ∧ isPackPayable draft.mailOption ∧
      draft.requiredCredits ≤ s.account.credits then .error .refused
  else
    match checkoutExpiry cfg s.now draft.expiresAt with
    | none => .error .refused
    | some expiresAt =>
      if s.account.sendsBlockedReason.isSome then .error .refused
      else s.insertOrder (newJitOrder cfg s draft product request expiresAt)

/-- `prepareJitOrder`: reuse the draft's live order, or cancel one no session was
made for and open another. -/
def prepareJitOrder (cfg : Config) (s : Store) (request : JitCheckoutRequest) : Except Abort Store :=
  match s.drafts.find request.draftId with
  | none => .error .refused
  | some draft =>
    if draft.status ≠ .pending ∨ draft.expiresAt ≤ s.now ∨ draft.isGiftSend then .error .refused
    else
      match jitProductMatching draft.mailOption with
      | none => .error .refused
      | some product =>
        if !cfg.jitProductSold product.productCode then .error .refused
        else
          match s.activeJitOrder request.draftId with
          | none =>
            if request.scheduleRefused then .error .refused else openJitOrder cfg s draft product request
          | some existing =>
            if request.scheduleRefused ∧ existing.status = .checkoutPending ∧ existing.sessionless then
              s.updateOrder { existing with status := .cancelled }
            else if existing.status = .checkoutPending ∧ existing.stripeCheckoutSessionId = none ∧
                existing.checkoutExpiresAt.any
                  (· ≤ s.now + STRIPE_MIN_CHECKOUT_WINDOW_MINUTES * 60 + CHECKOUT_STAMP_MARGIN) then do
              let cancelled ← s.updateOrder { existing with status := .cancelled }
              openJitOrder cfg cancelled draft product request
            else if !existing.sessionless then
              if existing.status = .checkoutPending ∧ existing.productCode ≠ .jit product.productCode then
                .error .refused
              else .ok s
            else if existing.status ≠ .checkoutPending then .ok s
            else if request.amountCents = 0 then .error .refused
            else if existing.amountCents = request.amountCents ∧
                normalizedCurrency existing.currency = normalizedCurrency cfg.jitCurrency ∧
                !request.requestChanged then .ok s
            else do
              let cancelled ← s.updateOrder { existing with status := .cancelled }
              openJitOrder cfg cancelled draft product request

/-- `attachCheckout`: the session Stripe made for the order. -/
def attachCheckout (s : Store) (number serial : Nat) (url : Bool) (expiresAt : Option Time) :
    Except Abort Store :=
  match s.orders.find (.placed number) with
  | none => .error .refused
  | some order => s.updateOrder { order with
      stripeCheckoutSessionId := some (.forOrder number serial)
      checkoutUrl := order.checkoutUrl || url
      checkoutExpiresAt := expiresAt <|> order.checkoutExpiresAt
      lastErrorCode := none }

/-- `markCheckoutCreationFailure`: only a terminal fault cancels the order. -/
def markCheckoutCreationFailure (s : Store) (orderId : OrderId) (terminal : Bool) : Except Abort Store :=
  match s.orders.find orderId with
  | none => .error .refused
  | some order =>
    if !terminal then s.updateOrder { order with lastErrorCode := some .checkoutCreationFailed }
    else if order.status ≠ .checkoutPending then .ok s
    else s.updateOrder { order with status := .cancelled, lastErrorCode := some .checkoutCreationFailed }

/-- The maintenance run's cancel of a checkout no session was made for. -/
def cancelOrphanedCheckout (s : Store) (orderId : OrderId) : Except Abort Store :=
  match s.orders.find orderId with
  | none => .error .refused
  | some order =>
    if order.status ≠ .checkoutPending ∨ order.stripeCheckoutSessionId ≠ none then .error .refused
    else
      match order.checkoutExpiresAt with
      | some at_ =>
        if at_ ≤ s.now then s.updateOrder { order with status := .cancelled } else .error .refused
      | none =>
        if order.updatedAt + days 1 ≤ s.now then s.updateOrder { order with status := .cancelled }
        else .error .refused

/-- `createPackCheckout`: the order, and then the account check that can roll it back. -/
def createPackCheckout (cfg : Config) (s : Store) (number : Nat) (product : PackProduct)
    (amountCents : Cents) : Except Abort Store :=
  if product ∉ PACK_PRODUCTS ∨ amountCents = 0 ∨ s.account.sendsBlockedReason.isSome then .error .refused
  else s.insertOrder
    { orderId := .placed number, orderType := .letterPack, productCode := .pack product.productCode,
      credits := product.credits, amountCents, currency := cfg.packCurrency, createdAt := s.now,
      updatedAt := s.now }

/-- `createDraft` of the preview tools, as far as the send reads it. -/
def createDraft (s : Store) (draft : Draft) : Except Abort Store :=
  if fresh : draft.draftId ∉ s.drafts.rows.map Draft.draftId then
    .ok { s with drafts := s.drafts.insert { draft with status := .pending, consumedLetterId := none } fresh }
  else .error .uniqueIndex

/-- `lockChangeableDraft`, then a change of what the mail is. -/
def changeDraft (s : Store) (draftId : DraftId) (mailOption : MailOption) (requiredCredits : Nat) :
    Except Abort Store :=
  match s.drafts.find draftId with
  | none => .error .refused
  | some draft =>
    if draft.status ≠ .pending ∨ draft.redacted ∨ draft.expiresAt ≤ s.now then .error .refused
    else if s.orders.rows.any (liveCheckout s.now true draftId) then .error .refused
    else .ok { s with drafts := s.drafts.put { draft with mailOption, requiredCredits } }

/-- `markExpiredDrafts` and `cancelDraft`: a pending draft ends unsent. -/
def endDraft (s : Store) (draftId : DraftId) (cancelled : Bool) : Except Abort Store :=
  match s.drafts.find draftId with
  | none => .error .refused
  | some draft =>
    if draft.status ≠ .pending then .error .refused
    else if cancelled then .ok { s with drafts := s.drafts.put { draft with status := .cancelled } }
    else if draft.expiresAt < s.now then
      .ok { s with drafts := s.drafts.put { draft with status := .expired } }
    else .error .refused

end LetterIRL.Commerce
