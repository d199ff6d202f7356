import LetterIRL.Commerce.Store

namespace LetterIRL.Commerce
open Lib Ledger

/-! Reversals of a pack: whole, proportional, and their compensations. -/

/-- `RevocationCause`. -/
inductive RevocationCause
  | paymentRefunded
  | paymentDisputed (disputeId : DisputeId)
  deriving DecidableEq

def RevocationCause.reason : RevocationCause → LotReason
  | .paymentRefunded => .paymentRefunded
  | .paymentDisputed _ => .paymentDisputed

def RevocationCause.disputeId : RevocationCause → Option DisputeId
  | .paymentRefunded => none
  | .paymentDisputed disputeId => some disputeId

/-- The lots a whole-pack reversal takes. -/
def reversible (order : Order) (lot : Lot) : Bool :=
  packLot order lot && lot.status != .revoked

/-- The audit row of a whole-pack reversal: what a later restore must put back. -/
def revocationAudit (now : Time) (order : Order) (cause : RevocationCause) (entry : Lot) : Lot :=
  { ledgerId := 0, initialAmount := entry.initialAmount, remainingAmount := 0, sourceType := .refund,
    sourceReferenceId := some (.order order.orderId),
    sourceMetadata :=
      { reason := some cause.reason, disputeId := cause.disputeId,
        remainingAtRevocation := entry.remainingAmount },
    status := .revoked, relatedLedgerId := some entry.ledgerId, createdAt := now }

/-- Lifetime purchases drop once per order, by what the pack still represented. -/
def lifetimeDecrement (order : Order) (entries : List Lot) : Nat :=
  if entries.any fun entry => entry.sourceType == .purchase then order.credits - order.creditsRefunded
  else 0

/-- `revokeWholePack`. -/
def revokeWholePack (now : Time) (account : Account) (order : Order) (cause : RevocationCause) : Account :=
  let entries := account.creditLedger.rows.filter (reversible order)
  if entries = [] then account
  else { account with
    credits := account.credits - total Lot.remainingAmount entries
    creditsPurchased := account.creditsPurchased - lifetimeDecrement order entries
    creditLedger := postLots (entries.map (revocationAudit now order cause))
      (account.creditLedger.update (reversible order)
        (fun lot => { lot with remainingAmount := 0, status := .revoked }) fun _ => rfl) }

/-- The audit row of one slice of a proportional refund. -/
def partialRefundAudit (now : Time) (order : Order) (packRefundId : PackRefundId) (taken : Lot × Nat) :
    Lot :=
  { ledgerId := 0, initialAmount := taken.2, remainingAmount := 0, sourceType := .refund,
    sourceReferenceId := some (.order order.orderId),
    sourceMetadata := { reason := some .partialRefund, packRefundId := some packRefundId },
    status := .revoked, relatedLedgerId := some taken.1.ledgerId, createdAt := now }

/-- `revokePackCreditsProportionally`: the account, and whether the pack is exhausted. -/
def revokePackCreditsProportionally (now : Time) (account : Account) (order : Order) (credits : Nat)
    (packRefundId : PackRefundId) : Except Abort (Account × Bool) :=
  let lots := liveLots now (packLot order) account.creditLedger
  let available := total Lot.remainingAmount lots
  if credits = 0 then .error .refused
  else if available < credits then .error .refused
  else
    let takes := takeFifo Lot.remainingAmount credits lots
    .ok ({ account with
      credits := account.credits - credits
      creditsPurchased := account.creditsPurchased - credits
      creditLedger := postLots (takes.map (partialRefundAudit now order packRefundId))
        (consumeLots takes account.creditLedger) }, available == credits)

/-- `revokePackLots` with `credits: 'all'`: the lots, then the pack's gift letters. -/
def Store.revokePackLots (s : Store) (order : Order) (cause : RevocationCause) : Store :=
  Store.revokeGiftLettersForOrder
    { s with account := revokeWholePack s.now s.account order cause } order.orderId

/-- What a refund's audit rows recorded: the slices, with the lots they came from. -/
def refundAudits (account : Account) (packRefundId : PackRefundId) : List (Lot × Lot) :=
  (account.creditLedger.rows.filter fun lot =>
      lot.sourceType == .refund && lot.sourceMetadata.packRefundId == some packRefundId).filterMap
    fun audit => (audit.relatedLedgerId.bind account.creditLedger.find).map fun source => (audit, source)

/-- The lot a failed proportional refund puts back for one slice. -/
def compensationLot (now : Time) (row : PackRefund) (slice : Lot × Lot) : Lot :=
  { ledgerId := 0, initialAmount := slice.1.initialAmount, remainingAmount := slice.1.initialAmount,
    sourceType := .adjustment, sourceReferenceId := some (.order row.orderId),
    sourceMetadata := { reason := some .partialRefundFailed, packRefundId := some row.packRefundId },
    expiresAt := slice.2.expiresAt, relatedLedgerId := some slice.1.ledgerId, createdAt := now }

/-- `withheld`: a dispute or a hold governs the balance, or the account is blocked. -/
def compensationWithheld (s : Store) (row : PackRefund) : Bool :=
  match s.orders.find row.orderId with
  | none => true
  | some order =>
    order.status == .disputed || order.status == .held || s.account.sendsBlockedReason.isSome

/-- The credits a compensation of this command would put back. -/
def restoredCredits (account : Account) (packRefundId : PackRefundId) : Nat :=
  total (fun slice => slice.1.initialAmount) (refundAudits account packRefundId)

/-- The account a compensation leaves: a lot for each slice, and both counters up. -/
def compensateAccount (now : Time) (account : Account) (row : PackRefund) : Account :=
  { account with
    credits := account.credits + restoredCredits account row.packRefundId
    creditsPurchased := account.creditsPurchased + restoredCredits account row.packRefundId
    creditLedger := postLots
      ((refundAudits account row.packRefundId).map (compensationLot now row)) account.creditLedger }

/-- The order a compensation leaves. -/
def uncreditedOrder (order : Order) (row : PackRefund) (restored : Nat) : Order :=
  { order with
    creditsRefunded := order.creditsRefunded - restored
    amountRefundedCents :=
      if row.status = .succeeded then order.amountRefundedCents - row.amountCents
      else order.amountRefundedCents }

/-- `compensatePackRefund`. -/
def compensatePackRefund (s : Store) (row : PackRefund) (stripeRefundId : Option RefundId) :
    Except Abort Store :=
  let ended := { row with stripeRefundId := stripeRefundId <|> row.stripeRefundId }
  if compensationWithheld s row then s.updatePackRefund { ended with status := .failed }
  else
    match s.orders.find row.orderId with
    | none => s.updatePackRefund { ended with status := .failed }
    | some order =>
      let restored := restoredCredits s.account row.packRefundId
      let compensationLedgerId :=
        if refundAudits s.account row.packRefundId = [] then none
        else some s.account.creditLedger.nextKey
      let posted := { s with account := compensateAccount s.now s.account row }
      if restored = 0 then
        posted.updatePackRefund { ended with status := .compensated, compensationLedgerId }
      else do
        let uncredited ← posted.updateOrder (uncreditedOrder order row restored)
        uncredited.updatePackRefund { ended with status := .compensated, compensationLedgerId }

/-- A Stripe refund's status. -/
inductive RefundStatus
  | pending
  | requiresAction
  | succeeded
  | failed
  | canceled
  deriving DecidableEq

def RefundStatus.ended (status : RefundStatus) : Bool :=
  status == .failed || status == .canceled

/-- `StripeRefundOutcome`. -/
structure StripeRefundOutcome where
  id : RefundId
  status : RefundStatus
  deriving DecidableEq

/-- The order once a proportional refund is confirmed. -/
def confirmedOrder (order : Order) (row : PackRefund) : Order :=
  { order with amountRefundedCents := order.amountRefundedCents + row.amountCents }

/-- `settlePackRefund`: a command belongs to the Stripe refund it recorded. -/
def settlePackRefund (s : Store) (row : PackRefund) (outcome : StripeRefundOutcome) :
    Except Abort Store :=
  if row.stripeRefundId.isSome && row.stripeRefundId != some outcome.id then .ok s
  else
    match outcome.status with
    | .failed | .canceled =>
      if row.status = .failed ∨ row.status = .compensated then .ok s
      else compensatePackRefund s row (some outcome.id)
    | .succeeded =>
      if row.status ≠ .lettersRevoked ∧ row.status ≠ .stripePending then .ok s
      else do
        let settled ← s.updatePackRefund { row with status := .succeeded, stripeRefundId := some outcome.id }
        match settled.orders.find row.orderId with
        | none => .ok settled
        | some order => settled.updateOrder (confirmedOrder order row)
    | .pending | .requiresAction =>
      if row.status ≠ .lettersRevoked then .ok s
      else s.updatePackRefund { row with status := .stripePending, stripeRefundId := some outcome.id }

/-- A command that holds money or letters: the slot migration 029 allows once per order. -/
def PackRefund.inUse (row : PackRefund) : Bool :=
  row.status == .lettersRevoked || row.status == .stripePending || row.status == .succeeded

/-- A command whose money is still to move. -/
def PackRefund.inFlight (row : PackRefund) : Bool :=
  row.status == .lettersRevoked || row.status == .stripePending

/-- `packFigures.amountCents`: floored once, on the product. -/
def packRefundAmount (order : Order) (letters : Nat) : Cents :=
  letters * order.amountCents / (order.credits / CREDITS_PER_LETTER)

/-- A dispute that would itself justify a block. -/
def standing (dispute : Dispute) : Bool := dispute.status.loss

/-- The row phase 1 inserts. -/
def newPackRefund (order : Order) (letters : Nat) (packRefundId : PackRefundId) (intent : IntentId) :
    PackRefund :=
  { packRefundId, orderId := order.orderId, letters, credits := letters * CREDITS_PER_LETTER,
    amountCents := packRefundAmount order letters, stripePaymentIntentId := intent }

/-- `refundPackLetters`, phase 1: revoke the letters and record the intent to refund. -/
def refundPackLetters (s : Store) (orderId : OrderId) (letters : Nat) (packRefundId : PackRefundId) :
    Except Abort Store :=
  match s.orders.find orderId with
  | none => .error .refused
  | some order =>
    match order.stripePaymentIntentId with
    | none => .error .refused
    | some intent =>
      let live := total Lot.remainingAmount (liveLots s.now (packLot order) s.account.creditLedger)
      let amount := packRefundAmount order letters
      if letters = 0 ∨ order.orderType ≠ .letterPack ∨ order.credits = 0 ∨
          order.credits % CREDITS_PER_LETTER ≠ 0 ∨ order.amountKnown = false then .error .refused
      else if order.status ≠ .fulfilled then .error .refused
      else if s.packRefunds.rows.any fun row => row.orderId == orderId && row.inUse then .error .refused
      else if (s.disputes.rows.any fun d => d.paymentIntentId == some intent && standing d) ||
          s.account.sendsBlockedReason.isSome then .error .refused
      else if live / CREDITS_PER_LETTER < letters then .error .refused
      else if amount < 1 ∨ order.amountCents ≤ order.amountRefundedCents + amount then .error .refused
      else if fresh : packRefundId ∉ s.packRefunds.rows.map PackRefund.packRefundId then do
        let row := newPackRefund order letters packRefundId intent
        let (account, exhausted) ←
          revokePackCreditsProportionally s.now s.account order row.credits packRefundId
        let revoked := { s with account, packRefunds := s.packRefunds.insert row fresh }
        let settled := if exhausted then revoked.revokeGiftLettersForOrder orderId else revoked
        settled.updateOrder { order with creditsRefunded := order.creditsRefunded + row.credits }
      else .error .uniqueIndex

/-- `finalizeWithStripe`: what Stripe answered, under the command's lock. -/
def finalizeWithStripe (s : Store) (packRefundId : PackRefundId) (outcome : StripeRefundOutcome) :
    Except Abort Store :=
  match s.packRefund packRefundId with
  | none => .ok s
  | some row => settlePackRefund s row outcome

/-- `handleStripeFailure`: a terminal error compensates, any other spends an attempt. -/
def handleStripeFailure (s : Store) (packRefundId : PackRefundId) (terminal : Bool) :
    Except Abort Store :=
  match s.packRefund packRefundId with
  | none => .ok s
  | some row =>
    if row.status ≠ .lettersRevoked then .ok s
    else if terminal then compensatePackRefund s row none
    else s.updatePackRefund { row with stripeAttempts := row.stripeAttempts + 1 }

/-- A refund as Stripe lists it for a payment. -/
structure ListedRefund where
  id : RefundId
  packRefundId : Option PackRefundId
  amount : Cents
  status : RefundStatus
  deriving DecidableEq

/-- The listed refund the sweep adopts: of those that name the command for its
amount, the one that went through, then one on its way, then the newest. -/
def adoptedRefund (row : PackRefund) (refunds : List ListedRefund) : Option ListedRefund :=
  let candidates := refunds.filter fun refund =>
    refund.packRefundId == some row.packRefundId && refund.amount == row.amountCents
  candidates.find? (fun refund => refund.status == .succeeded) <|>
    candidates.find? (fun refund => !refund.status.ended) <|> candidates.head?

/-- One due row of `reconcilePackRefunds`, with the attempts its query read and
the refunds Stripe listed. With none to adopt below the limit the sweep calls
Stripe again, whose answer is a step of its own. -/
def reconcilePackRefund (cfg : Config) (s : Store) (packRefundId : PackRefundId) (seenAttempts : Nat)
    (refunds : List ListedRefund) : Except Abort Store :=
  match s.packRefund packRefundId with
  | none => .ok s
  | some row =>
    match adoptedRefund row refunds with
    | some found => finalizeWithStripe s packRefundId { id := found.id, status := found.status }
    | none =>
      if cfg.packRefundStripeAttemptLimit ≤ seenAttempts then
        if row.status ≠ .lettersRevoked ∨ row.stripeAttempts < seenAttempts then .ok s
        else compensatePackRefund s row none
      else .ok s

/-- `knownRefundedCents`: confirmed on the order, plus every command still in flight. -/
def knownRefundedCents (s : Store) (order : Order) : Cents :=
  order.amountRefundedCents +
    total PackRefund.amountCents
      (s.packRefunds.rows.filter fun row => row.orderId == order.orderId && row.inFlight)

end LetterIRL.Commerce
