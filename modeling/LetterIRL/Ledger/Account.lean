import LetterIRL.Commerce.Rows
import Mathlib.Data.List.Sort

namespace LetterIRL.Ledger
open Lib Commerce

/-- Why a transaction rolled back. -/
inductive Abort
  /-- The code refused: a thrown error, or a row its guard did not match. -/
  | refused
  /-- A CHECK constraint of `orders`. -/
  | ordersCheck
  /-- The CHECK on `users.credits`. -/
  | usersCheck
  /-- A unique index. -/
  | uniqueIndex
  deriving DecidableEq

abbrev CreditLedger := Table Lot.ledgerId

/-- `users.sends_blocked_reason`. -/
inductive BlockReason
  | paymentDisputed
  | accountErased
  deriving DecidableEq

/-- One account: its `users` row, its ledger and what its letters consumed. -/
structure Account where
  credits : Nat := 0
  creditsPurchased : Nat := 0
  creditsUsed : Nat := 0
  sendsBlockedReason : Option BlockReason := none
  creditLedger : CreditLedger := Table.empty
  creditConsumption : List Consumption := []

/-- `expires_at IS NOT NULL AND expires_at <= NOW()`. -/
def lapsed (now : Time) (lot : Lot) : Bool :=
  match lot.expiresAt with
  | none => false
  | some at_ => at_ ≤ now

/-- `status = 'active' AND remaining_amount > 0 AND (expires_at IS NULL OR expires_at > NOW())`. -/
def live (now : Time) (lot : Lot) : Bool :=
  lot.status == .active && 0 < lot.remainingAmount && !lapsed now lot

/-- `ORDER BY expires_at NULLS LAST, created_at ASC`. -/
def consumedBefore (first second : Lot) : Bool :=
  match first.expiresAt, second.expiresAt with
  | some a, some b => a < b || (a == b && first.createdAt ≤ second.createdAt)
  | some _, none => true
  | none, some _ => false
  | none, none => first.createdAt ≤ second.createdAt

/-- The live lots a query selects, in consumption order. -/
def liveLots (now : Time) (selected : Lot → Bool) (ledger : CreditLedger) : List Lot :=
  (ledger.rows.filter fun lot => selected lot && live now lot).insertionSort
    fun first second => consumedBefore first second

/-- `SET remaining_amount = $1, status = CASE WHEN $1 = 0 THEN 'depleted' …`. -/
def setRemaining (remaining : Nat) (lot : Lot) : Lot :=
  { lot with
    remainingAmount := remaining
    status := if remaining = 0 then .depleted else lot.status }

/-- What a lot is left with once `taken` of it is spent or revoked. -/
def consumeLot (taken : Nat) (lot : Lot) : Lot :=
  setRemaining (lot.remainingAmount - taken) lot

/-- Write the remainders of the lots a deduction drew on. -/
def consumeLots (takes : List (Lot × Nat)) (ledger : CreditLedger) : CreditLedger :=
  ⟨applyTakes Lot.ledgerId consumeLot takes ledger.rows, by
    have column : (applyTakes Lot.ledgerId consumeLot takes ledger.rows).map Lot.ledgerId =
        ledger.rows.map Lot.ledgerId := map_applyTakes Lot.ledgerId (by intros; rfl) _ _
    rw [column]
    exact ledger.unique⟩

@[simp] theorem consumeLots_rows (takes : List (Lot × Nat)) (ledger : CreditLedger) :
    (consumeLots takes ledger).rows = applyTakes Lot.ledgerId consumeLot takes ledger.rows := rfl

/-- `INSERT INTO credit_ledger` under a fresh id. -/
def postLot (lot : Lot) (ledger : CreditLedger) : CreditLedger :=
  ledger.insert { lot with ledgerId := ledger.nextKey } ledger.nextKey_fresh

def postLots (lots : List Lot) (ledger : CreditLedger) : CreditLedger :=
  lots.foldl (fun posted lot => postLot lot posted) ledger

/-- `DEFAULT_EXPIRATION_DAYS`. -/
def DEFAULT_EXPIRATION_DAYS : SourceType → Option Nat
  | .purchase => some 730
  | .signupBonus => some 30
  | .promo => some 90
  | .adjustment => none
  | .refund => none

/-- The expiry `addCreditsToLedgerWithClient` settles on. -/
def finalExpiresAt (now : Time) (expiresAt : Option Time) (expirationDays : Option Nat)
    (sourceType : SourceType) : Option Time :=
  match expiresAt, expirationDays with
  | some at_, _ => some at_
  | none, some n => some (now + days n)
  | none, none => (DEFAULT_EXPIRATION_DAYS sourceType).map fun n => now + days n

/-- The parameters of `addCreditsToLedgerWithClient` the ledger keeps. -/
structure AddCredits where
  credits : Nat
  sourceType : SourceType
  sourceReferenceId : Option SourceReference := none
  stripeSessionId : Option SessionId := none
  expiresAt : Option Time := none
  expirationDays : Option Nat := none

def addCreditsToLedgerWithClient (now : Time) (account : Account) (params : AddCredits) :
    Except Abort Account :=
  if params.credits = 0 then .error .refused
  else .ok { account with
    credits := account.credits + params.credits
    creditsPurchased := account.creditsPurchased + params.credits
    creditLedger := postLot
      { ledgerId := 0, initialAmount := params.credits, remainingAmount := params.credits,
        sourceType := params.sourceType, sourceReferenceId := params.sourceReferenceId,
        sourceMetadata := { stripeSessionId := params.stripeSessionId },
        expiresAt := finalExpiresAt now params.expiresAt params.expirationDays params.sourceType,
        createdAt := now } account.creditLedger }

/-- `redeemPromoCode`: a campaign's lot, with the campaign's own expiry. Not counted as purchased. -/
def grantPromoCreditsWithClient (now : Time) (account : Account) (campaign : CampaignId)
    (creditsAmount : Nat) (expiresAt : Option Time) : Except Abort Account :=
  if creditsAmount = 0 then .error .refused
  else .ok { account with
    credits := account.credits + creditsAmount
    creditLedger := postLot
      { ledgerId := 0, initialAmount := creditsAmount, remainingAmount := creditsAmount,
        sourceType := .promo, sourceReferenceId := some (.campaign campaign), expiresAt,
        createdAt := now } account.creditLedger }

def deductCreditsFromLedgerWithClient (now : Time) (account : Account) (credits : Nat)
    (letterId : LetterId) : Except Abort Account :=
  let lots := liveLots now (fun _ => true) account.creditLedger
  if credits = 0 then .error .refused
  else if total Lot.remainingAmount lots < credits then .error .refused
  else if account.credits < credits then .error .usersCheck
  else
    let takes := takeFifo Lot.remainingAmount credits lots
    .ok { account with
      credits := account.credits - credits
      creditsUsed := account.creditsUsed + credits
      creditLedger := consumeLots takes account.creditLedger
      creditConsumption := account.creditConsumption ++
        takes.map fun take => { letterId, ledgerId := take.1.ledgerId, amount := take.2 } }

/-- `adjustCreditsWithClient` for a negative amount: the cache first, then the
ledger, which must cover it. -/
def removeCreditsWithClient (now : Time) (account : Account) (amount : Nat) : Except Abort Account :=
  let lots := liveLots now (fun _ => true) account.creditLedger
  if amount = 0 then .error .refused
  else if account.credits < amount then .error .usersCheck
  else if total Lot.remainingAmount lots < amount then .error .refused
  else .ok { account with
    credits := account.credits - amount
    creditLedger := consumeLots (takeFifo Lot.remainingAmount amount lots) account.creditLedger }

/-- `adjustCreditsWithClient` for a positive amount: a lot that never expires. -/
def grantAdjustmentWithClient (now : Time) (account : Account) (amount : Nat) : Except Abort Account :=
  addCreditsToLedgerWithClient now account { credits := amount, sourceType := .adjustment }

def hasReturnedCreditsForLetter (account : Account) (letterId : LetterId) : Bool :=
  account.creditLedger.rows.any fun lot =>
    lot.sourceType == .adjustment && lot.sourceMetadata.letterId == some letterId &&
      lot.sourceMetadata.reason == some .sendFailed

/-- The consumptions of a letter joined to the lots they drew on. -/
def consumedLots (account : Account) (letterId : LetterId) : List (Lot × Nat) :=
  (account.creditConsumption.filter fun c => c.letterId == letterId).filterMap fun c =>
    (account.creditLedger.find c.ledgerId).map fun lot => (lot, c.amount)

/-- The lot `returnConsumedCreditsForLetter` posts for a consumed one. -/
def returnedLot (now : Time) (letterId : LetterId) (consumed : Lot × Nat) : Lot :=
  { ledgerId := 0, initialAmount := consumed.2, remainingAmount := consumed.2,
    sourceType := .adjustment, sourceReferenceId := consumed.1.sourceReferenceId,
    sourceMetadata :=
      { reason := some .sendFailed, letterId := some letterId,
        stripeSessionId := consumed.1.sourceMetadata.stripeSessionId },
    expiresAt := consumed.1.expiresAt,
    status := if lapsed now consumed.1 then .expired else .active,
    relatedLedgerId := some consumed.1.ledgerId, createdAt := now }

/-- The account after the return, and the credits re-issued. -/
def returnConsumedCreditsForLetter (now : Time) (account : Account) (letterId : LetterId) :
    Account × Nat :=
  if hasReturnedCreditsForLetter account letterId then (account, 0)
  else
    let returned := (consumedLots account letterId).filter fun consumed =>
      0 < consumed.2 && consumed.1.status != .revoked
    let usable := returned.filter fun consumed => !lapsed now consumed.1
    ({ account with
        credits := account.credits + total Prod.snd usable
        creditLedger := postLots (returned.map (returnedLot now letterId)) account.creditLedger },
      total Prod.snd returned)

/-- `markExpiredEntries`, for this account's lots. -/
def markExpiredEntries (now : Time) (account : Account) : Account :=
  { account with
    creditLedger := account.creditLedger.update
      (fun lot => lot.status == .active && lapsed now lot && 0 < lot.remainingAmount)
      (fun lot => { lot with status := .expired }) fun _ => rfl }

/-- Credits the account can spend: what every balance read sums. -/
def spendable (now : Time) (ledger : CreditLedger) : Nat :=
  total (fun lot => if live now lot then lot.remainingAmount else 0) ledger.rows

/-- `reconcileBalances`, for this account. -/
def reconcileBalances (now : Time) (account : Account) : Account :=
  { account with credits := spendable now account.creditLedger }

/-- Lots of a pack: bought by the order, or posted against it, or under its session. -/
def packLot (order : Order) (lot : Lot) : Bool :=
  (lot.sourceType == .purchase || lot.sourceType == .adjustment) &&
    (lot.sourceReferenceId == some (.order order.orderId) ||
      (order.stripeCheckoutSessionId.isSome &&
        lot.sourceMetadata.stripeSessionId == order.stripeCheckoutSessionId))

/-- `isLetterAlreadyCompensated`, the part read from the ledger. -/
def packCompensated (account : Account) (letterId : LetterId) : Bool :=
  hasReturnedCreditsForLetter account letterId ||
    (!(consumedLots account letterId).isEmpty &&
      (consumedLots account letterId).all fun consumed => consumed.1.status == .revoked)

end LetterIRL.Ledger
