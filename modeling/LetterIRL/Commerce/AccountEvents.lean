import LetterIRL.Commerce.MoneyEvents

namespace LetterIRL.Commerce
open Lib Ledger

/-- One operation on an account: a grant, a spend, a sweep, a reversal or a
compensation. -/
inductive AccountEvent
  | addCredits (params : AddCredits)
  | redeemPromo (campaign : CampaignId) (creditsAmount : Nat) (expiresAt : Option Time)
  | grantAdjustment (amount : Nat)
  | deductCredits (credits : Nat) (letterId : LetterId)
  | removeCredits (amount : Nat)
  | returnCredits (letterId : LetterId)
  | markExpiredEntries
  | reconcileBalances
  | blockSends (reason : Option BlockReason)
  | revokeWholePack (order : Order) (cause : RevocationCause)
  | revokeProportionally (order : Order) (credits : Nat) (packRefundId : PackRefundId)
  | compensatePackRefund (row : PackRefund)
  | compensateDisputedPacks (order : Order) (disputeId : DisputeId)

/-- The account after the operation, at the database's clock. -/
def applyAccountEvent (now : Time) (account : Account) : AccountEvent → Except Abort Account
  | .addCredits params => addCreditsToLedgerWithClient now account params
  | .redeemPromo campaign creditsAmount expiresAt =>
    grantPromoCreditsWithClient now account campaign creditsAmount expiresAt
  | .grantAdjustment amount => grantAdjustmentWithClient now account amount
  | .deductCredits credits letterId => deductCreditsFromLedgerWithClient now account credits letterId
  | .removeCredits amount => removeCreditsWithClient now account amount
  | .returnCredits letterId => .ok (returnConsumedCreditsForLetter now account letterId).1
  | .markExpiredEntries => .ok (Ledger.markExpiredEntries now account)
  | .reconcileBalances => .ok (Ledger.reconcileBalances now account)
  | .blockSends reason => .ok { account with sendsBlockedReason := reason }
  | .revokeWholePack order cause => .ok (Commerce.revokeWholePack now account order cause)
  | .revokeProportionally order credits packRefundId =>
    (revokePackCreditsProportionally now account order credits packRefundId).map Prod.fst
  | .compensatePackRefund row => .ok (compensateAccount now account row)
  | .compensateDisputedPacks order disputeId =>
    .ok (Commerce.compensateDisputedPacks now account order disputeId)

/-- The operations no order's own counters have to follow. -/
def AccountEvent.loose : AccountEvent → Bool
  | .redeemPromo .. | .grantAdjustment _ | .removeCredits _ | .returnCredits _ | .markExpiredEntries
  | .reconcileBalances | .blockSends _ | .revokeWholePack .. => true
  | _ => false

/-- No operation on an account aborts on a CHECK of `orders`. -/
theorem applyAccountEvent_abort {now : Time} {account : Account} (event : AccountEvent) {reason : Abort}
    (aborted : applyAccountEvent now account event = .error reason) : reason ≠ .ordersCheck := by
  rintro rfl
  cases event with
  | addCredits params =>
    simp only [applyAccountEvent, addCreditsToLedgerWithClient] at aborted
    split at aborted <;> cases aborted
  | redeemPromo campaign creditsAmount expiresAt =>
    simp only [applyAccountEvent, grantPromoCreditsWithClient] at aborted
    split at aborted <;> cases aborted
  | grantAdjustment amount =>
    simp only [applyAccountEvent, grantAdjustmentWithClient, addCreditsToLedgerWithClient] at aborted
    split at aborted <;> cases aborted
  | deductCredits credits letterId =>
    simp only [applyAccountEvent, deductCreditsFromLedgerWithClient] at aborted
    repeat' split at aborted
    all_goals cases aborted
  | removeCredits amount =>
    simp only [applyAccountEvent, removeCreditsWithClient] at aborted
    repeat' split at aborted
    all_goals cases aborted
  | revokeProportionally order credits packRefundId =>
    simp only [applyAccountEvent, revokePackCreditsProportionally] at aborted
    repeat' split at aborted
    all_goals cases aborted
  | _ => cases aborted

end LetterIRL.Commerce
