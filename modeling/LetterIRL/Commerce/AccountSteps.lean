import LetterIRL.Commerce.AccountEvents
import LetterIRL.Ledger.Aging

namespace LetterIRL.Commerce
open Lib Ledger

/-! What each account operation posts, and that it only ages what was there. -/

/-- The lot `addCreditsToLedgerWithClient` posts. -/
def grantedLot (now : Time) (params : AddCredits) : Lot :=
  { ledgerId := 0, initialAmount := params.credits, remainingAmount := params.credits,
    sourceType := params.sourceType, sourceReferenceId := params.sourceReferenceId,
    sourceMetadata := { stripeSessionId := params.stripeSessionId },
    expiresAt := finalExpiresAt now params.expiresAt params.expirationDays params.sourceType,
    createdAt := now }

/-- The lot of a redeemed promotion. -/
def promoLot (now : Time) (campaign : CampaignId) (creditsAmount : Nat) (expiresAt : Option Time) : Lot :=
  { ledgerId := 0, initialAmount := creditsAmount, remainingAmount := creditsAmount, sourceType := .promo,
    sourceReferenceId := some (.campaign campaign), expiresAt, createdAt := now }

/-- The consumptions a failed send returns. -/
def returnedLots (account : Account) (letterId : LetterId) : List (Lot × Nat) :=
  if hasReturnedCreditsForLetter account letterId then []
  else (consumedLots account letterId).filter fun consumed => 0 < consumed.2 && consumed.1.status != .revoked

/-- The lots a deduction of `credits` draws on, with what each gives. -/
def drawn (now : Time) (selected : Lot → Bool) (account : Account) (credits : Nat) : List (Lot × Nat) :=
  takeFifo Lot.remainingAmount credits (liveLots now selected account.creditLedger)

/-- The lots an operation posts. -/
def AccountEvent.posted (now : Time) (account : Account) : AccountEvent → List Lot
  | .addCredits params => [grantedLot now params]
  | .redeemPromo campaign creditsAmount expiresAt => [promoLot now campaign creditsAmount expiresAt]
  | .grantAdjustment amount => [grantedLot now { credits := amount, sourceType := .adjustment }]
  | .returnCredits letterId => (returnedLots account letterId).map (returnedLot now letterId)
  | .revokeWholePack order cause =>
    (account.creditLedger.rows.filter (reversible order)).map (revocationAudit now order cause)
  | .revokeProportionally order credits packRefundId =>
    (drawn now (packLot order) account credits).map (partialRefundAudit now order packRefundId)
  | .compensatePackRefund row => (refundAudits account row.packRefundId).map (compensationLot now row)
  | .compensateDisputedPacks order disputeId =>
    if order.status = .refunded ∨ order.status = .refundPending then []
    else (disputeRestores account.creditLedger order disputeId).map (disputeCompensation now order disputeId)
  | _ => []

/-- The consumptions an operation records. -/
def AccountEvent.consumed (now : Time) (account : Account) : AccountEvent → List Consumption
  | .deductCredits credits letterId => (drawn now (fun _ => true) account credits).map fun take =>
    { letterId, ledgerId := take.1.ledgerId, amount := take.2 }
  | _ => []

theorem addCreditsToLedgerWithClient_ok {now : Time} {account after : Account} {params : AddCredits}
    (granted : addCreditsToLedgerWithClient now account params = .ok after) :
    0 < params.credits ∧ after = { account with
      credits := account.credits + params.credits
      creditsPurchased := account.creditsPurchased + params.credits
      creditLedger := postLot (grantedLot now params) account.creditLedger } := by
  unfold addCreditsToLedgerWithClient at granted
  split at granted
  · cases granted
  · rename_i some
    exact ⟨Nat.pos_of_ne_zero some, (Except.ok.inj granted).symm⟩

theorem grantPromoCreditsWithClient_ok {now : Time} {account after : Account} {campaign : CampaignId}
    {creditsAmount : Nat} {expiresAt : Option Time}
    (granted : grantPromoCreditsWithClient now account campaign creditsAmount expiresAt = .ok after) :
    0 < creditsAmount ∧ after = { account with
      credits := account.credits + creditsAmount
      creditLedger := postLot (promoLot now campaign creditsAmount expiresAt) account.creditLedger } := by
  unfold grantPromoCreditsWithClient at granted
  split at granted
  · cases granted
  · rename_i some
    exact ⟨Nat.pos_of_ne_zero some, (Except.ok.inj granted).symm⟩

theorem deductCreditsFromLedgerWithClient_ok {now : Time} {account after : Account} {credits : Nat}
    {letterId : LetterId}
    (deducted : deductCreditsFromLedgerWithClient now account credits letterId = .ok after) :
    0 < credits ∧ credits ≤ account.credits ∧
      credits ≤ total Lot.remainingAmount (liveLots now (fun _ => true) account.creditLedger) ∧
      after = { account with
        credits := account.credits - credits
        creditsUsed := account.creditsUsed + credits
        creditLedger := consumeLots (drawn now (fun _ => true) account credits) account.creditLedger
        creditConsumption := account.creditConsumption ++
          AccountEvent.consumed now account (.deductCredits credits letterId) } := by
  unfold deductCreditsFromLedgerWithClient at deducted
  dsimp only at deducted
  split at deducted
  · cases deducted
  rename_i some
  split at deducted
  · cases deducted
  rename_i enough
  split at deducted
  · cases deducted
  rename_i cached
  exact ⟨Nat.pos_of_ne_zero some, not_lt.mp cached, not_lt.mp enough, (Except.ok.inj deducted).symm⟩

theorem removeCreditsWithClient_ok {now : Time} {account after : Account} {amount : Nat}
    (removed : removeCreditsWithClient now account amount = .ok after) :
    0 < amount ∧ amount ≤ account.credits ∧
      amount ≤ total Lot.remainingAmount (liveLots now (fun _ => true) account.creditLedger) ∧
      after = { account with
        credits := account.credits - amount
        creditLedger := consumeLots (drawn now (fun _ => true) account amount) account.creditLedger } := by
  unfold removeCreditsWithClient at removed
  dsimp only at removed
  split at removed
  · cases removed
  rename_i some
  split at removed
  · cases removed
  rename_i cached
  split at removed
  · cases removed
  rename_i enough
  exact ⟨Nat.pos_of_ne_zero some, not_lt.mp cached, not_lt.mp enough, (Except.ok.inj removed).symm⟩

theorem revokePackCreditsProportionally_ok {now : Time} {account after : Account} {order : Order}
    {credits : Nat} {packRefundId : PackRefundId} {exhausted : Bool}
    (revoked : revokePackCreditsProportionally now account order credits packRefundId =
      .ok (after, exhausted)) :
    0 < credits ∧ credits ≤ total Lot.remainingAmount (liveLots now (packLot order) account.creditLedger) ∧
      after = { account with
        credits := account.credits - credits
        creditsPurchased := account.creditsPurchased - credits
        creditLedger := postLots
          (AccountEvent.posted now account (.revokeProportionally order credits packRefundId))
          (consumeLots (drawn now (packLot order) account credits) account.creditLedger) } := by
  unfold revokePackCreditsProportionally at revoked
  dsimp only at revoked
  split at revoked
  · cases revoked
  rename_i some
  split at revoked
  · cases revoked
  rename_i enough
  cases revoked
  exact ⟨Nat.pos_of_ne_zero some, not_lt.mp enough, rfl⟩

theorem returnConsumedCreditsForLetter_eq {now : Time} {account : Account} {letterId : LetterId} :
    (returnConsumedCreditsForLetter now account letterId).1 = { account with
      credits := account.credits +
        total Prod.snd ((returnedLots account letterId).filter fun consumed => !lapsed now consumed.1)
      creditLedger := postLots (AccountEvent.posted now account (.returnCredits letterId))
        account.creditLedger } := by
  cases returned : hasReturnedCreditsForLetter account letterId with
  | true => simp [returnConsumedCreditsForLetter, AccountEvent.posted, returnedLots, returned]
  | false => simp [returnConsumedCreditsForLetter, AccountEvent.posted, returnedLots, returned]

/-- Whatever a whole-pack reversal finds, it is the update and the audit rows. -/
theorem revokeWholePack_ledger {now : Time} {account : Account} {order : Order} {cause : RevocationCause} :
    (revokeWholePack now account order cause).creditLedger =
      postLots (AccountEvent.posted now account (.revokeWholePack order cause))
        (account.creditLedger.update (reversible order)
          (fun lot => { lot with remainingAmount := 0, status := .revoked }) fun _ => rfl) := by
  unfold revokeWholePack
  dsimp only
  split
  · rename_i none
    have untouched : account.creditLedger.update (reversible order)
        (fun lot => { lot with remainingAmount := 0, status := .revoked }) (fun _ => rfl) =
        account.creditLedger := by
      apply Table.ext_rows
      rw [Table.update_rows, updateWhere]
      refine (List.map_congr_left fun lot member => ?_).trans (List.map_id _)
      have spared := List.filter_eq_nil_iff.mp none lot member
      simp [spared]
    rw [untouched]
    simp only [AccountEvent.posted, none, List.map_nil, postLots_nil]
  · rfl

theorem revokeWholePack_credits {now : Time} {account : Account} {order : Order} {cause : RevocationCause} :
    (revokeWholePack now account order cause).credits ≤ account.credits := by
  unfold revokeWholePack
  dsimp only
  split
  · exact le_rfl
  · exact Nat.sub_le _ _

theorem revokeWholePack_purchased {now : Time} {account : Account} {order : Order}
    {cause : RevocationCause} :
    (revokeWholePack now account order cause).creditsPurchased ≤ account.creditsPurchased := by
  unfold revokeWholePack
  dsimp only
  split
  · exact le_rfl
  · exact Nat.sub_le _ _

/-- And it leaves no lot of the order to spend. -/
theorem revokeWholePack_emptied {now : Time} {account : Account} {order : Order} {cause : RevocationCause} :
    ∀ lot ∈ (revokeWholePack now account order cause).creditLedger.rows,
      lot.sourceType = .purchase ∨ lot.sourceType = .adjustment →
      lot.sourceReferenceId = some (.order order.orderId) → lot.status = .revoked := by
  intro lot member kind named
  rw [revokeWholePack_ledger] at member
  rcases mem_postLots member with old | ⟨audit, posted, shape, -⟩
  · rcases mem_updateWhere.mp old with ⟨-, spared⟩ | ⟨before, -, -, rfl⟩
    · by_contra open_
      have ofPack : packLot order lot = true := by
        rcases kind with kind | kind <;> simp [packLot, kind, named]
      simp [reversible, ofPack, open_] at spared
    · rfl
  · obtain ⟨entry, -, rfl⟩ := List.mem_map.mp posted
    rw [shape] at kind
    rcases kind with kind | kind <;> cases kind

theorem compensateDisputedPacks_ledger {now : Time} {account : Account} {order : Order}
    {disputeId : DisputeId} :
    (compensateDisputedPacks now account order disputeId).creditLedger =
      postLots (AccountEvent.posted now account (.compensateDisputedPacks order disputeId))
        account.creditLedger := by
  simp only [compensateDisputedPacks, AccountEvent.posted]
  split <;> rfl

/-- Every operation ages the ledger and posts its lots. -/
theorem applyAccountEvent_ledger {now : Time} {account after : Account} {event : AccountEvent}
    (applied : applyAccountEvent now account event = .ok after) :
    LedgerStep (event.posted now account) account.creditLedger after.creditLedger := by
  cases event with
  | addCredits params =>
    rw [(addCreditsToLedgerWithClient_ok applied).2]
    exact .postLot _ _
  | redeemPromo campaign creditsAmount expiresAt =>
    rw [(grantPromoCreditsWithClient_ok applied).2]
    exact .postLot _ _
  | grantAdjustment amount =>
    rw [(addCreditsToLedgerWithClient_ok applied).2]
    exact .postLot _ _
  | deductCredits credits letterId =>
    rw [(deductCreditsFromLedgerWithClient_ok applied).2.2.2]
    exact .consume (takeFifo_plan _ _ _ _)
  | removeCredits amount =>
    rw [(removeCreditsWithClient_ok applied).2.2.2]
    exact .consume (takeFifo_plan _ _ _ _)
  | returnCredits letterId =>
    cases applied
    rw [returnConsumedCreditsForLetter_eq]
    exact .postLots _ _
  | markExpiredEntries =>
    cases applied
    apply LedgerStep.update _ (by intros; rfl)
    refine fun lot stale => ⟨rfl, le_rfl, nofun, nofun, fun revoked => ?_⟩
    simp [revoked] at stale
  | reconcileBalances =>
    cases applied
    exact .refl _
  | blockSends reason =>
    cases applied
    exact .refl _
  | revokeWholePack order cause =>
    cases applied
    rw [revokeWholePack_ledger]
    refine .trans ?_ (.postLots _ _)
    apply LedgerStep.update _ (by intros; rfl)
    exact fun lot _ => ⟨rfl, Nat.zero_le _, fun _ => .inr rfl, nofun, fun _ => rfl⟩
  | revokeProportionally order credits packRefundId =>
    simp only [applyAccountEvent] at applied
    cases result : revokePackCreditsProportionally now account order credits packRefundId with
    | error reason =>
      rw [result] at applied
      cases applied
    | ok pair =>
      obtain ⟨revoked, exhausted⟩ := pair
      rw [result] at applied
      cases applied
      obtain ⟨-, -, ledger⟩ := revokePackCreditsProportionally_ok result
      rw [ledger]
      exact .trans (.consume (takeFifo_plan _ _ _ _)) (.postLots _ _)
  | compensatePackRefund row =>
    cases applied
    exact .postLots _ _
  | compensateDisputedPacks order disputeId =>
    cases applied
    rw [compensateDisputedPacks_ledger]
    exact .postLots _ _

theorem revokeWholePack_consumption {now : Time} {account : Account} {order : Order}
    {cause : RevocationCause} :
    (revokeWholePack now account order cause).creditConsumption = account.creditConsumption := by
  unfold revokeWholePack
  dsimp only
  split <;> rfl

theorem compensateDisputedPacks_consumption {now : Time} {account : Account} {order : Order}
    {disputeId : DisputeId} :
    (compensateDisputedPacks now account order disputeId).creditConsumption = account.creditConsumption := by
  unfold compensateDisputedPacks
  dsimp only
  split <;> rfl

/-- Only a deduction records consumptions, and none is ever dropped. -/
theorem applyAccountEvent_consumption {now : Time} {account after : Account} {event : AccountEvent}
    (applied : applyAccountEvent now account event = .ok after) :
    after.creditConsumption = account.creditConsumption ++ event.consumed now account := by
  cases event with
  | addCredits params =>
    rw [(addCreditsToLedgerWithClient_ok applied).2]
    exact (List.append_nil _).symm
  | redeemPromo campaign creditsAmount expiresAt =>
    rw [(grantPromoCreditsWithClient_ok applied).2]
    exact (List.append_nil _).symm
  | grantAdjustment amount =>
    rw [(addCreditsToLedgerWithClient_ok applied).2]
    exact (List.append_nil _).symm
  | deductCredits credits letterId => rw [(deductCreditsFromLedgerWithClient_ok applied).2.2.2]
  | removeCredits amount =>
    rw [(removeCreditsWithClient_ok applied).2.2.2]
    exact (List.append_nil _).symm
  | returnCredits letterId =>
    cases applied
    rw [returnConsumedCreditsForLetter_eq]
    exact (List.append_nil _).symm
  | revokeWholePack order cause =>
    cases applied
    rw [revokeWholePack_consumption]
    exact (List.append_nil _).symm
  | revokeProportionally order credits packRefundId =>
    simp only [applyAccountEvent] at applied
    cases result : revokePackCreditsProportionally now account order credits packRefundId with
    | error reason =>
      rw [result] at applied
      cases applied
    | ok pair =>
      obtain ⟨revoked, exhausted⟩ := pair
      rw [result] at applied
      cases applied
      rw [(revokePackCreditsProportionally_ok result).2.2]
      exact (List.append_nil _).symm
  | compensateDisputedPacks order disputeId =>
    cases applied
    rw [compensateDisputedPacks_consumption]
    exact (List.append_nil _).symm
  | _ =>
    cases applied
    exact (List.append_nil _).symm

end LetterIRL.Commerce
