import LetterIRL.Mail.Filed

namespace LetterIRL.Redaction
open Lib Ledger Commerce Mail

/-! Where a lot's credits first came from, through the returns of failed sends. -/

variable {cfg : Config}

/-- `MONEY_BACKED_SOURCE_TYPES`. -/
def MONEY_BACKED_SOURCE_TYPES : List SourceType := [.purchase, .adjustment, .refund]

/-- `source_type = 'adjustment'`, with the reason `send_failed`. -/
def givenBack (lot : Lot) : Bool :=
  lot.sourceType == .adjustment && lot.sourceMetadata.reason == some .sendFailed

/-- `credit_ledger.source_order_id`, which a purchase grant alone writes, as its reference. -/
def sourceOrderId (lot : Lot) : Option OrderId :=
  match lot.sourceType, lot.sourceReferenceId with
  | .purchase, some (.order orderId) => some orderId
  | _, _ => none

/-- What a lot's row says of its source. -/
structure Sourced (ledger : CreditLedger) (lot : Lot) : Prop where
  purchase : lot.sourceType = .purchase → ∃ orderId, lot.sourceReferenceId = some (.order orderId)
  unbacked : lot.sourceType ∉ MONEY_BACKED_SOURCE_TYPES → ∀ orderId, lot.sourceReferenceId ≠ some (.order orderId)
  back : givenBack lot = true →
    ∃ up ∈ ledger.rows, lot.relatedLedgerId = some up.ledgerId ∧ up.sourceReferenceId = lot.sourceReferenceId

def Descended (ledger : CreditLedger) : Prop := ∀ lot ∈ ledger.rows, Sourced ledger lot

theorem Sourced.aged {before after : CreditLedger} {lot new : Lot} (sourced : Sourced before lot) (aged : Aged lot new)
    (kept : ∀ up ∈ before.rows, ∃ later ∈ after.rows, Aged up later) : Sourced after new where
  purchase bought := by
    rw [aged.sourceReferenceId]
    exact sourced.purchase (aged.sourceType ▸ bought)
  unbacked unpaid := by
    rw [aged.sourceReferenceId]
    exact sourced.unbacked (aged.sourceType ▸ unpaid)
  back returned := by
    have was : givenBack lot = true := by
      unfold givenBack at returned ⊢
      rwa [aged.sourceType, aged.sourceMetadata] at returned
    obtain ⟨up, member, related, same⟩ := sourced.back was
    obtain ⟨later, inAfter, older⟩ := kept up member
    exact ⟨later, inAfter, by rw [aged.relatedLedgerId, related, older.ledgerId],
      by rw [older.sourceReferenceId, same, aged.sourceReferenceId]⟩

theorem Sourced.stored {before after : CreditLedger} {posted new : Lot} (sourced : Sourced before posted)
    (stored : Stored posted new) (kept : ∀ up ∈ before.rows, ∃ later ∈ after.rows, Aged up later) :
    Sourced after new := by
  unfold Stored at stored
  rw [stored]
  refine ⟨sourced.purchase, sourced.unbacked, fun returned => ?_⟩
  obtain ⟨up, member, related, same⟩ := sourced.back returned
  obtain ⟨later, inAfter, older⟩ := kept up member
  exact ⟨later, inAfter, by rw [related, older.ledgerId], by rw [older.sourceReferenceId, same]⟩

theorem Descended.ledgerStep {posted : List Lot} {before after : CreditLedger} (descended : Descended before)
    (moved : LedgerStep posted before after) (sourced : ∀ lot ∈ posted, Sourced before lot) : Descended after := by
  have kept : ∀ up ∈ before.rows, ∃ later ∈ after.rows, Aged up later := fun _ member => moved.kept member
  intro lot member
  rcases moved.mem member with ⟨old, inBefore, aged⟩ | ⟨new, inPosted, stored⟩
  · exact (descended old inBefore).aged aged kept
  · exact (sourced new inPosted).stored stored kept

/-- A grant names the order it is for when it is a purchase, and none otherwise. -/
def AddCredits.named (params : AddCredits) : Prop :=
  (∃ orderId, params.sourceType = .purchase ∧ params.sourceReferenceId = some (.order orderId)) ∨
    params.sourceType = .adjustment

theorem grantedLot_sourced (ledger : CreditLedger) (now : Time) {params : AddCredits} (named : AddCredits.named params) :
    Sourced ledger (grantedLot now params) where
  purchase bought := by
    rcases named with ⟨orderId, -, reference⟩ | type
    · exact ⟨orderId, reference⟩
    · have bought : params.sourceType = .purchase := bought
      rw [type] at bought
      cases bought
  unbacked unpaid := by
    have unpaid : params.sourceType ∉ MONEY_BACKED_SOURCE_TYPES := unpaid
    rcases named with ⟨-, type, -⟩ | type
    · exact absurd (by rw [type]; decide) unpaid
    · exact absurd (by rw [type]; decide) unpaid
  back returned := by simp [givenBack, grantedLot] at returned

/-- A lot posted against an order that is no purchase, and gives no send back. -/
theorem posted_sourced {ledger : CreditLedger} {lot : Lot}
    (type : lot.sourceType = .refund ∨ lot.sourceType = .adjustment)
    (reason : lot.sourceMetadata.reason ≠ some .sendFailed) : Sourced ledger lot where
  purchase bought := by
    rcases type with refund | adjustment
    · rw [refund] at bought
      cases bought
    · rw [adjustment] at bought
      cases bought
  unbacked unpaid := by
    rcases type with same | same <;> exact absurd (by rw [same]; decide) unpaid
  back returned := by
    unfold givenBack at returned
    simp only [Bool.and_eq_true, beq_iff_eq] at returned
    exact absurd returned.2 reason

theorem returnedLot_sourced {ledger : CreditLedger} {consumed : Lot × Nat} (now : Time) (letterId : LetterId)
    (member : consumed.1 ∈ ledger.rows) : Sourced ledger (returnedLot now letterId consumed) where
  purchase bought := nomatch bought
  unbacked unpaid := absurd (by simp only [returnedLot]; decide) unpaid
  back _ := ⟨consumed.1, member, rfl, rfl⟩

theorem promoLot_sourced (ledger : CreditLedger) (now : Time) (campaign : CampaignId) (creditsAmount : Nat)
    (expiresAt : Option Time) : Sourced ledger (promoLot now campaign creditsAmount expiresAt) where
  purchase bought := nomatch bought
  unbacked _ _ same := nomatch same
  back returned := nomatch returned

theorem mem_returnedLots {account : Account} {letterId : LetterId} {consumed : Lot × Nat}
    (member : consumed ∈ returnedLots account letterId) : consumed.1 ∈ account.creditLedger.rows := by
  unfold returnedLots at member
  split at member
  · cases member
  · obtain ⟨consumption, -, found⟩ := List.mem_filterMap.mp (List.mem_filter.mp member).1
    obtain ⟨lot, here, rfl⟩ := Option.map_eq_some_iff.mp found
    exact Table.find_mem here

/-- What an operation posts says where it comes from, if a grant does. -/
theorem posted_lots_sourced (now : Time) (account : Account) (event : AccountEvent)
    (named : ∀ params, event = .addCredits params → AddCredits.named params) :
    ∀ lot ∈ event.posted now account, Sourced account.creditLedger lot := by
  intro lot member
  cases event with
  | addCredits params =>
    rw [List.mem_singleton.mp member]
    exact grantedLot_sourced _ now (named params rfl)
  | redeemPromo campaign creditsAmount expiresAt =>
    rw [List.mem_singleton.mp member]
    exact promoLot_sourced _ now campaign creditsAmount expiresAt
  | grantAdjustment amount =>
    rw [List.mem_singleton.mp member]
    exact grantedLot_sourced _ now (.inr rfl)
  | returnCredits letterId =>
    obtain ⟨consumed, inLots, rfl⟩ := List.mem_map.mp member
    exact returnedLot_sourced now letterId (mem_returnedLots inLots)
  | revokeWholePack order cause =>
    obtain ⟨entry, -, rfl⟩ := List.mem_map.mp member
    exact posted_sourced (.inl rfl) (by cases cause <;> simp [revocationAudit, RevocationCause.reason])
  | revokeProportionally order credits packRefundId =>
    obtain ⟨taken, -, rfl⟩ := List.mem_map.mp member
    exact posted_sourced (.inl rfl) (by simp [partialRefundAudit])
  | compensatePackRefund row =>
    obtain ⟨slice, -, rfl⟩ := List.mem_map.mp member
    exact posted_sourced (.inr rfl) (by simp [compensationLot])
  | compensateDisputedPacks order disputeId =>
    simp only [AccountEvent.posted] at member
    split at member
    · cases member
    · obtain ⟨entry, -, rfl⟩ := List.mem_map.mp member
      exact posted_sourced (.inr rfl) (by simp [disputeCompensation])
  | _ => cases member

theorem Descended.account {account after : Account} {event : AccountEvent} {now : Time}
    (descended : Descended account.creditLedger) (applied : applyAccountEvent now account event = .ok after)
    (named : ∀ params, event = .addCredits params → AddCredits.named params) : Descended after.creditLedger :=
  descended.ledgerStep (applyAccountEvent_ledger applied) (posted_lots_sourced now account event named)

theorem packGrant_named (order : Order) (session : SessionId) : AddCredits.named (packGrant order session) :=
  .inl ⟨order.orderId, rfl, rfl⟩

theorem Descended.write {hands : Beneficiary → Prop} {s s' : Commerce.Store}
    (descended : Descended s.account.creditLedger) (write : Write cfg hands s s') :
    Descended s'.account.creditLedger := by
  cases write with
  | account event loose allowed whole applied =>
    refine descended.account applied ?_
    rintro params rfl
    cases loose
  | @restore order current disputeId =>
    have applied : applyAccountEvent s.now s.account (.compensateDisputedPacks order disputeId) = .ok _ := rfl
    exact descended.account applied (by rintro _ ⟨⟩)
  | @fulfilPack old new session account found pack unfunded moved status attached granted checked =>
    have applied : applyAccountEvent s.now s.account (.addCredits (packGrant new session)) = .ok account := granted
    refine descended.account applied ?_
    rintro params ⟨⟩
    exact packGrant_named new session
  | @regrantPack order session account found pack status attached missing granted =>
    have applied : applyAccountEvent s.now s.account (.addCredits (packGrant order session)) = .ok account := granted
    refine descended.account applied ?_
    rintro params ⟨⟩
    exact packGrant_named order session
  | @mailPrepaid draft letterId account drafted pending fresh deducted =>
    have applied : applyAccountEvent s.now s.account (.deductCredits draft.requiredCredits letterId) = .ok account :=
      deducted
    exact descended.account applied (by rintro _ ⟨⟩)
  | @withdraw order row account exhausted found pack fulfilled named credits amount state free below fresh revoked
      checked =>
    have applied : applyAccountEvent s.now s.account (.revokeProportionally order row.credits row.packRefundId) =
        .ok account := by
      rw [applyAccountEvent, revoked]
      rfl
    exact descended.account applied (by rintro _ ⟨⟩)
  | @compensate row | @compensateNothing row =>
    have applied : applyAccountEvent s.now s.account (.compensatePackRefund row) = .ok _ := rfl
    exact descended.account applied (by rintro _ ⟨⟩)
  | _ => exact descended

theorem Descended.writes {hands : Beneficiary → Prop} {s s' : Commerce.Store}
    (descended : Descended s.account.creditLedger) (writes : Writes cfg hands s s') :
    Descended s'.account.creditLedger := by
  induction writes with
  | refl => exact descended
  | tail _ write ih => exact ih.write write

theorem reversals_account (s : Mail.Store) (reversed : List Reversal) :
    (reversed.foldl applyReversal s).commerce.account = s.commerce.account := by
  induction reversed generalizing s with
  | nil => rfl
  | cons reversal reversed ih =>
    obtain ⟨giftLetters, same, -⟩ := applyReversal_commerce s reversal
    refine (ih _).trans ?_
    rw [same]

theorem Descended.fundsMove {s s' : Mail.Store} {letterId : LetterId} {pays : Prop} (move : FundsMove cfg letterId pays s s')
    (descended : Descended s.commerce.account.creditLedger) : Descended s'.commerce.account.creditLedger := by
  cases move with
  | order funds found shift updated =>
    obtain ⟨-, -, rfl⟩ := Commerce.Store.updateOrder_ok updated
    exact descended
  | codes | gift => exact descended
  | credits =>
    have applied : applyAccountEvent s.now s.commerce.account (.returnCredits letterId) =
        .ok (s.returnCredits letterId).1.commerce.account := rfl
    exact descended.account applied nofun

theorem Descended.funds {s s' : Mail.Store} {letterId : LetterId} {pays : Prop} (funds : Funds cfg letterId pays s s')
    (descended : Descended s.commerce.account.creditLedger) : Descended s'.commerce.account.creditLedger := by
  induction funds with
  | refl => exact descended
  | tail _ move ih => exact ih.fundsMove move

/-- Every lot a step posts says where it comes from. -/
theorem Descended.step {s s' : Mail.Store} {event : Mail.Event} (descended : Descended s.commerce.account.creditLedger)
    (backed : Backed s.commerce) (committed : Mail.step cfg s event = .ok s') : Descended s'.commerce.account.creditLedger := by
  cases step_money committed with
  | commerce here money =>
    obtain ⟨after, middle, other, funds, free, stepped, reversed⟩ := money
    have written : Descended after.account.creditLedger := descended.writes (step_writes backed.regular stepped)
    refine Descended.funds funds ?_
    rw [reversed, reversals_account]
    exact written
  | redeems sameAddress redeemed after =>
    subst after
    exact descended
  | funds settles =>
    obtain ⟨middle, other, funds, same, -⟩ := settles
    refine Descended.funds funds ?_
    rw [same]
    exact descended

end LetterIRL.Redaction
