import LetterIRL.Commerce.AccountSteps

namespace LetterIRL.Balance
open Lib Ledger Commerce

/-! When an operation on an account moves the cached balance by exactly what it
moves the spendable balance of the ledger. -/

/-- `users.credits` moved by what the spendable balance moved by. -/
def Follows (now : Time) (before after : Account) : Prop :=
  after.credits + spendable now before.creditLedger = before.credits + spendable now after.creditLedger

/-- What a list of lots adds to the spendable balance. -/
def liveTotal (now : Time) (lots : List Lot) : Nat :=
  total (fun lot => if live now lot then lot.remainingAmount else 0) lots

/-- The lots of the pack a whole reversal takes, and the part of them that can be spent. -/
def takenTotal (account : Account) (order : Order) : Nat :=
  total Lot.remainingAmount (account.creditLedger.rows.filter (reversible order))

def takenLive (now : Time) (account : Account) (order : Order) : Nat :=
  liveTotal now (account.creditLedger.rows.filter (reversible order))

/-- The condition on the account and the operation under which the cached balance follows. -/
def CacheFollows (now : Time) (account : Account) : AccountEvent → Prop
  | .addCredits params => lapsed now (grantedLot now params) = false
  | .redeemPromo campaign creditsAmount expiresAt =>
    lapsed now (promoLot now campaign creditsAmount expiresAt) = false
  | .reconcileBalances => account.credits = spendable now account.creditLedger
  | .revokeProportionally _ credits _ => credits ≤ account.credits
  | .revokeWholePack order _ =>
    (takenTotal account order ≤ account.credits ∧
        ∀ lot ∈ account.creditLedger.rows, reversible order lot = true → 0 < lot.remainingAmount →
          live now lot = true) ∨
      account.credits = takenLive now account order
  | .compensatePackRefund row =>
    ∀ slice ∈ refundAudits account row.packRefundId, 0 < slice.1.initialAmount →
      lapsed now slice.2 = false
  | .compensateDisputedPacks order disputeId =>
    order.status = .refunded ∨ order.status = .refundPending ∨
      ∀ entry ∈ disputeRestores account.creditLedger order disputeId, lapsed now entry.1 = false
  | _ => True

variable {now : Time} {before after account : Account}

/-- An operation that posts lots and counts `added` follows when that is what they add. -/
theorem follows_posting {lots : List Lot} {added : Nat}
    (ledger : after.creditLedger = postLots lots before.creditLedger)
    (credits : after.credits = before.credits + added) :
    Follows now before after ↔ added = liveTotal now lots := by
  unfold Follows
  rw [ledger, credits, spendable_postLots]
  show _ = before.credits + (_ + liveTotal now lots) ↔ _
  omega

/-- One that draws on live lots and counts `removed` off follows when that is what they gave. -/
theorem follows_drawing {selected : Lot → Bool} {takes : List (Lot × Nat)} {lots : List Lot} {removed : Nat}
    (plan : LotPlan now selected before.creditLedger takes)
    (ledger : after.creditLedger = postLots lots (consumeLots takes before.creditLedger))
    (audits : liveTotal now lots = 0) (exact_ : total Prod.snd takes = removed)
    (credits : after.credits = before.credits - removed) :
    Follows now before after ↔ removed ≤ before.credits := by
  have spent := spendable_consumeLots plan
  unfold Follows
  rw [ledger, credits, spendable_postLots]
  show _ = before.credits + (_ + liveTotal now lots) ↔ _
  omega

/-- A grant of `credits` follows unless its lot has already lapsed. -/
theorem follows_grant {lot : Lot} (ledger : after.creditLedger = postLot lot before.creditLedger)
    (credits : after.credits = before.credits + lot.remainingAmount) (stocked : 0 < lot.remainingAmount)
    (active : lot.status = .active) : Follows now before after ↔ lapsed now lot = false := by
  have posted : after.creditLedger = postLots [lot] before.creditLedger := ledger
  rw [follows_posting posted credits]
  cases stale : lapsed now lot with
  | true =>
    simp [liveTotal, live, stale]
    omega
  | false => simp [liveTotal, live, stale, stocked, active]

/-- A list of active lots adds all it holds unless one that holds credits has lapsed. -/
theorem liveTotal_eq_iff {lots : List Lot} (active : ∀ lot ∈ lots, lot.status = .active) :
    total Lot.remainingAmount lots = liveTotal now lots ↔
      ∀ lot ∈ lots, 0 < lot.remainingAmount → lapsed now lot = false := by
  rw [eq_comm, liveTotal, total_if_eq_iff]
  refine forall₂_congr fun lot member => ?_
  refine imp_congr_right fun stocked => ?_
  simp [live, active lot member, stocked]

/-- Rows that hold nothing add nothing. -/
theorem liveTotal_empty {lots : List Lot} (empty : ∀ lot ∈ lots, lot.remainingAmount = 0) :
    liveTotal now lots = 0 :=
  total_eq_zero fun lot member => by
    rw [empty lot member]
    split <;> rfl

/-- What a plan gives is what was asked for, when the lots offered cover it. -/
theorem drawn_total {selected : Lot → Bool} {credits : Nat}
    (enough : credits ≤ total Lot.remainingAmount (liveLots now selected account.creditLedger)) :
    total Prod.snd (drawn now selected account credits) = credits := by
  rw [drawn, takeFifo_total]
  omega

/-- A whole-pack reversal takes the live part of the pack off the spendable balance. -/
theorem spendable_revokeWholePack (now : Time) (account : Account) (order : Order) (cause : RevocationCause) :
    spendable now (revokeWholePack now account order cause).creditLedger + takenLive now account order =
      spendable now account.creditLedger := by
  have audits : liveTotal now (AccountEvent.posted now account (.revokeWholePack order cause)) = 0 := by
    refine liveTotal_empty fun lot posted => ?_
    obtain ⟨entry, -, rfl⟩ := List.mem_map.mp posted
    rfl
  rw [revokeWholePack_ledger, spendable_postLots]
  show _ + liveTotal now _ + _ = _
  rw [audits, add_zero, takenLive, liveTotal, total_filter]
  unfold spendable
  rw [Table.update_rows, total_updateWhere, ← total_add]
  refine total_congr fun lot _ => ?_
  by_cases mine : reversible order lot = true
  · simp [mine, live]
  · simp [mine]

theorem revokeWholePack_takes {order : Order} {cause : RevocationCause} :
    (revokeWholePack now account order cause).credits = account.credits - takenTotal account order := by
  unfold revokeWholePack takenTotal
  dsimp only
  split
  · rename_i none
    simp [none]
  · rfl

theorem takenLive_le (now : Time) (account : Account) (order : Order) : takenLive now account order ≤ takenTotal account order :=
  total_le fun lot _ => by split <;> omega

theorem takenLive_eq_iff (order : Order) :
    takenLive now account order = takenTotal account order ↔
      ∀ lot ∈ account.creditLedger.rows, reversible order lot = true → 0 < lot.remainingAmount →
        live now lot = true := by
  rw [takenLive, liveTotal, takenTotal, total_if_eq_iff]
  simp only [List.mem_filter, and_imp]

/-- A whole-pack reversal follows when all it takes could be spent, or when the
cache held just the part that could. -/
theorem follows_revokeWholePack {order : Order} {cause : RevocationCause} :
    Follows now account (revokeWholePack now account order cause) ↔
      CacheFollows now account (.revokeWholePack order cause) := by
  have ledger := spendable_revokeWholePack now account order cause
  have part := takenLive_le now account order
  simp only [CacheFollows, ← takenLive_eq_iff]
  unfold Follows
  rw [revokeWholePack_takes]
  constructor
  · intro follows
    omega
  · rintro (⟨covered, all⟩ | cached)
    · omega
    · omega

/-- The lots a failed send brings back that have not lapsed are the ones that can be spent. -/
theorem follows_returnCredits (letterId : LetterId) :
    Follows now account (returnConsumedCreditsForLetter now account letterId).1 := by
  rw [returnConsumedCreditsForLetter_eq]
  refine (follows_posting rfl rfl).mpr ?_
  rw [liveTotal, AccountEvent.posted, total_map, total_filter]
  refine total_congr fun consumed member => ?_
  have stocked : 0 < consumed.2 := by
    unfold returnedLots at member
    split at member
    · cases member
    · rw [List.mem_filter, Bool.and_eq_true, decide_eq_true_eq] at member
      exact member.2.1
  have same : lapsed now (returnedLot now letterId consumed) = lapsed now consumed.1 := rfl
  have held : (returnedLot now letterId consumed).remainingAmount = consumed.2 := rfl
  cases stale : lapsed now consumed.1 with
  | true => simp [live, same, stale]
  | false =>
    have active : (returnedLot now letterId consumed).status = .active := by simp [returnedLot, stale]
    simp [live, same, stale, active, held, stocked]

theorem follows_markExpiredEntries : Follows now account (markExpiredEntries now account) := by
  unfold Follows
  have same : spendable now (markExpiredEntries now account).creditLedger =
      spendable now account.creditLedger := by
    unfold spendable markExpiredEntries
    rw [Table.update_rows, total_updateWhere]
    refine total_congr fun lot _ => ?_
    by_cases stale : lapsed now lot = true
    · have after : lapsed now { lot with status := .expired } = true := stale
      simp [live, stale, after]
    · simp [stale]
  rw [same]
  rfl

theorem follows_compensatePackRefund (row : PackRefund) :
    Follows now account (compensateAccount now account row) ↔
      CacheFollows now account (.compensatePackRefund row) := by
  have held : restoredCredits account row.packRefundId =
      total Lot.remainingAmount ((refundAudits account row.packRefundId).map (compensationLot now row)) := by
    rw [total_map]
    rfl
  have credits : (compensateAccount now account row).credits =
      account.credits + restoredCredits account row.packRefundId := rfl
  rw [follows_posting rfl credits, held, liveTotal_eq_iff (by
    intro lot posted
    obtain ⟨slice, -, rfl⟩ := List.mem_map.mp posted
    rfl)]
  simp only [CacheFollows, List.forall_mem_map]
  rfl

/-- A dispute gives back only lots that held something. -/
theorem disputeRestores_pos {ledger : CreditLedger} {order : Order} {disputeId : DisputeId}
    {entry : Lot × Nat} (member : entry ∈ disputeRestores ledger order disputeId) : 0 < entry.2 := by
  unfold disputeRestores at member
  simpa using (List.mem_filter.mp member).2

theorem follows_compensateDisputedPacks {order : Order} {disputeId : DisputeId} :
    Follows now account (Commerce.compensateDisputedPacks now account order disputeId) ↔
      CacheFollows now account (.compensateDisputedPacks order disputeId) := by
  by_cases refunded : order.status = .refunded ∨ order.status = .refundPending
  · have same : Commerce.compensateDisputedPacks now account order disputeId = account := by
      simp only [Commerce.compensateDisputedPacks, if_pos refunded]
    rw [same]
    have condition : CacheFollows now account (.compensateDisputedPacks order disputeId) :=
      refunded.elim .inl fun pending => .inr (.inl pending)
    exact iff_of_true rfl condition
  · have ledger : (Commerce.compensateDisputedPacks now account order disputeId).creditLedger =
        postLots ((disputeRestores account.creditLedger order disputeId).map
          (disputeCompensation now order disputeId)) account.creditLedger := by
      simp only [Commerce.compensateDisputedPacks, if_neg refunded]
    have credits : (Commerce.compensateDisputedPacks now account order disputeId).credits =
        account.credits + total Lot.remainingAmount ((disputeRestores account.creditLedger order disputeId).map
          (disputeCompensation now order disputeId)) := by
      rw [total_map]
      simp only [Commerce.compensateDisputedPacks, if_neg refunded]
      rfl
    rw [follows_posting ledger credits, liveTotal_eq_iff (by
      intro lot posted
      obtain ⟨entry, -, rfl⟩ := List.mem_map.mp posted
      rfl)]
    simp only [CacheFollows, List.forall_mem_map]
    constructor
    · intro unlapsed
      exact .inr (.inr fun entry member => unlapsed entry member (disputeRestores_pos member))
    · rintro (status | status | unlapsed)
      · exact absurd (.inl status) refunded
      · exact absurd (.inr status) refunded
      · exact fun entry member _ => unlapsed entry member

/-- Every operation, on every account: the cache follows the ledger exactly when its condition holds. -/
theorem follows_iff {event : AccountEvent} (applied : applyAccountEvent now account event = .ok after) :
    Follows now account after ↔ CacheFollows now account event := by
  cases event with
  | addCredits params =>
    obtain ⟨some_, rfl⟩ := addCreditsToLedgerWithClient_ok applied
    exact follows_grant rfl rfl some_ rfl
  | redeemPromo campaign creditsAmount expiresAt =>
    obtain ⟨some_, rfl⟩ := grantPromoCreditsWithClient_ok applied
    exact follows_grant rfl rfl some_ rfl
  | grantAdjustment amount =>
    obtain ⟨some_, rfl⟩ := addCreditsToLedgerWithClient_ok applied
    rw [follows_grant rfl rfl some_ rfl]
    -- An adjustment's lot never expires.
    exact iff_of_true rfl trivial
  | deductCredits credits letterId =>
    obtain ⟨-, cached, enough, rfl⟩ := deductCreditsFromLedgerWithClient_ok applied
    rw [follows_drawing (takeFifo_plan _ _ _ _) (postLots_nil _).symm rfl (drawn_total enough) rfl]
    exact iff_of_true cached trivial
  | removeCredits amount =>
    obtain ⟨-, cached, enough, rfl⟩ := removeCreditsWithClient_ok applied
    rw [follows_drawing (takeFifo_plan _ _ _ _) (postLots_nil _).symm rfl (drawn_total enough) rfl]
    exact iff_of_true cached trivial
  | returnCredits letterId =>
    cases applied
    exact iff_of_true (follows_returnCredits letterId) trivial
  | markExpiredEntries =>
    cases applied
    exact iff_of_true follows_markExpiredEntries trivial
  | reconcileBalances =>
    cases applied
    unfold Follows CacheFollows
    show spendable now account.creditLedger + _ = _ + spendable now account.creditLedger ↔ _
    omega
  | blockSends reason =>
    cases applied
    exact iff_of_true rfl trivial
  | revokeWholePack order cause =>
    cases applied
    exact follows_revokeWholePack
  | revokeProportionally order credits packRefundId =>
    simp only [applyAccountEvent] at applied
    cases result : revokePackCreditsProportionally now account order credits packRefundId with
    | error reason =>
      rw [result] at applied
      cases applied
    | ok pair =>
      obtain ⟨revoked, exhausted⟩ := pair
      rw [result] at applied
      cases applied
      obtain ⟨-, enough, rfl⟩ := revokePackCreditsProportionally_ok result
      refine follows_drawing (takeFifo_plan _ _ _ _) rfl (liveTotal_empty fun lot posted => ?_)
        (drawn_total enough) rfl
      obtain ⟨take, -, rfl⟩ := List.mem_map.mp posted
      rfl
  | compensatePackRefund row =>
    cases applied
    exact follows_compensatePackRefund row
  | compensateDisputedPacks order disputeId =>
    cases applied
    exact follows_compensateDisputedPacks

end LetterIRL.Balance
