import LetterIRL.Balance.Spending
import LetterIRL.Commerce.Settlements

namespace LetterIRL.Balance
open Lib Ledger Commerce

/-! Between two sweeps the cached balance exceeds the ledger by what lapsed meanwhile, and by nothing else. -/

/-- A lot counted when the cache was last swept, or posted since, that has lapsed since then. -/
def lapsedSince (swept now : Time) (lot : Lot) : Bool :=
  (lot.status == .active || lot.status == .expired) && match lot.expiresAt with
    | none => false
    | some at_ => swept < at_ && lot.createdAt < at_ && at_ ≤ now

/-- What the cache still counts of lots that have lapsed. -/
def lapsedTotal (swept now : Time) (ledger : CreditLedger) : Nat :=
  total (fun lot => if lapsedSince swept now lot then lot.remainingAmount else 0) ledger.rows

/-- An account with the time of its last sweep. -/
structure Swept where
  wallet : Wallet := {}
  swept : Time := 0

def Swept.step (s : Swept) (turn : Turn) : Except Abort Swept :=
  (s.wallet.step turn).map fun wallet =>
    match turn with
    | .apply .reconcileBalances => { wallet, swept := wallet.now }
    | _ => { s with wallet }

/-- Every operation meets the condition under which the cache follows it; a sweep needs none. -/
def Swept.permitted (s : Swept) : Turn → Prop
  | .wait _ => True
  | .apply .reconcileBalances => True
  | .apply event => CacheFollows s.wallet.now s.wallet.account event

/-- What every lot of a run is like. -/
structure Dated (s : Swept) : Prop where
  sweptBefore : s.swept ≤ s.wallet.now
  created : ∀ lot ∈ s.wallet.account.creditLedger.rows, lot.createdAt ≤ s.wallet.now
  expired : ∀ lot ∈ s.wallet.account.creditLedger.rows, lot.status = .expired →
    lapsed s.wallet.now lot = true

variable {swept now : Time} {account after : Account} {s s' : Swept}

theorem lapsedSince_lapsed {lot : Lot} (since : lapsedSince swept now lot = true) : lapsed now lot = true := by
  unfold lapsedSince at since
  unfold lapsed
  cases expires : lot.expiresAt with
  | none => simp [expires] at since
  | some at_ =>
    simp only [expires, Bool.and_eq_true, decide_eq_true_eq] at since ⊢
    exact since.2.2

/-- A lot posted now cannot have lapsed since. -/
theorem lapsedSince_posted {lot : Lot} (fresh : lot.createdAt = now) : lapsedSince swept now lot = false := by
  by_contra since
  rw [Bool.not_eq_false] at since
  unfold lapsedSince at since
  cases expires : lot.expiresAt with
  | none => simp [expires] at since
  | some at_ =>
    simp only [expires, Bool.and_eq_true, decide_eq_true_eq, fresh] at since
    exact absurd since.2.2 (not_le.mpr since.2.1.2)

theorem lapsedTotal_postLots {lots : List Lot} {ledger : CreditLedger} (fresh : ∀ lot ∈ lots, lot.createdAt = now) :
    lapsedTotal swept now (postLots lots ledger) = lapsedTotal swept now ledger := by
  have blind : idBlind fun lot => if lapsedSince swept now lot then lot.remainingAmount else 0 := fun _ _ => rfl
  unfold lapsedTotal
  rw [total_postLots blind]
  have none : total (fun lot => if lapsedSince swept now lot then lot.remainingAmount else 0) lots = 0 :=
    total_eq_zero fun lot member => by rw [lapsedSince_posted (fresh lot member), if_neg Bool.false_ne_true]
  omega

/-- Spending draws on live lots, which have not lapsed. -/
theorem lapsedTotal_consumeLots {selected : Lot → Bool} {ledger : CreditLedger} {takes : List (Lot × Nat)}
    (plan : LotPlan now selected ledger takes) :
    lapsedTotal swept now (consumeLots takes ledger) = lapsedTotal swept now ledger := by
  refine total_consumeLots_ignored plan fun take member => ?_
  have isLive := (plan.chosen take member).2
  have unlapsed : lapsed now take.1 = false := by
    simp only [live, Bool.and_eq_true, Bool.not_eq_true'] at isLive
    exact isLive.2
  have notBefore : lapsedSince swept now take.1 = false := by
    by_contra since
    rw [lapsedSince_lapsed (by simpa using since)] at unlapsed
    cases unlapsed
  have notAfter : lapsedSince swept now (consumeLot take.2 take.1) = false := by
    by_contra since
    have stale : lapsed now (consumeLot take.2 take.1) = true := lapsedSince_lapsed (by simpa using since)
    rw [show lapsed now (consumeLot take.2 take.1) = lapsed now take.1 from rfl, unlapsed] at stale
    cases stale
  simp [notBefore, notAfter]

theorem lapsedTotal_markExpiredEntries :
    lapsedTotal swept now (markExpiredEntries now account).creditLedger =
      lapsedTotal swept now account.creditLedger := by
  unfold lapsedTotal markExpiredEntries
  rw [Table.update_rows, total_updateWhere]
  refine total_congr fun lot _ => ?_
  by_cases stale : (lot.status == .active && lapsed now lot && decide (0 < lot.remainingAmount)) = true
  · simp only [Bool.and_eq_true, beq_iff_eq] at stale
    have same : lapsedSince swept now { lot with status := .expired } = lapsedSince swept now lot := by
      simp [lapsedSince, stale.1.1]
    simp [same]
  · simp [stale]

theorem lapsedTotal_revokeWholePack_le {order : Order} {cause : RevocationCause} :
    lapsedTotal swept now (revokeWholePack now account order cause).creditLedger ≤
      lapsedTotal swept now account.creditLedger := by
  rw [revokeWholePack_ledger, lapsedTotal_postLots (by
    intro lot posted
    obtain ⟨entry, -, rfl⟩ := List.mem_map.mp posted
    rfl)]
  unfold lapsedTotal
  rw [Table.update_rows, total_updateWhere]
  refine total_le fun lot _ => ?_
  by_cases mine : reversible order lot = true
  · simp [mine]
  · simp [mine]

/-- A reversal that takes only live lots leaves what has lapsed alone. -/
theorem lapsedTotal_revokeWholePack {order : Order} {cause : RevocationCause}
    (all : ∀ lot ∈ account.creditLedger.rows, reversible order lot = true → 0 < lot.remainingAmount →
      live now lot = true) :
    lapsedTotal swept now (revokeWholePack now account order cause).creditLedger =
      lapsedTotal swept now account.creditLedger := by
  rw [revokeWholePack_ledger, lapsedTotal_postLots (by
    intro lot posted
    obtain ⟨entry, -, rfl⟩ := List.mem_map.mp posted
    rfl)]
  unfold lapsedTotal
  rw [Table.update_rows, total_updateWhere]
  refine total_congr fun lot member => ?_
  by_cases mine : reversible order lot = true
  · by_cases stocked : 0 < lot.remainingAmount
    · have isLive := all lot member mine stocked
      have notSince : lapsedSince swept now lot = false := by
        by_contra since
        have stale : lapsed now lot = true :=
          lapsedSince_lapsed (by simpa using since : lapsedSince swept now lot = true)
        simp [live, stale] at isLive
      simp [mine, notSince]
    · have empty : lot.remainingAmount = 0 := by omega
      simp [mine, empty]
  · simp [mine]

theorem Dated.wait {elapsed : Time} (dated : Dated s) :
    Dated { s with wallet := { s.wallet with now := s.wallet.now + elapsed } } where
  sweptBefore := dated.sweptBefore.trans (Nat.le_add_right _ _)
  created lot member := (dated.created lot member).trans (Nat.le_add_right _ _)
  expired lot member status := by
    have stale := dated.expired lot member status
    unfold lapsed at stale ⊢
    cases expires : lot.expiresAt with
    | none => simp [expires] at stale
    | some at_ =>
      simp only [expires, decide_eq_true_eq] at stale ⊢
      exact stale.trans (Nat.le_add_right _ _)

/-- What time takes from the spendable balance is what lapses. -/
theorem wait_conserves {elapsed : Time} (dated : Dated s) :
    spendable (s.wallet.now + elapsed) s.wallet.account.creditLedger +
        lapsedTotal s.swept (s.wallet.now + elapsed) s.wallet.account.creditLedger =
      spendable s.wallet.now s.wallet.account.creditLedger +
        lapsedTotal s.swept s.wallet.now s.wallet.account.creditLedger := by
  unfold spendable lapsedTotal
  rw [← total_add, ← total_add]
  refine total_congr fun lot member => ?_
  have created := dated.created lot member
  have past := dated.expired lot member
  have before := dated.sweptBefore
  cases expires : lot.expiresAt with
  | none => simp [live, lapsed, lapsedSince, expires]
  | some at_ =>
    simp only [live, lapsed, lapsedSince, expires] at past ⊢
    by_cases sooner : at_ ≤ s.wallet.now
    · have later : at_ ≤ s.wallet.now + elapsed := Nat.le_trans sooner (Nat.le_add_right _ _)
      simp [sooner, later]
    · have open_ : s.wallet.now < at_ := not_le.mp sooner
      have counted : s.swept < at_ := Nat.lt_of_le_of_lt before open_
      have younger : lot.createdAt < at_ := Nat.lt_of_le_of_lt created open_
      have notExpired : lot.status ≠ .expired := fun status => sooner (of_decide_eq_true (past status))
      by_cases active : lot.status = .active
      · by_cases stocked : 0 < lot.remainingAmount
        · by_cases later : at_ ≤ s.wallet.now + elapsed
          · simp [active, stocked, later, sooner, counted, younger]
          · simp [active, stocked, later, sooner]
        · have empty : lot.remainingAmount = 0 := by omega
          simp [empty]
      · simp [active, notExpired]

/-- Every lot an operation posts is dated now, and marked expired only when it is. -/
theorem posted_dated {event : AccountEvent} :
    ∀ lot ∈ event.posted now account, lot.createdAt = now ∧
      (lot.status = .expired → lapsed now lot = true) := by
  intro lot posted
  cases event with
  | addCredits params =>
    rw [List.mem_singleton.mp posted]
    exact ⟨rfl, fun status => by cases status⟩
  | redeemPromo campaign creditsAmount expiresAt =>
    rw [List.mem_singleton.mp posted]
    exact ⟨rfl, fun status => by cases status⟩
  | grantAdjustment amount =>
    rw [List.mem_singleton.mp posted]
    exact ⟨rfl, fun status => by cases status⟩
  | returnCredits letterId =>
    obtain ⟨consumed, -, rfl⟩ := List.mem_map.mp posted
    refine ⟨rfl, fun status => ?_⟩
    show lapsed now consumed.1 = true
    by_contra open_
    simp [returnedLot, open_] at status
  | revokeWholePack order cause =>
    obtain ⟨entry, -, rfl⟩ := List.mem_map.mp posted
    exact ⟨rfl, fun status => by cases status⟩
  | revokeProportionally order credits packRefundId =>
    obtain ⟨take, -, rfl⟩ := List.mem_map.mp posted
    exact ⟨rfl, fun status => by cases status⟩
  | compensatePackRefund row =>
    obtain ⟨slice, -, rfl⟩ := List.mem_map.mp posted
    exact ⟨rfl, fun status => by cases status⟩
  | compensateDisputedPacks order disputeId =>
    simp only [AccountEvent.posted] at posted
    split at posted
    · cases posted
    · obtain ⟨entry, -, rfl⟩ := List.mem_map.mp posted
      exact ⟨rfl, fun status => by cases status⟩
  | _ => cases posted

/-- A lot an operation leaves marked expired was so before, or has lapsed. -/
theorem expired_lapsed {event : AccountEvent} (applied : applyAccountEvent now account event = .ok after)
    (dated : ∀ lot ∈ account.creditLedger.rows, lot.status = .expired → lapsed now lot = true) :
    ∀ lot ∈ after.creditLedger.rows, lot.status = .expired → lapsed now lot = true := by
  have consumed : ∀ takes : List (Lot × Nat), ∀ lot ∈ (consumeLots takes account.creditLedger).rows,
      lot.status = .expired → lapsed now lot = true := by
    intro takes
    refine consumeLots_forall dated fun taken lot holds status => ?_
    have before : lot.status = .expired := by
      simp only [consumeLot, setRemaining] at status
      split at status
      · cases status
      · exact status
    exact holds before
  have posting : ∀ {lots : List Lot} {ledger : CreditLedger},
      (∀ lot ∈ ledger.rows, lot.status = .expired → lapsed now lot = true) →
      (∀ lot ∈ lots, lot.status = .expired → lapsed now lot = true) →
      ∀ lot ∈ (postLots lots ledger).rows, lot.status = .expired → lapsed now lot = true := by
    intro lots ledger old new lot member status
    rcases mem_postLots member with before | ⟨posted, inLots, shape, -⟩
    · exact old lot before status
    · rw [shape] at status ⊢
      exact new posted inLots status
  have fresh : ∀ lot ∈ event.posted now account, lot.status = .expired → lapsed now lot = true :=
    fun lot posted => (posted_dated lot posted).2
  cases event with
  | addCredits params =>
    obtain ⟨-, rfl⟩ := addCreditsToLedgerWithClient_ok applied
    exact posting dated fresh
  | redeemPromo campaign creditsAmount expiresAt =>
    obtain ⟨-, rfl⟩ := grantPromoCreditsWithClient_ok applied
    exact posting dated fresh
  | grantAdjustment amount =>
    obtain ⟨-, rfl⟩ := addCreditsToLedgerWithClient_ok applied
    exact posting dated fresh
  | deductCredits credits letterId =>
    obtain ⟨-, -, -, rfl⟩ := deductCreditsFromLedgerWithClient_ok applied
    exact consumed _
  | removeCredits amount =>
    obtain ⟨-, -, -, rfl⟩ := removeCreditsWithClient_ok applied
    exact consumed _
  | returnCredits letterId =>
    cases applied
    rw [returnConsumedCreditsForLetter_eq]
    exact posting dated fresh
  | markExpiredEntries =>
    cases applied
    intro lot member status
    rcases mem_updateWhere.mp member with ⟨old, -⟩ | ⟨old, -, stale, rfl⟩
    · exact dated lot old status
    · simp only [Bool.and_eq_true] at stale
      exact stale.1.2
  | reconcileBalances =>
    cases applied
    exact dated
  | blockSends reason =>
    cases applied
    exact dated
  | revokeWholePack order cause =>
    cases applied
    rw [revokeWholePack_ledger]
    refine posting ?_ fresh
    intro lot member status
    rcases mem_updateWhere.mp member with ⟨old, -⟩ | ⟨old, -, -, rfl⟩
    · exact dated lot old status
    · cases status
  | revokeProportionally order credits packRefundId =>
    simp only [applyAccountEvent] at applied
    obtain ⟨⟨revoked, exhausted⟩, result, rfl⟩ := map_eq_ok applied
    obtain ⟨-, -, rfl⟩ := revokePackCreditsProportionally_ok result
    exact posting (consumed _) fresh
  | compensatePackRefund row =>
    cases applied
    exact posting dated fresh
  | compensateDisputedPacks order disputeId =>
    cases applied
    rw [compensateDisputedPacks_ledger]
    exact posting dated fresh

theorem Dated.apply {event : AccountEvent} {swept : Time} (dated : Dated s)
    (applied : applyAccountEvent s.wallet.now s.wallet.account event = .ok after)
    (sweptBefore : swept ≤ s.wallet.now) :
    Dated { wallet := { s.wallet with account := after }, swept } where
  sweptBefore := sweptBefore
  created lot member := by
    rcases (applyAccountEvent_ledger applied).mem member with ⟨old, before, aged⟩ | ⟨new, posted, stored⟩
    · rw [aged.same]
      exact dated.created old before
    · rw [stored]
      exact le_of_eq (posted_dated new posted).1
  expired := expired_lapsed applied dated.expired

/-- Nothing has lapsed since a sweep made now. -/
theorem lapsedTotal_now (now : Time) (ledger : CreditLedger) : lapsedTotal now now ledger = 0 := by
  refine total_eq_zero fun lot _ => ?_
  have none : lapsedSince now now lot = false := by
    unfold lapsedSince
    cases lot.expiresAt with
    | none => simp
    | some at_ =>
      have apart : (decide (now < at_) && decide (lot.createdAt < at_) && decide (at_ ≤ now)) = false := by
        by_cases later : now < at_
        · simp [not_le.mpr later]
        · simp [later]
      simp [apart]
  simp [none]

/-- An operation the cache follows leaves what it still counts of lapsed lots alone, or there is none. -/
theorem lapsedTotal_apply {event : AccountEvent} (applied : applyAccountEvent now account event = .ok after)
    (condition : CacheFollows now account event)
    (counted : account.credits = spendable now account.creditLedger + lapsedTotal swept now account.creditLedger) :
    lapsedTotal swept now after.creditLedger = lapsedTotal swept now account.creditLedger := by
  have posting : ∀ {ledger : CreditLedger}, lapsedTotal swept now ledger = lapsedTotal swept now account.creditLedger →
      lapsedTotal swept now (postLots (event.posted now account) ledger) =
        lapsedTotal swept now account.creditLedger := fun same =>
    (lapsedTotal_postLots fun lot posted => (posted_dated lot posted).1).trans same
  cases event with
  | addCredits params =>
    obtain ⟨-, rfl⟩ := addCreditsToLedgerWithClient_ok applied
    exact posting rfl
  | redeemPromo campaign creditsAmount expiresAt =>
    obtain ⟨-, rfl⟩ := grantPromoCreditsWithClient_ok applied
    exact posting rfl
  | grantAdjustment amount =>
    obtain ⟨-, rfl⟩ := addCreditsToLedgerWithClient_ok applied
    exact posting rfl
  | deductCredits credits letterId =>
    obtain ⟨-, -, -, rfl⟩ := deductCreditsFromLedgerWithClient_ok applied
    exact lapsedTotal_consumeLots (takeFifo_plan _ _ _ _)
  | removeCredits amount =>
    obtain ⟨-, -, -, rfl⟩ := removeCreditsWithClient_ok applied
    exact lapsedTotal_consumeLots (takeFifo_plan _ _ _ _)
  | returnCredits letterId =>
    cases applied
    rw [returnConsumedCreditsForLetter_eq]
    exact posting rfl
  | markExpiredEntries =>
    cases applied
    exact lapsedTotal_markExpiredEntries
  | reconcileBalances =>
    cases applied
    rfl
  | blockSends reason =>
    cases applied
    rfl
  | revokeWholePack order cause =>
    cases applied
    rcases condition with ⟨-, all⟩ | cached
    · exact lapsedTotal_revokeWholePack all
    · -- The cache holds just the live part of the pack, so it counted no lapsed lot.
      have part : takenLive now account order ≤ spendable now account.creditLedger := by
        have ledger := spendable_revokeWholePack now account order cause
        omega
      have none : lapsedTotal swept now account.creditLedger = 0 := by omega
      have fewer : lapsedTotal swept now (revokeWholePack now account order cause).creditLedger ≤
          lapsedTotal swept now account.creditLedger := lapsedTotal_revokeWholePack_le
      rw [none] at fewer ⊢
      exact Nat.le_zero.mp fewer
  | revokeProportionally order credits packRefundId =>
    simp only [applyAccountEvent] at applied
    obtain ⟨⟨revoked, exhausted⟩, result, rfl⟩ := map_eq_ok applied
    obtain ⟨-, -, rfl⟩ := revokePackCreditsProportionally_ok result
    exact posting (lapsedTotal_consumeLots (takeFifo_plan _ _ _ _))
  | compensatePackRefund row =>
    cases applied
    exact posting rfl
  | compensateDisputedPacks order disputeId =>
    cases applied
    rw [compensateDisputedPacks_ledger]
    exact posting rfl

/-- The law of the cache: what can be spent, and what lapsed since the last sweep. -/
def Counted (s : Swept) : Prop :=
  s.wallet.account.credits = spendable s.wallet.now s.wallet.account.creditLedger +
    lapsedTotal s.swept s.wallet.now s.wallet.account.creditLedger

theorem counted_step {turn : Turn} (law : Dated s ∧ Counted s) (permitted : s.permitted turn)
    (committed : s.step turn = .ok s') : Dated s' ∧ Counted s' := by
  obtain ⟨dated, counted⟩ := law
  obtain ⟨wallet, stepped, rfl⟩ := map_eq_ok committed
  cases turn with
  | wait elapsed =>
    cases stepped
    exact ⟨dated.wait, counted.trans (wait_conserves dated).symm⟩
  | apply event =>
    obtain ⟨after, applied, rfl⟩ := map_eq_ok stepped
    have general (condition : CacheFollows s.wallet.now s.wallet.account event) :
        Dated { s with wallet := { s.wallet with account := after } } ∧
          Counted { s with wallet := { s.wallet with account := after } } := by
      refine ⟨dated.apply applied dated.sweptBefore, ?_⟩
      have follows := (follows_iff applied).mpr condition
      have same := lapsedTotal_apply applied condition counted
      unfold Follows at follows
      unfold Counted at counted ⊢
      simp only [same]
      omega
    cases event with
    | reconcileBalances =>
      cases applied
      have reconciled : applyAccountEvent s.wallet.now s.wallet.account .reconcileBalances =
        .ok (reconcileBalances s.wallet.now s.wallet.account) := rfl
      refine ⟨dated.apply reconciled le_rfl, ?_⟩
      unfold Counted
      simp only [lapsedTotal_now, add_zero]
      rfl
    | _ => exact general permitted

/-- Over any run from an empty account whose operations the cache each follows, it counts the
spendable balance and what lapsed since the last sweep. -/
theorem counted_run (reach : Reach Swept.step Swept.permitted {} s) : Dated s ∧ Counted s :=
  reach.invariant (I := fun s => Dated s ∧ Counted s)
    ⟨⟨le_rfl, (by intro lot member; cases member), by intro lot member; cases member⟩, rfl⟩
    fun _ _ _ law permitted committed => counted_step law permitted committed

/-- The give-up of a proportional refund, as its caller runs it. -/
theorem follows_compensation {s s' : Store} {row : PackRefund} {stripeRefundId : Option RefundId}
    (compensated : Commerce.compensatePackRefund s row stripeRefundId = .ok s') :
    Follows s.now s.account s'.account ↔
      compensationWithheld s row = true ∨ CacheFollows s.now s.account (.compensatePackRefund row) := by
  rw [(compensatePackRefund_ok compensated).1]
  cases withheld : compensationWithheld s row with
  | true =>
    rw [if_pos rfl]
    exact iff_of_true rfl (.inl rfl)
  | false =>
    have iff : Follows s.now s.account (compensateAccount s.now s.account row) ↔
        CacheFollows s.now s.account (.compensatePackRefund row) := follows_compensatePackRefund row
    simpa using iff

/-- Each reversal moves the cache by what it moves the spendable balance exactly when its condition
holds: a whole reversal takes only lots that could be spent, or found just those in the cache; a
compensation puts back nothing that has lapsed. A run whose operations all meet theirs keeps the cache
at the spendable balance and what lapsed since the last sweep. -/
theorem cache_follows_reversals (now : Time) (account : Account) :
    (∀ order cause, Follows now account (revokeWholePack now account order cause) ↔
      CacheFollows now account (.revokeWholePack order cause)) ∧
    (∀ s row stripeRefundId s', Commerce.compensatePackRefund s row stripeRefundId = .ok s' →
      (Follows s.now s.account s'.account ↔
        compensationWithheld s row = true ∨ CacheFollows s.now s.account (.compensatePackRefund row))) ∧
    (∀ order disputeId,
      Follows now account (Commerce.compensateDisputedPacks now account order disputeId) ↔
        CacheFollows now account (.compensateDisputedPacks order disputeId)) ∧
    ∀ s : Swept, Reach Swept.step Swept.permitted {} s →
      s.wallet.account.credits = spendable s.wallet.now s.wallet.account.creditLedger +
        lapsedTotal s.swept s.wallet.now s.wallet.account.creditLedger :=
  ⟨fun _ _ => follows_revokeWholePack, fun _ _ _ _ compensated => follows_compensation compensated,
    fun _ _ => follows_compensateDisputedPacks, fun _ reach => (counted_run reach).2⟩

instance : Decidable (CacheFollows now account event) := by
  cases event <;> unfold CacheFollows <;> infer_instance

instance (s : Swept) (turn : Turn) : Decidable (s.permitted turn) := by
  unfold Swept.permitted
  split <;> infer_instance

/-- A ten-credit pack whose credits run out after a day. -/
def expiringPack : Order :=
  { orderId := .placed 0, orderType := .letterPack, productCode := .pack .creditPack10, credits := 10, amountCents := 1000,
    currency := [], status := .fulfilled, createdAt := 0, updatedAt := 0 }

def grantExpiring : AccountEvent :=
  .addCredits
    { credits := 10, sourceType := .purchase, sourceReferenceId := some (.order (.placed 0)),
      expirationDays := some 1 }

/-- Two of its credits spent, the pack runs out: the cache still counts the other eight. -/
theorem cache_follows_reversals_lapsed :
    ∃ s : Swept, Reach Swept.step Swept.permitted {} s ∧ s.wallet.account.credits = 8 ∧
      8 = spendable s.wallet.now s.wallet.account.creditLedger +
        lapsedTotal s.swept s.wallet.now s.wallet.account.creditLedger := by
  obtain ⟨s, reach, counted⟩ := exists_reach (checkedStep Swept.step Swept.permitted) {}
    (fun s => s.wallet.account.credits == 8)
    [.apply grantExpiring, .apply (.deductCredits 2 1), .wait (days 2)] (by decide)
  rw [beq_iff_eq] at counted
  have run := reach_of_checked reach
  exact ⟨s, run, counted, counted ▸ (cache_follows_reversals s.wallet.now s.wallet.account).2.2.2 s run⟩

/-- The pack runs out, the sweep takes it off the cache, and then its whole payment is returned: the
reversal takes it off a second time, from ten credits granted to stay. -/
theorem expired_pack_taken_twice :
    ∃ s : Swept, Reach Swept.step Swept.permitted {} s ∧
      ¬Follows s.wallet.now s.wallet.account
        (revokeWholePack s.wallet.now s.wallet.account expiringPack .paymentRefunded) := by
  obtain ⟨s, reach, parted⟩ := exists_reach (checkedStep Swept.step Swept.permitted) {}
    (fun s => s.wallet.account.credits == 10 && spendable s.wallet.now s.wallet.account.creditLedger == 10 &&
      (revokeWholePack s.wallet.now s.wallet.account expiringPack .paymentRefunded).credits == 0 &&
      spendable s.wallet.now
        (revokeWholePack s.wallet.now s.wallet.account expiringPack .paymentRefunded).creditLedger == 10)
    [.apply grantExpiring, .apply (.grantAdjustment 10), .wait (days 2), .apply .markExpiredEntries,
      .apply .reconcileBalances] (by decide)
  simp only [Bool.and_eq_true, beq_iff_eq] at parted
  refine ⟨s, reach_of_checked reach, fun follows => ?_⟩
  unfold Follows at follows
  omega

end LetterIRL.Balance
