import LetterIRL.Balance.Cached
import LetterIRL.Lib.Runs

namespace LetterIRL.Balance
open Lib Ledger Commerce

/-! Spending and returning: one account over any sequence of grants, deductions, returns,
adjustments, proportional withdrawals and expiry sweeps. -/

/-- One account at the database's clock. -/
structure Wallet where
  now : Time := 0
  account : Account := {}

inductive Turn
  | wait (elapsed : Time)
  | apply (event : AccountEvent)

def Wallet.step (w : Wallet) : Turn → Except Abort Wallet
  | .wait elapsed => .ok { w with now := w.now + elapsed }
  | .apply event => (applyAccountEvent w.now w.account event).map fun account => { w with account }

/-- The operations of spending and returning. -/
def ordinary : AccountEvent → Bool
  | .addCredits _ | .redeemPromo .. | .grantAdjustment _ | .deductCredits .. | .removeCredits _
  | .returnCredits _ | .markExpiredEntries | .revokeProportionally .. => true
  | _ => false

def Turn.ordinary : Wallet → Turn → Prop
  | _, .wait _ => True
  | _, .apply event => Balance.ordinary event = true

/-- The run posts a grant whose expiry has already passed. -/
def grantsLapsed (now : Time) : AccountEvent → Bool
  | .addCredits params => lapsed now (grantedLot now params)
  | .redeemPromo campaign creditsAmount expiresAt => lapsed now (promoLot now campaign creditsAmount expiresAt)
  | _ => false

/-- What a deduction of `credits` takes, lot by lot, and what it records. -/
structure Deduction (now : Time) (credits : Nat) (letterId : LetterId) (before after : Account)
    (takes : List (Lot × Nat)) : Prop where
  exact_ : total Prod.snd takes = credits
  /-- The lots taken from are live. -/
  live : ∀ take ∈ takes, take.1 ∈ before.creditLedger.rows ∧ Ledger.live now take.1 = true
  ordered : (takes.map Prod.fst).Pairwise fun first second => consumedBefore first second = true
  /-- They come before every other live lot. -/
  first : ∀ lot ∈ before.creditLedger.rows, Ledger.live now lot = true → lot ∉ takes.map Prod.fst →
    ∀ take ∈ takes, consumedBefore take.1 lot = true
  within : ∀ take ∈ takes, 0 < take.2 ∧ take.2 ≤ take.1.remainingAmount
  drained : ∀ take ∈ takes.dropLast, take.2 = take.1.remainingAmount
  recorded : after.creditConsumption = before.creditConsumption ++
    takes.map fun take => { letterId, ledgerId := take.1.ledgerId, amount := take.2 }
  spent : ∀ take ∈ takes, after.creditLedger.find take.1.ledgerId =
    some (setRemaining (take.1.remainingAmount - take.2) take.1)
  spared : ∀ lot ∈ before.creditLedger.rows, lot ∉ takes.map Prod.fst → lot ∈ after.creditLedger.rows

theorem consumedBefore_total (first second : Lot) :
    consumedBefore first second = true ∨ consumedBefore second first = true := by
  have dates := Nat.lt_trichotomy (first.expiresAt.getD 0) (second.expiresAt.getD 0)
  have ages := Nat.le_total first.createdAt second.createdAt
  cases at_ : first.expiresAt with
  | none =>
    cases other : second.expiresAt with
    | none => simpa [consumedBefore, at_, other] using ages
    | some b => exact .inr (by simp [consumedBefore, at_, other])
  | some a =>
    cases other : second.expiresAt with
    | none => exact .inl (by simp [consumedBefore, at_, other])
    | some b =>
      simp only [at_, other, Option.getD_some] at dates
      simp only [consumedBefore, at_, other, Bool.or_eq_true, Bool.and_eq_true, decide_eq_true_eq, beq_iff_eq]
      rcases dates with sooner | rfl | later
      · exact .inl (.inl sooner)
      · exact ages.imp (fun older => .inr ⟨rfl, older⟩) fun older => .inr ⟨rfl, older⟩
      · exact .inr (.inl later)

theorem consumedBefore_trans {first second third : Lot} (left : consumedBefore first second = true)
    (right : consumedBefore second third = true) : consumedBefore first third = true := by
  cases a : first.expiresAt with
  | none =>
    cases b : second.expiresAt with
    | none =>
      cases c : third.expiresAt with
      | none =>
        simp only [consumedBefore, a, b, c, decide_eq_true_eq] at left right ⊢
        exact left.trans right
      | some third => simp [consumedBefore, b, c] at right
    | some second => simp [consumedBefore, a, b] at left
  | some first =>
    cases c : third.expiresAt with
    | none => simp [consumedBefore, a, c]
    | some third =>
      cases b : second.expiresAt with
      | none => simp [consumedBefore, b, c] at right
      | some second =>
        simp only [consumedBefore, a, b, c, Bool.or_eq_true, Bool.and_eq_true, decide_eq_true_eq,
          beq_iff_eq] at left right ⊢
        rcases left with sooner | ⟨rfl, older⟩
        · rcases right with next | ⟨rfl, -⟩
          · exact .inl (sooner.trans next)
          · exact .inl sooner
        · rcases right with next | ⟨rfl, younger⟩
          · exact .inl next
          · exact .inr ⟨rfl, older.trans younger⟩

/-- The live lots are in consumption order. -/
theorem liveLots_ordered (now : Time) (selected : Lot → Bool) (ledger : CreditLedger) :
    (liveLots now selected ledger).Pairwise fun first second => consumedBefore first second = true := by
  have totals : Std.Total fun first second => consumedBefore first second = true := ⟨consumedBefore_total⟩
  have trans : IsTrans Lot fun first second => consumedBefore first second = true :=
    ⟨fun _ _ _ => consumedBefore_trans⟩
  exact List.pairwise_insertionSort _ _

theorem drawn_deduction {now : Time} {account : Account} {credits : Nat} {letterId : LetterId}
    {after : Account} (deducted : deductCreditsFromLedgerWithClient now account credits letterId = .ok after) :
    Deduction now credits letterId account after (drawn now (fun _ => true) account credits) := by
  obtain ⟨-, -, enough, rfl⟩ := deductCreditsFromLedgerWithClient_ok deducted
  have plan := takeFifo_plan now (fun _ => true) account.creditLedger credits
  have ordered := liveLots_ordered now (fun _ => true) account.creditLedger
  obtain ⟨rest, split⟩ := takeFifo_prefix Lot.remainingAmount credits
    (liveLots now (fun _ => true) account.creditLedger)
  rw [← split, List.pairwise_append] at ordered
  refine ⟨drawn_total enough, fun take member => ⟨plan.offered take member, (plan.chosen take member).2⟩,
    ordered.1, ?_, fun take member => ⟨plan.positive take member, plan.within take member⟩,
    fun take member => takeFifo_drained member, rfl, ?_, ?_⟩
  · intro lot member isLive spared take taken
    have offered : lot ∈ liveLots now (fun _ => true) account.creditLedger :=
      mem_liveLots.mpr ⟨member, rfl, isLive⟩
    rw [← split, List.mem_append] at offered
    have later := offered.resolve_left spared
    exact ordered.2.2 take.1 (List.mem_map_of_mem taken) lot later
  · intro take member
    exact find_consumeLots plan member
  · intro lot member spared
    refine mem_applyTakes_of_not_taken member fun take taken same => spared ?_
    have this : take.1 = lot := eq_of_key_eq account.creditLedger.unique (plan.offered take taken) member same
    exact List.mem_map.mpr ⟨take, taken, this⟩

/-- What a return posts for a letter: a lot for each lot it drew on that money was not
returned for, with that lot's expiry, spendable unless the expiry has passed. -/
structure Return (now : Time) (letterId : LetterId) (before after : Account) (lots : List (Lot × Nat)) :
    Prop where
  mirrors : lots = (consumedLots before letterId).filter fun consumed =>
    0 < consumed.2 && consumed.1.status != .revoked
  posted : after.creditLedger = postLots (lots.map (returnedLot now letterId)) before.creditLedger
  credited : after.credits = before.credits + total Prod.snd (lots.filter fun consumed => !lapsed now consumed.1)
  lapsed : ∀ consumed ∈ lots, Ledger.lapsed now consumed.1 = true →
    (returnedLot now letterId consumed).status = .expired

theorem return_spec {now : Time} {account : Account} {letterId : LetterId}
    (fresh : hasReturnedCreditsForLetter account letterId = false) :
    Return now letterId account (returnConsumedCreditsForLetter now account letterId).1
      (returnedLots account letterId) := by
  rw [returnConsumedCreditsForLetter_eq]
  refine ⟨?_, rfl, rfl, fun consumed _ stale => ?_⟩
  · simp [returnedLots, fresh]
  · simp [returnedLot, stale]

/-- A second return finds the mark of the first and changes nothing. -/
theorem return_again {now : Time} {account : Account} {letterId : LetterId}
    (returned : hasReturnedCreditsForLetter account letterId = true) :
    returnConsumedCreditsForLetter now account letterId = (account, 0) := by
  simp [returnConsumedCreditsForLetter, returned]

/-- The mark of a return is a lot, and no operation takes it off the ledger. -/
theorem hasReturned_kept {now : Time} {account after : Account} {event : AccountEvent} {letterId : LetterId}
    (applied : applyAccountEvent now account event = .ok after)
    (returned : hasReturnedCreditsForLetter account letterId = true) :
    hasReturnedCreditsForLetter after letterId = true := by
  obtain ⟨lot, member, mark⟩ := List.any_eq_true.mp returned
  obtain ⟨new, still, aged⟩ := (applyAccountEvent_ledger applied).kept member
  refine List.any_eq_true.mpr ⟨new, still, ?_⟩
  rw [aged.sourceType, aged.sourceMetadata]
  exact mark

/-- A return that posts anything leaves its mark. -/
theorem return_marks {now : Time} {account : Account} {letterId : LetterId}
    (some_ : returnedLots account letterId ≠ []) :
    hasReturnedCreditsForLetter (returnConsumedCreditsForLetter now account letterId).1 letterId = true := by
  obtain ⟨consumed, member⟩ := List.exists_mem_of_ne_nil _ some_
  rw [returnConsumedCreditsForLetter_eq]
  obtain ⟨aged, stored, rows, -, stores⟩ :=
    LedgerStep.postLots (AccountEvent.posted now account (.returnCredits letterId)) account.creditLedger
  have posted : returnedLot now letterId consumed ∈
      AccountEvent.posted now account (.returnCredits letterId) := List.mem_map_of_mem member
  obtain ⟨lot, inLedger, same⟩ := forall₂_mem_left stores posted
  refine List.any_eq_true.mpr ⟨lot, ?_, ?_⟩
  · show lot ∈ (postLots _ _).rows
    rw [rows]
    exact List.mem_append_right _ inLedger
  · rw [same]
    simp [returnedLot]

variable {start w later : Wallet}

theorem Wallet.apply_ok {event : AccountEvent} (committed : w.step (.apply event) = .ok later) :
    applyAccountEvent w.now w.account event = .ok later.account ∧ later.now = w.now := by
  obtain ⟨account, applied, rfl⟩ := map_eq_ok committed
  exact ⟨applied, rfl⟩

theorem hasReturned_run {letterId : LetterId} (reach : Reach Wallet.step anyStep w later)
    (returned : hasReturnedCreditsForLetter w.account letterId = true) :
    hasReturnedCreditsForLetter later.account letterId = true := by
  induction reach with
  | start => exact returned
  | @next before after turn _ _ committed ih =>
    cases turn with
    | wait elapsed =>
      cases committed
      exact ih
    | apply event => exact hasReturned_kept (Wallet.apply_ok committed).1 ih

/-- Time only takes from the spendable balance. -/
theorem spendable_wait (now elapsed : Time) (ledger : CreditLedger) :
    spendable (now + elapsed) ledger ≤ spendable now ledger := by
  refine total_le fun lot _ => ?_
  by_cases later : live (now + elapsed) lot = true
  · have sooner : live now lot = true := by
      simp only [live, lapsed, Bool.and_eq_true, Bool.not_eq_true'] at later ⊢
      refine ⟨later.1, ?_⟩
      cases expires : lot.expiresAt with
      | none => rfl
      | some at_ =>
        have open_ := later.2
        simp only [expires, decide_eq_false_iff_not, not_le] at open_ ⊢
        exact Nat.lt_of_le_of_lt (Nat.le_add_right _ _) open_
    simp [later, sooner]
  · simp [later]

/-- Where the cache covers the ledger, only a grant posted past its expiry parts them. -/
theorem ordinary_follows {now : Time} {account after : Account} {event : AccountEvent}
    (backed : spendable now account.creditLedger ≤ account.credits) (plain : ordinary event = true)
    (applied : applyAccountEvent now account event = .ok after) :
    Follows now account after ↔ grantsLapsed now event = false := by
  rw [follows_iff applied]
  cases event with
  | addCredits params => exact Iff.rfl
  | redeemPromo campaign creditsAmount expiresAt => exact Iff.rfl
  | revokeProportionally order credits packRefundId =>
    refine iff_of_true ?_ rfl
    simp only [applyAccountEvent] at applied
    obtain ⟨⟨revoked, exhausted⟩, result, -⟩ := map_eq_ok applied
    obtain ⟨-, enough, -⟩ := revokePackCreditsProportionally_ok result
    have part : total Lot.remainingAmount (liveLots now (packLot order) account.creditLedger) ≤
        spendable now account.creditLedger := by
      rw [total_liveLots]
      refine total_le fun lot _ => ?_
      by_cases isLive : live now lot = true
      · simp only [isLive, Bool.and_true, if_true]
        split <;> omega
      · simp [isLive]
    exact enough.trans (part.trans backed)
  | grantAdjustment amount => exact iff_of_true trivial rfl
  | deductCredits credits letterId => exact iff_of_true trivial rfl
  | removeCredits amount => exact iff_of_true trivial rfl
  | returnCredits letterId => exact iff_of_true trivial rfl
  | markExpiredEntries => exact iff_of_true trivial rfl
  | _ => cases plain

/-- A grant that follows nothing still only raises the cache. -/
theorem ordinary_backed {now : Time} {account after : Account} {event : AccountEvent}
    (backed : spendable now account.creditLedger ≤ account.credits) (plain : ordinary event = true)
    (applied : applyAccountEvent now account event = .ok after) :
    spendable now after.creditLedger ≤ after.credits := by
  by_cases follows : Follows now account after
  · unfold Follows at follows
    omega
  · have stale := (ordinary_follows backed plain applied).not.mp follows
    have posted : ∀ {lot : Lot}, lapsed now lot = true → after.creditLedger = postLot lot account.creditLedger →
        account.credits ≤ after.credits → spendable now after.creditLedger ≤ after.credits := by
      intro lot past ledger more
      have none : spendable now after.creditLedger = spendable now account.creditLedger := by
        have step := spendable_postLots now [lot] account.creditLedger
        simp only [total_cons, total_nil, live, past, Bool.not_true, Bool.and_false, Bool.false_eq_true,
          if_false, add_zero] at step
        rw [ledger]
        exact step
      omega
    cases event with
    | addCredits params =>
      obtain ⟨-, rfl⟩ := addCreditsToLedgerWithClient_ok applied
      exact posted (by simpa [grantsLapsed] using stale) rfl (Nat.le_add_right _ _)
    | redeemPromo campaign creditsAmount expiresAt =>
      obtain ⟨-, rfl⟩ := grantPromoCreditsWithClient_ok applied
      exact posted (by simpa [grantsLapsed] using stale) rfl (Nat.le_add_right _ _)
    | _ => exact absurd rfl stale

theorem backed_run (backed : spendable start.now start.account.creditLedger ≤ start.account.credits)
    (reach : Reach Wallet.step Turn.ordinary start w) :
    spendable w.now w.account.creditLedger ≤ w.account.credits := by
  induction reach with
  | start => exact backed
  | @next before after turn _ permitted committed ih =>
    cases turn with
    | wait elapsed =>
      cases committed
      exact (spendable_wait _ _ _).trans ih
    | apply event =>
      obtain ⟨applied, same⟩ := Wallet.apply_ok committed
      rw [same]
      exact ordinary_backed ih permitted applied

end LetterIRL.Balance
