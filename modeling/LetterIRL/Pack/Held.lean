import LetterIRL.Commerce.AccountSteps
import LetterIRL.Commerce.OrderRows

namespace LetterIRL.Pack
open Lib Ledger Commerce

/-! The credits of a pack that are still out: in its lots, or spent on letters
that could give them back. -/

/-- The lot names the order it was bought by or posted against. -/
def pertains (orderId : OrderId) (lot : Lot) : Bool :=
  lot.sourceReferenceId == some (.order orderId)

/-- What the lots of the order still hold. -/
def heldLots (orderId : OrderId) (ledger : CreditLedger) : Nat :=
  total (fun lot => if pertains orderId lot then lot.remainingAmount else 0) ledger.rows

/-- The consumed lot is one of the order's. -/
def drawsOn (ledger : CreditLedger) (orderId : OrderId) (ledgerId : LedgerId) : Bool :=
  (ledger.find ledgerId).any (pertains orderId)

/-- A consumption of the order's credits that no failed send has returned. -/
def outstanding (account : Account) (orderId : OrderId) (c : Consumption) : Nat :=
  if !hasReturnedCreditsForLetter account c.letterId && drawsOn account.creditLedger orderId c.ledgerId then
    c.amount
  else 0

/-- Credits of the order spent on letters that have not given them back. -/
def spentCredits (orderId : OrderId) (account : Account) : Nat :=
  total (outstanding account orderId) account.creditConsumption

def held (orderId : OrderId) (account : Account) : Nat :=
  heldLots orderId account.creditLedger + spentCredits orderId account

theorem pertains_aged {orderId : OrderId} {old new : Lot} (aged : Aged old new) :
    pertains orderId new = pertains orderId old := by
  unfold pertains
  rw [aged.sourceReferenceId]

theorem heldLots_blind (orderId : OrderId) :
    idBlind fun lot => if pertains orderId lot then lot.remainingAmount else 0 := fun _ _ => rfl

theorem heldLots_step (orderId : OrderId) {posted : List Lot} {before after : CreditLedger}
    (step : LedgerStep posted before after) :
    heldLots orderId after ≤ heldLots orderId before +
      total (fun lot => if pertains orderId lot then lot.remainingAmount else 0) posted := by
  refine step.total_le (heldLots_blind orderId) fun old new aged => ?_
  rw [pertains_aged aged]
  split
  · exact aged.remaining
  · exact le_rfl

/-- What an account's rows always satisfy, whatever the orders are. -/
structure SoundLedger (account : Account) : Prop where
  emptied : ∀ lot ∈ account.creditLedger.rows, lot.status = .revoked ∨ lot.sourceType = .refund →
    lot.remainingAmount = 0
  session : ∀ lot ∈ account.creditLedger.rows, ∀ session, lot.sourceMetadata.stripeSessionId = some session →
    lot.sourceReferenceId = some (.order session.owner)
  consumed : ∀ c ∈ account.creditConsumption, ∃ lot, account.creditLedger.find c.ledgerId = some lot ∧
    lot.sourceType ≠ .refund
  /-- Only purchases, what is put back and audit rows name an order. -/
  kind : ∀ lot ∈ account.creditLedger.rows, ∀ orderId, lot.sourceReferenceId = some (.order orderId) →
    lot.sourceType = .purchase ∨ lot.sourceType = .adjustment ∨ lot.sourceType = .refund

/-- Credits are added for a purchase, under their own session's order. -/
def proper : AccountEvent → Prop
  | .addCredits params => params.sourceType = .purchase ∧
    ∀ session, params.stripeSessionId = some session →
      params.sourceReferenceId = some (.order session.owner)
  | _ => True

theorem mem_drawn {now : Time} {selected : Lot → Bool} {account : Account} {credits : Nat} {take : Lot × Nat}
    (member : take ∈ drawn now selected account credits) :
    take.1 ∈ account.creditLedger.rows ∧ selected take.1 = true ∧ live now take.1 = true :=
  mem_liveLots.mp (takeFifo_mem member)

theorem mem_consumedLots {account : Account} {letterId : LetterId} {consumed : Lot × Nat}
    (member : consumed ∈ consumedLots account letterId) :
    ∃ c ∈ account.creditConsumption, c.letterId = letterId ∧
      account.creditLedger.find c.ledgerId = some consumed.1 ∧ c.amount = consumed.2 := by
  unfold consumedLots at member
  obtain ⟨c, inFilter, joined⟩ := List.mem_filterMap.mp member
  obtain ⟨inRows, ofLetter⟩ := List.mem_filter.mp inFilter
  obtain ⟨lot, found, rfl⟩ := Option.map_eq_some_iff.mp joined
  exact ⟨c, inRows, by simpa using ofLetter, found, rfl⟩

theorem mem_returnedLots {account : Account} {letterId : LetterId} {consumed : Lot × Nat}
    (member : consumed ∈ returnedLots account letterId) :
    consumed ∈ consumedLots account letterId ∧ 0 < consumed.2 ∧ consumed.1.status ≠ .revoked ∧
      hasReturnedCreditsForLetter account letterId = false := by
  unfold returnedLots at member
  split at member
  · cases member
  · rename_i open_
    obtain ⟨inLots, kept⟩ := List.mem_filter.mp member
    simp only [Bool.and_eq_true, decide_eq_true_eq, bne_iff_ne] at kept
    exact ⟨inLots, kept.1, kept.2, by simpa using open_⟩

/-- What each posted lot is, operation by operation. -/
theorem posted_sound {now : Time} {account : Account} {event : AccountEvent} (sound : SoundLedger account)
    (fair : proper event) {lot : Lot} (member : lot ∈ event.posted now account) :
    (lot.status = .revoked ∨ lot.sourceType = .refund → lot.remainingAmount = 0) ∧
      (∀ session, lot.sourceMetadata.stripeSessionId = some session →
        lot.sourceReferenceId = some (.order session.owner)) ∧
      ∀ orderId, lot.sourceReferenceId = some (.order orderId) →
        lot.sourceType = .purchase ∨ lot.sourceType = .adjustment ∨ lot.sourceType = .refund := by
  cases event with
  | addCredits params =>
    rw [AccountEvent.posted, List.mem_singleton] at member
    subst member
    have purchase : params.sourceType = .purchase := fair.1
    refine ⟨fun reversal => reversal.elim (by rintro ⟨⟩) fun refund => ?_, fair.2, fun _ _ => .inl purchase⟩
    have same : params.sourceType = .refund := refund
    rw [purchase] at same
    cases same
  | redeemPromo campaign creditsAmount expiresAt =>
    rw [AccountEvent.posted, List.mem_singleton] at member
    subst member
    exact ⟨fun reversal => reversal.elim (by rintro ⟨⟩) (by rintro ⟨⟩), by rintro _ ⟨⟩, by rintro _ ⟨⟩⟩
  | grantAdjustment amount =>
    rw [AccountEvent.posted, List.mem_singleton] at member
    subst member
    exact ⟨fun reversal => reversal.elim (by rintro ⟨⟩) (by rintro ⟨⟩), by rintro _ ⟨⟩, by rintro _ ⟨⟩⟩
  | returnCredits letterId =>
    obtain ⟨consumed, inLots, rfl⟩ := List.mem_map.mp member
    obtain ⟨c, -, -, found, -⟩ := mem_consumedLots (mem_returnedLots inLots).1
    refine ⟨fun reversal => ?_, sound.session consumed.1 (Table.find_mem found), fun _ _ => .inr (.inl rfl)⟩
    rcases reversal with revoked | refund
    · simp only [returnedLot] at revoked
      split at revoked <;> cases revoked
    · cases refund
  | revokeWholePack order cause =>
    obtain ⟨entry, -, rfl⟩ := List.mem_map.mp member
    exact ⟨fun _ => rfl, by rintro _ ⟨⟩, fun _ _ => .inr (.inr rfl)⟩
  | revokeProportionally order credits packRefundId =>
    obtain ⟨take, -, rfl⟩ := List.mem_map.mp member
    exact ⟨fun _ => rfl, by rintro _ ⟨⟩, fun _ _ => .inr (.inr rfl)⟩
  | compensatePackRefund row =>
    obtain ⟨slice, -, rfl⟩ := List.mem_map.mp member
    exact ⟨fun reversal => reversal.elim (by rintro ⟨⟩) (by rintro ⟨⟩), by rintro _ ⟨⟩, fun _ _ => .inr (.inl rfl)⟩
  | compensateDisputedPacks order disputeId =>
    simp only [AccountEvent.posted] at member
    split at member
    · cases member
    · obtain ⟨entry, -, rfl⟩ := List.mem_map.mp member
      exact ⟨fun reversal => reversal.elim (by rintro ⟨⟩) (by rintro ⟨⟩), by rintro _ ⟨⟩, fun _ _ => .inr (.inl rfl)⟩
  | _ => cases member

theorem SoundLedger.apply {now : Time} {account after : Account} {event : AccountEvent}
    (sound : SoundLedger account) (fair : proper event)
    (applied : applyAccountEvent now account event = .ok after) : SoundLedger after where
  emptied lot member reversal := by
    rcases (applyAccountEvent_ledger applied).mem member with ⟨old, inOld, aged⟩ | ⟨posted, inPosted, stored⟩
    · rcases reversal with revoked | refund
      · rcases aged.revoked revoked with before | empty
        · have empty := sound.emptied old inOld (.inl before)
          have falls := aged.remaining
          omega
        · exact empty
      · have empty := sound.emptied old inOld (.inr (aged.sourceType ▸ refund))
        have falls := aged.remaining
        omega
    · rw [stored] at reversal ⊢
      exact (posted_sound sound fair inPosted).1 reversal
  session lot member session attached := by
    rcases (applyAccountEvent_ledger applied).mem member with ⟨old, inOld, aged⟩ | ⟨posted, inPosted, stored⟩
    · rw [aged.sourceMetadata] at attached
      rw [aged.sourceReferenceId]
      exact sound.session old inOld session attached
    · rw [stored] at attached ⊢
      exact (posted_sound sound fair inPosted).2.1 session attached
  kind lot member orderId named := by
    rcases (applyAccountEvent_ledger applied).mem member with ⟨old, inOld, aged⟩ | ⟨posted, inPosted, stored⟩
    · rw [aged.sourceReferenceId] at named
      rw [aged.sourceType]
      exact sound.kind old inOld orderId named
    · rw [stored] at named ⊢
      exact (posted_sound sound fair inPosted).2.2 orderId named
  consumed c member := by
    have step := applyAccountEvent_ledger applied
    rw [applyAccountEvent_consumption applied, List.mem_append] at member
    rcases member with old | new
    · obtain ⟨lot, found, source⟩ := sound.consumed c old
      obtain ⟨later, here, aged⟩ := step.find found
      exact ⟨later, here, by rw [aged.sourceType]; exact source⟩
    · cases event with
      | deductCredits credits letterId =>
        obtain ⟨take, inTakes, rfl⟩ := List.mem_map.mp new
        obtain ⟨inLedger, -, isLive⟩ := mem_drawn inTakes
        obtain ⟨later, here, aged⟩ := step.find (Table.find_of_mem inLedger)
        refine ⟨later, here, fun refund => ?_⟩
        have empty := sound.emptied _ inLedger (.inr (aged.sourceType ▸ refund))
        have stocked := live_remaining isLive
        omega
      | _ => cases new

theorem hasReturned_step {posted : List Lot} {account after : Account} {letterId : LetterId}
    (step : LedgerStep posted account.creditLedger after.creditLedger)
    (returned : hasReturnedCreditsForLetter account letterId = true) :
    hasReturnedCreditsForLetter after letterId = true := by
  obtain ⟨lot, member, marker⟩ := List.any_eq_true.mp returned
  obtain ⟨later, here, aged⟩ := step.kept member
  exact List.any_eq_true.mpr ⟨later, here, by rw [aged.sourceType, aged.sourceMetadata]; exact marker⟩

theorem drawsOn_step {posted : List Lot} {before after : CreditLedger} {orderId : OrderId}
    {ledgerId : LedgerId} {lot : Lot} (step : LedgerStep posted before after)
    (found : before.find ledgerId = some lot) : drawsOn after orderId ledgerId = pertains orderId lot := by
  obtain ⟨later, here, aged⟩ := step.find found
  simp [drawsOn, here, pertains_aged aged]

/-- What was outstanding of a consumption only falls. -/
theorem outstanding_step {posted : List Lot} {account after : Account} (orderId : OrderId) {c : Consumption}
    (sound : SoundLedger account) (step : LedgerStep posted account.creditLedger after.creditLedger)
    (member : c ∈ account.creditConsumption) :
    outstanding after orderId c ≤ outstanding account orderId c := by
  obtain ⟨lot, found, -⟩ := sound.consumed c member
  unfold outstanding
  rw [drawsOn_step step found]
  have before : drawsOn account.creditLedger orderId c.ledgerId = pertains orderId lot := by
    simp [drawsOn, found]
  rw [before]
  cases returned : hasReturnedCreditsForLetter account c.letterId with
  | true => simp [hasReturned_step step returned]
  | false =>
    split
    · rename_i out
      simp only [Bool.and_eq_true, Bool.not_eq_true'] at out
      simp [out.2]
    · exact Nat.zero_le _

theorem spentCredits_step {posted : List Lot} {account after : Account} (orderId : OrderId)
    {consumed : List Consumption} (sound : SoundLedger account)
    (step : LedgerStep posted account.creditLedger after.creditLedger)
    (consumption : after.creditConsumption = account.creditConsumption ++ consumed) :
    spentCredits orderId after ≤ spentCredits orderId account + total (outstanding after orderId) consumed := by
  unfold spentCredits
  rw [consumption, total_append]
  exact Nat.add_le_add_right (total_le fun c member => outstanding_step _ sound step member) _

/-- The credits an operation gives the order. -/
def gained (account : Account) (orderId : OrderId) : AccountEvent → Nat
  | .addCredits params => if params.sourceReferenceId = some (.order orderId) then params.credits else 0
  | .compensatePackRefund row =>
    if row.orderId = orderId then restoredCredits account row.packRefundId else 0
  | .compensateDisputedPacks order disputeId =>
    if order.orderId = orderId then total Prod.snd (disputeRestores account.creditLedger order disputeId) else 0
  | _ => 0

/-- A deduction moves credits from the order's lots to its outstanding consumptions. -/
theorem held_deduct {now : Time} {account after : Account} {credits : Nat} {letterId : LetterId}
    (orderId : OrderId) (sound : SoundLedger account)
    (deducted : applyAccountEvent now account (.deductCredits credits letterId) = .ok after) :
    held orderId after ≤ held orderId account := by
  have step := applyAccountEvent_ledger deducted
  have spent := spentCredits_step orderId sound step (applyAccountEvent_consumption deducted)
  obtain ⟨-, -, -, ledger⟩ := deductCreditsFromLedgerWithClient_ok deducted
  have moved := total_consumeLots (takeFifo_plan now (fun _ => true) account.creditLedger credits)
    (fun lot => if pertains orderId lot then lot.remainingAmount else 0)
  have taken : ∀ take ∈ drawn now (fun _ => true) account credits,
      (if pertains orderId take.1 then take.1.remainingAmount else 0) =
        (if pertains orderId (consumeLot take.2 take.1) then (consumeLot take.2 take.1).remainingAmount else 0) +
          (if pertains orderId take.1 then take.2 else 0) := by
    intro take member
    have within : take.2 ≤ take.1.remainingAmount := takeFifo_le member
    have named : pertains orderId (consumeLot take.2 take.1) = pertains orderId take.1 := rfl
    rw [named]
    split
    · simp only [consumeLot, setRemaining]
      omega
    · rfl
  have drawn_ := total_congr taken
  rw [total_add] at drawn_
  have recorded : total (outstanding after orderId)
        (AccountEvent.consumed now account (.deductCredits credits letterId)) ≤
      total (fun take => if pertains orderId take.1 then take.2 else 0)
        (drawn now (fun _ => true) account credits) := by
    unfold AccountEvent.consumed
    rw [total_map]
    refine total_le fun take member => ?_
    obtain ⟨inLedger, -, -⟩ := mem_drawn member
    unfold outstanding
    rw [drawsOn_step step (Table.find_of_mem inLedger)]
    split
    · rename_i out
      simp only [Bool.and_eq_true] at out
      simp [out.2]
    · exact Nat.zero_le _
  have lots : heldLots orderId after.creditLedger =
      total (fun lot => if pertains orderId lot then lot.remainingAmount else 0)
        (consumeLots (drawn now (fun _ => true) account credits) account.creditLedger).rows := by
    rw [ledger]
    rfl
  unfold held
  unfold drawn at *
  unfold heldLots at lots ⊢
  omega

/-- A returned letter moves credits from its consumptions back to the order's lots. -/
theorem held_return {now : Time} {account after : Account} {letterId : LetterId} {orderId : OrderId}
    (sound : SoundLedger account)
    (returned : applyAccountEvent now account (.returnCredits letterId) = .ok after) :
    held orderId after ≤ held orderId account := by
  have step := applyAccountEvent_ledger returned
  have lots := heldLots_step orderId step
  by_cases none : returnedLots account letterId = []
  · have spent := spentCredits_step orderId sound step (applyAccountEvent_consumption returned)
    simp only [AccountEvent.posted, none, List.map_nil, total_nil, Nat.add_zero] at lots
    simp only [AccountEvent.consumed, total_nil, Nat.add_zero] at spent
    unfold held
    omega
  · obtain ⟨first, inFirst⟩ := List.exists_mem_of_ne_nil _ none
    obtain ⟨-, -, -, fresh⟩ := mem_returnedLots inFirst
    -- The posted lots mark the letter as returned.
    have marked : hasReturnedCreditsForLetter after letterId = true := by
      obtain ⟨aged, stored, rows, -, stores⟩ := step
      have inPosted : returnedLot now letterId first ∈ AccountEvent.posted now account (.returnCredits letterId) :=
        List.mem_map_of_mem inFirst
      obtain ⟨lot, inStored, shape⟩ := forall₂_mem_left stores inPosted
      refine List.any_eq_true.mpr ⟨lot, by rw [rows]; exact List.mem_append_right _ inStored, ?_⟩
      rw [shape]
      simp [returnedLot]
    have consumption := applyAccountEvent_consumption returned
    simp only [AccountEvent.consumed, List.append_nil] at consumption
    have left : ∀ c ∈ account.creditConsumption,
        outstanding after orderId c + (if c.letterId == letterId then outstanding account orderId c else 0) ≤
          outstanding account orderId c := by
      intro c member
      have falls := outstanding_step orderId sound step member
      by_cases ofLetter : c.letterId = letterId
      · have gone : outstanding after orderId c = 0 := by simp [outstanding, ofLetter, marked]
        simp [ofLetter, gone]
      · simp only [beq_iff_eq, ofLetter, if_false]
        omega
    have spent := total_le left
    rw [total_add, ← total_filter] at spent
    have back : total (fun lot => if pertains orderId lot then lot.remainingAmount else 0)
          (AccountEvent.posted now account (.returnCredits letterId)) ≤
        total (outstanding account orderId)
          (account.creditConsumption.filter fun c => c.letterId == letterId) := by
      rw [AccountEvent.posted, total_map]
      unfold returnedLots
      rw [if_neg (by simp [fresh])]
      refine (total_filter_le _ _ _).trans (total_filterMap_le ?_)
      intro c member consumed joined
      obtain ⟨-, ofLetter⟩ := List.mem_filter.mp member
      obtain ⟨lot, found, rfl⟩ := Option.map_eq_some_iff.mp joined
      have same : c.letterId = letterId := by simpa using ofLetter
      have draws : drawsOn account.creditLedger orderId c.ledgerId = pertains orderId lot := by
        simp [drawsOn, found]
      have posted : (if pertains orderId (returnedLot now letterId (lot, c.amount)) then
          (returnedLot now letterId (lot, c.amount)).remainingAmount else 0) =
          if pertains orderId lot then c.amount else 0 := rfl
      rw [posted]
      simp [outstanding, same, fresh, draws]
    unfold held spentCredits
    rw [consumption]
    omega

/-- No operation but a grant or a compensation gives an order credits. -/
theorem held_step {now : Time} {account after : Account} {event : AccountEvent} (orderId : OrderId)
    (sound : SoundLedger account) (applied : applyAccountEvent now account event = .ok after) :
    held orderId after ≤ held orderId account + gained account orderId event := by
  have step := applyAccountEvent_ledger applied
  have lots := heldLots_step orderId step
  have spent := spentCredits_step orderId sound step (applyAccountEvent_consumption applied)
  have plain : total (fun lot => if pertains orderId lot then lot.remainingAmount else 0)
        (event.posted now account) ≤ gained account orderId event →
      event.consumed now account = [] → held orderId after ≤ held orderId account + gained account orderId event := by
    intro below none
    rw [none, total_nil] at spent
    unfold held
    omega
  cases event with
  | addCredits params =>
    refine plain ?_ rfl
    simp only [AccountEvent.posted, total_cons, total_nil, gained, pertains, grantedLot, beq_iff_eq]
    omega
  | redeemPromo campaign creditsAmount expiresAt =>
    exact plain (by simp [AccountEvent.posted, pertains, promoLot]) rfl
  | grantAdjustment amount => exact plain (by simp [AccountEvent.posted, pertains, grantedLot]) rfl
  | deductCredits credits letterId => exact held_deduct orderId sound applied
  | returnCredits letterId => exact held_return sound applied
  | revokeWholePack order cause =>
    refine plain ?_ rfl
    rw [AccountEvent.posted, total_map]
    exact (total_eq_zero fun _ _ => by split <;> rfl).le
  | revokeProportionally order credits packRefundId =>
    refine plain ?_ rfl
    rw [AccountEvent.posted, total_map]
    exact (total_eq_zero fun _ _ => by split <;> rfl).le
  | compensatePackRefund row =>
    refine plain ?_ rfl
    simp only [AccountEvent.posted, total_map, compensationLot, pertains, gained, restoredCredits,
      beq_iff_eq, Option.some.injEq, SourceReference.order.injEq]
    split
    · exact le_rfl
    · rw [total_zero]
  | compensateDisputedPacks order disputeId =>
    refine plain ?_ rfl
    simp only [AccountEvent.posted]
    split
    · exact Nat.zero_le _
    · simp only [total_map, disputeCompensation, pertains, gained, beq_iff_eq, Option.some.injEq,
        SourceReference.order.injEq]
      split
      · exact le_rfl
      · rw [total_zero]
  | removeCredits amount => exact plain (Nat.zero_le _) rfl
  | markExpiredEntries => exact plain (Nat.zero_le _) rfl
  | reconcileBalances => exact plain (Nat.zero_le _) rfl
  | blockSends reason => exact plain (Nat.zero_le _) rfl

/-- A proportional withdrawal takes its credits out of the pack it names. -/
theorem held_withdraw {now : Time} {account after : Account} {order : Order} {credits : Nat}
    {packRefundId : PackRefundId} {exhausted : Bool} (sound : SoundLedger account)
    (owned : ∀ lot ∈ account.creditLedger.rows, packLot order lot = true → pertains order.orderId lot = true)
    (revoked : revokePackCreditsProportionally now account order credits packRefundId =
      .ok (after, exhausted)) :
    held order.orderId after + credits ≤ held order.orderId account := by
  have applied : applyAccountEvent now account (.revokeProportionally order credits packRefundId) = .ok after := by
    simp [applyAccountEvent, revoked, Except.map]
  have spent := spentCredits_step order.orderId sound (applyAccountEvent_ledger applied)
    (applyAccountEvent_consumption applied)
  obtain ⟨-, enough, ledger⟩ := revokePackCreditsProportionally_ok revoked
  have plan := takeFifo_plan now (packLot order) account.creditLedger credits
  have moved := total_consumeLots_counted plan
    (fun lot => if pertains order.orderId lot then lot.remainingAmount else 0) (by
      intro take member
      have within := plan.within take member
      have mine := owned take.1 (plan.offered take member) (plan.chosen take member).1
      have named : pertains order.orderId (consumeLot take.2 take.1) = pertains order.orderId take.1 := rfl
      rw [named, mine]
      simp only [if_true, consumeLot, setRemaining]
      omega)
  rw [takeFifo_total, Nat.min_eq_left enough] at moved
  have lots : heldLots order.orderId after.creditLedger =
      total (fun lot => if pertains order.orderId lot then lot.remainingAmount else 0)
        (consumeLots (drawn now (packLot order) account credits) account.creditLedger).rows := by
    rw [ledger]
    unfold heldLots
    rw [total_postLots (heldLots_blind _), AccountEvent.posted, total_map]
    refine Nat.add_eq_left.mpr (total_eq_zero fun _ _ => ?_)
    split <;> rfl
  simp only [AccountEvent.consumed, total_nil, Nat.add_zero] at spent
  unfold held
  unfold drawn at lots
  unfold heldLots at lots ⊢
  omega

end LetterIRL.Pack
