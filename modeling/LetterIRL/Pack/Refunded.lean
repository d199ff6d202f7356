import LetterIRL.Pack.Sound

namespace LetterIRL.Pack
open Lib Ledger Commerce Relation
variable {cfg : Config} {hands : Beneficiary → Prop} {s s' : Store} {orderId : OrderId}

/-! A pack whose money went back in full: what its lots can come to after it. -/

/-- A loose operation gives nothing back to a revoked pack. -/
theorem loose_unposted (sound : Sound s) {event : AccountEvent} (loose : event.loose = true)
    (revoked : s.packRevoked orderId) {lot : Lot} (member : lot ∈ event.posted s.now s.account)
    (named : lot.sourceReferenceId = some (.order orderId)) : lot.sourceType = .refund := by
  cases event with
  | redeemPromo campaign creditsAmount expiresAt =>
    rw [AccountEvent.posted, List.mem_singleton] at member
    subst member
    cases named
  | grantAdjustment amount =>
    rw [AccountEvent.posted, List.mem_singleton] at member
    subst member
    cases named
  | returnCredits letterId =>
    obtain ⟨consumed, inLots, rfl⟩ := List.mem_map.mp member
    obtain ⟨consumption, -, open_, -⟩ := mem_returnedLots inLots
    obtain ⟨c, inRows, -, found, -⟩ := mem_consumedLots consumption
    obtain ⟨lot, here, source⟩ := sound.ledger.consumed c inRows
    cases found.symm.trans here
    have inLedger := Table.find_mem found
    -- The lot the letter drew on was revoked, so the return skips it.
    have kind : consumed.1.sourceType = .purchase ∨ consumed.1.sourceType = .adjustment := by
      rcases sound.ledger.kind consumed.1 inLedger orderId named with kind | kind | kind
      · exact .inl kind
      · exact .inr kind
      · exact absurd kind source
    exact absurd (revoked consumed.1 inLedger kind named) open_
  | revokeWholePack order cause =>
    obtain ⟨entry, -, rfl⟩ := List.mem_map.mp member
    rfl
  | removeCredits amount => cases member
  | markExpiredEntries => cases member
  | reconcileBalances => cases member
  | blockSends reason => cases member
  | _ => cases loose

/-- The pack stays revoked under any write that hands nothing back to it. -/
theorem Sound.packRevoked_write (sound : Sound s) (write : Write cfg hands s s') (quiet : ¬hands (.order orderId))
    {order : Order} (found : s.orders.find orderId = some order)
    (funded : order.status ∈ FUNDED_OR_REVERSED_ORDER_STATUSES) (reversed : order.status ≠ .fulfilled)
    (revoked : s.packRevoked orderId) : s'.packRevoked orderId := by
  have posts : ∀ event : AccountEvent, applyAccountEvent s.now s.account event = .ok s'.account →
      (∀ lot ∈ event.posted s.now s.account, lot.sourceReferenceId = some (.order orderId) →
        lot.sourceType = .refund) → s'.packRevoked orderId := by
    intro event applied audits lot member kind named
    rcases (applyAccountEvent_ledger applied).mem member with ⟨old, inLedger, aged⟩ | ⟨posted, inPosted, stored⟩
    · rw [aged.sourceType] at kind
      rw [aged.sourceReferenceId] at named
      exact aged.forGood (revoked old inLedger kind named)
    · rw [stored] at kind named
      have audit : posted.sourceType = .refund := audits posted inPosted named
      rcases kind with kind | kind <;> exact absurd (audit.symm.trans kind) (by decide)
  cases write with
  | account event loose returned whole applied =>
    exact posts event applied fun lot member named => loose_unposted sound loose revoked member named
  | @restore order' current disputeId atOrder pack disputed handed =>
    refine posts (.compensateDisputedPacks order' disputeId) rfl fun lot member named => ?_
    simp only [AccountEvent.posted] at member
    split at member
    · cases member
    · obtain ⟨entry, -, rfl⟩ := List.mem_map.mp member
      cases named
      exact absurd handed quiet
  | @fulfilPack old new session after atOrder pack unfunded moved status attached granted checked =>
    refine posts (.addCredits (packGrant new session)) granted fun lot member named => ?_
    rw [AccountEvent.posted, List.mem_singleton] at member
    subst member
    cases named
    cases atOrder.symm.trans found
    exact absurd funded unfunded
  | @regrantPack order' session after atOrder pack status attached missing granted =>
    refine posts (.addCredits (packGrant order' session)) granted fun lot member named => ?_
    rw [AccountEvent.posted, List.mem_singleton] at member
    subst member
    cases named
    cases atOrder.symm.trans found
    exact absurd status reversed
  | @mailPrepaid draft letterId after drafted pending fresh deducted =>
    exact posts (.deductCredits draft.requiredCredits letterId) deducted
      fun _ member => absurd member List.not_mem_nil
  | @withdraw order' row after exhausted atOrder pack fulfilled named credits amount state free below fresh taken =>
    have applied : applyAccountEvent s.now s.account
        (.revokeProportionally order' row.credits row.packRefundId) = .ok after := by
      simp [applyAccountEvent, taken, Except.map]
    refine posts _ applied fun lot member _ => ?_
    obtain ⟨take, -, rfl⟩ := List.mem_map.mp member
    rfl
  | @compensate row ended order' atRow inUse owner unheld restores handed same checked =>
    refine posts (.compensatePackRefund row) rfl fun lot member named => ?_
    obtain ⟨slice, -, rfl⟩ := List.mem_map.mp member
    cases named
    exact absurd handed quiet
  | @compensateNothing row new atRow inUse owned restores handed same =>
    refine posts (.compensatePackRefund row) rfl fun lot member named => ?_
    obtain ⟨slice, -, rfl⟩ := List.mem_map.mp member
    cases named
    exact absurd handed quiet
  | _ => exact revoked

/-- A pack that a write turns refunded is one whose lots the transaction revoked
before, and the refund is dated. -/
theorem refunded_write (write : Write cfg hands s s') {old new : Order}
    (before : s.orders.find orderId = some old) (after : s'.orders.find orderId = some new)
    (pack : new.orderType = .letterPack) (open_ : old.status ≠ .refunded) (refunded : new.status = .refunded) :
    s'.packRevoked orderId ∧ new.refundedAt.isSome = true := by
  have unmoved : s'.orders = s.orders → s'.packRevoked orderId ∧ new.refundedAt.isSome = true := by
    intro same
    rw [same] at after
    cases before.symm.trans after
    exact absurd refunded open_
  -- Of the rows only the one that is written can have turned.
  have put : ∀ was row : Order, s.orders.find row.orderId = some was →
      s'.orders = s.orders.put (row.stamped s.now) →
      orderId = row.orderId ∧ was = old ∧ new = row.stamped s.now := by
    intro was row found orders
    rw [orders] at after
    by_cases mine : orderId = row.orderId
    · rw [mine] at before after
      have here := Table.find_put_self (row.stamped s.now) found
      exact ⟨mine, Option.some.inj (found.symm.trans before), Option.some.inj (after.symm.trans here)⟩
    · rw [Table.find_put_of_ne (show orderId ≠ (row.stamped s.now).orderId from mine)] at after
      cases before.symm.trans after
      exact absurd refunded open_
  have same_status : ∀ was row : Order, s.orders.find row.orderId = some was → row.status = was.status →
      s'.orders = s.orders.put (row.stamped s.now) →
      s'.packRevoked orderId ∧ new.refundedAt.isSome = true := by
    intro was row found status orders
    obtain ⟨-, rfl, rfl⟩ := put was row found orders
    exact absurd (status.symm.trans refunded) open_
  cases write with
  | @openOrder order opened checked fresh =>
    have after : (s.orders.insert order fresh).find orderId = some new := after
    rw [Table.find_insert] at after
    split at after
    · cases after
      rw [opened.status] at refunded
      cases refunded
    · cases before.symm.trans after
      exact absurd refunded open_
  | @moveOrder was row found moved checked =>
    obtain ⟨rfl, rfl, rfl⟩ := put was row found rfl
    exact (moved.emptied pack refunded).resolve_left open_
  | @refundOrder was row found moved credits status whole dated emptied checked =>
    obtain ⟨rfl, rfl, rfl⟩ := put was row found rfl
    exact ⟨emptied pack, dated⟩
  | @fulfilPack was row session account found oldPack unfunded moved status attached granted checked =>
    obtain ⟨rfl, rfl, rfl⟩ := put was row found rfl
    have final : row.status = .refunded := refunded
    rw [status] at final
    cases final
  | @mailOrder was row draft letterId product found jit unfunded moved status checked =>
    obtain ⟨rfl, rfl, rfl⟩ := put was row found rfl
    have final : row.status = .refunded := refunded
    rw [status] at final
    cases final
  | @withdraw order row account exhausted found =>
    exact same_status order { order with creditsRefunded := order.creditsRefunded + row.credits } found rfl rfl
  | @confirm row order refundId found inFlight owner checked =>
    refine same_status order (confirmedOrder order row) ?_ rfl rfl
    rw [confirmedOrder_moves.orderId, Table.find_key owner]
    exact owner
  | @compensate row ended order found inUse owner unheld restores handed same checked =>
    refine same_status order (uncreditedOrder order row (restoredCredits s.account row.packRefundId)) ?_ rfl rfl
    rw [uncreditedOrder_moves.orderId, Table.find_key owner]
    exact owner
  | _ => exact unmoved rfl

/-- The order is a pack, and if its money went back that is dated and its lots are revoked. -/
structure Settled (orderId : OrderId) (s : Store) (order : Order) : Prop where
  sound : Sound s
  found : s.orders.find orderId = some order
  pack : order.orderType = .letterPack
  revoked : order.status = .refunded → s.packRevoked orderId ∧ order.refundedAt.isSome = true

theorem Settled.write {order : Order} (settled : Settled orderId s order) (write : Write cfg hands s s')
    (quiet : ¬hands (.order orderId)) : ∃ after, Settled orderId s' after := by
  obtain ⟨after, here, moved⟩ := write.order_kept settled.found
  have pack : after.orderType = .letterPack := moved.orderType.trans settled.pack
  refine ⟨after, settled.sound.write write, here, pack, fun refunded => ?_⟩
  by_cases already : order.status = .refunded
  · obtain ⟨revoked, dated⟩ := settled.revoked already
    exact ⟨settled.sound.packRevoked_write write quiet settled.found (by rw [already]; decide)
      (by rw [already]; decide) revoked, moved.refunded dated⟩
  · exact refunded_write write settled.found here pack already refunded

/-- The pack's money went back in full, and its lots with it. -/
structure Reversed (orderId : OrderId) (s : Store) (order : Order) : Prop where
  sound : Sound s
  found : s.orders.find orderId = some order
  pack : order.orderType = .letterPack
  funded : order.status ∈ FUNDED_OR_REVERSED_ORDER_STATUSES
  reversed : order.status ≠ .fulfilled
  revoked : s.packRevoked orderId

theorem Reversed.write {order : Order} (gone : Reversed orderId s order) (write : Write cfg hands s s')
    (quiet : ¬hands (.order orderId)) : ∃ after, Reversed orderId s' after := by
  obtain ⟨after, here, moved⟩ := write.order_kept gone.found
  exact ⟨after, {
    sound := gone.sound.write write
    found := here
    pack := moved.orderType.trans gone.pack
    funded := moved.funded gone.funded
    reversed := fun final => gone.reversed (moved.fulfilled gone.pack gone.funded final)
    revoked := gone.sound.packRevoked_write write quiet gone.found gone.funded gone.reversed gone.revoked }⟩

/-- A revoked pack holds nothing. -/
theorem Reversed.empty {order : Order} (gone : Reversed orderId s order) :
    heldLots orderId s.account.creditLedger = 0 := by
  refine total_eq_zero fun lot member => ?_
  split
  · rename_i named
    have named : lot.sourceReferenceId = some (.order orderId) := by simpa [pertains] using named
    rcases gone.sound.ledger.kind lot member orderId named with kind | kind | kind
    · exact gone.sound.ledger.emptied lot member (.inl (gone.revoked lot member (.inl kind) named))
    · exact gone.sound.ledger.emptied lot member (.inl (gone.revoked lot member (.inr kind) named))
    · exact gone.sound.ledger.emptied lot member (.inr kind)
  · rfl

/-- In a run that hands nothing back to it, a reversed pack stays reversed. -/
theorem Reversed.run {allowed : Store → Event → Prop} {later : Store} {order : Order} (regular : s.Regular)
    (gone : Reversed orderId s order) (run : Reach (step cfg) allowed s later)
    (quiet : ∀ before event, allowed before event → ¬Hands cfg before event orderId) :
    ∃ after, Reversed orderId later after := by
  refine (run_invariant (I := fun t => ∃ after, Reversed orderId t after) run regular ⟨order, gone⟩ ?_).1
  rintro first event may before after ⟨row, gone⟩ write
  exact gone.write write (quiet first event may)

end LetterIRL.Pack
