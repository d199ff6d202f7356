import LetterIRL.Commerce.StepWrites

namespace LetterIRL.Commerce
open Lib Ledger
variable {cfg : Config} {s s' : Store}

/-! What the phases of a pack-refund command come to. -/

/-- A settlement is what the event comes to, once its event id is claimed. -/
theorem step_settlement (cfg : Config) {event : Event} {row : PackRefund} {outcome : StripeRefundOutcome}
    (settles : settlement s event = some (row, outcome)) :
    ∃ webhookEvents, step cfg s event = settlePackRefund { s with webhookEvents } row outcome := by
  cases event with
  | stripeResponse packRefundId given =>
    simp only [settlement, Option.map_eq_some_iff] at settles
    obtain ⟨row', found, same⟩ := settles
    cases same
    exact ⟨s.webhookEvents, by simp [step, finalizeWithStripe, found]⟩
  | reconcilePackRefund packRefundId seenAttempts refunds =>
    simp only [settlement, Option.bind_eq_some_iff, Option.map_eq_some_iff] at settles
    obtain ⟨row', found, listed, adopted, same⟩ := settles
    cases same
    exact ⟨s.webhookEvents, by simp [step, reconcilePackRefund, finalizeWithStripe, found, adopted]⟩
  | refund event =>
    simp only [settlement] at settles
    split at settles
    · cases settles
    rename_i fresh
    simp only [Option.bind_eq_some_iff] at settles
    obtain ⟨order, named, command, ⟨packRefundId, ofCommand, atRow⟩, matches_⟩ := settles
    split at matches_
    · rename_i matched
      cases matches_
      refine ⟨s.webhookEvents.insert { eventId := event.eventId, kind := .refund } fresh, ?_⟩
      have claim : s.claimStripeEvent event.eventId .refund = some { s with
          webhookEvents := s.webhookEvents.insert { eventId := event.eventId, kind := .refund } fresh } := by
        simp [Store.claimStripeEvent, fresh]
      have order_ : Store.orderOfRefund { s with
          webhookEvents := s.webhookEvents.insert { eventId := event.eventId, kind := .refund } fresh }
          event.metadataOrderId event.paymentIntent = some order := named
      have command_ : Store.packRefund { s with
          webhookEvents := s.webhookEvents.insert { eventId := event.eventId, kind := .refund } fresh }
          packRefundId = some row := atRow
      simp only [step, processRefundEvent, claim, order_, ofCommand, command_, matched, if_true]
    · cases matches_
  | _ => cases settles

theorem settlement_member {event : Event} {row : PackRefund} {outcome : StripeRefundOutcome}
    (settles : settlement s event = some (row, outcome)) : row ∈ s.packRefunds.rows := by
  cases event with
  | stripeResponse packRefundId given =>
    simp only [settlement, Option.map_eq_some_iff] at settles
    obtain ⟨row', found, same⟩ := settles
    cases same
    exact Table.find_mem found
  | reconcilePackRefund packRefundId seenAttempts refunds =>
    simp only [settlement, Option.bind_eq_some_iff, Option.map_eq_some_iff] at settles
    obtain ⟨row', found, listed, -, same⟩ := settles
    cases same
    exact Table.find_mem found
  | refund event =>
    simp only [settlement] at settles
    split at settles
    · cases settles
    simp only [Option.bind_eq_some_iff] at settles
    obtain ⟨order, -, command, ⟨packRefundId, -, atRow⟩, matches_⟩ := settles
    split at matches_
    · cases matches_
      exact Table.find_mem atRow
    · cases matches_
  | _ => cases settles

/-- Failed or canceled at Stripe, a command that still held its letters is compensated. -/
theorem settlePackRefund_ends {row : PackRefund} {outcome : StripeRefundOutcome}
    (ends : endsCommand row outcome = true) :
    settlePackRefund s row outcome = compensatePackRefund s row (some outcome.id) := by
  simp only [endsCommand, Bool.and_eq_true, Bool.not_eq_true'] at ends
  obtain ⟨⟨answered, ended⟩, inUse⟩ := ends
  have open_ : ¬(row.status = .failed ∨ row.status = .compensated) := by
    rintro (status | status) <;> simp [PackRefund.inUse, status] at inUse
  unfold settlePackRefund
  rw [if_neg (by rw [answered]; decide)]
  cases status : outcome.status with
  | failed => simp only [if_neg open_]
  | canceled => simp only [if_neg open_]
  | _ => simp [RefundStatus.ended, status] at ended

/-- Any other settlement leaves the account alone. -/
theorem settlePackRefund_account {row : PackRefund} {outcome : StripeRefundOutcome}
    (open_ : endsCommand row outcome = false) (settled : settlePackRefund s row outcome = .ok s') :
    s'.account = s.account := by
  unfold settlePackRefund at settled
  split at settled
  · cases settled
    rfl
  rename_i answered
  have inUse : outcome.status.ended = true → row.inUse = false := by
    intro ended
    simpa [endsCommand, Bool.eq_false_of_not_eq_true answered, ended] using open_
  have closed : outcome.status.ended = true → row.status = .failed ∨ row.status = .compensated := by
    intro ended
    have idle := inUse ended
    cases status : row.status <;> simp_all [PackRefund.inUse]
  cases status : outcome.status with
  | failed =>
    rw [status] at settled
    simp only [if_pos (closed (by rw [status]; rfl))] at settled
    cases settled
    rfl
  | canceled =>
    rw [status] at settled
    simp only [if_pos (closed (by rw [status]; rfl))] at settled
    cases settled
    rfl
  | succeeded =>
    rw [status] at settled
    dsimp only at settled
    split at settled
    · cases settled
      rfl
    obtain ⟨marked, updated, rest⟩ := bind_eq_ok.mp settled
    rw [updatePackRefund_ok updated] at rest
    split at rest
    · cases rest
      rfl
    · obtain ⟨-, -, rfl⟩ := Store.updateOrder_ok rest
      rfl
  | pending =>
    rw [status] at settled
    dsimp only at settled
    split at settled
    · cases settled
      rfl
    · rw [updatePackRefund_ok settled]
  | requiresAction =>
    rw [status] at settled
    dsimp only at settled
    split at settled
    · cases settled
      rfl
    · rw [updatePackRefund_ok settled]

/-- A compensation that is withheld changes no balance; one that is not posts its
lots and raises both counters. -/
theorem compensatePackRefund_ok {row : PackRefund} {refundId : Option RefundId}
    (done : compensatePackRefund s row refundId = .ok s') :
    s'.account = (if compensationWithheld s row then s.account else compensateAccount s.now s.account row) ∧
      (s'.orders = s.orders ∨ ∃ order, s.orders.find row.orderId = some order ∧
        s'.orders = s.orders.put
          ((uncreditedOrder order row (restoredCredits s.account row.packRefundId)).stamped s.now)) := by
  unfold compensatePackRefund at done
  dsimp only at done
  split at done
  · rename_i held
    rw [updatePackRefund_ok done, if_pos held]
    exact ⟨rfl, .inl rfl⟩
  rename_i held
  rw [if_neg held]
  split at done
  · rename_i missing
    simp [compensationWithheld, missing] at held
  rename_i order owner
  split at done
  · rw [updatePackRefund_ok done]
    exact ⟨rfl, .inl rfl⟩
  · obtain ⟨uncredited, updated, rest⟩ := bind_eq_ok.mp done
    obtain ⟨-, -, rfl⟩ := Store.updateOrder_ok updated
    rw [updatePackRefund_ok rest]
    exact ⟨rfl, .inr ⟨order, owner, rfl⟩⟩

/-- An update of one order leaves every other status as it was. -/
theorem put_status {orders : Orders} {old row new : Order} {orderId : OrderId}
    (found : orders.find row.orderId = some old) (after : (orders.put row).find orderId = some new) :
    ∃ before, orders.find orderId = some before ∧ (new.status = before.status ∨ new = row ∧ before = old) := by
  rw [Table.find_put found] at after
  split at after
  · rename_i mine
    cases after
    exact ⟨old, mine ▸ found, .inr ⟨rfl, rfl⟩⟩
  · exact ⟨new, after, .inl rfl⟩

/-- A compensation changes no order's status. -/
theorem compensatePackRefund_status {row : PackRefund} {refundId : Option RefundId}
    (done : compensatePackRefund s row refundId = .ok s') {orderId : OrderId} {new : Order}
    (after : s'.orders.find orderId = some new) :
    ∃ before, s.orders.find orderId = some before ∧ new.status = before.status := by
  rcases (compensatePackRefund_ok done).2 with orders | ⟨order, owner, orders⟩
  · rw [orders] at after
    exact ⟨new, after, rfl⟩
  · rw [orders] at after
    have key : order.orderId = row.orderId := Table.find_key owner
    rw [← key] at owner
    have here : s.orders.find ((uncreditedOrder order row
        (restoredCredits s.account row.packRefundId)).stamped s.now).orderId = some order := owner
    obtain ⟨before, found, same | ⟨rfl, rfl⟩⟩ := put_status here after
    · exact ⟨before, found, same⟩
    · exact ⟨before, found, rfl⟩

theorem applyDisputeOutcome_orders {order : Order} {event : DisputeEvent} :
    (applyDisputeOutcome s order event).orders = s.orders := by
  unfold applyDisputeOutcome Store.unblockAccountSends
  dsimp only
  repeat' split
  all_goals rfl

/-- A dispute event leaves an order's status, or makes it `disputed`. -/
theorem processDisputeEvent_status {event : DisputeEvent} (done : processDisputeEvent s event = .ok s')
    {orderId : OrderId} {new : Order} (after : s'.orders.find orderId = some new) :
    ∃ before, s.orders.find orderId = some before ∧ (new.status = before.status ∨ new.status = .disputed) := by
  have kept : s'.orders = s.orders →
      ∃ before, s.orders.find orderId = some before ∧ (new.status = before.status ∨ new.status = .disputed) := by
    intro same
    rw [same] at after
    exact ⟨new, after, .inl rfl⟩
  unfold processDisputeEvent at done
  split at done
  · cases done
    exact kept rfl
  rename_i claimed claim
  obtain ⟨-, webhookEvents, rfl⟩ := claimStripeEvent_some claim
  dsimp only at done
  split at done
  · cases done
    exact kept rfl
  rename_i order named
  have found := orderOfIntent_find named
  split at done
  · split at done
    · cases done
      exact kept rfl
    · obtain ⟨-, -, rfl⟩ := Store.updateOrder_ok done
      have here : s.orders.find (Order.stamped { order with stripeDisputeStatus := some event.status }
          s.now).orderId = some order := found
      obtain ⟨before, there, same | ⟨rfl, rfl⟩⟩ := put_status here after
      · exact ⟨before, there, .inl same⟩
      · exact ⟨before, there, .inl rfl⟩
  · obtain ⟨held, updated, rest⟩ := bind_eq_ok.mp done
    obtain ⟨-, -, rfl⟩ := Store.updateOrder_ok updated
    cases rest
    rw [applyDisputeOutcome_orders] at after
    have here : s.orders.find ((disputedOrder s.now order event.status).stamped s.now).orderId = some order :=
      found
    obtain ⟨before, there, same | ⟨rfl, -⟩⟩ := put_status here after
    · exact ⟨before, there, .inl same⟩
    · exact ⟨before, there, .inr rfl⟩

theorem endsCommand_member {event : Event} {row : PackRefund} (ends : EndsCommand cfg s event row) :
    row ∈ s.packRefunds.rows := by
  cases event with
  | stripeFailure packRefundId terminal => exact Table.find_mem ends.1
  | reconcilePackRefund packRefundId seenAttempts refunds => exact Table.find_mem ends.1
  | _ =>
    obtain ⟨outcome, settles, -⟩ := ends
    exact settlement_member settles

/-- An event that gives a command up compensates it. -/
theorem endsCommand_step {event : Event} {row : PackRefund} (ends : EndsCommand cfg s event row) :
    ∃ webhookEvents refundId,
      step cfg s event = compensatePackRefund { s with webhookEvents } row refundId := by
  have settles : ∀ outcome, settlement s event = some (row, outcome) → endsCommand row outcome = true →
      ∃ webhookEvents refundId,
        step cfg s event = compensatePackRefund { s with webhookEvents } row refundId := by
    intro outcome settles ends
    obtain ⟨webhookEvents, same⟩ := step_settlement cfg settles
    exact ⟨webhookEvents, some outcome.id, same.trans (settlePackRefund_ends ends)⟩
  cases event with
  | stripeFailure packRefundId terminal =>
    obtain ⟨found, terminal, fresh⟩ := ends
    exact ⟨s.webhookEvents, none, by simp [step, handleStripeFailure, found, terminal, fresh]⟩
  | reconcilePackRefund packRefundId seenAttempts refunds =>
    obtain ⟨found, given⟩ := ends
    cases adopted : adoptedRefund row refunds with
    | some listed =>
      rw [adopted] at given
      exact settles _ (by simp [settlement, found, adopted]) given
    | none =>
      rw [adopted] at given
      obtain ⟨exhausted, fresh, seen⟩ := given
      exact ⟨s.webhookEvents, none, by
        simp [step, reconcilePackRefund, found, adopted, exhausted, fresh, not_lt.mpr seen]⟩
  | _ =>
    obtain ⟨outcome, given, ends⟩ := ends
    exact settles outcome given ends

/-! What a phase does to the account when it gives no command up. -/

theorem refundPackLetters_account {orderId : OrderId} {letters : Nat} {packRefundId : PackRefundId}
    (done : refundPackLetters s orderId letters packRefundId = .ok s') :
    ∃ order credits exhausted,
      revokePackCreditsProportionally s.now s.account order credits packRefundId = .ok (s'.account, exhausted) := by
  unfold refundPackLetters at done
  split at done
  · cases done
  split at done
  · cases done
  dsimp only at done
  iterate 6
    split at done
    · cases done
  split at done
  · obtain ⟨⟨account, exhausted⟩, revoked, rest⟩ := bind_eq_ok.mp done
    obtain ⟨-, -, rfl⟩ := Store.updateOrder_ok rest
    cases exhausted with
    | true => exact ⟨_, _, true, revoked⟩
    | false => exact ⟨_, _, false, revoked⟩
  · cases done

theorem finalizeWithStripe_account {packRefundId : PackRefundId} {outcome : StripeRefundOutcome}
    (open_ : ∀ row, s.packRefund packRefundId = some row → endsCommand row outcome = false)
    (done : finalizeWithStripe s packRefundId outcome = .ok s') : s'.account = s.account := by
  unfold finalizeWithStripe at done
  split at done
  · cases done
    rfl
  · rename_i row found
    exact settlePackRefund_account (open_ row found) done

theorem handleStripeFailure_account {packRefundId : PackRefundId} {terminal : Bool}
    (open_ : ∀ row, ¬EndsCommand cfg s (.stripeFailure packRefundId terminal) row)
    (done : handleStripeFailure s packRefundId terminal = .ok s') : s'.account = s.account := by
  unfold handleStripeFailure at done
  split at done
  · cases done
    rfl
  rename_i row found
  split at done
  · cases done
    rfl
  rename_i fresh
  split at done
  · rename_i final
    exact absurd ⟨found, final, not_not.mp fresh⟩ (open_ row)
  · rw [updatePackRefund_ok done]

theorem reconcilePackRefund_account {packRefundId : PackRefundId} {seenAttempts : Nat}
    {refunds : List ListedRefund}
    (open_ : ∀ row, ¬EndsCommand cfg s (.reconcilePackRefund packRefundId seenAttempts refunds) row)
    (done : reconcilePackRefund cfg s packRefundId seenAttempts refunds = .ok s') :
    s'.account = s.account := by
  unfold reconcilePackRefund at done
  split at done
  · cases done
    rfl
  rename_i row found
  split at done
  · rename_i listed adopted
    refine finalizeWithStripe_account (fun same again => ?_) done
    cases found.symm.trans again
    rw [← Bool.not_eq_true]
    intro ends
    refine open_ row ⟨found, ?_⟩
    rw [adopted]
    exact ends
  · rename_i adopted
    split at done
    · rename_i exhausted
      split at done
      · cases done
        rfl
      · rename_i stuck
        obtain ⟨fresh, seen⟩ := not_or.mp stuck
        refine absurd ⟨found, ?_⟩ (open_ row)
        rw [adopted]
        exact ⟨exhausted, not_not.mp fresh, not_lt.mp seen⟩
    · cases done
      rfl

theorem applyFullRefund_account {order : Order} {event : RefundEvent}
    (done : applyFullRefund s order event = .ok s') :
    s'.account = s.account ∨ s'.account = revokeWholePack s.now s.account order .paymentRefunded := by
  unfold applyFullRefund at done
  split at done
  · dsimp only at done
    obtain ⟨-, -, rfl⟩ := Store.updateOrder_ok done
    dsimp only [Store.revokeImageEntitlements]
    split
    · exact .inr rfl
    · exact .inl rfl
  · obtain ⟨-, -, rfl⟩ := Store.updateOrder_ok done
    exact .inl rfl

theorem processRefundEvent_account {event : RefundEvent}
    (open_ : ∀ row, ¬EndsCommand cfg s (.refund event) row)
    (done : processRefundEvent s event = .ok s') :
    s'.account = s.account ∨ ∃ order, s'.account = revokeWholePack s.now s.account order .paymentRefunded := by
  unfold processRefundEvent at done
  split at done
  · cases done
    exact .inl rfl
  rename_i claimed claim
  obtain ⟨fresh, webhookEvents, rfl⟩ := claimStripeEvent_some claim
  split at done
  · cases done
    exact .inl rfl
  rename_i order found
  split at done
  · rename_i packRefundId named
    split at done
    · cases done
      exact .inl rfl
    rename_i command commanded
    split at done
    · rename_i matched
      have order_ : s.orderOfRefund event.metadataOrderId event.paymentIntent = some order := found
      have command_ : s.packRefund packRefundId = some command := commanded
      have settles : settlement s (.refund event) =
          some (command, { id := event.refundId, status := event.status }) := by
        simp [settlement, fresh, order_, named, command_, matched]
      refine .inl (settlePackRefund_account (s := { s with webhookEvents }) ?_ done)
      rw [← Bool.not_eq_true]
      exact fun ends => open_ command ⟨_, settles, ends⟩
    · cases done
      exact .inl rfl
  · split at done
    · cases done
      exact .inl rfl
    split at done
    · cases done
      exact .inl rfl
    · rcases applyFullRefund_account done with same | revoked
      · exact .inl same
      · exact .inr ⟨order, revoked⟩

/-! What a dispute event does to the account. -/

/-- The account once a dispute's outcome was applied, but for the block on its sends. -/
def disputedAccount (now : Time) (account : Account) (order : Order) (event : DisputeEvent) : Account :=
  if order.orderType ≠ .letterPack then account
  else if event.status.loss then revokeWholePack now account order (.paymentDisputed event.disputeId)
  else if event.closes && event.status ∈ FAVOURABLE_DISPUTE_STATUSES then
    compensateDisputedPacks now account order event.disputeId
  else account

/-- Two accounts that differ in the block on their sends at most. -/
def sameBalances (account other : Account) : Prop :=
  account = { other with sendsBlockedReason := account.sendsBlockedReason }

theorem unblockAccountSends_account {disputeId : DisputeId} :
    sameBalances (s.unblockAccountSends disputeId).account s.account := by
  unfold Store.unblockAccountSends
  split <;> rfl

theorem applyDisputeOutcome_account {order : Order} {event : DisputeEvent} :
    sameBalances (applyDisputeOutcome s order event).account
      (disputedAccount s.now s.account order event) := by
  unfold applyDisputeOutcome disputedAccount
  by_cases pack : order.orderType = .letterPack
  · simp only [pack, if_true, not_true_eq_false, ne_eq, if_false]
    split
    · rfl
    split
    · exact unblockAccountSends_account
    · rfl
  · simp only [pack, if_false, not_false_eq_true, ne_eq, if_true]
    split
    · rfl
    split
    · exact unblockAccountSends_account
    · rfl

/-- A dispute event changes no balance, or does what the outcome of its order's
dispute is. A close always does. -/
theorem processDisputeEvent_account {event : DisputeEvent} (done : processDisputeEvent s event = .ok s') :
    (s'.account = s.account ∧ ¬∃ order, ClosesFavourably s (.dispute event) order) ∨
      ∃ order, event.eventId ∉ s.webhookEvents.rows.map WebhookEvent.eventId ∧
        s.orderOfIntent event.paymentIntent = some order ∧
        sameBalances s'.account (disputedAccount s.now s.account order event) := by
  unfold processDisputeEvent at done
  split at done
  · rename_i claim
    cases done
    refine .inl ⟨rfl, ?_⟩
    rintro ⟨order, fresh, -⟩
    simp [Store.claimStripeEvent, fresh] at claim
  rename_i claimed claim
  obtain ⟨fresh, webhookEvents, rfl⟩ := claimStripeEvent_some claim
  dsimp only at done
  split at done
  · rename_i unmatched
    cases done
    refine .inl ⟨rfl, ?_⟩
    rintro ⟨order, -, matched, -⟩
    have none : s.orderOfIntent event.paymentIntent = none := unmatched
    cases matched.symm.trans none
  rename_i order named
  split at done
  · rename_i only
    have open_ : event.closes = false := by
      simp only [recordedOnly, Bool.and_eq_true, Bool.not_eq_true'] at only
      exact only.1
    have never : ¬∃ order, ClosesFavourably s (.dispute event) order := by
      rintro ⟨order, -, -, -, closes, -⟩
      rw [open_] at closes
      cases closes
    split at done
    · cases done
      exact .inl ⟨rfl, never⟩
    · obtain ⟨-, -, rfl⟩ := Store.updateOrder_ok done
      exact .inl ⟨rfl, never⟩
  · obtain ⟨held, updated, rest⟩ := bind_eq_ok.mp done
    obtain ⟨-, -, rfl⟩ := Store.updateOrder_ok updated
    cases rest
    exact .inr ⟨order, fresh, named, applyDisputeOutcome_account⟩

/-! A pack in the course of a refund: where the theorems about packs are tried. -/

/-- A ten-credit pack at ten dollars. -/
def tenCredits : PackProduct :=
  { productCode := .creditPack10, credits := 10, expectedAmountCents := 1000, giftLetters := 1 }

/-- The Checkout Session of order 0, paid in full under payment 7. -/
def paidSession : CheckoutSession :=
  { id := .forOrder 0 0, paid := true, amountTotal := some 1000, currency := some ['u', 's', 'd'],
    paymentIntent := some 7 }

/-- The pack is bought. -/
def boughtPack : List Event :=
  [.createPackCheckout 0 tenCredits 1000, .attachCheckout 0 0 true none,
   .checkoutSession { eventId := 1, eventType := .completed, session := paidSession, letterId := 0 }]

/-- One of its five letters is withdrawn for a refund of 200 cents. -/
def withdrawnPack : List Event := boughtPack ++ [.refundPackLetters (.placed 0) 1 0]

/-- A refund of the payment reported as succeeded. -/
def refundSucceeded (eventId refundId amount : Nat) (packRefundId : Option PackRefundId) : RefundEvent :=
  { eventId, isRefund := true, refundId, paymentIntent := some 7, packRefundId, status := .succeeded, amount }

/-- A dispute of the payment. -/
def disputeOpened (eventId disputeId : Nat) : DisputeEvent :=
  { eventId, eventType := .created, disputeId, status := .needsResponse, paymentIntent := some 7 }

/-- And its close in our favour. -/
def disputeWon (eventId disputeId : Nat) : DisputeEvent :=
  { eventId, eventType := .closed, disputeId, status := .won, paymentIntent := some 7 }

end LetterIRL.Commerce
