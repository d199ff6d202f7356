import LetterIRL.Commerce.SendWrites

namespace LetterIRL.Commerce
open Lib Ledger Relation
variable {cfg : Config} {hands : Beneficiary → Prop} {s s' : Store} {blocked : Prop}

/-! The writes of a Checkout event. -/

/-- The session is one made for the order. -/
def Order.named (order : Order) (session : SessionId) : Prop :=
  order.stripeCheckoutSessionId = some session ∨ session.owner = order.orderId

theorem Order.ownsSession_attach {order : Order} {session : SessionId} (named : order.named session)
    (owns : order.ownsSession) {attached : SessionId}
    (here : (order.stripeCheckoutSessionId <|> some session) = some attached) :
    attached.owner = order.orderId := by
  cases current : order.stripeCheckoutSessionId with
  | some mine =>
    rw [current] at here
    cases here
    exact owns _ current
  | none =>
    rw [current] at here
    cases here
    rcases named with other | owner
    · rw [current] at other
      cases other
    · exact owner

/-- The store inside a transaction that has marked the order paid. -/
def Store.takePayment (s : Store) (order : Order) (at_ : Time) : Store :=
  { s with orders := s.orders.put (order.stamped at_) }

/-- A payment taken for an order that was not funded before. -/
structure TakesPayment (s : Store) (old order : Order) : Prop where
  found : s.orders.find order.orderId = some old
  unfunded : old.status ∉ FUNDED_OR_REVERSED_ORDER_STATUSES
  moved : old.Advances order
  checked : old.checks = true
  status : order.status = .paid

namespace TakesPayment
variable {old order new : Order} {at_ : Time}

theorem find (pay : TakesPayment s old order) :
    (s.takePayment order at_).orders.find order.orderId = some (order.stamped at_) :=
  Table.find_put_self _ pay.found

/-- A write over the paid row is a write over the row before it. -/
theorem overwrite (order new : Order) (same : new.orderId = order.orderId) (now : Time) :
    (s.takePayment order at_).orders.put (new.stamped now) = s.orders.put (new.stamped now) :=
  Table.put_put _ same.symm

/-- The paid order ends owed a refund. -/
theorem rejected (pay : TakesPayment s old order) (moved : order.Advances new)
    (status : new.status = .refundPending) :
    Commits cfg hands blocked s ((s.takePayment order at_).updateOrder new) := by
  have same := moved.orderId
  have whole := pay.moved.trans moved
  cases result : (s.takePayment order at_).updateOrder new with
  | ok after =>
    obtain ⟨fits, -, rfl⟩ := Store.updateOrder_ok result
    rw [overwrite order new same]
    have found : s.orders.find new.orderId = some old := by
      rw [same]
      exact pay.found
    exact .write (.moveOrder found
      (.of_plain whole (by rw [status]; decide)) fits)
  | error reason =>
    intro check
    rw [check, Store.updateOrder_ordersCheck, whole.checks, pay.checked] at result
    cases result

theorem queued (pay : TakesPayment s old order) (letterId : LetterId) :
    old.Advances (queuedOrder (order.stamped at_) letterId) :=
  pay.moved.trans (.of_unfunded rfl (by rw [pay.status]; decide) rfl id rfl rfl)

/-- A paid order that finds its draft consumed keeps the letter it already funds. -/
theorem resumed {draft : Draft} (pay : TakesPayment s old order)
    (sent : resumeConsumedDraft (s.takePayment order at_) draft (.jitOrder order.orderId) = .ok s') :
    ∃ letterId, Write cfg hands s s' ∧
      s' = { s with orders := s.orders.put ((queuedOrder (order.stamped at_) letterId).stamped s.now) } := by
  unfold resumeConsumedDraft at sent
  split at sent
  · cases sent
  rename_i existing consumed
  simp only at sent
  split at sent
  · cases sent
  rename_i own
  rw [pay.find] at sent
  have paid : (order.stamped at_).status = .paid := pay.status
  simp only [paid, if_true] at sent
  obtain ⟨fits, -, rfl⟩ := Store.updateOrder_ok sent
  have letter : existing ∈ s.letters.rows := by
    obtain ⟨consumedId, -, atRow⟩ := Option.bind_eq_some_iff.mp consumed
    exact Table.find_mem atRow
  have funds : existing.fundingOrderId = some order.orderId := by
    by_contra other
    exact own (.inr other)
  rw [overwrite order (queuedOrder (order.stamped at_) existing.letterId) rfl]
  have moved : OrderMove s old (queuedOrder (order.stamped at_) existing.letterId) :=
    { pay.queued existing.letterId with
      unpaid := by rintro ⟨⟩
      ungranted := fun _ final => by cases final
      mailed := fun _ _ => .inr ⟨existing, letter, funds⟩
      emptied := fun _ final => by cases final }
  exact ⟨existing.letterId, .moveOrder pay.found moved fits, rfl⟩

/-- A paid order's mail: the draft as it is now, if that is what was paid for. -/
theorem sent {draft : Draft} {letterId : LetterId} (pay : TakesPayment s old order)
    (jit : order.orderType = .jitMail) (drafted : s.drafts.find draft.draftId = some draft)
    (pending : draft.status = .pending)
    (sent : sendForOrder (s.takePayment order at_) draft order.orderId letterId = .ok s') :
    Write cfg hands s s' ∧
      s'.orders = s.orders.put ((queuedOrder (order.stamped at_) letterId).stamped s.now) := by
  unfold sendForOrder at sent
  rw [pay.find] at sent
  simp only at sent
  split at sent
  · cases sent
  rename_i ordered
  split at sent
  · cases sent
  rename_i product priced
  split at sent
  · cases sent
  rename_i paidFor
  obtain ⟨lettered, inserted, updated⟩ := bind_eq_ok.mp sent
  obtain ⟨fresh, rfl⟩ := insertLetter_ok inserted
  obtain ⟨fits, -, rfl⟩ := Store.updateOrder_ok updated
  have draftOf : order.draftId = some draft.draftId := by
    by_contra other
    exact ordered (.inr (.inl other))
  dsimp only
  rw [overwrite order (queuedOrder (order.stamped at_) letterId) rfl]
  have found : s.orders.find (queuedOrder (order.stamped at_) letterId).orderId = some old := pay.found
  have moved : old.Advances (queuedOrder (order.stamped at_) letterId) := pay.queued letterId
  have status : (queuedOrder (order.stamped at_) letterId).status = .fulfillmentPending := rfl
  exact ⟨.mailOrder found (pay.moved.orderType ▸ jit) pay.unfunded moved status fits drafted draftOf
    pending priced (not_not.mp paidFor).symm fresh, rfl⟩

/-- A paid order's mail: a letter of its own, and the order queued. -/
theorem mailed {draftId : DraftId} {mailType : MailType} {letterId : LetterId}
    (pay : TakesPayment s old order) (jit : order.orderType = .jitMail)
    (sent : createMailOrderFromDraftWithClient (s.takePayment order at_) draftId mailType
      (.jitOrder order.orderId) letterId = .ok s') :
    Write cfg hands s s' ∧ ∃ mailed : Order, s'.orders.find mailed.orderId = some mailed ∧
      mailed.orderId = order.orderId ∧ mailed.orderType = .jitMail := by
  have stored : ∀ letterId,
      (s.orders.put ((queuedOrder (order.stamped at_) letterId).stamped s.now)).find order.orderId =
        some ((queuedOrder (order.stamped at_) letterId).stamped s.now) := fun letterId =>
    Table.find_put_self _ pay.found
  unfold createMailOrderFromDraftWithClient at sent
  split at sent
  · cases sent
  rename_i draft drafted
  split at sent
  · cases sent
  split at sent
  · have kept : ∃ letterId, Write cfg hands s s' ∧ _ := pay.resumed sent
    obtain ⟨letterId, write, rfl⟩ := kept
    exact ⟨write, (queuedOrder (order.stamped at_) letterId).stamped s.now, stored letterId, rfl, jit⟩
  split at sent
  · cases sent
  rename_i open_
  have pending : draft.status = .pending := by
    by_contra other
    exact open_ (.inl other)
  obtain ⟨write, orders⟩ := pay.sent jit (Table.find_of_mem (Table.find_mem drafted)) pending sent
  exact ⟨write, (queuedOrder (order.stamped at_) letterId).stamped s.now,
    by rw [orders]; exact stored letterId, rfl, jit⟩

end TakesPayment

theorem fulfilJit_commits {old order : Order} {at_ : Time} {letterId : LetterId} {faulted : Bool}
    {code : ErrorCode} (pay : TakesPayment s old order) (jit : order.orderType = .jitMail) :
    Commits cfg hands blocked s (fulfilJit cfg (s.takePayment order at_) order letterId faulted code) := by
  have rejected : Commits cfg hands blocked s ((s.takePayment order at_).updateOrder { order with
      status := .refundPending, refundPendingAt := some s.now, lastErrorCode := some code }) :=
    pay.rejected (.to_reversed rfl (.inr (.inl rfl)) id id rfl rfl) rfl
  unfold fulfilJit
  dsimp only
  split
  · exact rejected
  split
  · exact rejected
  · rename_i sent mailed
    split
    · exact rejected
    · obtain ⟨write, row, found, same, type⟩ := pay.mailed jit mailed
      have images : Write cfg hands sent _ := .images cfg.imageEntitlementsPerJitOrder found
      rw [same, type] at images
      exact (ReflTransGen.single write).tail images

/-- The row the event leaves attached, marked paid, fulfils as a pack. -/
theorem fulfilPack_commits {old order : Order} {at_ : Time} {session : SessionId}
    (pay : TakesPayment s old order) (pack : order.orderType = .letterPack)
    (attached : order.stripeCheckoutSessionId = some session) :
    Commits cfg hands blocked s (fulfilPack cfg (s.takePayment order at_) order session) := by
  unfold fulfilPack
  refine Outcome.compute (fun reason aborted check =>
    absurd check (applyAccountEvent_abort (.addCredits _) aborted)) ?_
  intro account granted
  have whole : old.Advances { order with status := .fulfilled } :=
    pay.moved.trans (.of_unfunded rfl (by rw [pay.status]; decide) rfl id rfl rfl)
  have oldPack : old.orderType = .letterPack := pay.moved.orderType ▸ pack
  have same : old.orderId = order.orderId := pay.moved.orderId.symm
  have found : s.orders.find old.orderId = some old := by rw [same]; exact pay.found
  cases result : Store.updateOrder _ { order with status := .fulfilled } with
  | ok after =>
    obtain ⟨fits, -, rfl⟩ := Store.updateOrder_ok result
    have images : Write cfg hands s
        (s.grantPurchaseImageEntitlement cfg old.orderType old.orderId (packImageGrant cfg order.credits)) :=
      .images _ found
    have gifts : Write cfg hands
        (s.grantPurchaseImageEntitlement cfg old.orderType old.orderId (packImageGrant cfg order.credits))
        (Store.grantGiftLetters _ (packGift cfg s.now old) (giftQuantity cfg old)) := .gifts found oldPack
    rw [oldPack, same] at images gifts
    have quantity : giftQuantity cfg old = giftQuantity cfg order := by
      unfold giftQuantity
      rw [← pay.moved.productCode]
    have gift : packGift cfg s.now old = packGift cfg s.now order := by
      unfold packGift
      rw [← pay.moved.productCode, same]
    rw [quantity, gift] at gifts
    let fulfilled : Order := { order with status := .fulfilled }
    have status : fulfilled.status = .fulfilled := rfl
    let granting := (s.grantPurchaseImageEntitlement cfg .letterPack order.orderId
      (packImageGrant cfg order.credits)).grantGiftLetters (packGift cfg s.now order)
        (giftQuantity cfg order)
    have last : Write cfg hands granting { granting with
        account, orders := s.orders.put (fulfilled.stamped s.now) } :=
      .fulfilPack pay.found oldPack pay.unfunded whole status attached granted fits
    have paidOver : (s.takePayment order at_).orders.put (fulfilled.stamped s.now) =
        s.orders.put (fulfilled.stamped s.now) := TakesPayment.overwrite order fulfilled rfl s.now
    rw [← paidOver] at last
    exact ((ReflTransGen.single images).tail gifts).tail last
  | error reason =>
    intro check
    rw [check, Store.updateOrder_ordersCheck, whole.checks, pay.checked] at result
    cases result

/-- A session the order may be paid through: none is attached, or this one is. -/
def Order.open_to (order : Order) (session : SessionId) : Prop :=
  order.stripeCheckoutSessionId = none ∨ order.stripeCheckoutSessionId = some session

theorem transitionPaidCheckout_commits {order : Order} {event : CheckoutEvent}
    (found : s.orders.find order.orderId = some order) (checked : order.checks = true)
    (named : order.named event.session.id) (free : order.open_to event.session.id) :
    Commits cfg hands blocked s (transitionPaidCheckout cfg s order event) := by
  have attaches : order.Advances (attachedOrder order event.session) :=
    .of_same_status rfl rfl rfl (fun owns _ here => Order.ownsSession_attach named owns here) rfl rfl
  have attached : (attachedOrder order event.session).stripeCheckoutSessionId = some event.session.id := by
    rcases free with none | same
    · simp [attachedOrder, none]
    · simp [attachedOrder, same]
  unfold transitionPaidCheckout
  refine Outcome.bind (updateOrder_commits order _ found (.of_same_status attaches rfl) checked) ?_
  intro seen updated
  obtain ⟨fits, -, rfl⟩ := Store.updateOrder_ok updated
  have here : (s.orders.put ((attachedOrder order event.session).stamped s.now)).find order.orderId =
      some ((attachedOrder order event.session).stamped s.now) :=
    Table.find_put_self _ found
  split
  · exact .skip
  split
  · exact .skip
  rename_i unfunded
  split
  · exact updateOrder_commits ((attachedOrder order event.session).stamped s.now) _ here
      (.of_plain (.to_reversed rfl (.inr (.inl rfl)) id id rfl rfl)
        (by show OrderStatus.refundPending ∈ _; decide)) fits
  have pay : TakesPayment { s with orders := s.orders.put ((attachedOrder order event.session).stamped s.now) }
      ((attachedOrder order event.session).stamped s.now) (paidOrder (attachedOrder order event.session)) :=
    { found := here, unfunded, checked := fits, status := rfl
      moved := .of_unfunded rfl unfunded rfl id rfl rfl }
  refine Outcome.compute ?_ ?_
  · rintro reason aborted rfl
    rw [Store.updateOrder_ordersCheck] at aborted
    have same : (paidOrder (attachedOrder order event.session)).checks =
        (attachedOrder order event.session).checks := rfl
    rw [same, fits] at aborted
    cases aborted
  · intro paid updated
    obtain ⟨-, -, rfl⟩ := Store.updateOrder_ok updated
    split
    · rename_i pack
      exact fulfilPack_commits pay pack attached
    · rename_i jit
      exact fulfilJit_commits pay jit

theorem endCheckout_commits {order : Order} {status : OrderStatus}
    (found : s.orders.find order.orderId = some order) (checked : order.checks = true)
    (ended : status = .cancelled ∨ status = .paymentFailed) :
    Commits cfg hands blocked s (endCheckout s order status) := by
  unfold endCheckout
  split
  · exact .skip
  · rename_i pending
    exact updateOrder_commits order { order with status } found
      (endedOrder_move (not_not.mp pending) rfl ended rfl rfl rfl rfl) checked

/-! Money that was waiting for the order. -/

theorem revokePackLots_writes {order : Order} {cause : RevocationCause} (reversed : hands (.reversed order.orderId)) :
    Writes cfg hands s (s.revokePackLots order cause) :=
  (ReflTransGen.single (.account (.revokeWholePack order cause) rfl nofun
    (fun _ _ same => by cases same; exact reversed) rfl)).tail (.revokeGifts order.orderId)

theorem blockAccountSends_writes : Writes cfg hands s s.blockAccountSends :=
  .single (.account (.blockSends _) rfl nofun (fun _ _ same => AccountEvent.noConfusion same) rfl)

theorem revokeForLosses_writes {order : Order} (reversed : hands (.reversed order.orderId)) (losses : List Dispute) :
    Writes cfg hands s (s.revokeForLosses order losses) := by
  induction losses generalizing s with
  | nil => exact .refl
  | cons loss losses ih => exact (revokePackLots_writes reversed).trans ih

theorem applyRecoveredDisputes_commits {order : Order} {disputeIds : List DisputeId} (checks : s.Checked)
    (reversed : hands (.reversed order.orderId)) :
    Commits cfg hands blocked s (applyRecoveredDisputes s order disputeIds) := by
  unfold applyRecoveredDisputes
  dsimp only
  split
  · exact .skip
  split
  · exact .skip
  rename_i shown _ current found
  have here : s.orders.find current.orderId = some current := Table.find_of_mem (Table.find_mem found)
  refine Outcome.after (.single (.notes (s.disputes.update (fun dispute => dispute.disputeId ∈ disputeIds)
    (fun dispute => { dispute with ours := true }) fun _ => rfl) s.webhookEvents)) ?_
  refine Outcome.bind (updateOrder_commits current _ here
    (.of_same_status (.of_same_status rfl rfl rfl id rfl rfl) rfl) (checks _ (Table.find_mem found))) ?_
  intro displayed _
  generalize losses : (takenOver s disputeIds).filter standing = lost
  have revoked : Writes cfg hands displayed (if order.status ≠ .checkoutPending ∧ order.orderType = .letterPack
      then displayed.revokeForLosses order lost else displayed) := by
    split
    · exact revokeForLosses_writes reversed _
    · exact .refl
  refine Outcome.after revoked ?_
  by_cases none : lost = []
  · rw [if_pos none]
    exact .skip
  · rw [if_neg none]
    exact blockAccountSends_writes

theorem recoverUnmatchedMoney_commits {order : Order} {session : CheckoutSession}
    {events : List WebhookEvent} (checks : s.Checked) (found : s.orders.find order.orderId = some order)
    (named : order.named session.id) (reversed : hands (.reversed order.orderId)) :
    Commits cfg hands blocked s (recoverUnmatchedMoney s order session events) := by
  have moved : ∀ isDispute, order.Advances (recoveredOrder s.now order session isDispute) := by
    intro isDispute
    cases isDispute with
    | true =>
      exact .to_reversed rfl (.inr (.inr rfl)) id
        (fun owns _ here => Order.ownsSession_attach named owns here) rfl rfl
    | false =>
      exact .to_reversed rfl (.inr (.inl rfl)) id
        (fun owns _ here => Order.ownsSession_attach named owns here) rfl rfl
  have plain : ∀ isDispute, (recoveredOrder s.now order session isDispute).status ∈ PLAIN_ORDER_STATUSES := by
    intro isDispute
    cases isDispute with
    | true =>
      show OrderStatus.disputed ∈ _
      decide
    | false =>
      show OrderStatus.refundPending ∈ _
      decide
  unfold recoverUnmatchedMoney
  refine Outcome.bind (updateOrder_commits order _ (by rw [(moved _).orderId]; exact found)
    (.of_plain (moved _) (plain _)) (checks _ (Table.find_mem found))) ?_
  intro held updated
  obtain ⟨fits, -, rfl⟩ := Store.updateOrder_ok updated
  refine Outcome.after (.single (.notes s.disputes _)) (applyRecoveredDisputes_commits ?_ reversed)
  intro row member
  rcases Table.mem_put.mp member with ⟨old, -⟩ | ⟨rfl, -⟩
  · exact checks row old
  · exact fits

/-! The event. -/

theorem applyCheckoutEvent_commits {order : Order} {event : CheckoutEvent} (checks : s.Checked)
    (found : s.orders.find order.orderId = some order) (named : order.named event.session.id)
    (reversed : hands (.reversed order.orderId)) :
    Commits cfg hands blocked s (applyCheckoutEvent cfg s order event) := by
  have checked := checks _ (Table.find_mem found)
  unfold applyCheckoutEvent
  split
  · exact recoverUnmatchedMoney_commits checks found named reversed
  split
  · exact .skip
  rename_i attached
  have free : order.open_to event.session.id := by
    cases current : order.stripeCheckoutSessionId with
    | none => exact .inl current
    | some mine =>
      rw [current] at attached
      exact .inr (current.trans (by simpa using attached))
  split
  · exact endCheckout_commits found checked (.inr rfl)
  · exact endCheckout_commits found checked (.inl rfl)
  · exact transitionPaidCheckout_commits found checked named free

theorem claimStripeEvent_some {eventId : EventId} {kind : MoneyEvent} {claimed : Store}
    (claim : s.claimStripeEvent eventId kind = some claimed) :
    eventId ∉ s.webhookEvents.rows.map WebhookEvent.eventId ∧
      ∃ webhookEvents, claimed = { s with webhookEvents } := by
  unfold Store.claimStripeEvent at claim
  split at claim
  · rename_i fresh
    exact ⟨fresh, _, (Option.some.inj claim).symm⟩
  · cases claim

theorem findCheckoutOrder_some {session : SessionId} {order : Order}
    (found : s.findCheckoutOrder session = some order) :
    s.orders.find order.orderId = some order ∧ order.named session := by
  unfold Store.findCheckoutOrder at found
  cases inMetadata : session.metadataOrderId.bind s.orders.find with
  | some row =>
    rw [inMetadata] at found
    cases found
    obtain ⟨orderId, metadata, atRow⟩ := Option.bind_eq_some_iff.mp inMetadata
    refine ⟨Table.find_of_mem (Table.find_mem atRow), .inr ?_⟩
    cases session with
    | forOrder number serial =>
      cases metadata
      exact (Table.find_key atRow).symm
    | legacy serial => cases metadata
  | none =>
    rw [inMetadata] at found
    have attached := List.find?_some found
    exact ⟨Table.find_of_mem (List.mem_of_find?_eq_some found), .inl (by simpa using attached)⟩

theorem legacyPackOrder_some {session : CheckoutSession} {order : Order}
    (legacy : legacyPackOrder cfg s session = some order) :
    order.Opened ∧ order.stripeCheckoutSessionId = some session.id := by
  unfold legacyPackOrder at legacy
  split at legacy
  · rename_i serial definition at_ _
    split at legacy
    · cases legacy
    · cases legacy
      refine ⟨⟨rfl, rfl, rfl, rfl, ?_⟩, rfl⟩
      rintro attached same
      cases same
      rw [at_]
      rfl
  · cases legacy

theorem processCheckoutSessionEvent_commits {event : CheckoutEvent} (checks : s.Checked)
    (reversed : ∀ orderId, hands (.reversed orderId)) :
    Commits cfg hands blocked s (processCheckoutSessionEvent cfg s event) := by
  unfold processCheckoutSessionEvent
  split
  · exact .skip
  rename_i claimed claim
  obtain ⟨-, webhookEvents, rfl⟩ := claimStripeEvent_some claim
  refine Outcome.after (.single (.notes s.disputes webhookEvents)) ?_
  split
  · rename_i order found
    obtain ⟨here, named⟩ := findCheckoutOrder_some found
    exact applyCheckoutEvent_commits checks here named (reversed _)
  split
  · rename_i order legacy
    obtain ⟨opened, attached⟩ := legacyPackOrder_some legacy
    refine Outcome.bind (insertOrder_commits opened) ?_
    intro adopted inserted
    obtain ⟨fits, -, fresh, rfl⟩ := Store.insertOrder_ok inserted
    refine applyCheckoutEvent_commits ?_ ?_ (.inl attached) (reversed _)
    · intro row member
      rcases List.mem_append.mp member with old | new
      · exact checks row old
      · rw [List.mem_singleton.mp new]
        exact fits
    · exact (Table.find_insert fresh).trans (if_pos rfl)
  · split
    · exact .write (.notes s.disputes _)
    · exact .skip

/-- The maintenance run's retry starts from an order stored as paid. -/
theorem fulfillPaidOrder_commits {orderId : OrderId} {letterId : LetterId} {faulted : Bool}
    (checks : s.Checked) : Commits cfg hands blocked s (fulfillPaidOrder cfg s orderId letterId faulted) := by
  unfold fulfillPaidOrder
  split
  · exact .refused (by decide)
  rename_i order found
  split
  · exact .refused (by decide)
  rename_i ready
  have jit : order.orderType = .jitMail := by
    by_contra other
    exact ready (.inl other)
  have paid : order.status = .paid := by
    by_contra other
    exact ready (.inr other)
  have here : s.orders.find order.orderId = some order := Table.find_of_mem (Table.find_mem found)
  have pay : TakesPayment s order order :=
    { found := here, unfunded := by rw [paid]; decide, moved := .refl order,
      checked := checks _ (Table.find_mem found), status := paid }
  have same : s.takePayment order order.updatedAt = s := by
    unfold Store.takePayment
    have put : s.orders.put (order.stamped order.updatedAt) = s.orders := Table.put_self here
    rw [put]
  have commits : Commits cfg hands blocked s
      (fulfilJit cfg (s.takePayment order order.updatedAt) order letterId faulted .recoveryFailed) :=
    fulfilJit_commits pay jit
  rw [same] at commits
  exact commits

theorem repairFulfilledPackGrant_commits {orderId : OrderId} {session : SessionId} {expectedCredits : Nat}
    {paidAmountCents : Cents} {paidCurrency : Currency} :
    Commits cfg hands blocked s
      (repairFulfilledPackGrant cfg s orderId session expectedCredits paidAmountCents paidCurrency) := by
  unfold repairFulfilledPackGrant
  split
  · exact .refused (by decide)
  rename_i order found
  split
  · exact .refused (by decide)
  rename_i ready
  simp only [not_or, not_not] at ready
  obtain ⟨pack, fulfilled, attached, -⟩ := ready
  have same := Table.find_key found
  subst same
  have images : Write cfg hands s _ := .images (packImageGrant cfg order.credits) found
  rw [pack] at images
  dsimp only
  split
  · exact .write images
  · rename_i missing
    refine Outcome.after (.single images) (Outcome.compute (fun reason aborted check =>
      absurd check (applyAccountEvent_abort (.addCredits _) aborted)) ?_)
    intro account granted
    refine .write (.regrantPack found pack fulfilled attached ?_ granted)
    intro lot member purchase named
    exact missing (List.any_eq_true.mpr ⟨lot, member, by simp [purchase, named]⟩)

end LetterIRL.Commerce
