import LetterIRL.Mail.Steps

namespace LetterIRL.Mail
open Lib Ledger Commerce

/-! Reversed money and the mail it paid for: when a pack's mail is held. -/

variable {cfg : Config} {s s' : Store} {order : Order} {reversal : Reversal}

theorem claimStripeEvent_letters {s claimed : Commerce.Store} {eventId : EventId} {kind : MoneyEvent}
    (claim : s.claimStripeEvent eventId kind = some claimed) : claimed.letters = s.letters := by
  unfold Commerce.Store.claimStripeEvent at claim
  split at claim
  · cases claim
    rfl
  · cases claim

theorem commerceUpdate_letters {s s' : Commerce.Store} {order : Order} (updated : s.updateOrder order = .ok s') :
    s'.letters = s.letters := by
  unfold Commerce.Store.updateOrder at updated
  split at updated
  · cases updated
  · split at updated
    · cases updated
    · cases updated
      rfl

/-- A refund event that reverses an order is the full-refund branch of its handler. -/
theorem refundReversals_mem {s : Commerce.Store} {event : RefundEvent} (member : reversal ∈ refundReversals s event) :
    ∃ claimed order, s.claimStripeEvent event.eventId .refund = some claimed ∧
      claimed.orderOfRefund event.metadataOrderId event.paymentIntent = some order ∧
      reversal = { order, stop := .paymentReversed,
                   hold := if event.refundStatus = .succeeded then some .fundingReversed else none } ∧
      processRefundEvent s event = applyFullRefund claimed order event := by
  unfold refundReversals at member
  split at member
  · cases member
  · rename_i claimed claim
    split at member
    · cases member
    · rename_i order found
      split at member
      · cases member
      · rename_i guard
        simp only [Bool.or_eq_true, Bool.and_eq_true, beq_iff_eq, not_or, not_and, Bool.not_eq_true',
          Bool.not_eq_false] at guard
        obtain ⟨⟨unnamed, completes⟩, unrefunded⟩ := guard
        refine ⟨claimed, order, claim, found, List.mem_singleton.mp member, ?_⟩
        unfold processRefundEvent
        rw [claim]
        dsimp only
        rw [found]
        dsimp only
        have named : (if event.isRefund then event.packRefundId else none) = none := by
          by_cases refund : event.isRefund = true
          · rw [if_pos refund]
            simpa using unnamed refund
          · rw [if_neg refund]
        rw [named]
        dsimp only
        rw [completes, if_neg (by simp), if_neg unrefunded]

theorem applyFullRefund_letters {s s' : Commerce.Store} {event : RefundEvent}
    (applied : applyFullRefund s order event = .ok s') : s'.letters = s.letters := by
  unfold applyFullRefund at applied
  split at applied
  · rw [commerceUpdate_letters applied]
    split <;> rfl
  · exact commerceUpdate_letters applied

theorem applyDisputeOutcome_letters (s : Commerce.Store) (order : Order) (event : DisputeEvent) :
    (applyDisputeOutcome s order event).letters = s.letters := by
  unfold applyDisputeOutcome
  dsimp only
  split
  · split <;> rfl
  · split
    · unfold Commerce.Store.unblockAccountSends
      split <;> split <;> rfl
    · rfl

/-- A dispute event that reverses an order is more than a record. -/
theorem disputeReversals_mem {s : Commerce.Store} {event : DisputeEvent}
    (member : reversal ∈ disputeReversals s event) :
    ∃ claimed order, s.claimStripeEvent event.eventId (.dispute event.disputeId) = some claimed ∧
      claimed.orderOfIntent event.paymentIntent = some order ∧
      recordedOnly (claimed.disputes.find event.disputeId) event = false ∧
      reversal = { order, stop := .paymentDisputed,
                   hold := if event.status.loss then some .fundingDisputed else none } := by
  unfold disputeReversals at member
  split at member
  · cases member
  · rename_i claimed claim
    split at member
    · cases member
    · rename_i order found
      split at member
      · cases member
      · rename_i fresh
        exact ⟨claimed, order, claim, found, by simpa using fresh, List.mem_singleton.mp member⟩

theorem processDisputeEvent_letters {s s' : Commerce.Store} {event : DisputeEvent}
    (processed : processDisputeEvent s event = .ok s') : s'.letters = s.letters := by
  unfold processDisputeEvent at processed
  split at processed
  · cases processed
    rfl
  · rename_i claimed claim
    have base := claimStripeEvent_letters claim
    dsimp only at processed
    split at processed
    · cases processed
      exact base
    · split at processed
      · split at processed
        · cases processed
          exact base
        · exact (commerceUpdate_letters processed).trans base
      · obtain ⟨held, updated, rest⟩ := bind_eq_ok.mp processed
        cases rest
        rw [applyDisputeOutcome_letters, commerceUpdate_letters updated]
        exact base

theorem revokeForLosses_letters (s : Commerce.Store) (order : Order) (losses : List Dispute) :
    (s.revokeForLosses order losses).letters = s.letters := by
  unfold Commerce.Store.revokeForLosses
  induction losses generalizing s with
  | nil => rfl
  | cons loss losses ih => exact ih (s.revokePackLots order (.paymentDisputed loss.disputeId))

theorem recoverUnmatchedMoney_letters {s s' : Commerce.Store} {session : CheckoutSession}
    {events : List WebhookEvent} (recovered : recoverUnmatchedMoney s order session events = .ok s') :
    s'.letters = s.letters := by
  unfold recoverUnmatchedMoney at recovered
  obtain ⟨held, updated, rest⟩ := bind_eq_ok.mp recovered
  have base := commerceUpdate_letters updated
  unfold applyRecoveredDisputes at rest
  dsimp only at rest
  split at rest
  · cases rest
    exact base
  · split at rest
    · cases rest
      exact base
    · obtain ⟨displayed, shown, last⟩ := bind_eq_ok.mp rest
      have shows : displayed.letters = s.letters := (commerceUpdate_letters shown).trans base
      have revoked : ∀ losses, (if order.status ≠ .checkoutPending ∧ order.orderType = .letterPack then
          displayed.revokeForLosses order losses else displayed).letters = s.letters := by
        intro losses
        split
        · rw [revokeForLosses_letters, shows]
        · exact shows
      cases last
      split
      · exact revoked _
      · exact revoked _

/-- A checkout event that reverses an order only recovers the money waiting for it. -/
theorem checkoutReversals_mem {s after : Commerce.Store} {event : CheckoutEvent}
    (member : reversal ∈ checkoutReversals cfg s event)
    (processed : processCheckoutSessionEvent cfg s event = .ok after) :
    after.letters = s.letters ∧
      ∀ other ∈ checkoutReversals cfg s event, other.order = reversal.order := by
  unfold checkoutReversals at member ⊢
  split at member
  · cases member
  · rename_i claimed claim
    have base := claimStripeEvent_letters claim
    split at member
    · cases member
    · rename_i order found
      unfold recoveredReversals at member ⊢
      split at member
      · cases member
      · rename_i funded
        obtain ⟨dispute, taken, rfl⟩ := List.mem_map.mp member
        refine ⟨?_, ?_⟩
        · -- some event of the order's waits, so the handler takes the recovery
          have waiting : claimed.webhookEvents.rows.filter (unmatchedMoney claimed order event.session) ≠ [] := by
            intro none
            rw [none] at taken
            simp [takenOver] at taken
          have recovers : ∀ base : Commerce.Store, base.webhookEvents = claimed.webhookEvents →
              base.disputes = claimed.disputes → ∀ result, applyCheckoutEvent cfg base order event = .ok result →
              result.letters = base.letters := by
            intro base sameEvents sameDisputes result applied
            have same : base.webhookEvents.rows.filter (unmatchedMoney base order event.session) =
                claimed.webhookEvents.rows.filter (unmatchedMoney claimed order event.session) := by
              rw [sameEvents]
              unfold unmatchedMoney
              rw [sameDisputes]
            unfold applyCheckoutEvent at applied
            rw [same] at applied
            cases events : claimed.webhookEvents.rows.filter (unmatchedMoney claimed order event.session) with
            | nil => exact absurd events waiting
            | cons first rest =>
              rw [events] at applied
              exact recoverUnmatchedMoney_letters applied
          unfold processCheckoutSessionEvent at processed
          rw [claim] at processed
          dsimp only at processed
          cases existing : claimed.findCheckoutOrder event.session.id with
          | some current =>
            rw [existing] at found processed
            have same : current = order := by simpa using found
            rw [same] at processed
            exact (recovers claimed rfl rfl _ processed).trans base
          | none =>
            rw [existing] at found processed
            have legacy : legacyPackOrder cfg claimed event.session = some order := by simpa using found
            rw [legacy] at processed
            obtain ⟨adopted, inserted, applied⟩ := bind_eq_ok.mp processed
            unfold Commerce.Store.insertOrder at inserted
            split at inserted
            · rename_i fresh
              split at inserted
              · cases inserted
              · split at inserted
                · cases inserted
                · cases inserted
                  have adopts := recovers { claimed with orders := claimed.orders.insert order fresh } rfl rfl
                  exact (adopts _ applied).trans base
            · cases inserted
        · intro other inList
          rw [if_neg funded] at inList
          obtain ⟨_, _, rfl⟩ := List.mem_map.mp inList
          rfl

/-- The transactions that reverse money queue no mail, and reverse one order. -/
theorem reversals_mem {s after : Commerce.Store} {event : Commerce.Event}
    (member : reversal ∈ reversals cfg s event) (stepped : Commerce.step cfg s event = .ok after) :
    after.letters = s.letters ∧ ∀ other ∈ reversals cfg s event, other.order = reversal.order := by
  cases event with
  | refund event =>
    obtain ⟨claimed, order, claim, found, rfl, full⟩ := refundReversals_mem member
    refine ⟨?_, fun other inList => ?_⟩
    · have applied : applyFullRefund claimed order event = .ok after := full ▸ stepped
      rw [applyFullRefund_letters applied, claimStripeEvent_letters claim]
    · obtain ⟨claimed', order', claim', found', rfl, -⟩ := refundReversals_mem inList
      rw [claim] at claim'
      cases claim'
      rw [found] at found'
      cases found'
      rfl
  | dispute event =>
    obtain ⟨claimed, order, claim, found, -, rfl⟩ := disputeReversals_mem member
    refine ⟨processDisputeEvent_letters stepped, fun other inList => ?_⟩
    obtain ⟨claimed', order', claim', found', -, rfl⟩ := disputeReversals_mem inList
    rw [claim] at claim'
    cases claim'
    rw [found] at found'
    cases found'
    rfl
  | checkoutSession event => exact checkoutReversals_mem member stepped
  | _ => cases member

theorem newLetter_none {before after : Commerce.Store} (same : after.letters = before.letters) :
    newLetter before after = none := by
  unfold newLetter
  rw [same, List.find?_eq_none]
  intro letter member
  simp [Table.find_of_mem member]

/-- Every waiting job the order's pack funds carries a funding hold. -/
def HeldForPack (s : Store) (order : Order) : Prop :=
  ∀ job ∈ s.jobs.rows, holdable s order job = true → isFundingHoldReason job.holdReason = true

theorem stopFundedMail_pack {reason : JobHoldReason} (pack : order.orderType = .letterPack) :
    stopFundedMail s order reason = s := by
  unfold stopFundedMail
  split
  · rename_i jit _
    rw [pack] at jit
    cases jit
  · rfl

/-- What decides that a job can be held is not what the hold changes. -/
theorem holdable_congr {job : LetterJob} (letters : s'.letters = s.letters)
    (funded : fundedBy s' order job.letterId = fundedBy s order job.letterId) :
    holdable s' order job = holdable s order job := by
  simp only [holdable, funded, letters]

theorem fundedBy_revoked (s : Store) (order : Order) (orderId : OrderId) (letterId : LetterId) :
    fundedBy (s.withGiftTables (Gift.revokeGiftLettersForOrder s.giftTables orderId true)) order letterId =
      fundedBy s order letterId := by
  unfold fundedBy
  congr 2
  refine Table.any_update GiftLetter.reverse_grant fun gift => ?_
  unfold GiftLetter.reverse
  split <;> rfl

theorem holdMailFundedByOrder_held {reason : JobHoldReason} (pack : order.orderType = .letterPack)
    (funding : isFundingHoldReason (some reason) = true) :
    HeldForPack (holdMailFundedByOrder s order reason) order := by
  unfold holdMailFundedByOrder
  rw [if_neg (by simp [pack])]
  intro job member selected
  rw [Table.update_rows] at member
  rcases mem_updateWhere.mp member with ⟨-, miss⟩ | ⟨old, -, -, rfl⟩
  · have same : holdable s order job = true := selected
    rw [same] at miss
    cases miss
  · exact funding

theorem applyReversal_held (valid : reversal.Valid) (pack : reversal.order.orderType = .letterPack)
    (holds : reversal.hold.isSome = true ∨ HeldForPack s reversal.order) :
    HeldForPack (applyReversal s reversal) reversal.order := by
  unfold applyReversal
  rw [stopFundedMail_pack pack]
  dsimp only
  split
  · rename_i none
    rcases holds with some | held
    · rw [none] at some
      cases some
    · exact held
  · rename_i reason hold
    have held := holdMailFundedByOrder_held (s := s) pack (valid reason hold)
    split
    · intro job member selected
      refine held job member ?_
      rwa [holdable_congr (s := holdMailFundedByOrder s reversal.order reason)] at selected
      · rfl
      · exact fundedBy_revoked _ _ _ _
    · exact held

theorem applyReversals_held {reversed : List Reversal} (valid : ∀ reversal ∈ reversed, reversal.Valid)
    (pack : order.orderType = .letterPack) (same : ∀ reversal ∈ reversed, reversal.order = order)
    (holds : (∃ reversal ∈ reversed, reversal.hold.isSome = true) ∨ HeldForPack s order) :
    HeldForPack (reversed.foldl applyReversal s) order := by
  induction reversed generalizing s with
  | nil =>
    rcases holds with ⟨_, none, _⟩ | held
    · cases none
    · exact held
  | cons reversal reversed ih =>
    refine ih (fun later member => valid later (List.mem_cons_of_mem _ member))
      (fun later member => same later (List.mem_cons_of_mem _ member)) ?_
    have here := same reversal List.mem_cons_self
    have applied : reversal.hold.isSome = true ∨ HeldForPack s order →
        HeldForPack (applyReversal s reversal) order := by
      intro either
      have held := applyReversal_held (s := s) (valid reversal List.mem_cons_self) (here ▸ pack)
        (by rwa [here])
      rwa [here] at held
    rcases holds with ⟨later, member, some⟩ | held
    · rcases List.mem_cons.mp member with rfl | inRest
      · exact .inr (applied (.inl some))
      · exact .inl ⟨later, inRest, some⟩
    · exact .inr (applied (.inr held))

/-- A full refund or a dispute loss of a pack holds the mail it paid for that is still waiting. -/
theorem commerceStep_holds {event : Commerce.Event} {mail : NewMail}
    (member : reversal ∈ reversals cfg s.commerce event) (pack : reversal.order.orderType = .letterPack)
    (holds : reversal.hold.isSome = true) (committed : commerceStep cfg s event mail = .ok s') :
    HeldForPack s' reversal.order := by
  obtain ⟨-, after, stepped, outcome⟩ := commerceStep_ok committed
  obtain ⟨letters, same⟩ := reversals_mem member stepped
  rcases outcome with ⟨-, rfl⟩ | ⟨letter, new, -⟩
  · exact applyReversals_held (fun _ => reversals_valid) pack same (.inl ⟨reversal, member, holds⟩)
  · rw [newLetter_none letters] at new
    cases new

end LetterIRL.Mail
