import LetterIRL.Commerce.MoneyWrites
import LetterIRL.Commerce.OrderHistory

namespace LetterIRL.Commerce
open Lib Ledger Relation
variable {cfg : Config} {hands : Beneficiary → Prop} {s s' : Store} {blocked : Prop}

/-! One transaction, and a run of them, as writes. -/

theorem applyLetterJob_commits {letterId : LetterId} {status : OrderStatus} (checks : s.Checked) :
    Commits cfg hands blocked s (applyLetterJob s letterId status) := by
  unfold applyLetterJob
  split
  · exact .refused (by decide)
  rename_i order funded
  obtain ⟨orderId, ofLetter, found⟩ := Option.bind_eq_some_iff.mp funded
  obtain ⟨letter, atLetter, named⟩ := Option.bind_eq_some_iff.mp ofLetter
  split
  · exact .refused (by decide)
  rename_i open_
  have jit : order.orderType = .jitMail := by
    by_contra other
    exact open_ (.inl other)
  have listed : (order.status, status) ∈ letterJobTransitions := by
    by_contra other
    exact open_ (.inr other)
  have ends : status ∈ FUNDED_OR_REVERSED_ORDER_STATUSES ∧ status ≠ .paid := by
    simp only [letterJobTransitions, List.mem_cons, Prod.mk.injEq, List.not_mem_nil, or_false] at listed
    rcases listed with ⟨-, new⟩ | ⟨-, new⟩ | ⟨-, new⟩ | ⟨-, new⟩ | ⟨-, new⟩ | ⟨-, new⟩ | ⟨-, new⟩ <;>
      rw [new] <;> decide
  refine updateOrder_commits order _ (Table.find_of_mem (Table.find_mem found)) ?_
    (checks _ (Table.find_mem found))
  exact {
    (.of_jit rfl jit ends.1 rfl id : order.Moves { order with status }) with
    creditsRefunded := rfl
    amountRefundedCents := rfl
    unpaid := fun paid => absurd paid ends.2
    ungranted := fun pack => by
      have same : order.orderType = .letterPack := pack
      rw [jit] at same
      cases same
    mailed := fun _ _ => .inr ⟨letter, Table.find_mem atLetter, by rw [named, ← Table.find_key found]⟩
    emptied := fun pack => by
      have same : order.orderType = .letterPack := pack
      rw [jit] at same
      cases same }

theorem onAccount_commits (event : AccountEvent) (loose : event.loose = true)
    (returned : ∀ letterId, event ≠ .returnCredits letterId)
    (whole : ∀ order cause, event ≠ .revokeWholePack order cause) :
    Commits cfg hands blocked s (s.onAccount (applyAccountEvent s.now s.account event)) := by
  unfold Store.onAccount
  cases applied : applyAccountEvent s.now s.account event with
  | error reason => exact .refused (applyAccountEvent_abort event applied)
  | ok account => exact .write (.account event loose (fun letterId same => absurd same (returned letterId))
      (fun order cause same => absurd same (whole order cause)) applied)

/-- An event that may take a pack back, or make good what was taken. -/
def Event.reverses : Event → Bool
  | .checkoutSession _ | .refundPackLetters .. | .refund _ | .dispute _ | .finalizeRefund .. => true
  | _ => false

/-- What every transaction keeps, and reads. -/
structure Store.Regular (s : Store) : Prop where
  checked : s.Checked
  claimed : s.Claimed

/-- Every transaction commits by writes, or aborts for another reason than a CHECK
of `orders`, but for a settlement or a withdrawal that does not fit. -/
theorem step_commits {event : Event} (regular : s.Regular)
    (handed : ∀ orderId, Hands cfg s event orderId → hands (.order orderId))
    (returned : ∀ letterId, event = .returnCredits letterId → hands (.letter letterId))
    (reversed : event.reverses = true → ∀ orderId, hands (.reversed orderId)) :
    Commits cfg hands (Blocks s event) s (step cfg s event) := by
  have checks := regular.checked
  cases event with
  | tick elapsed => exact .write (.tick elapsed)
  | createPackCheckout number product amountCents => exact createPackCheckout_commits
  | prepareJitOrder request => exact prepareJitOrder_commits checks
  | attachCheckout number serial url expiresAt => exact attachCheckout_commits checks
  | markCheckoutCreationFailure orderId terminal => exact markCheckoutCreationFailure_commits checks
  | cancelOrphanedCheckout orderId => exact cancelOrphanedCheckout_commits checks
  | checkoutSession event => exact processCheckoutSessionEvent_commits checks (reversed rfl)
  | repairFulfilledPackGrant orderId session expectedCredits paidAmountCents paidCurrency =>
    exact repairFulfilledPackGrant_commits
  | fulfillPaidOrder orderId letterId faulted => exact fulfillPaidOrder_commits checks
  | letterJob letterId status => exact applyLetterJob_commits checks
  | createDraft draft => exact createDraft_commits
  | changeDraft draftId mailOption requiredCredits => exact changeDraft_commits
  | endDraft draftId cancelled => exact endDraft_commits
  | sendDraft draftId mailType letterId => exact sendDraft_commits
  | grantGift reference generationsRemaining cardCampaignId expiresAt =>
    exact .write (.otherGifts reference generationsRemaining cardCampaignId expiresAt)
  | returnCredits letterId =>
    exact .write (.account (.returnCredits letterId) rfl
      (fun _ same => by cases same; exact returned _ rfl)
      (fun _ _ same => AccountEvent.noConfusion same) rfl)
  | redeemPromo campaign creditsAmount expiresAt =>
    exact onAccount_commits (.redeemPromo campaign creditsAmount expiresAt) rfl
      (fun _ same => AccountEvent.noConfusion same) (fun _ _ same => AccountEvent.noConfusion same)
  | grantAdjustment amount =>
    exact onAccount_commits (.grantAdjustment amount) rfl
      (fun _ same => AccountEvent.noConfusion same) (fun _ _ same => AccountEvent.noConfusion same)
  | removeCredits amount =>
    exact onAccount_commits (.removeCredits amount) rfl
      (fun _ same => AccountEvent.noConfusion same) (fun _ _ same => AccountEvent.noConfusion same)
  | markExpiredEntries =>
    exact .write (.account .markExpiredEntries rfl nofun (fun _ _ same => AccountEvent.noConfusion same) rfl)
  | reconcileBalances =>
    exact .write (.account .reconcileBalances rfl nofun (fun _ _ same => AccountEvent.noConfusion same) rfl)
  | refundPackLetters orderId letters packRefundId =>
    exact (refundPackLetters_commits checks (reversed rfl)).weaken fun exceeds =>
      .inr ⟨orderId, letters, packRefundId, rfl, exceeds⟩
  | stripeResponse packRefundId outcome =>
    have settles : ∀ row, s.packRefund packRefundId = some row →
        settlement s (.stripeResponse packRefundId outcome) = some (row, outcome) := by
      intro row found
      simp [settlement, found]
    refine (finalizeWithStripe_commits checks fun row found ends unheld => ?_).weaken ?_
    · exact handed _ (.inl ⟨row, ⟨outcome, settles row found, ends⟩, unheld, rfl⟩)
    · rintro ⟨row, found, exceeds⟩
      exact .inl ⟨row, outcome, settles row found, exceeds⟩
  | stripeFailure packRefundId terminal => exact handleStripeFailure_commits checks handed
  | reconcilePackRefund packRefundId seenAttempts refunds => exact reconcilePackRefund_commits checks handed
  | refund event => exact processRefundEvent_commits checks (reversed rfl) handed
  | dispute event => exact processDisputeEvent_commits checks (reversed rfl) handed
  | claimRefund orderId => exact claimRefund_commits checks
  | finalizeRefund claim outcome => exact finalizeRefund_commits checks regular.claimed (reversed rfl)
  | holdEndedRefund claim => exact holdEndedRefund_commits checks
  | failRefundRequest claim => exact failRefundRequest_commits checks
  | liftSendBlock => exact liftSendBlock_commits
  | releaseAmountMismatchQuarantine orderId => exact releaseAmountMismatchQuarantine_commits checks

/-- A table of orders stays within its CHECKs. -/
theorem Write.checked (write : Write cfg hands s s') (checks : s.Checked) : s'.Checked := by
  have put : ∀ new : Order, new.checks = true → ∀ row ∈ (s.orders.put (new.stamped s.now)).rows,
      row.checks = true := by
    intro new fits row member
    rcases Table.mem_put.mp member with ⟨old, -⟩ | ⟨rfl, -⟩
    · exact checks row old
    · exact fits
  cases write with
  | openOrder opened fits fresh =>
    intro row member
    rcases List.mem_append.mp member with old | new
    · exact checks row old
    · rw [List.mem_singleton.mp new]
      exact fits
  | moveOrder found moved fits => exact put _ fits
  | refundOrder found moved credits status whole dated emptied fits => exact put _ fits
  | fulfilPack found pack unfunded moved status attached granted fits => exact put _ fits
  | mailOrder found jit unfunded moved status fits => exact put _ fits
  | withdraw found pack fulfilled named credits amount state free below fresh revoked fits reversed => exact put _ fits
  | confirm refundId found inFlight owner fits => exact put _ fits
  | compensate found inUse owner unheld restores handed same fits => exact put _ fits
  | _ => exact checks

theorem Write.claimed (write : Write cfg hands s s') (claims : s.Claimed) : s'.Claimed := by
  have kept : ∀ claim ∈ s.refundClaims, ∃ order, s'.orders.find claim.orderId = some order ∧
      order.orderType = claim.orderType := by
    intro claim member
    obtain ⟨old, found, type⟩ := claims claim member
    obtain ⟨new, here, moved⟩ := write.order_kept found
    exact ⟨new, here, moved.orderType.trans type⟩
  cases write with
  | claim found terms =>
    intro row member
    rcases List.mem_cons.mp member with rfl | old
    · exact ⟨_, found, congrArg Order.Terms.orderType terms⟩
    · exact kept row old
  | _ => exact kept

theorem Write.regular (write : Write cfg hands s s') (regular : s.Regular) : s'.Regular :=
  ⟨write.checked regular.checked, write.claimed regular.claimed⟩

theorem Writes.regular (writes : Writes cfg hands s s') (regular : s.Regular) : s'.Regular :=
  invariant_writes writes regular fun _ _ holds write => write.regular holds

/-- Whom an event may give something back to. -/
def HandsBack (cfg : Config) (s : Store) (event : Event) : Beneficiary → Prop
  | .order orderId => Hands cfg s event orderId
  | .letter letterId => event = .returnCredits letterId
  | .reversed _ => event.reverses = true

theorem step_writes {event : Event} (regular : s.Regular) (committed : step cfg s event = .ok s') :
    Writes cfg (HandsBack cfg s event) s s' := by
  have commits : Commits cfg (HandsBack cfg s event) (Blocks s event) s (step cfg s event) :=
    step_commits regular (fun _ handed => handed) (fun _ returned => returned) fun reverses _ => reverses
  rw [committed] at commits
  exact commits

/-- What every write of a run's steps preserves, the run preserves. -/
theorem run_invariant {allowed : Store → Event → Prop} {I : Store → Prop}
    (run : Reach (step cfg) allowed s s') (regular : s.Regular) (holds : I s)
    (preserved : ∀ first event, allowed first event → ∀ before after, I before →
      Write cfg (HandsBack cfg first event) before after → I after) : I s' ∧ s'.Regular := by
  refine Reach.invariant (I := fun t => I t ∧ t.Regular) run ⟨holds, regular⟩ ?_
  rintro first event after ⟨holds, regular⟩ may committed
  have writes := step_writes regular committed
  exact ⟨Lib.invariant_writes writes holds (preserved first event may), writes.regular regular⟩

/-- The empty account is regular. -/
theorem Store.Regular.start : Store.Regular {} :=
  ⟨fun _ member => absurd member List.not_mem_nil, fun _ member => absurd member List.not_mem_nil⟩

/-- What every write preserves holds in every state of a run. -/
theorem Reachable.invariant {allowed : Store → Event → Prop} {I : Store → Prop}
    (reach : Reachable cfg allowed s) (atStart : I {})
    (preserved : ∀ hands before after, I before → Write cfg hands before after → I after) : I s :=
  (run_invariant reach .start atStart fun _ _ _ => preserved _).1

theorem Reachable.regular {allowed : Store → Event → Prop} (reach : Reachable cfg allowed s) : s.Regular :=
  (run_invariant (I := fun _ => True) reach .start trivial fun _ _ _ _ _ _ _ => trivial).2

/-- Over any run from a state an account can be in, an order moves and stays. -/
theorem run_order_kept {allowed : Store → Event → Prop} {later : Store} (regular : s.Regular)
    (run : Reach (step cfg) allowed s later) {orderId : OrderId} {old : Order}
    (found : s.orders.find orderId = some old) :
    ∃ new, later.orders.find orderId = some new ∧ old.Moves new := by
  refine (run_invariant (I := fun t => ∃ new, t.orders.find orderId = some new ∧ old.Moves new)
    run regular ⟨old, found, .refl old⟩ ?_).1
  rintro first event - before after ⟨middle, here, moved⟩ write
  obtain ⟨new, there, next⟩ := write.order_kept here
  exact ⟨new, there, moved.trans next⟩

end LetterIRL.Commerce
