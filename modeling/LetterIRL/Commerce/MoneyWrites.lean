import LetterIRL.Commerce.PaymentWrites
import LetterIRL.Commerce.Step

namespace LetterIRL.Commerce
open Lib Ledger Relation
variable {cfg : Config} {hands : Beneficiary → Prop} {s s' : Store} {blocked : Prop}

/-! The writes of refund commands, refund events and dispute events. -/

theorem updatePackRefund_ok {row : PackRefund} (updated : s.updatePackRefund row = .ok s') :
    s' = { s with packRefunds := s.packRefunds.put row } := by
  unfold Store.updatePackRefund at updated
  split at updated
  · cases updated
  split at updated
  · cases updated
  · exact (Except.ok.inj updated).symm

theorem updatePackRefund_abort {row : PackRefund} {reason : Abort}
    (aborted : s.updatePackRefund row = .error reason) : reason ≠ .ordersCheck := by
  unfold Store.updatePackRefund at aborted
  split at aborted
  · cases aborted
    decide
  split at aborted
  · cases aborted
    decide
  · cases aborted

/-- The last statement of a transaction, an update of a command's row. -/
theorem updatePackRefund_last {base : Store} {row : PackRefund}
    (write : Write cfg hands base { s with packRefunds := s.packRefunds.put row }) :
    Commits cfg hands blocked base (s.updatePackRefund row) := by
  cases result : s.updatePackRefund row with
  | ok after =>
    rw [updatePackRefund_ok result]
    exact .write write
  | error reason => exact .refused (updatePackRefund_abort result)

theorem uncreditedOrder_checks {order : Order} {row : PackRefund} {restored : Nat}
    (checked : order.checks = true) : (uncreditedOrder order row restored).checks = true := by
  rw [Order.checks_iff] at checked ⊢
  refine ⟨checked.1.imp id fun below => (Nat.sub_le _ _).trans below, ?_⟩
  unfold uncreditedOrder
  dsimp only
  split
  · exact (Nat.sub_le _ _).trans checked.2
  · exact checked.2

theorem compensatePackRefund_commits {row : PackRefund} {refundId : Option RefundId} (checks : s.Checked)
    (found : s.packRefunds.find row.packRefundId = some row) (inUse : row.inUse = true)
    (handed : compensationWithheld s row = false → hands (.order row.orderId)) :
    Commits cfg hands blocked s (compensatePackRefund s row refundId) := by
  have failed : ∀ new : PackRefund, new = { row with status := .failed, stripeRefundId := new.stripeRefundId } →
      Commits cfg hands blocked s (s.updatePackRefund new) := by
    intro new same
    have key : new.packRefundId = row.packRefundId := by rw [same]
    have here : s.packRefunds.find new.packRefundId = some row := by
      rw [key]
      exact found
    exact updatePackRefund_last (.await here
      ⟨key, by rw [same], by rw [same], by rw [same], .inr ⟨inUse, by rw [same]⟩⟩)
  unfold compensatePackRefund
  dsimp only
  split
  · exact failed _ rfl
  rename_i held
  have unheld : compensationWithheld s row = false := by simpa using held
  split
  · exact failed _ rfl
  rename_i order owner
  split
  · rename_i nothing
    exact updatePackRefund_last (.compensateNothing found inUse (by rw [owner]; rfl) nothing
      (handed unheld) rfl)
  · rename_i restores
    have fits : (uncreditedOrder order row (restoredCredits s.account row.packRefundId)).checks = true :=
      uncreditedOrder_checks (checks _ (Table.find_mem owner))
    refine Outcome.compute ?_ ?_
    · rintro reason aborted rfl
      rw [Store.updateOrder_ordersCheck, fits] at aborted
      cases aborted
    · intro uncredited updated
      obtain ⟨-, -, rfl⟩ := Store.updateOrder_ok updated
      exact updatePackRefund_last (.compensate found inUse owner unheld restores (handed unheld) rfl fits)

/-- The refund the outcome reports is this command's own. -/
def PackRefund.answeredBy (row : PackRefund) (refundId : RefundId) : Prop :=
  row.stripeRefundId = none ∨ row.stripeRefundId = some refundId

/-- A success for a command in flight whose order cannot take its amount any more. -/
structure OverRefunds (s : Store) (row : PackRefund) (outcome : StripeRefundOutcome) : Prop where
  succeeded : outcome.status = .succeeded
  inFlight : row.inFlight = true
  answered : row.answeredBy outcome.id
  unique : ∀ other ∈ s.packRefunds.rows, other.packRefundId ≠ row.packRefundId →
    other.stripeRefundId ≠ some outcome.id
  exceeds : ∃ order, s.orders.find row.orderId = some order ∧ (confirmedOrder order row).checks = false

theorem answeredBy_iff {row : PackRefund} {refundId : RefundId} :
    row.answeredBy refundId ↔
      ¬(row.stripeRefundId.isSome && row.stripeRefundId != some refundId) = true := by
  unfold PackRefund.answeredBy
  cases row.stripeRefundId with
  | none => simp
  | some mine => simp

theorem updatePackRefund_succeeds {row : PackRefund} {refundId : RefundId} :
    (∃ after, s.updatePackRefund
        { row with status := .succeeded, stripeRefundId := some refundId } = .ok after) ↔
      ∀ other ∈ s.packRefunds.rows, other.packRefundId ≠ row.packRefundId →
        other.stripeRefundId ≠ some refundId := by
  unfold Store.updatePackRefund
  simp only [reduceCtorEq, false_and, if_false]
  split
  · rename_i taken
    obtain ⟨other, member, same⟩ := List.any_eq_true.mp taken
    constructor
    · rintro ⟨_, never⟩
      cases never
    · intro unique
      simp only [Bool.and_eq_true, bne_iff_ne, beq_iff_eq] at same
      exact absurd same.2 (unique other member same.1.1)
  · rename_i free
    refine ⟨fun _ other member differ same => free (List.any_eq_true.mpr ⟨other, member, ?_⟩), fun _ => ⟨_, rfl⟩⟩
    simp [differ, same]

/-- The outcome ends a command that has not ended before. -/
def endsCommand (row : PackRefund) (outcome : StripeRefundOutcome) : Bool :=
  !(row.stripeRefundId.isSome && row.stripeRefundId != some outcome.id) && outcome.status.ended && row.inUse

/-- A settlement aborts on a CHECK only when a success no longer fits its order. -/
theorem settlePackRefund_commits {row : PackRefund} {outcome : StripeRefundOutcome} (checks : s.Checked)
    (found : s.packRefunds.find row.packRefundId = some row)
    (handed : endsCommand row outcome = true → compensationWithheld s row = false → hands (.order row.orderId)) :
    Commits cfg hands (OverRefunds s row outcome) s (settlePackRefund s row outcome) := by
  unfold settlePackRefund
  split
  · exact .skip
  rename_i answered
  have compensates : outcome.status.ended = true → ¬(row.status = .failed ∨ row.status = .compensated) →
      Commits cfg hands (OverRefunds s row outcome) s (compensatePackRefund s row (some outcome.id)) := by
    intro ended open_
    have inUse : row.inUse = true := by
      cases state : row.status <;> simp_all [PackRefund.inUse]
    have ends : endsCommand row outcome = true := by
      rw [endsCommand, Bool.eq_false_of_not_eq_true answered, ended, inUse]
      rfl
    exact compensatePackRefund_commits checks found inUse (handed ends)
  cases status : outcome.status with
  | failed =>
    dsimp only
    split
    · exact .skip
    · rename_i open_
      exact compensates (by rw [status]; rfl) open_
  | canceled =>
    dsimp only
    split
    · exact .skip
    · rename_i open_
      exact compensates (by rw [status]; rfl) open_
  | succeeded =>
    dsimp only
    split
    · exact .skip
    rename_i flying
    have inFlight : row.inFlight = true := by
      cases state : row.status <;> simp_all [PackRefund.inFlight]
    refine Outcome.compute (fun reason aborted check => absurd check (updatePackRefund_abort aborted)) ?_
    intro settled updated
    have unique := updatePackRefund_succeeds.mp ⟨settled, updated⟩
    rw [updatePackRefund_ok updated]
    dsimp only
    cases owner : s.orders.find row.orderId with
    | none => exact .write (.orphan found owner)
    | some order =>
      dsimp only
      cases result : Store.updateOrder _ (confirmedOrder order row) with
      | ok after =>
        obtain ⟨fits, -, rfl⟩ := Store.updateOrder_ok result
        exact .write (.confirm outcome.id found inFlight owner fits)
      | error reason =>
        intro check
        rw [check, Store.updateOrder_ordersCheck] at result
        exact ⟨status, inFlight, answeredBy_iff.mpr answered, unique, order, owner, result⟩
  | pending =>
    dsimp only
    split
    · exact .skip
    · rename_i fresh
      exact updatePackRefund_last (.await found
        ⟨rfl, rfl, rfl, rfl, .inl ⟨by simp [PackRefund.inFlight, not_not.mp fresh], rfl⟩⟩)
  | requiresAction =>
    dsimp only
    split
    · exact .skip
    · rename_i fresh
      exact updatePackRefund_last (.await found
        ⟨rfl, rfl, rfl, rfl, .inl ⟨by simp [PackRefund.inFlight, not_not.mp fresh], rfl⟩⟩)

/-- And then it does abort on one. -/
theorem settlePackRefund_over {row : PackRefund} {outcome : StripeRefundOutcome}
    (blocked : OverRefunds s row outcome) : settlePackRefund s row outcome = .error .ordersCheck := by
  obtain ⟨order, owner, unfit⟩ := blocked.exceeds
  obtain ⟨settled, updated⟩ := updatePackRefund_succeeds.mpr blocked.unique
  have flying : ¬(row.status ≠ .lettersRevoked ∧ row.status ≠ .stripePending) := by
    have inFlight := blocked.inFlight
    rintro ⟨first, second⟩
    cases state : row.status <;> simp_all [PackRefund.inFlight]
  have found : settled.orders.find row.orderId = some order := by
    rw [updatePackRefund_ok updated]
    exact owner
  unfold settlePackRefund
  rw [if_neg (answeredBy_iff.mp blocked.answered), blocked.succeeded]
  dsimp only
  rw [if_neg flying, updated]
  dsimp only [bind, Except.bind]
  rw [found]
  exact Store.updateOrder_ordersCheck.mpr unfit

/-- Phase 1 withdraws credits its order's counter cannot take. -/
def OverWithdraws (s : Store) (orderId : OrderId) (letters : Nat) : Prop :=
  ∃ order, s.orders.find orderId = some order ∧ order.orderType = .letterPack ∧ order.status = .fulfilled ∧
    letters * CREDITS_PER_LETTER ≤
      total Lot.remainingAmount (liveLots s.now (packLot order) s.account.creditLedger) ∧
    order.credits < order.creditsRefunded + letters * CREDITS_PER_LETTER

theorem refundPackLetters_commits {orderId : OrderId} {letters : Nat} {packRefundId : PackRefundId}
    (checks : s.Checked) (reversed : ∀ orderId, hands (.reversed orderId)) :
    Commits cfg hands (OverWithdraws s orderId letters) s (refundPackLetters s orderId letters packRefundId) := by
  unfold refundPackLetters
  split
  · exact .refused (by decide)
  rename_i order found
  split
  · exact .refused (by decide)
  rename_i intent _
  dsimp only
  split
  · exact .refused (by decide)
  rename_i shape
  split
  · exact .refused (by decide)
  rename_i state
  split
  · exact .refused (by decide)
  rename_i idle
  split
  · exact .refused (by decide)
  split
  · exact .refused (by decide)
  split
  · exact .refused (by decide)
  rename_i amounts
  split
  swap
  · exact .refused (by decide)
  rename_i fresh
  have key := Table.find_key found
  subst key
  have pack : order.orderType = .letterPack := by
    by_contra other
    exact shape (.inr (.inl other))
  have fulfilled : order.status = .fulfilled := not_not.mp state
  have free : ∀ other ∈ s.packRefunds.rows, other.orderId = order.orderId → other.inUse = false := by
    intro other member same
    by_contra inUse
    exact idle (List.any_eq_true.mpr ⟨other, member, by simp [same, inUse]⟩)
  refine Outcome.compute (fun reason aborted check => ?_) ?_
  · have aborts : applyAccountEvent s.now s.account
        (.revokeProportionally order (newPackRefund order letters packRefundId intent).credits packRefundId) =
        .error reason := by
      simp only [applyAccountEvent, aborted]
      rfl
    exact absurd check (applyAccountEvent_abort _ aborts)
  rintro ⟨account, exhausted⟩ revoked
  obtain ⟨positive, enough, -⟩ := revokePackCreditsProportionally_ok revoked
  dsimp only
  let row := newPackRefund order letters packRefundId intent
  let refunds := s.packRefunds.insert row fresh
  -- The gift letters of an exhausted pack go first; nothing else reads them.
  have gone : ∃ base, Writes cfg hands s base ∧
      (if exhausted = true then
          ({ s with account, packRefunds := refunds } : Store).revokeGiftLettersForOrder order.orderId
        else { s with account, packRefunds := refunds }) = { base with account, packRefunds := refunds } ∧
      base.now = s.now ∧ base.account = s.account ∧ base.orders = s.orders ∧
      base.packRefunds = s.packRefunds := by
    cases exhausted with
    | true => exact ⟨_, .single (.revokeGifts order.orderId), rfl, rfl, rfl, rfl, rfl⟩
    | false => exact ⟨s, .refl, rfl, rfl, rfl, rfl, rfl⟩
  obtain ⟨base, gifts, settled, now, ledger, orders, same⟩ := gone
  rw [settled]
  refine Outcome.after gifts ?_
  cases result : Store.updateOrder _ { order with
      creditsRefunded := order.creditsRefunded + (newPackRefund order letters packRefundId intent).credits } with
  | ok after =>
    obtain ⟨fits, -, rfl⟩ := Store.updateOrder_ok result
    have here : base.orders.find order.orderId = some order := by
      rw [orders]
      exact found
    have named : row.orderId = order.orderId := rfl
    have unused : row.packRefundId ∉ base.packRefunds.rows.map PackRefund.packRefundId := by
      rw [same]
      exact fresh
    have taken : revokePackCreditsProportionally base.now base.account order row.credits row.packRefundId =
        .ok (account, exhausted) := by
      rw [now, ledger]
      exact revoked
    have step : Write cfg hands base _ := .withdraw here pack fulfilled named positive
      (not_lt.mp (not_or.mp amounts).1) rfl (by rw [same]; exact free) (not_le.mp (not_or.mp amounts).2)
      unused taken fits (reversed _)
    refine .write ?_
    convert step using 2
    simp only [same]
    rfl
  | error reason =>
    intro check
    rw [check, Store.updateOrder_ordersCheck] at result
    refine ⟨order, found, pack, fulfilled, enough, ?_⟩
    obtain ⟨-, below⟩ := Order.checks_iff.mp (checks _ (Table.find_mem found))
    by_contra within
    have fits : ({ order with creditsRefunded := order.creditsRefunded + row.credits } : Order).checks = true :=
      Order.checks_iff.mpr ⟨.inr (not_lt.mp within), below⟩
    rw [fits] at result
    cases result

/-! The command's calls. -/

theorem packRefund_find {packRefundId : PackRefundId} {row : PackRefund}
    (found : s.packRefund packRefundId = some row) : s.packRefunds.find row.packRefundId = some row :=
  Table.find_of_mem (Table.find_mem found)

/-- The command and the outcome an event brings to its settlement. -/
def settlement (s : Store) : Event → Option (PackRefund × StripeRefundOutcome)
  | .stripeResponse packRefundId outcome => (s.packRefund packRefundId).map fun row => (row, outcome)
  | .reconcilePackRefund packRefundId _ refunds =>
    (s.packRefund packRefundId).bind fun row =>
      (adoptedRefund row refunds).map fun found => (row, { id := found.id, status := found.status })
  | .refund event =>
    if event.eventId ∈ s.webhookEvents.rows.map WebhookEvent.eventId then none
    else
      (s.orderOfRefund event.metadataOrderId event.paymentIntent).bind fun order =>
        ((if event.isRefund then event.packRefundId else none).bind s.packRefund).bind fun command =>
          if matchesCommand order event command then
            some (command, { id := event.refundId, status := event.status })
          else none
  | _ => none

/-- What an event comes to aborts on a CHECK of `orders`. -/
def Blocks (s : Store) (event : Event) : Prop :=
  (∃ row outcome, settlement s event = some (row, outcome) ∧ OverRefunds s row outcome) ∨
    ∃ orderId letters packRefundId, event = .refundPackLetters orderId letters packRefundId ∧
      OverWithdraws s orderId letters

/-- The event gives the command up: its refund ended at Stripe, Stripe refused it
for good, or the sweep is out of attempts. -/
def EndsCommand (cfg : Config) (s : Store) (event : Event) (row : PackRefund) : Prop :=
  match event with
  | .stripeFailure packRefundId terminal =>
    s.packRefund packRefundId = some row ∧ terminal = true ∧ row.status = .lettersRevoked
  | .reconcilePackRefund packRefundId seenAttempts refunds =>
    s.packRefund packRefundId = some row ∧
      match adoptedRefund row refunds with
      | some found => endsCommand row { id := found.id, status := found.status } = true
      | none => cfg.packRefundStripeAttemptLimit ≤ seenAttempts ∧ row.status = .lettersRevoked ∧
          seenAttempts ≤ row.stripeAttempts
  | event => ∃ outcome, settlement s event = some (row, outcome) ∧ endsCommand row outcome = true

/-- The event closes a dispute of the pack favourably, and its money is not on its way back. -/
def ClosesFavourably (s : Store) (event : Event) (order : Order) : Prop :=
  match event with
  | .dispute event => event.eventId ∉ s.webhookEvents.rows.map WebhookEvent.eventId ∧
      s.orderOfIntent event.paymentIntent = some order ∧ order.orderType = .letterPack ∧
      event.closes = true ∧ event.status ∈ FAVOURABLE_DISPUTE_STATUSES ∧
      order.status ≠ .refunded ∧ order.status ≠ .refundPending
  | _ => False

/-- The orders an event may hand letters back to. -/
def Hands (cfg : Config) (s : Store) (event : Event) (orderId : OrderId) : Prop :=
  (∃ row, EndsCommand cfg s event row ∧ compensationWithheld s row = false ∧ row.orderId = orderId) ∨
    ∃ order, ClosesFavourably s event order ∧ order.orderId = orderId

theorem finalizeWithStripe_commits {packRefundId : PackRefundId} {outcome : StripeRefundOutcome}
    (checks : s.Checked)
    (handed : ∀ row, s.packRefund packRefundId = some row → endsCommand row outcome = true →
      compensationWithheld s row = false → hands (.order row.orderId)) :
    Commits cfg hands (∃ row, s.packRefund packRefundId = some row ∧ OverRefunds s row outcome) s
      (finalizeWithStripe s packRefundId outcome) := by
  unfold finalizeWithStripe
  split
  · exact .skip
  · rename_i row found
    exact (settlePackRefund_commits checks (packRefund_find found) (handed row found)).weaken
      fun exceeds => ⟨row, found, exceeds⟩

theorem handleStripeFailure_commits {packRefundId : PackRefundId} {terminal : Bool} (checks : s.Checked)
    (handed : ∀ orderId, Hands cfg s (.stripeFailure packRefundId terminal) orderId → hands (.order orderId)) :
    Commits cfg hands blocked s (handleStripeFailure s packRefundId terminal) := by
  unfold handleStripeFailure
  split
  · exact .skip
  rename_i row found
  split
  · exact .skip
  rename_i fresh
  split
  · rename_i terminal
    exact compensatePackRefund_commits checks (packRefund_find found)
      (by simp [PackRefund.inUse, not_not.mp fresh])
      fun unheld => handed _ (.inl ⟨row, ⟨found, terminal, not_not.mp fresh⟩, unheld, rfl⟩)
  · have inFlight : row.inFlight = true := by simp [PackRefund.inFlight, not_not.mp fresh]
    have here := packRefund_find found
    exact updatePackRefund_last (.await here
      ⟨rfl, rfl, rfl, rfl, .inl ⟨inFlight, inFlight⟩⟩)

theorem reconcilePackRefund_commits {packRefundId : PackRefundId} {seenAttempts : Nat}
    {refunds : List ListedRefund} (checks : s.Checked)
    (handed : ∀ orderId, Hands cfg s (.reconcilePackRefund packRefundId seenAttempts refunds) orderId →
      hands (.order orderId)) :
    Commits cfg hands (Blocks s (.reconcilePackRefund packRefundId seenAttempts refunds)) s
      (reconcilePackRefund cfg s packRefundId seenAttempts refunds) := by
  unfold reconcilePackRefund
  split
  · exact .skip
  rename_i row found
  split
  · rename_i listed adopted
    refine (finalizeWithStripe_commits checks ?_).weaken ?_
    · intro same again ends unheld
      cases Option.some.inj (found.symm.trans again)
      refine handed _ (.inl ⟨row, ⟨found, ?_⟩, unheld, rfl⟩)
      rw [adopted]
      exact ends
    · rintro ⟨same, again, exceeds⟩
      cases Option.some.inj (found.symm.trans again)
      refine .inl ⟨row, _, ?_, exceeds⟩
      simp [settlement, found, adopted]
  · rename_i adopted
    split
    · rename_i exhausted
      split
      · exact .skip
      · rename_i stuck
        obtain ⟨fresh, seen⟩ := not_or.mp stuck
        refine compensatePackRefund_commits checks (packRefund_find found)
          (by simp [PackRefund.inUse, not_not.mp fresh]) fun unheld => ?_
        refine handed _ (.inl ⟨row, ⟨found, ?_⟩, unheld, rfl⟩)
        rw [adopted]
        exact ⟨exhausted, not_not.mp fresh, not_lt.mp seen⟩
    · exact .skip

/-! Refund events and the app's own refunds. -/

theorem clearRefundHold_status {order : Order} : (clearRefundHold order).status = order.status := by
  unfold clearRefundHold
  split <;> rfl

theorem clearRefundHold_refundedAt {order : Order} :
    (clearRefundHold order).refundedAt = order.refundedAt := by
  unfold clearRefundHold
  split <;> rfl

theorem clearRefundHold_advances {order : Order} : order.Advances (clearRefundHold order) := by
  unfold clearRefundHold
  split
  · exact .of_same_status rfl rfl rfl id rfl rfl
  · exact .refl order

theorem holdRefundNotCompleted_advances {order : Order} : order.Advances (holdRefundNotCompleted order) := by
  unfold holdRefundNotCompleted
  split
  · exact .of_same_status rfl rfl rfl id rfl rfl
  · exact .refl order

theorem holdRefundNotCompleted_status {order : Order} :
    (holdRefundNotCompleted order).status = order.status := by
  unfold holdRefundNotCompleted
  split <;> rfl

/-- The row of a full refund that succeeded. -/
theorem refundedOrder_moves {order : Order} {event : RefundEvent} {now : Time} :
    order.Moves (clearRefundHold (refundedOrder now order event .refunded)) :=
  have reversed : order.Moves (refundedOrder now order event .refunded) :=
    .to_reversed rfl (.inl rfl) (fun _ => rfl) id
  reversed.trans clearRefundHold_advances.toMoves

/-- A refund that went through takes the lots and gifts of a pack, then the images. -/
theorem reversal_writes (order : Order) (reversed : ∀ orderId, hands (.reversed orderId)) :
    ∃ base, Writes cfg hands s base ∧ base.orders = s.orders ∧
      (order.orderType = .letterPack → base.packRevoked order.orderId) ∧
      ((if order.orderType = .letterPack then s.revokePackLots order .paymentRefunded else s)
        |>.revokeImageEntitlements order.orderId) = base := by
  split
  · exact ⟨_, (revokePackLots_writes (reversed _)).tail (.revokeImages order.orderId), rfl,
      fun _ => revokeWholePack_emptied, rfl⟩
  · rename_i other
    exact ⟨_, .single (.revokeImages order.orderId), rfl, fun pack => absurd pack other, rfl⟩

theorem applyFullRefund_commits {order : Order} {event : RefundEvent} (checks : s.Checked)
    (found : s.orders.find order.orderId = some order) (reversed : ∀ orderId, hands (.reversed orderId)) :
    Commits cfg hands blocked s (applyFullRefund s order event) := by
  have checked := checks _ (Table.find_mem found)
  have pendingMove : ∀ new : Order, (refundedOrder s.now order event .refundPending).Advances new →
      new.status = .refundPending → Commits cfg hands blocked s (s.updateOrder new) := by
    intro new moved status
    have pending : order.Advances (refundedOrder s.now order event .refundPending) :=
      .to_reversed rfl (.inr (.inl rfl)) id id rfl rfl
    have whole := pending.trans moved
    exact updateOrder_commits order _ (by rw [whole.orderId]; exact found)
      (.of_plain whole (by rw [status]; decide)) checked
  unfold applyFullRefund
  split
  · obtain ⟨base, steps, orders, emptied, same⟩ : ∃ base, Writes cfg hands s base ∧ _ := reversal_writes order reversed
    dsimp only
    rw [same]
    refine Outcome.after steps ?_
    have moved : order.Moves (clearRefundHold (refundedOrder s.now order event .refunded)) :=
      refundedOrder_moves
    have credits : (clearRefundHold (refundedOrder s.now order event .refunded)).creditsRefunded =
        order.creditsRefunded := clearRefundHold_advances.creditsRefunded
    have whole : (clearRefundHold (refundedOrder s.now order event .refunded)).amountRefundedCents =
        (clearRefundHold (refundedOrder s.now order event .refunded)).amountCents := by
      rw [clearRefundHold_advances.amountRefundedCents, clearRefundHold_advances.amountCents]
      simp [refundedOrder]
    cases result : base.updateOrder (clearRefundHold (refundedOrder s.now order event .refunded)) with
    | ok after =>
      obtain ⟨fits, -, rfl⟩ := Store.updateOrder_ok result
      have here : base.orders.find (clearRefundHold (refundedOrder s.now order event .refunded)).orderId =
          some order := by
        rw [orders, moved.orderId]
        exact found
      have dated : (clearRefundHold (refundedOrder s.now order event .refunded)).refundedAt.isSome = true := by
        rw [clearRefundHold_refundedAt]
        rfl
      refine .write (.refundOrder here moved credits clearRefundHold_status whole dated ?_ fits)
      rw [moved.orderType, moved.orderId]
      exact emptied
    | error reason =>
      intro check
      rw [check, Store.updateOrder_ordersCheck] at result
      have fits : (clearRefundHold (refundedOrder s.now order event .refunded)).checks = true := by
        rw [Order.checks_iff] at checked ⊢
        rw [moved.orderType, credits, moved.credits, whole]
        exact ⟨checked.1, le_rfl⟩
      rw [fits] at result
      cases result
  · dsimp only
    split
    · exact pendingMove _ holdRefundNotCompleted_advances holdRefundNotCompleted_status
    · exact pendingMove _ (.refl _) rfl

theorem orderOfRefund_find {metadataOrderId : Option OrderId} {intent : Option IntentId} {order : Order}
    (found : s.orderOfRefund metadataOrderId intent = some order) :
    s.orders.find order.orderId = some order :=
  Table.find_of_mem (List.mem_reverse.mp (List.mem_of_find?_eq_some found))

/-- What a settlement reads is not what the claim of an event writes. -/
theorem OverRefunds.of_claimed {row : PackRefund} {outcome : StripeRefundOutcome}
    {webhookEvents : Table WebhookEvent.eventId}
    (exceeds : OverRefunds { s with webhookEvents } row outcome) : OverRefunds s row outcome :=
  ⟨exceeds.succeeded, exceeds.inFlight, exceeds.answered, exceeds.unique, exceeds.exceeds⟩

theorem processRefundEvent_commits {event : RefundEvent} (checks : s.Checked)
    (reversed : ∀ orderId, hands (.reversed orderId))
    (handed : ∀ orderId, Hands cfg s (.refund event) orderId → hands (.order orderId)) :
    Commits cfg hands (Blocks s (.refund event)) s (processRefundEvent s event) := by
  unfold processRefundEvent
  split
  · exact .skip
  rename_i claimed claim
  obtain ⟨fresh, webhookEvents, rfl⟩ := claimStripeEvent_some claim
  refine Outcome.after (.single (.notes s.disputes webhookEvents)) ?_
  split
  · exact .write (.notes s.disputes _)
  rename_i order found
  split
  · rename_i packRefundId named
    split
    · exact .skip
    rename_i command commanded
    split
    · rename_i matched
      have order_ : s.orderOfRefund event.metadataOrderId event.paymentIntent = some order := found
      have command_ : s.packRefund packRefundId = some command := commanded
      have settles : settlement s (.refund event) =
          some (command, { id := event.refundId, status := event.status }) := by
        simp [settlement, fresh, order_, named, command_, matched]
      refine (settlePackRefund_commits (s := { s with webhookEvents }) checks (packRefund_find commanded)
        fun ends unheld => ?_).weaken fun exceeds => ?_
      · exact handed _ (.inl ⟨command, ⟨_, settles, ends⟩, unheld, rfl⟩)
      · exact .inl ⟨command, _, settles, exceeds.of_claimed⟩
    · exact .skip
  · split
    · exact .skip
    split
    · exact .skip
    · exact applyFullRefund_commits checks (orderOfRefund_find found) reversed

theorem claimRefund_commits {orderId : OrderId} (checks : s.Checked) :
    Commits cfg hands blocked s (claimRefund cfg s orderId) := by
  unfold claimRefund
  split
  · exact .refused (by decide)
  rename_i order found
  split
  · exact .refused (by decide)
  split
  · exact .refused (by decide)
  have here : s.orders.find order.orderId = some order := Table.find_of_mem (Table.find_mem found)
  refine Outcome.bind (updateOrder_commits order _ here
    (.of_same_status (.of_same_status rfl rfl rfl id rfl rfl) rfl) (checks _ (Table.find_mem found))) ?_
  intro claimed updated
  obtain ⟨-, -, rfl⟩ := Store.updateOrder_ok updated
  exact .write (.claim (Table.find_put_self _ here) rfl)

theorem finalizeRefund_commits {claim : Order} {outcome : StripeRefundOutcome} (checks : s.Checked)
    (claimed : s.Claimed) (reversed : ∀ orderId, hands (.reversed orderId)) :
    Commits cfg hands blocked s (finalizeRefund s claim outcome) := by
  unfold finalizeRefund
  split
  · exact .refused (by decide)
  rename_i holds
  split
  · exact .skip
  rename_i order found
  have type : order.orderType = claim.orderType := by
    obtain ⟨row, onRecord, same⟩ := claimed claim (not_not.mp holds)
    cases found.symm.trans onRecord
    exact same
  have here : s.orders.find order.orderId = some order := Table.find_of_mem (Table.find_mem found)
  have checked := checks _ (Table.find_mem found)
  split
  · exact .skip
  have finished : outcome.status = .succeeded → order.Advances (requestedOrder s.now order outcome) := by
    intro succeeded
    exact .to_reversed rfl (.inl (by simp [requestedOrder, succeeded]))
      (by intro; simp [requestedOrder, succeeded]) id rfl rfl
  split
  · rename_i succeeded
    have whole := (finished succeeded).trans clearRefundHold_advances
    have status : (clearRefundHold (requestedOrder s.now order outcome)).status = .refunded := by
      rw [clearRefundHold_status]
      simp [requestedOrder, succeeded]
    obtain ⟨base, steps, orders, emptied, same⟩ : ∃ base, Writes cfg hands s base ∧ _ := reversal_writes claim reversed
    have moved : OrderMove base order (clearRefundHold (requestedOrder s.now order outcome)) :=
      { whole with
        unpaid := fun paid => by rw [status] at paid; cases paid
        ungranted := fun _ final => by rw [status] at final; cases final
        mailed := fun _ mail => absurd mail (by rw [status]; decide)
        emptied := fun pack _ => by
          refine .inr ⟨?_, ?_⟩
          · rw [whole.orderId, Table.find_key found]
            exact emptied (type ▸ whole.orderType ▸ pack)
          · rw [clearRefundHold_refundedAt]
            simp [requestedOrder, succeeded] }
    dsimp only
    rw [same]
    refine Outcome.after steps (updateOrder_commits order _ ?_ moved checked)
    rw [orders, whole.orderId]
    exact here
  · rename_i pending
    have status : (requestedOrder s.now order outcome).status = .refundPending := by
      simp [requestedOrder, pending]
    exact updateOrder_commits order _ here
      (.of_plain (.to_reversed rfl (.inr (.inl status)) (by simp [requestedOrder, pending]) id rfl rfl)
        (by rw [status]; decide)) checked

theorem holdEndedRefund_commits {claim : Order} (checks : s.Checked) :
    Commits cfg hands blocked s (holdEndedRefund s claim) := by
  unfold holdEndedRefund
  split
  · exact .refused (by decide)
  split
  · exact .skip
  rename_i order found
  split
  · exact .skip
  · exact updateOrder_commits order _
      (by rw [holdRefundNotCompleted_advances.orderId]; exact Table.find_of_mem (Table.find_mem found))
      (.of_same_status holdRefundNotCompleted_advances holdRefundNotCompleted_status)
      (checks _ (Table.find_mem found))

theorem failRefundRequest_commits {claim : Order} (checks : s.Checked) :
    Commits cfg hands blocked s (failRefundRequest s claim) := by
  unfold failRefundRequest
  split
  · exact .refused (by decide)
  split
  · exact .skip
  rename_i order found
  split
  · exact .skip
  · exact updateOrder_commits order _ (Table.find_of_mem (Table.find_mem found))
      (.of_same_status (.of_same_status rfl rfl rfl id rfl rfl) rfl) (checks _ (Table.find_mem found))

/-! Disputes. -/

theorem orderOfIntent_find {intent : Option IntentId} {order : Order}
    (found : s.orderOfIntent intent = some order) : s.orders.find order.orderId = some order :=
  Table.find_of_mem (List.mem_of_find?_eq_some found)

theorem unblockAccountSends_writes {resolved : DisputeId} : Writes cfg hands s (s.unblockAccountSends resolved) := by
  unfold Store.unblockAccountSends
  split
  · exact .refl
  · exact .single (.account (.blockSends none) rfl nofun (fun _ _ same => AccountEvent.noConfusion same) rfl)

theorem applyDisputeOutcome_writes {order current : Order} {event : DisputeEvent}
    (found : s.orders.find order.orderId = some current) (same : current.orderType = order.orderType)
    (disputed : current.status = .disputed) (reversed : ∀ orderId, hands (.reversed orderId))
    (handed : event.closes = true → event.status ∈ FAVOURABLE_DISPUTE_STATUSES → order.orderType = .letterPack →
      order.status ≠ .refunded → order.status ≠ .refundPending → hands (.order order.orderId)) :
    Writes cfg hands s (applyDisputeOutcome s order event) := by
  unfold applyDisputeOutcome
  split
  · dsimp only
    split
    · exact (revokePackLots_writes (reversed _)).trans blockAccountSends_writes
    · exact blockAccountSends_writes
  split
  · rename_i favourable
    simp only [Bool.and_eq_true, decide_eq_true_eq] at favourable
    dsimp only
    split
    · rename_i pack
      refine ReflTransGen.trans ?_ unblockAccountSends_writes
      by_cases moneyBack : order.status = .refunded ∨ order.status = .refundPending
      · -- The guard: a refunded order is not compensated.
        rw [compensateDisputedPacks, if_pos moneyBack]
      · obtain ⟨unrefunded, unpending⟩ := not_or.mp moneyBack
        exact .single (.restore event.disputeId found (same.trans pack) disputed
          (handed favourable.1 favourable.2 pack unrefunded unpending) (reversed _))
    · exact unblockAccountSends_writes
  · exact .refl

theorem disputedOrder_advances {order : Order} {now : Time} {status : DisputeStatus} :
    order.Advances (disputedOrder now order status) :=
  .to_reversed rfl (.inr (.inr rfl)) id id rfl rfl

theorem processDisputeEvent_commits {event : DisputeEvent} (checks : s.Checked)
    (reversed : ∀ orderId, hands (.reversed orderId))
    (handed : ∀ orderId, Hands cfg s (.dispute event) orderId → hands (.order orderId)) :
    Commits cfg hands blocked s (processDisputeEvent s event) := by
  unfold processDisputeEvent
  split
  · exact .skip
  rename_i claimed claim
  obtain ⟨fresh, webhookEvents, rfl⟩ := claimStripeEvent_some claim
  refine Outcome.after (.single (.notes s.disputes webhookEvents)) ?_
  dsimp only
  split
  · exact .write (.notes _ _)
  rename_i order found
  have here := orderOfIntent_find found
  have checked := checks _ (Table.find_mem here)
  refine Outcome.after (.single (.notes _ webhookEvents)
    : Writes cfg hands _ (Store.recordDispute _ event true)) ?_
  split
  · split
    · exact .skip
    · exact updateOrder_commits order _ here
        (.of_same_status (.of_same_status rfl rfl rfl id rfl rfl) rfl) checked
  · refine Outcome.bind (updateOrder_commits order _ here
      (.of_plain disputedOrder_advances (by show OrderStatus.disputed ∈ _; decide)) checked) ?_
    intro held updated
    obtain ⟨-, -, rfl⟩ := Store.updateOrder_ok updated
    have stored : (s.orders.put ((disputedOrder s.now order event.status).stamped s.now)).find order.orderId =
        some ((disputedOrder s.now order event.status).stamped s.now) := Table.find_put_self _ here
    refine applyDisputeOutcome_writes stored rfl rfl reversed fun closes favourable pack unrefunded unpending => ?_
    exact handed _ (.inr ⟨order, ⟨fresh, found, pack, closes, favourable, unrefunded, unpending⟩, rfl⟩)

theorem liftSendBlock_commits : Commits cfg hands blocked s (liftSendBlock s) := by
  unfold liftSendBlock
  split
  · exact .refused (by decide)
  split
  · exact .refused (by decide)
  · exact .write (.account (.blockSends none) rfl nofun (fun _ _ same => AccountEvent.noConfusion same) rfl)

theorem releaseAmountMismatchQuarantine_commits {orderId : OrderId} (checks : s.Checked) :
    Commits cfg hands blocked s (releaseAmountMismatchQuarantine s orderId) := by
  unfold releaseAmountMismatchQuarantine
  split
  · exact .refused (by decide)
  rename_i order found
  split
  · exact .refused (by decide)
  · exact updateOrder_commits order _ (Table.find_of_mem (Table.find_mem found))
      (.of_same_status (.of_same_status rfl rfl rfl id rfl rfl) rfl) (checks _ (Table.find_mem found))

end LetterIRL.Commerce
