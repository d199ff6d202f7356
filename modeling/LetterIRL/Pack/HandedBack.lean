import LetterIRL.Commerce.Settlements
import LetterIRL.Pack.Refunded

namespace LetterIRL.Pack
open Lib Ledger Commerce Relation
variable {cfg : Config} {s s' : Store} {orderId : OrderId}

/-! Letters of a pack that come back after its money did. -/

/-- The step puts the pack into `refunded`. -/
structure TurnsRefunded (cfg : Config) (orderId : OrderId) (before : Store) (event : Event) (after : Store) :
    Prop where
  reach : Reachable cfg anyStep before
  committed : step cfg before event = .ok after
  turned : ∃ old new, before.orders.find orderId = some old ∧ after.orders.find orderId = some new ∧
    new.orderType = .letterPack ∧ old.status ≠ .refunded ∧ new.status = .refunded

/-- A step that hands letters back is not the one that refunds the pack. -/
theorem TurnsRefunded.quiet {event : Event} (turns : TurnsRefunded cfg orderId s event s') :
    ¬Hands cfg s event orderId := by
  obtain ⟨old, new, before, after, pack, open_, refunded⟩ := turns.turned
  have committed := turns.committed
  rintro (⟨row, ends, -, -⟩ | ⟨order, closes, -⟩)
  · obtain ⟨webhookEvents, refundId, same⟩ := endsCommand_step ends
    rw [same] at committed
    obtain ⟨was, found, kept⟩ := compensatePackRefund_status committed after
    cases before.symm.trans found
    exact open_ (kept.symm.trans refunded)
  · cases event with
    | dispute event =>
      obtain ⟨was, found, kept | disputed⟩ := processDisputeEvent_status committed after
      · cases before.symm.trans found
        exact open_ (kept.symm.trans refunded)
      · rw [disputed] at refunded
        cases refunded
    | _ => cases closes

/-- A pack that has just been refunded in full is reversed. -/
theorem TurnsRefunded.reversed {event : Event} (turns : TurnsRefunded cfg orderId s event s') :
    s'.Regular ∧ ∃ order, Reversed orderId s' order ∧ order.refundedAt.isSome = true := by
  have regular := Reachable.regular turns.reach
  have writes := step_writes regular turns.committed
  obtain ⟨old, new, before, after, pack, open_, refunded⟩ := turns.turned
  obtain ⟨was, found, moved⟩ := Writes.order_kept writes before
  cases after.symm.trans found
  have start : Settled orderId s old :=
    ⟨Reachable.sound turns.reach, before, moved.orderType.symm.trans pack, fun already => absurd already open_⟩
  obtain ⟨order, settled⟩ := invariant_writes (I := fun t => ∃ order, Settled orderId t order) writes
    ⟨old, start⟩ fun _ _ ⟨_, settled⟩ write => settled.write write turns.quiet
  cases after.symm.trans settled.found
  obtain ⟨revoked, dated⟩ := settled.revoked refunded
  exact ⟨Writes.regular writes regular, new, ⟨settled.sound, settled.found, pack, by rw [refunded]; decide,
    by rw [refunded]; decide, revoked⟩, dated⟩

/-- A phase of one of the order's refund commands, or a refund of its charge. -/
def PackRefundPhase (orderId : OrderId) (s : Store) : Event → Prop
  | .refundPackLetters named _ _ => named = orderId
  | .stripeResponse packRefundId _ | .stripeFailure packRefundId _ | .reconcilePackRefund packRefundId _ _ =>
    ∃ row, s.packRefund packRefundId = some row ∧ row.orderId = orderId
  | .refund event => ∃ order, s.orderOfRefund event.metadataOrderId event.paymentIntent = some order ∧
      order.orderId = orderId
  | _ => False

/-- The step hands letters of the order back: it posts credits for it, raises a
counter of the account, or lets the order's lots hold more. -/
def HandsLettersBack (orderId : OrderId) (before after : Store) : Prop :=
  (∃ lot ∈ after.account.creditLedger.rows,
    lot.ledgerId ∉ before.account.creditLedger.rows.map Lot.ledgerId ∧
      lot.sourceReferenceId = some (.order orderId) ∧ 0 < lot.remainingAmount) ∨
  before.account.credits < after.account.credits ∨
  before.account.creditsPurchased < after.account.creditsPurchased ∨
  heldLots orderId before.account.creditLedger < heldLots orderId after.account.creditLedger

/-- An operation that posts empty lots only and raises no counter hands nothing back. -/
theorem not_handsLettersBack {account : Account} {op : AccountEvent}
    (applied : applyAccountEvent s.now s.account op = .ok account) (same : sameBalances s'.account account)
    (empty : ∀ lot ∈ op.posted s.now s.account, lot.remainingAmount = 0)
    (credits : account.credits ≤ s.account.credits)
    (purchased : account.creditsPurchased ≤ s.account.creditsPurchased) : ¬HandsLettersBack orderId s s' := by
  have step : LedgerStep (op.posted s.now s.account) s.account.creditLedger s'.account.creditLedger := by
    have aged := applyAccountEvent_ledger applied
    rw [same]
    exact aged
  rintro (⟨lot, member, fresh, -, some⟩ | more | more | more)
  · rcases step.mem member with ⟨old, inLedger, aged⟩ | ⟨new, inPosted, stored⟩
    · exact fresh (List.mem_map.mpr ⟨old, inLedger, aged.ledgerId.symm⟩)
    · have none := empty new inPosted
      rw [stored] at some
      exact absurd none (Nat.pos_iff_ne_zero.mp some)
  · rw [same] at more
    exact absurd credits (not_le.mpr more)
  · rw [same] at more
    exact absurd purchased (not_le.mpr more)
  · have lots := heldLots_step orderId step
    have nothing : total (fun lot => if pertains orderId lot then lot.remainingAmount else 0)
        (op.posted s.now s.account) = 0 :=
      total_eq_zero fun lot member => by
        split
        · exact empty lot member
        · rfl
    omega

/-- Nor does a step that leaves every balance alone. -/
theorem unmoved_handsNothing (same : sameBalances s'.account s.account) : ¬HandsLettersBack orderId s s' :=
  have blocked : applyAccountEvent s.now s.account (.blockSends s.account.sendsBlockedReason) = .ok s.account := rfl
  not_handsLettersBack blocked same
    (fun _ member => absurd member List.not_mem_nil) le_rfl le_rfl

/-- Nor does a whole-pack reversal. -/
theorem reversal_handsNothing {order : Order} {cause : RevocationCause}
    (same : sameBalances s'.account (revokeWholePack s.now s.account order cause)) :
    ¬HandsLettersBack orderId s s' := by
  have applied : applyAccountEvent s.now s.account (.revokeWholePack order cause) =
      .ok (revokeWholePack s.now s.account order cause) := rfl
  refine not_handsLettersBack applied same ?_ revokeWholePack_credits revokeWholePack_purchased
  intro lot posted
  obtain ⟨entry, -, rfl⟩ := List.mem_map.mp posted
  rfl

/-- The command a phase of the order gives up is the order's. -/
theorem phase_owner {event : Event} {row : PackRefund} (phase : PackRefundPhase orderId s event)
    (ends : EndsCommand cfg s event row) : row.orderId = orderId := by
  cases event with
  | stripeResponse packRefundId outcome =>
    obtain ⟨other, found, named⟩ := phase
    obtain ⟨given, settles, -⟩ := ends
    simp only [settlement, found, Option.map_some, Option.some.injEq, Prod.mk.injEq] at settles
    rw [← settles.1]
    exact named
  | stripeFailure packRefundId terminal =>
    obtain ⟨other, found, named⟩ := phase
    cases found.symm.trans ends.1
    exact named
  | reconcilePackRefund packRefundId seenAttempts refunds =>
    obtain ⟨other, found, named⟩ := phase
    cases found.symm.trans ends.1
    exact named
  | refund event =>
    obtain ⟨order, found, named⟩ := phase
    obtain ⟨given, settles, -⟩ := ends
    simp only [settlement] at settles
    split at settles
    · cases settles
    simp only [Option.bind_eq_some_iff] at settles
    obtain ⟨other, again, command, -, settled⟩ := settles
    cases found.symm.trans again
    split at settled
    · rename_i matched
      cases settled
      simp only [matchesCommand, Bool.and_eq_true, beq_iff_eq] at matched
      exact matched.1.1.1.trans named
    · cases settled
  | refundPackLetters named letters packRefundId =>
    obtain ⟨given, settles, -⟩ := ends
    cases settles
  | _ => cases phase

/-- A phase that gives no command up reverses credits of the order, or none. -/
theorem phase_account {event : Event} (phase : PackRefundPhase orderId s event)
    (committed : step cfg s event = .ok s') (open_ : ∀ row, ¬EndsCommand cfg s event row) :
    s'.account = s.account ∨ (∃ order cause, s'.account = revokeWholePack s.now s.account order cause) ∨
      ∃ order credits packRefundId exhausted,
        revokePackCreditsProportionally s.now s.account order credits packRefundId =
          .ok (s'.account, exhausted) := by
  cases event with
  | refundPackLetters named letters packRefundId =>
    obtain ⟨order, credits, exhausted, revoked⟩ := refundPackLetters_account committed
    exact .inr (.inr ⟨order, credits, packRefundId, exhausted, revoked⟩)
  | stripeResponse packRefundId outcome =>
    refine .inl (finalizeWithStripe_account (fun row found => ?_) committed)
    rw [← Bool.not_eq_true]
    exact fun ends => open_ row ⟨outcome, by simp [settlement, found], ends⟩
  | stripeFailure packRefundId terminal => exact .inl (handleStripeFailure_account open_ committed)
  | reconcilePackRefund packRefundId seenAttempts refunds =>
    exact .inl (reconcilePackRefund_account open_ committed)
  | refund event =>
    rcases processRefundEvent_account open_ committed with same | ⟨order, revoked⟩
    · exact .inl same
    · exact .inr (.inl ⟨order, _, revoked⟩)
  | _ => cases phase

/-- Nothing withholds a compensation of the order's commands: it is not disputed or
held, and the account may send. -/
structure Unheld (s : Store) (orderId : OrderId) : Prop where
  undisputed : ∀ order, s.orders.find orderId = some order → order.status ≠ .disputed ∧ order.status ≠ .held
  unblocked : s.account.sendsBlockedReason = none

theorem compensationWithheld_iff {row : PackRefund} {order : Order}
    (owner : s.orders.find row.orderId = some order) :
    compensationWithheld s row = false ↔ Unheld s row.orderId := by
  have shape : compensationWithheld s row =
      (order.status == .disputed || order.status == .held || s.account.sendsBlockedReason.isSome) := by
    simp [compensationWithheld, owner]
  rw [shape]
  simp only [Bool.or_eq_false_iff, beq_eq_false_iff_ne, Option.isSome_eq_false_iff, Option.isNone_iff_eq_none]
  constructor
  · rintro ⟨status, unblocked⟩
    refine ⟨fun other found => ?_, unblocked⟩
    cases owner.symm.trans found
    exact status
  · exact fun unheld => ⟨unheld.undisputed order owner, unheld.unblocked⟩

/-- A phase hands letters of its order back exactly when it gives a command up and
nothing withholds the compensation. -/
theorem phase_handsLettersBack {event : Event} (sound : Sound s) (phase : PackRefundPhase orderId s event)
    (committed : step cfg s event = .ok s') :
    HandsLettersBack orderId s s' ↔ (∃ row, EndsCommand cfg s event row) ∧ Unheld s orderId := by
  by_cases gives : ∃ row, EndsCommand cfg s event row
  · obtain ⟨row, ends⟩ := gives
    have named := phase_owner phase ends
    have member := endsCommand_member ends
    obtain ⟨order, owner, -⟩ := (sound.command row member).1
    obtain ⟨webhookEvents, refundId, same⟩ := endsCommand_step ends
    rw [same] at committed
    have account := (compensatePackRefund_ok committed).1
    have held := compensationWithheld_iff owner
    rw [named] at held
    cases withheld : compensationWithheld s row with
    | true =>
      have kept : s'.account = s.account := account.trans (if_pos withheld)
      rw [withheld] at held
      exact ⟨fun back => absurd back (unmoved_handsNothing (by rw [kept]; rfl)), fun ⟨_, unheld⟩ => absurd (held.mpr unheld) (by decide)⟩
    | false =>
      have raised : s'.account = compensateAccount s.now s.account row :=
        account.trans (if_neg (by rw [show compensationWithheld { s with webhookEvents } row = false from withheld]; decide))
      refine ⟨fun _ => ⟨⟨row, ends⟩, held.mp withheld⟩, fun _ => .inr (.inl ?_)⟩
      rw [raised]
      have some := (sound.command row member).2.1
      have restored := sound.restored member
      show s.account.credits < s.account.credits + restoredCredits s.account row.packRefundId
      omega
  · have open_ : ∀ row, ¬EndsCommand cfg s event row := not_exists.mp gives
    refine ⟨fun back => absurd back ?_, fun ⟨given, _⟩ => absurd given gives⟩
    rcases phase_account phase committed open_ with same | ⟨order, cause, revoked⟩ |
      ⟨order, credits, packRefundId, exhausted, revoked⟩
    · exact unmoved_handsNothing (by rw [same]; rfl)
    · exact reversal_handsNothing (by rw [revoked]; rfl)
    · obtain ⟨-, -, shape⟩ := revokePackCreditsProportionally_ok revoked
      have applied : applyAccountEvent s.now s.account (.revokeProportionally order credits packRefundId) =
          .ok s'.account := by
        simp [applyAccountEvent, revoked, Except.map]
      refine not_handsLettersBack applied rfl ?_ ?_ ?_
      · intro lot posted
        obtain ⟨take, -, rfl⟩ := List.mem_map.mp posted
        rfl
      · rw [shape]
        exact Nat.sub_le _ _
      · rw [shape]
        exact Nat.sub_le _ _

/-- After a full refund no run that hands nothing back leaves the pack a credit, and
a phase hands letters back exactly when it gives up a command that still held its
letters and nothing withholds the compensation. -/
theorem refunded_pack_phases {before start : Store} {event : Event}
    (turns : TurnsRefunded cfg orderId before event start) :
    (∀ later, Reach (step cfg) (fun s event => ¬Hands cfg s event orderId) start later →
      heldLots orderId later.account.creditLedger = 0) ∧
    ∀ later event after, Reach (step cfg) anyStep start later → PackRefundPhase orderId later event →
      step cfg later event = .ok after →
      (HandsLettersBack orderId later after ↔
        (∃ row, EndsCommand cfg later event row) ∧ Unheld later orderId) := by
  obtain ⟨regular, order, gone, -⟩ := turns.reversed
  constructor
  · intro later run
    obtain ⟨final, still⟩ := gone.run regular run fun _ _ quiet => quiet
    exact still.empty
  · intro later event after run phase committed
    have reach : Reachable cfg anyStep later := (turns.reach.next trivial turns.committed).trans run
    exact phase_handsLettersBack (Reachable.sound reach) phase committed

/-- The test of a step that refunds order 0. -/
def turnsRefunded (before after : Store) : Bool :=
  (before.orders.find (.placed 0)).any (fun order => order.status != .refunded) &&
    (after.orders.find (.placed 0)).any fun order =>
      order.orderType == .letterPack && order.status == .refunded

theorem turnsRefunded_sound {before after : Store} {event : Event} (reach : Reachable {} anyStep before)
    (committed : step {} before event = .ok after) (turned : turnsRefunded before after = true) :
    TurnsRefunded {} (.placed 0) before event after := by
  simp only [turnsRefunded, Bool.and_eq_true, Option.any_eq_true, bne_iff_ne, beq_iff_eq] at turned
  obtain ⟨⟨old, found, open_⟩, new, here, pack, refunded⟩ := turned
  exact ⟨reach, committed, old, new, found, here, pack, open_, refunded⟩

theorem refunded_pack_phases_refunded :
    ∃ before start : Store, ∃ event : Event, TurnsRefunded {} (.placed 0) before event start ∧
      (∀ later, Reach (step {}) (fun s event => ¬Hands {} s event (.placed 0)) start later →
        heldLots (.placed 0) later.account.creditLedger = 0) ∧
      ∀ later event after, Reach (step {}) anyStep start later → PackRefundPhase (.placed 0) later event →
        step {} later event = .ok after →
        (HandsLettersBack (.placed 0) later after ↔
          (∃ row, EndsCommand {} later event row) ∧ Unheld later (.placed 0)) := by
  obtain ⟨before, start, reach, committed, turned⟩ := exists_step (step {}) {} turnsRefunded withdrawnPack
    (.refund (refundSucceeded 2 90 1000 none)) (by decide)
  have turns := turnsRefunded_sound reach committed turned
  exact ⟨before, start, _, turns, refunded_pack_phases turns⟩

/-- The whole payment is refunded from the dashboard before the command's own call,
which Stripe then refuses for good: its letters go back to the refunded pack. -/
theorem refunded_pack_compensated :
    ∃ before start after : Store, ∃ event : Event, TurnsRefunded {} (.placed 0) before event start ∧
      PackRefundPhase (.placed 0) start (.stripeFailure 0 true) ∧
      step {} start (.stripeFailure 0 true) = .ok after ∧ HandsLettersBack (.placed 0) start after := by
  obtain ⟨before, start, reach, committed, turned⟩ := exists_step (step {}) {}
    (fun before start => turnsRefunded before start &&
      ((start.packRefund 0).any fun row => row.orderId == .placed 0) &&
        match step {} start (.stripeFailure 0 true) with
        | .ok after => start.account.credits < after.account.credits
        | .error _ => false)
    withdrawnPack (.refund (refundSucceeded 2 90 1000 none)) (by decide)
  simp only [Bool.and_eq_true, Option.any_eq_true, beq_iff_eq] at turned
  obtain ⟨⟨turned, row, found, named⟩, raised⟩ := turned
  cases result : step {} start (.stripeFailure 0 true) with
  | error reason => simp [result] at raised
  | ok after =>
    have more : start.account.credits < after.account.credits := by simpa [result] using raised
    exact ⟨before, start, after, _, turnsRefunded_sound reach committed turned, ⟨row, found, named⟩, result,
      .inr (.inl more)⟩

end LetterIRL.Pack
