import LetterIRL.Commerce.Settlements
import LetterIRL.Pack.Within

namespace LetterIRL.Pack
open Lib Ledger Commerce Relation
variable {cfg : Config} {hands : Beneficiary → Prop} {s s' : Store}

/-! The refund counters of a pack stay inside its own figures, and where an event
aborts on their CHECKs. -/

/-- The event settles a command still in flight as succeeded, and its order's
whole amount already went back. -/
structure SettlesReversedOrder (s : Store) (event : Event) (row : PackRefund) (outcome : StripeRefundOutcome)
    (order : Order) : Prop where
  settles : settlement s event = some (row, outcome)
  succeeded : outcome.status = .succeeded
  inFlight : row.inFlight = true
  answered : row.answeredBy outcome.id
  unique : ∀ other ∈ s.packRefunds.rows, other.packRefundId ≠ row.packRefundId →
    other.stripeRefundId ≠ some outcome.id
  owner : s.orders.find row.orderId = some order
  reversed : order.amountRefundedCents = order.amountCents

/-- Phase 1 always fits: what it takes is still held, and what is held fits. -/
theorem not_overWithdraws (sound : Sound s) (within : Within s) {orderId : OrderId} {letters : Nat} :
    ¬OverWithdraws s orderId letters := by
  rintro ⟨order, found, pack, fulfilled, enough, exceeds⟩
  have member := Table.find_mem found
  have live : total Lot.remainingAmount (liveLots s.now (packLot order) s.account.creditLedger) ≤
      heldLots order.orderId s.account.creditLedger := by
    rw [total_liveLots]
    refine total_le fun lot inLedger => ?_
    split
    · rename_i mine
      simp only [Bool.and_eq_true] at mine
      rw [sound.packLot_pertains member lot inLedger mine.1]
      exact le_rfl
    · exact Nat.zero_le _
  have law := within.holds order member pack fulfilled
  unfold held at law
  omega

/-- A success that does not fit its order is one for an order that went back whole. -/
theorem overRefunds_iff (checks : s.Checked) (sound : Sound s) (within : Within s) {row : PackRefund}
    {outcome : StripeRefundOutcome} (member : row ∈ s.packRefunds.rows) :
    OverRefunds s row outcome ↔ outcome.status = .succeeded ∧ row.inFlight = true ∧
      row.answeredBy outcome.id ∧
      (∀ other ∈ s.packRefunds.rows, other.packRefundId ≠ row.packRefundId →
        other.stripeRefundId ≠ some outcome.id) ∧
      ∃ order, s.orders.find row.orderId = some order ∧ order.amountRefundedCents = order.amountCents := by
  constructor
  · rintro ⟨succeeded, inFlight, answered, unique, order, owner, unfit⟩
    refine ⟨succeeded, inFlight, answered, unique, order, owner, ?_⟩
    have named : row.orderId = order.orderId := (Table.find_key owner).symm
    rcases within.money row member inFlight order (Table.find_mem owner) named with room | whole
    · have fits : (confirmedOrder order row).checks = true :=
        Order.checks_iff.mpr ⟨(Order.checks_iff.mp (checks order (Table.find_mem owner))).1, room⟩
      rw [fits] at unfit
      cases unfit
    · exact whole
  · rintro ⟨succeeded, inFlight, answered, unique, order, owner, whole⟩
    refine ⟨succeeded, inFlight, answered, unique, order, owner, ?_⟩
    have worth := (sound.command row member).2.2
    rw [← Bool.not_eq_true, Order.checks_iff]
    rintro ⟨-, below⟩
    have sum : order.amountRefundedCents + row.amountCents ≤ order.amountCents := below
    rw [whole] at sum
    exact absurd sum (by exact Nat.not_le.mpr (Nat.lt_add_of_pos_right worth))

/-- In every reachable state the counters of every pack are inside its figures, and
a transaction aborts on their CHECKs exactly when it settles as succeeded a
command still in flight of an order whose whole amount already went back. -/
theorem refund_counters_fit (reach : Reachable cfg anyStep s) :
    (∀ order ∈ s.orders.rows, order.orderType = .letterPack →
      order.amountRefundedCents ≤ order.amountCents ∧ order.creditsRefunded ≤ order.credits) ∧
    ∀ event, step cfg s event = .error .ordersCheck ↔
      ∃ row outcome order, SettlesReversedOrder s event row outcome order := by
  have regular := Reachable.regular reach
  have checks := regular.checked
  have sound := Reachable.sound reach
  have within := Reachable.within reach
  constructor
  · intro order member pack
    obtain ⟨credits, amount⟩ := Order.checks_iff.mp (checks order member)
    refine ⟨amount, credits.resolve_left ?_⟩
    rw [pack]
    decide
  · intro event
    constructor
    · intro aborted
      have commits : Commits cfg (HandsBack cfg s event) (Blocks s event) s (step cfg s event) :=
        step_commits regular (fun _ handed => handed) (fun _ returned => returned) fun reverses _ => reverses
      rw [aborted] at commits
      rcases commits rfl with ⟨row, outcome, settles, exceeds⟩ | ⟨orderId, letters, packRefundId, -, exceeds⟩
      · obtain ⟨succeeded, inFlight, answered, unique, order, owner, reversed⟩ :=
          (overRefunds_iff checks sound within (settlement_member settles)).mp exceeds
        exact ⟨row, outcome, order, settles, succeeded, inFlight, answered, unique, owner, reversed⟩
      · exact absurd exceeds (not_overWithdraws sound within)
    · rintro ⟨row, outcome, order, settles⟩
      have exceeds := (overRefunds_iff checks sound within (settlement_member settles.settles)).mpr
        ⟨settles.succeeded, settles.inFlight, settles.answered, settles.unique, order, settles.owner,
          settles.reversed⟩
      obtain ⟨webhookEvents, same⟩ := step_settlement cfg settles.settles
      rw [same]
      exact settlePackRefund_over (s := { s with webhookEvents })
        ⟨exceeds.succeeded, exceeds.inFlight, exceeds.answered, exceeds.unique, exceeds.exceeds⟩

/-- The counters do fit after a withdrawal that succeeded, and they are not all zero. -/
theorem refund_counters_fit_withdrawn :
    ∃ s : Store, (s.orders.rows.map fun order => (order.amountRefundedCents, order.creditsRefunded)) = [(200, 2)] ∧
      (∀ order ∈ s.orders.rows, order.orderType = .letterPack →
        order.amountRefundedCents ≤ order.amountCents ∧ order.creditsRefunded ≤ order.credits) ∧
      ∀ event, step {} s event = .error .ordersCheck ↔
        ∃ row outcome order, SettlesReversedOrder s event row outcome order := by
  obtain ⟨s, reach, counters⟩ := exists_reach (step {}) {}
    (fun s => (s.orders.rows.map fun order => (order.amountRefundedCents, order.creditsRefunded)) == [(200, 2)])
    (withdrawnPack ++ [.refund (refundSucceeded 2 90 200 (some 0))]) (by decide)
  exact ⟨s, by simpa using counters, refund_counters_fit reach⟩

/-- The rest of the payment is refunded from the dashboard while the command is in
flight, and then the command's own refund succeeds: its event aborts. -/
theorem command_refund_aborts :
    ∃ s : Store, Reachable {} anyStep s ∧
      step {} s (.refund (refundSucceeded 3 91 200 (some 0))) = .error .ordersCheck := by
  obtain ⟨s, reach, aborts⟩ := exists_reach (step {}) {}
    (fun s => refuses (· == .ordersCheck) (step {} s (.refund (refundSucceeded 3 91 200 (some 0)))))
    (withdrawnPack ++ [.refund (refundSucceeded 2 90 800 none)]) (by decide)
  obtain ⟨reason, result, same⟩ := refuses_iff.mp aborts
  rw [beq_iff_eq] at same
  exact ⟨s, reach, same ▸ result⟩

end LetterIRL.Pack
