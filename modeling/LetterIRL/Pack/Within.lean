import LetterIRL.Pack.Sound

namespace LetterIRL.Pack
open Lib Ledger Commerce Relation
variable {cfg : Config} {hands : Beneficiary → Prop} {s s' : Store}

/-! The refund counters of an order against its refund commands. -/

/-- What the commands of an order withdrew and did not put back. -/
def withdrawnWeight (orderId : OrderId) (row : PackRefund) : Nat :=
  if row.orderId = orderId ∧ row.status ≠ .compensated then row.credits else 0

def withdrawnCredits (orderId : OrderId) (refunds : Table PackRefund.packRefundId) : Nat :=
  total (withdrawnWeight orderId) refunds.rows

/-- What is confirmed and what the command has on its way fit the order, unless all
of it went back already. -/
def fits (order : Order) (row : PackRefund) : Prop :=
  order.amountRefundedCents + row.amountCents ≤ order.amountCents ∨
    order.amountRefundedCents = order.amountCents

structure Within (s : Store) : Prop where
  /-- At most one command of an order holds money or letters. -/
  oneInUse : ∀ first ∈ s.packRefunds.rows, ∀ second ∈ s.packRefunds.rows,
    first.orderId = second.orderId → first.inUse = true → second.inUse = true →
      first.packRefundId = second.packRefundId
  money : ∀ row ∈ s.packRefunds.rows, row.inFlight = true →
    ∀ order ∈ s.orders.rows, row.orderId = order.orderId → fits order row
  /-- The counter of refunded credits is what the commands withdrew. -/
  withdrawn : ∀ order ∈ s.orders.rows, order.creditsRefunded = withdrawnCredits order.orderId s.packRefunds
  /-- What a fulfilled pack still holds and what was withdrawn fit its credits. -/
  holds : ∀ order ∈ s.orders.rows, order.orderType = .letterPack → order.status = .fulfilled →
    held order.orderId s.account + order.creditsRefunded ≤ order.credits

theorem mem_put_stamped {new order : Order} {now : Time} (member : order ∈ (s.orders.put (new.stamped now)).rows) :
    (order ∈ s.orders.rows ∧ order.orderId ≠ new.orderId) ∨ order = new.stamped now := by
  rcases Table.mem_put.mp member with ⟨old, differ⟩ | ⟨same, -⟩
  · exact .inl ⟨old, differ⟩
  · exact .inr same

theorem Within.oneInUse_write (within : Within s) (sound : Sound s) (write : Write cfg hands s s') :
    ∀ first ∈ s'.packRefunds.rows, ∀ second ∈ s'.packRefunds.rows, first.orderId = second.orderId →
      first.inUse = true → second.inUse = true → first.packRefundId = second.packRefundId := by
  rcases sound.refunds_effect write with same | ⟨old, new, found, order, -, -, inUse, put⟩ |
    ⟨row, -, -, -, -, -, free, fresh, insert⟩
  · rw [same]
    exact within.oneInUse
  · -- Each row in use stands for one that was in use before.
    have before : ∀ row ∈ s'.packRefunds.rows, row.inUse = true → ∃ earlier ∈ s.packRefunds.rows,
        earlier.packRefundId = row.packRefundId ∧ earlier.orderId = row.orderId ∧ earlier.inUse = true := by
      intro row member using_
      rw [put] at member
      rcases Table.mem_put.mp member with ⟨kept, -⟩ | ⟨rfl, -⟩
      · exact ⟨row, kept, rfl, rfl, using_⟩
      · exact ⟨old, Table.find_mem found, Table.find_key found, order.symm, inUse using_⟩
    intro first inFirst second inSecond sameOrder firstUse secondUse
    obtain ⟨one, oneRows, oneKey, oneOrder, oneUse⟩ := before first inFirst firstUse
    obtain ⟨two, twoRows, twoKey, twoOrder, twoUse⟩ := before second inSecond secondUse
    rw [← oneKey, ← twoKey]
    exact within.oneInUse one oneRows two twoRows (oneOrder.trans (sameOrder.trans twoOrder.symm)) oneUse twoUse
  · rw [insert]
    intro first inFirst second inSecond sameOrder firstUse secondUse
    rw [Table.insert_rows, List.mem_append, List.mem_singleton] at inFirst inSecond
    rcases inFirst with inFirst | rfl
    · rcases inSecond with inSecond | rfl
      · exact within.oneInUse first inFirst second inSecond sameOrder firstUse secondUse
      · rw [free first inFirst sameOrder] at firstUse
        cases firstUse
    · rcases inSecond with inSecond | rfl
      · rw [free second inSecond sameOrder.symm] at secondUse
        cases secondUse
      · rfl

theorem fits_advances {old new : Order} (moved : old.Advances new) {row : PackRefund} (law : fits old row) :
    fits new row := by
  unfold fits
  rw [moved.amountRefundedCents, moved.amountCents]
  exact law

theorem Within.money_put (within : Within s) {old new : Order} (found : s.orders.find new.orderId = some old)
    {row : PackRefund} (member : row ∈ s.packRefunds.rows) (inFlight : row.inFlight = true)
    (same : row.orderId = new.orderId → fits old row → fits new row) {order : Order}
    (inRows : order ∈ (s.orders.put (new.stamped s.now)).rows) (mine : row.orderId = order.orderId) :
    fits order row := by
  rcases mem_put_stamped inRows with ⟨kept, -⟩ | rfl
  · exact within.money row member inFlight order kept mine
  · exact same mine (within.money row member inFlight old (Table.find_mem found)
      (mine.trans (Table.find_key found).symm))

/-- While a command of the order is in use, no other of its commands is in flight. -/
theorem Within.alone (within : Within s) {row other : PackRefund} (inRows : row ∈ s.packRefunds.rows)
    (inUse : row.inUse = true) (member : other ∈ s.packRefunds.rows) (inFlight : other.inFlight = true)
    (sameOrder : other.orderId = row.orderId) : other.packRefundId = row.packRefundId :=
  within.oneInUse other member row inRows sameOrder (inUse_of_inFlight inFlight) inUse

theorem Within.money_write (within : Within s) (sound : Sound s) (write : Write cfg hands s s') :
    ∀ row ∈ s'.packRefunds.rows, row.inFlight = true →
      ∀ order ∈ s'.orders.rows, row.orderId = order.orderId → fits order row := by
  cases write with
  | @openOrder opened shape checked fresh =>
    intro row member inFlight order inRows mine
    rcases List.mem_append.mp inRows with kept | new
    · exact within.money row member inFlight order kept mine
    · obtain ⟨before, found, -⟩ := (sound.command row member).1
      rw [List.mem_singleton.mp new] at mine
      exact absurd (List.mem_map.mpr ⟨before, Table.find_mem found, (Table.find_key found).trans mine⟩) fresh
  | moveOrder found moved checked =>
    intro row member inFlight order inRows mine
    exact within.money_put found member inFlight (fun _ => fits_advances moved.toAdvances) inRows mine
  | refundOrder found moved credits status whole dated emptied checked =>
    intro row member inFlight order inRows mine
    exact within.money_put found member inFlight (fun _ _ => .inr whole) inRows mine
  | fulfilPack found pack unfunded moved status attached granted checked =>
    intro row member inFlight order inRows mine
    exact within.money_put found member inFlight (fun _ => fits_advances moved) inRows mine
  | mailOrder found jit unfunded moved status checked =>
    intro row member inFlight order inRows mine
    exact within.money_put found member inFlight (fun _ => fits_advances moved) inRows mine
  | @withdraw order row after exhausted found pack fulfilled named credits amount state free below fresh =>
    intro other member inFlight order' inRows mine
    rcases mem_put_stamped inRows with ⟨kept, differ⟩ | rfl
    · rw [Table.insert_rows, List.mem_append, List.mem_singleton] at member
      rcases member with old | rfl
      · exact within.money other old inFlight order' kept mine
      · exact absurd (mine.symm.trans named) differ
    · rw [Table.insert_rows, List.mem_append, List.mem_singleton] at member
      rcases member with old | rfl
      · -- The order had no command in use, so none of its commands is in flight.
        have idle := free other old mine
        rw [inUse_of_inFlight inFlight] at idle
        cases idle
      · exact .inl below.le
  | @await old new found waits =>
    intro row member inFlight order inRows mine
    rcases Table.mem_put.mp member with ⟨kept, -⟩ | ⟨rfl, -⟩
    · exact within.money row kept inFlight order inRows mine
    · have flying : old.inFlight = true := by
        rcases waits.status with ⟨before, -⟩ | ⟨-, failed⟩
        · exact before
        · simp [PackRefund.inFlight, failed] at inFlight
      have law := within.money old (Table.find_mem found) flying order inRows (waits.orderId.symm.trans mine)
      unfold fits at law ⊢
      rw [waits.amountCents]
      exact law
  | orphan found missing =>
    obtain ⟨order, owner, -⟩ := (sound.command _ (Table.find_mem found)).1
    rw [missing] at owner
    cases owner
  | @confirm row order refundId found flying owner checked =>
    intro other member inFlight order' inRows mine
    rcases Table.mem_put.mp member with ⟨kept, differ⟩ | ⟨rfl, -⟩
    · rcases mem_put_stamped inRows with ⟨still, -⟩ | rfl
      · exact within.money other kept inFlight order' still mine
      · have named : order.orderId = row.orderId := Table.find_key owner
        exact absurd (within.alone (Table.find_mem found) (inUse_of_inFlight flying) kept inFlight
          (mine.trans named)) differ
    · simp [PackRefund.inFlight] at inFlight
  | @compensate row ended order found inUse owner unheld restores handed same checked =>
    intro other member inFlight order' inRows mine
    rcases Table.mem_put.mp member with ⟨kept, differ⟩ | ⟨rfl, -⟩
    · rcases mem_put_stamped inRows with ⟨still, -⟩ | rfl
      · exact within.money other kept inFlight order' still mine
      · have key : ended.packRefundId = row.packRefundId := by rw [same]
        have named : order.orderId = row.orderId := Table.find_key owner
        exact absurd ((within.alone (Table.find_mem found) inUse kept inFlight
          (mine.trans named)).trans key.symm) differ
    · rw [same] at inFlight
      simp [PackRefund.inFlight] at inFlight
  | compensateNothing found inUse owned restores handed same =>
    have some := (sound.command _ (Table.find_mem found)).2.1
    rw [sound.restored (Table.find_mem found)] at restores
    omega
  | _ => exact within.money

/-! The counter of refunded credits. -/

theorem withdrawnCredits_put {refunds : Table PackRefund.packRefundId} {old : PackRefund} (new : PackRefund)
    (orderId : OrderId) (found : refunds.find new.packRefundId = some old) :
    withdrawnCredits orderId (refunds.put new) + withdrawnWeight orderId old =
      withdrawnCredits orderId refunds + withdrawnWeight orderId new :=
  Table.total_put (withdrawnWeight orderId) found

theorem Within.withdrawn_put (within : Within s) {old new : Order}
    (found : s.orders.find new.orderId = some old) (same : new.orderId = old.orderId)
    (credits : new.creditsRefunded = old.creditsRefunded) {order : Order}
    (member : order ∈ (s.orders.put (new.stamped s.now)).rows) :
    order.creditsRefunded = withdrawnCredits order.orderId s.packRefunds := by
  rcases mem_put_stamped member with ⟨kept, -⟩ | rfl
  · exact within.withdrawn order kept
  · show new.creditsRefunded = withdrawnCredits new.orderId s.packRefunds
    rw [credits, same]
    exact within.withdrawn old (Table.find_mem found)

/-- A command's own share of what its order has withdrawn. -/
theorem withdrawnWeight_le {row : PackRefund} (member : row ∈ s.packRefunds.rows)
    (live : row.status ≠ .compensated) : row.credits ≤ withdrawnCredits row.orderId s.packRefunds := by
  have own : withdrawnWeight row.orderId row = row.credits := by simp [withdrawnWeight, live]
  rw [← own]
  exact le_total member

theorem status_of_inUse {row : PackRefund} (inUse : row.inUse = true) : row.status ≠ .compensated := by
  intro compensated
  simp [PackRefund.inUse, compensated] at inUse

theorem Within.withdrawn_write (within : Within s) (sound : Sound s) (write : Write cfg hands s s') :
    ∀ order ∈ s'.orders.rows, order.creditsRefunded = withdrawnCredits order.orderId s'.packRefunds := by
  cases write with
  | @openOrder opened shape checked fresh =>
    intro order member
    rcases List.mem_append.mp member with kept | new
    · exact within.withdrawn order kept
    · rw [List.mem_singleton.mp new, shape.creditsRefunded]
      refine (total_eq_zero fun row inRows => ?_).symm
      unfold withdrawnWeight
      rw [if_neg]
      rintro ⟨mine, -⟩
      obtain ⟨before, found, -⟩ := (sound.command row inRows).1
      exact fresh (List.mem_map.mpr ⟨before, Table.find_mem found, (Table.find_key found).trans mine⟩)
  | moveOrder found moved checked =>
    exact fun order member => within.withdrawn_put found moved.orderId moved.creditsRefunded member
  | refundOrder found moved credits status whole dated emptied checked =>
    exact fun order member => within.withdrawn_put found moved.orderId credits member
  | fulfilPack found pack unfunded moved status attached granted checked =>
    exact fun order member => within.withdrawn_put found moved.orderId moved.creditsRefunded member
  | mailOrder found jit unfunded moved status checked =>
    exact fun order member => within.withdrawn_put found moved.orderId moved.creditsRefunded member
  | @withdraw order row after exhausted found pack fulfilled named credits amount state free below fresh =>
    intro order' member
    have inserted : ∀ orderId, withdrawnCredits orderId (s.packRefunds.insert row fresh) =
        withdrawnCredits orderId s.packRefunds + withdrawnWeight orderId row := by
      intro orderId
      unfold withdrawnCredits
      rw [Table.insert_rows, total_append, total_cons, total_nil, Nat.add_zero]
    rw [inserted]
    rcases mem_put_stamped member with ⟨kept, differ⟩ | rfl
    · have other : withdrawnWeight order'.orderId row = 0 := by
        have ne : row.orderId ≠ order'.orderId := fun mine => differ (mine.symm.trans named)
        simp [withdrawnWeight, ne]
      rw [other, Nat.add_zero]
      exact within.withdrawn order' kept
    · have own : withdrawnWeight order.orderId row = row.credits := by
        simp [withdrawnWeight, named, state]
      show order.creditsRefunded + row.credits =
        withdrawnCredits order.orderId s.packRefunds + withdrawnWeight order.orderId row
      rw [own, within.withdrawn order (Table.find_mem found)]
  | @await old new found waits =>
    intro order member
    have law := withdrawnCredits_put new order.orderId found
    have same : withdrawnWeight order.orderId new = withdrawnWeight order.orderId old := by
      have before : old.status ≠ .compensated := by
        rcases waits.status with ⟨flying, -⟩ | ⟨inUse, -⟩
        · exact status_of_inUse (inUse_of_inFlight flying)
        · exact status_of_inUse inUse
      have after : new.status ≠ .compensated := by
        rcases waits.status with ⟨-, flying⟩ | ⟨-, failed⟩
        · exact status_of_inUse (inUse_of_inFlight flying)
        · rw [failed]
          decide
      simp [withdrawnWeight, waits.orderId, waits.credits, before, after]
    have kept := within.withdrawn order member
    show _ = withdrawnCredits order.orderId (s.packRefunds.put new)
    omega
  | orphan found missing =>
    obtain ⟨order, owner, -⟩ := (sound.command _ (Table.find_mem found)).1
    rw [missing] at owner
    cases owner
  | @confirm row order refundId found flying owner checked =>
    intro order' member
    have law := withdrawnCredits_put { row with status := .succeeded, stripeRefundId := some refundId }
      order'.orderId found
    have same : withdrawnWeight order'.orderId
        { row with status := .succeeded, stripeRefundId := some refundId } =
        withdrawnWeight order'.orderId row := by
      simp [withdrawnWeight, status_of_inUse (inUse_of_inFlight flying)]
    have here : s.orders.find (confirmedOrder order row).orderId = some order := by
      rw [confirmedOrder_moves.orderId, Table.find_key owner]
      exact owner
    have kept := within.withdrawn_put here confirmedOrder_moves.orderId rfl member
    show _ = withdrawnCredits order'.orderId (s.packRefunds.put _)
    omega
  | @compensate row ended order found inUse owner unheld restores handed same checked =>
    intro order' member
    have key : ended.packRefundId = row.packRefundId := by rw [same]
    have law := withdrawnCredits_put ended order'.orderId (by rw [key]; exact found)
    have gone : ∀ orderId, withdrawnWeight orderId ended = 0 := by
      intro orderId
      rw [same]
      simp [withdrawnWeight]
    have inRows := Table.find_mem found
    show _ = withdrawnCredits order'.orderId (s.packRefunds.put ended)
    rcases mem_put_stamped member with ⟨kept, differ⟩ | rfl
    · have other : withdrawnWeight order'.orderId row = 0 := by
        have ne : row.orderId ≠ order'.orderId := fun mine => differ (by
          rw [uncreditedOrder_moves.orderId, Table.find_key owner]
          exact mine.symm)
        simp [withdrawnWeight, ne]
      have before := within.withdrawn order' kept
      rw [gone] at law
      omega
    · have mine : order.orderId = row.orderId := Table.find_key owner
      have own : withdrawnWeight row.orderId row = row.credits := by
        simp [withdrawnWeight, status_of_inUse inUse]
      have before := within.withdrawn order (Table.find_mem owner)
      have share := withdrawnWeight_le inRows (status_of_inUse inUse)
      have restored := sound.restored inRows
      show order.creditsRefunded - restoredCredits s.account row.packRefundId =
        withdrawnCredits order.orderId (s.packRefunds.put ended)
      have named : ((uncreditedOrder order row (restoredCredits s.account row.packRefundId)).stamped
          s.now).orderId = order.orderId := rfl
      rw [named, gone, mine, own] at law
      rw [mine] at before ⊢
      omega
  | compensateNothing found inUse owned restores handed same =>
    have some := (sound.command _ (Table.find_mem found)).2.1
    rw [sound.restored (Table.find_mem found)] at restores
    omega
  | _ => exact within.withdrawn

/-! What a fulfilled pack still holds. -/

/-- An order no pack was funded for holds nothing. -/
theorem Sound.held_unfunded (sound : Sound s) {orderId : OrderId} (unfunded : ¬fundedPack s orderId) :
    held orderId s.account = 0 := by
  have lots : heldLots orderId s.account.creditLedger = 0 := by
    refine total_eq_zero fun lot member => ?_
    split
    · rename_i named
      by_cases refund : lot.sourceType = .refund
      · exact sound.ledger.emptied lot member (.inr refund)
      · exact absurd (sound.lotOrder lot member refund orderId (by simpa [pertains] using named)) unfunded
    · rfl
  have spent : spentCredits orderId s.account = 0 := by
    refine total_eq_zero fun c member => ?_
    obtain ⟨lot, found, source⟩ := sound.ledger.consumed c member
    unfold outstanding
    split
    · rename_i out
      simp only [Bool.and_eq_true, drawsOn, found, Option.any_some, pertains, beq_iff_eq] at out
      exact absurd (sound.lotOrder lot (Table.find_mem found) source orderId out.2) unfunded
    · rfl
  unfold held
  omega

theorem Sound.withdrawn_unfunded (sound : Sound s) {orderId : OrderId} (unfunded : ¬fundedPack s orderId) :
    withdrawnCredits orderId s.packRefunds = 0 := by
  refine total_eq_zero fun row member => ?_
  unfold withdrawnWeight
  split
  · rename_i mine
    have funded := (sound.command row member).1
    rw [mine.1] at funded
    exact absurd funded unfunded
  · rfl

theorem gained_loose {account : Account} {orderId : OrderId} {event : AccountEvent}
    (loose : event.loose = true) : gained account orderId event = 0 := by
  cases event with
  | addCredits params => cases loose
  | compensatePackRefund row => cases loose
  | compensateDisputedPacks order disputeId => cases loose
  | _ => rfl

/-- A fulfilled order after an update of one order: another one, or the one updated. -/
theorem holds_put {new order : Order} {account : Account} (within : Within s)
    (member : order ∈ (s.orders.put (new.stamped s.now)).rows) (pack : order.orderType = .letterPack)
    (fulfilled : order.status = .fulfilled)
    (others : ∀ other ∈ s.orders.rows, other.orderId ≠ new.orderId →
      held other.orderId account ≤ held other.orderId s.account)
    (mine : new.orderType = .letterPack → new.status = .fulfilled →
      held new.orderId account + new.creditsRefunded ≤ new.credits) :
    held order.orderId account + order.creditsRefunded ≤ order.credits := by
  rcases mem_put_stamped member with ⟨kept, differ⟩ | rfl
  · exact (Nat.add_le_add_right (others order kept differ) _).trans (within.holds order kept pack fulfilled)
  · exact mine pack fulfilled

theorem Within.holds_write (within : Within s) (sound : Sound s) (write : Write cfg hands s s') :
    ∀ order ∈ s'.orders.rows, order.orderType = .letterPack → order.status = .fulfilled →
      held order.orderId s'.account + order.creditsRefunded ≤ order.credits := by
  have moves : ∀ {old new : Order}, s.orders.find new.orderId = some old → old.Advances new →
      (new.orderType = .letterPack → new.status = .fulfilled → old.status = .fulfilled) →
      new.orderType = .letterPack → new.status = .fulfilled →
      held new.orderId s.account + new.creditsRefunded ≤ new.credits := by
    intro old new found moved still pack fulfilled
    have law := within.holds old (Table.find_mem found) (moved.orderType.symm.trans pack) (still pack fulfilled)
    rw [moved.orderId, moved.creditsRefunded, moved.credits]
    exact law
  have unmoved : ∀ account : Account,
      (∀ order ∈ s.orders.rows, order.orderType = .letterPack → order.status = .fulfilled →
        held order.orderId account ≤ held order.orderId s.account) →
      ∀ order ∈ s.orders.rows, order.orderType = .letterPack → order.status = .fulfilled →
        held order.orderId account + order.creditsRefunded ≤ order.credits :=
    fun account falls order member pack fulfilled =>
      (Nat.add_le_add_right (falls order member pack fulfilled) _).trans (within.holds order member pack fulfilled)
  cases write with
  | account event loose returned whole applied =>
    refine unmoved _ fun order member pack fulfilled => ?_
    have step := held_step order.orderId sound.ledger applied
    rw [gained_loose loose] at step
    exact step
  | @restore order current disputeId found pack disputed handed =>
    refine unmoved _ fun order' member pack' fulfilled => ?_
    have applied : applyAccountEvent s.now s.account (.compensateDisputedPacks order disputeId) =
        .ok (compensateDisputedPacks s.now s.account order disputeId) := rfl
    have step := held_step order'.orderId sound.ledger applied
    have none : gained s.account order'.orderId (.compensateDisputedPacks order disputeId) = 0 := by
      have differ : order.orderId ≠ order'.orderId := by
        intro same
        rw [same] at found
        cases (Table.find_of_mem member).symm.trans found
        rw [disputed] at fulfilled
        cases fulfilled
      simp [gained, differ]
    rw [none] at step
    exact step
  | openOrder opened checked fresh =>
    intro order member pack fulfilled
    rcases List.mem_append.mp member with old | new
    · exact within.holds order old pack fulfilled
    · rw [List.mem_singleton.mp new, opened.status] at fulfilled
      cases fulfilled
  | moveOrder found moved checked =>
    intro order member pack fulfilled
    exact holds_put within member pack fulfilled (fun _ _ _ => le_rfl)
      (moves found moved.toAdvances moved.ungranted)
  | refundOrder found moved credits status whole dated emptied checked =>
    intro order member pack fulfilled
    exact holds_put within member pack fulfilled (fun _ _ _ => le_rfl)
      (fun _ final => by rw [status] at final; cases final)
  | @fulfilPack old new session after found oldPack unfunded moved status attached granted checked =>
    intro order member pack fulfilled
    have applied : applyAccountEvent s.now s.account (.addCredits (packGrant new session)) = .ok after := granted
    have step := fun orderId => held_step orderId sound.ledger applied
    refine holds_put within member pack fulfilled (fun other _ differ => ?_) fun _ _ => ?_
    · have none : gained s.account other.orderId (.addCredits (packGrant new session)) = 0 := by
        simp [gained, packGrant, differ.symm]
      have law := step other.orderId
      rw [none] at law
      exact law
    · have nobody : ¬fundedPack s new.orderId := by
        rintro ⟨row, here, -, funded⟩
        cases found.symm.trans here
        exact unfunded funded
      have own : gained s.account new.orderId (.addCredits (packGrant new session)) = new.credits := by
        simp [gained, packGrant]
      have law := step new.orderId
      rw [own, Sound.held_unfunded sound nobody] at law
      have counter := within.withdrawn old (Table.find_mem found)
      rw [← moved.orderId, Sound.withdrawn_unfunded sound nobody, ← moved.creditsRefunded] at counter
      show held new.orderId after + new.creditsRefunded ≤ new.credits
      omega
  | @regrantPack order session after found pack status attached missing granted =>
    obtain ⟨lot, inLedger, purchase, named⟩ := sound.granted order (Table.find_mem found) pack status
    exact absurd named (missing lot inLedger purchase)
  | @mailOrder old new draft letterId product found jit unfunded moved status checked =>
    intro order member pack fulfilled
    exact holds_put within member pack fulfilled (fun _ _ _ => le_rfl)
      (fun _ final => by rw [status] at final; cases final)
  | mailPrepaid drafted pending fresh deducted =>
    exact unmoved _ fun order _ _ _ => held_deduct order.orderId sound.ledger deducted
  | @withdraw order row after exhausted found pack fulfilled named credits amount state free below fresh revoked =>
    intro order' member pack' fulfilled'
    have applied : applyAccountEvent s.now s.account
        (.revokeProportionally order row.credits row.packRefundId) = .ok after := by
      simp [applyAccountEvent, revoked, Except.map]
    refine holds_put within member pack' fulfilled' (fun other _ _ => held_step _ sound.ledger applied) fun _ _ => ?_
    have step := held_withdraw sound.ledger (sound.packLot_pertains (Table.find_mem found)) revoked
    have law := within.holds order (Table.find_mem found) pack fulfilled
    show held order.orderId after + (order.creditsRefunded + row.credits) ≤ order.credits
    omega
  | @confirm row order refundId found inFlight owner checked =>
    intro order' member pack fulfilled
    exact holds_put within member pack fulfilled (fun _ _ _ => le_rfl)
      fun pack' fulfilled' => within.holds order (Table.find_mem owner) pack' fulfilled'
  | @compensate row ended order found inUse owner unheld restores handed same checked =>
    intro order' member pack fulfilled
    have mine : order.orderId = row.orderId := Table.find_key owner
    have applied : applyAccountEvent s.now s.account (.compensatePackRefund row) =
        .ok (compensateAccount s.now s.account row) := rfl
    have step := fun orderId => held_step orderId sound.ledger applied
    refine holds_put within member pack fulfilled (fun other _ differ => ?_) fun pack' fulfilled' => ?_
    · have none : gained s.account other.orderId (.compensatePackRefund row) = 0 := by
        have ne : row.orderId ≠ other.orderId := fun same => differ (same.symm.trans mine.symm)
        simp [gained, ne]
      have law := step other.orderId
      rw [none] at law
      exact law
    · have law := step order.orderId
      have own : gained s.account order.orderId (.compensatePackRefund row) =
          restoredCredits s.account row.packRefundId := by
        simp [gained, mine]
      rw [own] at law
      have before := within.holds order (Table.find_mem owner) pack' fulfilled'
      have counter := within.withdrawn order (Table.find_mem owner)
      have share := withdrawnWeight_le (Table.find_mem found) (status_of_inUse inUse)
      have restored := sound.restored (Table.find_mem found)
      rw [mine] at counter
      show held order.orderId (compensateAccount s.now s.account row) +
        (order.creditsRefunded - restoredCredits s.account row.packRefundId) ≤ order.credits
      omega
  | compensateNothing found inUse owned restores handed same =>
    have some := (sound.command _ (Table.find_mem found)).2.1
    rw [sound.restored (Table.find_mem found)] at restores
    omega
  | _ => exact within.holds

theorem Within.write (within : Within s) (sound : Sound s) (write : Write cfg hands s s') : Within s' where
  oneInUse := within.oneInUse_write sound write
  money := within.money_write sound write
  withdrawn := within.withdrawn_write sound write
  holds := within.holds_write sound write

/-- In every state an account's commerce reaches, the refund counters fit. -/
theorem Reachable.within {allowed : Store → Event → Prop} (reach : Reachable cfg allowed s) : Within s := by
  have start : Within {} := {
    oneInUse := fun _ member => absurd member List.not_mem_nil
    money := fun _ member => absurd member List.not_mem_nil
    withdrawn := fun _ member => absurd member List.not_mem_nil
    holds := fun _ member => absurd member List.not_mem_nil }
  have whole := Commerce.Reachable.invariant (I := fun s => Sound s ∧ Within s) reach
    ⟨Reachable.sound (.start : Reachable cfg allowed _), start⟩
    fun _ _ _ holds write => ⟨holds.1.write write, holds.2.write holds.1 write⟩
  exact whole.2

end LetterIRL.Pack
