import LetterIRL.Commerce.Step

namespace LetterIRL.Commerce
open Lib Ledger

/-! What a transaction can do to an order's row. -/

/-- The row an `UPDATE` of the order writes. -/
def Order.stamped (order : Order) (now : Time) : Order := { order with updatedAt := now }

theorem Store.updateOrder_ok {s s' : Store} {order : Order} (updated : s.updateOrder order = .ok s') :
    order.checks = true ∧ (∀ other ∈ s.orders.rows, order.conflicts other = false) ∧
      s' = { s with orders := s.orders.put (order.stamped s.now) } := by
  unfold Store.updateOrder at updated
  split at updated
  · cases updated
  · rename_i checked
    split at updated
    · cases updated
    · rename_i allowed
      refine ⟨by simpa using checked, ?_, (Except.ok.inj updated).symm⟩
      intro other member
      simpa using fun conflict => allowed (List.any_eq_true.mpr ⟨other, member, conflict⟩)

theorem Store.updateOrder_ordersCheck {s : Store} {order : Order} :
    s.updateOrder order = .error .ordersCheck ↔ order.checks = false := by
  unfold Store.updateOrder
  cases order.checks with
  | false => simp
  | true => by_cases conflict : s.orders.rows.any order.conflicts <;> simp [conflict]

theorem Store.insertOrder_ok {s s' : Store} {order : Order} (inserted : s.insertOrder order = .ok s') :
    order.checks = true ∧ (∀ other ∈ s.orders.rows, order.conflicts other = false) ∧
      ∃ fresh : order.orderId ∉ s.orders.rows.map Order.orderId,
        s' = { s with orders := s.orders.insert order fresh } := by
  unfold Store.insertOrder at inserted
  split at inserted
  · rename_i fresh
    split at inserted
    · cases inserted
    · rename_i checked
      split at inserted
      · cases inserted
      · rename_i allowed
        refine ⟨by simpa using checked, ?_, fresh, (Except.ok.inj inserted).symm⟩
        intro other member
        simpa using fun conflict => allowed (List.any_eq_true.mpr ⟨other, member, conflict⟩)
  · cases inserted

theorem Order.checks_iff {order : Order} :
    order.checks = true ↔ (order.orderType = .jitMail ∨ order.creditsRefunded ≤ order.credits) ∧
      order.amountRefundedCents ≤ order.amountCents := by
  simp [Order.checks]

/-- The order a session belongs to. -/
def SessionId.owner : SessionId → OrderId
  | .forOrder number _ => .placed number
  | .legacy serial => .stripe serial

/-- An attached session is one made for the order. -/
def Order.ownsSession (order : Order) : Prop :=
  ∀ session, order.stripeCheckoutSessionId = some session → session.owner = order.orderId

/-- A pack whose money went back in full stays reversed. -/
def Order.reversedForGood (order : Order) : Prop :=
  order.orderType = .letterPack → order.refundedAt.isSome = true →
    order.status = .refunded ∨ order.status = .refundPending ∨ order.status = .disputed

/-- What an order was placed for, which nothing changes. -/
structure Order.Terms where
  orderId : OrderId
  orderType : OrderType
  draftId : Option DraftId
  productCode : ProductCode
  credits : Nat
  amountCents : Cents
  currency : Currency
  createdAt : Time

def Order.terms (order : Order) : Order.Terms :=
  { orderId := order.orderId, orderType := order.orderType, draftId := order.draftId,
    productCode := order.productCode, credits := order.credits, amountCents := order.amountCents,
    currency := order.currency, createdAt := order.createdAt }

/-- How a row moves: its terms stay, a refund is never forgotten, no path leads
back to an unfunded status, and none leads a funded pack to `fulfilled`. -/
structure Order.Moves (old new : Order) : Prop where
  terms : new.terms = old.terms
  refunded : old.refundedAt.isSome = true → new.refundedAt.isSome = true
  funded : old.status ∈ FUNDED_OR_REVERSED_ORDER_STATUSES → new.status ∈ FUNDED_OR_REVERSED_ORDER_STATUSES
  fulfilled : old.orderType = .letterPack → old.status ∈ FUNDED_OR_REVERSED_ORDER_STATUSES →
    new.status = .fulfilled → old.status = .fulfilled
  reversed : old.reversedForGood → new.reversedForGood
  session : old.ownsSession → new.ownsSession

namespace Order.Moves
variable {old new third : Order}

theorem orderId (moved : old.Moves new) : new.orderId = old.orderId :=
  congrArg Order.Terms.orderId moved.terms

theorem orderType (moved : old.Moves new) : new.orderType = old.orderType :=
  congrArg Order.Terms.orderType moved.terms

theorem draftId (moved : old.Moves new) : new.draftId = old.draftId :=
  congrArg Order.Terms.draftId moved.terms

theorem productCode (moved : old.Moves new) : new.productCode = old.productCode :=
  congrArg Order.Terms.productCode moved.terms

theorem credits (moved : old.Moves new) : new.credits = old.credits :=
  congrArg Order.Terms.credits moved.terms

theorem amountCents (moved : old.Moves new) : new.amountCents = old.amountCents :=
  congrArg Order.Terms.amountCents moved.terms

theorem createdAt (moved : old.Moves new) : new.createdAt = old.createdAt :=
  congrArg Order.Terms.createdAt moved.terms

theorem refl (order : Order) : order.Moves order := ⟨rfl, id, id, fun _ _ h => h, id, id⟩

theorem trans (left : old.Moves new) (right : new.Moves third) : old.Moves third where
  terms := right.terms.trans left.terms
  refunded := right.refunded ∘ left.refunded
  funded := right.funded ∘ left.funded
  fulfilled pack funded final :=
    left.fulfilled pack funded (right.fulfilled (left.orderType.trans pack) (left.funded funded) final)
  reversed := right.reversed ∘ left.reversed
  session := right.session ∘ left.session

/-- A change of columns that decide nothing. -/
theorem of_same_status (terms : new.terms = old.terms) (status : new.status = old.status)
    (refundedAt : new.refundedAt = old.refundedAt) (session : old.ownsSession → new.ownsSession) :
    old.Moves new where
  terms := terms
  refunded := by rw [refundedAt]; exact id
  funded := by rw [status]; exact id
  fulfilled := by rw [status]; exact fun _ _ h => h
  reversed := by
    have type : new.orderType = old.orderType := congrArg Order.Terms.orderType terms
    unfold Order.reversedForGood
    rw [status, refundedAt, type]
    exact id
  session := session

/-- A reversal: the money is on its way back, back, or disputed. -/
theorem to_reversed (terms : new.terms = old.terms)
    (status : new.status = .refunded ∨ new.status = .refundPending ∨ new.status = .disputed)
    (refunded : old.refundedAt.isSome = true → new.refundedAt.isSome = true)
    (session : old.ownsSession → new.ownsSession) : old.Moves new where
  terms := terms
  refunded := refunded
  funded _ := by
    rcases status with status | status | status <;> rw [status] <;> decide
  fulfilled _ _ final := by
    rcases status with status | status | status <;> rw [status] at final <;> cases final
  reversed _ _ _ := status
  session := session

/-- From an unfunded status every move is open. -/
theorem of_unfunded (terms : new.terms = old.terms)
    (unfunded : old.status ∉ FUNDED_OR_REVERSED_ORDER_STATUSES)
    (refundedAt : new.refundedAt = old.refundedAt) (session : old.ownsSession → new.ownsSession) :
    old.Moves new where
  terms := terms
  refunded := by rw [refundedAt]; exact id
  funded funded := absurd funded unfunded
  fulfilled _ funded := absurd funded unfunded
  reversed kept pack refunded := by
    have type : new.orderType = old.orderType := congrArg Order.Terms.orderType terms
    -- A refunded pack has a funded status, so this one was never refunded.
    rw [refundedAt] at refunded
    rcases kept (type ▸ pack) refunded with status | status | status
    · exact absurd (by rw [status]; decide) unfunded
    · exact absurd (by rw [status]; decide) unfunded
    · exact absurd (by rw [status]; decide) unfunded
  session := session

/-- A Pay & Send order between funded statuses. -/
theorem of_jit (terms : new.terms = old.terms) (jit : old.orderType = .jitMail)
    (funded : new.status ∈ FUNDED_OR_REVERSED_ORDER_STATUSES)
    (refundedAt : new.refundedAt = old.refundedAt) (session : old.ownsSession → new.ownsSession) :
    old.Moves new where
  terms := terms
  refunded := by rw [refundedAt]; exact id
  funded _ := funded
  fulfilled pack := by rw [jit] at pack; cases pack
  reversed _ pack := by
    have type : new.orderType = old.orderType := congrArg Order.Terms.orderType terms
    rw [type, jit] at pack
    cases pack
  session := session

end Order.Moves

/-- A move that leaves what was refunded alone. -/
structure Order.Advances (old new : Order) : Prop extends Order.Moves old new where
  creditsRefunded : new.creditsRefunded = old.creditsRefunded
  amountRefundedCents : new.amountRefundedCents = old.amountRefundedCents

theorem Order.Advances.refl (order : Order) : order.Advances order :=
  { Order.Moves.refl order with creditsRefunded := rfl, amountRefundedCents := rfl }

theorem Order.Advances.trans {first second third : Order} (left : first.Advances second)
    (right : second.Advances third) : first.Advances third :=
  { left.toMoves.trans right.toMoves with
    creditsRefunded := right.creditsRefunded.trans left.creditsRefunded
    amountRefundedCents := right.amountRefundedCents.trans left.amountRefundedCents }

/-- The CHECKs read nothing that such a move changes. -/
theorem Order.Advances.checks {old new : Order} (moved : old.Advances new) : new.checks = old.checks := by
  unfold Order.checks
  rw [moved.orderType, moved.credits, moved.amountCents, moved.creditsRefunded, moved.amountRefundedCents]

/-- A row stamped with the time of its update moves nothing. -/
theorem Order.Advances.stamp (order : Order) (now : Time) :
    order.Advances (order.stamped now) :=
  { Order.Moves.of_same_status rfl rfl rfl id with creditsRefunded := rfl, amountRefundedCents := rfl }

/-- A row as it is first inserted. -/
structure Order.Opened (order : Order) : Prop where
  status : order.status = .checkoutPending
  refundedAt : order.refundedAt = none
  creditsRefunded : order.creditsRefunded = 0
  amountRefundedCents : order.amountRefundedCents = 0
  session : order.ownsSession

end LetterIRL.Commerce
