import LetterIRL.Commerce.Writes

namespace LetterIRL.Commerce
open Lib Ledger Relation
variable {cfg : Config} {hands : Beneficiary → Prop} {s s' : Store}

/-! What becomes of an order's row over a write and a transaction. -/

theorem confirmedOrder_moves {order : Order} {row : PackRefund} :
    order.Moves (confirmedOrder order row) := .of_same_status rfl rfl rfl id

theorem uncreditedOrder_moves {order : Order} {row : PackRefund} {restored : Nat} :
    order.Moves (uncreditedOrder order row restored) := .of_same_status rfl rfl rfl id

/-- The order a write updates, if it updates one, and what its row becomes. -/
theorem Write.orders (write : Write cfg hands s s') :
    s'.orders = s.orders ∨
    (∃ old new : Order, s.orders.find new.orderId = some old ∧ old.Moves new ∧ s'.orders = s.orders.put new) ∨
    ∃ order : Order, order.Opened ∧ ∃ fresh : order.orderId ∉ s.orders.rows.map Order.orderId,
      s'.orders = s.orders.insert order fresh := by
  have put : ∀ {old new : Order}, s.orders.find new.orderId = some old → old.Moves new →
      ∃ old new' : Order, s.orders.find new'.orderId = some old ∧ old.Moves new' ∧
        s.orders.put (new.stamped s.now) = s.orders.put new' := fun {_ new} found moved =>
    ⟨_, new.stamped s.now, found, moved.trans (Order.Advances.stamp new s.now).toMoves, rfl⟩
  cases write with
  | openOrder opened checked fresh => exact .inr (.inr ⟨_, opened, fresh, rfl⟩)
  | moveOrder found moved checked => exact .inr (.inl (put found moved.toMoves))
  | refundOrder found moved credits status whole dated emptied checked => exact .inr (.inl (put found moved))
  | fulfilPack found pack unfunded moved status attached granted checked =>
    exact .inr (.inl (put found moved.toMoves))
  | mailOrder found jit unfunded moved => exact .inr (.inl (put found moved.toMoves))
  | withdraw found => exact .inr (.inl (put found (.of_same_status rfl rfl rfl id)))
  | confirm refundId found inFlight owner checked =>
    exact .inr (.inl (put (by rw [confirmedOrder_moves.orderId, Table.find_key owner]; exact owner)
      confirmedOrder_moves))
  | compensate found inUse owner unheld restores handed same checked =>
    exact .inr (.inl (put (by rw [uncreditedOrder_moves.orderId, Table.find_key owner]; exact owner)
      uncreditedOrder_moves))
  | _ => exact .inl rfl

/-- No order is ever dropped, and each only moves. -/
theorem Write.order_kept (write : Write cfg hands s s') {orderId : OrderId} {old : Order}
    (found : s.orders.find orderId = some old) : ∃ new, s'.orders.find orderId = some new ∧ old.Moves new := by
  rcases write.orders with same | ⟨before, new, here, moved, put⟩ | ⟨order, -, fresh, inserted⟩
  · exact ⟨old, by rw [same]; exact found, .refl old⟩
  · rw [put, Table.find_put here]
    split
    · rename_i same
      rw [same, here] at found
      cases found
      exact ⟨new, rfl, moved⟩
    · exact ⟨old, found, .refl old⟩
  · rw [inserted, Table.find_insert]
    split
    · rename_i same
      exact absurd (List.mem_map.mpr ⟨old, Table.find_mem found, (Table.find_key found).trans same⟩) fresh
    · exact ⟨old, found, .refl old⟩

/-- Every order after a write was there before and moved, or was opened by it. -/
theorem Write.order_origin (write : Write cfg hands s s') {orderId : OrderId} {new : Order}
    (found : s'.orders.find orderId = some new) :
    (∃ old, s.orders.find orderId = some old ∧ old.Moves new) ∨
      (s.orders.find orderId = none ∧ new.Opened) := by
  rcases write.orders with same | ⟨before, row, here, moved, put⟩ | ⟨order, opened, fresh, inserted⟩
  · rw [same] at found
    exact .inl ⟨new, found, .refl new⟩
  · rw [put, Table.find_put here] at found
    split at found
    · rename_i same
      cases found
      exact .inl ⟨before, same ▸ here, moved⟩
    · exact .inl ⟨new, found, .refl new⟩
  · rw [inserted, Table.find_insert] at found
    split at found
    · rename_i same
      cases found
      refine .inr ⟨Table.find_eq_none.mpr fun other member key => fresh ?_, opened⟩
      exact List.mem_map.mpr ⟨other, member, key.trans same⟩
    · exact .inl ⟨new, found, .refl new⟩

theorem Writes.order_kept (writes : Writes cfg hands s s') {orderId : OrderId} {old : Order}
    (found : s.orders.find orderId = some old) : ∃ new, s'.orders.find orderId = some new ∧ old.Moves new := by
  induction writes with
  | refl => exact ⟨old, found, .refl old⟩
  | tail _ write ih =>
    obtain ⟨middle, here, moved⟩ := ih
    obtain ⟨new, there, next⟩ := write.order_kept here
    exact ⟨new, there, moved.trans next⟩

end LetterIRL.Commerce
