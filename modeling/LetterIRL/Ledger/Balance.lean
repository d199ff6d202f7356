import LetterIRL.Ledger.Account

namespace LetterIRL.Ledger
open Lib Commerce

/-! How sums over the ledger move under the operations on it. -/

/-- A weight that does not read the id a row is stored under. -/
def idBlind (weight : Lot → Nat) : Prop :=
  ∀ lot ledgerId, weight { lot with ledgerId } = weight lot

theorem postLot_rows (lot : Lot) (ledger : CreditLedger) :
    (postLot lot ledger).rows = ledger.rows ++ [{ lot with ledgerId := ledger.nextKey }] := rfl

theorem postLots_cons (lot : Lot) (lots : List Lot) (ledger : CreditLedger) :
    postLots (lot :: lots) ledger = postLots lots (postLot lot ledger) := rfl

@[simp] theorem postLots_nil (ledger : CreditLedger) : postLots [] ledger = ledger := rfl

theorem total_postLot {weight : Lot → Nat} (blind : idBlind weight) (lot : Lot) (ledger : CreditLedger) :
    total weight (postLot lot ledger).rows = total weight ledger.rows + weight lot := by
  rw [postLot_rows, total_append, total_cons, total_nil, blind]
  rfl

theorem total_postLots {weight : Lot → Nat} (blind : idBlind weight) (lots : List Lot)
    (ledger : CreditLedger) :
    total weight (postLots lots ledger).rows = total weight ledger.rows + total weight lots := by
  induction lots generalizing ledger with
  | nil => rfl
  | cons lot lots ih =>
    rw [postLots_cons, ih, total_postLot blind, total_cons]
    omega

/-- The rows before a posting are still there after it. -/
theorem mem_postLots_old {lot : Lot} {lots : List Lot} {ledger : CreditLedger}
    (member : lot ∈ ledger.rows) : lot ∈ (postLots lots ledger).rows := by
  induction lots generalizing ledger with
  | nil => exact member
  | cons posted lots ih =>
    rw [postLots_cons]
    exact ih (by rw [postLot_rows]; exact List.mem_append_left _ member)

/-- Every row after a posting is an old row, or one posted under a fresh id. -/
theorem mem_postLots {lot : Lot} {lots : List Lot} {ledger : CreditLedger}
    (member : lot ∈ (postLots lots ledger).rows) :
    lot ∈ ledger.rows ∨ ∃ posted ∈ lots, lot = { posted with ledgerId := lot.ledgerId } ∧
      ∀ old ∈ ledger.rows, old.ledgerId < lot.ledgerId := by
  induction lots generalizing ledger with
  | nil => exact .inl member
  | cons first lots ih =>
    rw [postLots_cons] at member
    rcases ih member with old | ⟨posted, inLots, shape, later⟩
    · rw [postLot_rows, List.mem_append, List.mem_singleton] at old
      rcases old with old | rfl
      · exact .inl old
      · exact .inr ⟨first, List.mem_cons_self, rfl, fun old inOld => Table.lt_nextKey inOld⟩
    · refine .inr ⟨posted, List.mem_cons_of_mem _ inLots, shape, fun old inOld => later old ?_⟩
      rw [postLot_rows]
      exact List.mem_append_left _ inOld

/-- A lookup of a row that was there finds it still. -/
theorem find_postLots {lots : List Lot} {ledger : CreditLedger} {ledgerId : LedgerId} {lot : Lot}
    (found : ledger.find ledgerId = some lot) : (postLots lots ledger).find ledgerId = some lot :=
  Table.find_eq_some.mpr ⟨mem_postLots_old (Table.find_mem found), Table.find_key found⟩

theorem liveLots_perm (now : Time) (selected : Lot → Bool) (ledger : CreditLedger) :
    (liveLots now selected ledger).Perm (ledger.rows.filter fun lot => selected lot && live now lot) :=
  List.perm_insertionSort _ _

theorem mem_liveLots {now : Time} {selected : Lot → Bool} {ledger : CreditLedger} {lot : Lot} :
    lot ∈ liveLots now selected ledger ↔
      lot ∈ ledger.rows ∧ selected lot = true ∧ live now lot = true := by
  rw [(liveLots_perm now selected ledger).mem_iff, List.mem_filter, Bool.and_eq_true]

theorem liveLots_unique (now : Time) (selected : Lot → Bool) (ledger : CreditLedger) :
    ((liveLots now selected ledger).map Lot.ledgerId).Nodup := by
  have perm := (liveLots_perm now selected ledger).map Lot.ledgerId
  exact perm.nodup_iff.mpr (ledger.unique.sublist (List.filter_sublist.map _))

theorem live_remaining {now : Time} {lot : Lot} (isLive : live now lot = true) :
    0 < lot.remainingAmount := by
  simp only [live, Bool.and_eq_true, decide_eq_true_eq] at isLive
  exact isLive.1.2

/-- A plan drawn up on the live lots: the lots it takes from are in the ledger,
each once, and gives no more than it has and something. -/
structure LotPlan (now : Time) (selected : Lot → Bool) (ledger : CreditLedger)
    (takes : List (Lot × Nat)) : Prop where
  offered : ∀ take ∈ takes, take.1 ∈ ledger.rows
  once : (takes.map fun take => take.1.ledgerId).Nodup
  within : ∀ take ∈ takes, take.2 ≤ take.1.remainingAmount
  positive : ∀ take ∈ takes, 0 < take.2
  chosen : ∀ take ∈ takes, selected take.1 = true ∧ live now take.1 = true

theorem takeFifo_plan (now : Time) (selected : Lot → Bool) (ledger : CreditLedger) (needed : Nat) :
    LotPlan now selected ledger
      (takeFifo Lot.remainingAmount needed (liveLots now selected ledger)) where
  offered take member := (mem_liveLots.mp (takeFifo_mem member)).1
  once := by
    have sub := (takeFifo_sublist Lot.remainingAmount needed (liveLots now selected ledger)).map Lot.ledgerId
    rw [List.map_map] at sub
    exact (liveLots_unique now selected ledger).sublist sub
  within take member := takeFifo_le member
  positive take member :=
    takeFifo_pos (fun lot inLots => live_remaining (mem_liveLots.mp inLots).2.2) member
  chosen take member := (mem_liveLots.mp (takeFifo_mem member)).2

/-- After the updates of a plan, a lot taken from holds what was left of it. -/
theorem find_consumeLots {now : Time} {selected : Lot → Bool} {ledger : CreditLedger}
    {takes : List (Lot × Nat)} (plan : LotPlan now selected ledger takes) {take : Lot × Nat}
    (member : take ∈ takes) :
    (consumeLots takes ledger).find take.1.ledgerId = some (consumeLot take.2 take.1) := by
  have keyed : ∀ taken lot, (consumeLot taken lot).ledgerId = lot.ledgerId := fun _ _ => rfl
  exact Table.find_eq_some.mpr ⟨mem_applyTakes_of_taken keyed plan.offered plan.once member, rfl⟩

/-- A plan accounts for itself in any weight of the ledger. -/
theorem total_consumeLots {now : Time} {selected : Lot → Bool} {ledger : CreditLedger}
    {takes : List (Lot × Nat)} (plan : LotPlan now selected ledger takes) (weight : Lot → Nat) :
    total weight (consumeLots takes ledger).rows + total (fun take => weight take.1) takes =
      total weight ledger.rows + total (fun take => weight (consumeLot take.2 take.1)) takes := by
  rw [consumeLots_rows]
  exact total_applyTakes weight ledger.unique (fun _ _ => rfl) plan.offered plan.once

/-- A weight that counts what a live lot holds drops by exactly what is taken. -/
theorem total_consumeLots_counted {now : Time} {selected : Lot → Bool} {ledger : CreditLedger}
    {takes : List (Lot × Nat)} (plan : LotPlan now selected ledger takes) (weight : Lot → Nat)
    (counts : ∀ take ∈ takes, weight take.1 = weight (consumeLot take.2 take.1) + take.2) :
    total weight (consumeLots takes ledger).rows + total Prod.snd takes = total weight ledger.rows := by
  have moved := total_consumeLots plan weight
  have split : total (fun take => weight take.1) takes =
      total (fun take => weight (consumeLot take.2 take.1)) takes + total Prod.snd takes := by
    rw [← total_add]
    exact total_congr counts
  omega

/-- A weight that ignores the lots taken from does not move. -/
theorem total_consumeLots_ignored {now : Time} {selected : Lot → Bool} {ledger : CreditLedger}
    {takes : List (Lot × Nat)} (plan : LotPlan now selected ledger takes) {weight : Lot → Nat}
    (ignores : ∀ take ∈ takes, weight (consumeLot take.2 take.1) = weight take.1) :
    total weight (consumeLots takes ledger).rows = total weight ledger.rows := by
  have moved := total_consumeLots plan weight
  have same := total_congr ignores
  omega

/-- Rows after a deduction are old rows, with only their remainder and status changed. -/
theorem consumeLots_forall {P : Lot → Prop} {takes : List (Lot × Nat)} {ledger : CreditLedger}
    (all : ∀ lot ∈ ledger.rows, P lot) (kept : ∀ taken lot, P lot → P (consumeLot taken lot)) :
    ∀ lot ∈ (consumeLots takes ledger).rows, P lot := by
  rw [consumeLots_rows]
  exact applyTakes_forall all fun take _ row _ holds => kept take.2 row holds

theorem spendable_idBlind (now : Time) :
    idBlind fun lot => if live now lot then lot.remainingAmount else 0 := fun _ _ => rfl

/-- What is left of a live lot counts as spendable, whatever is taken of it. -/
theorem spendable_consumeLot {now : Time} {lot : Lot} {taken : Nat} (isLive : live now lot = true)
    (within : taken ≤ lot.remainingAmount) :
    (if live now lot then lot.remainingAmount else 0) =
      (if live now (consumeLot taken lot) then (consumeLot taken lot).remainingAmount else 0) + taken := by
  simp only [live, Bool.and_eq_true, beq_iff_eq, decide_eq_true_eq, Bool.not_eq_true'] at isLive
  obtain ⟨⟨active, stocked⟩, unlapsed⟩ := isLive
  have before : live now lot = true := by simp [live, active, stocked, unlapsed]
  rw [if_pos before]
  by_cases emptied : lot.remainingAmount - taken = 0
  · have dead : live now (consumeLot taken lot) = false := by
      simp [live, consumeLot, setRemaining, emptied]
    rw [dead]
    simp only [Bool.false_eq_true, if_false]
    omega
  · have still : live now (consumeLot taken lot) = true := by
      have same : lapsed now (consumeLot taken lot) = lapsed now lot := rfl
      simp only [live, same, unlapsed, Bool.not_false, Bool.and_true, Bool.and_eq_true, beq_iff_eq,
        decide_eq_true_eq]
      simp only [consumeLot, setRemaining, emptied, if_false]
      exact ⟨active, Nat.pos_of_ne_zero emptied⟩
    rw [if_pos still]
    simp only [consumeLot, setRemaining]
    omega

/-- Spending from a plan on live lots takes what was taken out of the spendable balance. -/
theorem spendable_consumeLots {now : Time} {selected : Lot → Bool} {ledger : CreditLedger}
    {takes : List (Lot × Nat)} (plan : LotPlan now selected ledger takes) :
    spendable now (consumeLots takes ledger) + total Prod.snd takes = spendable now ledger :=
  total_consumeLots_counted plan _ fun take member =>
    spendable_consumeLot (plan.chosen take member).2 (plan.within take member)

theorem spendable_postLots (now : Time) (lots : List Lot) (ledger : CreditLedger) :
    spendable now (postLots lots ledger) =
      spendable now ledger + total (fun lot => if live now lot then lot.remainingAmount else 0) lots :=
  total_postLots (spendable_idBlind now) lots ledger

/-- The live lots a query selects sum to their part of the spendable balance. -/
theorem total_liveLots (now : Time) (selected : Lot → Bool) (ledger : CreditLedger) :
    total Lot.remainingAmount (liveLots now selected ledger) =
      total (fun lot => if selected lot && live now lot then lot.remainingAmount else 0) ledger.rows := by
  rw [total_perm (liveLots_perm now selected ledger), total_filter]

end LetterIRL.Ledger
