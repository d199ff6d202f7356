import LetterIRL.Lib.Evolve
import LetterIRL.Ledger.Balance

namespace LetterIRL.Ledger
open Lib Commerce List

/-! What an operation can do to the rows of the ledger: a lot is spent, swept or
revoked in its place, and new lots are posted after it. -/

/-- A lot later: the same lot, holding no more. Only an emptied lot is revoked, for
good, and none becomes active again. -/
structure Aged (old new : Lot) : Prop where
  same : new = { old with remainingAmount := new.remainingAmount, status := new.status }
  remaining : new.remainingAmount ≤ old.remainingAmount
  revoked : new.status = .revoked → old.status = .revoked ∨ new.remainingAmount = 0
  active : new.status = .active → old.status = .active
  forGood : old.status = .revoked → new.status = .revoked

theorem Aged.refl (lot : Lot) : Aged lot lot := ⟨rfl, le_rfl, .inl, id, id⟩

theorem Aged.trans {first second third : Lot} (left : Aged first second) (right : Aged second third) :
    Aged first third where
  same := by
    have step := right.same
    rw [left.same] at step
    exact step
  remaining := right.remaining.trans left.remaining
  revoked status := by
    rcases right.revoked status with before | empty
    · rcases left.revoked before with first | empty
      · exact .inl first
      · exact .inr (Nat.le_zero.mp (empty ▸ right.remaining))
    · exact .inr empty
  active := left.active ∘ right.active
  forGood := right.forGood ∘ left.forGood

theorem Aged.ledgerId {old new : Lot} (aged : Aged old new) : new.ledgerId = old.ledgerId := by
  rw [aged.same]

theorem Aged.initialAmount {old new : Lot} (aged : Aged old new) : new.initialAmount = old.initialAmount := by
  rw [aged.same]

theorem Aged.sourceType {old new : Lot} (aged : Aged old new) : new.sourceType = old.sourceType := by
  rw [aged.same]

theorem Aged.sourceReferenceId {old new : Lot} (aged : Aged old new) :
    new.sourceReferenceId = old.sourceReferenceId := by
  rw [aged.same]

theorem Aged.sourceMetadata {old new : Lot} (aged : Aged old new) :
    new.sourceMetadata = old.sourceMetadata := by
  rw [aged.same]

theorem Aged.relatedLedgerId {old new : Lot} (aged : Aged old new) :
    new.relatedLedgerId = old.relatedLedgerId := by
  rw [aged.same]

theorem Aged.consumeLot (taken : Nat) {lot : Lot} (open_ : lot.status ≠ .revoked) :
    Aged lot (consumeLot taken lot) where
  forGood revoked := absurd revoked open_
  same := rfl
  remaining := Nat.sub_le _ _
  revoked status := by
    simp only [Ledger.consumeLot, setRemaining] at status
    split at status
    · cases status
    · exact .inl status
  active status := by
    simp only [Ledger.consumeLot, setRemaining] at status
    split at status
    · cases status
    · exact status

/-- The lot as it is stored, under an id of its own. -/
def Stored (posted stored : Lot) : Prop := stored = { posted with ledgerId := stored.ledgerId }

/-- `posted` was added to the ledger, and what was there aged. -/
def LedgerStep (posted : List Lot) (before after : CreditLedger) : Prop :=
  ∃ aged stored, after.rows = aged ++ stored ∧ Forall₂ Aged before.rows aged ∧
    Forall₂ Stored posted stored

namespace LedgerStep
variable {posted : List Lot} {before middle after : CreditLedger}

theorem refl (ledger : CreditLedger) : LedgerStep [] ledger ledger :=
  ⟨ledger.rows, [], (List.append_nil _).symm, forall₂_same.mpr fun lot _ => Aged.refl lot, .nil⟩

/-- An update in place, then a posting. -/
theorem trans (aging : LedgerStep [] before middle) (posting : LedgerStep posted middle after) :
    LedgerStep posted before after := by
  obtain ⟨aged, stored, rows, ages, none⟩ := aging
  cases none
  obtain ⟨aged', stored', rows', ages', stores⟩ := posting
  rw [List.append_nil] at rows
  rw [rows] at ages'
  exact ⟨aged', stored', rows', forall₂_trans (fun _ _ _ left right => left.trans right) ages ages', stores⟩

theorem postLots (lots : List Lot) (ledger : CreditLedger) :
    LedgerStep lots ledger (postLots lots ledger) := by
  have grown : ∀ (lots : List Lot) (ledger : CreditLedger), ∃ stored,
      (Ledger.postLots lots ledger).rows = ledger.rows ++ stored ∧ Forall₂ Stored lots stored := by
    intro lots
    induction lots with
    | nil => exact fun ledger => ⟨[], (List.append_nil _).symm, .nil⟩
    | cons lot lots ih =>
      intro ledger
      obtain ⟨stored, rows, stores⟩ := ih (postLot lot ledger)
      refine ⟨{ lot with ledgerId := ledger.nextKey } :: stored, ?_, .cons rfl stores⟩
      rw [postLots_cons, rows, postLot_rows, List.append_assoc]
      rfl
  obtain ⟨stored, rows, stores⟩ := grown lots ledger
  exact ⟨ledger.rows, stored, rows, forall₂_same.mpr fun lot _ => Aged.refl lot, stores⟩

theorem postLot (lot : Lot) (ledger : CreditLedger) : LedgerStep [lot] ledger (postLot lot ledger) :=
  postLots [lot] ledger

theorem update {selected : Lot → Bool} {change : Lot → Lot} (ledger : CreditLedger)
    (kept : ∀ row, (change row).ledgerId = row.ledgerId)
    (ages : ∀ lot, selected lot = true → Aged lot (change lot)) :
    LedgerStep [] ledger (ledger.update selected change kept) :=
  ⟨_, [], (List.append_nil _).symm, forall₂_updateWhere Aged.refl fun lot _ => ages lot, .nil⟩

theorem consume {now : Time} {selected : Lot → Bool} {ledger : CreditLedger} {takes : List (Lot × Nat)}
    (plan : LotPlan now selected ledger takes) : LedgerStep [] ledger (consumeLots takes ledger) := by
  have ages : ∀ take ∈ takes, Aged take.1 (consumeLot take.2 take.1) := by
    intro take member
    refine .consumeLot _ fun revoked => ?_
    have isLive := (plan.chosen take member).2
    simp [live, revoked] at isLive
  have keyed : ∀ taken lot, (Ledger.consumeLot taken lot).ledgerId = lot.ledgerId := fun _ _ => rfl
  exact ⟨_, [], (List.append_nil _).symm, forall₂_applyTakes Aged.refl
    (fun _ _ _ left right => left.trans right) keyed ages plan.once ledger.unique plan.offered, .nil⟩

/-- A row after the step is an old row grown older, or one posted. -/
theorem mem (step : LedgerStep posted before after) {lot : Lot} (member : lot ∈ after.rows) :
    (∃ old ∈ before.rows, Aged old lot) ∨ ∃ new ∈ posted, Stored new lot := by
  obtain ⟨aged, stored, rows, ages, stores⟩ := step
  rw [rows, List.mem_append] at member
  rcases member with old | new
  · exact .inl (forall₂_mem_right ages old)
  · refine .inr ?_
    clear rows ages
    induction stores with
    | nil => cases new
    | @cons posted_ stored_ _ _ here _ ih =>
      rcases List.mem_cons.mp new with rfl | later
      · exact ⟨posted_, List.mem_cons_self, here⟩
      · obtain ⟨lot', inRest, shape⟩ := ih later
        exact ⟨lot', List.mem_cons_of_mem _ inRest, shape⟩

/-- No lot ever leaves the ledger. -/
theorem kept (step : LedgerStep posted before after) {lot : Lot} (member : lot ∈ before.rows) :
    ∃ new ∈ after.rows, Aged lot new := by
  obtain ⟨aged, stored, rows, ages, -⟩ := step
  obtain ⟨new, inAged, moved⟩ := forall₂_mem_left ages member
  exact ⟨new, by rw [rows]; exact List.mem_append_left _ inAged, moved⟩

theorem find (step : LedgerStep posted before after) {ledgerId : LedgerId} {lot : Lot}
    (found : before.find ledgerId = some lot) : ∃ new, after.find ledgerId = some new ∧ Aged lot new := by
  obtain ⟨new, member, moved⟩ := step.kept (Table.find_mem found)
  exact ⟨new, Table.find_eq_some.mpr ⟨member, moved.ledgerId.trans (Table.find_key found)⟩, moved⟩

theorem total_stored {weight : Lot → Nat} (blind : idBlind weight) {lots stored : List Lot}
    (stores : Forall₂ Stored lots stored) : total weight stored = total weight lots := by
  induction stores with
  | nil => rfl
  | cons here _ ih =>
    rw [total_cons, total_cons, ih]
    congr 1
    rw [here]
    exact blind _ _

/-- A weight that falls as a lot ages grows by at most what is posted. -/
theorem total_le {weight : Lot → Nat} (blind : idBlind weight) (step : LedgerStep posted before after)
    (falls : ∀ old new, Aged old new → weight new ≤ weight old) :
    total weight after.rows ≤ total weight before.rows + total weight posted := by
  obtain ⟨aged, stored, rows, ages, stores⟩ := step
  rw [rows, total_append, total_stored blind stores]
  exact Nat.add_le_add_right (total_forall₂_le ages falls) _

/-- A weight that does not see a lot age grows by exactly what is posted. -/
theorem total_eq {weight : Lot → Nat} (blind : idBlind weight) (step : LedgerStep posted before after)
    (stable : ∀ old new, Aged old new → weight new = weight old) :
    total weight after.rows = total weight before.rows + total weight posted := by
  obtain ⟨aged, stored, rows, ages, stores⟩ := step
  rw [rows, total_append, total_stored blind stores, total_forall₂_eq ages stable]

end LedgerStep
end LetterIRL.Ledger
