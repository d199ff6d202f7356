import LetterIRL.Redaction.Funding
import LetterIRL.Redaction.Holds

namespace LetterIRL.Redaction
open Lib Ledger
open Commerce hiding SourceType Consumption

/-! The hold the sweeps wait for is `fundingHold` over the columns of an account's rows. -/

def columnType : Commerce.SourceType → Funding.SourceType
  | .purchase => .purchase
  | .signupBonus => .signupBonus
  | .promo => .promo
  | .adjustment => .adjustment
  | .refund => .refund

def columnReason : LotReason → String
  | .paymentRefunded => "payment_refunded"
  | .paymentDisputed => "payment_disputed"
  | .partialRefund => "partial_refund"
  | .partialRefundFailed => "partial_refund_failed"
  | .disputeResolvedInOurFavour => "dispute_resolved_in_our_favour"
  | .sendFailed => "send_failed"

def columns (userId : Nat) (lot : Lot) : Funding.LedgerRow :=
  { ledgerId := lot.ledgerId, userId := userId, sourceType := columnType lot.sourceType,
    sourceOrderId := sourceOrderId lot, reason := lot.sourceMetadata.reason.map columnReason,
    letterId := lot.sourceMetadata.letterId, status := lot.status, relatedLedgerId := lot.relatedLedgerId }

def ledgerColumns (userId : Nat) (ledger : CreditLedger) : Table Funding.LedgerRow.ledgerId :=
  ledger.map (columns userId) fun _ => rfl

def orderColumns (order : Order) : Funding.OrderRow := ⟨order.orderId, order.status⟩

/-- The deduction of a letter, numbered by it. -/
def deduction (userId : Nat) (letterId : LetterId) : Funding.Transaction :=
  ⟨letterId, userId, .deduction, some "letter", some letterId⟩

def books (s : Commerce.Store) : Funding.Books where
  orders := s.orders.map orderColumns fun _ => rfl
  creditLedger := ledgerColumns s.userId s.account.creditLedger
  creditTransactions :=
    ⟨((s.account.creditConsumption.map Commerce.Consumption.letterId).dedup).map (deduction s.userId), by
      rw [List.map_map]
      exact (List.map_id' _).symm ▸ List.nodup_dedup _⟩
  creditConsumption := s.account.creditConsumption.map fun consumption => ⟨consumption.letterId, consumption.ledgerId⟩

theorem moneyBacked_columns (type : Commerce.SourceType) :
    decide (columnType type ∈ Funding.MONEY_BACKED_SOURCE_TYPES) = decide (type ∈ MONEY_BACKED_SOURCE_TYPES) := by
  cases type <;> rfl

theorem sendFailed_columns (userId : Nat) (lot : Lot) : Funding.sendFailed (columns userId lot) = givenBack lot := by
  unfold Funding.sendFailed givenBack columns
  congr 1
  · cases lot.sourceType <;> rfl
  · cases lot.sourceMetadata.reason with
    | none => rfl
    | some reason => cases reason <;> rfl

theorem origin_columns (userId : Nat) (ledger : CreditLedger) (other : Funding.LedgerRow) (left : Nat) :
    ∀ lot, (Funding.chain (ledgerColumns userId ledger) left (columns userId lot)).getLastD other =
      columns userId (chainOrigin ledger left lot) := by
  induction left with
  | zero => exact fun lot => rfl
  | succ left ih =>
    intro lot
    rw [Funding.chain_succ_last, sendFailed_columns, chainOrigin]
    have linked : (columns userId lot).relatedLedgerId.bind (ledgerColumns userId ledger).find =
        (lot.relatedLedgerId.bind ledger.find).map (columns userId) := by
      show lot.relatedLedgerId.bind _ = _
      cases lot.relatedLedgerId with
      | none => rfl
      | some related => exact Table.find_map ..
    rw [linked]
    split
    · cases lot.relatedLedgerId.bind ledger.find with
      | none => rfl
      | some up => exact ih up
    · rfl

theorem lotHolds_columns (s : Commerce.Store) (lot : Lot) :
    Funding.lotHolds (books s) (columns s.userId lot) = lotHolds s lot := by
  simp only [Funding.lotHolds, lotHolds]
  have ends : Funding.origin (books s).creditLedger (columns s.userId lot) =
      columns s.userId (chainOrigin s.account.creditLedger CHAIN_DEPTH lot) := origin_columns ..
  rw [ends]
  generalize chainOrigin s.account.creditLedger CHAIN_DEPTH lot = origin
  congr 1
  have ordered : (columns s.userId origin).sourceOrderId.bind (books s).orders.find =
      ((sourceOrderId origin).bind s.orders.find).map orderColumns := by
    show (sourceOrderId origin).bind _ = _
    cases sourceOrderId origin with
    | none => rfl
    | some orderId => exact Table.find_map s.orders orderColumns (fun _ => rfl) orderId
  rw [ordered]
  cases (sourceOrderId origin).bind s.orders.find with
  | none =>
    exact moneyBacked_columns origin.sourceType
  | some order => rfl

/-- A letter's content is held back by its credits exactly when `fundingHold` does not let it go. -/
theorem fundingHold_columns (s : Commerce.Store) (letterId : LetterId) :
    Funding.fundingHold (books s) letterId = !fundingHold s letterId := by
  rw [Bool.eq_iff_iff, Funding.fundingHold_eq_true_iff, Bool.not_eq_true', fundingHold, List.any_eq_false]
  constructor
  · intro free consumption member holds
    simp only [Bool.and_eq_true, beq_iff_eq, Option.any_eq_true] at holds
    obtain ⟨rfl, lot, found, holds⟩ := holds
    have paid : Funding.PaidFrom (books s) consumption.letterId (columns s.userId lot) := by
      refine ⟨deduction s.userId consumption.letterId, ?_, rfl, rfl, rfl, ?_, ?_⟩
      · exact List.mem_map_of_mem (List.mem_dedup.mpr (List.mem_map_of_mem member))
      · exact List.mem_map_of_mem (Table.find_mem found)
      · have same : lot.ledgerId = consumption.ledgerId := Table.find_key found
        rw [show (columns s.userId lot).ledgerId = consumption.ledgerId from same]
        exact List.mem_map_of_mem member
    rw [← lotHolds_columns, free _ paid] at holds
    cases holds
  · rintro free row ⟨txn, inTransactions, -, -, named, inLedger, member⟩
    obtain ⟨letter, -, rfl⟩ := List.mem_map.mp inTransactions
    obtain ⟨lot, there, rfl⟩ := List.mem_map.mp inLedger
    obtain ⟨consumption, inConsumption, same⟩ := List.mem_map.mp member
    have same : consumption.letterId = letter ∧ consumption.ledgerId = lot.ledgerId := by
      simpa [deduction, columns] using same
    have named : letter = letterId := Option.some.inj named
    rw [lotHolds_columns]
    have clear := free consumption inConsumption
    rw [same.1, same.2, named, Table.find_of_mem there] at clear
    simpa using clear

end LetterIRL.Redaction
