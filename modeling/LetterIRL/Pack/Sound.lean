import LetterIRL.Commerce.StepWrites
import LetterIRL.Pack.Held

namespace LetterIRL.Pack
open Lib Ledger Commerce Relation
variable {cfg : Config} {hands : Beneficiary → Prop} {s s' : Store}

/-! How the ledger, the orders and the refund commands hang together in every
state an account reaches. -/

/-- What the audit rows of a command recorded. -/
def auditWeight (packRefundId : PackRefundId) (lot : Lot) : Nat :=
  if lot.sourceType == .refund && lot.sourceMetadata.packRefundId == some packRefundId then lot.initialAmount
  else 0

/-- A funded pack is on record under the id. -/
def fundedPack (s : Store) (orderId : OrderId) : Prop :=
  ∃ order, s.orders.find orderId = some order ∧ order.orderType = .letterPack ∧
    order.status ∈ FUNDED_OR_REVERSED_ORDER_STATUSES

structure Sound (s : Store) : Prop where
  ledger : SoundLedger s.account
  sessions : ∀ order ∈ s.orders.rows, order.ownsSession
  /-- Lots are only ever posted against a funded pack. -/
  lotOrder : ∀ lot ∈ s.account.creditLedger.rows, lot.sourceType ≠ .refund →
    ∀ orderId, lot.sourceReferenceId = some (.order orderId) → fundedPack s orderId
  /-- A fulfilled pack has its purchase lot. -/
  granted : ∀ order ∈ s.orders.rows, order.orderType = .letterPack → order.status = .fulfilled →
    ∃ lot ∈ s.account.creditLedger.rows, lot.sourceType = .purchase ∧
      lot.sourceReferenceId = some (.order order.orderId)
  /-- A refund command is of a funded pack, and of something. -/
  command : ∀ row ∈ s.packRefunds.rows, fundedPack s row.orderId ∧ 0 < row.credits ∧ 0 < row.amountCents
  /-- An audit row names its command and the lot it took from. -/
  audit : ∀ lot ∈ s.account.creditLedger.rows, lot.sourceType = .refund →
    ∀ packRefundId, lot.sourceMetadata.packRefundId = some packRefundId →
      packRefundId ∈ s.packRefunds.rows.map PackRefund.packRefundId ∧
        ∃ ledgerId source, lot.relatedLedgerId = some ledgerId ∧
          s.account.creditLedger.find ledgerId = some source
  /-- The audit rows of a command record exactly its credits. -/
  recorded : ∀ row ∈ s.packRefunds.rows,
    total (auditWeight row.packRefundId) s.account.creditLedger.rows = row.credits

theorem auditWeight_blind (packRefundId : PackRefundId) : idBlind (auditWeight packRefundId) := fun _ _ => rfl

theorem auditWeight_aged {packRefundId : PackRefundId} {old new : Lot} (aged : Aged old new) :
    auditWeight packRefundId new = auditWeight packRefundId old := by
  unfold auditWeight
  rw [aged.sourceType, aged.sourceMetadata, aged.initialAmount]

/-- What a compensation would put back is what the command's audit rows recorded. -/
theorem Sound.restoredCredits_eq (sound : Sound s) (packRefundId : PackRefundId) :
    restoredCredits s.account packRefundId =
      total (auditWeight packRefundId) s.account.creditLedger.rows := by
  unfold restoredCredits refundAudits
  rw [total_filterMap_eq Lot.initialAmount, total_filter]
  · rfl
  · intro audit member
    obtain ⟨inRows, named⟩ := List.mem_filter.mp member
    simp only [Bool.and_eq_true, beq_iff_eq] at named
    obtain ⟨-, ledgerId, source, related, found⟩ := sound.audit audit inRows named.1 _ named.2
    exact ⟨(audit, source), by simp [related, found], rfl⟩

theorem Sound.restored (sound : Sound s) {row : PackRefund} (member : row ∈ s.packRefunds.rows) :
    restoredCredits s.account row.packRefundId = row.credits :=
  (sound.restoredCredits_eq _).trans (sound.recorded row member)

/-- A lot that counts as the pack's names the pack's order. -/
theorem Sound.packLot_pertains (sound : Sound s) {order : Order} (member : order ∈ s.orders.rows) :
    ∀ lot ∈ s.account.creditLedger.rows, packLot order lot = true → pertains order.orderId lot = true := by
  intro lot inLedger ofPack
  simp only [packLot, Bool.and_eq_true, Bool.or_eq_true, beq_iff_eq] at ofPack
  rcases ofPack.2 with named | ⟨attached, same⟩
  · simpa [pertains] using named
  · obtain ⟨session, session_⟩ := Option.isSome_iff_exists.mp attached
    rw [session_] at same
    have owner := sound.sessions order member session session_
    have named := sound.ledger.session lot inLedger session same
    rw [owner] at named
    simpa [pertains] using named

theorem fundedPack_write (write : Write cfg hands s s') {orderId : OrderId} (funded : fundedPack s orderId) :
    fundedPack s' orderId := by
  obtain ⟨old, found, pack, status⟩ := funded
  obtain ⟨new, here, moved⟩ := write.order_kept found
  exact ⟨new, here, moved.orderType.trans pack, moved.funded status⟩

theorem proper_of_loose {event : AccountEvent} (loose : event.loose = true) : proper event := by
  cases event with
  | addCredits params => cases loose
  | _ => trivial

/-- A loose operation posts lots only against orders the ledger already names. -/
theorem loose_posts {now : Time} {event : AccountEvent} (sound : Sound s) (loose : event.loose = true)
    {lot : Lot} (member : lot ∈ event.posted now s.account) (source : lot.sourceType ≠ .refund)
    {orderId : OrderId} (named : lot.sourceReferenceId = some (.order orderId)) : fundedPack s orderId := by
  cases event with
  | redeemPromo campaign creditsAmount expiresAt =>
    rw [AccountEvent.posted, List.mem_singleton] at member
    subst member
    cases named
  | grantAdjustment amount =>
    rw [AccountEvent.posted, List.mem_singleton] at member
    subst member
    cases named
  | returnCredits letterId =>
    obtain ⟨consumed, inLots, rfl⟩ := List.mem_map.mp member
    obtain ⟨c, inRows, -, found, -⟩ := mem_consumedLots (mem_returnedLots inLots).1
    obtain ⟨lot, found', kind⟩ := sound.ledger.consumed c inRows
    rw [found] at found'
    cases found'
    exact sound.lotOrder _ (Table.find_mem found) kind orderId named
  | revokeWholePack order cause =>
    obtain ⟨entry, -, rfl⟩ := List.mem_map.mp member
    exact absurd rfl source
  | removeCredits amount => cases member
  | markExpiredEntries => cases member
  | reconcileBalances => cases member
  | blockSends reason => cases member
  | _ => cases loose

/-- The operation a write makes on the account, if it makes one. -/
theorem Sound.account_effect (sound : Sound s) (write : Write cfg hands s s') :
    s'.account = s.account ∨ ∃ event, applyAccountEvent s.now s.account event = .ok s'.account ∧
      proper event ∧
      (∀ lot ∈ event.posted s.now s.account, lot.sourceType ≠ .refund →
        ∀ orderId, lot.sourceReferenceId = some (.order orderId) → fundedPack s' orderId) ∧
      ∀ order credits packRefundId, event = .revokeProportionally order credits packRefundId →
        packRefundId ∉ s.packRefunds.rows.map PackRefund.packRefundId ∧
          packRefundId ∈ s'.packRefunds.rows.map PackRefund.packRefundId := by
  have compensation : ∀ {row : PackRefund} (lot : Lot),
      lot ∈ AccountEvent.posted s.now s.account (.compensatePackRefund row) →
      ∀ orderId, lot.sourceReferenceId = some (.order orderId) → orderId = row.orderId := by
    intro row lot member orderId named
    obtain ⟨slice, -, rfl⟩ := List.mem_map.mp member
    cases named
    rfl
  cases write with
  | @account event after loose returned whole applied =>
    refine .inr ⟨event, applied, ?_, ?_, ?_⟩
    · exact proper_of_loose loose
    · exact fun lot member source orderId named => loose_posts sound loose member source named
    · rintro order credits packRefundId rfl
      cases loose
  | @restore order current disputeId found pack disputed handed reversed =>
    refine .inr ⟨.compensateDisputedPacks order disputeId, rfl, trivial, ?_, fun _ _ _ same => AccountEvent.noConfusion same⟩
    intro lot member source orderId named
    simp only [AccountEvent.posted] at member
    split at member
    · cases member
    · obtain ⟨entry, -, rfl⟩ := List.mem_map.mp member
      cases named
      exact ⟨current, found, pack, by rw [disputed]; decide⟩
  | @fulfilPack old new session after found pack unfunded moved status attached granted checked =>
    refine .inr ⟨.addCredits (packGrant new session), granted, ?_, ?_,
      fun _ _ _ same => AccountEvent.noConfusion same⟩
    · refine ⟨rfl, fun named same => ?_⟩
      cases same
      have owns : old.ownsSession := sound.sessions old (Table.find_mem found)
      have owner := moved.session owns session attached
      rw [owner]
      rfl
    · intro lot member source orderId named
      rw [AccountEvent.posted, List.mem_singleton] at member
      subst member
      cases named
      refine ⟨new.stamped s.now, Table.find_put_self _ found, ?_, ?_⟩
      · exact moved.orderType.trans pack
      · show new.status ∈ _
        rw [status]
        decide
  | @regrantPack order session after found pack status attached missing granted =>
    refine .inr ⟨.addCredits (packGrant order session), granted, ?_, ?_,
      fun _ _ _ same => AccountEvent.noConfusion same⟩
    · refine ⟨rfl, fun named same => ?_⟩
      cases same
      have owner := sound.sessions order (Table.find_mem found) session attached
      rw [owner]
      rfl
    · intro lot member source orderId named
      rw [AccountEvent.posted, List.mem_singleton] at member
      subst member
      cases named
      exact ⟨order, found, pack, by rw [status]; decide⟩
  | @mailPrepaid draft letterId after drafted pending fresh deducted =>
    exact .inr ⟨.deductCredits draft.requiredCredits letterId, deducted, trivial,
      fun _ member => absurd member List.not_mem_nil,
      fun _ _ _ same => AccountEvent.noConfusion same⟩
  | @withdraw order row after exhausted found pack fulfilled named credits amount state free below fresh revoked =>
    refine .inr ⟨.revokeProportionally order row.credits row.packRefundId, ?_, trivial, ?_, ?_⟩
    · simp [applyAccountEvent, revoked, Except.map]
    · intro lot member source
      obtain ⟨take, -, rfl⟩ := List.mem_map.mp member
      exact absurd rfl source
    · intro order' credits' packRefundId same
      cases same
      exact ⟨fresh, by simp⟩
  | @compensate row ended order found inUse owned unheld restores handed same checked =>
    refine .inr ⟨.compensatePackRefund row, rfl, trivial, ?_, fun _ _ _ same => AccountEvent.noConfusion same⟩
    intro lot member source orderId named
    rw [compensation lot member orderId named]
    have write : Write cfg hands s _ := .compensate found inUse owned unheld restores handed same checked
    exact fundedPack_write write (sound.command _ (Table.find_mem found)).1
  | @compensateNothing row new found inUse owned restores handed same =>
    refine .inr ⟨.compensatePackRefund row, rfl, trivial, ?_, fun _ _ _ same => AccountEvent.noConfusion same⟩
    intro lot member source orderId named
    rw [compensation lot member orderId named]
    exact (sound.command _ (Table.find_mem found)).1
  | _ => exact .inl rfl

theorem inUse_of_inFlight {row : PackRefund} (inFlight : row.inFlight = true) :
    row.inUse = true := by
  simp only [PackRefund.inFlight, PackRefund.inUse, Bool.or_eq_true] at inFlight ⊢
  exact .inl inFlight

/-- What a write does to the refund commands: a row's state moves, or phase 1
records a new one. -/
theorem Sound.refunds_effect (sound : Sound s) (write : Write cfg hands s s') :
    s'.packRefunds = s.packRefunds ∨
    (∃ old new : PackRefund, s.packRefunds.find new.packRefundId = some old ∧ new.orderId = old.orderId ∧
      new.credits = old.credits ∧ new.amountCents = old.amountCents ∧
      (new.inUse = true → old.inUse = true) ∧ s'.packRefunds = s.packRefunds.put new) ∨
    ∃ (row : PackRefund) (order : Order), fundedPack s row.orderId ∧ 0 < row.credits ∧ 0 < row.amountCents ∧
      applyAccountEvent s.now s.account (.revokeProportionally order row.credits row.packRefundId) =
        .ok s'.account ∧
      (∀ other ∈ s.packRefunds.rows, other.orderId = row.orderId → other.inUse = false) ∧ ∃ fresh : row.packRefundId ∉ s.packRefunds.rows.map PackRefund.packRefundId,
        s'.packRefunds = s.packRefunds.insert row fresh := by
  cases write with
  | @withdraw order row after exhausted found pack fulfilled named credits amount state free below fresh revoked =>
    exact .inr (.inr ⟨row, order, ⟨_, by rw [named]; exact found, pack, by rw [fulfilled]; decide⟩, credits, amount,
      by simp [applyAccountEvent, revoked, Except.map], by rw [named]; exact free, fresh, rfl⟩)
  | await found waits =>
    refine .inr (.inl ⟨_, _, found, waits.orderId, waits.credits, waits.amountCents, fun inUse => ?_, rfl⟩)
    rcases waits.status with ⟨before, -⟩ | ⟨-, failed⟩
    · exact inUse_of_inFlight before
    · simp [PackRefund.inUse, failed] at inUse
  | orphan found missing =>
    obtain ⟨order, owner, -⟩ := (sound.command _ (Table.find_mem found)).1
    rw [missing] at owner
    cases owner
  | @confirm row order refundId found inFlight owner checked =>
    exact .inr (.inl ⟨row, { row with status := .succeeded, stripeRefundId := some refundId }, found, rfl, rfl,
      rfl, fun _ => inUse_of_inFlight inFlight, rfl⟩)
  | @compensate row ended order found inUse owner unheld restores handed same checked =>
    have key : ended.packRefundId = row.packRefundId := by rw [same]
    exact .inr (.inl ⟨row, ended, by rw [key]; exact found, by rw [same], by rw [same], by rw [same],
      fun _ => inUse, rfl⟩)
  | compensateNothing found inUse owned restores handed same =>
    have some := (sound.command _ (Table.find_mem found)).2.1
    rw [sound.restored (Table.find_mem found)] at restores
    omega
  | _ => exact .inl rfl

/-- Every command after a write was there before, or is phase 1's. -/
theorem Sound.command_origin (sound : Sound s) (write : Write cfg hands s s') {row : PackRefund}
    (member : row ∈ s'.packRefunds.rows) :
    (∃ old ∈ s.packRefunds.rows, old.packRefundId = row.packRefundId ∧ old.orderId = row.orderId ∧
      old.credits = row.credits ∧ old.amountCents = row.amountCents) ∨
    (row.packRefundId ∉ s.packRefunds.rows.map PackRefund.packRefundId ∧ fundedPack s row.orderId ∧
      0 < row.credits ∧ 0 < row.amountCents) := by
  rcases sound.refunds_effect write with same | ⟨old, new, found, order, credits, amount, -, put⟩ |
    ⟨inserted, -, funded, credits, amount, -, -, fresh, insert⟩
  · rw [same] at member
    exact .inl ⟨row, member, rfl, rfl, rfl, rfl⟩
  · rw [put] at member
    rcases Table.mem_put.mp member with ⟨kept, -⟩ | ⟨rfl, -⟩
    · exact .inl ⟨row, kept, rfl, rfl, rfl, rfl⟩
    · exact .inl ⟨old, Table.find_mem found, Table.find_key found, order.symm, credits.symm, amount.symm⟩
  · rw [insert, Table.insert_rows, List.mem_append, List.mem_singleton] at member
    rcases member with kept | rfl
    · exact .inl ⟨row, kept, rfl, rfl, rfl, rfl⟩
    · exact .inr ⟨fresh, funded, credits, amount⟩

theorem Sound.command_kept (sound : Sound s) (write : Write cfg hands s s') {packRefundId : PackRefundId}
    (member : packRefundId ∈ s.packRefunds.rows.map PackRefund.packRefundId) :
    packRefundId ∈ s'.packRefunds.rows.map PackRefund.packRefundId := by
  rcases sound.refunds_effect write with same | ⟨old, new, -, -, -, -, -, put⟩ |
    ⟨row, -, -, -, -, -, -, fresh, insert⟩
  · rw [same]
    exact member
  · rw [put, Table.put_keys]
    exact member
  · rw [insert, Table.insert_rows, List.map_append]
    exact List.mem_append_left _ member

/-- The lot an audit row names is on record after the operation that posts it. -/
theorem posted_audit {now : Time} {account after : Account} {event : AccountEvent}
    (applied : applyAccountEvent now account event = .ok after) (fair : proper event) {lot : Lot}
    (member : lot ∈ event.posted now account) (refund : lot.sourceType = .refund)
    {packRefundId : PackRefundId} (named : lot.sourceMetadata.packRefundId = some packRefundId) :
    (∃ order credits, event = .revokeProportionally order credits packRefundId) ∧
      ∃ ledgerId source, lot.relatedLedgerId = some ledgerId ∧
        after.creditLedger.find ledgerId = some source := by
  cases event with
  | addCredits params =>
    rw [AccountEvent.posted, List.mem_singleton] at member
    subst member
    rw [grantedLot, fair.1] at refund
    cases refund
  | redeemPromo campaign creditsAmount expiresAt =>
    rw [AccountEvent.posted, List.mem_singleton] at member
    subst member
    cases refund
  | grantAdjustment amount =>
    rw [AccountEvent.posted, List.mem_singleton] at member
    subst member
    cases refund
  | returnCredits letterId =>
    obtain ⟨consumed, -, rfl⟩ := List.mem_map.mp member
    cases refund
  | revokeWholePack order cause =>
    obtain ⟨entry, -, rfl⟩ := List.mem_map.mp member
    cases named
  | revokeProportionally order credits refundId =>
    obtain ⟨take, inTakes, rfl⟩ := List.mem_map.mp member
    cases named
    obtain ⟨later, here, -⟩ := (applyAccountEvent_ledger applied).find (Table.find_of_mem (mem_drawn inTakes).1)
    exact ⟨⟨order, credits, rfl⟩, take.1.ledgerId, later, rfl, here⟩
  | compensatePackRefund row =>
    obtain ⟨slice, -, rfl⟩ := List.mem_map.mp member
    cases refund
  | compensateDisputedPacks order disputeId =>
    simp only [AccountEvent.posted] at member
    split at member
    · cases member
    · obtain ⟨entry, -, rfl⟩ := List.mem_map.mp member
      cases refund
  | _ => cases member

theorem auditWeight_posted {now : Time} {account after : Account} {event : AccountEvent}
    {packRefundId : PackRefundId} (applied : applyAccountEvent now account event = .ok after)
    (fair : proper event)
    (other : ∀ order credits, event ≠ .revokeProportionally order credits packRefundId) :
    total (auditWeight packRefundId) (event.posted now account) = 0 := by
  refine total_eq_zero fun lot member => ?_
  unfold auditWeight
  split
  · rename_i audit
    simp only [Bool.and_eq_true, beq_iff_eq] at audit
    obtain ⟨⟨order, credits, same⟩, -⟩ := posted_audit applied fair member audit.1 audit.2
    exact absurd same (other order credits)
  · rfl

/-- The audit rows of a withdrawal record what it took. -/
theorem auditWeight_withdrawal {now : Time} {account : Account} {order : Order} {credits : Nat}
    {packRefundId : PackRefundId}
    (enough : credits ≤ total Lot.remainingAmount (liveLots now (packLot order) account.creditLedger)) :
    total (auditWeight packRefundId)
      (AccountEvent.posted now account (.revokeProportionally order credits packRefundId)) = credits := by
  have weight : ∀ take, auditWeight packRefundId (partialRefundAudit now order packRefundId take) = take.2 := by
    intro take
    simp [auditWeight, partialRefundAudit]
  rw [AccountEvent.posted, total_map]
  simp only [weight]
  exact (takeFifo_total _ _ _).trans (Nat.min_eq_left enough)

/-- An audit row names a command on record. -/
theorem Sound.unrecorded (sound : Sound s) {packRefundId : PackRefundId}
    (fresh : packRefundId ∉ s.packRefunds.rows.map PackRefund.packRefundId) :
    total (auditWeight packRefundId) s.account.creditLedger.rows = 0 := by
  refine total_eq_zero fun lot inLedger => ?_
  unfold auditWeight
  split
  · rename_i audit
    simp only [Bool.and_eq_true, beq_iff_eq] at audit
    exact absurd (sound.audit lot inLedger audit.1 _ audit.2).1 fresh
  · rfl

theorem auditWeight_applied {now : Time} {account after : Account} {event : AccountEvent}
    {packRefundId : PackRefundId} (applied : applyAccountEvent now account event = .ok after) :
    total (auditWeight packRefundId) after.creditLedger.rows =
      total (auditWeight packRefundId) account.creditLedger.rows +
        total (auditWeight packRefundId) (event.posted now account) :=
  (applyAccountEvent_ledger applied).total_eq (auditWeight_blind _) fun _ _ aged => auditWeight_aged aged

/-- A write records a new command's credits in its audit rows, and touches no other command's. -/
theorem Sound.recorded_write (sound : Sound s) (write : Write cfg hands s s') {row : PackRefund}
    (member : row ∈ s'.packRefunds.rows) :
    total (auditWeight row.packRefundId) s'.account.creditLedger.rows = row.credits := by
  -- A command that was on record keeps its audit rows: only phase 1 posts any, under a new id.
  have kept : ∀ old ∈ s.packRefunds.rows,
      total (auditWeight old.packRefundId) s'.account.creditLedger.rows = old.credits := by
    intro old inRows
    rcases sound.account_effect write with same | ⟨event, applied, fair, -, fresh⟩
    · rw [same]
      exact sound.recorded old inRows
    · rw [auditWeight_applied applied, sound.recorded old inRows,
        auditWeight_posted applied fair fun order credits same =>
          (fresh order credits _ same).1 (List.mem_map_of_mem inRows), Nat.add_zero]
  rcases sound.refunds_effect write with same | ⟨old, new, found, -, credits, -, -, put⟩ |
    ⟨inserted, order, -, -, -, applied, -, fresh, insert⟩
  · rw [same] at member
    exact kept row member
  · rw [put] at member
    rcases Table.mem_put.mp member with ⟨old, -⟩ | ⟨rfl, -⟩
    · exact kept row old
    · rw [credits, ← Table.find_key found]
      exact kept old (Table.find_mem found)
  · rw [insert, Table.insert_rows, List.mem_append, List.mem_singleton] at member
    rcases member with old | rfl
    · exact kept row old
    · rw [auditWeight_applied applied, sound.unrecorded fresh, Nat.zero_add]
      refine auditWeight_withdrawal ?_
      simp only [applyAccountEvent] at applied
      cases result : revokePackCreditsProportionally s.now s.account order row.credits row.packRefundId with
      | error reason =>
        rw [result] at applied
        cases applied
      | ok pair =>
        obtain ⟨after, exhausted⟩ := pair
        exact (revokePackCreditsProportionally_ok result).2.1

/-- The lots a write leaves are lots it found, aged, or lots its operation posted. -/
theorem Sound.lot_origin (sound : Sound s) (write : Write cfg hands s s') {lot : Lot}
    (member : lot ∈ s'.account.creditLedger.rows) :
    (∃ old ∈ s.account.creditLedger.rows, Aged old lot) ∨
      ∃ event, applyAccountEvent s.now s.account event = .ok s'.account ∧ proper event ∧
        ∃ posted ∈ event.posted s.now s.account, Stored posted lot ∧
          (posted.sourceType ≠ .refund → ∀ orderId,
            posted.sourceReferenceId = some (.order orderId) → fundedPack s' orderId) ∧
          ∀ order credits packRefundId, event = .revokeProportionally order credits packRefundId →
            packRefundId ∈ s'.packRefunds.rows.map PackRefund.packRefundId := by
  rcases sound.account_effect write with same | ⟨event, applied, fair, funded, named⟩
  · rw [same] at member
    exact .inl ⟨lot, member, .refl lot⟩
  · rcases (applyAccountEvent_ledger applied).mem member with old | ⟨posted, inPosted, stored⟩
    · exact .inl old
    · exact .inr ⟨event, applied, fair, posted, inPosted, stored, funded posted inPosted,
        fun order credits packRefundId same => (named order credits packRefundId same).2⟩

theorem Sound.lot_kept (sound : Sound s) (write : Write cfg hands s s') {lot : Lot}
    (member : lot ∈ s.account.creditLedger.rows) :
    ∃ new ∈ s'.account.creditLedger.rows, Aged lot new := by
  rcases sound.account_effect write with same | ⟨event, applied, -⟩
  · exact ⟨lot, by rw [same]; exact member, .refl lot⟩
  · exact (applyAccountEvent_ledger applied).kept member

theorem Sound.lot_found (sound : Sound s) (write : Write cfg hands s s') {ledgerId : LedgerId} {lot : Lot}
    (found : s.account.creditLedger.find ledgerId = some lot) :
    ∃ new, s'.account.creditLedger.find ledgerId = some new := by
  rcases sound.account_effect write with same | ⟨event, applied, -⟩
  · exact ⟨lot, by rw [same]; exact found⟩
  · obtain ⟨new, here, -⟩ := (applyAccountEvent_ledger applied).find found
    exact ⟨new, here⟩

/-- A pack becomes fulfilled by its grant, and by nothing else. -/
theorem Sound.granted_write (sound : Sound s) (write : Write cfg hands s s') {order : Order}
    (member : order ∈ s'.orders.rows) (pack : order.orderType = .letterPack)
    (fulfilled : order.status = .fulfilled) :
    ∃ lot ∈ s'.account.creditLedger.rows, lot.sourceType = .purchase ∧
      lot.sourceReferenceId = some (.order order.orderId) := by
  have kept : ∀ old ∈ s.orders.rows, old.orderType = .letterPack → old.status = .fulfilled →
      ∃ lot ∈ s'.account.creditLedger.rows, lot.sourceType = .purchase ∧
        lot.sourceReferenceId = some (.order old.orderId) := by
    intro old inRows oldPack oldFulfilled
    obtain ⟨lot, inLedger, purchase, named⟩ := sound.granted old inRows oldPack oldFulfilled
    obtain ⟨new, here, aged⟩ := sound.lot_kept write inLedger
    exact ⟨new, here, aged.sourceType.trans purchase, aged.sourceReferenceId.trans named⟩
  have put : ∀ old new : Order, s.orders.find new.orderId = some old → old.Moves new →
      (new.orderType = .letterPack → new.status = .fulfilled → old.status = .fulfilled) →
      order ∈ (s.orders.put (new.stamped s.now)).rows →
      ∃ lot ∈ s'.account.creditLedger.rows, lot.sourceType = .purchase ∧
        lot.sourceReferenceId = some (.order order.orderId) := by
    intro old new found moved still inPut
    rcases Table.mem_put.mp inPut with ⟨inRows, -⟩ | ⟨rfl, -⟩
    · exact kept order inRows pack fulfilled
    · obtain ⟨lot, inLedger, purchase, named⟩ := kept old (Table.find_mem found)
        (moved.orderType.symm.trans pack) (still pack fulfilled)
      exact ⟨lot, inLedger, purchase, by rw [named, ← moved.orderId]; rfl⟩
  cases write with
  | openOrder opened checked fresh =>
    rcases List.mem_append.mp member with old | new
    · exact kept order old pack fulfilled
    · rw [List.mem_singleton.mp new, opened.status] at fulfilled
      cases fulfilled
  | moveOrder found moved checked => exact put _ _ found moved.toMoves moved.ungranted member
  | refundOrder found moved credits status whole dated emptied checked =>
    exact put _ _ found moved (fun _ final => by rw [status] at final; cases final) member
  | @fulfilPack old new session after found oldPack unfunded moved status attached granted checked =>
    rcases Table.mem_put.mp member with ⟨inRows, -⟩ | ⟨rfl, -⟩
    · exact kept order inRows pack fulfilled
    · obtain ⟨-, ledger⟩ := addCreditsToLedgerWithClient_ok granted
      refine ⟨{ grantedLot s.now (packGrant new session) with ledgerId := s.account.creditLedger.nextKey },
        ?_, rfl, rfl⟩
      rw [ledger]
      exact List.mem_append_right _ List.mem_cons_self
  | mailOrder found jit unfunded moved status checked =>
    exact put _ _ found moved.toMoves (fun _ final => by rw [status] at final; cases final) member
  | @withdraw order' row after exhausted found =>
    have moved : order'.Moves { order' with creditsRefunded := order'.creditsRefunded + row.credits } :=
      .of_same_status rfl rfl rfl id
    exact put order' { order' with creditsRefunded := order'.creditsRefunded + row.credits } found moved
      (fun _ h => h) member
  | confirm refundId found inFlight owner checked =>
    exact put _ _ (by rw [confirmedOrder_moves.orderId, Table.find_key owner]; exact owner) confirmedOrder_moves
      (fun _ h => h) member
  | compensate found inUse owner unheld restores handed same checked =>
    exact put _ _ (by rw [uncreditedOrder_moves.orderId, Table.find_key owner]; exact owner) uncreditedOrder_moves
      (fun _ h => h) member
  | _ => exact kept order member pack fulfilled

theorem Sound.write (sound : Sound s) (write : Write cfg hands s s') : Sound s' where
  ledger := by
    rcases sound.account_effect write with same | ⟨event, applied, fair, -⟩
    · rw [same]
      exact sound.ledger
    · exact sound.ledger.apply fair applied
  sessions order member := by
    rcases write.order_origin (Table.find_of_mem member) with ⟨old, found, moved⟩ | ⟨-, opened⟩
    · exact moved.session (sound.sessions old (Table.find_mem found))
    · exact opened.session
  lotOrder lot member source orderId named := by
    rcases sound.lot_origin write member with ⟨old, inLedger, aged⟩ | ⟨event, -, -, posted, -, stored, funded, -⟩
    · rw [aged.sourceType] at source
      rw [aged.sourceReferenceId] at named
      exact fundedPack_write write (sound.lotOrder old inLedger source orderId named)
    · rw [stored] at source named
      exact funded source orderId named
  granted order member pack fulfilled := sound.granted_write write member pack fulfilled
  command row member := by
    rcases sound.command_origin write member with ⟨old, inRows, -, order, credits, amount⟩ |
      ⟨-, funded, credits, amount⟩
    · obtain ⟨funded, some, worth⟩ := sound.command old inRows
      rw [order] at funded
      exact ⟨fundedPack_write write funded, by omega, amount ▸ worth⟩
    · exact ⟨fundedPack_write write funded, credits, amount⟩
  audit lot member refund packRefundId named := by
    rcases sound.lot_origin write member with ⟨old, inLedger, aged⟩ |
      ⟨event, applied, fair, posted, inPosted, stored, -, recorded⟩
    · rw [aged.sourceType] at refund
      rw [aged.sourceMetadata] at named
      obtain ⟨onRecord, ledgerId, source, related, found⟩ := sound.audit old inLedger refund _ named
      obtain ⟨later, here⟩ := sound.lot_found write found
      exact ⟨sound.command_kept write onRecord, ledgerId, later, aged.relatedLedgerId.trans related, here⟩
    · rw [stored] at refund named
      obtain ⟨⟨order, credits, same⟩, ledgerId, source, related, found⟩ :=
        posted_audit applied fair inPosted refund named
      exact ⟨recorded order credits packRefundId same, ledgerId, source, by rw [stored]; exact related, found⟩
  recorded row member := sound.recorded_write write member

/-- Every state an account's commerce reaches is sound. -/
theorem Reachable.sound {allowed : Store → Event → Prop} (reach : Reachable cfg allowed s) : Sound s := by
  refine Commerce.Reachable.invariant reach ?_ fun _ _ _ holds write => holds.write write
  exact {
    ledger := ⟨fun _ member => absurd member List.not_mem_nil, fun _ member => absurd member List.not_mem_nil,
      fun _ member => absurd member List.not_mem_nil, fun _ member => absurd member List.not_mem_nil⟩
    sessions := fun _ member => absurd member List.not_mem_nil
    lotOrder := fun _ member => absurd member List.not_mem_nil
    granted := fun _ member => absurd member List.not_mem_nil
    command := fun _ member => absurd member List.not_mem_nil
    audit := fun _ member => absurd member List.not_mem_nil
    recorded := fun _ member => absurd member List.not_mem_nil }

end LetterIRL.Pack
