import LetterIRL.Pack.HandedBack

namespace LetterIRL.Pack
open Lib Ledger Commerce Relation
variable {cfg : Config} {s s' : Store} {orderId : OrderId}

/-! Disputes of a pack whose money went back. -/

/-- The dispute's payment is the order's. -/
def DisputeOf (orderId : OrderId) (s : Store) (event : DisputeEvent) : Prop :=
  ∃ order, s.orderOfIntent event.paymentIntent = some order ∧ order.orderId = orderId

/-- The dispute took credits of the pack that nothing has made good. -/
def TookCredits (ledger : CreditLedger) (order : Order) (disputeId : DisputeId) : Prop :=
  ∃ lot ∈ ledger.rows, packLot order lot = true ∧ lot.status = .revoked ∧ compensatedLot ledger lot = false ∧
    ∃ audit ∈ ledger.rows, disputeAudit disputeId lot audit = true ∧
      0 < audit.sourceMetadata.remainingAtRevocation

/-- The event closes a dispute favourably that took credits of the pack, and another
dispute overwrote the status its refund left. -/
structure RestoresTaken (s : Store) (orderId : OrderId) (event : DisputeEvent) : Prop where
  fresh : event.eventId ∉ s.webhookEvents.rows.map WebhookEvent.eventId
  closes : event.closes = true
  favourable : event.status ∈ FAVOURABLE_DISPUTE_STATUSES
  taken : ∃ order, s.orders.find orderId = some order ∧ order.status = .disputed ∧
    TookCredits s.account.creditLedger order event.disputeId

theorem disputeRestores_iff {ledger : CreditLedger} {order : Order} {disputeId : DisputeId} :
    0 < total Prod.snd (disputeRestores ledger order disputeId) ↔ TookCredits ledger order disputeId := by
  constructor
  · intro some
    obtain ⟨entry, member⟩ := List.exists_mem_of_ne_nil (disputeRestores ledger order disputeId) (by
      intro none
      rw [none, total_nil] at some
      exact absurd some (Nat.lt_irrefl 0))
    simp only [disputeRestores, List.mem_filter, List.mem_flatMap, List.mem_map, Bool.and_eq_true, beq_iff_eq,
      Bool.not_eq_true', decide_eq_true_eq] at member
    obtain ⟨⟨lot, ⟨inLedger, ⟨ofPack, revoked⟩, open_⟩, audit, ⟨inAudits, taken⟩, rfl⟩, positive⟩ := member
    exact ⟨lot, inLedger, ofPack, revoked, open_, audit, inAudits, taken, positive⟩
  · rintro ⟨lot, inLedger, ofPack, revoked, open_, audit, inAudits, taken, positive⟩
    have member : (lot, audit.sourceMetadata.remainingAtRevocation) ∈ disputeRestores ledger order disputeId := by
      simp only [disputeRestores, List.mem_filter, List.mem_flatMap, List.mem_map, Bool.and_eq_true, beq_iff_eq,
        Bool.not_eq_true', decide_eq_true_eq]
      exact ⟨⟨lot, ⟨inLedger, ⟨ofPack, revoked⟩, open_⟩, audit, ⟨inAudits, taken⟩, rfl⟩, positive⟩
    exact positive.trans_le (Lib.le_total (f := Prod.snd) member)

/-- A dispute event hands letters of a refunded pack back exactly when it closes a
dispute favourably that took some, after another dispute overwrote the status. -/
theorem dispute_handsLettersBack {event : DisputeEvent} {order : Order}
    (found : s.orders.find orderId = some order) (pack : order.orderType = .letterPack)
    (status : order.status = .refunded ∨ order.status = .refundPending ∨ order.status = .disputed)
    (named : DisputeOf orderId s event) (committed : step cfg s (.dispute event) = .ok s') :
    HandsLettersBack orderId s s' ↔ RestoresTaken s orderId event := by
  obtain ⟨matched, ofIntent, mine⟩ := named
  have here := orderOfIntent_find ofIntent
  rw [mine, found] at here
  cases here
  have taken : RestoresTaken s orderId event → order.status = .disputed ∧
      TookCredits s.account.creditLedger order event.disputeId := by
    intro restores
    obtain ⟨other, atOrder, disputed, took⟩ := restores.taken
    cases found.symm.trans atOrder
    exact ⟨disputed, took⟩
  rcases processDisputeEvent_account committed with ⟨same, never⟩ | ⟨other, fresh, again, same⟩
  · refine ⟨fun back => absurd back (unmoved_handsNothing (by rw [same]; rfl)), fun restores => ?_⟩
    obtain ⟨disputed, -⟩ := taken restores
    exact absurd ⟨order, restores.fresh, ofIntent, pack, restores.closes, restores.favourable,
      by rw [disputed]; decide, by rw [disputed]; decide⟩ never
  cases ofIntent.symm.trans again
  unfold disputedAccount at same
  rw [if_neg (not_not.mpr pack)] at same
  split at same
  · rename_i loss
    refine ⟨fun back => absurd back (reversal_handsNothing same), fun restores => ?_⟩
    have favourable := restores.favourable
    simp only [FAVOURABLE_DISPUTE_STATUSES, List.mem_cons, List.not_mem_nil, or_false] at favourable
    rcases favourable with won | won <;> rw [won] at loss <;> exact absurd loss (by decide)
  split at same
  swap
  · rename_i other
    refine ⟨fun back => absurd back (unmoved_handsNothing same), fun restores => ?_⟩
    exact absurd (by simp [restores.closes, restores.favourable]) other
  rename_i favourable
  simp only [Bool.and_eq_true, decide_eq_true_eq] at favourable
  by_cases guarded : order.status = .refunded ∨ order.status = .refundPending
  · have kept : compensateDisputedPacks s.now s.account order event.disputeId = s.account := by
      rw [compensateDisputedPacks, if_pos guarded]
    rw [kept] at same
    refine ⟨fun back => absurd back (unmoved_handsNothing same), fun restores => ?_⟩
    obtain ⟨disputed, -⟩ := taken restores
    rw [disputed] at guarded
    exact absurd guarded (by decide)
  · have disputed : order.status = .disputed := by
      rcases status with refunded | pending | disputed
      · exact absurd (.inl refunded) guarded
      · exact absurd (.inr pending) guarded
      · exact disputed
    have credits : (compensateDisputedPacks s.now s.account order event.disputeId).credits =
        s.account.credits + total Prod.snd (disputeRestores s.account.creditLedger order event.disputeId) := by
      rw [compensateDisputedPacks, if_neg guarded]
    have purchased : (compensateDisputedPacks s.now s.account order event.disputeId).creditsPurchased =
        s.account.creditsPurchased := by
      rw [compensateDisputedPacks, if_neg guarded]
    constructor
    · intro back
      by_contra never
      have nothing : ¬TookCredits s.account.creditLedger order event.disputeId := fun took =>
        never ⟨fresh, favourable.1, favourable.2, order, found, disputed, took⟩
      have zero : total Prod.snd (disputeRestores s.account.creditLedger order event.disputeId) = 0 := by
        by_contra some
        exact nothing (disputeRestores_iff.mp (Nat.pos_of_ne_zero some))
      have applied : applyAccountEvent s.now s.account (.compensateDisputedPacks order event.disputeId) =
          .ok (compensateDisputedPacks s.now s.account order event.disputeId) := rfl
      refine absurd back (not_handsLettersBack applied same ?_ (by omega) (by omega))
      intro lot posted
      simp only [AccountEvent.posted, if_neg guarded] at posted
      obtain ⟨entry, member, rfl⟩ := List.mem_map.mp posted
      have share : entry.2 ≤ total Prod.snd (disputeRestores s.account.creditLedger order event.disputeId) :=
        Lib.le_total (f := Prod.snd) member
      show entry.2 = 0
      omega
    · intro restores
      obtain ⟨-, took⟩ := taken restores
      have some := disputeRestores_iff.mpr took
      refine .inr (.inl ?_)
      rw [same]
      show s.account.credits < (compensateDisputedPacks s.now s.account order event.disputeId).credits
      omega

/-- After a full refund of the pack the refund stays dated in every state, its status
is never that of a pack to spend from, and a dispute event hands letters back
exactly when it closes a dispute favourably that took some before the refund, after
another one overwrote the status. -/
theorem refunded_pack_disputes {before start : Store} {event : Event}
    (turns : TurnsRefunded cfg orderId before event start) {later : Store}
    (run : Reach (step cfg) anyStep start later) :
    (∃ order, later.orders.find orderId = some order ∧ order.refundedAt.isSome = true ∧
      (order.status = .refunded ∨ order.status = .refundPending ∨ order.status = .disputed)) ∧
    ∀ dispute after, DisputeOf orderId later dispute → step cfg later (.dispute dispute) = .ok after →
      (HandsLettersBack orderId later after ↔ RestoresTaken later orderId dispute) := by
  obtain ⟨regular, old, gone, dated⟩ := turns.reversed
  obtain ⟨order, found, moved⟩ := run_order_kept regular run gone.found
  have pack : order.orderType = .letterPack := moved.orderType.trans gone.pack
  have still := moved.refunded dated
  have status : order.status = .refunded ∨ order.status = .refundPending ∨ order.status = .disputed := by
    refine moved.reversed (fun _ _ => ?_) pack still
    obtain ⟨was, new, -, here, -, -, refunded⟩ := turns.turned
    cases gone.found.symm.trans here
    exact .inl refunded
  exact ⟨⟨order, found, still, status⟩, fun dispute after named committed =>
    dispute_handsLettersBack found pack status named committed⟩

theorem refunded_pack_disputes_refunded :
    ∃ before start : Store, ∃ event : Event, TurnsRefunded {} (.placed 0) before event start ∧
      (∃ order, start.orders.find (.placed 0) = some order ∧ order.refundedAt.isSome = true ∧
        (order.status = .refunded ∨ order.status = .refundPending ∨ order.status = .disputed)) ∧
      ∀ dispute after, DisputeOf (.placed 0) start dispute → step {} start (.dispute dispute) = .ok after →
        (HandsLettersBack (.placed 0) start after ↔ RestoresTaken start (.placed 0) dispute) := by
  obtain ⟨before, start, reach, committed, turned⟩ := exists_step (step {}) {} turnsRefunded boughtPack
    (.refund (refundSucceeded 2 90 1000 none)) (by decide)
  have turns := turnsRefunded_sound reach committed turned
  exact ⟨before, start, _, turns, refunded_pack_disputes turns .start⟩

/-- A dispute takes the pack, the payment is refunded, a second dispute is opened, and
the first one is won: its credits go back to the refunded pack. -/
theorem refunded_pack_restored :
    ∃ before start later after : Store, ∃ event : Event, TurnsRefunded {} (.placed 0) before event start ∧
      Reach (step {}) anyStep start later ∧ DisputeOf (.placed 0) later (disputeWon 5 1) ∧
      step {} later (.dispute (disputeWon 5 1)) = .ok after ∧ HandsLettersBack (.placed 0) later after := by
  obtain ⟨before, start, reach, committed, turned⟩ := exists_step (step {}) {}
    (fun before start => turnsRefunded before start &&
      match step {} start (.dispute (disputeOpened 4 2)) with
      | .ok later =>
        (later.orderOfIntent (some 7)).any (fun order => order.orderId == .placed 0) &&
          match step {} later (.dispute (disputeWon 5 1)) with
          | .ok after => later.account.credits < after.account.credits
          | .error _ => false
      | .error _ => false)
    (boughtPack ++ [.dispute (disputeOpened 3 1)]) (.refund (refundSucceeded 2 90 1000 none)) (by decide)
  simp only [Bool.and_eq_true] at turned
  obtain ⟨turned, restored⟩ := turned
  cases opened : step {} start (.dispute (disputeOpened 4 2)) with
  | error reason => simp [opened] at restored
  | ok later =>
    simp only [opened, Bool.and_eq_true, Option.any_eq_true, beq_iff_eq] at restored
    obtain ⟨⟨order, ofIntent, named⟩, raised⟩ := restored
    cases won : step {} later (.dispute (disputeWon 5 1)) with
    | error reason => simp [won] at raised
    | ok after =>
      have more : later.account.credits < after.account.credits := by simpa [won] using raised
      exact ⟨before, start, later, after, _, turnsRefunded_sound reach committed turned,
        .next .start trivial opened, ⟨order, ofIntent, named⟩, won, .inr (.inl more)⟩

end LetterIRL.Pack
