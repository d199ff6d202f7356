import LetterIRL.Commerce.Step
import LetterIRL.Commerce.Writes

namespace LetterIRL.Commerce
open Lib Ledger Relation
variable {cfg : Config} {hands : Beneficiary → Prop} {s s' : Store}

/-! Every transaction is a chain of writes, and none but a settlement or a
withdrawal aborts on a CHECK of `orders`. -/

/-- The transaction commits by writes, or aborts for another reason than a CHECK
of `orders`, except where `blocked`. -/
abbrev Commits (cfg : Config) (hands : Beneficiary → Prop) (blocked : Prop) : Store → Except Abort Store → Prop :=
  Outcome (Write cfg hands) fun reason => reason = .ordersCheck → blocked

/-- Every row meets the table's CHECKs. -/
def Store.Checked (s : Store) : Prop := ∀ order ∈ s.orders.rows, order.checks = true

/-- Whoever holds a claimed order holds one that is on record. -/
def Store.Claimed (s : Store) : Prop :=
  ∀ claim ∈ s.refundClaims, ∃ order, s.orders.find claim.orderId = some order ∧
    order.orderType = claim.orderType

theorem Commits.weaken {blocked looser : Prop} {result : Except Abort Store}
    (commits : Commits cfg hands blocked s result) (weaker : blocked → looser) :
    Commits cfg hands looser s result := by
  cases result with
  | ok after => exact commits
  | error reason => exact fun check => weaker (commits check)

theorem Commits.refused {blocked : Prop} {reason : Abort} (other : reason ≠ .ordersCheck) :
    Commits cfg hands blocked s (.error reason) :=
  fun check => absurd check other

theorem OrderMove.of_same_status {old new : Order} (moved : old.Advances new)
    (status : new.status = old.status) : OrderMove s old new :=
  { moved with
    unpaid := by rw [status]; exact id
    ungranted := by rw [status]; exact fun _ h => h
    mailed := by rw [status]; exact fun _ h => .inl h
    emptied := by rw [status]; exact fun _ h => .inl h }

/-- Statuses that nothing was granted, mailed or refunded for. -/
def PLAIN_ORDER_STATUSES : List OrderStatus := [.cancelled, .paymentFailed, .refundPending, .disputed]

theorem OrderMove.of_plain {old new : Order} (moved : old.Advances new)
    (plain : new.status ∈ PLAIN_ORDER_STATUSES) : OrderMove s old new := by
  simp only [PLAIN_ORDER_STATUSES, List.mem_cons, List.not_mem_nil, or_false] at plain
  have differs : new.status ≠ .paid ∧ new.status ≠ .fulfilled ∧ new.status ∉ MAILED_ORDER_STATUSES ∧
      new.status ≠ .refunded := by
    rcases plain with status | status | status | status <;> rw [status] <;> decide
  obtain ⟨unpaid, ungranted, unmailed, unrefunded⟩ := differs
  exact { moved with
    unpaid := fun paid => absurd paid unpaid
    ungranted := fun _ final => absurd final ungranted
    mailed := fun _ mail => absurd mail unmailed
    emptied := fun _ final => absurd final unrefunded }

/-- An update that moves a row as allowed. -/
theorem updateOrder_commits (old new : Order) {blocked : Prop}
    (found : s.orders.find new.orderId = some old) (moved : OrderMove s old new)
    (checked : old.checks = true) : Commits cfg hands blocked s (s.updateOrder new) := by
  cases result : s.updateOrder new with
  | ok after =>
    obtain ⟨fits, -, rfl⟩ := Store.updateOrder_ok result
    exact .write (.moveOrder found moved fits)
  | error reason =>
    intro check
    rw [check, Store.updateOrder_ordersCheck, moved.checks, checked] at result
    cases result

theorem Order.Opened.checks {order : Order} (opened : order.Opened) : order.checks = true := by
  simp [Order.checks, opened.creditsRefunded, opened.amountRefundedCents]

theorem insertOrder_commits {order : Order} {blocked : Prop} (opened : order.Opened) :
    Commits cfg hands blocked s (s.insertOrder order) := by
  unfold Store.insertOrder
  rw [opened.checks]
  split
  · rename_i fresh
    simp only [Bool.not_true, Bool.false_eq_true, if_false]
    split
    · exact .refused (by decide)
    · exact .write (.openOrder opened opened.checks fresh)
  · exact .refused (by decide)

/-- A change of columns that decide nothing. -/
theorem Order.Advances.of_same_status {old new : Order} (terms : new.terms = old.terms)
    (status : new.status = old.status) (refundedAt : new.refundedAt = old.refundedAt)
    (session : old.ownsSession → new.ownsSession) (credits : new.creditsRefunded = old.creditsRefunded)
    (amount : new.amountRefundedCents = old.amountRefundedCents) : old.Advances new :=
  { Order.Moves.of_same_status terms status refundedAt session with
    creditsRefunded := credits, amountRefundedCents := amount }

theorem Order.Advances.of_unfunded {old new : Order} (terms : new.terms = old.terms)
    (unfunded : old.status ∉ FUNDED_OR_REVERSED_ORDER_STATUSES)
    (refundedAt : new.refundedAt = old.refundedAt) (session : old.ownsSession → new.ownsSession)
    (credits : new.creditsRefunded = old.creditsRefunded)
    (amount : new.amountRefundedCents = old.amountRefundedCents) : old.Advances new :=
  { Order.Moves.of_unfunded terms unfunded refundedAt session with
    creditsRefunded := credits, amountRefundedCents := amount }

theorem Order.Advances.to_reversed {old new : Order} (terms : new.terms = old.terms)
    (status : new.status = .refunded ∨ new.status = .refundPending ∨ new.status = .disputed)
    (refunded : old.refundedAt.isSome = true → new.refundedAt.isSome = true)
    (session : old.ownsSession → new.ownsSession) (credits : new.creditsRefunded = old.creditsRefunded)
    (amount : new.amountRefundedCents = old.amountRefundedCents) : old.Advances new :=
  { Order.Moves.to_reversed terms status refunded session with
    creditsRefunded := credits, amountRefundedCents := amount }

/-- A checkout that ends unpaid. -/
theorem endedOrder_move {order new : Order} (pending : order.status = .checkoutPending)
    (terms : new.terms = order.terms) (status : new.status = .cancelled ∨ new.status = .paymentFailed)
    (refundedAt : new.refundedAt = order.refundedAt)
    (session : new.stripeCheckoutSessionId = order.stripeCheckoutSessionId)
    (credits : new.creditsRefunded = order.creditsRefunded)
    (amount : new.amountRefundedCents = order.amountRefundedCents) : OrderMove s order new := by
  have same : new.orderId = order.orderId := congrArg Order.Terms.orderId terms
  refine .of_plain (.of_unfunded terms (by rw [pending]; decide) refundedAt ?_ credits amount) ?_
  · unfold Order.ownsSession
    rw [session, same]
    exact id
  · rcases status with status | status <;> rw [status] <;> decide

/-! Checkouts before a payment. -/

theorem createPackCheckout_commits {number : Nat} {product : PackProduct} {amountCents : Cents}
    {blocked : Prop} : Commits cfg hands blocked s (createPackCheckout cfg s number product amountCents) := by
  unfold createPackCheckout
  split
  · exact .refused (by decide)
  · exact insertOrder_commits ⟨rfl, rfl, rfl, rfl, fun _ none => nomatch none⟩

theorem openJitOrder_commits {draft : Draft} {product : JitProduct} {request : JitCheckoutRequest}
    {blocked : Prop} : Commits cfg hands blocked s (openJitOrder cfg s draft product request) := by
  unfold openJitOrder
  split
  · exact .refused (by decide)
  split
  · exact .refused (by decide)
  split
  · exact .refused (by decide)
  split
  · exact .refused (by decide)
  · exact insertOrder_commits ⟨rfl, rfl, rfl, rfl, fun _ none => nomatch none⟩

theorem activeJitOrder_find {draftId : DraftId} {order : Order}
    (active : s.activeJitOrder draftId = some order) : s.orders.find order.orderId = some order :=
  Table.find_of_mem (List.mem_reverse.mp (List.mem_of_find?_eq_some active))

theorem cancelled_commits {order : Order} {blocked : Prop} (checks : s.Checked)
    (found : s.orders.find order.orderId = some order) (pending : order.status = .checkoutPending) :
    Commits cfg hands blocked s (s.updateOrder { order with status := .cancelled }) :=
  updateOrder_commits order { order with status := .cancelled } found
    (endedOrder_move pending rfl (.inl rfl) rfl rfl rfl rfl) (checks _ (Table.find_mem found))

theorem prepareJitOrder_commits {request : JitCheckoutRequest} {blocked : Prop} (checks : s.Checked) :
    Commits cfg hands blocked s (prepareJitOrder cfg s request) := by
  have reopen : ∀ {existing : Order} {draft : Draft} {product : JitProduct},
      s.orders.find existing.orderId = some existing → existing.status = .checkoutPending →
      Commits cfg hands blocked s (do
        let cancelled ← s.updateOrder { existing with status := .cancelled }
        openJitOrder cfg cancelled draft product request) := fun found pending =>
    Outcome.bind (cancelled_commits checks found pending) fun _ _ => openJitOrder_commits
  unfold prepareJitOrder
  split
  · exact .refused (by decide)
  split
  · exact .refused (by decide)
  split
  · exact .refused (by decide)
  split
  · exact .refused (by decide)
  split
  · split
    · exact .refused (by decide)
    · exact openJitOrder_commits
  · rename_i active
    have found := activeJitOrder_find active
    split
    · rename_i refused
      exact cancelled_commits checks found refused.2.1
    split
    · rename_i stale
      exact reopen found stale.1
    split
    · split
      · exact .refused (by decide)
      · exact .skip
    split
    · exact .skip
    · rename_i pending
      split
      · exact .refused (by decide)
      split
      · exact .skip
      · exact reopen found (not_not.mp pending)

theorem attachCheckout_commits {number serial : Nat} {url : Bool} {expiresAt : Option Time}
    {blocked : Prop} (checks : s.Checked) :
    Commits cfg hands blocked s (attachCheckout s number serial url expiresAt) := by
  unfold attachCheckout
  split
  · exact .refused (by decide)
  · rename_i order found
    have key := Table.find_key found
    refine updateOrder_commits order _ (by rw [← key] at found; exact found)
      (.of_same_status (.of_same_status rfl rfl rfl ?_ rfl rfl) rfl) (checks _ (Table.find_mem found))
    rintro - session attached
    rw [← Option.some.inj attached]
    exact key.symm

theorem markCheckoutCreationFailure_commits {orderId : OrderId} {terminal : Bool} {blocked : Prop}
    (checks : s.Checked) : Commits cfg hands blocked s (markCheckoutCreationFailure s orderId terminal) := by
  unfold markCheckoutCreationFailure
  split
  · exact .refused (by decide)
  · rename_i order found
    have here : s.orders.find order.orderId = some order := Table.find_of_mem (Table.find_mem found)
    split
    · exact updateOrder_commits order _ here
        (.of_same_status (.of_same_status rfl rfl rfl id rfl rfl) rfl) (checks _ (Table.find_mem found))
    split
    · exact .skip
    · rename_i pending
      exact updateOrder_commits order _ here
        (endedOrder_move (not_not.mp pending) rfl (.inl rfl) rfl rfl rfl rfl)
        (checks _ (Table.find_mem found))

theorem cancelOrphanedCheckout_commits {orderId : OrderId} {blocked : Prop} (checks : s.Checked) :
    Commits cfg hands blocked s (cancelOrphanedCheckout s orderId) := by
  unfold cancelOrphanedCheckout
  split
  · exact .refused (by decide)
  · rename_i order found
    have here : s.orders.find order.orderId = some order := Table.find_of_mem (Table.find_mem found)
    split
    · exact .refused (by decide)
    · rename_i pending
      have still : order.status = .checkoutPending := by
        by_contra other
        exact pending (.inl other)
      split
      · split
        · exact cancelled_commits checks here still
        · exact .refused (by decide)
      · split
        · exact cancelled_commits checks here still
        · exact .refused (by decide)

/-! Drafts and sends. -/

theorem createDraft_commits {draft : Draft} {blocked : Prop} :
    Commits cfg hands blocked s (createDraft s draft) := by
  unfold createDraft
  split
  · rename_i fresh
    let opened : Draft := { draft with status := .pending, consumedLetterId := none }
    have pending : opened.status = .pending := rfl
    exact .write (.openDraft pending fresh)
  · exact .refused (by decide)

theorem changeDraft_commits {draftId : DraftId} {mailOption : MailOption} {requiredCredits : Nat}
    {blocked : Prop} : Commits cfg hands blocked s (changeDraft s draftId mailOption requiredCredits) := by
  unfold changeDraft
  split
  · exact .refused (by decide)
  · rename_i draft found
    have here : s.drafts.find draft.draftId = some draft := Table.find_of_mem (Table.find_mem found)
    split
    · exact .refused (by decide)
    · rename_i open_
      have pending : draft.status = .pending := by
        by_contra other
        exact open_ (.inl other)
      split
      · exact .refused (by decide)
      · let changed : Draft := { draft with mailOption, requiredCredits }
        have unsent : changed.status ≠ .consumed := by simp [changed, pending]
        exact .write (.changeDraft here pending unsent)

theorem endDraft_commits {draftId : DraftId} {cancelled : Bool} {blocked : Prop} :
    Commits cfg hands blocked s (endDraft s draftId cancelled) := by
  unfold endDraft
  split
  · exact .refused (by decide)
  · rename_i draft found
    have here : s.drafts.find draft.draftId = some draft := Table.find_of_mem (Table.find_mem found)
    split
    · exact .refused (by decide)
    · rename_i open_
      have pending : draft.status = .pending := not_not.mp open_
      split
      · have unsent : ({ draft with status := .cancelled } : Draft).status ≠ .consumed := nofun
        exact .write (.changeDraft here pending unsent)
      split
      · have unsent : ({ draft with status := .expired } : Draft).status ≠ .consumed := nofun
        exact .write (.changeDraft here pending unsent)
      · exact .refused (by decide)

theorem consumeGiftLetter_ok {letterId : LetterId} (spent : s.consumeGiftLetter letterId = .ok s') :
    ∃ gift giftLetters, consumeGiftLetter s.now s.giftLetters s.userId letterId = some (gift, giftLetters) ∧
      s' = { s with giftLetters } := by
  unfold Store.consumeGiftLetter at spent
  split at spent
  · cases spent
  · rename_i gift giftLetters consumed
    exact ⟨gift, giftLetters, consumed, (Except.ok.inj spent).symm⟩

theorem insertLetter_ok {letter : Letter} (inserted : s.insertLetter letter = .ok s') :
    ∃ fresh : letter.letterId ∉ s.letters.rows.map Letter.letterId,
      s' = { s with letters := s.letters.insert letter fresh } := by
  unfold Store.insertLetter at inserted
  split at inserted
  · rename_i fresh
    exact ⟨fresh, (Except.ok.inj inserted).symm⟩
  · cases inserted

theorem insertLetter_abort {letter : Letter} {reason : Abort}
    (aborted : s.insertLetter letter = .error reason) : reason ≠ .ordersCheck := by
  unfold Store.insertLetter at aborted
  split at aborted <;> cases aborted
  decide

theorem consumeGiftLetter_abort {letterId : LetterId} {reason : Abort}
    (aborted : s.consumeGiftLetter letterId = .error reason) : reason ≠ .ordersCheck := by
  unfold Store.consumeGiftLetter at aborted
  split at aborted <;> cases aborted
  decide

theorem sendFromBalance_commits {draft : Draft} {letterId : LetterId} {blocked : Prop}
    (drafted : s.drafts.find draft.draftId = some draft) (pending : draft.status = .pending) :
    Commits cfg hands blocked s (sendFromBalance s draft letterId) := by
  unfold sendFromBalance
  split
  · exact .refused (by decide)
  split
  · exact .refused (by decide)
  split
  · exact .refused (by decide)
  refine Outcome.compute (fun reason aborted check => absurd check (insertLetter_abort aborted)) ?_
  intro lettered inserted
  obtain ⟨fresh, rfl⟩ := insertLetter_ok inserted
  split
  · refine Outcome.compute (fun reason aborted check => absurd check (consumeGiftLetter_abort aborted)) ?_
    intro paid spent
    obtain ⟨gift, giftLetters, kept, rfl⟩ := consumeGiftLetter_ok spent
    exact .write (.mailGift drafted pending fresh kept)
  · refine Outcome.compute (fun reason aborted check =>
      absurd check (applyAccountEvent_abort (.deductCredits _ _) aborted)) ?_
    intro account deducted
    exact .write (.mailPrepaid drafted pending fresh deducted)

/-- The balance send: it creates the draft's letter, or leaves all as it was. -/
theorem sendDraft_commits {draftId : DraftId} {mailType : MailType} {letterId : LetterId} {blocked : Prop} :
    Commits cfg hands blocked s (createMailOrderFromDraftWithClient s draftId mailType .prepaidBalance letterId) := by
  unfold createMailOrderFromDraftWithClient
  split
  · exact .refused (by decide)
  · rename_i draft found
    split
    · exact .refused (by decide)
    split
    · unfold resumeConsumedDraft
      split
      · exact .refused (by decide)
      · exact .skip
    split
    · exact .refused (by decide)
    · rename_i open_
      have pending : draft.status = .pending := by
        by_contra other
        exact open_ (.inl other)
      exact sendFromBalance_commits (Table.find_of_mem (Table.find_mem found)) pending

end LetterIRL.Commerce
