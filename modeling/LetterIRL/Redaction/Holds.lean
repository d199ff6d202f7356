import LetterIRL.Mail.Erasure
import LetterIRL.Mail.Unreturned
import LetterIRL.Redaction.Lineage

namespace LetterIRL.Redaction
open Lib Ledger Commerce
open Mail hiding Store Event step

/-! What a sweep waits for before it empties a letter or a draft. Its clocks are left to `selected`. -/

/-- The chain of returns is followed this far. -/
def CHAIN_DEPTH : Nat := 32

/-- The last lot of the chain of returns that ends at a lot. -/
def chainOrigin (ledger : CreditLedger) : Nat → Lot → Lot
  | 0, lot => lot
  | depth + 1, lot =>
    if givenBack lot then
      match lot.relatedLedgerId.bind ledger.find with
      | none => lot
      | some up => chainOrigin ledger depth up
    else lot

/-- The lot's money is not settled: revoked, of an order that is not settled, or of money with no order. -/
def lotHolds (s : Commerce.Store) (lot : Lot) : Bool :=
  let origin := chainOrigin s.account.creditLedger CHAIN_DEPTH lot
  lot.status == .revoked ||
    match (sourceOrderId origin).bind s.orders.find with
    | none => decide (origin.sourceType ∈ MONEY_BACKED_SOURCE_TYPES)
    | some order => decide (order.status ∉ SETTLED_ORDER_STATUSES)

/-- `NOT fundingHold`: a lot the letter's credits were drawn from holds it. -/
def fundingHold (s : Commerce.Store) (letterId : LetterId) : Bool :=
  s.account.creditConsumption.any fun consumption =>
    consumption.letterId == letterId && (s.account.creditLedger.find consumption.ledgerId).any (lotHolds s)

/-- The outbox could still take the job, now or when it is due. -/
def mayClaim (job : LetterJob) : Bool :=
  job.attempts < job.maxAttempts && job.providerOutcome == .notDispatched &&
    (job.status == .pending || job.status == .failed || job.status == .processing)

theorem mayClaim_of_claimable {s : Mail.Store} {job : LetterJob} (candidate : claimable s job = true) :
    mayClaim job = true := by
  obtain ⟨below, undispatched, pending | failed | taken⟩ := claimable_iff candidate
  · simp [mayClaim, below, undispatched, pending]
  · simp [mayClaim, below, undispatched, failed]
  · simp [mayClaim, below, undispatched, taken]

/-- A failed job that holds nothing back: its letter failed for good. -/
def retiredFailedJob (s : Mail.Store) (job : LetterJob) : Bool :=
  job.status == .failed && !(job.providerOutcome == .notDispatched && job.attempts < job.maxAttempts) &&
    (s.letters.find job.letterId).any fun letter => letter.status == .failed

/-- A job on the letter holds it, unless `retired` says that the job holds nothing. -/
def jobHolds (s : Mail.Store) (retired : LetterJob → Bool) (letterId : LetterId) : Bool :=
  s.jobs.rows.any fun job => job.letterId == letterId && decide (job.status ∉ SETTLED_JOB_STATUSES) && !retired job

def orderHolds (settled : List OrderStatus) (s : Mail.Store) (on : Order → Bool) : Bool :=
  s.commerce.orders.rows.any fun order => on order && decide (order.status ∉ settled)

/-- `LETTER_DUE_PREDICATE`. -/
def letterDue (s : Mail.Store) (letter : MailItem) : Bool :=
  !letter.redacted && decide (letter.status ∈ REDACTABLE_LETTER_STATUSES) &&
    !jobHolds s (retiredFailedJob s) letter.letterId &&
    !orderHolds SETTLED_ORDER_STATUSES s (fun order => order.letterId == some letter.letterId) &&
    !fundingHold s.commerce letter.letterId

/-- `CANCELLED_HELD_LETTER_DUE_PREDICATE`. -/
def cancelledHeldLetterDue (s : Mail.Store) (letter : MailItem) : Bool :=
  !letter.redacted && letter.status == .cancelled &&
    (s.jobs.rows.any fun job => job.letterId == letter.letterId && job.mailHoldUntil.isSome) &&
    !jobHolds s (fun _ => false) letter.letterId &&
    !orderHolds SETTLED_ORDER_STATUSES s (fun order => order.letterId == some letter.letterId) &&
    !fundingHold s.commerce letter.letterId

def PAID_ORDER_STATUSES : List OrderStatus :=
  [.paid, .fulfillmentPending, .fulfilled, .refundPending, .refunded, .disputed, .held]

def NEVER_PAID_ORDER_STATUSES : List OrderStatus := [.cancelled, .paymentFailed]

/-- The draft was sent, and a job on its letter holds it. -/
def draftJobHolds (s : Mail.Store) (draft : Draft) : Bool :=
  draft.consumedLetterId.any (jobHolds s (retiredFailedJob s))

/-- `PAID_DRAFT_DUE_PREDICATE`. -/
def paidDraftDue (s : Mail.Store) (draft : Draft) : Bool :=
  !draft.redacted &&
    (s.commerce.orders.rows.any fun order =>
      order.draftId == some draft.draftId && decide (order.status ∈ PAID_ORDER_STATUSES)) &&
    !orderHolds SETTLED_ORDER_STATUSES s (fun order => order.draftId == some draft.draftId) && !draftJobHolds s draft

/-- `ABANDONED_DRAFT_DUE_PREDICATE`. -/
def abandonedDraftDue (s : Mail.Store) (draft : Draft) : Bool :=
  !draft.redacted &&
    (s.commerce.orders.rows.any fun order => order.draftId == some draft.draftId) &&
    !orderHolds NEVER_PAID_ORDER_STATUSES s (fun order => order.draftId == some draft.draftId) &&
    !draftJobHolds s draft

/-! What paid for a letter. -/

/-- Credits of the order paid for the letter, from the pack's own lot or from credits given back. -/
def CreditsPaid (s : Commerce.Store) (orderId : OrderId) (letterId : LetterId) : Prop :=
  ∃ consumption ∈ s.account.creditConsumption, consumption.letterId = letterId ∧
    ∃ lot, s.account.creditLedger.find consumption.ledgerId = some lot ∧
      lot.sourceReferenceId = some (.order orderId)

/-- A gift letter the order's pack granted paid for the letter. -/
def GiftPaid (s : Commerce.Store) (orderId : OrderId) (letterId : LetterId) : Prop :=
  ∃ gift ∈ s.giftLetters.rows, gift.consumedByLetterId = some letterId ∧ gift.sourceOrderId = some orderId

def Order.settled (order : Order) : Prop := order.status ∈ SETTLED_ORDER_STATUSES

/-- The money that paid for the letter is not on hold: no lot of it was revoked, and every order it came from
is settled. -/
structure MoneyFree (s : Commerce.Store) (letterId : LetterId) : Prop where
  unrevoked : ∀ consumption ∈ s.account.creditConsumption, consumption.letterId = letterId →
    ∀ lot, s.account.creditLedger.find consumption.ledgerId = some lot → lot.status ≠ .revoked
  credits : ∀ orderId order, CreditsPaid s orderId letterId → s.orders.find orderId = some order → Order.settled order
  gift : ∀ orderId order, GiftPaid s orderId letterId → s.orders.find orderId = some order → Order.settled order

/-- The orders that paid for the letter with a gift letter are settled. -/
def GiftSettled (s : Commerce.Store) (letterId : LetterId) : Prop :=
  ∀ orderId order, GiftPaid s orderId letterId → s.orders.find orderId = some order → Order.settled order

/-! A hold that does not stand says what it looked for. -/

theorem chainOrigin_reference {ledger : CreditLedger} (descended : Descended ledger) :
    ∀ depth lot, lot ∈ ledger.rows →
      (chainOrigin ledger depth lot).sourceReferenceId = lot.sourceReferenceId ∧ chainOrigin ledger depth lot ∈ ledger.rows
  | 0, _, member => ⟨rfl, member⟩
  | depth + 1, lot, member => by
    unfold chainOrigin
    split
    · rename_i returned
      obtain ⟨up, inLedger, related, same⟩ := (descended lot member).back returned
      have found : lot.relatedLedgerId.bind ledger.find = some up := by
        rw [related]
        exact Table.find_of_mem inLedger
      rw [found]
      obtain ⟨reference, there⟩ := chainOrigin_reference descended depth up inLedger
      exact ⟨reference.trans same, there⟩
    · exact ⟨rfl, member⟩

/-- A lot that does not hold, drawn from an order's credits, is of a settled order. -/
theorem settled_of_lotFree {s : Commerce.Store} {lot : Lot} {orderId : OrderId} {order : Order}
    (descended : Descended s.account.creditLedger) (member : lot ∈ s.account.creditLedger.rows)
    (free : lotHolds s lot = false) (named : lot.sourceReferenceId = some (.order orderId))
    (found : s.orders.find orderId = some order) : Order.settled order := by
  obtain ⟨reference, there⟩ := chainOrigin_reference descended CHAIN_DEPTH lot member
  unfold lotHolds at free
  generalize chainOrigin s.account.creditLedger CHAIN_DEPTH lot = origin at free reference there
  obtain ⟨-, held⟩ := Bool.or_eq_false_iff.mp free
  have referenced : origin.sourceReferenceId = some (.order orderId) := reference.trans named
  by_cases money : origin.sourceType ∈ MONEY_BACKED_SOURCE_TYPES
  · by_cases bought : origin.sourceType = .purchase
    · have ordered : sourceOrderId origin = some orderId := by
        unfold sourceOrderId
        rw [bought, referenced]
      rw [ordered, Option.bind_some, found] at held
      simpa [Order.settled] using held
    · have none : sourceOrderId origin = none := by
        unfold sourceOrderId
        split
        · exact absurd ‹_› bought
        · rfl
      rw [none, Option.bind_none] at held
      exact absurd money (by simpa using held)
  · exact absurd referenced ((descended origin there).unbacked money orderId)

/-- The holds on the credits that paid for a letter miss none of its packs. -/
theorem fundingFree {s : Commerce.Store} {letterId : LetterId} (descended : Descended s.account.creditLedger)
    (free : fundingHold s letterId = false) (gifts : GiftSettled s letterId) : MoneyFree s letterId := by
  have lotFree : ∀ consumption ∈ s.account.creditConsumption, consumption.letterId = letterId →
      ∀ lot, s.account.creditLedger.find consumption.ledgerId = some lot → lotHolds s lot = false := by
    intro consumption member named lot found
    have none := List.any_eq_false.mp free consumption member
    simp only [named, beq_self_eq_true, Bool.true_and, found, Option.any_some, Bool.not_eq_true] at none
    exact none
  refine ⟨fun consumption member named lot found revoked => ?_, fun orderId order paid found => ?_, gifts⟩
  · have clear := lotFree consumption member named lot found
    unfold lotHolds at clear
    rw [revoked] at clear
    cases clear
  · obtain ⟨consumption, member, named, lot, drawn, reference⟩ := paid
    exact settled_of_lotFree descended (Table.find_mem drawn) (lotFree consumption member named lot drawn) reference found

theorem unclaimable_of_jobFree {s : Mail.Store} {retired : LetterJob → Bool} {letterId : LetterId} {job : LetterJob}
    (free : jobHolds s retired letterId = false) (spent : ∀ job, retired job = true → retiredFailedJob s job = true)
    (member : job ∈ s.jobs.rows) (named : job.letterId = letterId) : mayClaim job = false := by
  have clear := List.any_eq_false.mp free job member
  simp only [named, beq_self_eq_true, Bool.true_and, Bool.and_eq_true, decide_eq_true_eq, Bool.not_eq_true', not_and,
    Bool.not_eq_false] at clear
  by_cases settled : job.status ∈ SETTLED_JOB_STATUSES
  · unfold mayClaim
    simp only [SETTLED_JOB_STATUSES, List.mem_cons, List.not_mem_nil, or_false] at settled
    rcases settled with completed | cancelled
    · simp [completed]
    · simp [cancelled]
  · have ended := spent job (clear settled)
    unfold retiredFailedJob at ended
    unfold mayClaim
    simp only [Bool.and_eq_true, Bool.not_eq_true', beq_iff_eq] at ended
    obtain ⟨⟨-, unclaimed⟩, -⟩ := ended
    rw [Bool.and_comm] at unclaimed
    rw [unclaimed, Bool.false_and]

theorem settled_of_orderFree {settled : List OrderStatus} {s : Mail.Store} {on : Order → Bool} {order : Order}
    (free : orderHolds settled s on = false) (narrow : ∀ status ∈ settled, status ∈ SETTLED_ORDER_STATUSES)
    (member : order ∈ s.commerce.orders.rows) (ordered : on order = true) : Order.settled order := by
  have clear := List.any_eq_false.mp free order member
  rw [ordered, Bool.true_and] at clear
  exact narrow _ (by simpa using clear)

end LetterIRL.Redaction
