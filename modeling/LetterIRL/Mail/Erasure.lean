import LetterIRL.Mail.Funding

namespace LetterIRL.Mail
open Lib Ledger Commerce

/-! `eraseAccountWithClient`, as far as it reads and writes the rows modelled here. -/

def REDACTABLE_LETTER_STATUSES : List LetterStatus :=
  [.sent, .accepted, .inTransit, .delivered, .returned, .failed, .cancelled]

def SETTLED_JOB_STATUSES : List JobStatus := [.completed, .cancelled]

def SETTLED_ORDER_STATUSES : List OrderStatus := [.fulfilled, .refunded, .cancelled, .paymentFailed]

def SETTLED_PACK_REFUND_STATUSES : List PackRefundStatus := [.succeeded, .failed, .compensated]

/-- `fundingHeldJobSql`. -/
def fundingHeldJob (job : LetterJob) : Bool :=
  job.providerOutcome == .notDispatched && isFundingHoldReason job.holdReason

/-- `HELD_MAIL_CONDITION`: held mail an erasure cancels. -/
def heldMailCondition (s : Store) (job : LetterJob) : Bool :=
  ((s.letters.find job.letterId).any fun letter => letter.status == .queued) &&
    ((s.commerce.letters.find job.letterId).any fun letter => letter.fundingType != .jitOrder) &&
    (heldMailJob s.now job || (job.status == .pending && fundingHeldJob job))

/-- A disputed order is settled once every dispute of its payment is closed, and there is one. -/
def orderInFlight (s : Commerce.Store) (order : Order) : Bool :=
  let disputes := s.disputes.rows.filter fun dispute =>
    order.stripePaymentIntentId.isSome && dispute.paymentIntentId == order.stripePaymentIntentId
  decide (order.status ∉ SETTLED_ORDER_STATUSES) &&
    !(order.status == .disputed && !disputes.isEmpty && disputes.all Dispute.resolved)

def letterInFlight (s : Store) (letter : MailItem) : Bool :=
  decide (letter.status ∉ REDACTABLE_LETTER_STATUSES) &&
    !(s.jobs.rows.any fun job => job.letterId == letter.letterId && heldMailCondition s job)

/-- A failed job holds the account only while the outbox would send it again. -/
def jobInFlight (s : Store) (job : LetterJob) : Bool :=
  decide (job.status ∉ SETTLED_JOB_STATUSES) &&
    !(job.status == .failed && !(job.providerOutcome == .notDispatched && job.attempts < job.maxAttempts)) &&
    !heldMailCondition s job

def disputeOpen (s : Commerce.Store) (dispute : Dispute) : Bool :=
  !dispute.resolved && (dispute.ours || s.orders.rows.any fun order =>
    order.stripePaymentIntentId.isSome && order.stripePaymentIntentId == dispute.paymentIntentId)

/-- `erasureBlocked` of `readErasureBlockers`; `imagesInFlight` is the account's open image reservations. -/
def erasureBlocked (s : Store) (imagesInFlight : Bool) : Bool :=
  s.commerce.orders.rows.any (orderInFlight s.commerce) || s.letters.rows.any (letterInFlight s) ||
    s.jobs.rows.any (jobInFlight s) || s.commerce.disputes.rows.any (disputeOpen s.commerce) ||
    (s.commerce.packRefunds.rows.any fun row => decide (row.status ∉ SETTLED_PACK_REFUND_STATUSES)) || imagesInFlight

def erasedJob (job : LetterJob) : LetterJob :=
  { job with status := .cancelled, lockedAt := none, operatorResolution := some .accountErased }

/-- Held mail is cancelled with its letter, failed jobs too, so that nobody can retry them. -/
def eraseMail (s : Store) : Store :=
  let held := heldMailCondition s
  { s with
    jobs := (s.jobs.update held erasedJob fun _ => rfl).update (fun job => job.status == .failed) erasedJob fun _ => rfl
    letters := (s.letters.update (fun letter => s.jobs.rows.any fun job => job.letterId == letter.letterId && held job)
        (fun letter => { letter with status := .cancelled }) fun _ => rfl).update
      (fun _ => true) (fun letter => { letter with redacted := true }) fun _ => rfl }

/-- A draft an order points at is emptied; any other is deleted. -/
def eraseDrafts (s : Commerce.Store) : Commerce.Store :=
  let ordered := fun draft : Draft => s.orders.rows.any fun order => order.draftId == some draft.draftId
  { s with
    drafts := (s.drafts.filter ordered).update (fun _ => true) (fun draft => { draft with redacted := true }) fun _ => rfl
    orders := s.orders.update Order.checkoutUrl (fun order => { order with checkoutUrl := false }) fun _ => rfl }

/-- The tombstone: a dispute's block keeps its reason. -/
def tombstone (account : Account) : Account :=
  { account with sendsBlockedReason := account.sendsBlockedReason <|> some .accountErased }

def eraseAccount (s : Store) : Store :=
  let erased := eraseMail s
  { erased with
    commerce := { eraseDrafts erased.commerce with account := tombstone erased.commerce.account }
    giftCodes := erased.giftCodes.filter fun code =>
      !(code.issuedToUserId == s.commerce.userId && code.status == .issued) }

end LetterIRL.Mail
