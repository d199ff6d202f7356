import LetterIRL.Mail.Rows
import LetterIRL.Commerce.Step

namespace LetterIRL.Mail
open Lib Ledger Commerce

/-- `AdminJobRetryError`, `AdminJobReleaseError` and `AdminMailResolutionError`. -/
inductive AdminError
  | notFound
  | invalidState
  | invalidRequest
  | idempotencyConflict
  deriving DecidableEq

/-- Why a transaction rolled back. -/
inductive Abort
  /-- A thrown error, or a guard nothing matched. -/
  | thrown
  | admin (code : AdminError)
  | commerce (reason : Ledger.Abort)
  deriving DecidableEq

/-- The account's commerce, its mail, and the dispatches in progress. -/
structure Store where
  commerce : Commerce.Store := {}
  giftCodes : Table Gift.GiftCode.code := Table.empty
  letters : Table MailItem.letterId := Table.empty
  jobs : Table LetterJob.jobId := Table.empty
  workers : List Worker := []
  /-- Every call made to the provider, by job. -/
  submissions : List JobId := []

namespace Store

def now (s : Store) : Time := s.commerce.now

def setJob (s : Store) (job : LetterJob) : Store := { s with jobs := s.jobs.put job }

def setLetter (s : Store) (letter : MailItem) : Store := { s with letters := s.letters.put letter }

/-- `UPDATE letter_jobs SET … WHERE job_id = …`. -/
def modifyJob (s : Store) (jobId : JobId) (change : LetterJob → LetterJob) : Store :=
  match s.jobs.find jobId with
  | none => s
  | some job => s.setJob (change job)

/-- `UPDATE letters SET … WHERE letter_id = …`. -/
def modifyLetter (s : Store) (letterId : LetterId) (change : MailItem → MailItem) : Store :=
  match s.letters.find letterId with
  | none => s
  | some letter => s.setLetter (change letter)

/-- `SELECT … FROM letter_jobs WHERE letter_id = …`: a letter has one job. -/
def jobOfLetter (s : Store) (letterId : LetterId) : Option LetterJob :=
  s.jobs.rows.find? fun job => job.letterId == letterId

/-- `letters.funding_order_id`. -/
def fundingOrderId (s : Store) (letterId : LetterId) : Option OrderId :=
  (s.commerce.letters.find letterId).bind Letter.fundingOrderId

def updateOrder (s : Store) (order : Order) : Except Abort Store :=
  match s.commerce.updateOrder order with
  | .error reason => .error (.commerce reason)
  | .ok commerce => .ok { s with commerce }

/-- `UPDATE orders SET … WHERE order_id = … AND …`: nothing where no row matches. -/
def moveOrder (s : Store) (orderId : OrderId) (selected : Order → Bool) (change : Order → Order) :
    Except Abort Store :=
  match s.commerce.orders.find orderId with
  | none => .ok s
  | some order => if selected order then s.updateOrder (change order) else .ok s

def sendsBlocked (s : Store) : Bool := s.commerce.account.sendsBlockedReason.isSome

/-- `fundingHeldJobSql` or a blocked account: the outbox leaves the job to a person. -/
def leftForOperator (s : Store) (job : LetterJob) : Bool :=
  (job.providerOutcome == .notDispatched && isFundingHoldReason job.holdReason) || s.sendsBlocked

/-- The same, as the marker reads a row it has locked. -/
def heldForFunding (s : Store) (job : LetterJob) : Bool :=
  isFundingHoldReason job.holdReason || s.sendsBlocked

/-- The gift letters with the codes they print. -/
def giftTables (s : Store) : Gift.Tables :=
  { giftLetters := s.commerce.giftLetters, giftCodes := s.giftCodes }

def withGiftTables (s : Store) (t : Gift.Tables) : Store :=
  { s with commerce := { s.commerce with giftLetters := t.giftLetters }, giftCodes := t.giftCodes }

def withAccount (s : Store) (account : Account) : Store :=
  { s with commerce := { s.commerce with account } }

def returnGift (cfg : Config) (s : Store) (letterId : LetterId) (cause : Gift.ReturnCause) : Store × Nat :=
  let back := Gift.returnGiftLetterForFailedSend cfg s.now s.giftTables s.commerce.userId letterId cause
  (s.withGiftTables back.1, back.2)

def returnCredits (s : Store) (letterId : LetterId) : Store × Nat :=
  let back := returnConsumedCreditsForLetter s.now s.commerce.account letterId
  (s.withAccount back.1, back.2)

/-- `returnPrepaidCreditsForFailedLetter`: a Pay & Send letter's order is refunded instead. -/
def returnPrepaidCredits (cfg : Config) (s : Store) (letterId : LetterId) : Store :=
  match (s.commerce.letters.find letterId).map Letter.fundingType with
  | some .giftLetter => (s.returnGift cfg letterId .failed).1
  | some .prepaidBalance => (s.returnCredits letterId).1
  | _ => s

/-- `isLetterAlreadyCompensated`. -/
def isLetterAlreadyCompensated (s : Store) (letterId : LetterId) : Bool :=
  packCompensated s.commerce.account letterId || Gift.isGiftLetterCompensated s.giftTables letterId

end Store

/-- `createLetterJobWithClient`: one job for a letter, due now or when held mail is. -/
def newJob (now : Time) (jobId : JobId) (letterId : LetterId) (notBefore : Option Time) (maxAttempts : Nat) :
    LetterJob :=
  { jobId, letterId, maxAttempts, nextAttemptAt := notBefore.getD now, scheduledAt := notBefore.getD now,
    mailHoldUntil := notBefore }

end LetterIRL.Mail
