import LetterIRL.Gift.Codes

namespace LetterIRL.Mail
open Lib Ledger Commerce

/-! Rows of the outbox: `letter_jobs`, and the columns of `letters` its progress moves. -/

abbrev JobId := Nat

inductive JobStatus
  | pending
  | processing
  | completed
  | failed
  | held
  | cancelled
  deriving DecidableEq

/-- `letter_jobs.provider_outcome` (migration 023). -/
inductive ProviderOutcome
  | notDispatched
  | dispatching
  | accepted
  | definiteFailure
  | ambiguous
  deriving DecidableEq

/-- `letter_jobs.hold_reason`. -/
inductive JobHoldReason
  | fundingReversed
  | fundingDisputed
  | paymentReversed
  | paymentDisputed
  | providerOutcomeAmbiguous
  deriving DecidableEq

def FUNDING_HOLD_REASONS : List JobHoldReason := [.fundingReversed, .fundingDisputed]

def isFundingHoldReason (reason : Option JobHoldReason) : Bool :=
  reason.any fun held => held ∈ FUNDING_HOLD_REASONS

/-- `letter_jobs.operator_resolution`. -/
inductive OperatorResolution
  | providerConfirmedAccepted
  | providerConfirmedRejectedRetry
  | providerConfirmedRejectedRefund
  | operatorCancelled
  | accountErased
  deriving DecidableEq

/-- A row of `letter_jobs`. -/
structure LetterJob where
  jobId : JobId
  letterId : LetterId
  status : JobStatus := .pending
  providerOutcome : ProviderOutcome := .notDispatched
  attempts : Nat := 0
  maxAttempts : Nat := 5
  nextAttemptAt : Time
  scheduledAt : Time
  lockedAt : Option Time := none
  holdReason : Option JobHoldReason := none
  operatorResolution : Option OperatorResolution := none
  mailHoldUntil : Option Time := none
  deriving DecidableEq

inductive LetterStatus
  | queued
  | processing
  | held
  | cancelled
  | failed
  | accepted
  | sent
  | inTransit
  | delivered
  | returned
  deriving DecidableEq

/-- Letter statuses past which nothing changes. -/
def ENDED_LETTER_STATUSES : List LetterStatus := [.delivered, .returned, .failed, .cancelled]

/-- Statuses the provider's acceptance brings, which no hold or stop undoes. -/
def ACCEPTED_LETTER_STATUSES : List LetterStatus := [.accepted, .sent, .inTransit, .delivered, .returned]

def NOT_YET_PRINTING_STATUSES : List LetterStatus := [.accepted, .sent]

/-- `letters.mail_service` other than standard; `unknown` is text this code does not know. -/
inductive ExtraService
  | certified
  | certifiedReturnReceipt
  | unknown
  deriving DecidableEq

/-- `mailServiceOf`: none for standard mail. -/
def extraServiceOf : MailService → Option ExtraService
  | .standard => none
  | .certified => some .certified
  | .certifiedReturnReceipt => some .certifiedReturnReceipt

/-- The columns of a `letters` row that the outbox reads or moves, beside `Commerce.Letter`. -/
structure MailItem where
  letterId : LetterId
  creditsCost : Nat := 0
  mailType : MailType := .letter
  mailService : Option ExtraService := none
  /-- Its content records a renderer version. -/
  drawnByRenderer : Bool := false
  mailOn : Option Time := none
  status : LetterStatus := .queued
  /-- `tracking_id IS NOT NULL`. -/
  tracked : Bool := false
  redacted : Bool := false
  deriving DecidableEq

/-- What a provider says it can do. -/
structure Provider where
  supportsExtraServices : Bool := true
  printsRenderedPdf : Bool := true
  sendsPostcards : Bool := true
  deriving DecidableEq

/-- `extraServiceRefusal`: a service is sold as asked for or not at all. -/
def extraServiceRefusal (provider : Provider) (letter : MailItem) : Bool :=
  match letter.mailService with
  | none => false
  | some .unknown => true
  | some _ => letter.mailType == .postcard || !provider.supportsExtraServices

/-- `rendererRefusal`. -/
def rendererRefusal (provider : Provider) (letter : MailItem) : Bool :=
  letter.drawnByRenderer && !provider.printsRenderedPdf

/-- `submitToProvider` answers for the provider, which is not contacted. -/
def refusedUnsent (provider : Provider) (letter : MailItem) : Bool :=
  extraServiceRefusal provider letter || rendererRefusal provider letter ||
    (letter.mailType == .postcard && !provider.sendsPostcards)

/-- What a provider call came to, as `failOrRescheduleJob` and `completeJob` read it. -/
inductive ProviderAnswer
  | accepted
  | definiteRejection
  | ambiguous
  deriving DecidableEq

/-- Where a dispatch of a claimed job stands. -/
inductive Phase
  /-- Claimed; nothing asked of the marker yet. -/
  | claimed
  /-- Failed before the marker: `failBeforeDispatch` is next. -/
  | faulted
  /-- Marked; the provider not called yet. -/
  | marked
  /-- The provider has been called and has not answered. -/
  | called
  | accepted
  | rejected
  /-- `completeJob` threw: `recoverProviderAcceptancePersistence` is next. -/
  | recovering
  /-- `holdAmbiguousDispatch` is next. -/
  | uncertain
  deriving DecidableEq

/-- A dispatch in progress: the job as its claim, or a sweep, read it. -/
structure Worker where
  claim : LetterJob
  phase : Phase
  deriving DecidableEq

/-- The dispatch has passed the marker, so the provider may have been called, or may yet be. -/
def Worker.pastMarker (worker : Worker) : Bool :=
  worker.phase != .claimed && worker.phase != .faulted

end LetterIRL.Mail
