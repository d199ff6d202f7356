import LetterIRL.Redaction.Holds
import LetterIRL.Lib.Runs

namespace LetterIRL.Redaction
open Lib Commerce
open Ledger hiding Abort
open Mail hiding Store Event step

/-! Retention's sweeps beside an account's mail, and what its dispatches are built from. -/

/-- `purgeExpiredLetterContent` and `purgeCancelledHeldLetterContent`. -/
inductive LetterSweep
  | expired
  | cancelledHeld
  deriving DecidableEq

def LetterSweep.due : LetterSweep → Mail.Store → MailItem → Bool
  | .expired => letterDue
  | .cancelledHeld => cancelledHeldLetterDue

/-- `purgePaidDraftContent` and `purgeAbandonedDraftContent`. -/
inductive DraftSweep
  | paid
  | abandoned
  deriving DecidableEq

def DraftSweep.due : DraftSweep → Mail.Store → Draft → Bool
  | .paid => paidDraftDue
  | .abandoned => abandonedDraftDue

theorem redacted_letterId (letter : Mail.MailItem) : { letter with redacted := true }.letterId = letter.letterId := rfl

/-- One statement; `selected` are the rows past the sweep's window that nobody else has locked. -/
def redactLetters (s : Mail.Store) (sweep : LetterSweep) (selected : LetterId → Bool) : Mail.Store :=
  { s with
    letters := s.letters.update (fun letter => selected letter.letterId && sweep.due s letter)
      (fun letter => { letter with redacted := true }) redacted_letterId }

def setRedacted (s : Commerce.Store) (selected : Draft → Bool) (redacted : Bool) : Commerce.Store :=
  { s with drafts := s.drafts.update selected (fun draft => { draft with redacted }) fun _ => rfl }

def redactDrafts (s : Mail.Store) (sweep : DraftSweep) (selected : DraftId → Bool) : Mail.Store :=
  { s with commerce := setRedacted s.commerce (fun draft => selected draft.draftId && sweep.due s draft) true }

/-- `restoreQuarantinedContent` of a draft. -/
def restoreDraft (s : Mail.Store) (draftId : DraftId) : Mail.Store :=
  { s with commerce := setRedacted s.commerce (fun draft => draft.draftId == draftId) false }

/-- The account's mail, with what its dispatches read of it. -/
structure Room where
  mail : Mail.Store := {}
  /-- The letter each marker returned, with the claim it marked. -/
  readings : List (LetterJob × MailItem) := []
  /-- What each call to the provider was built from, by job. -/
  built : List (JobId × MailItem) := []

inductive Event
  | mail (event : Mail.Event)
  | submits (worker : Worker) (provider : Provider) (letter : MailItem)
  | sweepLetters (sweep : LetterSweep) (selected : LetterId → Bool)
  | sweepDrafts (sweep : DraftSweep) (selected : DraftId → Bool)
  | restoreLetter (letterId : LetterId)
  | restoreDraft (draftId : DraftId)

/-- The letter `markProviderDispatch` returns, where it marks. -/
def markedLetter (s : Mail.Store) (claim : LetterJob) : Option MailItem :=
  match markProviderDispatch s claim with
  | .ok (_, true) => (s.jobs.find claim.jobId).bind fun job => s.letters.find job.letterId
  | _ => none

def readingsOf (s : Mail.Store) : Mail.Event → List (LetterJob × MailItem)
  | .dispatch worker .marks => (markedLetter s worker.claim).toList.map fun letter => (worker.claim, letter)
  | _ => []

/-- Content goes and comes back by the sweeps and restores, and a submission names what it is built from. -/
def sweepsOwn : Mail.Event → Bool
  | .redact .. | .dispatch _ (.submits _) => true
  | _ => false

def step (cfg : Config) (s : Room) : Event → Except Abort Room
  | .mail event =>
    if sweepsOwn event then .error .thrown
    else (Mail.step cfg s.mail event).map fun mail =>
      { s with mail, readings := readingsOf s.mail event ++ s.readings }
  | .submits worker provider letter =>
    if (worker.claim, letter) ∉ s.readings then .error .thrown
    else (Mail.step cfg s.mail (.dispatch worker (.submits provider))).map fun mail =>
      { s with
        mail
        -- A refusal of our own contacts nobody.
        built := if mail.submissions = s.mail.submissions then s.built else (worker.claim.jobId, letter) :: s.built }
  | .sweepLetters sweep selected => .ok { s with mail := redactLetters s.mail sweep selected }
  | .sweepDrafts sweep selected => .ok { s with mail := redactDrafts s.mail sweep selected }
  | .restoreLetter letterId => .ok { s with mail := redactLetter s.mail letterId false }
  | .restoreDraft draftId => .ok { s with mail := restoreDraft s.mail draftId }

abbrev Reachable (cfg : Config) : Room → Prop := Reach (step cfg) anyStep {}

variable {cfg : Config} {s s' : Room} {event : Event}

/-! What every run keeps. -/

theorem Backed.setRedacted {s : Commerce.Store} (backed : Backed s) (selected : Draft → Bool) (redacted : Bool) :
    Backed (setRedacted s selected redacted) := by
  refine ⟨⟨backed.paid.consumed, fun letter member balance => ?_, backed.paid.gifted, backed.paid.spent,
    backed.paid.returned, backed.paid.giftReturned⟩, backed.regular.checked, backed.regular.claimed⟩
  obtain ⟨draft, found, consumed, billed⟩ := backed.paid.billed letter member balance
  refine ⟨if selected draft then { draft with redacted } else draft, ?_, ?_, ?_⟩
  · show (s.drafts.update selected (fun draft => { draft with redacted }) fun _ => rfl).find letter.draftId = _
    rw [Table.find_update, found]
    rfl
  · split <;> exact consumed
  · split <;> exact billed

theorem markedLetter_shown {s : Mail.Store} {claim : LetterJob} {letter : MailItem}
    (marked : markedLetter s claim = some letter) : letter.redacted = false := by
  unfold markedLetter at marked
  split at marked
  · rename_i after done
    obtain ⟨job, row, found, atLetter, -, -, -, shown, -⟩ := markProviderDispatch_ok done
    rw [found, Option.bind_some, atLetter] at marked
    cases marked
    exact shown
  · cases marked

theorem readingsOf_shown {s : Mail.Store} {event : Mail.Event} :
    ∀ reading ∈ readingsOf s event, reading.2.redacted = false := by
  intro reading member
  unfold readingsOf at member
  split at member
  · obtain ⟨letter, marked, rfl⟩ := List.mem_map.mp member
    exact markedLetter_shown (Option.mem_toList.mp marked)
  · cases member

structure Kept (s : Room) : Prop where
  backed : Backed s.mail.commerce
  descended : Descended s.mail.commerce.account.creditLedger
  shown : ∀ reading ∈ s.readings, reading.2.redacted = false
  /-- Every submission was built from a letter that was not redacted. -/
  unredacted : ∀ built ∈ s.built, built.2.redacted = false
  submissions : s.built.map Prod.fst = s.mail.submissions

theorem kept_start : Kept {} :=
  ⟨backed_start, fun _ member => (nomatch member), fun _ member => (nomatch member), fun _ member => (nomatch member), rfl⟩

theorem Kept.mail {event : Mail.Event} {mail : Mail.Store} (kept : Kept s) (free : sweepsOwn event = false)
    (committed : Mail.step cfg s.mail event = .ok mail) :
    Kept { s with mail, readings := readingsOf s.mail event ++ s.readings } where
  backed := step_backed committed kept.backed
  descended := kept.descended.step kept.backed committed
  shown := by
    intro reading member
    rcases List.mem_append.mp member with new | old
    · exact readingsOf_shown reading new
    · exact kept.shown reading old
  unredacted := kept.unredacted
  submissions := by
    rcases (step_moves committed).submissions with same | ⟨worker, provider, rfl, -⟩
    · exact kept.submissions.trans same.symm
    · cases free

theorem Kept.submits {worker : Worker} {provider : Provider} {letter : MailItem} {mail : Mail.Store} (kept : Kept s)
    (read : (worker.claim, letter) ∈ s.readings)
    (committed : Mail.step cfg s.mail (.dispatch worker (.submits provider)) = .ok mail) :
    Kept { s with
      mail
      built := if mail.submissions = s.mail.submissions then s.built
        else (worker.claim.jobId, letter) :: s.built } where
  backed := step_backed committed kept.backed
  descended := kept.descended.step kept.backed committed
  shown := kept.shown
  unredacted := by
    intro built member
    split at member
    · exact kept.unredacted built member
    · rcases List.mem_cons.mp member with rfl | old
      · exact kept.shown _ read
      · exact kept.unredacted built old
  submissions := by
    rcases (step_moves committed).submissions with same | ⟨other, _, here, -, -, called⟩
    · rw [if_pos same, kept.submissions, same]
    · cases here
      rw [if_neg (by rw [called]; simp), called, List.map_cons, kept.submissions]

theorem Kept.step (kept : Kept s) (committed : step cfg s event = .ok s') : Kept s' := by
  cases event with
  | mail event =>
    simp only [Redaction.step] at committed
    split at committed
    · cases committed
    · rename_i free
      obtain ⟨mail, moved, rfl⟩ := map_eq_ok committed
      exact kept.mail (by simpa using free) moved
  | submits worker provider letter =>
    simp only [Redaction.step] at committed
    split at committed
    · cases committed
    · rename_i read
      obtain ⟨mail, moved, rfl⟩ := map_eq_ok committed
      exact kept.submits (not_not.mp read) moved
  | sweepLetters sweep selected =>
    cases committed
    exact ⟨kept.backed, kept.descended, kept.shown, kept.unredacted, kept.submissions⟩
  | sweepDrafts sweep selected =>
    cases committed
    exact ⟨Backed.setRedacted kept.backed _ _, kept.descended, kept.shown, kept.unredacted, kept.submissions⟩
  | restoreLetter letterId =>
    cases committed
    have same : (redactLetter s.mail letterId false).commerce = s.mail.commerce := modifyLetter_commerce _ _ _
    refine ⟨?_, ?_, kept.shown, kept.unredacted, kept.submissions.trans (modifyLetter_submissions _ _ _).symm⟩
    · exact same ▸ kept.backed
    · exact same ▸ kept.descended
  | restoreDraft draftId =>
    cases committed
    exact ⟨Backed.setRedacted kept.backed _ _, kept.descended, kept.shown, kept.unredacted, kept.submissions⟩

theorem reachable_kept (reach : Reachable cfg s) : Kept s :=
  reach.invariant (I := Kept) kept_start fun _ _ _ kept _ committed => kept.step committed

end LetterIRL.Redaction
