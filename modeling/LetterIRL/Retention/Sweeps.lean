import LetterIRL.Retention.Copies
import LetterIRL.Lib.Runs

namespace LetterIRL.Retention
open Lib Lib.Json Commerce Mail
open Content (Text)

/-! The sweeps, the restore and the purge, over the columns they read and write. -/

def MAX_QUARANTINE_DAYS : Nat := 7
def MAX_BATCH_LIMIT : Nat := 5000

/-- `liveDays` and `quarantineDays`. -/
def splitRetentionWindow (totalDays : Int) : Int × Int :=
  let quarantineDays := min (MAX_QUARANTINE_DAYS : Int) (max 1 (totalDays / 2))
  (totalDays - quarantineDays, quarantineDays)

def liveDays (retentionDays : Nat) : Nat := (splitRetentionWindow retentionDays).1.toNat

/-- `RECOVERY_FLOOR`. -/
def RECOVERY_FLOOR (now : Time) : Time := now + days 1

/-- The sweeps, each with its own clock and rows. -/
inductive Sweep
  | expiredLetters
  | cancelledHeldLetters
  | paidDrafts
  | abandonedDrafts
  deriving DecidableEq

structure LetterRow where
  letterId : LetterId
  userId : UserId
  status : LetterStatus
  content : Value
  recipient : Value
  previewHtml : Option Text := none
  printPdfSha256 : Option Text := none
  printLayoutFingerprint : Option Text := none
  printLayoutEngine : Option Text := none
  sentAt : Option Time := none
  createdAt : Time
  /-- `CANCELLED_HELD_LETTER_CANCELLED_AT`, of its history. -/
  cancelledAt : Option Time := none
  redactedAt : Option Time := none

structure DraftRow where
  draftId : DraftId
  userId : UserId
  content : DraftContent
  consumedAt : Option Time := none
  createdAt : Time
  redactedAt : Option Time := none

inductive SourceTable
  | letters
  | letterDrafts
  deriving DecidableEq

/-- A row of `redacted_content_quarantine`; `sweep` and `retentionDays` are the model's own, of the sweep that made it. -/
structure SavedCopy where
  source : SourceTable × Nat
  content : Value
  quarantinedAt : Time
  purgeAfter : Time
  sweep : Sweep
  retentionDays : Nat

structure Store where
  now : Time := 0
  letters : Table LetterRow.letterId := Table.empty
  drafts : Table DraftRow.draftId := Table.empty
  quarantine : Table SavedCopy.source := Table.empty

/-! A row's own clock, and whether a sweep is to clear it. -/

def LetterRow.clock (letter : LetterRow) : Sweep → Option Time
  | .cancelledHeldLetters => letter.cancelledAt
  | _ => some (letter.sentAt.getD letter.createdAt)

def DraftRow.clock (draft : DraftRow) : Sweep → Option Time
  | .abandonedDrafts => some draft.createdAt
  | _ => some (draft.consumedAt.getD draft.createdAt)

/-- `clock < NOW() - make_interval(days => liveDays)`, of a clock that may be NULL. -/
def pastWindow (now : Time) (live : Nat) (clock : Option Time) : Bool :=
  clock.any fun at_ => at_ + days live < now

/-- What the letters' due predicates ask of the row itself. -/
def LetterRow.due (now : Time) (live : Nat) (sweep : Sweep) (letter : LetterRow) : Bool :=
  letter.redactedAt.isNone && pastWindow now live (letter.clock sweep) &&
    match sweep with
    | .expiredLetters => decide (letter.status ∈ REDACTABLE_LETTER_STATUSES)
    | .cancelledHeldLetters => letter.status == .cancelled && letter.sentAt.isNone
    | _ => false

def DraftRow.due (now : Time) (live : Nat) (sweep : Sweep) (draft : DraftRow) : Bool :=
  draft.redactedAt.isNone && pastWindow now live (draft.clock sweep) &&
    match sweep with
    | .paidDrafts | .abandonedDrafts => true
    | _ => false

/-! What a sweep saves and clears. -/

def LetterRow.saved (letter : LetterRow) : Value :=
  .object [("content".toList, letter.content), ("recipient".toList, letter.recipient),
    ("preview_html".toList, textJson letter.previewHtml)]

def LetterRow.emptied (letter : LetterRow) : LetterRow :=
  { letter with
    content := .object [], recipient := .object [], previewHtml := none
    printPdfSha256 := none, printLayoutFingerprint := none, printLayoutEngine := none }

def LetterRow.redacted (now : Time) (letter : LetterRow) : LetterRow := { letter.emptied with redactedAt := some now }

def DraftRow.redacted (now : Time) (draft : DraftRow) : DraftRow :=
  { draft with content := draft.content.redacted, redactedAt := some now }

theorem LetterRow.redacted_letterId (now : Time) (letter : LetterRow) : (letter.redacted now).letterId = letter.letterId := rfl

theorem DraftRow.redacted_draftId (now : Time) (draft : DraftRow) : (draft.redacted now).draftId = draft.draftId := rfl

/-- `GREATEST(clock + period, RECOVERY_FLOOR)`, which ignores a NULL. -/
def purgeAfter (now : Time) (retentionDays : Nat) (clock : Option Time) : Time :=
  match clock with
  | none => RECOVERY_FLOOR now
  | some at_ => max (at_ + days retentionDays) (RECOVERY_FLOOR now)

def LetterRow.copy (now : Time) (sweep : Sweep) (retentionDays : Nat) (letter : LetterRow) : SavedCopy where
  source := (.letters, letter.letterId)
  content := letter.saved
  quarantinedAt := now
  purgeAfter := purgeAfter now retentionDays (letter.clock sweep)
  sweep
  retentionDays

def DraftRow.copy (now : Time) (sweep : Sweep) (retentionDays : Nat) (draft : DraftRow) : SavedCopy where
  source := (.letterDrafts, draft.draftId)
  content := draft.content.saved
  quarantinedAt := now
  purgeAfter := purgeAfter now retentionDays (draft.clock sweep)
  sweep
  retentionDays

theorem letterCopy_source (now : Time) (sweep : Sweep) (retentionDays : Nat) (letter : LetterRow) :
    (letter.copy now sweep retentionDays).source = (.letters, letter.letterId) := rfl

theorem draftCopy_source (now : Time) (sweep : Sweep) (retentionDays : Nat) (draft : DraftRow) :
    (draft.copy now sweep retentionDays).source = (.letterDrafts, draft.draftId) := rfl

/-- The rows of `due`: `selected` are those its holds on other tables and the row locks let through, in its order. -/
def dueIds {α : Type} {key : α → Nat} (table : Table key) (due : α → Bool) (selected : List Nat) (batchLimit : Nat) :
    List Nat :=
  (selected.filter fun id => (table.find id).any due).take batchLimit

def redactLetters (s : Store) (sweep : Sweep) (retentionDays batchLimit : Nat) (selected : List LetterId) : Store :=
  let due := dueIds s.letters (LetterRow.due s.now (liveDays retentionDays) sweep) selected batchLimit
  { s with
    quarantine := s.quarantine.insertAll
      ((s.letters.rows.filter (·.letterId ∈ due)).map (LetterRow.copy s.now sweep retentionDays))
    letters := s.letters.update (·.letterId ∈ due) (LetterRow.redacted s.now) (LetterRow.redacted_letterId s.now) }

def redactDrafts (s : Store) (sweep : Sweep) (retentionDays batchLimit : Nat) (selected : List DraftId) : Store :=
  let due := dueIds s.drafts (DraftRow.due s.now (liveDays retentionDays) sweep) selected batchLimit
  { s with
    quarantine := s.quarantine.insertAll
      ((s.drafts.rows.filter (·.draftId ∈ due)).map (DraftRow.copy s.now sweep retentionDays))
    drafts := s.drafts.update (·.draftId ∈ due) (DraftRow.redacted s.now) (DraftRow.redacted_draftId s.now) }

/-- `assertRetentionArgs`. -/
def retentionArgs (totalDays batchLimit : Nat) : Bool :=
  2 ≤ totalDays && 1 ≤ batchLimit && batchLimit ≤ MAX_BATCH_LIMIT

/-- `purgeExpiredLetterContent`, `purgeCancelledHeldLetterContent`, `purgePaidDraftContent` and
`purgeAbandonedDraftContent`, each one statement. -/
def sweepContent (s : Store) (sweep : Sweep) (retentionDays batchLimit : Nat) (selected : List Nat) :
    Except Abort Store :=
  if retentionArgs retentionDays batchLimit then
    match sweep with
    | .expiredLetters | .cancelledHeldLetters => .ok (redactLetters s sweep retentionDays batchLimit selected)
    | .paidDrafts | .abandonedDrafts => .ok (redactDrafts s sweep retentionDays batchLimit selected)
  else .error .thrown

/-- The copies past their day, in the order the statement takes them. -/
def purgeExpiredQuarantine (s : Store) (batchLimit : Nat) (selected : List (SourceTable × Nat)) : Except Abort Store :=
  if retentionArgs 2 batchLimit then
    let late := (selected.filter fun source =>
      (s.quarantine.find source).any fun copy => copy.purgeAfter ≤ s.now).take batchLimit
    .ok { s with quarantine := s.quarantine.filter fun copy => copy.source ∉ late }
  else .error .thrown

inductive RestoreOutcome
  | restored
  | noCopy
  | notRedacted
  deriving DecidableEq

/-- The columns the restore assigns to a letter. -/
def LetterRow.ofSaved (content : Value) (letter : LetterRow) : Option LetterRow :=
  match arrow "content".toList content, arrow "recipient".toList content with
  | some saved, some recipient => some
      { letter with content := saved, recipient, previewHtml := arrowText "preview_html".toList content, redactedAt := none }
  | _, _ => none

def DraftRow.ofSaved (content : Value) (draft : DraftRow) : Option DraftRow :=
  (DraftContent.ofSaved content).map fun content => { draft with content, redactedAt := none }

/-- The live row is written only while it is redacted; the copy goes only when it went back. -/
def restoreQuarantinedContentWithClient (s : Store) (source : SourceTable × Nat) :
    Except Abort (RestoreOutcome × Store) :=
  match s.quarantine.find source with
  | none => .ok (.noCopy, s)
  | some copy =>
    let quarantine := s.quarantine.erase source
    match source.1 with
    | .letters =>
      match (s.letters.find source.2).filter fun letter => letter.redactedAt.isSome with
      | none => .ok (.notRedacted, s)
      | some letter =>
        match letter.ofSaved copy.content with
        -- NOT NULL
        | none => .error .thrown
        | some restored => .ok (.restored, { s with letters := s.letters.put restored, quarantine })
    | .letterDrafts =>
      match (s.drafts.find source.2).filter fun draft => draft.redactedAt.isSome with
      | none => .ok (.notRedacted, s)
      | some draft =>
        match draft.ofSaved copy.content with
        | none => .error .thrown
        | some restored => .ok (.restored, { s with drafts := s.drafts.put restored, quarantine })

/-! Account erasure, over the same rows. -/

def SavedCopy.ofAccount (s : Store) (userId : UserId) (copy : SavedCopy) : Bool :=
  match copy.source.1 with
  | .letters => (s.letters.find copy.source.2).any (·.userId == userId)
  | .letterDrafts => (s.drafts.find copy.source.2).any (·.userId == userId)

def LetterRow.cancelled (letter : LetterRow) : LetterRow := { letter with status := .cancelled }

def LetterRow.erased (now : Time) (letter : LetterRow) : LetterRow :=
  { letter.emptied with redactedAt := letter.redactedAt <|> some now }

theorem LetterRow.cancelled_letterId (letter : LetterRow) : letter.cancelled.letterId = letter.letterId := rfl

theorem LetterRow.erased_letterId (now : Time) (letter : LetterRow) : (letter.erased now).letterId = letter.letterId := rfl

def eraseLetters (s : Store) (userId : UserId) (held : List LetterId) : Table LetterRow.letterId :=
  (s.letters.update (fun letter => letter.userId == userId && letter.letterId ∈ held) LetterRow.cancelled
    LetterRow.cancelled_letterId).update (·.userId == userId) (LetterRow.erased s.now) (LetterRow.erased_letterId s.now)

/-- A draft is emptied if an order points at it and deleted if none does. -/
def eraseDrafts (s : Store) (userId : UserId) (ordered : List DraftId) : Table DraftRow.draftId :=
  (s.drafts.filter fun draft => draft.userId != userId || draft.draftId ∈ ordered).update (·.userId == userId)
    (DraftRow.redacted s.now) (DraftRow.redacted_draftId s.now)

/-- `eraseAccountWithClient` where it erases: the copies go, the letters are emptied, and those `held` cancelled. -/
def eraseAccount (s : Store) (userId : UserId) (held : List LetterId) (ordered : List DraftId) : Store :=
  { s with
    quarantine := s.quarantine.filter fun copy => !copy.ofAccount s userId
    letters := eraseLetters s userId held
    drafts := eraseDrafts s userId ordered }

inductive Event
  | wait (time : Time)
  | sweep (sweep : Sweep) (retentionDays batchLimit : Nat) (selected : List Nat)
  | purge (batchLimit : Nat) (selected : List (SourceTable × Nat))
  | restore (source : SourceTable × Nat)
  | erase (userId : UserId) (held : List LetterId) (ordered : List DraftId)

def step (s : Store) : Event → Except Abort Store
  | .wait time => .ok { s with now := s.now + time }
  | .sweep sweep retentionDays batchLimit selected => sweepContent s sweep retentionDays batchLimit selected
  | .purge batchLimit selected => purgeExpiredQuarantine s batchLimit selected
  | .restore source => (restoreQuarantinedContentWithClient s source).map Prod.snd
  | .erase userId held ordered => .ok (eraseAccount s userId held ordered)

end LetterIRL.Retention
