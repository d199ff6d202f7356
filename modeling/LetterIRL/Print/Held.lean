import LetterIRL.Lib.Table
import LetterIRL.Lib.Runs
import LetterIRL.Mail.Rows

namespace LetterIRL.Print
open Lib Commerce Mail

/-! Held mail prints as previewed: the print a send records, the stored PDF, and the dispatch that prints from them. -/

variable {Content Layout Fingerprint Pdf Digest : Type}

/-- `HELD_PDF_GRACE_MS`, in seconds. -/
def HELD_PDF_GRACE : Time := 15 * 60

/-- What a build lays out and draws; `none` is a `RenderRefusal`. -/
structure Build (Content Layout Fingerprint Pdf : Type) where
  printLayoutOf : Content → Option Layout
  layoutFingerprint : Layout → Fingerprint
  /-- The fingerprint is of this build's scheme. -/
  comparable : Fingerprint → Bool
  drawPrintPdf : Layout → Option Pdf

/-- The columns of a `letters` row that its print reads. -/
structure PrintRow (Content Fingerprint Digest : Type) where
  letterId : LetterId
  content : Content
  status : LetterStatus := .queued
  /-- `mail_on IS NOT NULL`. -/
  dated : Bool := true
  redacted : Bool := false
  printLayoutFingerprint : Option Fingerprint
  printPdfSha256 : Option Digest
  /-- `letters_print_pdf_needs_fingerprint`. -/
  needsFingerprint : printPdfSha256.isSome → printLayoutFingerprint.isSome

/-- An object under `held-pdf/`. -/
structure HeldPdf (Pdf : Type) where
  letterId : LetterId
  pdf : Pdf
  storedAt : Time

/-- A letter that waits to print: the sweep keeps its PDF, if it records one. -/
def waits (letter : PrintRow Content Fingerprint Digest) : Bool :=
  decide (letter.status ∈ [.queued, .processing, .held]) && !letter.redacted

/-! The steps of `storeHeldPrint`, of the sweep, and of a dispatch. -/

/-- A store between its read and its end. -/
inductive StorePhase (Content Fingerprint Digest : Type)
  | drawing (letter : PrintRow Content Fingerprint Digest)
  | uploaded (letter : PrintRow Content Fingerprint Digest) (digest : Digest)
  | cleaning (letterId : LetterId)
  | ended

def StorePhase.letterId : StorePhase Content Fingerprint Digest → Option LetterId
  | .drawing letter => some letter.letterId
  | .uploaded letter _ => some letter.letterId
  | .cleaning letterId => some letterId
  | .ended => none

structure StoreRun (Content Layout Fingerprint Pdf Digest : Type) where
  build : Build Content Layout Fingerprint Pdf
  phase : StorePhase Content Fingerprint Digest

/-- A `sweepHeldPdfs`, from its listing, and then from its query. -/
inductive SweepPhase
  | listed (old : List LetterId)
  | deleting (doomed : List LetterId)
  deriving DecidableEq

def SweepPhase.doomed : SweepPhase → List LetterId
  | .listed _ => []
  | .deleting doomed => doomed

/-- What a print was drawn from. -/
inductive PrintSource (Layout Pdf : Type)
  | stored (pdf : Pdf)
  | laid (layout : Layout)

inductive DispatchPhase (Content Fingerprint Pdf Digest : Type)
  | loaded (preview : PrintRow Content Fingerprint Digest)
  | fetched (preview : PrintRow Content Fingerprint Digest) (storedPdf : Option Pdf)
  /-- Past the marker, with the row it locked. -/
  | marked (letter : PrintRow Content Fingerprint Digest) (pdf : Option Pdf)
  | refused
  | submitted

/-- A request to the provider: the build that printed it, the row as marked, and what it was printed from. -/
structure Submission (Content Layout Fingerprint Pdf Digest : Type) where
  build : Build Content Layout Fingerprint Pdf
  letter : PrintRow Content Fingerprint Digest
  source : PrintSource Layout Pdf

structure Room (Content Layout Fingerprint Pdf Digest : Type) where
  now : Time := 0
  letters : Table (@PrintRow.letterId Content Fingerprint Digest) := Table.empty
  heldPdfs : Table (@HeldPdf.letterId Pdf) := Table.empty
  stores : List (StoreRun Content Layout Fingerprint Pdf Digest) := []
  sweeps : List SweepPhase := []
  dispatches : List (DispatchPhase Content Fingerprint Pdf Digest) := []
  submissions : List (Submission Content Layout Fingerprint Pdf Digest) := []

inductive RoomEvent (Content Layout Fingerprint Pdf : Type)
  | tick (elapsed : Time)
  | send (letterId : LetterId) (content : Content) (dated : Bool) (fingerprint : Option Fingerprint)
  /-- Any other transaction's change of a letter's status: a claim's, a cancel's, a retry's, the provider's. -/
  | move (letterId : LetterId) (status : LetterStatus)
  /-- Retention or an erasure empties the row, its print with it. -/
  | redact (letterId : LetterId)
  | restore (letterId : LetterId)
  /-- `forgetHeldPdf`, of a cancel or an acceptance. -/
  | forget (letterId : LetterId)
  | storeRead (build : Build Content Layout Fingerprint Pdf) (letterId : LetterId)
  | storeUpload (run : Nat)
  | storeRecord (run : Nat)
  | storeCleanUp (run : Nat)
  | storeFails (run : Nat)
  | sweepList
  | sweepQuery (run : Nat)
  | sweepDelete (run : Nat)
  | sweepFails (run : Nat)
  | load (letterId : LetterId)
  | fetch (run : Nat) (readable : Bool)
  | mark (run : Nat)
  | print (run : Nat) (build : Build Content Layout Fingerprint Pdf)

inductive RoomError
  | impossible
  deriving DecidableEq

/-- Mail a store draws a PDF of. -/
def mayStore (letter : PrintRow Content Fingerprint Digest) : Bool :=
  letter.status == .queued && letter.dated && !letter.redacted && letter.printLayoutFingerprint.isSome &&
    letter.printPdfSha256.isNone

/-- `SET print_pdf_sha256`, of a row with a fingerprint. -/
def PrintRow.recorded (letter : PrintRow Content Fingerprint Digest) (digest : Digest)
    (fingerprinted : letter.printLayoutFingerprint.isSome) : PrintRow Content Fingerprint Digest :=
  { letter with printPdfSha256 := some digest, needsFingerprint := fun _ => fingerprinted }

def PrintRow.emptied (letter : PrintRow Content Fingerprint Digest) : PrintRow Content Fingerprint Digest :=
  { letter with
    redacted := true, printLayoutFingerprint := none, printPdfSha256 := none, needsFingerprint := fun recorded => recorded }

/-- `assertLayoutAsRecorded`, where it throws nothing. -/
def layoutAsRecorded [DecidableEq Fingerprint] (build : Build Content Layout Fingerprint Pdf) (layout : Layout)
    (recorded : Option Fingerprint) : Bool :=
  recorded.all fun recorded => build.comparable recorded && build.layoutFingerprint layout == recorded

/-- `printPdfFor`, by the source it draws from; `none` is a `RenderRefusal`. -/
def printPdfFor [DecidableEq Fingerprint] (build : Build Content Layout Fingerprint Pdf)
    (letter : PrintRow Content Fingerprint Digest) (pdf : Option Pdf) : Option (PrintSource Layout Pdf) :=
  match pdf with
  | some pdf => some (.stored pdf)
  | none =>
    match build.printLayoutOf letter.content with
    | none => none
    | some layout =>
      if layoutAsRecorded build layout letter.printLayoutFingerprint && (build.drawPrintPdf layout).isSome then
        some (.laid layout)
      else none

namespace Room
variable (sha256 : Pdf → Digest) (s : Room Content Layout Fingerprint Pdf Digest)

def setStore (run : Nat) (phase : StorePhase Content Fingerprint Digest) : Room Content Layout Fingerprint Pdf Digest :=
  { s with stores := s.stores.modify run fun store => { store with phase } }

def setDispatch (run : Nat) (phase : DispatchPhase Content Fingerprint Pdf Digest) :
    Room Content Layout Fingerprint Pdf Digest :=
  { s with dispatches := s.dispatches.modify run fun _ => phase }

def setSweep (run : Nat) (phase : SweepPhase) : Room Content Layout Fingerprint Pdf Digest :=
  { s with sweeps := s.sweeps.modify run fun _ => phase }

def modifyLetter (letterId : LetterId)
    (change : PrintRow Content Fingerprint Digest → PrintRow Content Fingerprint Digest) :
    Room Content Layout Fingerprint Pdf Digest :=
  match s.letters.find letterId with
  | none => s
  | some letter => { s with letters := s.letters.put (change letter) }

/-- The store lays the letter out again, and uploads it where the layout is still the one recorded. -/
def upload [DecidableEq Fingerprint] (run : Nat) (build : Build Content Layout Fingerprint Pdf)
    (letter : PrintRow Content Fingerprint Digest) : Room Content Layout Fingerprint Pdf Digest :=
  match build.printLayoutOf letter.content with
  | none => s.setStore run .ended
  | some layout =>
    if some (build.layoutFingerprint layout) ≠ letter.printLayoutFingerprint then s.setStore run .ended
    else
      match build.drawPrintPdf layout with
      | none => s.setStore run .ended
      | some pdf =>
        { s.setStore run (.uploaded letter (sha256 pdf)) with
          heldPdfs := s.heldPdfs.set { letterId := letter.letterId, pdf, storedAt := s.now } }

/-- The row the store's `UPDATE` matches. -/
def recordable [DecidableEq Fingerprint] [DecidableEq Digest] (letter row : PrintRow Content Fingerprint Digest)
    (digest : Digest) : Bool :=
  (row.printPdfSha256.all fun recorded => recorded == digest) &&
    row.printLayoutFingerprint == letter.printLayoutFingerprint && row.status == .queued && row.dated && !row.redacted

/-- The digest is recorded, or the store goes on to delete what it uploaded. -/
def record [DecidableEq Fingerprint] [DecidableEq Digest] (run : Nat) (letter : PrintRow Content Fingerprint Digest)
    (digest : Digest) : Room Content Layout Fingerprint Pdf Digest :=
  match s.letters.find letter.letterId with
  | none => s.setStore run (.cleaning letter.letterId)
  | some row =>
    if fingerprinted : row.printLayoutFingerprint.isSome then
      if recordable letter row digest then
        { s.setStore run .ended with letters := s.letters.put (row.recorded digest fingerprinted) }
      else s.setStore run (.cleaning letter.letterId)
    else s.setStore run (.cleaning letter.letterId)

/-- The PDFs older than the grace. -/
def oldPdfs : List LetterId :=
  (s.heldPdfs.rows.filter fun entry => decide (entry.storedAt + HELD_PDF_GRACE ≤ s.now)).map HeldPdf.letterId

def keeps (letterId : LetterId) : Bool :=
  (s.letters.find letterId).any fun letter => waits letter && letter.printPdfSha256.isSome

/-- `storedHeldPdf`: the object, where its bytes are the recorded ones. -/
def storedHeldPdf [DecidableEq Digest] (letter : PrintRow Content Fingerprint Digest) (readable : Bool) : Option Pdf :=
  match letter.printPdfSha256, s.heldPdfs.find letter.letterId with
  | some recorded, some entry => if readable && sha256 entry.pdf == recorded then some entry.pdf else none
  | _, _ => none

/-- `markProviderDispatch`, as far as the print is concerned, and the digest compared with the row as marked. -/
def markRow [DecidableEq Digest] (run : Nat) (preview : PrintRow Content Fingerprint Digest) (storedPdf : Option Pdf) :
    Except RoomError (Room Content Layout Fingerprint Pdf Digest) :=
  match s.letters.find preview.letterId with
  | none => .error .impossible
  | some letter =>
    if letter.status ∉ [.queued, .processing] ∨ letter.redacted then .error .impossible
    else
      let pdf := if letter.printPdfSha256 = preview.printPdfSha256 then storedPdf else none
      .ok { s.setDispatch run (.marked letter pdf) with letters := s.letters.put { letter with status := .processing } }

def submit [DecidableEq Fingerprint] (run : Nat) (build : Build Content Layout Fingerprint Pdf)
    (letter : PrintRow Content Fingerprint Digest) (pdf : Option Pdf) : Room Content Layout Fingerprint Pdf Digest :=
  match printPdfFor build letter pdf with
  | none => s.setDispatch run .refused
  | some source =>
    { s.setDispatch run .submitted with submissions := s.submissions ++ [{ build, letter, source }] }

end Room

end LetterIRL.Print
