import LetterIRL.Content.Edits
import LetterIRL.Lib.Runs

namespace LetterIRL.Content
open Lib Lib.Json Commerce

/-! Edits of one draft among sends, checkouts, payments and erasures. -/

inductive DraftRedrawRefusal
  | notFound
  | sent
  | expired
  | checkoutPending
  | changed
  deriving DecidableEq

inductive EditPhase
  /-- The caller has read the draft, and draws its page. -/
  | read
  /-- The edit is called, with the caller's clock. -/
  | called (now : Time)
  /-- Its transaction holds the draft's row, and the draft may change. -/
  | locked (now : Time)
  | refused (reason : DraftRedrawRefusal)
  | written
  deriving DecidableEq

structure Edit where
  change : DraftChange
  seen : DraftLetter
  phase : EditPhase

/-- A draft with the account around it. -/
structure Studio where
  mail : Mail.Store
  letter : DraftLetter
  remembered : RememberedChoices
  edits : List Edit
  /-- The edit whose transaction holds the draft's row. -/
  holder : Option Nat

inductive StudioEvent
  | shop (event : Mail.Event)
  | erase (imagesInFlight : Bool)
  | read (change : DraftChange)
  | call (edit : Nat)
  | lock (edit : Nat) (began : Time)
  | write (edit : Nat)

inductive StudioError
  | rolledBack (reason : Mail.Abort)
  /-- Another transaction holds the draft's row. -/
  | waits
  | blocked
  | impossible
  deriving DecidableEq

/-- `lockChangeableDraft` of the caller's own draft: `now` is the caller's clock, `began` the transaction's. -/
def lockChangeableDraft (s : Commerce.Store) (draftId : DraftId) (now began : Time) : Option DraftRedrawRefusal :=
  match s.drafts.find draftId with
  | none => some .notFound
  | some draft =>
    if draft.status = .consumed then some .sent
    else if draft.status ≠ .pending ∨ draft.redacted ∨ draft.expiresAt ≤ now then some .expired
    else if s.orders.rows.any (liveCheckout began true draftId) then some .checkoutPending
    else none

/-- The draft's pages, which its price is read from. -/
def repaged (s : Commerce.Store) (draftId : DraftId) (pages : Nat) : Commerce.Store :=
  match s.drafts.find draftId with
  | none => s
  | some draft => { s with drafts := s.drafts.put { draft with mailOption := { draft.mailOption with pages } } }

/-- What takes the draft's lock: a write of its row, and a checkout of it, which locks it first. -/
def takesDraftLock (draftId : DraftId) (s s' : Commerce.Store) (event : Mail.Event) : Bool :=
  let ordered := fun (orders : Orders) (orderId : OrderId) =>
    orders.rows.any fun order => order.orderId == orderId && order.draftId == some draftId
  s'.drafts.find draftId != s.drafts.find draftId ||
    (s'.orders.rows.any fun order => order.draftId == some draftId && !ordered s.orders order.orderId) ||
    match event with
    | .commerce (.prepareJitOrder request) _ => request.draftId == draftId
    | _ => false

/-- A draft's id is never made twice. -/
def makesDraft (draftId : DraftId) : Mail.Event → Bool
  | .commerce (.createDraft draft) _ => draft.draftId == draftId
  | _ => false

namespace Studio

def now (s : Studio) : Time := s.mail.now

def answer (s : Studio) (edit : Nat) (phase : EditPhase) : Studio :=
  { s with edits := s.edits.modify edit fun row => { row with phase } }

/-- The edit once it holds the row: refused where what it was drawn from has changed, and else written. -/
def finish (s : Studio) (draw : Draw) (draftId : DraftId) (edit : Nat) (row : Edit) : Studio :=
  let page := row.change.page draw row.seen
  if drawnFromChanged s.letter (row.change.drawnFrom row.seen) then
    { s.answer edit (.refused .changed) with holder := none }
  else
    { s.answer edit .written with
      mail := { s.mail with commerce := repaged s.mail.commerce draftId page.pages }
      letter := row.change.write page s.letter
      remembered := row.change.remember s.remembered
      holder := none }

def step (cfg : Config) (draw : Draw) (draftId : DraftId) (s : Studio) : StudioEvent → Except StudioError Studio
  | .shop event =>
    match Mail.step cfg s.mail event with
    | .error reason => .error (.rolledBack reason)
    | .ok mail =>
      if makesDraft draftId event then .error .impossible
      else if s.holder.isSome && takesDraftLock draftId s.mail.commerce mail.commerce event then .error .waits
      else .ok { s with mail }
  | .erase imagesInFlight =>
    if s.remembered.erased || Mail.erasureBlocked s.mail imagesInFlight then .error .blocked
    else if s.holder.isSome then .error .waits
    else .ok { s with
      mail := Mail.eraseAccount s.mail, letter := s.letter.emptied, remembered := { erased := true } }
  | .read change => .ok { s with edits := s.edits ++ [{ change, seen := s.letter, phase := .read }] }
  | .call edit =>
    match (s.edits[edit]?).map Edit.phase with
    | some .read => .ok (s.answer edit (.called s.now))
    | _ => .error .impossible
  | .lock edit began =>
    match (s.edits[edit]?).map Edit.phase with
    | some (.called now) =>
      if began < now ∨ s.now < began then .error .impossible
      else if s.holder.isSome then .error .waits
      else
        match lockChangeableDraft s.mail.commerce draftId now began with
        | some reason => .ok (s.answer edit (.refused reason))
        | none => .ok { s.answer edit (.locked now) with holder := some edit }
    | _ => .error .impossible
  | .write edit =>
    match s.edits[edit]? with
    | some row =>
      match row.phase with
      | .locked _ => .ok (s.finish draw draftId edit row)
      | _ => .error .impossible
    | none => .error .impossible

/-- A draft just previewed. -/
def previewed (draw : Draw) (mail : Mail.Store) (remembered : RememberedChoices) (words : Words)
    (stationery : Option StoredStationery) (signatureImage : Option Text) : Studio where
  mail := mail
  letter := previewedLetter draw words stationery signatureImage
  remembered := remembered
  edits := []
  holder := none

end Studio

end LetterIRL.Content
