import LetterIRL.Mail.Erasure
import LetterIRL.Lib.Locks

namespace LetterIRL.Sending
open Lib Ledger Commerce Mail

/-! The sends of one account's drafts, and what sets or lifts the block on them, statement by statement. -/

structure SendConfig where
  commerce : Commerce.Config := {}
  betaAccessAllowed : Bool := true

/-- The rows two of these transactions both lock. -/
inductive RowLock
  | draft (draftId : DraftId)
  | account
  deriving DecidableEq

/-- A prepaid or gift send's parameters. -/
structure Send where
  draftId : DraftId
  mailType : MailType
  letterId : LetterId
  mail : NewMail

/-- What a transaction does: a send, a transaction of commerce that writes the account, such as a dispute's or
an operator's lift, or an erasure. -/
inductive Work
  | send (send : Send)
  | commerce (event : Commerce.Event) (mail : NewMail)
  | erase (imagesInFlight : Bool)

/-- How far a transaction has come. -/
inductive Phase
  | began
  | draftsLocked
  /-- A send has read that its account is not blocked. -/
  | unblocked
  | accountLocked
  /-- A send found its draft already mailed. -/
  | resumed
  deriving DecidableEq

structure Tx where
  txId : Nat
  work : Work
  phase : Phase := .began

structure World where
  mail : Mail.Store := {}
  /-- `users.erased_at`. -/
  erased : Bool := false
  locks : Locks RowLock Nat := Table.empty
  txs : Table Tx.txId := Table.empty

def World.blocked (w : World) : Bool := w.mail.sendsBlocked

/-- The columns of the `users` row. -/
def usersRow (s : Mail.Store) : Nat × Nat × Nat × Option BlockReason :=
  (s.commerce.account.credits, s.commerce.account.creditsPurchased, s.commerce.account.creditsUsed,
    s.commerce.account.sendsBlockedReason)

/-- Whether the row stands as it was. -/
def untouched (before after : Mail.Store) : RowLock → Bool
  | .draft draftId => decide (after.commerce.drafts.find draftId = before.commerce.drafts.find draftId)
  | .account => decide (usersRow after = usersRow before)

/-- A transaction that wrote a row another has locked waits. -/
def World.commit (w : World) (own : Option Nat) (after : Mail.Store) : Except Mail.Abort World :=
  if w.locks.rows.any fun held => some held.2 != own && !untouched w.mail after held.1 then .error .thrown
  else .ok { w with mail := after }

/-- A transaction that ends lets go of its locks. -/
def World.ends (w : World) (txId : Nat) : World :=
  { w with txs := w.txs.erase txId, locks := w.locks.release txId }

def World.goesOn (w : World) (tx : Tx) (phase : Phase) : World := { w with txs := w.txs.put { tx with phase } }

/-- `SELECT … FROM letter_drafts … FOR NO KEY UPDATE`: a send's own draft, or every draft there is. -/
def locksDrafts (w : World) (tx : Tx) : Except Mail.Abort World :=
  match tx.work with
  | .send send =>
    match w.mail.commerce.drafts.find send.draftId with
    | none => .error .thrown
    | some draft =>
      match w.locks.acquire tx.txId (.draft send.draftId) with
      | none => .error .thrown
      | some locks =>
        if draft.mailOption.mailType ≠ send.mailType then .error .thrown
        else .ok ({ w with locks }.goesOn tx (if draft.status = DraftStatus.consumed then .resumed else .draftsLocked))
  | .commerce .. => .error .thrown
  | .erase _ =>
    match w.locks.acquireAll tx.txId (w.mail.commerce.drafts.rows.map fun draft => .draft draft.draftId) with
    | none => .error .thrown
    | some locks => .ok ({ w with locks }.goesOn tx .draftsLocked)

/-- A send's `SELECT sends_blocked_reason FROM users`, with no lock. -/
def readsBlock (cfg : SendConfig) (w : World) (tx : Tx) : Except Mail.Abort World :=
  match tx.work with
  | .send _ =>
    if !cfg.betaAccessAllowed || w.blocked then .error .thrown else .ok (w.goesOn tx .unblocked)
  | _ => .error .thrown

/-- Whether the account's row is what the transaction locks next. -/
def Tx.atAccount (tx : Tx) : Bool :=
  match tx.work with
  | .send _ => tx.phase == .unblocked
  | .commerce .. => tx.phase == .began
  | .erase _ => tx.phase == .draftsLocked

/-- `lockAccountForBalanceChange`, or the first `UPDATE users` of one that does not call it. -/
def locksAccount (w : World) (tx : Tx) : Except Mail.Abort World :=
  if !tx.atAccount then .error .thrown
  else
    match w.locks.acquire tx.txId .account with
    | none => .error .thrown
    | some locks => .ok ({ w with locks }.goesOn tx .accountLocked)

/-- The store as a send that read no block acts on it. -/
def withBlock (s : Mail.Store) (reason : Option BlockReason) : Mail.Store :=
  s.withAccount { s.commerce.account with sendsBlockedReason := reason }

/-- The rest of `createMailOrderFromDraftWithClient`, which reads the block no more. -/
def mailDraft (cfg : Commerce.Config) (s : Mail.Store) (send : Send) : Except Mail.Abort Mail.Store :=
  match commerceStep cfg (withBlock s none) (.sendDraft send.draftId send.mailType send.letterId) send.mail with
  | .error reason => .error reason
  | .ok mailed => .ok (withBlock mailed s.commerce.account.sendsBlockedReason)

/-- The statements a transaction runs with the account's row locked, and its commit. -/
def commits (cfg : SendConfig) (w : World) (tx : Tx) : Except Mail.Abort World :=
  let own := some tx.txId
  match tx.phase, tx.work with
  | .resumed, _ => .ok (w.ends tx.txId)
  | .accountLocked, .send send => do
    let mailed ← mailDraft cfg.commerce w.mail send
    let after ← w.commit own mailed
    .ok (after.ends tx.txId)
  | .accountLocked, .commerce event mail => do
    let written ← commerceStep cfg.commerce w.mail event mail
    let after ← w.commit own written
    .ok (after.ends tx.txId)
  | .accountLocked, .erase imagesInFlight =>
    if w.erased || erasureBlocked w.mail imagesInFlight then .ok (w.ends tx.txId)
    else do
      let after ← w.commit own (eraseAccount w.mail)
      .ok { after.ends tx.txId with erased := true }
  | _, _ => .error .thrown

/-- A prepaid or gift send, which only goes statement by statement. -/
def isSend : Commerce.Event → Bool
  | .sendDraft .. => true
  | _ => false

def Work.sendsAtOnce : Work → Bool
  | .commerce event _ => isSend event
  | _ => false

def otherSends : Mail.Event → Bool
  | .commerce event _ => isSend event
  | _ => false

/-- What happens next, in any order; `other` is any other transaction of the account, committed at once. -/
inductive Event
  | begins (txId : Nat) (work : Work)
  | locksDrafts (txId : Nat)
  | readsBlock (txId : Nat)
  | locksAccount (txId : Nat)
  | commits (txId : Nat)
  | rollsBack (txId : Nat)
  | other (event : Mail.Event)

def World.run (w : World) (txId : Nat) (statement : Tx → Except Mail.Abort World) : Except Mail.Abort World :=
  match w.txs.find txId with
  | none => .error .thrown
  | some tx => statement tx

def step (cfg : SendConfig) (w : World) : Event → Except Mail.Abort World
  | .begins txId work =>
    if work.sendsAtOnce then .error .thrown
    else if fresh : txId ∉ w.txs.rows.map Tx.txId then .ok { w with txs := w.txs.insert { txId, work } fresh }
    else .error .thrown
  | .locksDrafts txId => w.run txId fun tx => if tx.phase ≠ .began then .error .thrown else locksDrafts w tx
  | .readsBlock txId => w.run txId fun tx => if tx.phase ≠ .draftsLocked then .error .thrown else readsBlock cfg w tx
  | .locksAccount txId => w.run txId (locksAccount w)
  | .commits txId => w.run txId (commits cfg w)
  | .rollsBack txId => .ok (w.ends txId)
  | .other event =>
    if otherSends event then .error .thrown
    else do
      let after ← Mail.step cfg.commerce w.mail event
      w.commit none after

end LetterIRL.Sending
