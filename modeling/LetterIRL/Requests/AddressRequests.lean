import LetterIRL.Lib.Locks
import LetterIRL.Lib.Runs

namespace LetterIRL.Requests

open Lib

/-! Address requests: links that ask for an address, and the statements that make, close, purge and erase them. -/

abbrev Text := List Char

abbrev Hash := List UInt8

abbrev UserId := Nat

abbrev RequestId := Nat

def DAY : Nat := 24 * 60 * 60 * 1000

/-- What the environment sets. -/
structure Config where
  linkDays : Nat
  waitingCap : Nat
  dailyCap : Nat

inductive Status
  | waiting
  | answered
  | declined
  | cancelled
  deriving DecidableEq

inductive AddressRequestState
  | waiting
  | answered
  | declined
  | cancelled
  | expired
  deriving DecidableEq

def Status.state : Status → AddressRequestState
  | waiting => .waiting
  | answered => .answered
  | declined => .declined
  | cancelled => .cancelled

/-- An address as the recipient gives it, in the U.S.: the name is theirs to leave out. -/
structure GivenAddress where
  name : Option Text
  addressLine1 : Text
  addressLine2 : Option Text
  city : Text
  state : Text
  postalCode : Text
  deriving DecidableEq

structure RequestedAddress where
  name : Text
  addressLine1 : Text
  addressLine2 : Option Text
  city : Text
  state : Text
  postalCode : Text
  deriving DecidableEq

/-- A row of `address_requests`. -/
structure AddressRequestRow where
  requestId : RequestId
  userId : UserId
  tokenHash : Hash
  recipientName : Text
  senderFirstName : Text
  status : Status := .waiting
  address : Option RequestedAddress := none
  expiresAt : Nat
  createdAt : Nat
  closedAt : Option Nat := none
  deriving DecidableEq

namespace AddressRequestRow

/-- `status = 'waiting' AND expires_at > NOW()` -/
def isOpen (row : AddressRequestRow) (now : Nat) : Bool := row.status == .waiting && decide (now < row.expiresAt)

/-- `requestOf`'s state. -/
def state (row : AddressRequestRow) (now : Nat) : AddressRequestState :=
  if row.status = .waiting ∧ row.expiresAt ≤ now then .expired else row.status.state

def isWaiting (userId : UserId) (now : Nat) (row : AddressRequestRow) : Bool := row.userId == userId && row.isOpen now

/-- `created_at > NOW() - INTERVAL '24 hours'` -/
def isToday (userId : UserId) (now : Nat) (row : AddressRequestRow) : Bool :=
  row.userId == userId && decide (now < row.createdAt + DAY)

/-- Created in the 24 hours from an instant. -/
def createdFrom (userId : UserId) (start : Nat) (row : AddressRequestRow) : Bool :=
  row.userId == userId && (decide (start ≤ row.createdAt) && decide (row.createdAt < start + DAY))

/-- `COALESCE(closed_at, expires_at) < NOW() - make_interval(days => days)` -/
def isPast (days now : Nat) (row : AddressRequestRow) : Bool := decide (row.closedAt.getD row.expiresAt + days * DAY < now)

end AddressRequestRow

/-- `closing`: what the recipient does by the link. -/
inductive Closing
  | answered (address : GivenAddress)
  | declined (reported : Bool)
  deriving DecidableEq

/-- Who closes a request: the recipient by its link, or the sender. -/
inductive Closer
  | link (closing : Closing)
  | cancel
  deriving DecidableEq

namespace Closer

def status : Closer → Status
  | link (.answered _) => .answered
  | link (.declined _) => .declined
  | cancel => .cancelled

/-- The address given, under the recipient's name or else the sender's for them. -/
def address (recipientName : Text) : Closer → Option RequestedAddress
  | link (.answered given) => some {
      name := given.name.getD recipientName
      addressLine1 := given.addressLine1
      addressLine2 := given.addressLine2
      city := given.city
      state := given.state
      postalCode := given.postalCode }
  | _ => none

def reported : Closer → Bool
  | link (.declined reported) => reported
  | _ => false

end Closer

/-- A request that left `waiting`, with who closed it in a transaction begun when. -/
structure Closed where
  row : AddressRequestRow
  closer : Closer
  begun : Nat
  deriving DecidableEq

def Closed.result (closed : Closed) : AddressRequestRow :=
  { closed.row with
    status := closed.closer.status
    address := closed.closer.address closed.row.recipientName
    closedAt := some closed.begun }

/-- An `address_request_reported` alert. -/
structure Alert where
  userId : UserId
  requestId : RequestId
  deriving DecidableEq

def Closed.alert (closed : Closed) : Option Alert :=
  if closed.closer.reported then some { userId := closed.row.userId, requestId := closed.row.requestId } else none

/-- The request a caller names: by its link's token, or as one of an account's. -/
inductive Subject
  | link (hash : Hash)
  | request (userId : UserId) (requestId : RequestId)
  deriving DecidableEq

def Subject.names : Subject → AddressRequestRow → Bool
  | link hash, row => row.tokenHash == hash
  | request userId requestId, row => row.requestId == requestId && row.userId == userId

/-- What a caller that would close a request is told; `state` is a refusal, or `alreadyClosed` with the request. -/
inductive Answer
  | closed (requestId : RequestId)
  | state (state : AddressRequestState)
  | notFound
  deriving DecidableEq

/-- A caller's answer, with the row it read for it and that statement's clock, and the requests closed by then. -/
structure Told where
  subject : Option Subject
  answer : Answer
  row : Option AddressRequestRow
  readAt : Nat
  seen : List Closed
  deriving DecidableEq

inductive CreateAddressRequestResult
  | ok (request : AddressRequestRow)
  | waitingCap (cap : Nat)
  | dailyCap (cap : Nat)
  | accountClosed
  deriving DecidableEq

/-- A call under way, with when its transaction began. `counting`, `inserted` and `wiping` hold the account's row. -/
inductive Call
  | creating (userId : UserId) (recipientName senderFirstName : Text) (begun : Nat)
  | counting (userId : UserId) (recipientName senderFirstName : Text) (begun : Nat)
  | inserted (row : AddressRequestRow)
  | closing (subject : Subject) (closer : Closer) (begun : Nat)
  | reading (subject : Subject) (begun : Nat)
  | purging (days begun : Nat)
  | erasing (userId : UserId)
  | wiping (userId : UserId)
  deriving DecidableEq

/-- The database and the calls under way. `hashes` and `ids` are those of every request made or asked about. -/
structure World where
  now : Nat := 0
  rows : List AddressRequestRow := []
  /-- Whether each account is erased. -/
  accounts : UserId → Option Bool := fun _ => none
  locks : Locks UserId Nat := Table.empty
  calls : Nat → Option Call := fun _ => none
  closings : List Closed := []
  alerts : List Alert := []
  told : List Told := []
  created : List CreateAddressRequestResult := []
  hashes : List Hash := []
  ids : List RequestId := []

namespace World

variable (world : World)

def setCall (id : Nat) (call : Option Call) : World := { world with calls := Function.update world.calls id call }

/-- A transaction ends, and lets go of the account's row. -/
def ended (id : Nat) : World := { world.setCall id none with locks := world.locks.release id }

def createAnswer (id : Nat) (result : CreateAddressRequestResult) : World :=
  { world.ended id with created := world.created ++ [result] }

def tell (id : Nat) (subject : Option Subject) (answer : Answer) (row : Option AddressRequestRow) (readAt : Nat) : World :=
  { world.setCall id none with told := world.told ++ [{ subject, answer, row, readAt, seen := world.closings }] }

/-- A caller names a request. -/
def named : Subject → World
  | .link hash => { world with hashes := hash :: world.hashes }
  | .request _ requestId => { world with ids := requestId :: world.ids }

/-- The rows an UPDATE finds open. -/
def found (subject : Subject) (closer : Closer) (begun : Nat) : List Closed :=
  (world.rows.filter fun row => subject.names row && row.isOpen begun).map ({ row := ·, closer, begun })

/-- `UPDATE address_requests … RETURNING`, with the alert of a reported decline. -/
def close (subject : Subject) (closer : Closer) (begun : Nat) : World :=
  { world with
    rows := world.rows.map fun row =>
      if subject.names row && row.isOpen begun then { row, closer, begun : Closed }.result else row
    closings := world.closings ++ world.found subject closer begun
    alerts := world.alerts ++ (world.found subject closer begun).filterMap Closed.alert }

/-- A row committed. -/
def insertRow (row : AddressRequestRow) : World :=
  { world with
    rows := world.rows ++ [row]
    hashes := row.tokenHash :: world.hashes
    ids := row.requestId :: world.ids }

def deleteRows (gone : AddressRequestRow → Bool) : World := { world with rows := world.rows.filter fun row => !gone row }

end World

/-- A call is made, or one of its statements takes effect; `abort` is a rollback or a lost connection. -/
inductive Event
  | tick (elapsed : Nat)
  | openAccount (userId : UserId)
  | createAddressRequest (id : Nat) (userId : UserId) (recipientName senderFirstName : Text)
  | lock (id : Nat)
  | insert (id : Nat) (token : Text) (requestId : RequestId)
  | commit (id : Nat)
  | answerAddressRequest (id : Nat) (token : Text) (address : GivenAddress)
  | declineAddressRequest (id : Nat) (token : Text) (report : Bool)
  | cancelAddressRequest (id : Nat) (userId : UserId) (requestId : Option RequestId)
  | update (id : Nat)
  | read (id : Nat) (readAt : Nat)
  | purgeClosedAddressRequests (id : Nat) (days : Nat)
  | sweep (id : Nat)
  | eraseAccount (id : Nat) (userId : UserId)
  | wipe (id : Nat)
  | abort (id : Nat)
  deriving DecidableEq

section Steps

variable (cfg : Config) (sha256 : Text → Hash) (world : World)

/-- 24 characters of base64url. -/
def isToken (token : Text) : Bool :=
  token.length == 24 && token.all fun c =>
    (c.isUpper || c.isLower) || (c.isDigit || (c == '_' || c == '-'))

def addressRequestTokenHash (token : Text) : Option Hash := if isToken token then some (sha256 token) else none

/-- `valid_address_request_names` -/
def validNames (recipientName senderFirstName : Text) : Bool :=
  (decide (1 ≤ recipientName.length) && decide (recipientName.length ≤ 100)) &&
    (decide (1 ≤ senderFirstName.length) && decide (senderFirstName.length ≤ 40))

/-- A call that would close the request it names begins, or is told at once that it names none. -/
def beginClosing (id : Nat) (subject : Option Subject) (closer : Closer) : Option World :=
  if world.calls id = none then
    match subject with
    | none => some (world.tell id none .notFound none world.now)
    | some subject => some ((world.named subject).setCall id (some (.closing subject closer world.now)))
  else none

/-- A request still waiting is said to have expired by the link's callers, and to be waiting by the sender's. -/
def stateTold : Subject → AddressRequestState → AddressRequestState
  | .link _, .waiting => .expired
  | _, state => state

/-- What a caller whose update found no open request is told of the row it reads then. -/
def readAnswer (subject : Subject) (readAt : Nat) : Option AddressRequestRow → Answer
  | none => .notFound
  | some row => .state (stateTold subject (row.state readAt))

def next : Event → Option World
  | .tick elapsed => some { world with now := world.now + elapsed }
  | .openAccount userId =>
    if world.accounts userId = none then some { world with accounts := Function.update world.accounts userId (some false) }
    else none
  | .createAddressRequest id userId recipientName senderFirstName =>
    if world.calls id = none then
      some (world.setCall id (some (.creating userId recipientName senderFirstName world.now)))
    else none
  | .lock id =>
    match world.calls id with
    | some (.creating userId recipientName senderFirstName begun) =>
      if world.accounts userId = some false then
        (world.locks.acquire id userId).map fun locks =>
          { world.setCall id (some (.counting userId recipientName senderFirstName begun)) with locks }
      else some (world.createAnswer id .accountClosed)
    | some (.erasing userId) =>
      if world.accounts userId = some false then
        (world.locks.acquire id userId).map fun locks => { world.setCall id (some (.wiping userId)) with locks }
      else some (world.ended id)
    | _ => none
  | .insert id token requestId =>
    match world.calls id with
    | some (.counting userId recipientName senderFirstName begun) =>
      if cfg.waitingCap ≤ world.rows.countP (AddressRequestRow.isWaiting userId begun) then
        some (world.createAnswer id (.waitingCap cfg.waitingCap))
      else if cfg.dailyCap ≤ world.rows.countP (AddressRequestRow.isToday userId begun) then
        some (world.createAnswer id (.dailyCap cfg.dailyCap))
      else
        match addressRequestTokenHash sha256 token with
        | none => none
        | some tokenHash =>
          if validNames recipientName senderFirstName then
            some (world.setCall id (some (.inserted {
              requestId, userId, tokenHash, recipientName, senderFirstName, createdAt := begun,
              expiresAt := begun + cfg.linkDays * DAY })))
          else none
    | _ => none
  | .commit id =>
    match world.calls id with
    | some (.inserted row) =>
      -- The token and the id are random: no one has named them before they are given out.
      if row.tokenHash ∉ world.hashes ∧ row.requestId ∉ world.ids then
        some ((world.insertRow row).createAnswer id (.ok row))
      else none
    | _ => none
  | .answerAddressRequest id token address =>
    beginClosing world id ((addressRequestTokenHash sha256 token).map .link) (.link (.answered address))
  | .declineAddressRequest id token report =>
    beginClosing world id ((addressRequestTokenHash sha256 token).map .link) (.link (.declined report))
  | .cancelAddressRequest id userId requestId => beginClosing world id (requestId.map (.request userId)) .cancel
  | .update id =>
    match world.calls id with
    | some (.closing subject closer begun) =>
      match world.found subject closer begun with
      | [] => some (world.setCall id (some (.reading subject begun)))
      | closed :: _ =>
        some ((world.close subject closer begun).tell id (some subject) (.closed closed.row.requestId) none begun)
    | _ => none
  | .read id readAt =>
    match world.calls id with
    | some (.reading subject begun) =>
      if begun ≤ readAt ∧ readAt ≤ world.now then
        let found := world.rows.find? subject.names
        some (world.tell id (some subject) (readAnswer subject readAt found) found readAt)
      else none
    | _ => none
  | .purgeClosedAddressRequests id days =>
    if world.calls id = none then some (world.setCall id (some (.purging days world.now))) else none
  | .sweep id =>
    match world.calls id with
    | some (.purging days begun) => some ((world.deleteRows (AddressRequestRow.isPast days begun)).setCall id none)
    | _ => none
  | .eraseAccount id userId => if world.calls id = none then some (world.setCall id (some (.erasing userId))) else none
  | .wipe id =>
    match world.calls id with
    | some (.wiping userId) =>
      let left := world.deleteRows fun row => row.userId == userId
      some ({ left with accounts := Function.update world.accounts userId (some true) }.ended id)
    | _ => none
  | .abort id => some (world.ended id)

/-- One event, or one that cannot be. -/
def step (event : Event) : Except Unit World :=
  match next cfg sha256 world event with
  | some after => .ok after
  | none => .error ()

end Steps

end LetterIRL.Requests
