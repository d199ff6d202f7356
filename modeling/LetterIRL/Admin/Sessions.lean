import LetterIRL.Lib.Runs

namespace LetterIRL.Admin.Sessions

/-! The operators' sessions, kept in memory, and the requests that hold one across an `await`. -/

/-- A session id: 32 random bytes, so a new one is unlike every other. -/
abbrev SessionId := Nat

structure SessionBinding where
  login : String
  name : String
  node : String
  peerAddress : String
  deriving DecidableEq

structure AdminSession extends SessionBinding where
  id : SessionId
  createdAt : Int
  lastSeenAt : Int
  elevatedUntil : Option Int
  deriving DecidableEq

structure AdminSessionStoreOptions where
  idleTtlMs : Int
  absoluteTtlMs : Int
  maxSessions : Nat := 100
  some_ : 0 < maxSessions := by decide

/-- The map of ids, in the order they were set, and every session object made: a handler keeps its own when the map has
let it go. -/
structure AdminSessionStore where
  held : List SessionId := []
  objects : SessionId → Option AdminSession := fun _ => none

inductive SessionResolution
  | ok (session : AdminSession)
  | missing
  | expired
  | bindingMismatch
  deriving DecidableEq

def isElevated (session : AdminSession) (now : Int) : Bool := session.elevatedUntil.any (now < ·)

def isExpired (options : AdminSessionStoreOptions) (session : AdminSession) (now : Int) : Bool :=
  options.idleTtlMs < now - session.lastSeenAt || options.absoluteTtlMs < now - session.createdAt

namespace AdminSessionStore

variable (options : AdminSessionStoreOptions) (store : AdminSessionStore)

/-- `this.sessions.get(id)` -/
def get (id : SessionId) : Option AdminSession := if id ∈ store.held then store.objects id else none

/-- `this.sessions.delete(id)` -/
def delete (id : SessionId) : AdminSessionStore := { store with held := store.held.filter (· != id) }

/-- Fields of a session object written in place. -/
def write (session : AdminSession) : AdminSessionStore :=
  { store with objects := Function.update store.objects session.id (some session) }

/-- `this.sessions.set(session.id, session)` of an id the map does not have. -/
def set (session : AdminSession) : AdminSessionStore :=
  { store.write session with held := store.held ++ [session.id] }

def prune (now : Int) : AdminSessionStore :=
  { store with held := store.held.filter fun id => !(store.objects id).any (isExpired options · now) }

/-- The session a full store drops: the one longest unseen that is not elevated, or that is. -/
def oldest (now : Int) : Option AdminSession :=
  let byAge := (store.held.filterMap store.objects).mergeSort fun a b => decide (a.lastSeenAt ≤ b.lastSeenAt)
  match byAge.find? fun session => !isElevated session now with
  | some session => some session
  | none => byAge.head?

def makeRoom (now : Int) : AdminSessionStore :=
  if options.maxSessions ≤ store.held.length then
    match store.oldest now with
    | some session => store.delete session.id
    | none => store
  else store

/-- `prune` reads the clock before `create` does. -/
def create (binding : SessionBinding) (pruned now : Int) (id : SessionId) : AdminSessionStore × AdminSession :=
  let session : AdminSession :=
    { binding with id := id, createdAt := now, lastSeenAt := now, elevatedUntil := none }
  (((store.prune options pruned).makeRoom options now).set session, session)

def resolve (id : Option SessionId) (login peerAddress : String) (now : Int) : SessionResolution × AdminSessionStore :=
  match id with
  | none => (.missing, store)
  | some id =>
    match store.get id with
    | none => (.missing, store)
    | some session =>
      if isExpired options session now then (.expired, store.delete id)
      else if session.login ≠ login ∨ session.peerAddress ≠ peerAddress then (.bindingMismatch, store.delete id)
      else
        let seen := { session with lastSeenAt := now }
        (.ok seen, store.write seen)

def rotate (session : AdminSession) (id : SessionId) : AdminSessionStore × AdminSession :=
  let rotated := { session with id := id }
  ((store.delete session.id).set rotated, rotated)

def destroy (id : SessionId) : AdminSessionStore := store.delete id

def destroyAll : AdminSessionStore := { store with held := [] }

end AdminSessionStore

/-- A request between two of its steps. -/
inductive Stage
  /-- Waits for `whois`, to be given a session. -/
  | starting (login peerAddress : String)
  | authenticated (session : SessionId)
  /-- POST /elevate, waiting for the counter store. -/
  | elevating (session : SessionId)
  /-- Its code is accepted, and the session not yet renewed. -/
  | accepted (session : SessionId)
  /-- POST /session/logout, waiting for its audit row. -/
  | loggingOut (session : SessionId)
  deriving DecidableEq

/-- A session's creation. -/
structure Founding where
  id : SessionId
  login : String
  peerAddress : String
  time : Int
  deriving DecidableEq

/-- A session's creation, or a request let in by its cookie. -/
structure Use where
  id : SessionId
  time : Int
  deriving DecidableEq

/-- The store, the requests, and what is to be remembered of a run. -/
structure World where
  store : AdminSessionStore := {}
  requests : Nat → Option Stage := fun _ => none
  foundings : List Founding := []
  /-- Newest first. -/
  uses : List Use := []
  /-- A session and those it was renewed from, back to the one created. -/
  lines : SessionId → List SessionId := fun _ => []
  /-- The sessions ended, and those renewed from one that had ended. -/
  spent : List SessionId := []

inductive SessionEvent
  /-- A request; `cookie` is the id its session cookie holds, if any. -/
  | arrive (request : Nat) (cookie : Option SessionId) (login peerAddress : String) (allowNewSession : Bool) (now : Int)
  | deny (request : Nat)
  | start (request : Nat) (name node : String) (pruned now : Int) (id : SessionId)
  | finish (request : Nat)
  | elevate (request : Nat)
  | dropElevation (request : Nat)
  /-- The code is refused; an elevation goes with a lock. -/
  | refuse (request : Nat) (locked : Bool)
  | accept (request : Nat) (elevatedUntil : Int)
  | rotate (request : Nat) (id : SessionId)
  | logout (request : Nat)
  /-- The audit row of a logout is written, or its write failed. -/
  | audited (request : Nat) (written : Bool)
  | stop
  deriving DecidableEq

namespace World

def setRequest (world : World) (request : Nat) (stage : Option Stage) : World :=
  { world with requests := Function.update world.requests request stage }

/-- A change of the store, which may let sessions go: those have ended. -/
def withStore (world : World) (store : AdminSessionStore) : World :=
  { world with store := store, spent := world.spent ++ world.store.held.filter (· ∉ store.held) }

def used (world : World) (id : SessionId) (now : Int) : World := { world with uses := ⟨id, now⟩ :: world.uses }

/-- A session created. -/
def founded (world : World) (session : AdminSession) (now : Int) : World :=
  { world.used session.id now with
    foundings := world.foundings ++ [⟨session.id, session.login, session.peerAddress, now⟩]
    lines := Function.update world.lines session.id [session.id] }

/-- A session renewed as another. -/
def renewed (world : World) (old new : SessionId) (store : AdminSessionStore) : World :=
  { world with
    store := store
    lines := Function.update world.lines new (new :: world.lines old)
    spent := if old ∈ world.spent then world.spent ++ [new] else world.spent }

/-- A session that a logout destroys has ended, whether the store still has it or not. -/
def loggedOut (world : World) (id : SessionId) : World :=
  { world with store := world.store.destroy id, spent := world.spent ++ [id] }

def setElevation (world : World) (id : SessionId) (elevatedUntil : Option Int) : World :=
  match world.store.objects id with
  | some session => { world with store := world.store.write { session with elevatedUntil := elevatedUntil } }
  | none => world

def arrive (options : AdminSessionStoreOptions) (world : World) (request : Nat) (cookie : Option SessionId)
    (login peerAddress : String) (allowNewSession : Bool) (now : Int) : World :=
  match world.store.resolve options cookie login peerAddress now with
  | (.ok session, store) =>
    ((world.withStore store).used session.id now).setRequest request (some (.authenticated session.id))
  | (.bindingMismatch, store) => (world.withStore store).setRequest request (some (.starting login peerAddress))
  | (_, store) =>
    if allowNewSession then (world.withStore store).setRequest request (some (.starting login peerAddress))
    else world.withStore store

def start (options : AdminSessionStoreOptions) (world : World) (request : Nat) (binding : SessionBinding)
    (pruned now : Int) (id : SessionId) : World :=
  let (store, session) := world.store.create options binding pruned now id
  ((world.withStore store).founded session now).setRequest request (some (.authenticated session.id))

def rotate (world : World) (request : Nat) (session : AdminSession) (id : SessionId) : World :=
  let (store, rotated) := world.store.rotate session id
  (world.renewed session.id rotated.id store).setRequest request (some (.authenticated rotated.id))

def next (options : AdminSessionStoreOptions) (world : World) : SessionEvent → Option World
  | .arrive request cookie login peerAddress allowNewSession now =>
    match world.requests request with
    | none => some (world.arrive options request cookie login peerAddress allowNewSession now)
    | some _ => none
  | .deny request =>
    match world.requests request with
    | some (.starting _ _) => some (world.setRequest request none)
    | _ => none
  | .start request name node pruned now id =>
    match world.requests request, world.store.objects id with
    | some (.starting login peerAddress), none =>
      some (world.start options request ⟨login, name, node, peerAddress⟩ pruned now id)
    | _, _ => none
  | .finish request =>
    match world.requests request with
    | some (.authenticated _) => some (world.setRequest request none)
    | _ => none
  | .elevate request =>
    match world.requests request with
    | some (.authenticated session) => some (world.setRequest request (some (.elevating session)))
    | _ => none
  | .dropElevation request =>
    match world.requests request with
    | some (.authenticated session) => some (world.setElevation session none)
    | _ => none
  | .refuse request locked =>
    match world.requests request with
    | some (.elevating session) =>
      some ((if locked then world.setElevation session none else world).setRequest request (some (.authenticated session)))
    | _ => none
  | .accept request elevatedUntil =>
    match world.requests request with
    | some (.elevating session) =>
      some ((world.setElevation session (some elevatedUntil)).setRequest request (some (.accepted session)))
    | _ => none
  | .rotate request id =>
    match world.requests request with
    | some (.accepted session) =>
      match world.store.objects session, world.store.objects id with
      | some session, none => some (world.rotate request session id)
      | _, _ => none
    | _ => none
  | .logout request =>
    match world.requests request with
    | some (.authenticated session) => some (world.setRequest request (some (.loggingOut session)))
    | _ => none
  | .audited request written =>
    match world.requests request with
    | some (.loggingOut session) =>
      some ((if written then world.loggedOut session else world).setRequest request none)
    | _ => none
  | .stop => some (world.withStore world.store.destroyAll)

def step (options : AdminSessionStoreOptions) (world : World) (event : SessionEvent) : Except Unit World :=
  match world.next options event with
  | some after => .ok after
  | none => .error ()

/-- A session is renewed while the store still has it. -/
def StillHeld (world : World) : SessionEvent → Prop
  | .rotate request _ => ∀ session, world.requests request = some (.accepted session) → session ∈ world.store.held
  | _ => True

end World

end LetterIRL.Admin.Sessions
