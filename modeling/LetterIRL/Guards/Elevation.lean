import LetterIRL.Guards.Totp
import LetterIRL.Lib.Runs

namespace LetterIRL.Guards
open Lib
open Layout (Text)

/-! `elevation.ts` and `totpCounters.ts`: the second factor, over processes that share one counter store. -/

/-- The longest one lock lasts, however many came before it. -/
def MAX_LOCK_MS : Nat := 24 * 60 * 60000

structure ElevationPolicy where
  ttlMs : Nat
  maxFailures : Nat
  failureWindowMs : Nat

structure LoginElevationState where
  /-- Failures since a code was last accepted. -/
  failures : Nat := 0
  lockedUntil : Option Nat := none
  /-- Locks applied since a code was last accepted. -/
  lockouts : Nat := 0

/-- `ElevationGuard`, for callers that pass a counter store. -/
structure ElevationGuard where
  byLogin : Text → Option LoginElevationState := fun _ => none

namespace ElevationGuard

/-- A login's state, as `recordFailure` reads it. -/
def state (guard : ElevationGuard) (login : Text) : LoginElevationState := (guard.byLogin login).getD {}

/-- The lock kept for a login, ended or not. -/
def lock (guard : ElevationGuard) (login : Text) : Option Nat := (guard.byLogin login).bind (·.lockedUntil)

def set (guard : ElevationGuard) (login : Text) (state : LoginElevationState) : ElevationGuard :=
  { byLogin := Function.update guard.byLogin login (some state) }

/-- `lockedUntil`, with the guard it leaves: an expired lock is cleared. -/
def lockedUntil (guard : ElevationGuard) (login : Text) (now : Nat) : Option Nat × ElevationGuard :=
  match guard.byLogin login with
  | none => (none, guard)
  | some state =>
    match state.lockedUntil with
    | none => (none, guard)
    | some until_ =>
      if until_ ≤ now then (none, guard.set login { state with lockedUntil := none }) else (some until_, guard)

/-- `recordFailure`: the lock it applies, the failures left, and the guard it leaves. -/
def recordFailure (policy : ElevationPolicy) (guard : ElevationGuard) (login : Text) (now : Nat) :
    Option Nat × Nat × ElevationGuard :=
  let state := guard.state login
  let failures := state.failures + 1
  if failures % policy.maxFailures = 0 then
    let lockMs := min (policy.failureWindowMs * 2 ^ state.lockouts) MAX_LOCK_MS
    (some (now + lockMs), 0,
      guard.set login { failures, lockedUntil := some (now + lockMs), lockouts := state.lockouts + 1 })
  else (none, policy.maxFailures - failures % policy.maxFailures, guard.set login { state with failures })

def clearFailures (guard : ElevationGuard) (login : Text) : ElevationGuard :=
  { byLogin := Function.update guard.byLogin login none }

end ElevationGuard

/-- The fields of `AdminSession` the second factor reads. -/
structure AdminSession where
  login : Text
  elevatedUntil : Option Nat
  deriving DecidableEq

def isElevated (session : AdminSession) (now : Nat) : Bool := session.elevatedUntil.any (now < ·)

inductive ElevationError
  | ADMIN_ELEVATION_LOCKED
  | ADMIN_ELEVATION_REQUIRED
  deriving DecidableEq

/-- `requireElevation`, and the guard it leaves. -/
def requireElevation (session : AdminSession) (guard : ElevationGuard) (now : Nat) :
    Except ElevationError Unit × ElevationGuard :=
  match guard.lockedUntil session.login now with
  | (some _, guard) => (.error .ADMIN_ELEVATION_LOCKED, guard)
  | (none, guard) => (if isElevated session now then .ok () else .error .ADMIN_ELEVATION_REQUIRED, guard)

inductive RefusalReason
  | locked
  | invalid
  | replayed
  deriving DecidableEq

/-- Where a call of `attemptElevation` is: at one of its two awaits, or settled. -/
inductive AttemptStage
  /-- At `counters.lastCounter`, with the row it read once it has. -/
  | reading (answer : Option (Option Int))
  /-- At `counters.claim`, with what it answered once it has. -/
  | claiming (counter : Int) (answer : Option Bool)
  | accepted (counter : Int) (elevatedUntil : Nat)
  | refused (reason : RefusalReason) (lockedUntil : Option Nat) (failuresLeft : Nat)
  | thrown
  deriving DecidableEq

/-- A call of `attemptElevation`: its arguments, with its session's login, and where it is. -/
structure Attempt where
  process : Nat
  session : Nat
  login : Text
  secretBase32 : Text
  code : Text
  now : Nat
  counterKey : Text
  stage : AttemptStage := .reading none

/-- A code about to be verified: by whom, when, and the guards as they are then. -/
structure Verification where
  process : Nat
  login : Text
  clock : Nat
  guards : Nat → ElevationGuard

/-- A failure counted: the time of its attempt, and the lock it applied. -/
structure Failure where
  now : Nat
  lockedUntil : Option Nat

/-- The processes' memories, the counter store, and what has happened. -/
structure World where
  clock : Nat := 0
  guards : Nat → ElevationGuard := fun _ => {}
  /-- The sessions of each process, by number. -/
  sessions : Nat → Nat → Option AdminSession := fun _ _ => none
  /-- `admin_totp_counters`. -/
  counters : Text → Option Int := fun _ => none
  /-- The calls of `attemptElevation`, by number. -/
  attempts : Nat → Option Attempt := fun _ => none
  /-- The counters the store has recorded under each key, the last one first. -/
  claimed : Text → List Int := fun _ => []
  verifications : List Verification := []
  /-- A process's failures of a login since it last accepted a code of theirs. -/
  failures : Nat × Text → List Failure := fun _ => []

inductive ElevationEvent
  | tick (elapsed : Nat)
  /-- `AdminSessionStore.create`, as the process's session of this number. -/
  | create (process session : Nat) (login : Text)
  /-- `AdminSessionStore.rotate`: a new session of the same state. -/
  | rotate (process session renewed : Nat)
  | dropElevation (process session : Nat)
  | requireElevation (process session now : Nat)
  | attemptElevation (number process session : Nat) (secretBase32 code : Text) (now : Nat) (counterKey : Text)
  /-- The store runs a call's statement. -/
  | answer (number : Nat)
  /-- A call's await returns. -/
  | resume (number : Nat)
  /-- A call's await throws, whether its statement ran or not. -/
  | reject (number : Nat)

namespace World

def setGuard (world : World) (process : Nat) (guard : ElevationGuard) : World :=
  { world with guards := Function.update world.guards process guard }

def setSession (world : World) (process session : Nat) (holder : AdminSession) : World :=
  { world with
    sessions := Function.update world.sessions process
      (Function.update (world.sessions process) session (some holder)) }

/-- `session.elevatedUntil = …`, where there is such a session. -/
def setElevatedUntil (world : World) (process session : Nat) (elevatedUntil : Option Nat) : World :=
  { world with
    sessions := Function.update world.sessions process (Function.update (world.sessions process) session
      ((world.sessions process session).map fun holder => { holder with elevatedUntil })) }

/-- The call of this number, at a stage. -/
def setStage (world : World) (number : Nat) (attempt : Attempt) (stage : AttemptStage) : World :=
  { world with attempts := Function.update world.attempts number (some { attempt with stage }) }

/-- A failed code is counted; a lock takes the session's elevation with it. -/
def fail (policy : ElevationPolicy) (world : World) (number : Nat) (attempt : Attempt) (reason : RefusalReason) :
    World :=
  match (world.guards attempt.process).recordFailure policy attempt.login attempt.now with
  | (lockedUntil, failuresLeft, guard) =>
    let key := (attempt.process, attempt.login)
    let counted := { world.setGuard attempt.process guard with
      failures := Function.update world.failures key (world.failures key ++ [Failure.mk attempt.now lockedUntil]) }
    match lockedUntil with
    | some lock =>
      (counted.setElevatedUntil attempt.process attempt.session none).setStage number attempt
        (.refused .locked (some lock) 0)
    | none => counted.setStage number attempt (.refused reason none failuresLeft)

/-- An accepted code: the history starts again, and the session is elevated. -/
def accept (policy : ElevationPolicy) (world : World) (number : Nat) (attempt : Attempt) (counter : Int) : World :=
  let cleared := { world.setGuard attempt.process ((world.guards attempt.process).clearFailures attempt.login) with
    failures := Function.update world.failures (attempt.process, attempt.login) [] }
  let elevatedUntil := attempt.now + policy.ttlMs
  (cleared.setElevatedUntil attempt.process attempt.session (some elevatedUntil)).setStage number attempt
    (.accepted counter elevatedUntil)

/-- `attemptElevation` up to its first await. -/
def begin_ (world : World) (number : Nat) (attempt : Attempt) : World :=
  match (world.guards attempt.process).lockedUntil attempt.login attempt.now with
  | (some standingLock, guard) =>
    (world.setGuard attempt.process guard).setStage number attempt (.refused .locked (some standingLock) 0)
  | (none, guard) => (world.setGuard attempt.process guard).setStage number attempt (.reading none)

/-- From the first await: the lock again, and the code verified. -/
def verify (platform : Platform) (policy : ElevationPolicy) (world : World) (number : Nat) (attempt : Attempt)
    (lastCounter : Option Int) : World :=
  match (world.guards attempt.process).lockedUntil attempt.login attempt.now with
  | (some lockedSince, guard) =>
    (world.setGuard attempt.process guard).setStage number attempt (.refused .locked (some lockedSince) 0)
  | (none, guard) =>
    let verified := { world.setGuard attempt.process guard with
      verifications := Verification.mk attempt.process attempt.login world.clock world.guards :: world.verifications }
    let checked := (decodeBase32 platform attempt.secretBase32).bind fun secret =>
      verifyTotp platform secret attempt.code (attempt.now / 1000) lastCounter
    match checked with
    | none => verified.setStage number attempt .thrown
    | some (.ok counter) => verified.setStage number attempt (.claiming counter none)
    | some .invalid => verified.fail policy number attempt .invalid
    | some .replayed => verified.fail policy number attempt .replayed

/-- The store's statement of a call: a read, or a claim of a counter above the stored one. -/
def answer (world : World) (number : Nat) (attempt : Attempt) : Option World :=
  match attempt.stage with
  | .reading none => some (world.setStage number attempt (.reading (some (world.counters attempt.counterKey))))
  | .claiming counter none =>
    if (world.counters attempt.counterKey).any (counter ≤ ·) then
      some (world.setStage number attempt (.claiming counter (some false)))
    else
      some ({ world with
        counters := Function.update world.counters attempt.counterKey (some counter)
        claimed := Function.update world.claimed attempt.counterKey (counter :: world.claimed attempt.counterKey)
      }.setStage number attempt (.claiming counter (some true)))
  | _ => none

/-- A call whose await has its answer goes on. -/
def resume (platform : Platform) (policy : ElevationPolicy) (world : World) (number : Nat) (attempt : Attempt) :
    Option World :=
  match attempt.stage with
  | .reading (some lastCounter) => some (world.verify platform policy number attempt lastCounter)
  | .claiming counter (some true) => some (world.accept policy number attempt counter)
  | .claiming _ (some false) => some (world.fail policy number attempt .replayed)
  | _ => none

/-- A call at an await gets an error from it. -/
def reject (world : World) (number : Nat) (attempt : Attempt) : Option World :=
  match attempt.stage with
  | .reading _ | .claiming _ _ => some (world.setStage number attempt .thrown)
  | _ => none

/-- One event; `none` where it cannot come. -/
def next (platform : Platform) (policy : ElevationPolicy) (world : World) : ElevationEvent → Option World
  | .tick elapsed => some { world with clock := world.clock + elapsed }
  | .create process session login =>
    match world.sessions process session with
    | some _ => none
    | none => some (world.setSession process session { login, elevatedUntil := none })
  | .rotate process session renewed =>
    match world.sessions process session, world.sessions process renewed with
    | some holder, none => some (world.setSession process renewed holder)
    | _, _ => none
  | .dropElevation process session => some (world.setElevatedUntil process session none)
  | .requireElevation process session now =>
    (world.sessions process session).bind fun holder =>
      if now ≤ world.clock then
        some (world.setGuard process (Guards.requireElevation holder (world.guards process) now).2)
      else none
  | .attemptElevation number process session secretBase32 code now counterKey =>
    (world.sessions process session).bind fun holder =>
      if now ≤ world.clock ∧ (world.attempts number).isNone then
        some (world.begin_ number { process, session, login := holder.login, secretBase32, code, now, counterKey })
      else none
  | .answer number => (world.attempts number).bind (world.answer number)
  | .resume number => (world.attempts number).bind (world.resume platform policy number)
  | .reject number => (world.attempts number).bind (world.reject number)

def step (platform : Platform) (policy : ElevationPolicy) (world : World) (event : ElevationEvent) :
    Except Unit World :=
  (world.next platform policy event).elim (.error ()) .ok

def lock (world : World) (process : Nat) (login : Text) : Option Nat := (world.guards process).lock login

end World

end LetterIRL.Guards
