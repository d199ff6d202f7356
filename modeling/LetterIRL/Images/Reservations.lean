import LetterIRL.Lib.Runs
import LetterIRL.Operator.Audit
import Mathlib.Data.List.Sort

namespace LetterIRL.Images
open Lib Operator

/-! Image-generation entitlements and the reservations drawn on them, as
`imageGenerationLimitService` keeps them, over all accounts. -/

abbrev Time := Nat
abbrev UserId := String
abbrev EntitlementId := Nat
abbrev ReservationId := String

inductive EntitlementStatus
  | active
  | depleted
  | expired
  | revoked
  deriving DecidableEq

/-- A row of `image_entitlements`. -/
structure ImageEntitlement where
  entitlementId : EntitlementId
  userId : UserId
  sourceType : String
  sourceReferenceId : String
  sourceOrderId : Option String := none
  quantity : Nat
  consumedQuantity : Nat := 0
  status : EntitlementStatus := .active
  expiresAt : Option Time := none
  createdAt : Time
  deriving DecidableEq

inductive ReservationStatus
  | reserved
  | dispatched
  | consumed
  | released
  | ambiguous
  deriving DecidableEq

/-- A row of `image_generation_reservations`. -/
structure Reservation where
  reservationId : ReservationId
  entitlementId : EntitlementId
  userId : UserId
  status : ReservationStatus := .reserved
  createdAt : Time
  completedAt : Option Time := none
  dispatchStartedAt : Option Time := none
  providerCompletedAt : Option Time := none
  leaseExpiresAt : Option Time := none
  providerRequestId : Option String := none
  resolutionReason : Option String := none
  deriving DecidableEq

/-- The columns of `users` this service writes. -/
structure User where
  userId : UserId
  imageGenerationsUsed : Nat := 0
  deriving DecidableEq

structure Database where
  now : Time := 0
  users : Table User.userId := Table.empty
  imageEntitlements : Table ImageEntitlement.entitlementId := Table.empty
  reservations : Table Reservation.reservationId := Table.empty

inductive ResolutionErrorCode
  | idempotencyConflict
  | invalidRequest
  | invalidResolution
  | invalidState
  | notFound
  deriving DecidableEq

/-- Why a transaction rolled back. -/
inductive Abort
  /-- `Image reservation entitlement counter is inconsistent`. -/
  | entitlementCounter
  /-- `Image reservation user counter is inconsistent`. -/
  | userCounter
  | foreignKey
  | uniqueIndex
  | resolution (code : ResolutionErrorCode)
  deriving DecidableEq

/-- The settings of the two leases, in minutes, as `positiveIntegerSetting` reads them. -/
structure Config where
  preDispatchTimeoutMinutes : Nat := 15
  providerTimeoutMinutes : Nat := 30

def preDispatchLeaseExpiresAt (cfg : Config) (now : Time) : Time :=
  now + cfg.preDispatchTimeoutMinutes * 60

def providerOutcomeLeaseExpiresAt (cfg : Config) (now : Time) : Time :=
  now + cfg.providerTimeoutMinutes * 60

/-- `expires_at IS NULL OR expires_at > NOW()`. -/
def unexpired (now : Time) (entitlement : ImageEntitlement) : Bool :=
  match entitlement.expiresAt with
  | none => true
  | some at_ => now < at_

structure GenerationQuota where
  allowance : Nat
  used : Nat
  remaining : Nat
  deriving DecidableEq

/-- `getGenerationQuota`. -/
def getGenerationQuota (s : Database) (userId : UserId) : GenerationQuota :=
  let rows := s.imageEntitlements.rows.filter fun e => e.userId == userId && e.status != .revoked
  { allowance := total ImageEntitlement.quantity rows
    used := total ImageEntitlement.consumedQuantity rows
    remaining := total (fun e =>
      if e.status = .active ∧ unexpired s.now e = true then e.quantity - e.consumedQuantity else 0) rows }

structure GrantImageEntitlementParams where
  userId : UserId
  sourceType : String
  sourceReferenceId : String
  sourceOrderId : Option String := none
  quantity : Nat
  expiresAt : Option Time := none

/-- `grantImageEntitlementWithClient`: one grant for each source pair, none for no images. -/
def grantImageEntitlementWithClient (s : Database) (params : GrantImageEntitlementParams) :
    Except Abort Database :=
  if params.quantity = 0 then .ok s
  else if s.imageEntitlements.rows.any fun e =>
      e.sourceType == params.sourceType && e.sourceReferenceId == params.sourceReferenceId then .ok s
  else
    match s.users.find params.userId with
    | none => .error .foreignKey
    | some _ => .ok { s with
        imageEntitlements := s.imageEntitlements.insert
          { entitlementId := s.imageEntitlements.nextKey, userId := params.userId,
            sourceType := params.sourceType, sourceReferenceId := params.sourceReferenceId,
            sourceOrderId := params.sourceOrderId, quantity := params.quantity,
            expiresAt := params.expiresAt, createdAt := s.now } s.imageEntitlements.nextKey_fresh }

/-- `UPDATE … SET status = 'expired' WHERE status = 'active' AND expires_at <= NOW()`. -/
def expireEntitlements (s : Database) (userId : UserId) : Database :=
  { s with
    imageEntitlements := s.imageEntitlements.update
      (fun e => e.userId == userId && e.status == .active && !unexpired s.now e)
      (fun e => { e with status := .expired }) fun _ => rfl }

/-- `ORDER BY expires_at NULLS LAST, created_at, entitlement_id`. -/
def drawnBefore (first second : ImageEntitlement) : Bool :=
  let later := first.createdAt < second.createdAt ||
    (first.createdAt == second.createdAt && first.entitlementId ≤ second.entitlementId)
  match first.expiresAt, second.expiresAt with
  | some a, some b => a < b || (a == b && later)
  | some _, none => true
  | none, some _ => false
  | none, none => later

/-- The entitlement `reserveGeneration` selects. -/
def availableEntitlement (s : Database) (userId : UserId) : Option ImageEntitlement :=
  ((s.imageEntitlements.rows.filter fun e =>
      e.userId == userId && e.status == .active && e.consumedQuantity < e.quantity &&
        unexpired s.now e).insertionSort fun a b => drawnBefore a b).head?

/-- The entitlement with one more unit in use. -/
def drawnEntitlement (entitlement : ImageEntitlement) : ImageEntitlement :=
  { entitlement with
    consumedQuantity := entitlement.consumedQuantity + 1
    status := if entitlement.quantity ≤ entitlement.consumedQuantity + 1 then .depleted else .active }

structure GenerationReservation where
  quota : GenerationQuota
  reserved : Bool
  reservationId : Option ReservationId := none
  deriving DecidableEq

/-- `reserveGeneration`; `reservationId` is the id the database generates. -/
def reserveGeneration (cfg : Config) (s : Database) (userId : UserId) (reservationId : ReservationId) :
    Except Abort (Database × GenerationReservation) :=
  let swept := expireEntitlements s userId
  match availableEntitlement swept userId with
  | none => .ok (swept, { quota := getGenerationQuota swept userId, reserved := false })
  | some entitlement =>
    if fresh : reservationId ∉ swept.reservations.rows.map Reservation.reservationId then
      let drawn := { swept with
        imageEntitlements := swept.imageEntitlements.put (drawnEntitlement entitlement)
        users := swept.users.update (fun u => u.userId == userId)
          (fun u => { u with imageGenerationsUsed := u.imageGenerationsUsed + 1 }) fun _ => rfl
        reservations := swept.reservations.insert
          { reservationId, entitlementId := entitlement.entitlementId, userId, createdAt := s.now,
            leaseExpiresAt := some (preDispatchLeaseExpiresAt cfg s.now) } fresh }
      .ok (drawn,
        { quota := getGenerationQuota drawn userId, reserved := true, reservationId := some reservationId })
    else .error .uniqueIndex

/-- `UPDATE image_generation_reservations`, under the unique index on `provider_request_id`. -/
def updateReservation (s : Database) (row : Reservation) : Except Abort Database :=
  if s.reservations.rows.any fun other =>
      other.reservationId != row.reservationId && row.providerRequestId.isSome &&
        other.providerRequestId == row.providerRequestId then .error .uniqueIndex
  else .ok { s with reservations := s.reservations.put row }

/-- `markGenerationDispatched`. -/
def markGenerationDispatched (cfg : Config) (s : Database) (userId : UserId)
    (reservationId : ReservationId) : Except Abort (Database × Bool) :=
  match s.reservations.find reservationId with
  | none => .ok (s, false)
  | some row =>
    if row.userId = userId ∧ row.status = .reserved ∧ row.leaseExpiresAt.any (s.now < ·) then do
      let dispatched ← updateReservation s { row with
        status := .dispatched
        dispatchStartedAt := some s.now
        leaseExpiresAt := some (providerOutcomeLeaseExpiresAt cfg s.now)
        resolutionReason := none }
      .ok (dispatched, true)
    else .ok (s, false)

/-- The reservation of a call that succeeded. -/
def consumedReservation (now : Time) (row : Reservation) (reason : String) : Reservation :=
  { row with
    status := .consumed
    completedAt := row.completedAt <|> some now
    providerCompletedAt := row.providerCompletedAt <|> some now
    leaseExpiresAt := none
    resolutionReason := some reason }

/-- `commitGenerationReservation`. -/
def commitGenerationReservation (s : Database) (reservationId : ReservationId)
    (providerRequestId : Option String) : Except Abort (Database × Bool) :=
  match s.reservations.find reservationId with
  | none => .ok (s, false)
  | some row =>
    if row.status = .dispatched ∨ row.status = .ambiguous then do
      let committed ← updateReservation s { consumedReservation s.now row "provider_succeeded" with
        providerRequestId := row.providerRequestId <|> providerRequestId }
      .ok (committed, true)
    else .ok (s, row.status == .consumed)

/-- An entitlement that gets a unit back: one that was full is active again, unless it has expired. -/
def restoredEntitlement (now : Time) (entitlement : ImageEntitlement) : ImageEntitlement :=
  { entitlement with
    consumedQuantity := entitlement.consumedQuantity - 1
    status :=
      if entitlement.status = .depleted then if unexpired now entitlement then .active else .expired
      else entitlement.status }

/-- `releaseReservationWithClient`; `row` is the row as its caller read it. -/
def releaseReservationWithClient (s : Database) (row : Reservation) (reason : String)
    (expectedStatuses : List ReservationStatus) : Except Abort (Database × Bool) :=
  if row.status ∉ expectedStatuses then .ok (s, false)
  else
    match s.imageEntitlements.find row.entitlementId with
    | none => .error .entitlementCounter
    | some entitlement =>
      if entitlement.consumedQuantity = 0 then .error .entitlementCounter
      else
        match s.users.find row.userId with
        | none => .error .userCounter
        | some user =>
          if user.imageGenerationsUsed = 0 then .error .userCounter
          else .ok ({ s with
            imageEntitlements := s.imageEntitlements.put (restoredEntitlement s.now entitlement)
            users := s.users.put { user with imageGenerationsUsed := user.imageGenerationsUsed - 1 }
            reservations := s.reservations.update
              (fun r => r.reservationId == row.reservationId && r.status ∈ expectedStatuses)
              (fun r => { r with
                status := .released
                completedAt := some s.now
                leaseExpiresAt := none
                resolutionReason := some reason }) fun _ => rfl }, true)

/-- `releaseGenerationReservation`. -/
def releaseGenerationReservation (s : Database) (userId : UserId) (reservationId : ReservationId)
    (reason : String) : Except Abort (Database × Bool) :=
  match s.reservations.find reservationId with
  | none => .ok (s, false)
  | some row =>
    if row.userId ≠ userId then .ok (s, false)
    else releaseReservationWithClient s row reason [.reserved, .dispatched]

/-- The reservation of a call whose outcome is unknown. -/
def ambiguousReservation (row : Reservation) (reason : String) : Reservation :=
  { row with status := .ambiguous, leaseExpiresAt := none, resolutionReason := some reason }

/-- `markGenerationReservationAmbiguous`. -/
def markGenerationReservationAmbiguous (s : Database) (userId : UserId) (reservationId : ReservationId)
    (reason : String) (providerRequestId : Option String) : Except Abort (Database × Bool) :=
  match s.reservations.find reservationId with
  | none => .ok (s, false)
  | some row =>
    if row.userId = userId ∧ row.status = .dispatched then do
      let marked ← updateReservation s { ambiguousReservation row reason with
        providerRequestId := row.providerRequestId <|> providerRequestId }
      .ok (marked, true)
    else .ok (s, false)

/-- `status = … AND lease_expires_at <= NOW()`, of rows no other transaction holds. -/
def stale (s : Database) (status : ReservationStatus) (skipLocked : List ReservationId) :
    List Reservation :=
  s.reservations.rows.filter fun r =>
    r.status == status && r.leaseExpiresAt.any (· ≤ s.now) && r.reservationId ∉ skipLocked

/-- `ORDER BY lease_expires_at, reservation_id`. -/
def leaseBefore (first second : Reservation) : Bool :=
  let a := first.leaseExpiresAt.getD 0
  let b := second.leaseExpiresAt.getD 0
  a < b || (a == b && first.reservationId ≤ second.reservationId)

/-- `ORDER BY user_id, lease_expires_at, reservation_id`. -/
def userLeaseBefore (first second : Reservation) : Bool :=
  first.userId < second.userId || (first.userId == second.userId && leaseBefore first second)

/-- The releases of one reconciliation, one row after another. -/
def releaseStale (s : Database) : List Reservation → Except Abort Database
  | [] => .ok s
  | row :: rows => do
    let released ← releaseReservationWithClient s row "crash_before_provider_dispatch" [.reserved]
    releaseStale released.1 rows

/-- The stale calls of one reconciliation, quarantined. -/
def markStale (s : Database) (rows : List Reservation) : Database :=
  { s with
    reservations := s.reservations.update
      (fun r => rows.any fun row => row.reservationId == r.reservationId)
      (fun r => ambiguousReservation r "provider_outcome_unknown_after_crash") fun _ => rfl }

/-- `reconcileGenerationReservations`. -/
def reconcileGenerationReservations (s : Database) (limit : Nat) (skipLocked : List ReservationId) :
    Except Abort Database := do
  let bounded := min 500 (max 1 limit)
  let reserved := ((stale s .reserved skipLocked).insertionSort fun a b => userLeaseBefore a b).take bounded
  let released ← releaseStale s reserved
  let dispatched :=
    ((stale released .dispatched skipLocked).insertionSort fun a b => leaseBefore a b).take bounded
  .ok (markStale released dispatched)

/-- `UPDATE image_entitlements SET status = 'revoked' WHERE source_order_id = … AND status <> 'revoked'`. -/
def revokeEntitlements (s : Database) (orderId : String) : Database :=
  { s with
    imageEntitlements := s.imageEntitlements.update
      (fun e => e.sourceOrderId == some orderId && e.status != .revoked)
      (fun e => { e with status := .revoked }) fun _ => rfl }

end LetterIRL.Images
