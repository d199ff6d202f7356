import LetterIRL.Images.Reservations

namespace LetterIRL.Images
open Lib Operator

/-! The operator's resolution of a quarantined provider outcome, and the service as one step function. -/

inductive AmbiguousGenerationDecision
  | consume
  | release
  deriving DecidableEq

inductive AmbiguousGenerationResolution
  | providerConfirmedSucceeded
  | providerConfirmedFailed
  | customerCompensation
  deriving DecidableEq

def AmbiguousGenerationDecision.text : AmbiguousGenerationDecision → String
  | .consume => "consume"
  | .release => "release"

def AmbiguousGenerationResolution.text : AmbiguousGenerationResolution → String
  | .providerConfirmedSucceeded => "provider_confirmed_succeeded"
  | .providerConfirmedFailed => "provider_confirmed_failed"
  | .customerCompensation => "customer_compensation"

structure ResolveAmbiguousGenerationReservationParams where
  reservationId : ReservationId
  expectedUserId : UserId
  actorId : String
  idempotencyKey : String
  decision : AmbiguousGenerationDecision
  resolution : AmbiguousGenerationResolution
  deriving DecidableEq

/-- `resultingStatus`, as the audit's text records it. -/
def AmbiguousGenerationDecision.resultingStatus : AmbiguousGenerationDecision → String
  | .consume => "consumed"
  | .release => "released"

structure AmbiguousGenerationResolutionResult where
  reservationId : ReservationId
  userId : UserId
  decision : String
  resolution : String
  resultingStatus : String
  replayed : Bool
  deriving DecidableEq

def isValidResolutionPair (decision : AmbiguousGenerationDecision)
    (resolution : AmbiguousGenerationResolution) : Bool :=
  match decision with
  | .consume => resolution == .providerConfirmedSucceeded
  | .release => resolution == .providerConfirmedFailed || resolution == .customerCompensation

section
variable (sha256 : String → Digest)

def resolutionSubjectBinding (reservationId userId : String) : Digest :=
  sha256 (reservationId ++ "\x00" ++ userId)

/-- `replayResolution`: the first outcome, for the command that had it. -/
def replayResolution (existing : AuditEvent) (params : ResolveAmbiguousGenerationReservationParams) :
    Except Abort AmbiguousGenerationResolutionResult :=
  let decision := existing.afterState.text "decision"
  let resolution := existing.afterState.text "resolution"
  if existing.targetReferenceHash ≠ sha256 params.reservationId ∨
      existing.actorSubjectHash ≠ sha256 params.actorId ∨
      existing.beforeState.text "subjectBinding" ≠
        some (resolutionSubjectBinding sha256 params.reservationId params.expectedUserId) ∨
      decision ≠ some params.decision.text ∨ resolution ≠ some params.resolution.text then
    .error (.resolution .idempotencyConflict)
  else .ok
    { reservationId := params.reservationId, userId := params.expectedUserId,
      decision := decision.getD "", resolution := resolution.getD "",
      resultingStatus := (existing.afterState.text "status").getD "", replayed := true }

def resolutionAudit (params : ResolveAmbiguousGenerationReservationParams) : AuditEvent :=
  { idempotencyKeyHash := sha256 params.idempotencyKey
    actorSubjectHash := sha256 params.actorId
    operation := .imageReservationResolve
    targetType := .imageReservation
    targetReferenceHash := sha256 params.reservationId
    reasonCode := params.resolution.text
    beforeState := [("status", .text "ambiguous"), ("quotaHeld", .bool true),
      ("subjectBinding",
        .text (resolutionSubjectBinding sha256 params.reservationId params.expectedUserId))]
    afterState := [("status", .text params.decision.resultingStatus), ("decision", .text params.decision.text),
      ("resolution", .text params.resolution.text),
      ("quotaHeld", .bool (params.decision == .consume))]
    providerEvidence := [("classification", .text params.resolution.text),
      ("providerReferenceStored", .bool false),
      ("evidenceReviewed", .bool (params.resolution != .customerCompensation))] }

def validResolutionRequest (params : ResolveAmbiguousGenerationReservationParams) : Bool :=
  params.reservationId != "" && utf16Length params.reservationId ≤ 64 &&
    params.expectedUserId != "" && utf16Length params.expectedUserId ≤ 255 &&
    params.actorId != "" && utf16Length params.actorId ≤ 255 && validIdempotencyKey params.idempotencyKey

/-- What the resolution does to a reservation it found in quarantine. -/
def applyResolution (s : Database) (row : Reservation) (params : ResolveAmbiguousGenerationReservationParams) :
    Except Abort Database :=
  match params.decision with
  | .consume => .ok { s with
      reservations := s.reservations.put
        { consumedReservation s.now row params.resolution.text with leaseExpiresAt := row.leaseExpiresAt } }
  | .release => do
    let released ← releaseReservationWithClient s row params.resolution.text [.ambiguous]
    .ok released.1

/-- `resolveAmbiguousGenerationReservation`. -/
def resolveAmbiguousGenerationReservation (s : Database) (audit : Audit)
    (params : ResolveAmbiguousGenerationReservationParams) :
    Except Abort (Database × Audit × AmbiguousGenerationResolutionResult) :=
  if !validResolutionRequest params then .error (.resolution .invalidRequest)
  else if !isValidResolutionPair params.decision params.resolution then
    .error (.resolution .invalidResolution)
  else
    match audit.find (sha256 params.idempotencyKey) with
    | some existing => do
      let result ← replayResolution sha256 existing params
      .ok (s, audit, result)
    | none =>
      match s.reservations.find params.reservationId with
      | none => .error (.resolution .notFound)
      | some row =>
        if row.userId ≠ params.expectedUserId then .error (.resolution .notFound)
        else if row.status ≠ .ambiguous then .error (.resolution .invalidState)
        else do
          let resolved ← applyResolution s row params
          match audit.record (resolutionAudit sha256 params) with
          | none => .error .uniqueIndex
          | some recorded => .ok (resolved, recorded,
              { reservationId := params.reservationId, userId := params.expectedUserId,
                decision := params.decision.text, resolution := params.resolution.text,
                resultingStatus := params.decision.resultingStatus, replayed := false })

end

/-- A transaction of the image service, with what reaches it from outside. -/
inductive Event
  | tick (elapsed : Time)
  | signUp (userId : UserId)
  | grant (params : GrantImageEntitlementParams)
  | reserve (userId : UserId) (reservationId : ReservationId)
  | dispatch (userId : UserId) (reservationId : ReservationId)
  | commit (reservationId : ReservationId) (providerRequestId : Option String)
  | release (userId : UserId) (reservationId : ReservationId) (reason : String)
  | markAmbiguous (userId : UserId) (reservationId : ReservationId) (reason : String)
      (providerRequestId : Option String)
  | reconcile (limit : Nat) (skipLocked : List ReservationId)
  | resolve (params : ResolveAmbiguousGenerationReservationParams)
  | revoke (orderId : String)

/-- The database with the operator audit beside it. -/
structure State where
  database : Database := {}
  audit : Audit := Table.empty

def State.withDatabase (s : State) (result : Except Abort Database) : Except Abort State :=
  result.map fun database => { s with database }

/-- One transaction; an error is a rollback. -/
def step (cfg : Config) (sha256 : String → Digest) (s : State) : Event → Except Abort State
  | .tick elapsed => .ok { s with database := { s.database with now := s.database.now + elapsed } }
  | .signUp userId => .ok { s with
      database := { s.database with users := s.database.users.insertNew { userId } } }
  | .grant params => s.withDatabase (grantImageEntitlementWithClient s.database params)
  | .reserve userId reservationId =>
    s.withDatabase ((reserveGeneration cfg s.database userId reservationId).map Prod.fst)
  | .dispatch userId reservationId =>
    s.withDatabase ((markGenerationDispatched cfg s.database userId reservationId).map Prod.fst)
  | .commit reservationId providerRequestId =>
    s.withDatabase ((commitGenerationReservation s.database reservationId providerRequestId).map Prod.fst)
  | .release userId reservationId reason =>
    s.withDatabase ((releaseGenerationReservation s.database userId reservationId reason).map Prod.fst)
  | .markAmbiguous userId reservationId reason providerRequestId =>
    s.withDatabase ((markGenerationReservationAmbiguous s.database userId reservationId reason
      providerRequestId).map Prod.fst)
  | .reconcile limit skipLocked =>
    s.withDatabase (reconcileGenerationReservations s.database limit skipLocked)
  | .resolve params =>
    (resolveAmbiguousGenerationReservation sha256 s.database s.audit params).map fun resolved =>
      { database := resolved.1, audit := resolved.2.1 }
  | .revoke orderId => .ok { s with database := revokeEntitlements s.database orderId }

/-- The states reached from an empty database by committed transactions. -/
abbrev Reachable (cfg : Config) (sha256 : String → Digest) : State → Prop :=
  Reach (step cfg sha256) anyStep {}

end LetterIRL.Images
