import LetterIRL.Lib.Table
import LetterIRL.Lib.Runs
import LetterIRL.Commerce.Rows

namespace LetterIRL.Queue
open Lib Commerce

/-! `admin_operations`: operations a command queued, carried out by the runs of `processAdminOperations`. -/

abbrev OperationId := Nat
abbrev RunId := Nat

def MAX_OPERATION_ATTEMPTS : Nat := 3

/-- `INTERVAL '1 hour'`. -/
def HOUR : Time := 60 * 60

/-- `deadlock_detected`, `lock_not_available`, `serialization_failure`. -/
def LOCK_CONFLICTS : List String := ["40P01", "55P03", "40001"]

inductive Environment
  | development
  | production
  deriving DecidableEq

inductive OperationStatus
  | pending
  | processing
  | succeeded
  | failed
  deriving DecidableEq

/-- `sanitized_result_json`: what the handler reported, or the class of an error. -/
inductive Sanitized (Fields : Type)
  | fields (result : Fields)
  | errorClass (errorClass : String)
  | lastErrorClass (errorClass : String)
  deriving DecidableEq

structure Operation (Payload Fields : Type) where
  id : OperationId
  commandId : Nat
  operationType : String
  environment : Environment
  payload : Payload
  status : OperationStatus := .pending
  attempts : Nat := 0
  availableAt : Time
  completedAt : Option Time := none
  errorCode : Option String := none
  sanitizedResult : Option (Sanitized Fields) := none
  deriving DecidableEq

/-- What a handler reports or throws. A done operation's work is what it wrote; a refusal comes before any write. -/
inductive Answer (Fields Work : Type)
  | done (result : Fields) (work : Work)
  | refused (code : String) (result : Fields)
  | thrown (sqlState : Option String) (errorClass : String)
  deriving DecidableEq

/-- The handler met a lock conflict, not a failure of its work. -/
def Answer.lockConflict {Fields Work : Type} : Answer Fields Work → Bool
  | .thrown sqlState _ => sqlState.any (· ∈ LOCK_CONFLICTS)
  | _ => false

structure OperationKind where
  operationType : String
  errorCode : String
  deriving DecidableEq

structure OperationRunSummary where
  done : Nat := 0
  refused : Nat := 0
  retrying : Nat := 0
  failed : Nat := 0
  deriving DecidableEq

inductive OperationOutcome
  | done
  | refused
  | retrying
  | failed
  deriving DecidableEq

/-- `summary[outcome] += 1`. -/
def OperationRunSummary.add (summary : OperationRunSummary) : OperationOutcome → OperationRunSummary
  | .done => { summary with done := summary.done + 1 }
  | .refused => { summary with refused := summary.refused + 1 }
  | .retrying => { summary with retrying := summary.retrying + 1 }
  | .failed => { summary with failed := summary.failed + 1 }

/-- The operation a transaction claimed, as it read it, and the transaction's `NOW()`. -/
structure ClaimedOperation where
  id : OperationId
  attempts : Nat
  startedAt : Time
  deriving DecidableEq

inductive Phase (Fields Work : Type)
  | between
  /-- The row is locked, the savepoint set and the handler at work. -/
  | claimed (operation : ClaimedOperation)
  | answered (operation : ClaimedOperation) (answer : Answer Fields Work)
  /-- The outcome's `UPDATE` is made, its `COMMIT` to come. -/
  | recorded (operation : ClaimedOperation) (answer : Answer Fields Work)
  /-- The transaction failed with this class of error, the attempt to be recorded outside it. -/
  | outside (operation : ClaimedOperation) (errorClass : String)
  | ended
  deriving DecidableEq

/-- The operation whose row the run's transaction holds. -/
def Phase.holds {Fields Work : Type} : Phase Fields Work → Option ClaimedOperation
  | .claimed operation => some operation
  | .answered operation _ => some operation
  | .recorded operation _ => some operation
  | _ => none

/-- One `processAdminOperations`. -/
structure Run (Fields Work : Type) where
  id : RunId
  kind : OperationKind
  /-- Turns left of its batch. -/
  left : Nat
  summary : OperationRunSummary := {}
  phase : Phase Fields Work := .between
  deriving DecidableEq

structure Store (Payload Fields Work : Type) where
  now : Time := 0
  /-- `admin_environment_marker`. -/
  marker : Option Environment := none
  operations : Table (@Operation.id Payload Fields) := Table.empty
  runs : Table (@Run.id Fields Work) := Table.empty
  /-- What done operations' handlers wrote, as it was committed. -/
  written : List (OperationId × Work) := []

variable {Payload Fields Work : Type}

def locked (s : Store Payload Fields Work) (id : OperationId) : Bool :=
  s.runs.rows.any fun run => run.phase.holds.any fun operation => operation.id == id

/-- `ORDER BY o.available_at, o.id`. -/
def firstOf : List (Operation Payload Fields) → Option (Operation Payload Fields)
  | [] => none
  | operation :: rest =>
    match firstOf rest with
    | none => some operation
    | some other =>
      if other.availableAt < operation.availableAt ∨
          other.availableAt = operation.availableAt ∧ other.id < operation.id then some other
      else some operation

/-- The next operation of a kind a run may claim, `FOR UPDATE SKIP LOCKED`. -/
def nextOperation (s : Store Payload Fields Work) (kind : OperationKind) : Option (Operation Payload Fields) :=
  firstOf (s.operations.rows.filter fun operation =>
    operation.operationType == kind.operationType && operation.status == .pending &&
      decide (operation.availableAt ≤ s.now) && s.marker == some operation.environment && !locked s operation.id)

/-- What `handleNextOperation` writes of an answer, and returns. -/
def recordAnswer (kind : OperationKind) (claim : ClaimedOperation) (row : Operation Payload Fields) :
    Answer Fields Work → Operation Payload Fields × OperationOutcome
  | .done result _ =>
    ({ row with
        status := .succeeded
        attempts := row.attempts + 1
        completedAt := some claim.startedAt
        errorCode := none
        sanitizedResult := some (.fields result) }, .done)
  | .refused code result =>
    ({ row with
        status := .failed
        attempts := row.attempts + 1
        completedAt := some claim.startedAt
        errorCode := some code
        sanitizedResult := some (.fields result) }, .refused)
  | .thrown sqlState errorClass =>
    if sqlState.any (· ∈ LOCK_CONFLICTS) then
      ({ row with
          availableAt := claim.startedAt + HOUR
          sanitizedResult := some (.lastErrorClass errorClass) }, .retrying)
    else if claim.attempts + 1 ≥ MAX_OPERATION_ATTEMPTS then
      ({ row with
          status := .failed
          attempts := row.attempts + 1
          completedAt := some claim.startedAt
          errorCode := some kind.errorCode
          sanitizedResult := some (.errorClass errorClass) }, .failed)
    else
      ({ row with
          attempts := row.attempts + 1
          availableAt := claim.startedAt + HOUR
          sanitizedResult := some (.lastErrorClass errorClass) }, .retrying)

/-- The `UPDATE` of `recordAttemptOutside`, decided from the row as it stands. -/
def attemptOutside (kind : OperationKind) (now : Time) (errorClass : String) (row : Operation Payload Fields) :
    Operation Payload Fields :=
  let last : Bool := row.attempts + 1 ≥ MAX_OPERATION_ATTEMPTS
  { row with
    attempts := row.attempts + 1
    availableAt := now + HOUR
    status := if last then .failed else row.status
    completedAt := if last then some now else row.completedAt
    errorCode := if last then some kind.errorCode else row.errorCode
    sanitizedResult := if last then some (.errorClass errorClass) else some (.lastErrorClass errorClass) }

def Answer.work : Answer Fields Work → Option Work
  | .done _ work => some work
  | _ => none

inductive Event (Payload Fields Work : Type)
  | tick (seconds : Nat)
  | provision (environment : Environment)
  | enqueueAdminOperation (id : OperationId) (commandId : Nat) (environment : Environment) (operationType : String)
      (payload : Payload)
  | processAdminOperations (run : RunId) (kind : OperationKind) (batchLimit : Nat)
  | claim (run : RunId)
  | handle (run : RunId) (answer : Answer Fields Work)
  | record (run : RunId)
  | commit (run : RunId)
  /-- The `COMMIT` is made, but its reply is lost. -/
  | commitUnheard (run : RunId) (errorClass : String)
  /-- The transaction's bookkeeping fails, and it rolls back. -/
  | fail (run : RunId) (errorClass : String)
  | recordAttemptOutside (run : RunId) (answers : Bool)
  /-- The process is gone, its transaction with it. -/
  | crash (run : RunId)

inductive Abort
  | notFound
  | duplicate
  | wrongPhase
  | waits
  deriving DecidableEq

/-- A claimed operation's outcome, its work with it, becomes visible. -/
def commitOutcome (s : Store Payload Fields Work) (kind : OperationKind) (claim : ClaimedOperation)
    (answer : Answer Fields Work) : Except Abort (Store Payload Fields Work × OperationOutcome) :=
  match s.operations.find claim.id with
  | none => .error .notFound
  | some row =>
    let (row, outcome) := recordAnswer kind claim row answer
    .ok ({ s with
      operations := s.operations.put row
      written := s.written ++ (answer.work.map fun work => (claim.id, work)).toList }, outcome)

def processStep (s : Store Payload Fields Work) (run : Run Fields Work) :
    Event Payload Fields Work → Except Abort (Store Payload Fields Work)
  | .claim _ =>
    match run.phase with
    | .between =>
      if run.left = 0 then .ok { s with runs := s.runs.put { run with phase := .ended } }
      else match nextOperation s run.kind with
        | none => .ok { s with runs := s.runs.put { run with phase := .ended } }
        | some row =>
          let operation : ClaimedOperation := { id := row.id, attempts := row.attempts, startedAt := s.now }
          .ok { s with runs := s.runs.put { run with phase := .claimed operation } }
    | _ => .error .wrongPhase
  | .handle _ answer =>
    match run.phase with
    | .claimed operation => .ok { s with runs := s.runs.put { run with phase := .answered operation answer } }
    | _ => .error .wrongPhase
  | .record _ =>
    match run.phase with
    | .answered operation answer => .ok { s with runs := s.runs.put { run with phase := .recorded operation answer } }
    | _ => .error .wrongPhase
  | .commit _ =>
    match run.phase with
    | .recorded operation answer =>
      (commitOutcome s run.kind operation answer).map fun (s, outcome) =>
        { s with
          runs := s.runs.put { run with left := run.left - 1, summary := run.summary.add outcome, phase := .between } }
    | _ => .error .wrongPhase
  | .commitUnheard _ errorClass =>
    match run.phase with
    | .recorded operation answer =>
      (commitOutcome s run.kind operation answer).map fun (s, _) =>
        { s with runs := s.runs.put { run with phase := .outside operation errorClass } }
    | _ => .error .wrongPhase
  | .fail _ errorClass =>
    match run.phase.holds with
    | some operation => .ok { s with runs := s.runs.put { run with phase := .outside operation errorClass } }
    | none =>
      match run.phase with
      | .between => .ok { s with runs := s.runs.put { run with phase := .ended } }
      | _ => .error .wrongPhase
  | .recordAttemptOutside _ answers =>
    match run.phase with
    | .outside operation errorClass =>
      -- What the count read at the claim implies, where nothing is recorded.
      let implied : OperationOutcome :=
        if operation.attempts + 1 ≥ MAX_OPERATION_ATTEMPTS then .failed else .retrying
      let finish := fun (outcome : OperationOutcome) =>
        s.runs.put { run with summary := run.summary.add outcome, phase := .ended }
      if !answers then .ok { s with runs := finish implied }
      else if locked s operation.id then .error .waits
      else match s.operations.find operation.id with
        | none => .ok { s with runs := finish implied }
        | some row =>
          if row.status = .pending then
            let recorded := attemptOutside run.kind s.now errorClass row
            let outcome : OperationOutcome := if recorded.status = .failed then .failed else .retrying
            .ok { s with operations := s.operations.put recorded, runs := finish outcome }
          else .ok { s with runs := finish implied }
    | _ => .error .wrongPhase
  | .crash _ => .ok { s with runs := s.runs.erase run.id }
  | _ => .error .wrongPhase

def Event.run : Event Payload Fields Work → Option RunId
  | .claim run | .handle run _ | .record run | .commit run | .commitUnheard run _ | .fail run _
  | .recordAttemptOutside run _ | .crash run => some run
  | _ => none

def step (s : Store Payload Fields Work) : Event Payload Fields Work → Except Abort (Store Payload Fields Work)
  | .tick seconds => .ok { s with now := s.now + seconds }
  | .provision environment => .ok { s with marker := some environment }
  | .enqueueAdminOperation id commandId environment operationType payload =>
    if fresh : id ∉ s.operations.rows.map Operation.id then
      if s.operations.rows.any fun row => row.commandId == commandId then .error .duplicate
      else .ok { s with
        operations := s.operations.insert
          { id, commandId, operationType, environment, payload, availableAt := s.now } fresh }
    else .error .duplicate
  | .processAdminOperations id kind batchLimit =>
    if fresh : id ∉ s.runs.rows.map Run.id then
      .ok { s with runs := s.runs.insert { id, kind, left := batchLimit } fresh }
    else .error .duplicate
  | event =>
    match event.run.bind s.runs.find with
    | none => .error .notFound
    | some run => processStep s run event

end LetterIRL.Queue
