import LetterIRL.Lib.Table
import LetterIRL.Lib.Runs

namespace LetterIRL.Command
open Lib

/-! `runAdminCommand`: a confirmed command's run, its audit event and its domain call, in both transaction shapes. -/

abbrev CallId := Nat
abbrev RunId := Nat
abbrev Key := Nat
abbrev ActorId := Nat
abbrev TargetId := Nat
abbrev Input := Nat
abbrev Digest := Nat
abbrev Phrase := Nat
/-- A target's `updated_at`. -/
abbrev Version := Nat

inductive AdminErrorCode
  | notFound
  | invalidState
  | invalidRequest
  | stalePreview
  | idempotencyConflict
  | domain (code : String)
  deriving DecidableEq

/-- A committed run's status; `pending` is left in the transaction that inserts the row. -/
inductive RunStatus
  | running
  | succeeded
  | failed
  deriving DecidableEq

structure CommandDefinition where
  /-- `execute` writes through the operator transaction only. -/
  transactional : Bool
  /-- Reads the target's version again in that transaction, and holds its row. -/
  lockVersion : Bool
  deriving DecidableEq

structure PreparedPreview where
  targetId : TargetId
  previewDigest : Digest
  expectedVersion : Option Version
  phrase : Phrase
  deriving DecidableEq

/-- The registered commands, and what each previews of a target as it stands. -/
structure Panel where
  definition : String → CommandDefinition
  preview : String → TargetId → Input → Version → Except AdminErrorCode PreparedPreview

/-- What a confirmation presents. -/
structure Confirmation where
  idempotencyKey : Key
  actorId : ActorId
  action : String
  targetId : TargetId
  input : Input
  previewDigest : Digest
  expectedVersion : Option Version
  phrase : Phrase
  deriving DecidableEq

/-- `admin_command_runs`. -/
structure CommandRun (Result : Type) where
  id : RunId
  idempotencyKey : Key
  actorId : ActorId
  action : String
  targetId : TargetId
  previewDigest : Digest
  expectedVersion : Option Version
  status : RunStatus
  sanitizedResult : Option Result := none
  errorCode : Option AdminErrorCode := none
  deriving DecidableEq

inductive AuditOutcome
  | denied
  | failed
  | succeeded
  deriving DecidableEq

/-- `admin_audit_events`. -/
structure AuditEvent where
  actorId : ActorId
  action : String
  targetId : TargetId
  outcome : AuditOutcome
  errorCode : Option AdminErrorCode := none
  commandId : Option RunId := none
  deriving DecidableEq

/-- A command's effect on its target, keyed by its run, and the version it found. -/
structure Effect where
  runId : RunId
  version : Version
  deriving DecidableEq

structure CommandOutcome (Result : Type) where
  commandId : RunId
  status : RunStatus
  replayed : Bool
  result : Option Result
  errorCode : Option AdminErrorCode
  deriving DecidableEq

/-- What a domain call returns or throws. -/
inductive Reply (Result : Type)
  | result (result : Result)
  | failure (code : AdminErrorCode)
  deriving DecidableEq

inductive Phase (Result : Type)
  | submitted
  | previewing
  /-- `replayAfterRace`, its preview refused with this error, and its waits left. -/
  | racing (error : AdminErrorCode) (waits : Nat)
  | prepared (preview : PreparedPreview)
  /-- In the operator transaction, its run row inserted. -/
  | began (run : RunId) (preview : PreparedPreview)
  /-- The same, the target's row held at the version previewed. -/
  | locked (run : RunId) (preview : PreparedPreview)
  /-- The run claimed and committed, the domain call under way. -/
  | executing (run : RunId) (preview : PreparedPreview)
  | replied (run : RunId) (preview : PreparedPreview) (reply : Reply Result)
  | told (outcome : CommandOutcome Result)
  /-- An error, and the run the call had claimed. -/
  | threw (run : Option RunId) (code : AdminErrorCode)
  deriving DecidableEq

/-- One `runAdminCommand`. -/
structure Call (Result : Type) where
  id : CallId
  request : Confirmation
  phase : Phase Result := .submitted
  deriving DecidableEq

structure Store (Result : Type) where
  versions : TargetId → Version := fun _ => 0
  runs : Table (@CommandRun.id Result) := Table.empty
  events : List AuditEvent := []
  effects : List Effect := []
  calls : Table (@Call.id Result) := Table.empty

variable {Result : Type}

/-- The open operator transaction a call is in: its run and what it previewed. -/
def Phase.transaction : Phase Result → Option (RunId × PreparedPreview)
  | .began run preview => some (run, preview)
  | .locked run preview => some (run, preview)
  | _ => none

/-- The target whose row a call's transaction holds. -/
def Phase.held : Phase Result → Option TargetId
  | .locked _ preview => some preview.targetId
  | _ => none

def findCommandRun (s : Store Result) (key : Key) : Option (CommandRun Result) :=
  s.runs.rows.find? fun run => run.idempotencyKey == key

/-- An open transaction's insert holds the key. -/
def keyHeld (s : Store Result) (key : Key) : Bool :=
  s.calls.rows.any fun call => call.phase.transaction.isSome && call.request.idempotencyKey == key

def targetHeld (s : Store Result) (target : TargetId) : Bool :=
  s.calls.rows.any fun call => call.phase.held == some target

def applied (s : Store Result) (run : RunId) : Bool := s.effects.any fun effect => effect.runId == run

def sameConfirmation (run : CommandRun Result) (request : Confirmation) : Bool :=
  run.actorId == request.actorId && run.action == request.action && run.previewDigest == request.previewDigest

def commandIdentityMatches (run : CommandRun Result) (request : Confirmation) (preview : PreparedPreview) : Bool :=
  run.actorId == request.actorId && run.action == request.action && run.targetId == preview.targetId &&
    run.previewDigest == preview.previewDigest && run.expectedVersion == preview.expectedVersion

def priorOutcome (run : CommandRun Result) (replayed : Bool) : CommandOutcome Result :=
  { commandId := run.id, status := run.status, replayed, result := run.sanitizedResult, errorCode := run.errorCode }

/-- The refusals a twin's run may answer. -/
def raceCodes : List AdminErrorCode := [.invalidState, .notFound, .stalePreview]

def RACE_WAIT_ATTEMPTS : Nat := 8

def newRun (id : RunId) (request : Confirmation) (preview : PreparedPreview) (status : RunStatus)
    (result : Option Result) : CommandRun Result :=
  { id, idempotencyKey := request.idempotencyKey, actorId := request.actorId, action := request.action,
    targetId := preview.targetId, previewDigest := preview.previewDigest, expectedVersion := preview.expectedVersion,
    status, sanitizedResult := result }

inductive Event (Result : Type)
  | change (target : TargetId) (version : Version)
  | submit (call : CallId) (request : Confirmation)
  | find (call : CallId)
  | preview (call : CallId)
  | race (call : CallId)
  | begin_ (call : CallId) (run : RunId)
  | lock (call : CallId)
  | commit (call : CallId) (result : Result)
  | rollback (call : CallId) (code : AdminErrorCode)
  | execute (call : CallId) (reply : Reply Result) (applies : Bool)
  | complete (call : CallId)
  | crash (call : CallId)

inductive Abort
  | notFound
  | duplicate
  | wrongPhase
  | waits
  | unreal
  deriving DecidableEq

def Store.turn (s : Store Result) (call : Call Result) (phase : Phase Result) : Store Result :=
  { s with calls := s.calls.put { call with phase } }

/-- The run bound to a key answers a call of its own confirmation, once it is recorded. -/
def replay (run : CommandRun Result) (request : Confirmation) (open_ : Phase Result) : Phase Result :=
  if !sameConfirmation run request then .threw none .idempotencyConflict
  else if run.status = .running then open_
  else .told (priorOutcome run true)

def findStep (s : Store Result) (call : Call Result) : Store Result :=
  match findCommandRun s call.request.idempotencyKey with
  | some run =>
    if run.status = .running then s.turn call .previewing else s.turn call (replay run call.request .previewing)
  | none => s.turn call .previewing

def previewStep (panel : Panel) (s : Store Result) (call : Call Result) : Store Result :=
  let request := call.request
  match panel.preview request.action request.targetId request.input (s.versions request.targetId) with
  | .error code =>
    s.turn call (if code ∈ raceCodes then .racing code RACE_WAIT_ATTEMPTS else .threw none code)
  | .ok preview =>
    if preview.previewDigest ≠ request.previewDigest ∨ preview.expectedVersion ≠ request.expectedVersion then
      s.turn call (.threw none .stalePreview)
    else if preview.phrase ≠ request.phrase then
      { s.turn call (.threw none .invalidRequest) with
        events := s.events ++ [{ actorId := request.actorId, action := request.action, targetId := preview.targetId,
                                 outcome := .denied, errorCode := some .invalidRequest }] }
    else s.turn call (.prepared preview)

def raceStep (s : Store Result) (call : Call Result) (error : AdminErrorCode) : Nat → Store Result
  | 0 => s.turn call (.threw none error)
  | waits + 1 =>
    match findCommandRun s call.request.idempotencyKey with
    | none => s.turn call (.threw none error)
    | some run => s.turn call (replay run call.request (.racing error waits))

/-- `beginCommandRun` and `markCommandRunning`: a transactional command's row stays in its open transaction. -/
def beginStep (panel : Panel) (s : Store Result) (call : Call Result) (preview : PreparedPreview) (id : RunId) :
    Except Abort (Store Result) :=
  let request := call.request
  if keyHeld s request.idempotencyKey then .error .waits
  else match findCommandRun s request.idempotencyKey with
    | none =>
      if fresh : id ∉ s.runs.rows.map CommandRun.id then
        if (panel.definition request.action).transactional then .ok (s.turn call (.began id preview))
        else .ok { s.turn call (.executing id preview) with
          runs := s.runs.insert (newRun id request preview .running none) fresh }
      else .error .duplicate
    | some run =>
      if !commandIdentityMatches run request preview then .ok (s.turn call (.threw none .idempotencyConflict))
      else if run.status ≠ .running then .ok (s.turn call (.told (priorOutcome run true)))
      else if (panel.definition request.action).transactional then
        .ok (s.turn call (.threw none .idempotencyConflict))
      else .ok (s.turn call (.executing run.id preview))

/-- The command checks its target's version again before it writes. -/
def checksVersion (panel : Panel) (call : Call Result) (preview : PreparedPreview) : Bool :=
  (panel.definition call.request.action).lockVersion && preview.expectedVersion.isSome

/-- The mutation, the run row and the audit row commit together. -/
def commitRun (s : Store Result) (call : Call Result) (run : RunId) (preview : PreparedPreview) (result : Result) :
    Except Abort (Store Result) :=
  if fresh : run ∉ s.runs.rows.map CommandRun.id then
    let row := newRun run call.request preview .succeeded (some result)
    .ok { s.turn call (.told (priorOutcome row false)) with
      runs := s.runs.insert row fresh
      effects := s.effects ++ [{ runId := run, version := s.versions preview.targetId }]
      versions := Function.update s.versions preview.targetId (s.versions preview.targetId + 1)
      events := s.events ++ [{ actorId := call.request.actorId, action := call.request.action,
                               targetId := preview.targetId, outcome := .succeeded, commandId := some run }] }
  else .error .duplicate

/-- A domain call, idempotent by its run's id: it applies its effect once, and returns only once it is applied. -/
def executeStep (s : Store Result) (call : Call Result) (run : RunId) (preview : PreparedPreview)
    (reply : Reply Result) (applies : Bool) : Except Abort (Store Result) :=
  let s' := s.turn call (.replied run preview reply)
  if applied s run then .ok s'
  else if applies then
    if targetHeld s preview.targetId then .error .waits
    else .ok { s' with
      effects := s.effects ++ [{ runId := run, version := s.versions preview.targetId }]
      versions := Function.update s.versions preview.targetId (s.versions preview.targetId + 1) }
  else match reply with
    | .result _ => .error .unreal
    | .failure _ => .ok s'

/-- What the completion records of a reply. -/
def completed (row : CommandRun Result) : Reply Result → CommandRun Result
  | .result result => { row with status := .succeeded, sanitizedResult := some result, errorCode := none }
  | .failure code => { row with status := .failed, sanitizedResult := none, errorCode := some code }

def completeStep (s : Store Result) (call : Call Result) (run : RunId) (preview : PreparedPreview)
    (reply : Reply Result) : Except Abort (Store Result) :=
  match s.runs.find run with
  | none => .error .notFound
  | some row =>
    if row.status = .running then
      let after := completed row reply
      let event : AuditEvent :=
        { actorId := call.request.actorId, action := call.request.action, targetId := preview.targetId,
          outcome := if after.status = .succeeded then .succeeded else .failed, errorCode := after.errorCode,
          commandId := some run }
      let phase := match reply with
        | .result _ => .told (priorOutcome after false)
        | .failure code => .threw (some run) code
      .ok { s.turn call phase with runs := s.runs.put after, events := s.events ++ [event] }
    else
      -- A twin completed the run first. Its outcome is returned, but a failure in hand is thrown over it.
      match reply with
      | .result _ => .ok (s.turn call (.told (priorOutcome row true)))
      | .failure code => .ok (s.turn call (.threw (some run) code))

def callStep (panel : Panel) (s : Store Result) (call : Call Result) : Event Result → Except Abort (Store Result)
  | .find _ =>
    match call.phase with
    | .submitted => .ok (findStep s call)
    | _ => .error .wrongPhase
  | .preview _ =>
    match call.phase with
    | .previewing => .ok (previewStep panel s call)
    | _ => .error .wrongPhase
  | .race _ =>
    match call.phase with
    | .racing error waits => .ok (raceStep s call error waits)
    | _ => .error .wrongPhase
  | .begin_ _ id =>
    match call.phase with
    | .prepared preview => beginStep panel s call preview id
    | _ => .error .wrongPhase
  | .lock _ =>
    match call.phase with
    | .began run preview =>
      if !checksVersion panel call preview then .error .wrongPhase
      else if targetHeld s preview.targetId then .error .waits
      else if preview.expectedVersion = some (s.versions preview.targetId) then .ok (s.turn call (.locked run preview))
      else .ok (s.turn call (.threw none .stalePreview))
    | _ => .error .wrongPhase
  | .commit _ result =>
    match call.phase with
    | .began run preview =>
      if checksVersion panel call preview then .error .wrongPhase
      else if targetHeld s preview.targetId then .error .waits
      else commitRun s call run preview result
    | .locked run preview => commitRun s call run preview result
    | _ => .error .wrongPhase
  | .rollback _ code =>
    match call.phase.transaction with
    | some _ => .ok (s.turn call (.threw none code))
    | none => .error .wrongPhase
  | .execute _ reply applies =>
    match call.phase with
    | .executing run preview => executeStep s call run preview reply applies
    | _ => .error .wrongPhase
  | .complete _ =>
    match call.phase with
    | .replied run preview reply => completeStep s call run preview reply
    | _ => .error .wrongPhase
  | .crash _ => .ok { s with calls := s.calls.erase call.id }
  | _ => .error .wrongPhase

def Event.call : Event Result → Option CallId
  | .find call | .preview call | .race call | .begin_ call _ | .lock call | .commit call _ | .rollback call _
  | .execute call _ _ | .complete call | .crash call => some call
  | _ => none

def step (panel : Panel) (s : Store Result) : Event Result → Except Abort (Store Result)
  | .change target version =>
    if targetHeld s target then .error .waits
    else .ok { s with versions := Function.update s.versions target version }
  | .submit id request =>
    if fresh : id ∉ s.calls.rows.map Call.id then .ok { s with calls := s.calls.insert { id, request } fresh }
    else .error .duplicate
  | event =>
    match event.call.bind s.calls.find with
    | none => .error .notFound
    | some call => callStep panel s call event

end LetterIRL.Command
