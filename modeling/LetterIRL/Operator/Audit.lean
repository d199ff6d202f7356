import LetterIRL.Lib.Table

namespace LetterIRL.Operator
open Lib

/-! `commerce_operator_audit_events` (migration 023): one row for each operator
command that took effect, keyed by the hash of its idempotency key. -/

/-- A SHA-256 digest in hexadecimal. -/
abbrev Digest := String

/-- `valid_commerce_operator_audit_operation`, as migration 056 leaves it. -/
inductive Operation
  | imageReservationResolve
  | mailFulfillmentResolve
  | mailJobRetry
  | commerceAlertTransition
  | packRefund
  | mailJobRelease
  | mailJobCancel
  deriving DecidableEq

/-- `valid_commerce_operator_audit_target`. -/
inductive TargetType
  | imageReservation
  | letterJob
  | commerceAlert
  | order
  deriving DecidableEq

inductive Json
  | null
  | bool (value : Bool)
  | number (value : Nat)
  | text (value : String)
  deriving DecidableEq

/-- A column of type `jsonb` that holds an object of scalars. -/
abbrev JsonObject := List (String × Json)

/-- `object->>'key'`. -/
def JsonObject.text (object : JsonObject) (key : String) : Option String :=
  match object.lookup key with
  | some (.text value) => some value
  | some (.number value) => some (toString value)
  | some (.bool value) => some (toString value)
  | _ => none

/-- A nullable column written into a JSON object. -/
def Json.ofOption : Option String → Json
  | none => .null
  | some value => .text value

structure AuditEvent where
  idempotencyKeyHash : Digest
  actorSubjectHash : Digest
  operation : Operation
  targetType : TargetType
  targetReferenceHash : Digest
  reasonCode : String
  beforeState : JsonObject
  afterState : JsonObject
  providerEvidence : JsonObject := []
  deriving DecidableEq

abbrev Audit := Table AuditEvent.idempotencyKeyHash

/-- `INSERT INTO commerce_operator_audit_events`; `none` is the unique index. -/
def Audit.record (audit : Audit) (event : AuditEvent) : Option Audit :=
  if fresh : event.idempotencyKeyHash ∉ audit.rows.map AuditEvent.idempotencyKeyHash then
    some (audit.insert event fresh)
  else none

/-- `value.length` of a string: UTF-16 code units. -/
def utf16Length (value : String) : Nat :=
  total (fun c => if c.toNat < 0x10000 then 1 else 2) value.toList

/-- `/^[A-Za-z0-9][A-Za-z0-9._:-]{7,127}$/`. -/
def validIdempotencyKey (key : String) : Bool :=
  match key.toList with
  | [] => false
  | first :: rest =>
    first.isAlphanum && (7 ≤ rest.length && rest.length ≤ 127) &&
      rest.all fun c => c.isAlphanum || c ∈ ['.', '_', ':', '-']

end LetterIRL.Operator
