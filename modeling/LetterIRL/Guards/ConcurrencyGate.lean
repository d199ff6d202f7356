import LetterIRL.Lib.Runs

namespace LetterIRL.Guards
open Lib

/-! `createConcurrencyGate`: at most `limit` callers at once, the next ones waiting in order. -/

inductive ConcurrencyGateRejection
  | queueFull
  | queueTimeout
  | keyLimit
  deriving DecidableEq

/-- What a gate is made with, where `createConcurrencyGate` throws no range error. -/
structure ConcurrencyGateOptions where
  limit : Nat
  maxQueue : Nat
  perKeyLimit : Option Nat
  some_ : 0 < limit
  share : ∀ most, perKeyLimit = some most → 0 < most

/-- A call of `run`, by its number, with its key. -/
structure Caller (κ : Type) where
  id : Nat
  key : Option κ
  deriving DecidableEq

/-- The gate's variables, and where its callers are. -/
structure Gate (κ : Type) where
  active : Nat := 0
  waiters : List (Caller κ) := []
  /-- Running plus waiting callers per key. -/
  inFlightByKey : κ → Option Nat := fun _ => none
  /-- The waiters whose timer may still fire. -/
  timers : List (Caller κ) := []
  /-- Callers with a slot whose `run` has not resumed yet, in the order it will. -/
  granted : List (Caller κ) := []
  running : List (Caller κ) := []
  calls : Nat := 0
  /-- Every caller that had to wait, in the order they came. -/
  queued : List (Caller κ) := []
  /-- Every caller whose work was begun, in order. -/
  started : List (Caller κ) := []
  settled : List (Caller κ) := []
  rejected : List (Caller κ × ConcurrencyGateRejection) := []

inductive GateEvent (κ : Type)
  /-- `run` is called, with a key or none. -/
  | run (key : Option κ)
  /-- A caller with a slot resumes, and begins its work. -/
  | resume
  /-- A waiter's timer fires. -/
  | timeout (caller : Caller κ)
  /-- A caller's work succeeds or fails. -/
  | settle (caller : Caller κ) (succeeded : Bool)

namespace Gate
variable {κ : Type} [DecidableEq κ]

def inFlight (gate : Gate κ) (key : κ) : Nat := (gate.inFlightByKey key).getD 0

/-- `countKey(key, 1)`. -/
def countKeyUp (gate : Gate κ) (key : Option κ) : κ → Option Nat :=
  match key with
  | none => gate.inFlightByKey
  | some key => Function.update gate.inFlightByKey key (some (gate.inFlight key + 1))

/-- `countKey(key, -1)`: a key with none left is deleted. -/
def countKeyDown (gate : Gate κ) (key : Option κ) : κ → Option Nat :=
  match key with
  | none => gate.inFlightByKey
  | some key =>
    Function.update gate.inFlightByKey key (if 1 < gate.inFlight key then some (gate.inFlight key - 1) else none)

/-- The key already has its share in flight. -/
def overShare (options : ConcurrencyGateOptions) (gate : Gate κ) (key : Option κ) : Bool :=
  match key, options.perKeyLimit with
  | some key, some most => decide (most ≤ gate.inFlight key)
  | _, _ => false

/-- `acquire`, of a new caller. -/
def acquire (options : ConcurrencyGateOptions) (gate : Gate κ) (caller : Caller κ) : Gate κ :=
  if gate.overShare options caller.key then { gate with rejected := gate.rejected ++ [(caller, .keyLimit)] }
  else if gate.active < options.limit then
    { gate with
      active := gate.active + 1
      inFlightByKey := gate.countKeyUp caller.key
      granted := gate.granted ++ [caller] }
  else if options.maxQueue ≤ gate.waiters.length then
    { gate with rejected := gate.rejected ++ [(caller, .queueFull)] }
  else
    { gate with
      waiters := gate.waiters ++ [caller]
      timers := gate.timers ++ [caller]
      inFlightByKey := gate.countKeyUp caller.key
      queued := gate.queued ++ [caller] }

/-- `release`: the slot goes to the next waiter, or is free. -/
def release (gate : Gate κ) (key : Option κ) : Gate κ :=
  let counts := gate.countKeyDown key
  match gate.waiters with
  | next :: rest =>
    { gate with
      inFlightByKey := counts
      waiters := rest
      timers := gate.timers.erase next
      granted := gate.granted ++ [next] }
  | [] => { gate with inFlightByKey := counts, active := gate.active - 1 }

/-- A waiter's timer, fired. -/
def expire (gate : Gate κ) (caller : Caller κ) : Gate κ :=
  { gate with
    timers := gate.timers.erase caller
    waiters := gate.waiters.erase caller
    inFlightByKey := gate.countKeyDown caller.key
    rejected := gate.rejected ++ [(caller, .queueTimeout)] }

/-- One event; an error where it cannot come. -/
def step (options : ConcurrencyGateOptions) (gate : Gate κ) : GateEvent κ → Except Unit (Gate κ)
  | .run key => .ok ({ gate with calls := gate.calls + 1 }.acquire options { id := gate.calls, key })
  | .resume =>
    match gate.granted with
    | [] => .error ()
    | caller :: rest =>
      .ok { gate with granted := rest, running := gate.running ++ [caller], started := gate.started ++ [caller] }
  | .timeout caller => if caller ∈ gate.timers then .ok (gate.expire caller) else .error ()
  | .settle caller _ =>
    if caller ∈ gate.running then
      .ok ({ gate with running := gate.running.erase caller, settled := gate.settled ++ [caller] }.release caller.key)
    else .error ()

end Gate

end LetterIRL.Guards
