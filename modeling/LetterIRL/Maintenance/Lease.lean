import LetterIRL.Lib.Runs

namespace LetterIRL.Maintenance
open Lib

/-! `runMaintenanceTaskIfDue`: one task's row in `maintenance_tasks`, and the calls that claim it. -/

inductive TaskStatus
  | never
  | running
  | completed
  | failed
  deriving DecidableEq

/-- The row of a task; times in microseconds. -/
structure TaskRow where
  lastStartedAt : Option Nat := none
  lastCompletedAt : Option Nat := none
  lockedAt : Option Nat := none
  lastStatus : TaskStatus := .never
  lastError : Option String := none
  updatedAt : Nat
  deriving DecidableEq

/-- `INTERVAL '1 hour'`. -/
def HOUR : Nat := 3600000000

/-- Where a call is. -/
inductive CallStage
  /-- At the `INSERT`, then past it. -/
  | inserting
  | inserted
  /-- At the claim, with its cutoff. -/
  | claiming (cutoff : Int)
  /-- In `task()`, claimed at a time; `seen` are the completions recorded by then. -/
  | running (claimedAt : Nat) (seen : List Nat)
  /-- In the `catch`, at its statement. -/
  | failing (error : String)
  | settled
  deriving DecidableEq

structure World where
  clock : Nat := 0
  row : Option TaskRow := none
  calls : Nat → Option CallStage := fun _ => none
  /-- The call whose claim the row last took, and when. -/
  latest : Option (Nat × Nat) := none
  /-- When a completion was recorded, the last first. -/
  completions : List Nat := []

/-- What can happen, with the call it happens to. -/
inductive LeaseEvent
  | tick (elapsed : Nat)
  | call (number : Nat)
  /-- The `INSERT … ON CONFLICT DO NOTHING` runs. -/
  | insert (number : Nat)
  /-- The cutoff is computed. -/
  | prepare (number : Nat)
  /-- The claim runs; its answer may be lost. -/
  | claim (number : Nat) (answered : Bool)
  /-- `task()` is done and its completion is recorded; the answer may be lost. -/
  | complete (number : Nat) (answered : Bool) (lost : String)
  /-- `task()` throws, or its completion is not recorded. -/
  | fail (number : Nat) (error : String)
  /-- The statement in the `catch` runs. -/
  | recordFailure (number : Nat)
  /-- A statement throws where nothing catches it, or the process ends. -/
  | crash (number : Nat)

namespace World

def setCall (world : World) (number : Nat) (stage : CallStage) : World :=
  { world with calls := Function.update world.calls number (some stage) }

/-- The claim's `WHERE`. -/
def claimable (row : TaskRow) (cutoff : Int) (now : Nat) : Bool :=
  row.lastCompletedAt.all (fun completed : Nat => decide ((completed : Int) ≤ cutoff)) &&
    row.lockedAt.all fun locked => decide (locked + HOUR < now)

/-- The claim, of a call with a cutoff. -/
def claimTask (world : World) (number : Nat) (cutoff : Int) (answered : Bool) : World :=
  match world.row with
  | none => world.setCall number .settled
  | some row =>
    if claimable row cutoff world.clock then
      { world with
        row := some { row with
          lockedAt := some world.clock, lastStartedAt := some world.clock, lastStatus := .running, lastError := none
          updatedAt := world.clock }
        latest := some (number, world.clock)
      }.setCall number (if answered then .running world.clock world.completions else .settled)
    else world.setCall number .settled

/-- The completion's `UPDATE`. -/
def recordCompletion (world : World) : World :=
  { world with
    row := world.row.map fun row => { row with
      lastCompletedAt := some world.clock, lockedAt := none, lastStatus := .completed, lastError := none
      updatedAt := world.clock }
    completions := world.clock :: world.completions }

/-- The failure's `UPDATE`. -/
def recordFailed (world : World) (error : String) : World :=
  { world with
    row := world.row.map fun row => { row with
      lockedAt := none, lastStatus := .failed, lastError := some error, updatedAt := world.clock } }

/-- One event, of calls with an interval in milliseconds; `none` where it cannot come. -/
def next (interval : Nat) (world : World) : LeaseEvent → Option World
  | .tick elapsed => some { world with clock := world.clock + elapsed }
  | .call number =>
    match world.calls number with
    | none => some (world.setCall number .inserting)
    | some _ => none
  | .insert number =>
    match world.calls number with
    | some .inserting =>
      some ({ world with row := some (world.row.getD { updatedAt := world.clock }) }.setCall number .inserted)
    | _ => none
  | .prepare number =>
    match world.calls number with
    | some .inserted => some (world.setCall number (.claiming (((world.clock / 1000 : Nat) - (interval : Int)) * 1000)))
    | _ => none
  | .claim number answered =>
    match world.calls number with
    | some (.claiming cutoff) => some (world.claimTask number cutoff answered)
    | _ => none
  | .complete number answered lost =>
    match world.calls number with
    | some (.running _ _) => some (world.recordCompletion.setCall number (if answered then .settled else .failing lost))
    | _ => none
  | .fail number error =>
    match world.calls number with
    | some (.running _ _) => some (world.setCall number (.failing error))
    | _ => none
  | .recordFailure number =>
    match world.calls number with
    | some (.failing error) => some ((world.recordFailed error).setCall number .settled)
    | _ => none
  | .crash number => (world.calls number).map fun _ => world.setCall number .settled

def step (interval : Nat) (world : World) (event : LeaseEvent) : Except Unit World :=
  (world.next interval event).elim (.error ()) .ok

/-- Another call has claimed the task since this one did. -/
def TakenOver (world : World) (number : Nat) : Prop := ∀ claimedAt, world.latest ≠ some (number, claimedAt)

def lockedAt (world : World) : Option Nat := world.row.bind (·.lockedAt)
def lastCompletedAt (world : World) : Option Nat := world.row.bind (·.lastCompletedAt)

/-- A call settles the task before another claims it, or where that changes neither its lock nor its completion. -/
def InTime (world : World) : LeaseEvent → Prop
  | .complete number _ _ =>
    world.TakenOver number → world.lockedAt = none ∧ world.lastCompletedAt = some world.clock
  | .recordFailure number => world.TakenOver number → world.lockedAt = none
  | _ => True

end World

end LetterIRL.Maintenance
