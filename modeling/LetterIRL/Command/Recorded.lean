import LetterIRL.Command.Runner

namespace LetterIRL.Command
open Lib

variable {Result : Type} {panel : Panel} {s s' : Store Result}

/-! What the runs, the effects and the calls are to say of each other, and the calls' phases that carry it. -/

def effectsOf (s : Store Result) (run : RunId) : Nat := s.effects.countP fun effect => effect.runId == run

def eventsOf (s : Store Result) (run : RunId) : Nat := s.events.countP fun event => event.commandId == some run

def transactional (panel : Panel) (action : String) : Bool := (panel.definition action).transactional

/-- What a caller is told is what its key's run records. -/
def Recorded (s : Store Result) (request : Confirmation) (outcome : CommandOutcome Result) : Prop :=
  ∃ row, s.runs.find outcome.commandId = some row ∧ row.idempotencyKey = request.idempotencyKey ∧
    row.status ≠ .running ∧ outcome.status = row.status ∧ outcome.result = row.sanitizedResult ∧
    outcome.errorCode = row.errorCode

/-- The error a caller gets after it claimed a run is the one the run records. -/
def RecordedFailure (s : Store Result) (request : Confirmation) (run : RunId) (code : AdminErrorCode) : Prop :=
  ∃ row, s.runs.find run = some row ∧ row.idempotencyKey = request.idempotencyKey ∧ row.status = .failed ∧
    row.errorCode = some code

/-- The runs and what they record. -/
structure Rows (panel : Panel) (s : Store Result) : Prop where
  oneKey : ∀ row ∈ s.runs.rows, ∀ other ∈ s.runs.rows, row.idempotencyKey = other.idempotencyKey → row = other
  transacted : ∀ row ∈ s.runs.rows, transactional panel row.action = true →
    row.status = .succeeded ∧ effectsOf s row.id = 1 ∧ eventsOf s row.id = 1
  previewed : ∀ row ∈ s.runs.rows, transactional panel row.action = true →
    ∀ effect ∈ s.effects, effect.runId = row.id → ∀ version, row.expectedVersion = some version → effect.version = version
  effectOwned : ∀ effect ∈ s.effects, ∃ row ∈ s.runs.rows, row.id = effect.runId
  eventOwned : ∀ event ∈ s.events, ∀ run, event.commandId = some run → ∃ row ∈ s.runs.rows, row.id = run
  once : ∀ row ∈ s.runs.rows, effectsOf s row.id ≤ 1
  outcome : ∀ row ∈ s.runs.rows, transactional panel row.action = false → row.status ≠ .running →
    (row.status = .succeeded ↔ applied s row.id = true)

/-- A transactional run has one effect, at the version previewed, with its succeeded row and one audit event, and there
is no effect or event but of a run; a recorded outcome is success exactly when a call applied the effect, and what each
caller that came to a run is told is its recorded outcome. -/
structure Holds (panel : Panel) (s : Store Result) : Prop extends Rows panel s where
  told : ∀ call ∈ s.calls.rows, ∀ outcome, call.phase = .told outcome → Recorded s call.request outcome
  threw : ∀ call ∈ s.calls.rows, ∀ run code, call.phase = .threw (some run) code →
    RecordedFailure s call.request run code

/-- The run a call of a command with a transaction of its own has claimed. -/
def Claimed (panel : Panel) (s : Store Result) (request : Confirmation) (run : RunId) : Prop :=
  ∃ row, s.runs.find run = some row ∧ row.idempotencyKey = request.idempotencyKey ∧
    transactional panel row.action = false

def PhaseOk (panel : Panel) (s : Store Result) (request : Confirmation) : Phase Result → Prop
  | .began _ _ =>
    transactional panel request.action = true ∧ ∀ row ∈ s.runs.rows, row.idempotencyKey ≠ request.idempotencyKey
  | .locked _ preview =>
    (transactional panel request.action = true ∧ ∀ row ∈ s.runs.rows, row.idempotencyKey ≠ request.idempotencyKey) ∧
      ∀ version, preview.expectedVersion = some version → s.versions preview.targetId = version
  | .executing run _ => Claimed panel s request run
  | .replied run _ reply =>
    Claimed panel s request run ∧ ((∃ result, reply = .result result) → applied s run = true)
  | .told outcome => Recorded s request outcome
  | .threw (some run) code => RecordedFailure s request run code
  | _ => True

/-- The calls stand as the runs, the effects and the versions have it, and no two hold one key or one target. -/
structure Sound (panel : Panel) (s : Store Result) : Prop extends Rows panel s where
  phases : ∀ call ∈ s.calls.rows, PhaseOk panel s call.request call.phase
  keys : ∀ call ∈ s.calls.rows, ∀ other ∈ s.calls.rows, call.phase.transaction.isSome = true →
    other.phase.transaction.isSome = true → call.request.idempotencyKey = other.request.idempotencyKey →
    call.id = other.id
  targets : ∀ call ∈ s.calls.rows, ∀ other ∈ s.calls.rows, ∀ target, call.phase.held = some target →
    other.phase.held = some target → call.id = other.id

theorem Sound.holds (sound : Sound panel s) : Holds panel s where
  toRows := sound.toRows
  told := by
    intro call member outcome phase
    have ok := sound.phases call member
    rw [phase] at ok
    exact ok
  threw := by
    intro call member run code phase
    have ok := sound.phases call member
    rw [phase] at ok
    exact ok

theorem applied_iff {run : RunId} : applied s run = true ↔ ∃ effect ∈ s.effects, effect.runId = run := by
  simp [applied, List.any_eq_true]

theorem effectsOf_eq_zero {run : RunId} : effectsOf s run = 0 ↔ applied s run = false := by
  unfold effectsOf applied
  rw [List.countP_eq_zero, List.any_eq_false]

theorem findCommandRun_some {key : Key} {run : CommandRun Result} (found : findCommandRun s key = some run) :
    run ∈ s.runs.rows ∧ run.idempotencyKey = key := by
  unfold findCommandRun at found
  exact ⟨List.mem_of_find?_eq_some found, by simpa using List.find?_some found⟩

theorem findCommandRun_none {key : Key} (none : findCommandRun s key = none) :
    ∀ row ∈ s.runs.rows, row.idempotencyKey ≠ key := by
  intro row member same
  have miss := List.find?_eq_none.mp none row member
  simp [same] at miss

/-- A later store keeps the runs, what they record, and the effects. -/
structure Keeps (s s' : Store Result) : Prop where
  named : ∀ run row, s.runs.find run = some row → ∃ after, s'.runs.find run = some after ∧
    after.idempotencyKey = row.idempotencyKey ∧ after.action = row.action
  recorded : ∀ run row, s.runs.find run = some row → row.status ≠ .running → s'.runs.find run = some row
  applied : ∀ run, applied s run = true → applied s' run = true

theorem Keeps.same (runs : s'.runs = s.runs) (effects : s'.effects = s.effects) : Keeps s s' where
  named run row found := ⟨row, by rw [runs, found], rfl, rfl⟩
  recorded run row found _ := by rw [runs, found]
  applied run yes := by
    unfold Command.applied at yes ⊢
    rw [effects]
    exact yes

theorem Recorded.keep {request : Confirmation} {outcome : CommandOutcome Result} (recorded : Recorded s request outcome)
    (keeps : Keeps s s') : Recorded s' request outcome := by
  obtain ⟨row, found, key, final, same⟩ := recorded
  exact ⟨row, keeps.recorded _ row found final, key, final, same⟩

theorem RecordedFailure.keep {request : Confirmation} {run : RunId} {code : AdminErrorCode}
    (recorded : RecordedFailure s request run code) (keeps : Keeps s s') : RecordedFailure s' request run code := by
  obtain ⟨row, found, key, failed, same⟩ := recorded
  exact ⟨row, keeps.recorded _ row found (by rw [failed]; decide), key, failed, same⟩

theorem Claimed.keep {request : Confirmation} {run : RunId} (claimed : Claimed panel s request run)
    (keeps : Keeps s s') : Claimed panel s' request run := by
  obtain ⟨row, found, key, own⟩ := claimed
  obtain ⟨after, at_, sameKey, sameAction⟩ := keeps.named _ row found
  exact ⟨after, at_, sameKey.trans key, by rw [sameAction, own]⟩

/-- A phase stays right in a later store that takes neither the key nor the target it holds. -/
theorem PhaseOk.keep {request : Confirmation} {phase : Phase Result} (ok : PhaseOk panel s request phase)
    (keeps : Keeps s s')
    (free : phase.transaction.isSome = true → ∀ row ∈ s'.runs.rows, row.idempotencyKey = request.idempotencyKey →
      row ∈ s.runs.rows)
    (still : ∀ target, phase.held = some target → s'.versions target = s.versions target) :
    PhaseOk panel s' request phase := by
  have unkeyed : (∀ row ∈ s.runs.rows, row.idempotencyKey ≠ request.idempotencyKey) →
      phase.transaction.isSome = true → ∀ row ∈ s'.runs.rows, row.idempotencyKey ≠ request.idempotencyKey :=
    fun none open_ row member same => none row (free open_ row member same) same
  cases phase with
  | began run preview => exact ⟨ok.1, unkeyed ok.2 rfl⟩
  | locked run preview =>
    refine ⟨⟨ok.1.1, unkeyed ok.1.2 rfl⟩, fun version expected => ?_⟩
    rw [still _ rfl]
    exact ok.2 version expected
  | executing run preview => exact Claimed.keep ok keeps
  | replied run preview reply => exact ⟨ok.1.keep keeps, fun result => keeps.applied run (ok.2 result)⟩
  | told outcome => exact Recorded.keep ok keeps
  | threw run code =>
    cases run with
    | none => trivial
    | some run => exact RecordedFailure.keep ok keeps
  | _ => trivial

end LetterIRL.Command
