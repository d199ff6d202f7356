import LetterIRL.Command.Recorded

namespace LetterIRL.Command
open Lib

variable {Result : Type} {panel : Panel} {s s' : Store Result} {call : Call Result}

/-! Each step keeps the calls sound. -/

/-- A later store in which one call has turned to another phase. -/
structure Turns (panel : Panel) (s s' : Store Result) (call : Call Result) (phase : Phase Result) : Prop where
  calls : s'.calls = s.calls.put { call with phase }
  rows : Rows panel s'
  keeps : Keeps s s'
  free : ∀ other ∈ s.calls.rows, other.id ≠ call.id → other.phase.transaction.isSome = true →
    ∀ row ∈ s'.runs.rows, row.idempotencyKey = other.request.idempotencyKey → row ∈ s.runs.rows
  still : ∀ other ∈ s.calls.rows, other.id ≠ call.id → ∀ target, other.phase.held = some target →
    s'.versions target = s.versions target
  ok : PhaseOk panel s' call.request phase
  key : phase.transaction.isSome = true → call.phase.transaction.isSome = true ∨
    keyHeld s call.request.idempotencyKey = false
  target : ∀ target, phase.held = some target → targetHeld s target = false

theorem not_keyHeld {key : Key} (free : keyHeld s key = false) {other : Call Result} (member : other ∈ s.calls.rows)
    (open_ : other.phase.transaction.isSome = true) : other.request.idempotencyKey ≠ key := by
  have none := List.any_eq_false.mp free other member
  simpa [open_] using none

theorem not_targetHeld {target : TargetId} (free : targetHeld s target = false) {other : Call Result}
    (member : other ∈ s.calls.rows) : other.phase.held ≠ some target := by
  have none := List.any_eq_false.mp free other member
  simpa using none

theorem Sound.turns (phase : Phase Result) (sound : Sound panel s) (found : s.calls.find call.id = some call)
    (turns : Turns panel s s' call phase) : Sound panel s' := by
  have inCalls := Table.find_mem found
  have each : ∀ other ∈ s'.calls.rows, (other ∈ s.calls.rows ∧ other.id ≠ call.id) ∨
      (other.id = call.id ∧ other.request = call.request ∧ other.phase = phase) := by
    intro other member
    rw [turns.calls] at member
    rcases Table.mem_put.mp member with old | ⟨rfl, -⟩
    · exact .inl old
    · exact .inr ⟨rfl, rfl, rfl⟩
  have apartKey : ∀ other ∈ s.calls.rows, other.id ≠ call.id → other.phase.transaction.isSome = true →
      phase.transaction.isSome = true → other.request.idempotencyKey ≠ call.request.idempotencyKey := by
    intro other member differ open_ opens same
    rcases turns.key opens with before | free
    · exact differ (sound.keys other member call inCalls open_ before same)
    · exact not_keyHeld free member open_ same
  refine ⟨turns.rows, ?_, ?_, ?_⟩
  · intro other member
    rcases each other member with ⟨old, differ⟩ | ⟨-, request, phase⟩
    · exact (sound.phases other old).keep turns.keeps (turns.free other old differ) (turns.still other old differ)
    · rw [request, phase]
      exact turns.ok
  · intro first inFirst second inSecond open_ opens same
    rcases each first inFirst with ⟨old, differ⟩ | ⟨id, request, phase⟩
    · rcases each second inSecond with ⟨oldSecond, -⟩ | ⟨-, request, phase⟩
      · exact sound.keys first old second oldSecond open_ opens same
      · rw [phase] at opens
        rw [request] at same
        exact absurd same (apartKey first old differ open_ opens)
    · rcases each second inSecond with ⟨old, differ⟩ | ⟨idSecond, -, -⟩
      · rw [phase] at open_
        rw [request] at same
        exact absurd same.symm (apartKey second old differ opens open_)
      · rw [id, idSecond]
  · intro first inFirst second inSecond target holds heldToo
    rcases each first inFirst with ⟨old, -⟩ | ⟨id, -, phase⟩
    · rcases each second inSecond with ⟨oldSecond, -⟩ | ⟨-, -, phase⟩
      · exact sound.targets first old second oldSecond target holds heldToo
      · rw [phase] at heldToo
        exact absurd holds (not_targetHeld (turns.target target heldToo) old)
    · rcases each second inSecond with ⟨old, -⟩ | ⟨idSecond, -, -⟩
      · rw [phase] at holds
        exact absurd heldToo (not_targetHeld (turns.target target holds) old)
      · rw [id, idSecond]

/-- The runs, the effects and the events of runs as they were. -/
theorem Rows.same (rows : Rows panel s) (runs : s'.runs = s.runs) (effects : s'.effects = s.effects)
    (events : ∀ event ∈ s'.events, event.commandId ≠ none → event ∈ s.events)
    (counted : ∀ run, eventsOf s' run = eventsOf s run) : Rows panel s' := by
  have count : ∀ run, effectsOf s' run = effectsOf s run := fun run => by
    unfold effectsOf
    rw [effects]
  have same : ∀ run, applied s' run = applied s run := fun run => by
    unfold applied
    rw [effects]
  refine ⟨?_, ?_, ?_, ?_, ?_, ?_, ?_⟩
  · rw [runs]
    exact rows.oneKey
  · intro row member own
    rw [runs] at member
    rw [count, counted]
    exact rows.transacted row member own
  · rw [runs, effects]
    exact rows.previewed
  · rw [runs, effects]
    exact rows.effectOwned
  · intro event member run named
    rw [runs]
    exact rows.eventOwned event (events event member (by rw [named]; simp)) run named
  · intro row member
    rw [runs] at member
    rw [count]
    exact rows.once row member
  · intro row member own final
    rw [runs] at member
    rw [same]
    exact rows.outcome row member own final

/-- A turn that writes no row. -/
theorem Sound.turn {phase : Phase Result} (sound : Sound panel s) (found : s.calls.find call.id = some call)
    (ok : PhaseOk panel s call.request phase)
    (key : phase.transaction.isSome = true → call.phase.transaction.isSome = true ∨
      keyHeld s call.request.idempotencyKey = false)
    (target : ∀ target, phase.held = some target → targetHeld s target = false) : Sound panel (s.turn call phase) := by
  have keeps : Keeps s (s.turn call phase) := Keeps.same rfl rfl
  refine sound.turns _ found ⟨rfl, sound.toRows.same rfl rfl (fun _ member _ => member) fun _ => rfl, keeps,
    fun _ _ _ _ _ member _ => member, fun _ _ _ _ _ => rfl, ?_, key, target⟩
  refine ok.keep keeps (fun _ _ member _ => member) fun _ _ => rfl

/-- A turn to a phase outside any transaction. -/
theorem Sound.turnOut {phase : Phase Result} (sound : Sound panel s) (found : s.calls.find call.id = some call)
    (ok : PhaseOk panel s call.request phase) (out : phase.transaction = none) (free : phase.held = none) :
    Sound panel (s.turn call phase) :=
  sound.turn found ok (fun open_ => by rw [out] at open_; cases open_) fun target holds => by
    rw [free] at holds
    cases holds

theorem recorded_prior {run : CommandRun Result} {request : Confirmation} (member : run ∈ s.runs.rows)
    (key : run.idempotencyKey = request.idempotencyKey) (final : run.status ≠ .running) (replayed : Bool) :
    Recorded s request (priorOutcome run replayed) :=
  ⟨run, Table.find_of_mem member, key, final, rfl, rfl, rfl⟩

/-- What a run bound to the key answers is right. -/
theorem replay_ok {run : CommandRun Result} {request : Confirmation} (open_ : Phase Result)
    (found : findCommandRun s request.idempotencyKey = some run) (ok : PhaseOk panel s request open_)
    (out : open_.transaction = none) (free : open_.held = none) :
    PhaseOk panel s request (replay run request open_) ∧ (replay run request open_).transaction = none ∧
      (replay run request open_).held = none := by
  obtain ⟨member, key⟩ := findCommandRun_some found
  unfold replay
  split
  · exact ⟨trivial, rfl, rfl⟩
  · split
    · exact ⟨ok, out, free⟩
    · rename_i final
      exact ⟨recorded_prior member key final true, rfl, rfl⟩

theorem findStep_sound (sound : Sound panel s) (found : s.calls.find call.id = some call) :
    Sound panel (findStep s call) := by
  unfold findStep
  split
  · rename_i run bound
    split
    · exact sound.turnOut found trivial rfl rfl
    · obtain ⟨ok, out, free⟩ := replay_ok .previewing bound trivial rfl rfl
      exact sound.turnOut found ok out free
  · exact sound.turnOut found trivial rfl rfl

theorem raceStep_sound (sound : Sound panel s) (found : s.calls.find call.id = some call) (error : AdminErrorCode)
    (waits : Nat) : Sound panel (raceStep s call error waits) := by
  cases waits with
  | zero => exact sound.turnOut found trivial rfl rfl
  | succ waits =>
    simp only [raceStep]
    split
    · exact sound.turnOut found trivial rfl rfl
    · rename_i run bound
      obtain ⟨ok, out, free⟩ := replay_ok (.racing error waits) bound trivial rfl rfl
      exact sound.turnOut found ok out free

theorem previewStep_sound (sound : Sound panel s) (found : s.calls.find call.id = some call) :
    Sound panel (previewStep panel s call) := by
  unfold previewStep
  simp only []
  split
  · split
    · exact sound.turnOut found trivial rfl rfl
    · exact sound.turnOut found trivial rfl rfl
  · split
    · exact sound.turnOut found trivial rfl rfl
    · split
      · refine sound.turns (.threw none .invalidRequest) found ⟨rfl, ?_, Keeps.same rfl rfl,
          fun _ _ _ _ _ member _ => member, fun _ _ _ _ _ => rfl, trivial, nofun, nofun⟩
        refine sound.toRows.same rfl rfl (fun event member named => ?_) fun run => ?_
        · rcases List.mem_append.mp member with old | new
          · exact old
          · exact absurd (by rw [List.mem_singleton.mp new]) named
        · unfold eventsOf
          exact (List.countP_append ..).trans (by simp)
      · exact sound.turnOut found trivial rfl rfl

/-- A row no run had, inserted under a key none had. -/
theorem Keeps.insert {row : CommandRun Result} (fresh : row.id ∉ s.runs.rows.map CommandRun.id)
    (runs : s'.runs = s.runs.insert row fresh) (effects : ∀ run, Command.applied s run = true → Command.applied s' run = true) :
    Keeps s s' where
  named run old found := ⟨old, by rw [runs]; exact Table.find_insert_kept fresh found, rfl, rfl⟩
  recorded run old found _ := by
    rw [runs]
    exact Table.find_insert_kept fresh found
  applied := effects

theorem fresh_unowned {run : RunId} (rows : Rows panel s) (fresh : run ∉ s.runs.rows.map CommandRun.id) :
    effectsOf s run = 0 ∧ eventsOf s run = 0 := by
  have unnamed : ∀ row ∈ s.runs.rows, row.id ≠ run := fun row member same =>
    fresh (List.mem_map.mpr ⟨row, member, same⟩)
  refine ⟨List.countP_eq_zero.mpr ?_, List.countP_eq_zero.mpr ?_⟩
  · intro effect member own
    obtain ⟨row, inRuns, id⟩ := rows.effectOwned effect member
    exact unnamed row inRuns (id.trans (by simpa using own))
  · intro event member own
    obtain ⟨row, inRuns, id⟩ := rows.eventOwned event member run (by simpa using own)
    exact unnamed row inRuns id

/-- The run of a command with a transaction of its own, claimed and committed. -/
theorem Rows.claim (rows : Rows panel s) {row : CommandRun Result}
    (fresh : row.id ∉ s.runs.rows.map CommandRun.id) (own : transactional panel row.action = false)
    (running : row.status = .running) (key : ∀ other ∈ s.runs.rows, other.idempotencyKey ≠ row.idempotencyKey)
    (runs : s'.runs = s.runs.insert row fresh) (effects : s'.effects = s.effects) (events : s'.events = s.events) :
    Rows panel s' := by
  have count : ∀ run, effectsOf s' run = effectsOf s run := fun run => by
    unfold effectsOf
    rw [effects]
  have counted : ∀ run, eventsOf s' run = eventsOf s run := fun run => by
    unfold eventsOf
    rw [events]
  have same : ∀ run, applied s' run = applied s run := fun run => by
    unfold applied
    rw [effects]
  have each : ∀ other ∈ s'.runs.rows, other ∈ s.runs.rows ∨ other = row := by
    intro other member
    rw [runs, Table.insert_rows] at member
    rcases List.mem_append.mp member with old | new
    · exact .inl old
    · exact .inr (List.mem_singleton.mp new)
  have kept : ∀ other ∈ s.runs.rows, other ∈ s'.runs.rows := fun other member => by
    rw [runs, Table.insert_rows]
    exact List.mem_append_left _ member
  refine ⟨?_, ?_, ?_, ?_, ?_, ?_, ?_⟩
  · intro first inFirst second inSecond sameKey
    rcases each first inFirst with old | rfl
    · rcases each second inSecond with oldSecond | rfl
      · exact rows.oneKey first old second oldSecond sameKey
      · exact absurd sameKey (key first old)
    · rcases each second inSecond with old | rfl
      · exact absurd sameKey.symm (key second old)
      · rfl
  · intro other member whole
    rcases each other member with old | rfl
    · rw [count, counted]
      exact rows.transacted other old whole
    · rw [own] at whole
      cases whole
  · intro other member whole
    rw [effects]
    rcases each other member with old | rfl
    · exact rows.previewed other old whole
    · rw [own] at whole
      cases whole
  · intro effect member
    rw [effects] at member
    obtain ⟨owner, inRuns, id⟩ := rows.effectOwned effect member
    exact ⟨owner, kept owner inRuns, id⟩
  · intro event member run named
    rw [events] at member
    obtain ⟨owner, inRuns, id⟩ := rows.eventOwned event member run named
    exact ⟨owner, kept owner inRuns, id⟩
  · intro other member
    rw [count]
    rcases each other member with old | rfl
    · exact rows.once other old
    · rw [(fresh_unowned rows fresh).1]
      exact Nat.zero_le 1
  · intro other member apart final
    rw [same]
    rcases each other member with old | rfl
    · exact rows.outcome other old apart final
    · exact absurd running final

theorem beginStep_sound {preview : PreparedPreview} {run : RunId} (sound : Sound panel s)
    (found : s.calls.find call.id = some call) (committed : beginStep panel s call preview run = .ok s') :
    Sound panel s' := by
  unfold beginStep at committed
  simp only [] at committed
  split at committed
  · cases committed
  · rename_i unheld
    have unheld : keyHeld s call.request.idempotencyKey = false := by simpa using unheld
    split at committed
    · rename_i unbound
      have key := findCommandRun_none unbound
      split at committed
      · rename_i fresh
        split at committed
        · rename_i whole
          cases committed
          exact sound.turn found ⟨whole, key⟩ (fun _ => .inr unheld) (by rintro _ ⟨⟩)
        · rename_i apart
          cases committed
          have own : transactional panel call.request.action = false := by simpa [transactional] using apart
          have inserted : newRun run call.request preview .running none ∈
              (s.runs.insert (newRun run call.request preview .running none) fresh).rows :=
            List.mem_append_right _ (List.mem_singleton_self _)
          refine sound.turns (.executing run preview) found
            ⟨rfl, sound.toRows.claim fresh own rfl key rfl rfl rfl, Keeps.insert fresh rfl fun _ yes => yes, ?_,
              fun _ _ _ _ _ => rfl, ⟨_, Table.find_of_mem inserted, rfl, own⟩, by rintro ⟨⟩, by rintro _ ⟨⟩⟩
          intro other member _ open_ row inRuns same
          rcases List.mem_append.mp inRuns with old | new
          · exact old
          · rw [List.mem_singleton.mp new] at same
            exact absurd same.symm (not_keyHeld unheld member open_)
      · cases committed
    · rename_i row bound
      obtain ⟨member, key⟩ := findCommandRun_some bound
      split at committed
      · cases committed
        exact sound.turnOut found trivial rfl rfl
      · rename_i identity
        split at committed
        · rename_i final
          cases committed
          exact sound.turnOut found (recorded_prior member key final true) rfl rfl
        · split at committed
          · cases committed
            exact sound.turnOut found trivial rfl rfl
          · rename_i apart
            cases committed
            simp only [commandIdentityMatches, Bool.not_eq_true', Bool.not_eq_false, Bool.and_eq_true,
              beq_iff_eq] at identity
            refine sound.turnOut found ⟨row, Table.find_of_mem member, key, ?_⟩ rfl rfl
            rw [identity.1.1.1.2]
            simpa [transactional] using apart

/-- The mutation, the run's row and its event, in one commit, at the version previewed. -/
theorem Rows.commit (rows : Rows panel s) {row : CommandRun Result} {effect : Effect} {event : AuditEvent}
    (fresh : row.id ∉ s.runs.rows.map CommandRun.id) (whole : transactional panel row.action = true)
    (succeeded : row.status = .succeeded) (key : ∀ other ∈ s.runs.rows, other.idempotencyKey ≠ row.idempotencyKey)
    (effectRun : effect.runId = row.id) (eventRun : event.commandId = some row.id)
    (version : ∀ version, row.expectedVersion = some version → effect.version = version)
    (runs : s'.runs = s.runs.insert row fresh) (effects : s'.effects = s.effects ++ [effect])
    (events : s'.events = s.events ++ [event]) : Rows panel s' := by
  obtain ⟨noEffect, noEvent⟩ := fresh_unowned rows fresh
  have unnamed : ∀ other ∈ s.runs.rows, other.id ≠ row.id := fun other member same =>
    fresh (List.mem_map.mpr ⟨other, member, same⟩)
  have count : ∀ run, effectsOf s' run = effectsOf s run + if run = row.id then 1 else 0 := fun run => by
    unfold effectsOf
    rw [effects, List.countP_append]
    by_cases same : run = row.id
    · simp [effectRun, same]
    · simp [effectRun, same, Ne.symm same]
  have counted : ∀ run, eventsOf s' run = eventsOf s run + if run = row.id then 1 else 0 := fun run => by
    unfold eventsOf
    rw [events, List.countP_append]
    by_cases same : run = row.id
    · simp [eventRun, same]
    · simp [eventRun, same, Ne.symm same]
  have other_applied : ∀ run, run ≠ row.id → applied s' run = applied s run := fun run apart => by
    unfold applied
    rw [effects, List.any_append]
    simp [effectRun, Ne.symm apart]
  have each : ∀ other ∈ s'.runs.rows, other ∈ s.runs.rows ∨ other = row := by
    intro other member
    rw [runs, Table.insert_rows] at member
    rcases List.mem_append.mp member with old | new
    · exact .inl old
    · exact .inr (List.mem_singleton.mp new)
  have kept : ∀ other ∈ s.runs.rows, other ∈ s'.runs.rows := fun other member => by
    rw [runs, Table.insert_rows]
    exact List.mem_append_left _ member
  have new : row ∈ s'.runs.rows := by
    rw [runs, Table.insert_rows]
    exact List.mem_append_right _ (List.mem_singleton_self _)
  refine ⟨?_, ?_, ?_, ?_, ?_, ?_, ?_⟩
  · intro first inFirst second inSecond sameKey
    rcases each first inFirst with old | rfl
    · rcases each second inSecond with oldSecond | rfl
      · exact rows.oneKey first old second oldSecond sameKey
      · exact absurd sameKey (key first old)
    · rcases each second inSecond with old | rfl
      · exact absurd sameKey.symm (key second old)
      · rfl
  · intro other member
    rw [count, counted]
    rcases each other member with old | rfl
    · rw [if_neg (unnamed other old)]
      exact rows.transacted other old
    · rw [if_pos rfl, noEffect, noEvent]
      exact fun _ => ⟨succeeded, rfl, rfl⟩
  · intro other member own one inEffects same
    rw [effects] at inEffects
    rcases List.mem_append.mp inEffects with oldEffect | newEffect
    · rcases each other member with old | rfl
      · exact rows.previewed other old own one oldEffect same
      · obtain ⟨owner, inRuns, id⟩ := rows.effectOwned one oldEffect
        exact absurd (id.trans same) (unnamed owner inRuns)
    · rw [List.mem_singleton.mp newEffect] at same ⊢
      rcases each other member with old | rfl
      · exact absurd (same.symm.trans effectRun) (unnamed other old)
      · exact version
  · intro one inEffects
    rw [effects] at inEffects
    rcases List.mem_append.mp inEffects with oldEffect | newEffect
    · obtain ⟨owner, inRuns, id⟩ := rows.effectOwned one oldEffect
      exact ⟨owner, kept owner inRuns, id⟩
    · rw [List.mem_singleton.mp newEffect]
      exact ⟨row, new, effectRun.symm⟩
  · intro one inEvents run named
    rw [events] at inEvents
    rcases List.mem_append.mp inEvents with oldEvent | newEvent
    · obtain ⟨owner, inRuns, id⟩ := rows.eventOwned one oldEvent run named
      exact ⟨owner, kept owner inRuns, id⟩
    · rw [List.mem_singleton.mp newEvent, eventRun] at named
      exact ⟨row, new, Option.some.inj named⟩
  · intro other member
    rw [count]
    rcases each other member with old | rfl
    · rw [if_neg (unnamed other old)]
      exact rows.once other old
    · rw [if_pos rfl, noEffect]
  · intro other member own final
    rcases each other member with old | rfl
    · rw [other_applied other.id (unnamed other old)]
      exact rows.outcome other old own final
    · rw [whole] at own
      cases own

end LetterIRL.Command
