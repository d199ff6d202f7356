import LetterIRL.Command.Steps

namespace LetterIRL.Command
open Lib

variable {Result : Type} {panel : Panel} {s s' : Store Result} {call : Call Result} {event : Event Result}

/-! The steps at which an outcome and an effect can part, and what holds while they do not. -/

/-- A commit finds the version previewed; no effect is applied once its run is recorded failed; and a call whose domain
call failed completes only where no call applied the effect and no other outcome is recorded. -/
def Faithful (s : Store Result) : Event Result → Prop
  | .commit id _ => ∀ call, s.calls.find id = some call → ∀ run preview, call.phase.transaction = some (run, preview) →
    ∀ version, preview.expectedVersion = some version → s.versions preview.targetId = version
  | .execute id _ applies => applies = true → ∀ call, s.calls.find id = some call → ∀ run preview,
    call.phase = .executing run preview → ∀ row, s.runs.find run = some row → row.status ≠ .failed
  | .complete id => ∀ call, s.calls.find id = some call → ∀ run preview code,
    call.phase = .replied run preview (.failure code) →
      applied s run = false ∧ ∀ row, s.runs.find run = some row → row.status = .running ∨ row.errorCode = some code
  | _ => True

/-- An open operator transaction is of a transactional command, and no run has its key. -/
theorem Sound.opened (sound : Sound panel s) (member : call ∈ s.calls.rows)
    (open_ : call.phase.transaction.isSome = true) :
    transactional panel call.request.action = true ∧
      ∀ row ∈ s.runs.rows, row.idempotencyKey ≠ call.request.idempotencyKey := by
  have ok := sound.phases call member
  cases phase : call.phase with
  | began _ _ =>
    rw [phase] at ok
    exact ok
  | locked _ _ =>
    rw [phase] at ok
    exact ok.1
  | _ =>
    rw [phase] at open_
    cases open_

theorem commitRun_sound {run : RunId} {preview : PreparedPreview} {result : Result} (sound : Sound panel s)
    (found : s.calls.find call.id = some call) (open_ : call.phase.transaction = some (run, preview))
    (held : call.phase.held = some preview.targetId ∨ targetHeld s preview.targetId = false)
    (version : ∀ version, preview.expectedVersion = some version → s.versions preview.targetId = version)
    (committed : commitRun s call run preview result = .ok s') : Sound panel s' := by
  have inCalls := Table.find_mem found
  have opens : call.phase.transaction.isSome = true := by rw [open_]; rfl
  have own := sound.opened inCalls opens
  unfold commitRun at committed
  split at committed
  · rename_i fresh
    cases committed
    have inserted : newRun run call.request preview .succeeded (some result) ∈
        (s.runs.insert (newRun run call.request preview .succeeded (some result)) fresh).rows :=
      List.mem_append_right _ (List.mem_singleton_self _)
    refine sound.turns (.told (priorOutcome (newRun run call.request preview .succeeded (some result)) false)) found
      ⟨rfl, sound.toRows.commit fresh own.1 rfl own.2 rfl rfl version rfl rfl rfl, Keeps.insert fresh rfl ?_, ?_, ?_,
        ⟨_, Table.find_of_mem inserted, rfl, nofun, rfl, rfl, rfl⟩, nofun, nofun⟩
    · intro other yes
      unfold applied at yes ⊢
      rw [List.any_append, yes, Bool.true_or]
    · intro other member apart otherOpens row inRuns same
      rcases List.mem_append.mp inRuns with old | new
      · exact old
      · rw [List.mem_singleton.mp new] at same
        exact absurd (sound.keys call inCalls other member opens otherOpens same).symm apart
    · intro other member apart target holds
      refine Function.update_of_ne (fun same => ?_) _ _
      rw [same] at holds
      rcases held with own | free
      · exact apart (sound.targets other member call inCalls _ holds own)
      · exact not_targetHeld free member holds
  · cases committed

/-- The effect of a claimed run that is not recorded failed. -/
theorem Rows.apply (rows : Rows panel s) {row : CommandRun Result} {effect : Effect} (member : row ∈ s.runs.rows)
    (own : transactional panel row.action = false) (open_ : row.status ≠ .failed) (run : effect.runId = row.id)
    (new : applied s row.id = false) (runs : s'.runs = s.runs) (effects : s'.effects = s.effects ++ [effect])
    (events : s'.events = s.events) : Rows panel s' := by
  have count : ∀ id, effectsOf s' id = effectsOf s id + if id = row.id then 1 else 0 := fun id => by
    unfold effectsOf
    rw [effects, List.countP_append]
    by_cases same : id = row.id
    · simp [run, same]
    · simp [run, same, Ne.symm same]
  have counted : ∀ id, eventsOf s' id = eventsOf s id := fun id => by
    unfold eventsOf
    rw [events]
  have other_applied : ∀ id, id ≠ row.id → applied s' id = applied s id := fun id apart => by
    unfold applied
    rw [effects, List.any_append]
    simp [run, Ne.symm apart]
  have other_row : ∀ other ∈ s.runs.rows, other.id = row.id → other = row := fun other inRuns same =>
    eq_of_key_eq s.runs.unique inRuns member same
  refine ⟨?_, ?_, ?_, ?_, ?_, ?_, ?_⟩
  · rw [runs]
    exact rows.oneKey
  · intro other inRuns whole
    rw [runs] at inRuns
    rw [count, counted, if_neg fun same => ?_]
    · exact rows.transacted other inRuns whole
    · rw [other_row other inRuns same, own] at whole
      cases whole
  · intro other inRuns whole one inEffects same
    rw [runs] at inRuns
    rw [effects] at inEffects
    rcases List.mem_append.mp inEffects with old | new
    · exact rows.previewed other inRuns whole one old same
    · rw [List.mem_singleton.mp new, run] at same
      rw [other_row other inRuns same.symm, own] at whole
      cases whole
  · intro one inEffects
    rw [effects] at inEffects
    rw [runs]
    rcases List.mem_append.mp inEffects with old | new
    · exact rows.effectOwned one old
    · rw [List.mem_singleton.mp new]
      exact ⟨row, member, run.symm⟩
  · rw [events, runs]
    exact rows.eventOwned
  · intro other inRuns
    rw [runs] at inRuns
    rw [count]
    by_cases same : other.id = row.id
    · rw [if_pos same, same, effectsOf_eq_zero.mpr new]
    · rw [if_neg same]
      exact rows.once other inRuns
  · intro other inRuns apart final
    rw [runs] at inRuns
    by_cases same : other.id = row.id
    · obtain rfl := other_row other inRuns same
      have status := rows.outcome other inRuns apart final
      cases recorded : other.status with
      | running => exact absurd recorded final
      | failed => exact absurd recorded open_
      | succeeded =>
        rw [new] at status
        exact absurd (status.mp recorded) Bool.false_ne_true
    · rw [other_applied other.id same]
      exact rows.outcome other inRuns apart final

theorem executeStep_sound {run : RunId} {preview : PreparedPreview} {reply : Reply Result} {applies : Bool}
    (sound : Sound panel s) (found : s.calls.find call.id = some call) (phase : call.phase = .executing run preview)
    (faithful : applies = true → ∀ row, s.runs.find run = some row → row.status ≠ .failed)
    (committed : executeStep s call run preview reply applies = .ok s') : Sound panel s' := by
  have claimed : Claimed panel s call.request run := by
    have ok := sound.phases call (Table.find_mem found)
    rw [phase] at ok
    exact ok
  unfold executeStep at committed
  simp only [] at committed
  split at committed
  · rename_i before
    cases committed
    exact sound.turnOut found ⟨claimed, fun _ => before⟩ rfl rfl
  · rename_i new
    have new : applied s run = false := by simpa using new
    split at committed
    · rename_i yes
      split at committed
      · cases committed
      · rename_i free
        have free : targetHeld s preview.targetId = false := by simpa using free
        cases committed
        obtain ⟨row, atRun, key, own⟩ := id claimed
        obtain rfl := Table.find_key atRun
        have keeps : Keeps s { s.turn call (.replied row.id preview reply) with
            effects := s.effects ++ [{ runId := row.id, version := s.versions preview.targetId }]
            versions := Function.update s.versions preview.targetId (s.versions preview.targetId + 1) } :=
          ⟨fun _ old at_ => ⟨old, at_, rfl, rfl⟩, fun _ _ at_ _ => at_, fun other before => by
            unfold applied at before ⊢
            rw [List.any_append, before, Bool.true_or]⟩
        refine sound.turns (.replied row.id preview reply) found
          ⟨rfl, sound.toRows.apply (Table.find_mem atRun) own (faithful yes row atRun) rfl new rfl rfl rfl, keeps,
            fun _ _ _ _ _ member _ => member, ?_, ⟨claimed.keep keeps, fun _ => ?_⟩, nofun, nofun⟩
        · intro other member _ target holds
          refine Function.update_of_ne (fun same => ?_) _ _
          exact not_targetHeld free member (same ▸ holds)
        · exact applied_iff.mpr ⟨_, List.mem_append_right _ (List.mem_singleton_self _), rfl⟩
    · split at committed
      · cases committed
      · cases committed
        exact sound.turnOut found ⟨claimed, nofun⟩ rfl rfl

theorem completed_facts (row : CommandRun Result) (reply : Reply Result) :
    (completed row reply).id = row.id ∧ (completed row reply).idempotencyKey = row.idempotencyKey ∧
      (completed row reply).action = row.action ∧ (completed row reply).expectedVersion = row.expectedVersion ∧
      (completed row reply).status ≠ .running := by
  cases reply with
  | result result => exact ⟨rfl, rfl, rfl, rfl, nofun⟩
  | failure code => exact ⟨rfl, rfl, rfl, rfl, nofun⟩

/-- A running row is recorded as its calls have it. -/
theorem Rows.complete (rows : Rows panel s) {row after : CommandRun Result} {event : AuditEvent}
    (member : row ∈ s.runs.rows) (own : transactional panel row.action = false) (id : after.id = row.id)
    (key : after.idempotencyKey = row.idempotencyKey) (action : after.action = row.action)
    (event_ : event.commandId = some row.id) (status : after.status = .succeeded ↔ applied s row.id = true)
    (runs : s'.runs = s.runs.put after) (effects : s'.effects = s.effects) (events : s'.events = s.events ++ [event]) :
    Rows panel s' := by
  have count : ∀ run, effectsOf s' run = effectsOf s run := fun run => by
    unfold effectsOf
    rw [effects]
  have same : ∀ run, applied s' run = applied s run := fun run => by
    unfold applied
    rw [effects]
  have counted : ∀ run, run ≠ row.id → eventsOf s' run = eventsOf s run := fun run apart => by
    unfold eventsOf
    rw [events, List.countP_append]
    simp [event_, Ne.symm apart]
  have each : ∀ other ∈ s'.runs.rows, (other ∈ s.runs.rows ∧ other.id ≠ row.id) ∨ other = after := by
    intro other inRuns
    rw [runs] at inRuns
    rcases Table.mem_put.mp inRuns with ⟨old, apart⟩ | ⟨new, -⟩
    · exact .inl ⟨old, id ▸ apart⟩
    · exact .inr new
  have named : ∀ run, (∃ other ∈ s.runs.rows, other.id = run) → ∃ other ∈ s'.runs.rows, other.id = run := by
    rintro run ⟨other, inRuns, rfl⟩
    rw [runs]
    by_cases same : other.id = after.id
    · exact ⟨after, Table.mem_put.mpr (.inr ⟨rfl, other, inRuns, same⟩), same.symm⟩
    · exact ⟨other, Table.mem_put.mpr (.inl ⟨inRuns, same⟩), rfl⟩
  have apart_own : transactional panel after.action = false := by rw [action, own]
  refine ⟨?_, ?_, ?_, ?_, ?_, ?_, ?_⟩
  · intro first inFirst second inSecond sameKey
    rcases each first inFirst with ⟨old, differ⟩ | rfl
    · rcases each second inSecond with ⟨oldSecond, -⟩ | rfl
      · exact rows.oneKey first old second oldSecond sameKey
      · exact absurd (congrArg CommandRun.id (rows.oneKey first old row member (sameKey.trans key))) differ
    · rcases each second inSecond with ⟨old, differ⟩ | rfl
      · exact absurd (congrArg CommandRun.id (rows.oneKey second old row member (sameKey.symm.trans key))) differ
      · rfl
  · intro other inRuns whole
    rcases each other inRuns with ⟨old, differ⟩ | rfl
    · rw [count, counted other.id differ]
      exact rows.transacted other old whole
    · rw [apart_own] at whole
      cases whole
  · intro other inRuns whole
    rw [effects]
    rcases each other inRuns with ⟨old, -⟩ | rfl
    · exact rows.previewed other old whole
    · rw [apart_own] at whole
      cases whole
  · intro effect inEffects
    rw [effects] at inEffects
    exact named _ (rows.effectOwned effect inEffects)
  · intro one inEvents run commandId
    rw [events] at inEvents
    rcases List.mem_append.mp inEvents with old | new
    · exact named run (rows.eventOwned one old run commandId)
    · rw [List.mem_singleton.mp new, event_] at commandId
      exact named run ⟨row, member, Option.some.inj commandId⟩
  · intro other inRuns
    rw [count]
    rcases each other inRuns with ⟨old, -⟩ | rfl
    · exact rows.once other old
    · rw [id]
      exact rows.once row member
  · intro other inRuns apart final
    rw [same]
    rcases each other inRuns with ⟨old, -⟩ | rfl
    · exact rows.outcome other old apart final
    · rw [id]
      exact status

theorem completed_status {row : CommandRun Result} {reply : Reply Result} {run : RunId}
    (result : (∃ result, reply = .result result) → applied s run = true)
    (failure : ∀ code, reply = .failure code → applied s run = false) :
    (completed row reply).status = .succeeded ↔ applied s run = true := by
  cases reply with
  | result value => exact iff_of_true rfl (result ⟨value, rfl⟩)
  | failure code =>
    refine iff_of_false nofun ?_
    rw [failure code rfl]
    exact Bool.false_ne_true

/-- A recorded run of a command with a transaction of its own that applied nothing is a failed one. -/
theorem Rows.failed (rows : Rows panel s) {row : CommandRun Result} (member : row ∈ s.runs.rows)
    (own : transactional panel row.action = false) (final : row.status ≠ .running) (none : applied s row.id = false) :
    row.status = .failed := by
  have status := rows.outcome row member own final
  cases recorded : row.status with
  | running => exact absurd recorded final
  | failed => rfl
  | succeeded =>
    rw [none] at status
    exact absurd (status.mp recorded) Bool.false_ne_true

theorem completeStep_sound {run : RunId} {preview : PreparedPreview} {reply : Reply Result} (sound : Sound panel s)
    (found : s.calls.find call.id = some call) (phase : call.phase = .replied run preview reply)
    (faithful : ∀ code, reply = .failure code → applied s run = false ∧
      ∀ row, s.runs.find run = some row → row.status = .running ∨ row.errorCode = some code)
    (committed : completeStep s call run preview reply = .ok s') : Sound panel s' := by
  have ok := sound.phases call (Table.find_mem found)
  rw [phase] at ok
  obtain ⟨⟨row, atRun, key, own⟩, replied⟩ := ok
  have member := Table.find_mem atRun
  obtain rfl := Table.find_key atRun
  unfold completeStep at committed
  rw [atRun] at committed
  simp only [] at committed
  split at committed
  · rename_i running
    cases committed
    obtain ⟨id, sameKey, action, -, final⟩ := completed_facts row reply
    have status : (completed row reply).status = .succeeded ↔ applied s row.id = true :=
      completed_status replied fun code failed => (faithful code failed).1
    have after : (s.runs.put (completed row reply)).find row.id = some (completed row reply) :=
      Table.find_put_over atRun id
    refine sound.turns _ found ⟨rfl, sound.toRows.complete member own id sameKey action rfl status rfl rfl rfl, ?_, ?_,
      fun _ _ _ _ _ => rfl, ?_, ?_, ?_⟩
    · refine ⟨fun other old at_ => ?_, fun other old at_ recorded => ?_, fun _ before => before⟩
      · by_cases same : other = row.id
        · subst same
          obtain rfl := Option.some.inj (at_.symm.trans atRun)
          exact ⟨_, after, sameKey, action⟩
        · exact ⟨old, (Table.find_put_of_ne (by rw [id]; exact same)).trans at_, rfl, rfl⟩
      · refine (Table.find_put_of_ne ?_).trans at_
        rw [id]
        rintro rfl
        obtain rfl := Option.some.inj (at_.symm.trans atRun)
        exact recorded running
    · intro other inCalls _ opens one inRuns same
      rcases Table.mem_put.mp inRuns with ⟨old, -⟩ | ⟨rfl, -⟩
      · exact old
      · exact absurd (sameKey.symm.trans same) ((sound.opened inCalls opens).2 row member)
    · cases reply with
      | result value => exact ⟨_, after, sameKey.trans key, final, rfl, rfl, rfl⟩
      | failure code => exact ⟨_, after, sameKey.trans key, rfl, rfl⟩
    · cases reply <;> exact nofun
    · cases reply <;> exact nofun
  · rename_i final
    split at committed
    · cases committed
      exact sound.turnOut found (recorded_prior member key final true) rfl rfl
    · rename_i code
      cases committed
      obtain ⟨none, recorded⟩ := faithful code rfl
      have failed := sound.toRows.failed member own final none
      have same := (recorded row atRun).resolve_left final
      exact sound.turnOut found ⟨row, atRun, key, failed, same⟩ rfl rfl

end LetterIRL.Command
