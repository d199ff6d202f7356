import LetterIRL.Command.Twins

namespace LetterIRL.Command
open Lib

variable {Result : Type} {panel : Panel} {s s' : Store Result} {call : Call Result} {event : Event Result}

/-! One recorded outcome for a key, and what every caller of it is told. -/

/-- Fewer calls, over the same runs and effects. -/
theorem Sound.calls (sound : Sound panel s) (runs : s'.runs = s.runs) (effects : s'.effects = s.effects)
    (events : s'.events = s.events)
    (calls : ∀ call ∈ s'.calls.rows, call ∈ s.calls.rows ∨ call.phase = .submitted)
    (still : ∀ call ∈ s.calls.rows, ∀ target, call.phase.held = some target → s'.versions target = s.versions target) :
    Sound panel s' := by
  have old : ∀ call ∈ s'.calls.rows, call.phase.transaction.isSome = true ∨ (∃ target, call.phase.held = some target) →
      call ∈ s.calls.rows := by
    intro call member opens
    rcases calls call member with before | new
    · exact before
    · rw [new] at opens
      rcases opens with opens | ⟨target, holds⟩
      · cases opens
      · cases holds
  refine ⟨sound.toRows.same runs effects (fun event member _ => events ▸ member) fun run => ?_, ?_, ?_, ?_⟩
  · unfold eventsOf
    rw [events]
  · intro call member
    rcases calls call member with before | new
    · refine (sound.phases call before).keep (Keeps.same runs effects) ?_ (still call before)
      intro _ row inRuns _
      exact runs ▸ inRuns
    · rw [new]
      trivial
  · intro first inFirst second inSecond opens openToo
    exact sound.keys first (old first inFirst (.inl opens)) second (old second inSecond (.inl openToo)) opens openToo
  · intro first inFirst second inSecond target holds heldToo
    exact sound.targets first (old first inFirst (.inr ⟨target, holds⟩)) second
      (old second inSecond (.inr ⟨target, heldToo⟩)) target holds heldToo

theorem callStep_sound (sound : Sound panel s) (bound : event.call.bind s.calls.find = some call)
    (found : s.calls.find call.id = some call) (faithful : Faithful s event)
    (committed : callStep panel s call event = .ok s') : Sound panel s' := by
  unfold callStep at committed
  split at committed
  · -- find
    split at committed
    · cases committed
      exact findStep_sound sound found
    · cases committed
  · -- preview
    split at committed
    · cases committed
      exact previewStep_sound sound found
    · cases committed
  · -- race
    split at committed
    · cases committed
      exact raceStep_sound sound found _ _
    · cases committed
  · -- begin
    split at committed
    · exact beginStep_sound sound found committed
    · cases committed
  · -- lock
    split at committed
    · rename_i run preview phase
      have opens : call.phase.transaction.isSome = true := by rw [phase]; rfl
      split at committed
      · cases committed
      · split at committed
        · cases committed
        · rename_i free
          have free : targetHeld s preview.targetId = false := by simpa using free
          split at committed
          · rename_i expected
            cases committed
            refine sound.turn found ⟨sound.opened (Table.find_mem found) opens, fun version same => ?_⟩
              (fun _ => .inl opens) fun target holds => ?_
            · exact Option.some.inj (expected.symm.trans same)
            · cases holds
              exact free
          · cases committed
            exact sound.turnOut found trivial rfl rfl
    · cases committed
  · -- commit
    rename_i id result
    have version : ∀ run preview, call.phase.transaction = some (run, preview) →
        ∀ version, preview.expectedVersion = some version → s.versions preview.targetId = version :=
      faithful call bound
    split at committed
    · rename_i run preview phase
      split at committed
      · cases committed
      · split at committed
        · cases committed
        · rename_i free
          exact commitRun_sound sound found (by rw [phase]; rfl) (.inr (by simpa using free))
            (version run preview (by rw [phase]; rfl)) committed
    · rename_i run preview phase
      exact commitRun_sound sound found (by rw [phase]; rfl) (.inl (by rw [phase]; rfl))
        (version run preview (by rw [phase]; rfl)) committed
    · cases committed
  · -- rollback
    split at committed
    · cases committed
      exact sound.turnOut found trivial rfl rfl
    · cases committed
  · -- execute
    split at committed
    · rename_i run preview phase
      exact executeStep_sound sound found phase (fun yes row => faithful yes call bound run preview phase row) committed
    · cases committed
  · -- complete
    split at committed
    · rename_i run preview reply phase
      refine completeStep_sound sound found phase (fun code same => ?_) committed
      subst same
      exact faithful call bound run preview code phase
    · cases committed
  · -- crash
    cases committed
    exact sound.calls rfl rfl rfl (fun _ member => .inl (Table.mem_erase.mp member).1) fun _ _ _ _ => rfl
  · cases committed

theorem step_sound (sound : Sound panel s) (faithful : Faithful s event) (committed : step panel s event = .ok s') :
    Sound panel s' := by
  unfold step at committed
  split at committed
  · split at committed
    · cases committed
    · rename_i changed version free
      have free : targetHeld s changed = false := by simpa using free
      cases committed
      refine sound.calls rfl rfl rfl (fun _ member => .inl member) fun call member target holds => ?_
      refine Function.update_of_ne (fun same => ?_) _ _
      exact not_targetHeld free member (same ▸ holds)
  · split at committed
    · rename_i fresh
      cases committed
      refine sound.calls rfl rfl rfl (fun call member => ?_) fun _ _ _ _ => rfl
      rcases List.mem_append.mp member with old | new
      · exact .inl old
      · exact .inr (by rw [List.mem_singleton.mp new])
    · cases committed
  · split at committed
    · cases committed
    · rename_i call bound
      obtain ⟨id, -, at_⟩ := Option.bind_eq_some_iff.mp bound
      exact callStep_sound sound bound (Table.find_key at_ ▸ at_) faithful committed

theorem sound_start : Sound panel ({} : Store Result) where
  oneKey _ member := absurd member List.not_mem_nil
  transacted _ member := absurd member List.not_mem_nil
  previewed _ member := absurd member List.not_mem_nil
  effectOwned _ member := absurd member List.not_mem_nil
  eventOwned _ member := absurd member List.not_mem_nil
  once _ member := absurd member List.not_mem_nil
  outcome _ member := absurd member List.not_mem_nil
  phases _ member := absurd member List.not_mem_nil
  keys _ member := absurd member List.not_mem_nil
  targets _ member := absurd member List.not_mem_nil

theorem sound_reach (reach : Reach (step panel) Faithful ({} : Store Result) s) : Sound panel s :=
  reach.invariant sound_start fun _ _ _ sound faithful committed => step_sound sound faithful committed

/-- The call an event is of, and what its step did. -/
theorem step_call {id : CallId} (same : event.call = some id) (committed : step panel s event = .ok s') :
    ∃ call, s.calls.find id = some call ∧ call.id = id ∧ callStep panel s call event = .ok s' := by
  unfold step at committed
  split at committed
  · cases same
  · cases same
  · split at committed
    · cases committed
    · rename_i call bound
      rw [same] at bound
      exact ⟨call, bound, Table.find_key bound, committed⟩

theorem commit_faithful {id : CallId} {result : Result} (holds : Holds panel s') (sound : Sound panel s)
    (committed : step panel s (.commit id result) = .ok s') : Faithful s (.commit id result) := by
  obtain ⟨call, atCall, -, done⟩ := step_call rfl committed
  intro other atOther run preview open_ version expected
  obtain rfl := Option.some.inj (atCall.symm.trans atOther)
  have own := (sound.opened (Table.find_mem atCall) (by rw [open_]; rfl)).1
  have made : commitRun s call run preview result = .ok s' := by
    unfold callStep at done
    simp only [] at done
    split at done
    · rename_i phase
      rw [phase] at open_
      cases open_
      split at done
      · cases done
      · split at done
        · cases done
        · exact done
    · rename_i phase
      rw [phase] at open_
      cases open_
      exact done
    · cases done
  unfold commitRun at made
  split at made
  · cases made
    exact holds.previewed (newRun run call.request preview .succeeded (some result))
      (List.mem_append_right _ (List.mem_singleton_self _)) own _
      (List.mem_append_right _ (List.mem_singleton_self _)) rfl version expected
  · cases made

theorem execute_faithful {id : CallId} {reply : Reply Result} {applies : Bool} (holds : Holds panel s')
    (sound : Sound panel s) (committed : step panel s (.execute id reply applies) = .ok s') :
    Faithful s (.execute id reply applies) := by
  obtain ⟨call, atCall, -, done⟩ := step_call rfl committed
  intro yes other atOther run preview phase row atRun failed
  obtain rfl := Option.some.inj (atCall.symm.trans atOther)
  have ok := sound.phases call (Table.find_mem atCall)
  rw [phase] at ok
  obtain ⟨claimed, atClaimed, -, own⟩ := ok
  obtain rfl := Option.some.inj (atRun.symm.trans atClaimed)
  obtain rfl := Table.find_key atRun
  have final : row.status ≠ .running := by rw [failed]; decide
  have member := Table.find_mem atRun
  unfold callStep at done
  rw [phase] at done
  simp only [executeStep] at done
  have none : applied s row.id = false := by
    by_contra before
    have status := (sound.outcome row member own final).mpr (by simpa using before)
    rw [failed] at status
    cases status
  rw [none, yes] at done
  simp only [Bool.false_eq_true, if_false, if_true] at done
  split at done
  · cases done
  · cases done
    have status := (holds.outcome row member own final).mpr
      (applied_iff.mpr ⟨_, List.mem_append_right _ (List.mem_singleton_self _), rfl⟩)
    rw [failed] at status
    cases status

theorem complete_faithful {id : CallId} (holds : Holds panel s') (sound : Sound panel s)
    (committed : step panel s (.complete id : Event Result) = .ok s') : Faithful s (.complete id : Event Result) := by
  obtain ⟨call, atCall, sameId, done⟩ := step_call rfl committed
  intro other atOther run preview code phase
  obtain rfl := Option.some.inj (atCall.symm.trans atOther)
  have ok := sound.phases call (Table.find_mem atCall)
  rw [phase] at ok
  obtain ⟨⟨row, atRun, -, own⟩, -⟩ := ok
  obtain rfl := Table.find_key atRun
  have member := Table.find_mem atRun
  have inCalls : ∀ next : Phase Result, { call with phase := next } ∈ (s.calls.put { call with phase := next }).rows :=
    fun next => Table.mem_put.mpr (.inr ⟨rfl, call, Table.find_mem atCall, rfl⟩)
  unfold callStep at done
  rw [phase] at done
  simp only [completeStep, atRun] at done
  split at done
  · rename_i running
    cases done
    refine ⟨?_, fun one atOne => .inl (Option.some.inj (atRun.symm.trans atOne) ▸ running)⟩
    by_contra unapplied
    have before : applied s row.id = true := by simpa using unapplied
    have after : completed row (.failure code : Reply Result) ∈ (s.runs.put (completed row (.failure code))).rows :=
      Table.mem_put.mpr (.inr ⟨rfl, row, member, rfl⟩)
    have status := (holds.outcome _ after own (by rintro ⟨⟩)).mpr before
    cases status
  · rename_i final
    cases done
    obtain ⟨recorded, atRecorded, -, failed, same⟩ := holds.threw _ (inCalls (.threw (some row.id) code)) row.id code rfl
    obtain rfl := Option.some.inj (atRun.symm.trans atRecorded)
    refine ⟨?_, fun one atOne => .inr (Option.some.inj (atRun.symm.trans atOne) ▸ same)⟩
    by_contra before
    have status := (sound.outcome row member own final).mpr (by simpa using before)
    rw [failed] at status
    cases status

/-- A mail job's retry, which its service commits of its own, confirmed at the version it was previewed at. -/
def jobRetry : Panel where
  definition := fun _ => { transactional := false, lockVersion := false }
  preview := fun _ targetId _ version =>
    .ok { targetId, previewDigest := 0, expectedVersion := some version, phrase := 0 }

def retryConfirmed : Confirmation where
  idempotencyKey := 0
  actorId := 0
  action := "job.retry"
  targetId := 0
  input := 0
  previewDigest := 0
  expectedVersion := some 0
  phrase := 0

/-- One confirmation submitted twice, both calls past the claim. -/
def twinsClaimed : List (Event Unit) :=
  [.submit 0 retryConfirmed, .submit 1 retryConfirmed, .find 0, .find 1, .preview 0, .preview 1, .begin_ 0 0,
    .begin_ 1 1]

/-- The conditions of a faithful step, as a test. -/
def checked (s : Store Result) : Event Result → Bool
  | .commit _ _ => false
  | .execute id _ applies => !applies || (s.calls.find id).all fun call =>
    match call.phase with
    | .executing run _ => (s.runs.find run).all fun row => row.status != .failed
    | _ => true
  | .complete id => (s.calls.find id).all fun call =>
    match call.phase with
    | .replied _ _ (.failure _) => false
    | _ => true
  | _ => true

theorem faithful_of_checked (passes : checked s event = true) : Faithful s event := by
  cases event with
  | commit id result => cases passes
  | execute id reply applies =>
    intro yes call atCall run preview phase row atRun
    simp only [checked, yes, Bool.not_true, Bool.false_or, atCall, Option.all_some, phase, atRun, bne_iff_ne] at passes
    exact passes
  | complete id =>
    intro call atCall run preview code phase
    simp only [checked, atCall, Option.all_some, phase] at passes
    cases passes
  | _ => trivial

end LetterIRL.Command
