import Mathlib.Tactic

namespace LetterIRL.Lib

/-- The states a guarded step function can be in after committed steps that
each satisfy `allowed`. A step that returns an error changes nothing, so an
aborted attempt does not appear in a run. -/
inductive Reach {σ ε α : Type} (step : σ → ε → Except α σ) (allowed : σ → ε → Prop)
    (initial : σ) : σ → Prop
  | start : Reach step allowed initial initial
  | next {before after : σ} {event : ε} (previous : Reach step allowed initial before)
      (permitted : allowed before event) (committed : step before event = .ok after) :
      Reach step allowed initial after

/-- Every committed step is permitted. -/
abbrev anyStep {σ ε : Type} : σ → ε → Prop := fun _ _ => True

theorem Reach.mono {σ ε α : Type} {step : σ → ε → Except α σ} {strict loose : σ → ε → Prop}
    {initial state : σ} (reach : Reach step strict initial state)
    (weaker : ∀ s e, strict s e → loose s e) : Reach step loose initial state := by
  induction reach with
  | start => exact .start
  | next _ permitted committed ih => exact .next ih (weaker _ _ permitted) committed

theorem Reach.toAny {σ ε α : Type} {step : σ → ε → Except α σ} {allowed : σ → ε → Prop}
    {initial state : σ} (reach : Reach step allowed initial state) :
    Reach step anyStep initial state :=
  reach.mono fun _ _ _ => trivial

/-- One more committed step, with its event. -/
theorem Reach.after {σ ε α : Type} {step : σ → ε → Except α σ} {allowed : σ → ε → Prop} {initial before state : σ}
    (previous : Reach step allowed initial before) (event : ε) (permitted : allowed before event)
    (committed : step before event = .ok state) : Reach step allowed initial state := .next previous permitted committed

theorem Reach.trans {σ ε α : Type} {step : σ → ε → Except α σ} {allowed : σ → ε → Prop}
    {initial middle state : σ} (first : Reach step allowed initial middle)
    (second : Reach step allowed middle state) : Reach step allowed initial state := by
  induction second with
  | start => exact first
  | next _ permitted committed ih => exact .next ih permitted committed

/-- What holds at the start and is preserved by every permitted committed step
holds in every state of a run. -/
theorem Reach.invariant {σ ε α : Type} {step : σ → ε → Except α σ} {allowed : σ → ε → Prop}
    {initial state : σ} {I : σ → Prop} (reach : Reach step allowed initial state)
    (atStart : I initial)
    (preserved : ∀ s e s', I s → allowed s e → step s e = .ok s' → I s') : I state := by
  induction reach with
  | start => exact atStart
  | next _ permitted committed ih => exact preserved _ _ _ ih permitted committed

/-- A quantity no permitted step raises is bounded by its first value. -/
theorem Reach.antitone {σ ε α : Type} {step : σ → ε → Except α σ} {allowed : σ → ε → Prop}
    {initial state : σ} {I : σ → Prop} {value : σ → Nat}
    (reach : Reach step allowed initial state) (atStart : I initial)
    (preserved : ∀ s e s', I s → allowed s e → step s e = .ok s' → I s' ∧ value s' ≤ value s) :
    I state ∧ value state ≤ value initial := by
  induction reach with
  | start => exact ⟨atStart, le_rfl⟩
  | next _ permitted committed ih =>
    obtain ⟨kept, bound⟩ := ih
    obtain ⟨again, step⟩ := preserved _ _ _ kept permitted committed
    exact ⟨again, Nat.le_trans step bound⟩

/-- What holds of no events at the start, and of one more event after its step, holds of every history. -/
theorem foldl_invariant {σ ε : Type} {step : σ → ε → σ} {initial : σ} {I : List ε → σ → Prop} (atStart : I [] initial)
    (preserved : ∀ past s event, I past s → I (past ++ [event]) (step s event)) (events : List ε) :
    I events (events.foldl step initial) := by
  induction events using List.reverseRecOn with
  | nil => exact atStart
  | append_singleton past event ih =>
    rw [List.foldl_append]
    exact preserved past _ event ih

/-- The state a list of events leads to, if every one of them commits. -/
def runAll {σ ε α : Type} (step : σ → ε → Except α σ) : σ → List ε → Except α σ
  | s, [] => .ok s
  | s, event :: events =>
    match step s event with
    | .ok after => runAll step after events
    | .error reason => .error reason

theorem reach_of_runAll {σ ε α : Type} {step : σ → ε → Except α σ} {allowed : σ → ε → Prop} {events : List ε}
    {initial state : σ} (ran : runAll step initial events = .ok state)
    (permitted : ∀ s, ∀ event ∈ events, allowed s event) : Reach step allowed initial state := by
  induction events generalizing initial with
  | nil =>
    cases ran
    exact .start
  | cons event events ih =>
    have rest : ∀ s, ∀ later ∈ events, allowed s later := fun s later member =>
      permitted s later (List.mem_cons_of_mem _ member)
    unfold runAll at ran
    split at ran
    · rename_i after committed
      exact (Reach.next .start (permitted _ _ List.mem_cons_self) committed).trans (ih ran rest)
    · cases ran

/-- A test that a run of permitted events passes at its end is passed by a state some run reaches. -/
theorem exists_reach_within {σ ε α : Type} (step : σ → ε → Except α σ) (allowed : σ → ε → Prop) (initial : σ)
    (test : σ → Bool) (events : List ε) (permitted : ∀ s, ∀ event ∈ events, allowed s event)
    (passes : (match runAll step initial events with
      | .ok state => test state
      | .error _ => false) = true) :
    ∃ state, Reach step allowed initial state ∧ test state = true := by
  cases ran : runAll step initial events with
  | ok state =>
    rw [ran] at passes
    exact ⟨state, reach_of_runAll ran permitted, passes⟩
  | error reason =>
    rw [ran] at passes
    cases passes

/-- A run that checks before each step that it is permitted. -/
def checkedStep {σ ε α : Type} (step : σ → ε → Except α σ) (allowed : σ → ε → Prop)
    [∀ s e, Decidable (allowed s e)] (s : σ) (event : ε) : Except (Option α) σ :=
  if allowed s event then
    match step s event with
    | .ok after => .ok after
    | .error reason => .error (some reason)
  else .error none

theorem checkedStep_ok {σ ε α : Type} {step : σ → ε → Except α σ} {allowed : σ → ε → Prop}
    [∀ s e, Decidable (allowed s e)] {before after : σ} {event : ε}
    (committed : checkedStep step allowed before event = .ok after) :
    allowed before event ∧ step before event = .ok after := by
  unfold checkedStep at committed
  split at committed
  · rename_i permitted
    split at committed
    · rename_i here
      cases committed
      exact ⟨permitted, here⟩
    · cases committed
  · cases committed

theorem reach_of_checked {σ ε α : Type} {step : σ → ε → Except α σ} {allowed : σ → ε → Prop}
    [∀ s e, Decidable (allowed s e)] {initial state : σ}
    (reach : Reach (checkedStep step allowed) anyStep initial state) : Reach step allowed initial state := by
  induction reach with
  | start => exact .start
  | next _ _ committed ih =>
    obtain ⟨permitted, here⟩ := checkedStep_ok committed
    exact .next ih permitted here

/-- The same where every event is permitted. -/
theorem exists_reach {σ ε α : Type} (step : σ → ε → Except α σ) (initial : σ) (test : σ → Bool)
    (events : List ε)
    (passes : (match runAll step initial events with
      | .ok state => test state
      | .error _ => false) = true) :
    ∃ state, Reach step anyStep initial state ∧ test state = true :=
  exists_reach_within step anyStep initial test events (fun _ _ _ => trivial) passes

/-- And one that its last step passes is passed by a step some run makes. -/
theorem exists_step {σ ε α : Type} (step : σ → ε → Except α σ) (initial : σ) (test : σ → σ → Bool)
    (events : List ε) (event : ε)
    (passes : (match runAll step initial events with
      | .ok before =>
        match step before event with
        | .ok after => test before after
        | .error _ => false
      | .error _ => false) = true) :
    ∃ before after, Reach step anyStep initial before ∧ step before event = .ok after ∧
      test before after = true := by
  obtain ⟨before, reach, passes⟩ := exists_reach step initial
    (fun before => match step before event with
      | .ok after => test before after
      | .error _ => false) events passes
  cases committed : step before event with
  | ok after =>
    rw [committed] at passes
    exact ⟨before, after, reach, committed, passes⟩
  | error reason =>
    rw [committed] at passes
    cases passes

/-- The only way a sequential composition commits is that both parts commit. -/
theorem bind_eq_ok {α β ε : Type} {x : Except ε α} {f : α → Except ε β} {b : β} :
    (x >>= f) = .ok b ↔ ∃ a, x = .ok a ∧ f a = .ok b := by
  cases x with
  | error e =>
    constructor
    · intro h
      cases h
    · rintro ⟨_, h, _⟩
      cases h
  | ok a =>
    constructor
    · intro h
      exact ⟨a, rfl, h⟩
    · rintro ⟨_, h, h'⟩
      cases h
      exact h'

/-- A mapped result commits when what it maps does. -/
theorem map_eq_ok {α β ε : Type} {x : Except ε α} {f : α → β} {b : β} (mapped : x.map f = .ok b) :
    ∃ a, x = .ok a ∧ f a = b := by
  cases x with
  | error reason => cases mapped
  | ok a => exact ⟨a, rfl, Except.ok.inj mapped⟩

/-- A composition fails when its first part fails, or its second part does. -/
theorem bind_eq_error {α β ε : Type} {x : Except ε α} {f : α → Except ε β} {e : ε} :
    (x >>= f) = .error e ↔ x = .error e ∨ ∃ a, x = .ok a ∧ f a = .error e := by
  cases x with
  | error e' =>
    constructor
    · intro h
      cases h
      exact .inl rfl
    · rintro (h | ⟨_, h, _⟩)
      · cases h; rfl
      · cases h
  | ok a =>
    constructor
    · intro h
      exact .inr ⟨a, rfl, h⟩
    · rintro (h | ⟨_, h, h'⟩)
      · cases h
      · cases h; exact h'

end LetterIRL.Lib
