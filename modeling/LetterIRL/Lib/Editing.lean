import LetterIRL.Lib.Runs

namespace LetterIRL.Lib

/-! An editor of one thing at a time, and the changes of it that a server answers when it will. -/

/-- What an editor does with its own state: `Shown` is what it reports of the thing it is open on, `Rest` all else. -/
structure Editor (κ : Type) where
  (Output Press Change Reply Taken Touch Shown Rest : Type)
  /-- Whether it can be shown for an output. -/
  accepts : κ → Output → Bool
  opened : Output → Shown
  reopened : Output → Shown → Rest → Rest
  redrawn : Output → Shown → Rest → Rest
  hidden : Rest → Rest
  /-- What a press asks to change, if anything. -/
  presses : Press → Shown → Rest → Rest × Option Change
  begins : Change → Rest → Rest
  /-- What an answer to a change tells. -/
  tells : κ → Change → Reply → Shown → Shown
  heard : κ → Change → Reply → Shown → Rest → Rest
  ends : Change → Rest → Rest
  adopts : Taken → Bool → Rest → Bool
  takes : Taken → Shown → Shown
  settled : Taken → Shown → Rest → Rest
  touches : Touch → Option κ → Shown → Rest → Rest

namespace Editor
variable {κ : Type}

/-- A change under way, and whether its answer has come. -/
structure Asked (E : Editor κ) where
  key : κ
  change : E.Change
  answered : Bool

/-- What changed the reports: the answer to a change, by its number, or what was adopted. -/
inductive Effect (E : Editor κ)
  | answered (serial : Nat) (change : E.Change) (reply : E.Reply)
  | taken (what : E.Taken)

/-- The editor and its calls. `output`, `started` and `effects` are those since it was opened on its key. -/
structure State (E : Editor κ) where
  key : Option κ := none
  busy : Bool := false
  shown : E.Shown
  rest : E.Rest
  calls : Nat → Option (Asked E) := fun _ => none
  asked : Nat := 0
  output : Option E.Output := none
  started : List (Nat × E.Change) := []
  effects : List (Effect E) := []

inductive Event (E : Editor κ)
  | show (key : κ) (output : E.Output)
  | press (press : E.Press)
  | answer (serial : Nat) (reply : E.Reply)
  | finish (serial : Nat)
  | adopt (key : κ) (taken : E.Taken)
  | touch (touch : E.Touch)

variable {E : Editor κ}

def Effect.change : Effect E → Option (Nat × E.Change)
  | answered serial change _ => some (serial, change)
  | .taken _ => none

def Effect.on (key : κ) : Effect E → E.Shown → E.Shown
  | answered _ change reply => E.tells key change reply
  | .taken what => E.takes what

namespace State
variable (state : State E)

def opening (key : κ) (output : E.Output) : State E :=
  { state with
    key := some key
    busy := false
    shown := E.opened output
    rest := E.reopened output state.shown state.rest
    output := some output
    started := []
    effects := [] }

def begin (key : κ) (change : E.Change) : State E :=
  { state with
    busy := true
    rest := E.begins change state.rest
    calls := Function.update state.calls state.asked (some { key, change, answered := false })
    asked := state.asked + 1
    started := state.started ++ [(state.asked, change)] }

def hear (serial : Nat) (key : κ) (change : E.Change) (reply : E.Reply) : State E :=
  { state with
    shown := E.tells key change reply state.shown
    rest := E.heard key change reply state.shown state.rest
    effects := state.effects ++ [.answered serial change reply] }

def setCall (serial : Nat) (call : Option (Asked E)) : State E :=
  { state with calls := Function.update state.calls serial call }

def finishing (change : E.Change) : State E := { state with busy := false, rest := E.ends change state.rest }

def adopting (taken : E.Taken) : State E :=
  { state with
    shown := E.takes taken state.shown
    rest := E.settled taken state.shown state.rest
    effects := state.effects ++ [.taken taken] }

end State

section Steps
variable [DecidableEq κ] (state : State E)

/-- A press starts a change while none is awaited; an answer counts for the key the editor is open on, and no other. -/
def next : Event E → Option (State E)
  | .show key output =>
    if E.accepts key output then
      let shown := if state.key = some key then state else state.opening key output
      some { shown with rest := E.redrawn output shown.shown shown.rest }
    else some { state with rest := E.hidden state.rest }
  | .press press =>
    let pressed := { state with rest := (E.presses press state.shown state.rest).1 }
    match state.busy, state.key, (E.presses press state.shown state.rest).2 with
    | false, some key, some change => some (pressed.begin key change)
    | _, _, _ => some pressed
  | .answer serial reply =>
    match state.calls serial with
    | some { key, change, answered := false } =>
      let told := if state.key = some key then state.hear serial key change reply else state
      some (told.setCall serial (some { key, change, answered := true }))
    | _ => none
  | .finish serial =>
    match state.calls serial with
    | some { key, change, answered := true } =>
      let done := if state.key = some key then state.finishing change else state
      some (done.setCall serial none)
    | _ => none
  | .adopt key taken =>
    if state.key = some key ∧ E.adopts taken state.busy state.rest = true then some (state.adopting taken) else some state
  | .touch touch => some { state with rest := E.touches touch state.key state.shown state.rest }

def step (event : Event E) : Except Unit (State E) :=
  match next state event with
  | some after => .ok after
  | none => .error ()

/-- The editor is not brought back to a key with a change of it still under way. -/
def Settled (state : State E) : Event E → Prop
  | .show key output => E.accepts key output = true → state.key ≠ some key →
      ∀ serial call, state.calls serial = some call → call.key ≠ key
  | _ => True

end Steps

def State.heard (state : State E) : List (Nat × E.Change) := state.effects.filterMap Effect.change

/-- What the editor reports is what it was opened with, told by the answers in the order their changes started, with what
was adopted meanwhile; the one change that may be wanting is under way, and then it is busy. -/
structure State.Fresh (state : State E) : Prop where
  idle : state.busy = false → ∀ serial call, state.calls serial = some call → state.key ≠ some call.key
  one : ∀ serial other call call', state.calls serial = some call → state.calls other = some call' →
    state.key = some call.key → state.key = some call'.key → serial = other
  ordered : (state.started.map Prod.fst).Pairwise (· < ·)
  answered : ∃ late, state.started = state.heard ++ late ∧ late.length ≤ 1 ∧ (state.busy = false → late = [])
  told : ∀ key, state.key = some key → ∃ output, state.output = some output ∧
    state.shown = state.effects.foldl (fun shown effect => effect.on key shown) (E.opened output)

/-- The same, with what the steps need of the calls under way. -/
structure State.Inv (state : State E) : Prop where
  idle : state.busy = false → ∀ serial call, state.calls serial = some call → state.key ≠ some call.key
  one : ∀ serial other call call', state.calls serial = some call → state.calls other = some call' →
    state.key = some call.key → state.key = some call'.key → serial = other
  numbered : ∀ serial call, state.calls serial = some call → serial < state.asked
  below : ∀ entry ∈ state.started, entry.1 < state.asked
  ordered : (state.started.map Prod.fst).Pairwise (· < ·)
  awaited : ∀ serial call, state.calls serial = some call → state.key = some call.key → call.answered = false →
    state.started = state.heard ++ [(serial, call.change)]
  quiet : (∀ serial call, state.calls serial = some call → state.key = some call.key → call.answered = true) →
    state.started = state.heard
  told : ∀ key, state.key = some key → ∃ output, state.output = some output ∧
    state.shown = state.effects.foldl (fun shown effect => effect.on key shown) (E.opened output)

variable {state after : State E}

theorem State.Inv.fresh (inv : state.Inv) : state.Fresh where
  idle := inv.idle
  one := inv.one
  ordered := inv.ordered
  told := inv.told
  answered := by
    by_cases all : ∀ serial call, state.calls serial = some call → state.key = some call.key → call.answered = true
    · exact ⟨[], by rw [inv.quiet all, List.append_nil], by simp, fun _ => rfl⟩
    · push Not at all
      obtain ⟨serial, call, there, own, late⟩ := all
      have awaited := inv.awaited serial call there own (Bool.eq_false_iff.mpr late)
      exact ⟨_, awaited, le_rfl, fun idle => absurd own (inv.idle idle serial call there)⟩

theorem State.Inv.initially (shown : E.Shown) (rest : E.Rest) : ({ shown, rest } : State E).Inv where
  idle := fun _ _ _ there => (nomatch there)
  one := fun _ _ _ _ there => (nomatch there)
  numbered := fun _ _ there => (nomatch there)
  below := fun _ member => (nomatch member)
  ordered := List.Pairwise.nil
  awaited := fun _ _ there => (nomatch there)
  quiet := fun _ => rfl
  told := fun _ opened => (nomatch opened)

/-- What is not reported may change. -/
theorem State.Inv.rested (inv : state.Inv) (rest : E.Rest) : State.Inv { state with rest } :=
  ⟨inv.idle, inv.one, inv.numbered, inv.below, inv.ordered, inv.awaited, inv.quiet, inv.told⟩

/-- The editor opens on a key none of whose changes is under way. -/
theorem State.Inv.opening {key : κ} {output : E.Output} (inv : state.Inv)
    (settled : ∀ serial call, state.calls serial = some call → call.key ≠ key) : (state.opening key output).Inv where
  idle := fun _ serial call there own => settled serial call there (Option.some.inj own).symm
  one := fun serial _ call _ there _ own => absurd (Option.some.inj own).symm (settled serial call there)
  numbered := inv.numbered
  below := fun _ member => (nomatch member)
  ordered := List.Pairwise.nil
  awaited := fun serial call there own => absurd (Option.some.inj own).symm (settled serial call there)
  quiet := fun _ => rfl
  told := fun _ _ => ⟨output, rfl, rfl⟩

/-- A change starts when none of its key is under way. -/
theorem State.Inv.begin {key : κ} {change : E.Change} (inv : state.Inv) (opened : state.key = some key)
    (idle : state.busy = false) : (state.begin key change).Inv := by
  have none_ := inv.idle idle
  have old {serial : Nat} {call : Asked E} (there : (state.begin key change).calls serial = some call)
      (own : state.key = some call.key) : serial = state.asked ∧ call = { key, change, answered := false } := by
    simp only [State.begin, Function.update_apply] at there
    split at there
    · rename_i here
      exact ⟨here, (Option.some.inj there).symm⟩
    · exact absurd own (none_ serial call there)
  have quiet := inv.quiet fun serial call there own => absurd own (none_ serial call there)
  refine {
    idle := fun free => (nomatch free)
    one := fun serial other call call' there there' own own' => (old there own).1.trans (old there' own').1.symm
    numbered := fun serial call there => ?_
    below := fun entry member => ?_
    ordered := ?_
    awaited := fun serial call there own _ => ?_
    quiet := fun all => ?_
    told := inv.told }
  · simp only [State.begin, Function.update_apply] at there ⊢
    split at there
    · rename_i here
      rw [here]
      exact Nat.lt_succ_self _
    · exact (inv.numbered serial call there).trans (Nat.lt_succ_self _)
  · rcases List.mem_append.mp member with before | here
    · exact (inv.below entry before).trans (Nat.lt_succ_self _)
    · rw [List.mem_singleton.mp here]
      exact Nat.lt_succ_self _
  · simp only [State.begin, List.map_append]
    refine List.pairwise_append.mpr ⟨inv.ordered, List.pairwise_singleton _ _, fun first member second here => ?_⟩
    obtain ⟨entry, inStarted, rfl⟩ := List.mem_map.mp member
    rw [List.mem_singleton.mp here]
    exact inv.below entry inStarted
  · obtain ⟨rfl, rfl⟩ := old there own
    change state.started ++ _ = state.heard ++ _
    rw [quiet]
  · have here : (state.begin key change).calls state.asked = some { key, change, answered := false } :=
      Function.update_self _ _ _
    nomatch all _ _ here opened

theorem calls_setCall {serial other : Nat} {call : Option (Asked E)} {held : Asked E}
    (there : (state.setCall serial call).calls other = some held) :
    other = serial ∧ call = some held ∨ other ≠ serial ∧ state.calls other = some held := by
  simp only [State.setCall, Function.update_apply] at there
  split at there
  · rename_i same
    exact .inl ⟨same, there⟩
  · rename_i apart
    exact .inr ⟨apart, there⟩

/-- The answer to a change of the key the editor is open on. -/
theorem State.Inv.hear {serial : Nat} {key : κ} {change : E.Change} {reply : E.Reply} (inv : state.Inv)
    (awaited : state.calls serial = some { key, change, answered := false }) (opened : state.key = some key) :
    ((state.hear serial key change reply).setCall serial (some { key, change, answered := true })).Inv := by
  have only {other : Nat} {call : Asked E} (there : state.calls other = some call) (own : state.key = some call.key) :
      other = serial := inv.one other serial call _ there awaited own opened
  have told := inv.awaited serial _ awaited opened rfl
  have heard : (state.hear serial key change reply).heard = state.heard ++ [(serial, change)] := by
    simp only [State.heard, State.hear, List.filterMap_append]
    rfl
  refine {
    idle := fun idle => absurd opened (inv.idle idle serial _ awaited)
    one := fun one two call call' there there' own own' => ?_
    numbered := fun other call there => ?_
    below := inv.below
    ordered := inv.ordered
    awaited := fun other call there own late => ?_
    quiet := fun _ => told.trans heard.symm
    told := fun key' opened' => ?_ }
  · have first : one = serial := by
      rcases calls_setCall there with ⟨same, _⟩ | ⟨_, before⟩
      · exact same
      · exact only before own
    have second : two = serial := by
      rcases calls_setCall there' with ⟨same, _⟩ | ⟨_, before⟩
      · exact same
      · exact only before own'
    exact first.trans second.symm
  · rcases calls_setCall there with ⟨rfl, _⟩ | ⟨_, before⟩
    · exact inv.numbered other _ awaited
    · exact inv.numbered other call before
  · rcases calls_setCall there with ⟨_, same⟩ | ⟨apart, before⟩
    · rw [← Option.some.inj same] at late
      nomatch late
    · exact absurd (only before own) apart
  · obtain ⟨output, given, shown⟩ := inv.told key' opened'
    obtain rfl : key = key' := Option.some.inj (opened.symm.trans opened')
    refine ⟨output, given, ?_⟩
    change E.tells key change reply state.shown = (state.effects ++ [Effect.answered serial change reply]).foldl _ _
    rw [List.foldl_append, ← shown]
    rfl

/-- A call of another key changes, which the editor does not look at. -/
theorem State.Inv.elsewhere {serial : Nat} {before : Asked E} {call : Option (Asked E)} (inv : state.Inv)
    (there : state.calls serial = some before) (away : state.key ≠ some before.key)
    (same : ∀ held, call = some held → held.key = before.key) : (state.setCall serial call).Inv := by
  have back {other : Nat} {held : Asked E} (now : (state.setCall serial call).calls other = some held)
      (own : state.key = some held.key) : state.calls other = some held := by
    rcases calls_setCall now with ⟨_, replaced⟩ | ⟨_, kept⟩
    · rw [same held replaced] at own
      exact absurd own away
    · exact kept
  refine {
    idle := fun idle other held now own => inv.idle idle other held (back now own) own
    one := fun one two held held' now now' own own' => inv.one one two held held' (back now own) (back now' own') own own'
    numbered := fun other held now => ?_
    below := inv.below
    ordered := inv.ordered
    awaited := fun other held now own late => inv.awaited other held (back now own) own late
    quiet := fun all => inv.quiet fun other held there' own => ?_
    told := inv.told }
  · rcases calls_setCall now with ⟨rfl, _⟩ | ⟨_, kept⟩
    · exact inv.numbered other before there
    · exact inv.numbered other held kept
  · by_cases here : other = serial
    · rw [here, there] at there'
      rw [← Option.some.inj there'] at own
      exact absurd own away
    · refine all other held ?_ own
      exact (Function.update_of_ne here _ _).trans there'

/-- The wait for an answered change ends. -/
theorem State.Inv.finishing {serial : Nat} {key : κ} {change : E.Change} (inv : state.Inv)
    (answered : state.calls serial = some { key, change, answered := true }) (opened : state.key = some key) :
    ((state.finishing change).setCall serial none).Inv := by
  have gone {other : Nat} {held : Asked E} (now : ((state.finishing change).setCall serial none).calls other = some held)
      (own : state.key = some held.key) : False := by
    rcases calls_setCall now with ⟨_, replaced⟩ | ⟨apart, kept⟩
    · nomatch replaced
    · exact apart (inv.one other serial held _ kept answered own opened)
  refine {
    idle := fun _ other held now own => gone now own
    one := fun one two held held' now _ own _ => (gone now own).elim
    numbered := fun other held now => ?_
    below := inv.below
    ordered := inv.ordered
    awaited := fun other held now own _ => (gone now own).elim
    quiet := fun _ => inv.quiet fun other held there own => ?_
    told := inv.told }
  · rcases calls_setCall now with ⟨_, replaced⟩ | ⟨_, kept⟩
    · nomatch replaced
    · exact inv.numbered other held kept
  · obtain rfl := inv.one other serial held _ there answered own opened
    rw [answered] at there
    rw [← Option.some.inj there]

theorem State.Inv.adopting (inv : state.Inv) (taken : E.Taken) : (state.adopting taken).Inv := by
  have heard : (state.adopting taken).heard = state.heard := by
    simp only [State.heard, State.adopting, List.filterMap_append]
    exact List.append_nil _
  refine {
    idle := inv.idle
    one := inv.one
    numbered := inv.numbered
    below := inv.below
    ordered := inv.ordered
    awaited := fun serial call there own late => by rw [heard]; exact inv.awaited serial call there own late
    quiet := fun all => by rw [heard]; exact inv.quiet all
    told := fun key opened => ?_ }
  obtain ⟨output, given, shown⟩ := inv.told key opened
  refine ⟨output, given, ?_⟩
  change E.takes taken state.shown = (state.effects ++ [Effect.taken taken]).foldl _ _
  rw [List.foldl_append, ← shown]
  rfl

variable [DecidableEq κ]

theorem State.Inv.next {event : Event E} (inv : state.Inv) (settled : Settled state event)
    (came : next state event = some after) : after.Inv := by
  cases event with
  | «show» key output =>
    simp only [Editor.next] at came
    split at came
    · rename_i accepted
      obtain rfl := Option.some.inj came
      split
      · exact inv.rested _
      · rename_i other
        exact (inv.opening (settled accepted other)).rested _
    · obtain rfl := Option.some.inj came
      exact inv.rested _
  | press press =>
    simp only [Editor.next] at came
    have pressed := inv.rested (E.presses press state.shown state.rest).1
    split at came
    · rename_i key change idle opened wanted
      obtain rfl := Option.some.inj came
      exact pressed.begin opened idle
    · obtain rfl := Option.some.inj came
      exact pressed
  | answer serial reply =>
    simp only [Editor.next] at came
    split at came
    · rename_i key change awaited
      obtain rfl := Option.some.inj came
      split
      · rename_i opened
        exact inv.hear awaited opened
      · rename_i away
        refine inv.elsewhere awaited away fun held same => ?_
        rw [← Option.some.inj same]
    · nomatch came
  | finish serial =>
    simp only [Editor.next] at came
    split at came
    · rename_i key change answered
      obtain rfl := Option.some.inj came
      split
      · rename_i opened
        exact inv.finishing answered opened
      · rename_i away
        exact inv.elsewhere answered away fun _ same => (nomatch same)
    · nomatch came
  | adopt key taken =>
    simp only [Editor.next] at came
    split at came
    · obtain rfl := Option.some.inj came
      exact inv.adopting taken
    · obtain rfl := Option.some.inj came
      exact inv
  | touch touch =>
    obtain rfl := Option.some.inj came
    exact inv.rested _

theorem State.Inv.reached {shown : E.Shown} {rest : E.Rest} (reach : Reach step Settled { shown, rest } state) :
    state.Inv := by
  induction reach with
  | start => exact .initially shown rest
  | @next before _ event _ settled committed ih =>
    unfold step at committed
    cases came : Editor.next before event with
    | none => rw [came] at committed; nomatch committed
    | some after =>
      rw [came] at committed
      obtain rfl := Except.ok.inj committed
      exact ih.next settled came

/-- Brought back to a key with a change of it under way, the editor is not busy, and one is awaited. -/
theorem State.Fresh.settled {event : Event E} (fresh : after.Fresh) (came : next state event = some after) :
    Settled state event := by
  cases event with
  | «show» key output =>
    intro accepted other serial call there same
    simp only [Editor.next, if_pos accepted, if_neg other] at came
    obtain rfl := Option.some.inj came
    exact fresh.idle rfl serial call there (congrArg some same.symm)
  | press press => trivial
  | answer serial reply => trivial
  | finish serial => trivial
  | adopt key taken => trivial
  | touch touch => trivial

/-- A run of settled steps reports what it should, and a step keeps it so exactly when it is settled. -/
theorem Reach.fresh {shown : E.Shown} {rest : E.Rest} (reach : Reach step Settled { shown, rest } state) :
    state.Fresh ∧ ∀ event after, step state event = .ok after → (after.Fresh ↔ Settled state event) := by
  refine ⟨(State.Inv.reached reach).fresh, fun event after committed => ⟨fun fresh => ?_, fun settled => ?_⟩⟩
  · unfold step at committed
    cases came : Editor.next state event with
    | none => rw [came] at committed; nomatch committed
    | some reached =>
      rw [came] at committed
      obtain rfl := Except.ok.inj committed
      exact fresh.settled came
  · exact (State.Inv.reached (.next reach settled committed)).fresh

end Editor
end LetterIRL.Lib
