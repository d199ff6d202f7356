import LetterIRL.Lib.Runs
import Mathlib.Data.List.Sort

namespace LetterIRL.Maintenance.Migrations

open Lib

/-! `migrate`: runs of the migrations of several images against one database, each in one transaction under one lock. -/

/-- UTF-16 code units. -/
abbrev Text := List Nat

/-- `.sql` -/
def SQL : Text := [46, 115, 113, 108]

structure MigrationFile (Sql : Type) where
  name : Text
  sql : Sql

/-- The migrations directory of one image. -/
structure Directory (Sql : Type) where
  entries : List (MigrationFile Sql)
  distinct : (entries.map (·.name)).Nodup

/-- The files in the order they are applied in. -/
def Directory.files {Sql : Type} (directory : Directory Sql) : List (MigrationFile Sql) :=
  (directory.entries.filter fun file => SQL.isSuffixOf file.name).insertionSort fun file other => file.name ≤ other.name

inductive Stage (Sql : Type)
  /-- Begun, at `pg_advisory_xact_lock`. -/
  | waits
  | holds
  /-- Past the read of `migrations`: the files to come, and those applied in the transaction. -/
  | applies (executed : List Text) (todo applied : List (MigrationFile Sql))
  | committed
  | failed (lockTimeout : Bool)

/-- The transaction holds the lock. -/
def Stage.locks {Sql : Type} : Stage Sql → Bool
  | holds => true
  | applies _ _ _ => true
  | _ => false

structure MigrationRun (Sql : Type) where
  directory : Directory Sql
  stage : Stage Sql := .waits

structure World (Sql : Type) where
  /-- Who holds the advisory lock. -/
  lock : Option Nat := none
  /-- The names in `migrations`; none before that table is there. -/
  ledger : List Text := []
  /-- The files whose effects are committed, in order. -/
  history : List (MigrationFile Sql) := []
  runs : Nat → Option (MigrationRun Sql) := fun _ => none

inductive Event (Sql : Type)
  | begins (run : Nat) (directory : Directory Sql)
  | acquires (run : Nat)
  | timesOut (run : Nat)
  /-- `SELECT name FROM migrations`, and the directory. -/
  | reads (run : Nat)
  /-- The next file. -/
  | applies (run : Nat)
  /-- `COMMIT`; its answer may be lost. -/
  | commits (run : Nat) (heard : Bool)
  /-- An error, or a lost connection. -/
  | fails (run : Nat)

inductive Refused
  | impossible

/-- `INSERT INTO migrations … ON CONFLICT (name) DO NOTHING` -/
def insertName (ledger : List Text) (name : Text) : List Text := if ledger.contains name then ledger else ledger ++ [name]

section
variable {Sql : Type}

def World.setRun (w : World Sql) (n : Nat) (run : MigrationRun Sql) : World Sql :=
  { w with runs := fun other => if other = n then some run else w.runs other }

/-- `ROLLBACK`, by the client or by the server. -/
def World.rollBack (w : World Sql) (n : Nat) (directory : Directory Sql) : World Sql :=
  { w.setRun n ⟨directory, .failed false⟩ with lock := none }

def World.commit (w : World Sql) (n : Nat) (run : MigrationRun Sql) (applied : List (MigrationFile Sql)) : World Sql :=
  { w.setRun n run with
    lock := none
    ledger := applied.foldl (fun ledger file => insertName ledger file.name) w.ledger
    history := w.history ++ applied }

/-- Whether a file's statements succeed after what was applied before them. A file ends no transaction. -/
abbrev Succeeds (Sql : Type) := List (MigrationFile Sql) → MigrationFile Sql → Bool

def applyNext (succeeds : Succeeds Sql) (w : World Sql) (n : Nat) (directory : Directory Sql) (executed : List Text)
    (file : MigrationFile Sql) (todo applied : List (MigrationFile Sql)) : World Sql :=
  if executed.contains file.name then w.setRun n ⟨directory, .applies executed todo applied⟩
  else if succeeds (w.history ++ applied) file then w.setRun n ⟨directory, .applies executed todo (applied ++ [file])⟩
  else w.rollBack n directory

def step (succeeds : Succeeds Sql) (w : World Sql) : Event Sql → Except Refused (World Sql)
  | .begins n directory =>
    match w.runs n with
    | none => .ok (w.setRun n ⟨directory, .waits⟩)
    | some _ => .error .impossible
  | .acquires n =>
    match w.runs n, w.lock with
    | some ⟨directory, .waits⟩, none => .ok { w.setRun n ⟨directory, .holds⟩ with lock := some n }
    | _, _ => .error .impossible
  | .timesOut n =>
    match w.runs n with
    | some ⟨directory, .waits⟩ => .ok (w.setRun n ⟨directory, .failed true⟩)
    | _ => .error .impossible
  | .reads n =>
    match w.runs n with
    | some ⟨directory, .holds⟩ => .ok (w.setRun n ⟨directory, .applies w.ledger directory.files []⟩)
    | _ => .error .impossible
  | .applies n =>
    match w.runs n with
    | some ⟨directory, .applies executed (file :: todo) applied⟩ => .ok (applyNext succeeds w n directory executed file todo applied)
    | _ => .error .impossible
  | .commits n heard =>
    match w.runs n with
    | some ⟨directory, .applies _ [] applied⟩ =>
      .ok (w.commit n ⟨directory, if heard then .committed else .failed false⟩ applied)
    | _ => .error .impossible
  | .fails n =>
    match w.runs n with
    | some ⟨directory, .waits⟩ => .ok (w.setRun n ⟨directory, .failed false⟩)
    | some ⟨directory, .holds⟩ => .ok (w.rollBack n directory)
    | some ⟨directory, .applies _ _ _⟩ => .ok (w.rollBack n directory)
    | _ => .error .impossible

/-! What one step can do. -/

inductive Move (succeeds : Succeeds Sql) (w : World Sql) : Event Sql → World Sql → Prop
  | begins {n : Nat} {directory : Directory Sql} (fresh : w.runs n = none) :
      Move succeeds w (.begins n directory) (w.setRun n ⟨directory, .waits⟩)
  | acquires {event : Event Sql} {n : Nat} {directory : Directory Sql} (was : w.runs n = some ⟨directory, .waits⟩)
      (free : w.lock = none) :
      Move succeeds w event { w.setRun n ⟨directory, .holds⟩ with lock := some n }
  | givesUp {event : Event Sql} {n : Nat} {directory : Directory Sql} (lockTimeout : Bool) (was : w.runs n = some ⟨directory, .waits⟩) :
      Move succeeds w event (w.setRun n ⟨directory, .failed lockTimeout⟩)
  | reads {event : Event Sql} {n : Nat} {directory : Directory Sql} (was : w.runs n = some ⟨directory, .holds⟩) :
      Move succeeds w event (w.setRun n ⟨directory, .applies w.ledger directory.files []⟩)
  | skips {event : Event Sql} {n : Nat} {directory : Directory Sql} {executed : List Text} {file : MigrationFile Sql}
      {todo applied : List (MigrationFile Sql)} (was : w.runs n = some ⟨directory, .applies executed (file :: todo) applied⟩)
      (there : executed.contains file.name = true) :
      Move succeeds w event (w.setRun n ⟨directory, .applies executed todo applied⟩)
  | applies {event : Event Sql} {n : Nat} {directory : Directory Sql} {executed : List Text} {file : MigrationFile Sql}
      {todo applied : List (MigrationFile Sql)} (was : w.runs n = some ⟨directory, .applies executed (file :: todo) applied⟩)
      (new : ¬ executed.contains file.name = true) :
      Move succeeds w event (w.setRun n ⟨directory, .applies executed todo (applied ++ [file])⟩)
  | commits {event : Event Sql} {n : Nat} {directory : Directory Sql} {executed : List Text} {applied : List (MigrationFile Sql)}
      {stage : Stage Sql} (was : w.runs n = some ⟨directory, .applies executed [] applied⟩)
      (ends : stage = .committed ∨ stage = .failed false) :
      Move succeeds w event (w.commit n ⟨directory, stage⟩ applied)
  | rollsBack {event : Event Sql} {n : Nat} {run : MigrationRun Sql} (was : w.runs n = some run) (locks : run.stage.locks = true) :
      Move succeeds w event (w.rollBack n run.directory)

theorem step_moves {succeeds : Succeeds Sql} {w w' : World Sql} {event : Event Sql} (committed : step succeeds w event = .ok w') :
    Move succeeds w event w' := by
  cases event with
  | begins n directory =>
    dsimp only [step] at committed
    split at committed
    · cases committed
      exact .begins ‹_›
    · cases committed
  | acquires n =>
    dsimp only [step] at committed
    split at committed
    · cases committed
      exact .acquires ‹_› ‹_›
    · cases committed
  | timesOut n =>
    dsimp only [step] at committed
    split at committed
    · cases committed
      exact .givesUp true ‹_›
    · cases committed
  | reads n =>
    dsimp only [step] at committed
    split at committed
    · cases committed
      exact .reads ‹_›
    · cases committed
  | applies n =>
    dsimp only [step] at committed
    split at committed
    · rename_i was
      cases committed
      unfold applyNext
      split_ifs with there succeeded
      · exact .skips was there
      · exact .applies was there
      · exact .rollsBack was rfl
    · cases committed
  | commits n heard =>
    dsimp only [step] at committed
    split at committed
    · rename_i was
      cases committed
      refine .commits was ?_
      cases heard
      · exact .inr rfl
      · exact .inl rfl
    · cases committed
  | fails n =>
    dsimp only [step] at committed
    split at committed
    · cases committed
      exact .givesUp false ‹_›
    · rename_i was
      cases committed
      exact .rollsBack was rfl
    · rename_i was
      cases committed
      exact .rollsBack was rfl
    · cases committed

end

/-! What a run keeps: the lock's holder is alone past it, and the names in `migrations` are those of what was applied. -/

section
variable {Sql : Type} {succeeds : Succeeds Sql} {w w' : World Sql} {n other : Nat} {run : MigrationRun Sql} {directory : Directory Sql}
  {applied files history master : List (MigrationFile Sql)}

theorem setRun_runs : (w.setRun n run).runs other = if other = n then some run else w.runs other := rfl

theorem Directory.files_distinct (directory : Directory Sql) : (directory.files.map (·.name)).Nodup := by
  have sorted : directory.files.Perm (directory.entries.filter fun file => SQL.isSuffixOf file.name) := List.perm_insertionSort _ _
  exact (sorted.map _).nodup_iff.mpr (directory.distinct.sublist (List.filter_sublist.map _))

theorem foldl_insertName {ledger : List Text} (distinct : (ledger ++ applied.map (·.name)).Nodup) :
    applied.foldl (fun ledger file => insertName ledger file.name) ledger = ledger ++ applied.map (·.name) := by
  induction applied generalizing ledger with
  | nil => rw [List.foldl_nil, List.map_nil, List.append_nil]
  | cons file applied ih =>
    have new : ledger.contains file.name = false := by
      rw [Bool.eq_false_iff]
      intro there
      exact (List.nodup_append.mp distinct).2.2 _ (List.contains_iff_mem.mp there) _ List.mem_cons_self rfl
    rw [List.map_cons, List.append_cons] at distinct ⊢
    rw [List.foldl_cons, insertName, if_neg (by rw [new]; exact Bool.false_ne_true)]
    exact ih distinct

/-- The files of a list that a ledger lacks. -/
def lacking (ledger : List Text) (files : List (MigrationFile Sql)) : List (MigrationFile Sql) :=
  files.filter fun file => !ledger.contains file.name

theorem lacking_distinct {ledger : List Text} (ledgerDistinct : ledger.Nodup) (distinct : (files.map (·.name)).Nodup) :
    (ledger ++ (lacking ledger files).map (·.name)).Nodup := by
  refine List.nodup_append.mpr ⟨ledgerDistinct, distinct.sublist (List.filter_sublist.map _), ?_⟩
  intro name there name' lacks same
  obtain ⟨file, member, rfl⟩ := List.mem_map.mp lacks
  obtain ⟨-, absent⟩ := List.mem_filter.mp member
  rw [← same, List.contains_iff_mem.mpr there] at absent
  cases absent

/-- What is known of one run. -/
structure MigrationRun.Sound (w : World Sql) (n : Nat) (run : MigrationRun Sql) : Prop where
  lock : run.stage.locks = true ↔ w.lock = some n
  applying : ∀ executed todo applied, run.stage = .applies executed todo applied → executed = w.ledger ∧
    ∃ before, run.directory.files = before ++ todo ∧ applied = lacking executed before
  committed : run.stage = .committed → ∀ file ∈ run.directory.files, file.name ∈ w.ledger

theorem MigrationRun.Sound.idle (locks : run.stage.locks = false) (ended : run.stage ≠ .committed) (free : w.lock ≠ some n) :
    run.Sound w n := by
  refine ⟨⟨fun locks' => ?_, fun held => absurd held free⟩, fun executed todo applied stage => ?_, fun stage => absurd stage ended⟩
  · rw [locks] at locks'
    cases locks'
  · rw [stage] at locks
    cases locks

structure World.Inv (w : World Sql) : Prop where
  ledger : w.ledger = w.history.map (·.name)
  distinct : w.ledger.Nodup
  known : ∀ file ∈ w.history, ∃ n run, w.runs n = some run ∧ file ∈ run.directory.files
  held : ∀ n, w.lock = some n → ∃ run, w.runs n = some run
  runs : ∀ n run, w.runs n = some run → run.Sound w n

/-- A run whose lock and ledger a step leaves alone; the ledger may grow once the run is over. -/
theorem MigrationRun.Sound.kept (sound : run.Sound w n) (lock : w'.lock = some n ↔ w.lock = some n)
    (ledger : w.lock = some n → w'.ledger = w.ledger) (grown : ∀ name ∈ w.ledger, name ∈ w'.ledger) : run.Sound w' n := by
  refine ⟨sound.lock.trans lock.symm, fun executed todo applied stage => ?_, fun stage file member => ?_⟩
  · obtain ⟨same, rest⟩ := sound.applying executed todo applied stage
    have held : w.lock = some n := sound.lock.mp (by rw [stage]; rfl)
    exact ⟨same.trans (ledger held).symm, rest⟩
  · exact grown _ (sound.committed stage file member)

/-- A step of one run that commits nothing. -/
theorem World.Inv.setRun (inv : w.Inv) (run : MigrationRun Sql)
    (before : w.runs n = none ∨ ∃ old, w.runs n = some old ∧ old.directory = run.directory)
    (history : w'.history = w.history) (ledger : w'.ledger = w.ledger) (runs : w'.runs = (w.setRun n run).runs)
    (lock : ∀ other, other ≠ n → (w'.lock = some other ↔ w.lock = some other)) (sound : run.Sound w' n) : w'.Inv := by
  refine ⟨?_, ledger ▸ inv.distinct, fun file member => ?_, fun other held => ?_, fun other run' at_ => ?_⟩
  · rw [ledger, history]
    exact inv.ledger
  · rw [history] at member
    obtain ⟨m, run', at_, there⟩ := inv.known file member
    by_cases same : m = n
    · subst same
      rcases before with none | ⟨old, was, kept⟩
      · rw [none] at at_
        cases at_
      · rw [was] at at_
        cases at_
        refine ⟨m, run, ?_, kept ▸ there⟩
        rw [runs, setRun_runs, if_pos rfl]
    · refine ⟨m, run', ?_, there⟩
      rw [runs, setRun_runs, if_neg same]
      exact at_
  · rw [runs, setRun_runs]
    split
    · exact ⟨run, rfl⟩
    · rename_i differ
      exact inv.held other ((lock other differ).mp held)
  · rw [runs, setRun_runs] at at_
    split at at_
    · rename_i same
      cases at_
      exact same ▸ sound
    · rename_i differ
      exact (inv.runs other run' at_).kept (lock other differ) (fun _ => ledger) fun name there => ledger ▸ there

theorem World.Inv.holder (inv : w.Inv) (was : w.runs n = some run) (locks : run.stage.locks = true) : w.lock = some n :=
  (inv.runs n run was).lock.mp locks

theorem World.Inv.not_holder (inv : w.Inv) (was : w.runs n = some run) (locks : run.stage.locks = false) : w.lock ≠ some n := by
  intro held
  rw [(inv.runs n run was).lock.mpr held] at locks
  cases locks

/-- A run among its files, under the lock. -/
theorem MigrationRun.Sound.amid {todo before : List (MigrationFile Sql)} (held : w.lock = some n)
    (split : directory.files = before ++ todo) :
    MigrationRun.Sound w n ⟨directory, .applies w.ledger todo (lacking w.ledger before)⟩ := by
  refine ⟨⟨fun _ => held, fun _ => rfl⟩, fun _ _ _ stage => ?_, fun stage => ?_⟩
  · cases stage
    exact ⟨rfl, before, split, rfl⟩
  · cases stage

/-- A step of a run that leaves the lock alone. -/
theorem World.Inv.goesOn (inv : w.Inv) {old stage : Stage Sql} (was : w.runs n = some ⟨directory, old⟩)
    (sound : MigrationRun.Sound (w.setRun n ⟨directory, stage⟩) n ⟨directory, stage⟩) : (w.setRun n ⟨directory, stage⟩).Inv :=
  inv.setRun ⟨directory, stage⟩ (.inr ⟨_, was, rfl⟩) rfl rfl rfl (fun _ _ => Iff.rfl) sound

/-- What a run that has been through its files has applied. -/
theorem World.Inv.pending (inv : w.Inv) {executed : List Text} (was : w.runs n = some ⟨directory, .applies executed [] applied⟩) :
    applied = lacking w.ledger directory.files ∧ (w.ledger ++ applied.map (·.name)).Nodup := by
  obtain ⟨rfl, before, split, rfl⟩ := (inv.runs n _ was).applying _ _ _ rfl
  rw [List.append_nil] at split
  dsimp only at split
  rw [← split]
  exact ⟨rfl, lacking_distinct inv.distinct directory.files_distinct⟩

theorem commit_inv (inv : w.Inv) {executed : List Text} {stage : Stage Sql}
    (was : w.runs n = some ⟨directory, .applies executed [] applied⟩) (ends : stage = .committed ∨ stage = .failed false) :
    (w.commit n ⟨directory, stage⟩ applied).Inv := by
  obtain ⟨pending, distinct⟩ := inv.pending was
  have held := inv.holder was rfl
  have ledger : (w.commit n ⟨directory, stage⟩ applied).ledger = w.ledger ++ applied.map (·.name) := foldl_insertName distinct
  refine ⟨?_, ledger ▸ distinct, fun file member => ?_, fun _ held => (by cases held), fun other run' at_ => ?_⟩
  · rw [ledger, inv.ledger]
    exact (List.map_append ..).symm
  · rcases List.mem_append.mp member with old | new
    · obtain ⟨m, run', at_, there⟩ := inv.known file old
      by_cases same : m = n
      · subst same
        rw [was] at at_
        cases at_
        exact ⟨m, ⟨directory, stage⟩, if_pos rfl, there⟩
      · exact ⟨m, run', (if_neg same).trans at_, there⟩
    · rw [pending] at new
      exact ⟨n, ⟨directory, stage⟩, if_pos rfl, (List.mem_filter.mp new).1⟩
  · replace at_ : (w.setRun n ⟨directory, stage⟩).runs other = some run' := at_
    rw [setRun_runs] at at_
    split at at_
    · rename_i same
      cases at_
      have free : (w.commit n ⟨directory, stage⟩ applied).lock ≠ some other := by
        intro held
        cases held
      refine ⟨⟨fun locks => ?_, fun held => absurd held free⟩, fun _ _ _ at_ => ?_, fun _ file member => ?_⟩
      · rcases ends with rfl | rfl <;> cases locks
      · rcases ends with rfl | rfl <;> cases at_
      · rw [ledger, List.mem_append]
        by_cases there : file.name ∈ w.ledger
        · exact .inl there
        · refine .inr (List.mem_map_of_mem ?_)
          rw [pending]
          refine List.mem_filter.mpr ⟨member, ?_⟩
          rw [Bool.not_eq_true', Bool.eq_false_iff]
          exact fun contains => there (List.contains_iff_mem.mp contains)
    · rename_i differ
      have apart : w.lock ≠ some other := by
        rw [held]
        intro same
        exact differ (Option.some.inj same).symm
      refine (inv.runs other run' at_).kept ⟨fun none => ?_, fun same => absurd same apart⟩ (fun same => absurd same apart)
        fun name there => ?_
      · cases none
      · rw [ledger]
        exact List.mem_append_left _ there

theorem Move.inv {event : Event Sql} (move : Move succeeds w event w') (inv : w.Inv) : w'.Inv := by
  cases move with
  | @begins n directory fresh =>
    refine inv.setRun ⟨directory, .waits⟩ (.inl fresh) rfl rfl rfl (fun _ _ => Iff.rfl) (.idle rfl (by rintro ⟨⟩) fun held => ?_)
    obtain ⟨run, at_⟩ := inv.held n held
    rw [fresh] at at_
    cases at_
  | @acquires _ n directory was free =>
    refine inv.setRun ⟨directory, .holds⟩ (.inr ⟨_, was, rfl⟩) rfl rfl rfl
      (fun other differ => ⟨fun same => ?_, fun held => ?_⟩)
      ⟨⟨fun _ => rfl, fun _ => rfl⟩, fun _ _ _ stage => ?_, fun stage => ?_⟩
    · exact absurd (Option.some.inj same).symm differ
    · rw [free] at held
      cases held
    · cases stage
    · cases stage
  | givesUp lockTimeout was => exact inv.goesOn was (.idle rfl (by rintro ⟨⟩) (inv.not_holder was rfl))
  | @reads _ n directory was =>
    have held := inv.holder was rfl
    have none : lacking w.ledger ([] : List (MigrationFile Sql)) = [] := rfl
    rw [← none]
    exact inv.goesOn was (.amid held (List.nil_append _).symm)
  | @skips _ n directory executed file todo applied was there =>
    have held := inv.holder was rfl
    obtain ⟨rfl, before, split, rfl⟩ := (inv.runs n _ was).applying _ _ _ rfl
    have same : lacking w.ledger (before ++ [file]) = lacking w.ledger before := by
      rw [lacking, lacking, List.filter_append, List.filter_singleton, there]
      exact List.append_nil _
    rw [← same]
    exact inv.goesOn was (.amid held (split.trans (List.append_cons ..)))
  | @applies _ n directory executed file todo applied was new =>
    have held := inv.holder was rfl
    obtain ⟨rfl, before, split, rfl⟩ := (inv.runs n _ was).applying _ _ _ rfl
    have grown : lacking w.ledger (before ++ [file]) = lacking w.ledger before ++ [file] := by
      rw [lacking, lacking, List.filter_append, List.filter_singleton, Bool.eq_false_iff.mpr new]
      rfl
    rw [← grown]
    exact inv.goesOn was (.amid held (split.trans (List.append_cons ..)))
  | commits was ends => exact commit_inv inv was ends
  | @rollsBack _ n run was locks =>
    have held := inv.holder was locks
    refine inv.setRun ⟨run.directory, .failed false⟩ (.inr ⟨_, was, rfl⟩) rfl rfl rfl
      (fun other differ => ⟨fun none => ?_, fun same => ?_⟩)
      (.idle rfl (by rintro ⟨⟩) (by rintro ⟨⟩))
    · cases none
    · rw [held] at same
      exact absurd (Option.some.inj same).symm differ

theorem inv_start : (World.Inv ({} : World Sql)) := by
  refine ⟨rfl, List.nodup_nil, fun file member => ?_, fun n held => ?_, fun n run at_ => ?_⟩
  · cases member
  · cases held
  · cases at_

/-- Whatever images migrate one database, and however their runs wait, overlap, fail and lose their answers: a migration is applied
once, `migrations` names what was applied, each of it was in some image, and a run that ends well leaves nothing of its image out. -/
theorem applied_once {allowed : World Sql → Event Sql → Prop} (reach : Reach (step succeeds) allowed {} w) :
    (w.history.map (·.name)).Nodup ∧ w.ledger = w.history.map (·.name) ∧
      (∀ file ∈ w.history, ∃ n run, w.runs n = some run ∧ file ∈ run.directory.files) ∧
        ∀ n run, w.runs n = some run → run.stage = .committed → ∀ file ∈ run.directory.files, file.name ∈ w.ledger := by
  have inv : w.Inv := reach.invariant inv_start fun _ _ _ inv _ committed => (step_moves committed).inv inv
  exact ⟨inv.ledger ▸ inv.distinct, inv.ledger, inv.known, fun n run at_ => (inv.runs n run at_).committed⟩


/-- The images are cut from one line of releases: each holds the first of its migrations. -/
def OneLine (master : List (MigrationFile Sql)) : World Sql → Event Sql → Prop
  | _, .begins _ directory => directory.files <+: master
  | _, _ => True

structure World.InLine (master : List (MigrationFile Sql)) (w : World Sql) : Prop where
  images : ∀ n run, w.runs n = some run → run.directory.files <+: master
  history : w.history <+: master

theorem World.InLine.setRun (line : w.InLine master) {stage : Stage Sql} (runs : w'.runs = (w.setRun n ⟨directory, stage⟩).runs)
    (image : directory.files <+: master) (history : w'.history <+: master) : w'.InLine master := by
  refine ⟨fun other run' at_ => ?_, history⟩
  rw [runs, setRun_runs] at at_
  split at at_
  · cases at_
    exact image
  · exact line.images other run' at_

theorem lacking_own : lacking (history.map (·.name)) history = [] := by
  refine List.filter_eq_nil_iff.mpr fun file member lacks => ?_
  rw [List.contains_iff_mem.mpr (List.mem_map_of_mem member)] at lacks
  cases lacks

theorem lacking_rest (distinct : ((history ++ files).map (·.name)).Nodup) : lacking (history.map (·.name)) files = files := by
  refine List.filter_eq_self.mpr fun file member => ?_
  rw [List.map_append] at distinct
  rw [Bool.not_eq_true', Bool.eq_false_iff]
  intro there
  exact (List.nodup_append.mp distinct).2.2 _ (List.contains_iff_mem.mp there) _ (List.mem_map_of_mem member) rfl

theorem lacking_append {ledger : List Text} : lacking ledger (history ++ files) = lacking ledger history ++ lacking ledger files :=
  List.filter_append ..

/-- A longer image goes on where the history ends; a shorter one adds nothing. -/
theorem append_lacking (old : history <+: master) (image : files <+: master) (distinct : (files.map (·.name)).Nodup) :
    history ++ lacking (history.map (·.name)) files <+: master := by
  obtain ⟨rest, rfl⟩ | ⟨rest, rfl⟩ : history <+: files ∨ files <+: history := List.prefix_or_prefix_of_prefix old image
  · rw [lacking_append, lacking_own, List.nil_append, lacking_rest distinct]
    exact image
  · have none : lacking ((files ++ rest).map (·.name)) files = [] :=
      (List.append_eq_nil_iff.mp (lacking_append.symm.trans lacking_own)).1
    rw [none, List.append_nil]
    exact old

theorem Move.inLine {event : Event Sql} (move : Move succeeds w event w') (cut : OneLine master w event) (inv : w.Inv)
    (line : w.InLine master) : w'.InLine master := by
  cases move with
  | begins fresh => exact line.setRun rfl cut line.history
  | acquires was free => exact line.setRun rfl (line.images _ _ was) line.history
  | givesUp lockTimeout was => exact line.setRun rfl (line.images _ _ was) line.history
  | reads was => exact line.setRun rfl (line.images _ _ was) line.history
  | skips was there => exact line.setRun rfl (line.images _ _ was) line.history
  | applies was new => exact line.setRun rfl (line.images _ _ was) line.history
  | @commits _ n directory executed applied stage was ends =>
    have image : directory.files <+: master := line.images n _ was
    refine line.setRun rfl image ?_
    have grown := append_lacking line.history image directory.files_distinct
    rw [← inv.ledger, ← (inv.pending was).1] at grown
    exact grown
  | rollsBack was locks => exact line.setRun rfl (line.images _ _ was) line.history

theorem prefix_of_names (old : history <+: master) (image : files <+: master) (distinct : (files.map (·.name)).Nodup)
    (there : ∀ file ∈ files, file.name ∈ history.map (·.name)) : files <+: history := by
  obtain within | ⟨rest, rfl⟩ : files <+: history ∨ history <+: files := List.prefix_or_prefix_of_prefix image old
  · exact within
  · have none : rest = [] := by
      refine List.eq_nil_iff_forall_not_mem.mpr fun file member => ?_
      rw [List.map_append] at distinct
      exact (List.nodup_append.mp distinct).2.2 _ (there file (List.mem_append_right _ member)) _ (List.mem_map_of_mem member) rfl
    rw [none, List.append_nil]

/-- Old and new images of one line of releases may migrate a database in any order, at once, and fail anywhere: what was applied is always
the first migrations of the line, in its order, and a run that ends well has brought the database up to its image. -/
theorem applied_in_order (reach : Reach (step succeeds) (OneLine master) {} w) :
    w.history <+: master ∧ ∀ n run, w.runs n = some run → run.stage = .committed → run.directory.files <+: w.history := by
  have start : World.Inv ({} : World Sql) ∧ World.InLine master {} := by
    refine ⟨inv_start, fun n run at_ => ?_, List.nil_prefix⟩
    cases at_
  have invs : w.Inv ∧ w.InLine master := by
    refine reach.invariant (I := fun before => before.Inv ∧ before.InLine master) start fun _ _ _ invs cut committed => ?_
    have move := step_moves committed
    exact ⟨move.inv invs.1, move.inLine cut invs.1 invs.2⟩
  obtain ⟨inv, line⟩ := invs
  refine ⟨line.history, fun n run at_ stage => ?_⟩
  refine prefix_of_names line.history (line.images n run at_) run.directory.files_distinct ?_
  rw [← inv.ledger]
  exact (inv.runs n run at_).committed stage

end

/-! An old image and the one after it migrate at once; the old one's `COMMIT` is not answered. -/

/-- `1.sql` -/
def firstFile : MigrationFile Unit := ⟨[49, 46, 115, 113, 108], ()⟩

/-- `2.sql` -/
def secondFile : MigrationFile Unit := ⟨[50, 46, 115, 113, 108], ()⟩

def oldImage : Directory Unit := ⟨[firstFile], by decide⟩

def newImage : Directory Unit := ⟨[secondFile, firstFile], by decide⟩

def releases : List (MigrationFile Unit) := [firstFile, secondFile]

def deployEvents : List (Event Unit) :=
  [.begins 0 oldImage, .begins 1 newImage, .acquires 0, .reads 0, .applies 0, .commits 0 false, .acquires 1, .reads 1, .applies 1,
    .applies 1, .commits 1 true]

def everySucceeds : Succeeds Unit := fun _ _ => true

def deployed : World Unit :=
  match runAll (step everySucceeds) {} deployEvents with
  | .ok after => after
  | .error _ => {}

theorem deployed_reach : Reach (step everySucceeds) (OneLine releases) {} deployed := by
  have ran : runAll (step everySucceeds) {} deployEvents = .ok deployed := rfl
  refine reach_of_runAll ran fun s => ?_
  simp only [deployEvents, List.forall_mem_cons, OneLine]
  exact ⟨⟨[secondFile], rfl⟩, ⟨[], rfl⟩, trivial, trivial, trivial, trivial, trivial, trivial, trivial, trivial,
    trivial, List.forall_mem_nil _⟩

theorem applied_once_deployed : deployed.ledger = [firstFile.name, secondFile.name] ∧ (deployed.history.map (·.name)).Nodup :=
  ⟨rfl, (applied_once deployed_reach).1⟩

theorem applied_in_order_deployed : newImage.files <+: deployed.history :=
  (applied_in_order deployed_reach).2 1 ⟨newImage, .committed⟩ rfl rfl
end LetterIRL.Maintenance.Migrations
