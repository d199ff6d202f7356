import LetterIRL.Queue.Operations

namespace LetterIRL.Queue
open Lib Commerce

variable {Payload Fields Work : Type} {s s' : Store Payload Fields Work} {event : Event Payload Fields Work}

/-! What a step can do to the operations and the runs that hold them. -/

theorem firstOf_mem {operations : List (Operation Payload Fields)} {first : Operation Payload Fields}
    (found : firstOf operations = some first) : first ∈ operations := by
  induction operations generalizing first with
  | nil => cases found
  | cons operation rest ih =>
    unfold firstOf at found
    split at found
    · cases found
      exact List.mem_cons_self
    · rename_i other here
      split at found
      · cases found
        exact List.mem_cons_of_mem _ (ih here)
      · cases found
        exact List.mem_cons_self

/-- Only a pending row no transaction holds is claimed. -/
theorem nextOperation_spec {kind : OperationKind} {row : Operation Payload Fields}
    (found : nextOperation s kind = some row) :
    s.operations.find row.id = some row ∧ row.status = .pending ∧ locked s row.id = false := by
  have member := firstOf_mem found
  obtain ⟨inTable, eligible⟩ := List.mem_filter.mp member
  simp only [Bool.and_eq_true, beq_iff_eq, decide_eq_true_eq, Bool.not_eq_true'] at eligible
  exact ⟨Table.find_of_mem inTable, eligible.1.1.1.2, eligible.2⟩

theorem not_locked {id : OperationId} (free : locked s id = false) {run : Run Fields Work}
    (member : run ∈ s.runs.rows) {claim : ClaimedOperation} (holds : run.phase.holds = some claim) : claim.id ≠ id := by
  intro same
  have none := List.any_eq_false.mp free run member
  rw [holds] at none
  simp [same] at none

/-- Every run of the later store that holds an operation held it before. -/
def Releases (s s' : Store Payload Fields Work) : Prop :=
  ∀ run ∈ s'.runs.rows, ∀ claim, run.phase.holds = some claim →
    ∃ earlier ∈ s.runs.rows, earlier.id = run.id ∧ earlier.phase.holds = some claim

/-- The same, the run of this id holding none any more. -/
def Lets (s s' : Store Payload Fields Work) (id : RunId) : Prop :=
  ∀ run ∈ s'.runs.rows, ∀ claim, run.phase.holds = some claim →
    run ∈ s.runs.rows ∧ run.id ≠ id

theorem Lets.releases {id : RunId} (lets : Lets s s' id) : Releases s s' := by
  intro run member claim holds
  exact ⟨run, (lets run member claim holds).1, rfl, holds⟩

theorem lets_put (run next : Run Fields Work) (same : next.id = run.id) (free : next.phase.holds = none)
    (runs : s'.runs = s.runs.put next) : Lets s s' run.id := by
  intro other member claim holds
  rw [runs] at member
  rcases Table.mem_put.mp member with ⟨old, apart⟩ | ⟨rfl, -⟩
  · exact ⟨old, same ▸ apart⟩
  · rw [free] at holds
    cases holds

theorem releases_put {run : Run Fields Work} (next : Run Fields Work)
    (found : s.runs.find run.id = some run) (same : next.id = run.id)
    (kept : next.phase.holds = run.phase.holds) (runs : s'.runs = s.runs.put next) : Releases s s' := by
  intro other member claim holds
  rw [runs] at member
  rcases Table.mem_put.mp member with ⟨old, -⟩ | ⟨rfl, -⟩
  · exact ⟨other, old, rfl, holds⟩
  · exact ⟨run, Table.find_mem found, same.symm, kept ▸ holds⟩

/-- The step spends an attempt of the operation: it commits an answer that is no lock conflict, or records an attempt
outside the transaction that failed. -/
def spends (s : Store Payload Fields Work) (event : Event Payload Fields Work) (id : OperationId) : Bool :=
  match event.run.bind s.runs.find with
  | none => false
  | some run =>
    match event, run.phase with
    | .commit _, .recorded claim answer => claim.id == id && !answer.lockConflict
    | .commitUnheard _ _, .recorded claim answer => claim.id == id && !answer.lockConflict
    | .recordAttemptOutside _ answers, .outside claim _ =>
      answers && claim.id == id && (s.operations.find id).any fun row => row.status == .pending
    | _, _ => false

/-- What a committed step does. -/
inductive Move (s : Store Payload Fields Work) (event : Event Payload Fields Work) (s' : Store Payload Fields Work) :
    Prop
  | quiet (operations : s'.operations = s.operations) (written : s'.written = s.written) (runs : Releases s s')
      (spent : ∀ id, spends s event id = false)
  | enqueued (row : Operation Payload Fields) (fresh : row.id ∉ s.operations.rows.map Operation.id)
      (pending : row.status = .pending) (none : row.attempts = 0)
      (operations : s'.operations = s.operations.insert row fresh) (written : s'.written = s.written)
      (runs : Releases s s') (spent : ∀ id, spends s event id = false)
  | claimed (run : Run Fields Work) (row : Operation Payload Fields) (claim : ClaimedOperation)
      (found : s.runs.find run.id = some run) (next : nextOperation s run.kind = some row) (id : claim.id = row.id)
      (attempts : claim.attempts = row.attempts) (operations : s'.operations = s.operations)
      (written : s'.written = s.written) (runs : s'.runs = s.runs.put { run with phase := .claimed claim })
      (spent : ∀ id, spends s event id = false)
  | committed (run : Run Fields Work) (claim : ClaimedOperation) (answer : Answer Fields Work)
      (row : Operation Payload Fields) (found : s.runs.find run.id = some run) (phase : run.phase = .recorded claim answer)
      (here : s.operations.find claim.id = some row)
      (operations : s'.operations = s.operations.put (recordAnswer run.kind claim row answer).1)
      (written : s'.written = s.written ++ (answer.work.map fun work => (claim.id, work)).toList)
      (runs : Lets s s' run.id) (spent : ∀ id, spends s event id = (claim.id == id && !answer.lockConflict))
  | counted (run : Run Fields Work) (claim : ClaimedOperation) (errorClass : String) (row : Operation Payload Fields)
      (free : locked s claim.id = false) (here : s.operations.find claim.id = some row) (pending : row.status = .pending)
      (operations : s'.operations = s.operations.put (attemptOutside run.kind s.now errorClass row))
      (written : s'.written = s.written) (runs : Releases s s') (spent : ∀ id, spends s event id = (claim.id == id))

theorem spends_of_phase {run : Run Fields Work} (found : event.run.bind s.runs.find = some run) (id : OperationId)
    (none : ∀ claim answer, run.phase ≠ .recorded claim answer) (inside : ∀ claim errorClass, run.phase ≠ .outside claim errorClass) :
    spends s event id = false := by
  unfold spends
  rw [found]
  split
  · rfl
  · rename_i other same
    cases same
    split
    · exact absurd ‹_› (none _ _)
    · exact absurd ‹_› (none _ _)
    · exact absurd ‹_› (inside _ _)
    · rfl

theorem commitOutcome_ok {kind : OperationKind} {claim : ClaimedOperation} {answer : Answer Fields Work}
    {result : Store Payload Fields Work × OperationOutcome} (committed : commitOutcome s kind claim answer = .ok result) :
    ∃ row, s.operations.find claim.id = some row ∧
      result.1.operations = s.operations.put (recordAnswer kind claim row answer).1 ∧
      result.1.written = s.written ++ (answer.work.map fun work => (claim.id, work)).toList ∧
      result.1.runs = s.runs := by
  unfold commitOutcome at committed
  split at committed
  · cases committed
  · rename_i row found
    cases committed
    exact ⟨row, found, rfl, rfl, rfl⟩

theorem processStep_move {run : Run Fields Work} (bound : event.run.bind s.runs.find = some run)
    (found : s.runs.find run.id = some run) (committed : processStep s run event = .ok s') : Move s event s' := by
  unfold processStep at committed
  split at committed
  · -- claim
    rename_i id
    split at committed
    · rename_i between
      have free : ∀ operation, spends s (.claim id) operation = false := fun operation =>
        spends_of_phase bound operation (by simp [between]) (by simp [between])
      split at committed
      · cases committed
        exact .quiet rfl rfl (lets_put run { run with phase := .ended } rfl rfl rfl).releases free
      · split at committed
        · cases committed
          exact .quiet rfl rfl (lets_put run { run with phase := .ended } rfl rfl rfl).releases free
        · rename_i row next
          cases committed
          exact .claimed run row _ found next rfl rfl rfl rfl rfl free
    · cases committed
  · -- handle
    split at committed
    · rename_i claim phase
      cases committed
      exact .quiet rfl rfl (releases_put { run with phase := .answered claim _ } found rfl (by rw [phase]; rfl) rfl)
        fun id => spends_of_phase bound id (by simp [phase]) (by simp [phase])
    · cases committed
  · -- record
    split at committed
    · rename_i claim answer phase
      cases committed
      exact .quiet rfl rfl (releases_put { run with phase := .recorded claim answer } found rfl (by rw [phase]; rfl) rfl)
        fun id => spends_of_phase bound id (by simp [phase]) (by simp [phase])
    · cases committed
  · -- commit
    split at committed
    · rename_i claim answer phase
      obtain ⟨⟨after, outcome⟩, made, rfl⟩ := map_eq_ok committed
      obtain ⟨row, here, operations, written, runs⟩ := commitOutcome_ok made
      let next : Run Fields Work := { run with left := run.left - 1, summary := run.summary.add outcome, phase := .between }
      refine .committed run claim answer row found phase here operations written
        (lets_put run next rfl rfl (congrArg (Table.put · next) runs)) fun id => ?_
      unfold spends
      rw [bound]
      simp [phase]
    · cases committed
  · -- commitUnheard
    rename_i errorClass
    split at committed
    · rename_i claim answer phase
      obtain ⟨⟨after, outcome⟩, made, rfl⟩ := map_eq_ok committed
      obtain ⟨row, here, operations, written, runs⟩ := commitOutcome_ok made
      let next : Run Fields Work := { run with phase := .outside claim errorClass }
      refine .committed run claim answer row found phase here operations written
        (lets_put run next rfl rfl (congrArg (Table.put · next) runs)) fun id => ?_
      unfold spends
      rw [bound]
      simp [phase]
    · cases committed
  · -- fail
    rename_i id errorClass
    have free : ∀ operation, spends s (.fail id errorClass) operation = false := by
      intro operation
      unfold spends
      rw [bound]
    split at committed
    · rename_i claim holds
      cases committed
      exact .quiet rfl rfl (lets_put run { run with phase := .outside claim errorClass } rfl rfl rfl).releases free
    · split at committed
      · cases committed
        exact .quiet rfl rfl (lets_put run { run with phase := .ended } rfl rfl rfl).releases free
      · cases committed
  · -- recordAttemptOutside
    rename_i named answers
    split at committed
    · rename_i claim errorClass phase
      have spent : ∀ id, spends s (.recordAttemptOutside named answers) id =
          (answers && claim.id == id && (s.operations.find id).any fun row => row.status == .pending) := by
        intro id
        unfold spends
        rw [bound]
        simp [phase]
      have lets : ∀ summary after, after.runs = s.runs.put { run with summary := summary, phase := .ended } →
          Releases s after :=
        fun summary after runs => (lets_put run { run with summary := summary, phase := .ended } rfl rfl runs).releases
      simp only [] at committed
      split at committed
      · rename_i silent
        cases committed
        refine .quiet rfl rfl (lets _ _ rfl) fun id => ?_
        rw [spent]
        simp only [Bool.not_eq_true'] at silent
        simp [silent]
      · split at committed
        · cases committed
        · rename_i unsilent free
          have heard : answers = true := by simpa using unsilent
          have free : locked s claim.id = false := by simpa using free
          split at committed
          · rename_i gone
            cases committed
            refine .quiet rfl rfl (lets _ _ rfl) fun id => ?_
            rw [spent]
            by_cases same : claim.id = id
            · rw [← same, gone]
              simp
            · simp [same]
          · rename_i row here
            split at committed
            · rename_i pending
              cases committed
              refine .counted run claim errorClass row free here pending rfl rfl
                (lets _ _ rfl) fun id => ?_
              rw [spent]
              by_cases same : claim.id = id
              · rw [← same, here]
                simp [heard, pending]
              · have other : (claim.id == id) = false := by simpa using same
                rw [other, Bool.and_false, Bool.false_and]
            · rename_i settled
              cases committed
              refine .quiet rfl rfl (lets _ _ rfl) fun id => ?_
              rw [spent]
              by_cases same : claim.id = id
              · rw [← same, here]
                simp [settled]
              · simp [same]
    · cases committed
  · -- crash
    cases committed
    refine .quiet rfl rfl ?_ fun operation => ?_
    · intro other member claim holds
      exact ⟨other, (Table.mem_erase.mp member).1, rfl, holds⟩
    · unfold spends
      rw [bound]
  · cases committed

theorem step_move (committed : step s event = .ok s') : Move s event s' := by
  unfold step at committed
  split at committed
  · cases committed
    exact .quiet rfl rfl (fun run member claim holds => ⟨run, member, rfl, holds⟩) fun _ => rfl
  · cases committed
    exact .quiet rfl rfl (fun run member claim holds => ⟨run, member, rfl, holds⟩) fun _ => rfl
  · split at committed
    · rename_i fresh
      split at committed
      · cases committed
      · cases committed
        exact .enqueued _ fresh rfl rfl rfl rfl (fun run member claim holds => ⟨run, member, rfl, holds⟩) fun _ => rfl
    · cases committed
  · split at committed
    · rename_i fresh
      cases committed
      refine .quiet rfl rfl ?_ fun _ => rfl
      intro run member claim holds
      rw [Table.insert_rows] at member
      rcases List.mem_append.mp member with old | new
      · exact ⟨run, old, rfl, holds⟩
      · rw [List.mem_singleton.mp new] at holds
        cases holds
    · cases committed
  · split at committed
    · cases committed
    · rename_i run bound
      obtain ⟨id, -, found⟩ := Option.bind_eq_some_iff.mp bound
      exact processStep_move bound (Table.find_key found ▸ found) committed

end LetterIRL.Queue
