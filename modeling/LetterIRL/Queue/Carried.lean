import LetterIRL.Lib.Outcome
import LetterIRL.Queue.Moves

namespace LetterIRL.Queue
open Lib Commerce

variable {Payload Fields Work : Type} {s s' : Store Payload Fields Work} {event : Event Payload Fields Work}

/-! What holds of the queue in every interleaving of its runs. -/

/-- How often an operation's work was committed. -/
def performed (s : Store Payload Fields Work) (id : OperationId) : Nat :=
  (s.written.filter fun entry => entry.1 == id).length

/-- What a row may be: its attempts within the cap, and below it while it is pending. -/
structure Operation.Counts (row : Operation Payload Fields) : Prop where
  capped : row.attempts ≤ MAX_OPERATION_ATTEMPTS
  left : row.status = .pending → row.attempts < MAX_OPERATION_ATTEMPTS

/-- What each run holds is pending and as it was claimed, and held by no other; what succeeded was performed once,
and nothing else was. -/
structure Carried (s : Store Payload Fields Work) : Prop where
  once : ∀ row ∈ s.operations.rows, performed s row.id = if row.status = .succeeded then 1 else 0
  known : ∀ entry ∈ s.written, ∃ row ∈ s.operations.rows, row.id = entry.1
  counts : ∀ row ∈ s.operations.rows, row.Counts
  held : ∀ run ∈ s.runs.rows, ∀ claim, run.phase.holds = some claim →
    ∃ row, s.operations.find claim.id = some row ∧ row.status = .pending ∧ row.attempts = claim.attempts
  apart : ∀ run ∈ s.runs.rows, ∀ other ∈ s.runs.rows, ∀ claim twin, run.phase.holds = some claim →
    other.phase.holds = some twin → claim.id = twin.id → run.id = other.id

theorem recordAnswer_id (kind : OperationKind) (claim : ClaimedOperation) (row : Operation Payload Fields)
    (answer : Answer Fields Work) : (recordAnswer kind claim row answer).1.id = row.id := by
  cases answer with
  | done => rfl
  | refused => rfl
  | thrown =>
    simp only [recordAnswer]
    split
    · rfl
    · split <;> rfl

theorem recordAnswer_attempts (kind : OperationKind) (claim : ClaimedOperation) (row : Operation Payload Fields)
    (answer : Answer Fields Work) :
    (recordAnswer kind claim row answer).1.attempts = row.attempts + if answer.lockConflict then 0 else 1 := by
  cases answer with
  | done => rfl
  | refused => rfl
  | thrown sqlState errorClass =>
    have same : Answer.lockConflict (.thrown sqlState errorClass : Answer Fields Work) =
        sqlState.any (· ∈ LOCK_CONFLICTS) := rfl
    rw [same]
    simp only [recordAnswer]
    split
    · rfl
    · split <;> rfl

/-- An answer leaves a pending row succeeded when it is done and only then, and pending with an attempt left. -/
theorem recordAnswer_status (kind : OperationKind) (claim : ClaimedOperation) {row : Operation Payload Fields}
    (answer : Answer Fields Work) (pending : row.status = .pending) (counts : row.Counts)
    (attempts : row.attempts = claim.attempts) :
    (recordAnswer kind claim row answer).1.Counts ∧
      ((recordAnswer kind claim row answer).1.status = .succeeded ↔ answer.work.isSome = true) := by
  have left := counts.left pending
  have after := recordAnswer_attempts kind claim row answer
  cases answer with
  | done result work =>
    have spent : (recordAnswer kind claim row (.done result work)).1.attempts = row.attempts + 1 := rfl
    refine ⟨⟨by omega, fun still => ?_⟩, by simp [recordAnswer, Answer.work]⟩
    cases still
  | refused code result =>
    have spent : (recordAnswer kind claim row (.refused code result : Answer Fields Work)).1.attempts = row.attempts + 1 := rfl
    refine ⟨⟨by omega, fun still => ?_⟩, by simp [recordAnswer, Answer.work]⟩
    cases still
  | thrown sqlState errorClass =>
    simp only [recordAnswer]
    split
    · exact ⟨⟨counts.capped, fun _ => left⟩, by simp [pending, Answer.work]⟩
    · split
      · refine ⟨⟨by show row.attempts + 1 ≤ _; omega, fun still => ?_⟩, by simp [Answer.work]⟩
        cases still
      · refine ⟨⟨by show row.attempts + 1 ≤ _; omega, fun _ => ?_⟩, by simp [pending, Answer.work]⟩
        show row.attempts + 1 < MAX_OPERATION_ATTEMPTS
        omega

theorem attemptOutside_counts (kind : OperationKind) (now : Time) (errorClass : String)
    {row : Operation Payload Fields} (pending : row.status = .pending) (counts : row.Counts) :
    (attemptOutside kind now errorClass row).Counts ∧ (attemptOutside kind now errorClass row).status ≠ .succeeded := by
  have left := counts.left pending
  refine ⟨⟨?_, fun still => ?_⟩, ?_⟩
  · show row.attempts + 1 ≤ MAX_OPERATION_ATTEMPTS
    omega
  · show row.attempts + 1 < MAX_OPERATION_ATTEMPTS
    by_contra last
    have ended : (attemptOutside kind now errorClass row).status = .failed := by
      unfold attemptOutside
      simp only []
      rw [if_pos (by simpa using Nat.le_of_not_lt last)]
    rw [ended] at still
    cases still
  · unfold attemptOutside
    simp only []
    split
    · simp
    · simp [pending]

theorem Carried.releases_apart (carried : Carried s) (runs : Releases s s') :
    ∀ run ∈ s'.runs.rows, ∀ other ∈ s'.runs.rows, ∀ claim twin, run.phase.holds = some claim →
      other.phase.holds = some twin → claim.id = twin.id → run.id = other.id := by
  intro run member other inRuns claim twin holds heldToo same
  obtain ⟨first, inFirst, firstId, firstHolds⟩ := runs run member claim holds
  obtain ⟨second, inSecond, secondId, secondHolds⟩ := runs other inRuns twin heldToo
  have one := carried.apart first inFirst second inSecond claim twin firstHolds secondHolds same
  rw [← firstId, ← secondId, one]

/-- The operations as they were, each run holding what it held. -/
theorem Carried.quiet (carried : Carried s) (operations : s'.operations = s.operations)
    (written : s'.written = s.written) (runs : Releases s s') : Carried s' where
  once := by
    unfold performed
    rw [operations, written]
    exact carried.once
  known := by
    rw [operations, written]
    exact carried.known
  counts := by
    rw [operations]
    exact carried.counts
  held := by
    intro run member claim holds
    obtain ⟨earlier, inRuns, -, before⟩ := runs run member claim holds
    rw [operations]
    exact carried.held earlier inRuns claim before
  apart := carried.releases_apart runs

theorem Carried.enqueued (carried : Carried s) {row : Operation Payload Fields}
    (fresh : row.id ∉ s.operations.rows.map Operation.id) (pending : row.status = .pending) (none : row.attempts = 0)
    (operations : s'.operations = s.operations.insert row fresh) (written : s'.written = s.written)
    (runs : Releases s s') : Carried s' where
  once := by
    intro other member
    unfold performed
    rw [operations, Table.insert_rows] at member
    rw [written]
    rcases List.mem_append.mp member with old | new
    · exact carried.once other old
    · rw [List.mem_singleton.mp new, pending, if_neg (by decide)]
      refine List.length_eq_zero_iff.mpr (List.filter_eq_nil_iff.mpr fun entry inWritten same => fresh ?_)
      obtain ⟨owner, inTable, id⟩ := carried.known entry inWritten
      exact List.mem_map.mpr ⟨owner, inTable, id.trans (by simpa using same)⟩
  known := by
    rw [operations, written, Table.insert_rows]
    intro entry inWritten
    obtain ⟨owner, inTable, id⟩ := carried.known entry inWritten
    exact ⟨owner, List.mem_append_left _ inTable, id⟩
  counts := by
    rw [operations, Table.insert_rows]
    intro other member
    rcases List.mem_append.mp member with old | new
    · exact carried.counts other old
    · rw [List.mem_singleton.mp new]
      refine ⟨?_, fun _ => ?_⟩
      · rw [none]
        exact Nat.zero_le _
      · rw [none]
        decide
  held := by
    intro run member claim holds
    obtain ⟨earlier, inRuns, -, before⟩ := runs run member claim holds
    obtain ⟨other, found, facts⟩ := carried.held earlier inRuns claim before
    rw [operations]
    exact ⟨other, Table.find_insert_kept fresh found, facts⟩
  apart := carried.releases_apart runs

theorem Carried.claimed (carried : Carried s) {run : Run Fields Work} {row : Operation Payload Fields}
    {claim : ClaimedOperation} (next : nextOperation s run.kind = some row) (id : claim.id = row.id)
    (attempts : claim.attempts = row.attempts) (operations : s'.operations = s.operations)
    (written : s'.written = s.written) (runs : s'.runs = s.runs.put { run with phase := .claimed claim }) :
    Carried s' := by
  obtain ⟨found, pending, free⟩ := nextOperation_spec next
  have old : ∀ other ∈ s'.runs.rows, ∀ twin, other.phase.holds = some twin →
      other ∈ s.runs.rows ∧ twin.id ≠ claim.id ∨ other.id = run.id ∧ twin = claim := by
    intro other member twin holds
    rw [runs] at member
    rcases Table.mem_put.mp member with ⟨inRuns, -⟩ | ⟨rfl, -⟩
    · exact .inl ⟨inRuns, id ▸ not_locked free inRuns holds⟩
    · exact .inr ⟨rfl, (Option.some.inj holds).symm⟩
  refine ⟨?_, ?_, ?_, ?_, ?_⟩
  · unfold performed
    rw [operations, written]
    exact carried.once
  · rw [operations, written]
    exact carried.known
  · rw [operations]
    exact carried.counts
  · intro other member twin holds
    rw [operations]
    rcases old other member twin holds with ⟨inRuns, -⟩ | ⟨-, rfl⟩
    · exact carried.held other inRuns twin holds
    · exact ⟨row, id ▸ found, pending, attempts.symm⟩
  · intro first inFirst second inSecond one two firstHolds secondHolds same
    rcases old first inFirst one firstHolds with ⟨oldFirst, differ⟩ | ⟨firstId, rfl⟩
    · rcases old second inSecond two secondHolds with ⟨oldSecond, -⟩ | ⟨-, rfl⟩
      · exact carried.apart first oldFirst second oldSecond one two firstHolds secondHolds same
      · exact absurd same differ
    · rcases old second inSecond two secondHolds with ⟨-, differ⟩ | ⟨secondId, -⟩
      · exact absurd same.symm differ
      · rw [firstId, secondId]

/-- A pending row that no run holds afterwards is written with what was performed of it. -/
theorem Carried.settled (carried : Carried s) {row next : Operation Payload Fields} (work : List (OperationId × Work))
    (here : s.operations.find next.id = some row) (pending : row.status = .pending) (counts : next.Counts)
    (own : ∀ entry ∈ work, entry.1 = next.id) (one : work.length = if next.status = .succeeded then 1 else 0)
    (operations : s'.operations = s.operations.put next) (written : s'.written = s.written ++ work)
    (runs : Releases s s')
    (free : ∀ run ∈ s'.runs.rows, ∀ claim, run.phase.holds = some claim → claim.id ≠ next.id) : Carried s' where
  once := by
    intro other member
    unfold performed
    rw [operations] at member
    rw [written, List.filter_append, List.length_append]
    rcases Table.mem_put.mp member with ⟨old, apart⟩ | ⟨rfl, -⟩
    · have before := carried.once other old
      have none : work.filter (fun entry => entry.1 == other.id) = [] := by
        refine List.filter_eq_nil_iff.mpr fun entry inWork same => apart ?_
        rw [← own entry inWork]
        exact (by simpa using same : entry.1 = other.id).symm
      rw [none]
      exact before
    · have before := carried.once row (Table.find_mem here)
      rw [pending, if_neg (by decide), Table.find_key here] at before
      have all : work.filter (fun entry => entry.1 == other.id) = work :=
        List.filter_eq_self.mpr fun entry inWork => by simp [own entry inWork]
      unfold performed at before
      rw [before, all, one, Nat.zero_add]
  known := by
    intro entry inWritten
    rw [written] at inWritten
    have owner : ∃ other ∈ s.operations.rows, other.id = entry.1 := by
      rcases List.mem_append.mp inWritten with old | new
      · exact carried.known entry old
      · exact ⟨row, Table.find_mem here, (Table.find_key here).trans (own entry new).symm⟩
    obtain ⟨other, member, id⟩ := owner
    rw [operations]
    by_cases same : other.id = next.id
    · exact ⟨next, Table.mem_put.mpr (.inr ⟨rfl, row, Table.find_mem here, Table.find_key here⟩), same.symm.trans id⟩
    · exact ⟨other, Table.mem_put.mpr (.inl ⟨member, same⟩), id⟩
  counts := by
    intro other member
    rw [operations] at member
    rcases Table.mem_put.mp member with ⟨old, -⟩ | ⟨rfl, -⟩
    · exact carried.counts other old
    · exact counts
  held := by
    intro run member claim holds
    obtain ⟨earlier, inRuns, -, before⟩ := runs run member claim holds
    obtain ⟨other, found, facts⟩ := carried.held earlier inRuns claim before
    rw [operations]
    exact ⟨other, (Table.find_put_of_ne (free run member claim holds)).trans found, facts⟩
  apart := carried.releases_apart runs

theorem Move.carried (move : Move s event s') (carried : Carried s) : Carried s' := by
  cases move with
  | quiet operations written runs => exact carried.quiet operations written runs
  | enqueued row fresh pending none operations written runs =>
    exact carried.enqueued fresh pending none operations written runs
  | claimed run row claim found next id attempts operations written runs =>
    exact carried.claimed next id attempts operations written runs
  | committed run claim answer row found phase here operations written runs =>
    obtain ⟨same, at_, pending, attempts⟩ := carried.held run (Table.find_mem found) claim (by rw [phase]; rfl)
    obtain rfl : row = same := Option.some.inj (here.symm.trans at_)
    obtain ⟨counts, status⟩ := recordAnswer_status run.kind claim answer pending
      (carried.counts row (Table.find_mem here)) attempts
    have id : (recordAnswer run.kind claim row answer).1.id = claim.id :=
      (recordAnswer_id run.kind claim row answer).trans (Table.find_key here)
    refine carried.settled _ (id ▸ here) pending counts ?_ ?_ operations written runs.releases ?_
    · intro entry inWork
      obtain ⟨work, -, rfl⟩ := Option.map_eq_some_iff.mp (Option.mem_toList.mp inWork)
      exact id.symm
    · cases made : answer.work with
      | none =>
        rw [if_neg fun done => ?_]
        · rfl
        · have some := status.mp done
          rw [made] at some
          cases some
      | some work =>
        rw [if_pos (status.mpr (by rw [made]; rfl))]
        rfl
    · intro other member twin holds same
      obtain ⟨old, differ⟩ := runs other member twin holds
      refine differ (carried.apart other old run (Table.find_mem found) twin claim holds (by rw [phase]; rfl) ?_)
      exact same.trans id
  | counted run claim errorClass row free here pending operations written runs =>
    obtain ⟨counts, failed⟩ := attemptOutside_counts run.kind s.now errorClass pending
      (carried.counts row (Table.find_mem here))
    have id : (attemptOutside run.kind s.now errorClass row).id = claim.id :=
      show row.id = claim.id from Table.find_key here
    refine carried.settled [] (id ▸ here) pending counts (fun _ member => nomatch member) ?_ operations
      (by rw [written, List.append_nil]) runs ?_
    · rw [if_neg failed]
      rfl
    · intro other member twin holds same
      obtain ⟨earlier, inRuns, -, before⟩ := runs other member twin holds
      exact not_locked free inRuns before (same.trans id)

theorem carried_start : Carried ({} : Store Payload Fields Work) where
  once _ member := absurd member List.not_mem_nil
  known _ member := absurd member List.not_mem_nil
  counts _ member := absurd member List.not_mem_nil
  held _ member := absurd member List.not_mem_nil
  apart _ member := absurd member List.not_mem_nil

theorem carried_reach (reach : Reach step anyStep ({} : Store Payload Fields Work) s) : Carried s :=
  reach.invariant carried_start fun _ _ _ carried _ committed => (step_move committed).carried carried

/-- A step spends an attempt or leaves the count as it is, and no step writes a row that is not pending. -/
theorem Move.exact (move : Move s event s') (carried : Carried s) {id : OperationId} {row : Operation Payload Fields}
    (found : s.operations.find id = some row) :
    ∃ after, s'.operations.find id = some after ∧ after.attempts = row.attempts + (if spends s event id then 1 else 0) ∧
      (row.status ≠ .pending → after = row) := by
  cases move with
  | quiet operations _ _ spent => exact ⟨row, by rw [operations, found], by rw [spent]; rfl, fun _ => rfl⟩
  | enqueued new fresh _ _ operations _ _ spent =>
    exact ⟨row, by rw [operations]; exact Table.find_insert_kept fresh found, by rw [spent]; rfl, fun _ => rfl⟩
  | claimed _ _ _ _ _ _ _ operations _ _ spent =>
    exact ⟨row, by rw [operations, found], by rw [spent]; rfl, fun _ => rfl⟩
  | committed run claim answer held inRuns phase here operations _ _ spent =>
    obtain ⟨same, at_, pending, -⟩ := carried.held run (Table.find_mem inRuns) claim (by rw [phase]; rfl)
    have next : (recordAnswer run.kind claim held answer).1.id = claim.id :=
      (recordAnswer_id run.kind claim held answer).trans (Table.find_key here)
    rw [operations, spent]
    by_cases apart : claim.id = id
    · subst apart
      obtain rfl : held = row := Option.some.inj (here.symm.trans found)
      obtain rfl : held = same := Option.some.inj (here.symm.trans at_)
      refine ⟨_, Table.find_put_over here (next.trans (Table.find_key here).symm), ?_, fun settled => absurd pending settled⟩
      rw [recordAnswer_attempts]
      cases answer.lockConflict with
      | true => simp
      | false => simp
    · refine ⟨row, (Table.find_put_of_ne (by rw [next]; exact Ne.symm apart)).trans found, ?_, fun _ => rfl⟩
      simp [apart]
  | counted run claim errorClass held _ here pending operations _ _ spent =>
    have next : (attemptOutside run.kind s.now errorClass held).id = claim.id :=
      show held.id = claim.id from Table.find_key here
    rw [operations, spent]
    by_cases apart : claim.id = id
    · subst apart
      obtain rfl : held = row := Option.some.inj (here.symm.trans found)
      refine ⟨_, Table.find_put_over here (next.trans (Table.find_key here).symm), ?_, fun settled => absurd pending settled⟩
      simp [attemptOutside]
    · refine ⟨row, (Table.find_put_of_ne (by rw [next]; exact Ne.symm apart)).trans found, ?_, fun _ => rfl⟩
      simp [apart]

theorem settled_kept {later : Store Payload Fields Work} (carried : Carried s) (reach : Reach step anyStep s later)
    {id : OperationId} {row : Operation Payload Fields} (found : s.operations.find id = some row)
    (settled : row.status ≠ .pending) : Carried later ∧ later.operations.find id = some row := by
  refine reach.invariant (I := fun later => Carried later ∧ later.operations.find id = some row) ⟨carried, found⟩ ?_
  rintro before event after ⟨carried, found⟩ - committed
  have move := step_move committed
  obtain ⟨next, at_, -, same⟩ := move.exact carried found
  exact ⟨move.carried carried, by rw [at_, same settled]⟩

/-- In every interleaving of runs an operation has succeeded exactly when its handler's work was committed, which
happens once; its attempts stay within the cap, below it while it is pending, and change only where an answer that is
no lock conflict is committed, or an attempt is recorded outside a transaction whose bookkeeping failed; and one that is
not pending stays as it is and is held by no run again. -/
theorem operations_carried (reach : Reach step anyStep ({} : Store Payload Fields Work) s) :
    (∀ row ∈ s.operations.rows,
      performed s row.id = (if row.status = .succeeded then 1 else 0) ∧ row.attempts ≤ MAX_OPERATION_ATTEMPTS ∧
        (row.status = .pending → row.attempts < MAX_OPERATION_ATTEMPTS)) ∧
      (∀ event s', step s event = .ok s' → ∀ id row, s.operations.find id = some row →
        ∃ after, s'.operations.find id = some after ∧
          after.attempts = row.attempts + (if spends s event id then 1 else 0)) ∧
      ∀ later, Reach step anyStep s later → ∀ id row, s.operations.find id = some row → row.status ≠ .pending →
        later.operations.find id = some row ∧
          ∀ run ∈ later.runs.rows, ∀ claim, run.phase.holds = some claim → claim.id ≠ id := by
  have carried := carried_reach reach
  refine ⟨fun row member => ⟨carried.once row member, (carried.counts row member).capped,
    (carried.counts row member).left⟩, fun event s' committed id row found => ?_,
    fun later onward id row found settled => ?_⟩
  · obtain ⟨after, at_, attempts, -⟩ := (step_move committed).exact carried found
    exact ⟨after, at_, attempts⟩
  · obtain ⟨ended, kept⟩ := settled_kept carried onward found settled
    refine ⟨kept, fun run member claim holds same => ?_⟩
    obtain ⟨other, at_, pending, -⟩ := ended.held run member claim holds
    rw [same, kept] at at_
    cases at_
    exact settled pending

/-- An erasure is queued and claimed, and its handler meets a deadlock. -/
def deadlocked : List (Event Unit Unit Unit) :=
  [.provision .production, .enqueueAdminOperation 0 0 .production "account.erase" (),
    .processAdminOperations 0 { operationType := "account.erase", errorCode := "ACCOUNT_ERASURE_ERROR" } 5, .claim 0,
    .handle 0 (.thrown (some "40P01") "database_error")]

/-- The rollback to its savepoint then fails, and the attempt is counted outside the transaction. -/
def unrolled : List (Event Unit Unit Unit) := [.fail 0 "database_error", .recordAttemptOutside 0 true]

/-- The handler met a lock conflict, and its outcome is to be recorded. -/
def metConflict : Phase Unit Unit → Bool
  | .answered _ answer => answer.lockConflict
  | _ => false

theorem metConflict_answered {phase : Phase Unit Unit} (met : metConflict phase = true) :
    ∃ claim answer, phase = .answered claim answer ∧ answer.lockConflict = true := by
  cases phase with
  | answered claim answer => exact ⟨claim, answer, rfl, met⟩
  | _ => cases met

theorem lock_conflict_counted : ∃ s s' : Store Unit Unit Unit, Reach step anyStep {} s ∧
    (∃ run ∈ s.runs.rows, ∃ claim answer, run.phase = .answered claim answer ∧ answer.lockConflict = true) ∧
    (s.operations.find 0).map Operation.attempts = some 0 ∧ runAll step s unrolled = .ok s' ∧
    (s'.operations.find 0).map Operation.attempts = some 1 := by
  obtain ⟨s, reach, test⟩ := exists_reach step ({} : Store Unit Unit Unit)
    (fun s => s.runs.rows.any (fun run => metConflict run.phase) &&
      (s.operations.find 0).map Operation.attempts == some 0 &&
      commits (fun s' => (s'.operations.find 0).map Operation.attempts == some 1) (runAll step s unrolled))
    deadlocked (by decide)
  simp only [Bool.and_eq_true, beq_iff_eq] at test
  obtain ⟨⟨met, before⟩, rest⟩ := test
  obtain ⟨run, member, phase⟩ := List.any_eq_true.mp met
  obtain ⟨s', ran, after⟩ := commits_iff.mp rest
  exact ⟨s, s', reach, ⟨run, member, metConflict_answered phase⟩, before, ran, by simpa using after⟩

theorem erasure_queue_carried : ∃ s : Store Unit Unit Unit, Reach step anyStep {} s ∧
    ∀ row ∈ s.operations.rows, performed s row.id = (if row.status = .succeeded then 1 else 0) ∧
      row.attempts ≤ MAX_OPERATION_ATTEMPTS ∧ (row.status = .pending → row.attempts < MAX_OPERATION_ATTEMPTS) := by
  obtain ⟨s, reach, -⟩ := exists_reach step ({} : Store Unit Unit Unit)
    (fun s => s.operations.rows.any fun row => row.attempts == 1 && row.status == .pending)
    (deadlocked ++ unrolled) (by decide)
  exact ⟨s, reach, (operations_carried reach).1⟩

end LetterIRL.Queue
