import LetterIRL.Mail.Ended
import LetterIRL.Mail.Cancelled

namespace LetterIRL.Mail
open Lib Ledger Commerce

/-! `syncLetterStatuses`: runs that read a list of letters, ask the provider about one at a time, and write afterwards. -/

/-- A row of a run's list. -/
structure SyncRead where
  letterId : LetterId
  status : LetterStatus
  deriving DecidableEq

/-- Where a run is with the letter at the head of its list. -/
inductive SyncStage
  | asking
  | answered (status : LetterStatus)
  /-- The status is written, over `replaced`, and its history row is not. -/
  | written (status replaced : LetterStatus)
  deriving DecidableEq

structure SyncRun where
  letters : List SyncRead
  stage : SyncStage := .asking
  deriving DecidableEq

/-- A row of `letter_status_history` whose source is the sync; `replaced` is the model's own, the status its
write replaced. -/
structure StatusHistory where
  letterId : LetterId
  oldStatus : LetterStatus
  newStatus : LetterStatus
  replaced : LetterStatus
  deriving DecidableEq

structure SyncRoom where
  mail : Store := {}
  runs : List SyncRun := []
  history : List StatusHistory := []

/-- The statuses `getStatus` answers, beside `unrecognised`. -/
def PROVIDER_STATUSES : List LetterStatus :=
  [.queued, .accepted, .processing, .inTransit, .delivered, .failed, .returned]

/-- The rows of the query. Its window of days, and the columns that have a delivered certified letter
read for its number, are in what `selected` names. -/
def syncReads (s : Store) (selected : List LetterId) : List SyncRead :=
  ((selected.filterMap s.letters.find).filter fun letter =>
    letter.tracked && (letter.status ∉ ENDED_LETTER_STATUSES || letter.status == .delivered)).map fun letter =>
      { letterId := letter.letterId, status := letter.status }

/-- What a run does with an answer: none is one not recognised, or an error. -/
def SyncRun.answer (run : SyncRun) (read : SyncRead) (rest : List SyncRead) (status : Option LetterStatus) : SyncRun :=
  match status with
  | none => { letters := rest }
  | some status =>
    -- A delivered letter is read for its number alone.
    if read.status = .delivered ∨ status = read.status then { letters := rest }
    else { run with stage := .answered status }

inductive SyncEvent
  | mail (event : Event)
  | list (selected : List LetterId)
  | answer (run : Nat) (status : Option LetterStatus)
  | write (run : Nat)
  | record (run : Nat)
  | fails (run : Nat)

/-- Only a run writes what the provider says. -/
def Event.ofSync : Event → Bool
  | .syncStatus _ _ | .providerCancelled _ => true
  | _ => false

def SyncRoom.setRun (s : SyncRoom) (run : Nat) (moved : SyncRun) : SyncRoom := { s with runs := s.runs.set run moved }

/-- The write of an answered status: a failure through `failProviderCancelledLetter`, with its history row in its
transaction, any other as it is. -/
def SyncRoom.writeStatus (cfg : Config) (s : SyncRoom) (run : Nat) (read : SyncRead) (rest : List SyncRead)
    (status : LetterStatus) : SyncRoom :=
  match s.mail.letters.find read.letterId with
  | none => s.setRun run { letters := rest }
  | some letter =>
    if status = .failed then
      match step cfg s.mail (.providerCancelled read.letterId) with
      | .error _ => s.setRun run { letters := rest }
      | .ok mail =>
        { s.setRun run { letters := rest } with
          mail
          history := s.history ++ [{
            letterId := read.letterId, oldStatus := letter.status, newStatus := .failed, replaced := letter.status }] }
    else
      match step cfg s.mail (.syncStatus read.letterId status) with
      | .error _ => s.setRun run { letters := rest }
      | .ok mail =>
        { s.setRun run { letters := read :: rest, stage := .written status letter.status } with mail }

def syncStep (cfg : Config) (s : SyncRoom) : SyncEvent → Except Abort SyncRoom
  | .mail event =>
    if event.ofSync then .error .thrown
    else
      match step cfg s.mail event with
      | .error reason => .error reason
      | .ok mail => .ok { s with mail }
  | .list selected => .ok { s with runs := s.runs ++ [{ letters := syncReads s.mail selected }] }
  | .answer run status =>
    match s.runs[run]? with
    | some { letters := read :: rest, stage := .asking } =>
      if status.all (· ∈ PROVIDER_STATUSES) then
        .ok (s.setRun run (SyncRun.answer { letters := read :: rest } read rest status))
      else .error .thrown
    | _ => .error .thrown
  | .write run =>
    match s.runs[run]? with
    | some { letters := read :: rest, stage := .answered status } => .ok (s.writeStatus cfg run read rest status)
    | _ => .error .thrown
  | .record run =>
    match s.runs[run]? with
    | some { letters := read :: rest, stage := .written status replaced } =>
      .ok { s.setRun run { letters := rest } with
        history := s.history ++ [{ letterId := read.letterId, oldStatus := read.status, newStatus := status, replaced }] }
    | _ => .error .thrown
  | .fails run =>
    match s.runs[run]? with
    | some { letters := _ :: rest, stage := _ } => .ok (s.setRun run { letters := rest })
    | _ => .error .thrown

/-! What holds while no run writes over a status it did not read, and no cancelled mail is held. -/

variable {cfg : Config} {s s' : SyncRoom} {event : SyncEvent}

/-- An ordinary write finds the letter as its run read it, and an uncertain dispatch finds its mail not cancelled. -/
def InSync (s : SyncRoom) : SyncEvent → Prop
  | .mail event => Careful s.mail event
  | .write run => ∀ read rest status, s.runs[run]? = some { letters := read :: rest, stage := .answered status } →
      status ≠ .failed → ∀ letter, s.mail.letters.find read.letterId = some letter → letter.status = read.status
  | _ => True

/-- The event is a write of a run over the mail. -/
def SyncEvent.writes : SyncEvent → Bool
  | .mail _ => false
  | _ => true

theorem providerCancelled_ok {mail after : Store} {letterId : LetterId}
    (committed : step cfg mail (.providerCancelled letterId) = .ok after) :
    ∃ letter, mail.letters.find letterId = some letter ∧ letter.status ∉ ENDED_LETTER_STATUSES ∧
      after.letters = mail.letters.put { letter with status := .failed } := by
  simp only [step, failProviderCancelledLetter] at committed
  split at committed
  · cases committed
  · rename_i letter found
    split at committed
    · cases committed
    · rename_i guard
      simp only [Bool.or_eq_true, Bool.not_eq_true', decide_eq_true_eq, not_or, Bool.not_eq_false] at guard
      refine ⟨letter, found, guard.2, ?_⟩
      cases committed
      split
      · rfl
      · have funds : Funds cfg letterId True _ _ :=
          returnPrepaidCredits_funds (mail.setLetter { letter with status := .failed }) letterId
        exact funds.letters

/-- A write over one letter leaves any letter in another status as it was. -/
theorem find_put_status {letters : Table MailItem.letterId} {letterId other : LetterId} {letter row : MailItem}
    {status : LetterStatus} (found : letters.find letterId = some letter) (there : letters.find other = some row)
    (apart : row.status ≠ letter.status) : (letters.put { letter with status }).find other = some row := by
  have named := Table.find_key found
  have key : ({ letter with status } : MailItem).letterId = letterId := named
  rw [Table.find_put_of_ne]
  · exact there
  · rintro rfl
    rw [key, found] at there
    cases there
    exact apart rfl

/-- What a write of a run did. -/
inductive SyncWrite (cfg : Config) (s : SyncRoom) (run : Nat) (read : SyncRead) (rest : List SyncRead)
    (status : LetterStatus) : SyncRoom → Prop
  | skipped : SyncWrite cfg s run read rest status (s.setRun run { letters := rest })
  | failed {letter : MailItem} {mail : Store} (found : s.mail.letters.find read.letterId = some letter)
      (cancelled : step cfg s.mail (.providerCancelled read.letterId) = .ok mail) :
      SyncWrite cfg s run read rest status { s.setRun run { letters := rest } with
        mail
        history := s.history ++ [{
          letterId := read.letterId, oldStatus := letter.status, newStatus := .failed, replaced := letter.status }] }
  | written {letter : MailItem} {mail : Store} (found : s.mail.letters.find read.letterId = some letter)
      (ordinary : status ≠ .failed) (synced : step cfg s.mail (.syncStatus read.letterId status) = .ok mail) :
      SyncWrite cfg s run read rest status
        { s.setRun run { letters := read :: rest, stage := .written status letter.status } with mail }

theorem writeStatus_cases (s : SyncRoom) (run : Nat) (read : SyncRead) (rest : List SyncRead) (status : LetterStatus) :
    SyncWrite cfg s run read rest status (s.writeStatus cfg run read rest status) := by
  unfold SyncRoom.writeStatus
  split
  · exact .skipped
  · rename_i letter found
    split
    · split
      · exact .skipped
      · rename_i mail cancelled
        exact .failed found cancelled
    · rename_i ordinary
      split
      · exact .skipped
      · rename_i mail synced
        exact .written found ordinary synced

/-- What a run's list and stage say: a letter about to be written had not ended, and one written had the status read. -/
structure SyncRun.Reads (run : SyncRun) : Prop where
  going : ∀ read ∈ run.letters, read.status ∉ ENDED_LETTER_STATUSES ∨ read.status = .delivered
  answered : ∀ read rest status, run = { letters := read :: rest, stage := .answered status } →
    read.status ∉ ENDED_LETTER_STATUSES
  written : ∀ read rest status replaced, run = { letters := read :: rest, stage := .written status replaced } →
    read.status = replaced

structure SyncSound (s : SyncRoom) : Prop where
  mail : Concluded s.mail
  runs : ∀ run ∈ s.runs, run.Reads
  history : ∀ row ∈ s.history, row.oldStatus = row.replaced

theorem SyncRun.Reads.asking {letters : List SyncRead}
    (going : ∀ read ∈ letters, read.status ∉ ENDED_LETTER_STATUSES ∨ read.status = .delivered) :
    SyncRun.Reads { letters } where
  going := going
  answered _ _ _ same := (nomatch same)
  written _ _ _ _ same := (nomatch same)

theorem syncReads_going (mail : Store) (selected : List LetterId) :
    ∀ read ∈ syncReads mail selected, read.status ∉ ENDED_LETTER_STATUSES ∨ read.status = .delivered := by
  intro read member
  obtain ⟨letter, kept, rfl⟩ := List.mem_map.mp member
  have guard := (List.mem_filter.mp kept).2
  simp only [Bool.and_eq_true, Bool.or_eq_true, decide_eq_true_eq, beq_iff_eq] at guard
  exact guard.2

theorem setRun_reads {run : Nat} {moved : SyncRun} (sound : ∀ other ∈ s.runs, other.Reads) (reads : moved.Reads) :
    ∀ other ∈ (s.setRun run moved).runs, other.Reads := by
  intro other member
  rcases List.mem_or_eq_of_mem_set member with old | rfl
  · exact sound other old
  · exact reads

theorem SyncSound.step (sound : SyncSound s) (inSync : InSync s event) (committed : syncStep cfg s event = .ok s') :
    SyncSound s' := by
  have rest {run : SyncRun} {read : SyncRead} {others : List SyncRead} (reads : run.Reads)
      (letters : run.letters = read :: others) : SyncRun.Reads { letters := others } :=
    .asking fun other member => reads.going other (letters ▸ List.mem_cons_of_mem _ member)
  cases event with
  | mail event =>
    simp only [syncStep] at committed
    split at committed
    · cases committed
    · split at committed
      · cases committed
      · rename_i mail stepped
        cases committed
        exact ⟨sound.mail.step inSync stepped, sound.runs, sound.history⟩
  | list selected =>
    cases committed
    refine ⟨sound.mail, fun run member => ?_, sound.history⟩
    rcases List.mem_append.mp member with old | new
    · exact sound.runs run old
    · rw [List.mem_singleton.mp new]
      exact .asking (syncReads_going s.mail selected)
  | answer run status =>
    simp only [syncStep] at committed
    split at committed
    · rename_i read others found
      have reads := sound.runs _ (List.mem_of_getElem? found)
      split at committed
      · cases committed
        refine ⟨sound.mail, setRun_reads sound.runs ?_, sound.history⟩
        unfold SyncRun.answer
        split
        · exact rest reads rfl
        · split
          · exact rest reads rfl
          · rename_i differs
            refine ⟨reads.going, fun read' rest' status' same => ?_, fun _ _ _ _ same => (nomatch same)⟩
            cases same
            exact (reads.going read List.mem_cons_self).resolve_right fun delivered => differs (.inl delivered)
      · cases committed
    · cases committed
  | write run =>
    simp only [syncStep] at committed
    split at committed
    · rename_i read others status found
      have reads := sound.runs _ (List.mem_of_getElem? found)
      have wrote := @writeStatus_cases cfg s run read others status
      rw [Except.ok.inj committed] at wrote
      cases wrote with
      | skipped => exact ⟨sound.mail, setRun_reads sound.runs (rest reads rfl), sound.history⟩
      | @failed letter mail there cancelled =>
        have careful : Careful s.mail (.providerCancelled read.letterId) := trivial
        refine ⟨sound.mail.step careful cancelled, setRun_reads sound.runs (rest reads rfl), fun row member => ?_⟩
        rcases List.mem_append.mp member with old | new
        · exact sound.history row old
        · rw [List.mem_singleton.mp new]
      | @written letter mail there ordinary synced =>
        have same := inSync read others status found ordinary letter there
        have going := reads.answered read others status rfl
        have careful : Careful s.mail (.syncStatus read.letterId status) := by
          intro row here
          rw [there] at here
          cases here
          rw [same]
          exact going
        refine ⟨sound.mail.step careful synced, setRun_reads sound.runs ?_, sound.history⟩
        · refine ⟨reads.going, fun _ _ _ same => (nomatch same), fun _ _ _ _ here => ?_⟩
          cases here
          exact same.symm
    · cases committed
  | record run =>
    simp only [syncStep] at committed
    split at committed
    · rename_i read others status replaced found
      have reads := sound.runs _ (List.mem_of_getElem? found)
      cases committed
      refine ⟨sound.mail, setRun_reads sound.runs (rest reads rfl), fun row member => ?_⟩
      rcases List.mem_append.mp member with old | new
      · exact sound.history row old
      · rw [List.mem_singleton.mp new]
        exact reads.written read others status replaced rfl
    · cases committed
  | fails run =>
    simp only [syncStep] at committed
    split at committed
    · rename_i found
      cases committed
      exact ⟨sound.mail, setRun_reads sound.runs (rest (sound.runs _ (List.mem_of_getElem? found)) rfl), sound.history⟩
    · cases committed

theorem syncSound_start : SyncSound {} :=
  ⟨concluded_start, fun _ member => (nomatch member), fun _ member => (nomatch member)⟩

theorem SyncSound.run (sound : SyncSound s) (reach : Reach (syncStep cfg) InSync s s') : SyncSound s' := by
  induction reach with
  | start => exact sound
  | next _ inSync committed ih => exact ih.step inSync committed

/-- What a step of the room does to the mail: nothing, or one step of it. -/
theorem syncStep_mail (committed : syncStep cfg s event = .ok s') :
    s'.mail = s.mail ∨ ∃ mailEvent, step cfg s.mail mailEvent = .ok s'.mail := by
  cases event with
  | mail event =>
    simp only [syncStep] at committed
    split at committed
    · cases committed
    · split at committed
      · cases committed
      · rename_i mail stepped
        cases committed
        exact .inr ⟨event, stepped⟩
  | list selected => cases committed; exact .inl rfl
  | write run =>
    simp only [syncStep] at committed
    split at committed
    · rename_i read others status found
      have wrote := @writeStatus_cases cfg s run read others status
      rw [Except.ok.inj committed] at wrote
      cases wrote with
      | skipped => exact .inl rfl
      | failed there cancelled => exact .inr ⟨_, cancelled⟩
      | written there ordinary synced => exact .inr ⟨_, synced⟩
    · cases committed
  | answer | record | fails =>
    simp only [syncStep] at committed
    repeat' split at committed
    all_goals first
      | cases committed; done
      | (cases committed; exact .inl rfl)

theorem returned_run (sound : SyncSound s) (reach : Reach (syncStep cfg) InSync s s') {letterId : LetterId}
    (returned : Returned s.mail.commerce letterId) : Returned s'.mail.commerce letterId := by
  induction reach with
  | start => exact returned
  | next previous _ committed ih =>
    rcases syncStep_mail committed with same | ⟨mailEvent, stepped⟩
    · rw [same]
      exact ih
    · exact returned_lasts (sound.run previous).mail.settled stepped ih

/-- A run's write leaves a letter that has ended. -/
theorem SyncSound.ended_kept (sound : SyncSound s) (inSync : InSync s event)
    (committed : syncStep cfg s event = .ok s') (writes : event.writes = true) {letterId : LetterId} {letter : MailItem}
    (found : s.mail.letters.find letterId = some letter) (ended : letter.status ∈ ENDED_LETTER_STATUSES) :
    s'.mail.letters.find letterId = some letter := by
  cases event with
  | mail => cases writes
  | write run =>
    simp only [syncStep] at committed
    split at committed
    · rename_i read others status here
      have reads := sound.runs _ (List.mem_of_getElem? here)
      have wrote := @writeStatus_cases cfg s run read others status
      rw [Except.ok.inj committed] at wrote
      cases wrote with
      | skipped => exact found
      | @failed row mail there cancelled =>
        obtain ⟨other, atOther, going, letters⟩ := providerCancelled_ok cancelled
        show mail.letters.find letterId = some letter
        rw [letters]
        exact find_put_status atOther found fun same => going (same ▸ ended)
      | @written row mail there ordinary synced =>
        obtain ⟨other, atOther, -, -, rfl⟩ := syncStatus_ok synced
        rw [there] at atOther
        cases atOther
        have same := inSync read others status here ordinary row there
        have going := reads.answered read others status rfl
        exact find_put_status there found fun apart => going (same ▸ apart ▸ ended)
    · cases committed
  | list selected => cases committed; exact found
  | answer | record | fails =>
    simp only [syncStep] at committed
    repeat' split at committed
    all_goals first
      | cases committed; done
      | (cases committed; exact found)

theorem ended_letters_stay_ended (reach : Reach (syncStep cfg) InSync {} s) :
    (∀ event s', InSync s event → syncStep cfg s event = .ok s' → event.writes = true →
      ∀ letterId letter, s.mail.letters.find letterId = some letter → letter.status ∈ ENDED_LETTER_STATUSES →
        s'.mail.letters.find letterId = some letter) ∧
    (∀ s', Reach (syncStep cfg) InSync s s' → ∀ letterId, Returned s.mail.commerce letterId →
      ∀ letter, s'.mail.letters.find letterId = some letter → letter.status = .failed ∨ letter.status = .cancelled) ∧
    ∀ row ∈ s.history, row.oldStatus = row.replaced := by
  have sound := syncSound_start.run reach
  refine ⟨fun event s' inSync committed writes letterId letter found ended => ?_,
    fun s' later letterId returned letter found => ?_, sound.history⟩
  · exact sound.ended_kept inSync committed writes found ended
  · exact (sound.run later).mail.closed.letter letterId (returned_run sound later returned) letter found

/-! Two runs and a stalled dispatch. -/

/-- A stricter condition, that a run can be checked for as it goes. -/
def quietly (s : SyncRoom) : SyncEvent → Bool
  | .mail (.dispatch worker (.settles _)) => worker.phase != .uncertain
  | .mail event => !event.ofSync
  | .write run =>
    match s.runs[run]? with
    | some { letters := read :: _, stage := _ } =>
      (s.mail.letters.find read.letterId).all fun letter => letter.status == read.status
    | _ => true
  | _ => true

theorem inSync_of_quietly (quiet : quietly s event = true) : InSync s event := by
  cases event with
  | mail event =>
    cases event with
    | syncStatus => cases quiet
    | dispatch worker dispatch =>
      cases dispatch with
      | settles delay =>
        intro uncertain
        simp [quietly, uncertain] at quiet
      | _ => trivial
    | _ => trivial
  | write run =>
    intro read rest status found ordinary letter there
    simp only [quietly, found, there, Option.all_some, beq_iff_eq] at quiet
    exact quiet
  | _ => trivial

/-- The letter of `heldSend` is released early and accepted by the provider. -/
def acceptedSend : List Event :=
  heldSend false ++
    [.release 5 0, .claim 5, .dispatch { claim := stalledClaim, phase := .claimed } .marks,
      .dispatch { claim := stalledClaim, phase := .marked } (.submits {}),
      .dispatch { claim := stalledClaim, phase := .called } (.answered .accepted),
      .dispatch { claim := stalledClaim, phase := .accepted } (.settles 0)]

theorem quiet_sync_recorded : ∃ s : SyncRoom, Reach (syncStep {}) InSync {} s ∧ s.history.length = 1 ∧
    ∀ row ∈ s.history, row.oldStatus = row.replaced := by
  obtain ⟨s, reach, passes⟩ := exists_reach (checkedStep (syncStep {}) fun s event => quietly s event = true) {}
    (fun s => s.history.length == 1)
    (acceptedSend.map .mail ++ [.list [40], .answer 0 (some .processing), .write 0, .record 0]) (by decide)
  have inSync : Reach (syncStep {}) InSync {} s := (reach_of_checked reach).mono fun _ _ => inSync_of_quietly
  exact ⟨s, inSync, by simpa using passes, (ended_letters_stay_ended inSync).2.2⟩

/-- Two runs read the letter as accepted; one fails it and returns its credits, and the other's answer follows. -/
def overtakenSync : List SyncEvent :=
  acceptedSend.map .mail ++ [.list [40], .list [40], .answer 0 (some .failed), .answer 1 (some .processing), .write 0]

theorem stale_answer_reopens :
    (∃ s s' : SyncRoom, Reach (syncStep {}) anyStep {} s ∧ syncStep {} s (.write 1) = .ok s' ∧
      Returned s.mail.commerce 40 ∧ (s.mail.letters.find 40).map MailItem.status = some .failed ∧
      (s'.mail.letters.find 40).map MailItem.status = some .processing) ∧
    (∃ s : SyncRoom, Reach (syncStep {}) anyStep {} s ∧ ∃ row ∈ s.history, row.oldStatus ≠ row.replaced) ∧
    ∃ s s' : SyncRoom, Reach (syncStep {}) anyStep {} s ∧
      syncStep {} s (.mail (.dispatch { claim := stalledClaim, phase := .uncertain } (.settles 0))) = .ok s' ∧
      Returned s.mail.commerce 40 ∧ (s.mail.letters.find 40).map MailItem.status = some .cancelled ∧
      (s'.mail.letters.find 40).map MailItem.status = some .held := by
  refine ⟨?_, ?_, ?_⟩
  · obtain ⟨s, s', reach, committed, passes⟩ := exists_step (syncStep {}) {}
      (fun s s' => hasReturnedCreditsForLetter s.mail.commerce.account 40 &&
        (s.mail.letters.find 40).map MailItem.status == some .failed &&
        (s'.mail.letters.find 40).map MailItem.status == some .processing) overtakenSync (.write 1) (by decide)
    simp only [Bool.and_eq_true, beq_iff_eq] at passes
    exact ⟨s, s', reach, committed, .inl passes.1.1, passes.1.2, passes.2⟩
  · obtain ⟨s, reach, passes⟩ := exists_reach (syncStep {}) {}
      (fun s => s.history.any fun row => row.oldStatus != row.replaced)
      (overtakenSync ++ [.write 1, .record 1]) (by decide)
    obtain ⟨row, member, differs⟩ := List.any_eq_true.mp passes
    exact ⟨s, reach, row, member, by simpa using differs⟩
  · obtain ⟨s, s', reach, committed, passes⟩ := exists_step (syncStep {}) {}
      (fun s s' => hasReturnedCreditsForLetter s.mail.commerce.account 40 &&
        (s.mail.letters.find 40).map MailItem.status == some .cancelled &&
        (s'.mail.letters.find 40).map MailItem.status == some .held)
      (triedAgain.map .mail ++ [.mail (.cancelScheduled 40 0 false),
        .mail (.dispatch { claim := stalledClaim, phase := .marked } .faults)])
      (.mail (.dispatch { claim := stalledClaim, phase := .uncertain } (.settles 0))) (by decide)
    simp only [Bool.and_eq_true, beq_iff_eq] at passes
    exact ⟨s, s', reach, committed, .inl passes.1.1, passes.1.2, passes.2⟩

end LetterIRL.Mail
