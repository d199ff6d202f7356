import LetterIRL.Mail.Withheld

namespace LetterIRL.Mail
open Lib Ledger Commerce Relation

/-! What one step can do to a letter, beside its job. -/

variable {cfg : Config} {s s' : Store} {event : Event}

/-- One change of a letter, with what the transaction making it checked; `jobs` are the jobs it left. -/
inductive LetterMove (s : Store) (event : Event) (jobs : Table LetterJob.jobId) (letter : MailItem) :
    MailItem → Prop
  | marked {worker : Worker} {job : LetterJob} (found : s.jobs.find worker.claim.jobId = some job)
      (same : job.letterId = letter.letterId) (owned : stillClaimed job worker.claim = true)
      (waiting : letter.status = .queued ∨ letter.status = .processing) :
      LetterMove s event jobs letter { letter with status := .processing }
  | quarantined {worker : Worker} {delay : Time} (here : event = .dispatch worker (.settles delay))
      (member : worker ∈ s.workers) (same : worker.claim.letterId = letter.letterId)
      (phase : worker.phase = .uncertain) : LetterMove s event jobs letter (quarantinedLetter letter)
  | accepted {job : LetterJob} (after : jobs.find job.jobId = some job) (completed : job.status = .completed)
      (outcome : job.providerOutcome = .accepted) (same : job.letterId = letter.letterId)
      (status : letter.status = .processing ∨ letter.status = .held) :
      LetterMove s event jobs letter { letter with status := .accepted, tracked := true }
  | rejected {worker : Worker} {job : LetterJob} (member : worker ∈ s.workers)
      (same : worker.claim.letterId = letter.letterId) (found : s.jobs.find worker.claim.jobId = some job)
      (taken : job.status = .processing) : LetterMove s event jobs letter { letter with status := .failed }
  | undispatched {worker : Worker} {job : LetterJob} (retryable : Bool) (member : worker ∈ s.workers)
      (same : worker.claim.letterId = letter.letterId) (found : s.jobs.find worker.claim.jobId = some job)
      (owned : stillClaimed job worker.claim = true) :
      LetterMove s event jobs letter (undispatchedLetter retryable letter)
  | cancelled (queued : letter.status = .queued) :
      LetterMove s event jobs letter { letter with status := .cancelled }
  | resolved (decision : AmbiguousMailDecision) (held : letter.status = .held) (undelivered : decision ≠ .accepted) :
      LetterMove s event jobs letter (resolvedLetter decision letter)
  | requeued (failed : letter.status = .failed) (owed : s.isLetterAlreadyCompensated letter.letterId = false) :
      LetterMove s event jobs letter { letter with status := .queued }
  | lost (tracked : letter.tracked = true) (going : letter.status ∉ ENDED_LETTER_STATUSES) :
      LetterMove s event jobs letter { letter with status := .failed }
  | synced (status : LetterStatus) (here : event = .syncStatus letter.letterId status)
      (tracked : letter.tracked = true) :
      LetterMove s event jobs letter { letter with status }
  | redacted (redacted : Bool) : LetterMove s event jobs letter { letter with redacted }
  | stopped {job : LetterJob} (found : s.jobOfLetter letter.letterId = some job)
      (undispatched : job.providerOutcome = .notDispatched) :
      LetterMove s event jobs letter (stoppedLetter .cancelled letter)
  | halted {job : LetterJob} (found : s.jobOfLetter letter.letterId = some job)
      (past : job.providerOutcome = .dispatching ∨ job.providerOutcome = .ambiguous) :
      LetterMove s event jobs letter (stoppedLetter .held letter)

theorem stoppedLetter_letterId (status : LetterStatus) (letter : MailItem) :
    (stoppedLetter status letter).letterId = letter.letterId := by
  unfold stoppedLetter
  split <;> rfl

theorem quarantinedLetter_letterId (letter : MailItem) :
    (quarantinedLetter letter).letterId = letter.letterId := by
  unfold quarantinedLetter
  split <;> rfl

theorem undispatchedLetter_letterId (retryable : Bool) (letter : MailItem) :
    (undispatchedLetter retryable letter).letterId = letter.letterId := by
  unfold undispatchedLetter
  split <;> rfl

theorem resolvedLetter_letterId (decision : AmbiguousMailDecision) (letter : MailItem) :
    (resolvedLetter decision letter).letterId = letter.letterId := by
  cases decision <;> rfl

/-- What a letter was sent as. -/
def MailItem.sentAs (letter : MailItem) : LetterId × Nat × Option Time :=
  (letter.letterId, letter.creditsCost, letter.mailOn)

theorem LetterMove.sentAs {jobs : Table LetterJob.jobId} {letter letter' : MailItem}
    (move : LetterMove s event jobs letter letter') : letter'.sentAs = letter.sentAs := by
  cases move with
  | quarantined =>
    unfold quarantinedLetter
    split <;> rfl
  | undispatched =>
    unfold undispatchedLetter
    split <;> rfl
  | resolved decision => cases decision <;> rfl
  | stopped | halted =>
    unfold stoppedLetter
    split <;> rfl
  | _ => rfl

/-- Every letter is there after the step, moved as a step can, beside a new one. -/
structure LettersMove (s : Store) (event : Event) (jobs : Table LetterJob.jobId)
    (before after : Table MailItem.letterId) : Prop where
  moved : ∀ letterId letter, before.find letterId = some letter →
    ∃ letter', after.find letterId = some letter' ∧
      (letter' = letter ∨ LetterMove s event jobs letter letter')
  kept : ∀ letterId, before.find letterId = none → after.find letterId = none

variable {jobs : Table LetterJob.jobId}

theorem LettersMove.refl (letters : Table MailItem.letterId) : LettersMove s event jobs letters letters where
  moved _ letter found := ⟨letter, found, .inl rfl⟩
  kept _ none := none

theorem LettersMove.put {letters : Table MailItem.letterId} {letterId : LetterId} {letter changed : MailItem}
    (found : letters.find letterId = some letter) (same : changed.letterId = letter.letterId)
    (move : LetterMove s event jobs letter changed) :
    LettersMove s event jobs letters (letters.put changed) := by
  have here : letters.find changed.letterId = some letter := by
    rw [same, Table.find_key found, found]
  refine ⟨fun other row atRow => ?_, fun other none => ?_⟩
  · by_cases hit : other = changed.letterId
    · subst hit
      rw [here] at atRow
      cases atRow
      exact ⟨changed, Table.find_put_self changed here, .inr move⟩
    · exact ⟨row, by rw [Table.find_put_of_ne hit, atRow], .inl rfl⟩
  · have miss : other ≠ changed.letterId := by
      rintro rfl
      rw [here] at none
      cases none
    rw [Table.find_put_of_ne miss, none]

theorem modifyLetter_moves {before : Store} {letterId : LetterId} {change : MailItem → MailItem}
    (same : ∀ letter, (change letter).letterId = letter.letterId)
    (moves : ∀ letter, before.letters.find letterId = some letter →
      LetterMove s event jobs letter (change letter)) :
    LettersMove s event jobs before.letters (before.modifyLetter letterId change).letters := by
  unfold Store.modifyLetter
  split
  · exact .refl _
  · rename_i letter found
    exact .put found (same letter) (moves letter found)

/-! A reversal reads a letter's job as the step found it: none of its writes crosses the marker. -/

/-- The provider may have been called for the letter. -/
def LetterJob.past (job : LetterJob) : Prop :=
  job.providerOutcome = .dispatching ∨ job.providerOutcome = .ambiguous

structure SameStage (old new : LetterJob) : Prop where
  letterId : new.letterId = old.letterId
  undispatched : new.providerOutcome = .notDispatched ↔ old.providerOutcome = .notDispatched
  past : new.past ↔ old.past

theorem LetterJob.past.dispatched {job : LetterJob} (past : job.past) : job.providerOutcome ≠ .notDispatched := by
  rcases past with dispatching | ambiguous
  · simp [dispatching]
  · simp [ambiguous]

theorem SameStage.refl (job : LetterJob) : SameStage job job := ⟨rfl, Iff.rfl, Iff.rfl⟩

theorem SameStage.trans {first second third : LetterJob} (left : SameStage first second)
    (right : SameStage second third) : SameStage first third :=
  ⟨right.letterId.trans left.letterId, right.undispatched.trans left.undispatched, right.past.trans left.past⟩

theorem jobOfLetter_update {before after : Store} {selected : LetterJob → Bool} {change : LetterJob → LetterJob}
    (rows : after.jobs.rows = updateWhere selected change before.jobs.rows)
    (same : ∀ job ∈ before.jobs.rows, selected job = true → SameStage job (change job)) (letterId : LetterId) :
    (before.jobOfLetter letterId = none ∧ after.jobOfLetter letterId = none) ∨
      ∃ old new, before.jobOfLetter letterId = some old ∧ after.jobOfLetter letterId = some new ∧
        SameStage old new := by
  have stays : ∀ job ∈ before.jobs.rows, SameStage job (if selected job then change job else job) := by
    intro job member
    split
    · rename_i hit
      exact same job member hit
    · exact .refl job
  have mapped : after.jobOfLetter letterId =
      (before.jobOfLetter letterId).map fun job => if selected job then change job else job := by
    unfold Store.jobOfLetter
    rw [rows, updateWhere, List.find?_map]
    congr 1
    refine List.find?_congr fun job member => ?_
    simp only [Function.comp_apply, (stays job member).letterId]
  rw [mapped]
  cases found : before.jobOfLetter letterId with
  | none => exact .inl ⟨rfl, rfl⟩
  | some old => exact .inr ⟨old, _, rfl, rfl, stays old (List.mem_of_find?_eq_some found)⟩

/-- What a stop leaves of a letter whose job the step found. -/
inductive Stops (s : Store) (letter : MailItem) : MailItem → Prop
  | spared : Stops s letter letter
  | stopped {job : LetterJob} (found : s.jobOfLetter letter.letterId = some job)
      (undispatched : job.providerOutcome = .notDispatched) : Stops s letter (stoppedLetter .cancelled letter)
  | halted {job : LetterJob} (found : s.jobOfLetter letter.letterId = some job) (past : job.past) :
      Stops s letter (stoppedLetter .held letter)

theorem stoppedLetter_again {status : LetterStatus} (letter : MailItem) :
    stoppedLetter status (stoppedLetter status letter) = stoppedLetter status letter := by
  by_cases taken : letter.status ∈ ACCEPTED_LETTER_STATUSES
  · simp [stoppedLetter, taken]
  · simp only [stoppedLetter, taken, if_false]
    split <;> rfl

theorem Stops.letterId {letter letter' : MailItem} (stops : Stops s letter letter') :
    letter'.letterId = letter.letterId := by
  cases stops with
  | spared => rfl
  | stopped | halted => exact stoppedLetter_letterId _ _

/-- A second stop of a letter finds it as the first left it. -/
theorem Stops.stop {letter letter' : MailItem} {job : LetterJob} (stops : Stops s letter letter')
    (found : s.jobOfLetter letter.letterId = some job) (undispatched : job.providerOutcome = .notDispatched) :
    Stops s letter (stoppedLetter .cancelled letter') := by
  cases stops with
  | spared => exact .stopped found undispatched
  | stopped =>
    rw [stoppedLetter_again]
    exact .stopped found undispatched
  | halted other past =>
    rw [found] at other
    cases other
    simp [LetterJob.past, undispatched] at past

theorem Stops.halt {letter letter' : MailItem} {job : LetterJob} (stops : Stops s letter letter')
    (found : s.jobOfLetter letter.letterId = some job) (past : job.past) :
    Stops s letter (stoppedLetter .held letter') := by
  cases stops with
  | spared => exact .halted found past
  | halted =>
    rw [stoppedLetter_again]
    exact .halted found past
  | stopped other undispatched =>
    rw [found] at other
    cases other
    simp [LetterJob.past, undispatched] at past

/-- The mail of a store some reversals have passed over. -/
structure Reversing (s mid : Store) : Prop where
  jobs : ∀ letterId, (s.jobOfLetter letterId = none ∧ mid.jobOfLetter letterId = none) ∨
    ∃ old new, s.jobOfLetter letterId = some old ∧ mid.jobOfLetter letterId = some new ∧ SameStage old new
  moved : ∀ letterId letter, s.letters.find letterId = some letter →
    ∃ letter', mid.letters.find letterId = some letter' ∧ Stops s letter letter'
  kept : ∀ letterId, s.letters.find letterId = none → mid.letters.find letterId = none

theorem Reversing.jobs_trans {mid last : Store} (reversing : Reversing s mid)
    (jobs : ∀ letterId, (mid.jobOfLetter letterId = none ∧ last.jobOfLetter letterId = none) ∨
      ∃ old new, mid.jobOfLetter letterId = some old ∧ last.jobOfLetter letterId = some new ∧ SameStage old new) :
    ∀ letterId, (s.jobOfLetter letterId = none ∧ last.jobOfLetter letterId = none) ∨
      ∃ old new, s.jobOfLetter letterId = some old ∧ last.jobOfLetter letterId = some new ∧ SameStage old new := by
  intro letterId
  rcases reversing.jobs letterId with ⟨none, gone⟩ | ⟨old, middle, atOld, atMiddle, same⟩
  · rcases jobs letterId with ⟨-, last⟩ | ⟨other, _, found, -⟩
    · exact .inl ⟨none, last⟩
    · rw [gone] at found
      cases found
  · rcases jobs letterId with ⟨none, -⟩ | ⟨other, new, found, atNew, next⟩
    · rw [atMiddle] at none
      cases none
    · rw [atMiddle] at found
      cases found
      exact .inr ⟨old, new, atOld, atNew, same.trans next⟩

theorem Reversing.start (same : s'.jobs = s.jobs) (letters : s'.letters = s.letters) : Reversing s s' where
  jobs letterId := by
    have jobs : s'.jobOfLetter letterId = s.jobOfLetter letterId := by
      unfold Store.jobOfLetter
      rw [same]
    rw [jobs]
    cases found : s.jobOfLetter letterId with
    | none => exact .inl ⟨rfl, rfl⟩
    | some job => exact .inr ⟨job, job, rfl, rfl, .refl job⟩
  moved letterId letter found := ⟨letter, by rw [letters, found], .spared⟩
  kept letterId none := by rw [letters, none]

theorem modifyLetter_letters {before other : Store} {letterId : LetterId} {change : MailItem → MailItem}
    (same : before.letters = other.letters) :
    (before.modifyLetter letterId change).letters = (other.modifyLetter letterId change).letters := by
  unfold Store.modifyLetter
  rw [same]
  split
  · exact same
  · unfold Store.setLetter
    rw [same]

/-- A stop writes the letter's job and the letter. -/
theorem Reversing.stop {mid : Store} {letterId : LetterId} {job changed : LetterJob} {status : LetterStatus}
    (reversing : Reversing s mid) (found : mid.jobOfLetter letterId = some job)
    (named : changed.jobId = job.jobId) (same : SameStage job changed)
    (stops : ∀ letter letter', letter.letterId = letterId → Stops s letter letter' →
      Stops s letter (stoppedLetter status letter')) :
    Reversing s ((mid.setJob changed).modifyLetter letterId (stoppedLetter status)) := by
  obtain ⟨stored, -⟩ := jobOfLetter_find found
  have atLetters : ((mid.setJob changed).modifyLetter letterId (stoppedLetter status)).letters =
      (mid.modifyLetter letterId (stoppedLetter status)).letters := modifyLetter_letters rfl
  refine ⟨reversing.jobs_trans (jobOfLetter_update (by rw [modifyLetter_jobs]; exact Table.put_rows _ _) fun row member hit => ?_), ?_, ?_⟩
  · have sameRow : row = job := by
      have key : row.jobId = job.jobId := by
        rw [← named]
        simpa using hit
      exact eq_of_key_eq mid.jobs.unique member (Table.find_mem stored) key
    rw [sameRow]
    exact same
  · intro other letter atLetter
    obtain ⟨letter', atMiddle, stopped⟩ := reversing.moved other letter atLetter
    rw [atLetters]
    unfold Store.modifyLetter
    split
    · exact ⟨letter', atMiddle, stopped⟩
    · rename_i row atRow
      by_cases hit : other = letterId
      · subst hit
        rw [atMiddle] at atRow
        cases atRow
        refine ⟨stoppedLetter status letter', Table.find_put_over atMiddle (stoppedLetter_letterId _ _), ?_⟩
        exact stops letter letter' (Table.find_key atLetter) stopped
      · have miss : other ≠ (stoppedLetter status row).letterId := by
          rw [stoppedLetter_letterId, Table.find_key atRow]
          exact hit
        exact ⟨letter', (Table.find_put_of_ne miss).trans atMiddle, stopped⟩
  · intro other none
    have gone := reversing.kept other none
    rw [atLetters]
    unfold Store.modifyLetter
    split
    · exact gone
    · rename_i row atRow
      have miss : other ≠ (stoppedLetter status row).letterId := by
        rw [stoppedLetter_letterId, Table.find_key atRow]
        rintro rfl
        rw [atRow] at gone
        cases gone
      exact (Table.find_put_of_ne miss).trans gone

theorem stoppedJob_stage {reason : JobHoldReason} (job : LetterJob) : SameStage job (stoppedJob reason job) := by
  unfold stoppedJob
  split
  · exact .refl job
  · exact ⟨rfl, Iff.rfl, Iff.rfl⟩

theorem Reversing.stopFundedMail {mid : Store} (reversing : Reversing s mid) (order : Order)
    (reason : JobHoldReason) : Reversing s (stopFundedMail mid order reason) := by
  unfold Mail.stopFundedMail
  split
  · rename_i letterId _ _
    split
    · exact reversing
    · rename_i job found
      have origin : ∃ old, s.jobOfLetter letterId = some old ∧ SameStage old job := by
        rcases reversing.jobs letterId with ⟨-, none⟩ | ⟨old, new, atOld, atNew, same⟩
        · rw [found] at none
          cases none
        · rw [found] at atNew
          cases atNew
          exact ⟨old, atOld, same⟩
      obtain ⟨old, atOld, same⟩ := origin
      have halts : job.past → Reversing s ((mid.setJob (haltedJob reason job)).modifyLetter letterId
          (stoppedLetter .held)) := fun past =>
        reversing.stop found rfl ⟨rfl, by simp [haltedJob, past.dispatched], iff_of_true (.inr rfl) past⟩
          fun letter letter' named stops => stops.halt (named ▸ atOld) (same.past.mp past)
      split
      · rename_i undispatched
        exact reversing.stop found (stoppedJob_jobId reason job) (stoppedJob_stage job)
          fun letter letter' named stops => stops.stop (named ▸ atOld) (same.undispatched.mp undispatched)
      · rename_i dispatching
        exact halts (.inl dispatching)
      · rename_i ambiguous
        exact halts (.inr ambiguous)
      · exact reversing
  · exact reversing

theorem Reversing.holdMailFundedByOrder {mid : Store} (reversing : Reversing s mid) (order : Order)
    (reason : JobHoldReason) : Reversing s (holdMailFundedByOrder mid order reason) := by
  unfold Mail.holdMailFundedByOrder
  split
  · exact reversing
  · exact ⟨reversing.jobs_trans (jobOfLetter_update rfl fun _ _ _ => ⟨rfl, Iff.rfl, Iff.rfl⟩), reversing.moved,
      reversing.kept⟩

theorem Reversing.applyReversal {mid : Store} (reversing : Reversing s mid) (reversal : Reversal) :
    Reversing s (applyReversal mid reversal) := by
  have stopped := reversing.stopFundedMail reversal.order reversal.stop
  unfold Mail.applyReversal
  dsimp only
  split
  · exact stopped
  · rename_i reason _
    have held := stopped.holdMailFundedByOrder reversal.order reason
    split
    · exact ⟨held.jobs, held.moved, held.kept⟩
    · exact held

theorem Reversing.applyReversals {mid : Store} (reversing : Reversing s mid) (reversed : List Reversal) :
    Reversing s (reversed.foldl Mail.applyReversal mid) := by
  induction reversed generalizing mid with
  | nil => exact reversing
  | cons reversal reversed ih => exact ih (reversing.applyReversal reversal)

theorem Stops.moves {letter letter' : MailItem} (stops : Stops s letter letter') :
    letter' = letter ∨ LetterMove s event jobs letter letter' := by
  cases stops with
  | spared => exact .inl rfl
  | stopped found undispatched => exact .inr (.stopped found undispatched)
  | halted found past => exact .inr (.halted found past)

/-! Every step. -/

/-- A send queued its letter: one new letter, and its one new job. -/
def Queues (cfg : Config) (s : Store) (event : Event) (s' : Store) : Prop :=
  ∃ commerce mail after letter, event = .commerce commerce mail ∧
    Commerce.step cfg s.commerce commerce = .ok after ∧ newLetter s.commerce after = some letter ∧
    ∃ (freshJob : mail.jobId ∉ s.jobs.rows.map LetterJob.jobId)
      (freshLetter : (queuedLetter { s with commerce := after } letter mail).letterId ∉
        s.letters.rows.map MailItem.letterId),
      Funds cfg letter.letterId False { s with
        commerce := after
        letters := s.letters.insert (queuedLetter { s with commerce := after } letter mail) freshLetter
        jobs := s.jobs.insert (newJob after.now mail.jobId letter.letterId mail.mailOn mail.maxAttempts)
          freshJob } s'

/-- Any other step moves the letters and jobs there are. -/
structure MovesMail (s : Store) (event : Event) (s' : Store) : Prop where
  jobs : s'.jobs.rows.map LetterJob.jobId = s.jobs.rows.map LetterJob.jobId
  letters : LettersMove s event s'.jobs s.letters s'.letters

theorem setJob_keys (s : Store) (job : LetterJob) :
    (s.setJob job).jobs.rows.map LetterJob.jobId = s.jobs.rows.map LetterJob.jobId := Table.put_keys _ _

theorem modifyJob_keys (s : Store) (jobId : JobId) (change : LetterJob → LetterJob) :
    (s.modifyJob jobId change).jobs.rows.map LetterJob.jobId = s.jobs.rows.map LetterJob.jobId := by
  unfold Store.modifyJob
  split
  · rfl
  · exact setJob_keys _ _

theorem stopFundedMail_keys (s : Store) (order : Order) (reason : JobHoldReason) :
    (stopFundedMail s order reason).jobs.rows.map LetterJob.jobId = s.jobs.rows.map LetterJob.jobId := by
  unfold stopFundedMail
  split
  · split
    · rfl
    · split
      all_goals first
        | rfl
        | (rw [modifyLetter_jobs]; exact setJob_keys _ _)
  · rfl

theorem applyReversals_keys (s : Store) (reversed : List Reversal) :
    (reversed.foldl applyReversal s).jobs.rows.map LetterJob.jobId = s.jobs.rows.map LetterJob.jobId := by
  induction reversed generalizing s with
  | nil => rfl
  | cons reversal reversed ih =>
    refine (ih (applyReversal s reversal)).trans ?_
    have stopped := stopFundedMail_keys s reversal.order reversal.stop
    have held : ∀ reason, (holdMailFundedByOrder (stopFundedMail s reversal.order reversal.stop) reversal.order
        reason).jobs.rows.map LetterJob.jobId = s.jobs.rows.map LetterJob.jobId := by
      intro reason
      unfold holdMailFundedByOrder
      split
      · exact stopped
      · rw [← stopped]
        exact map_updateWhere _ fun _ => rfl
    unfold applyReversal
    dsimp only
    split
    · exact stopped
    · split
      · exact held _
      · exact held _

/-- A transaction of commerce queues a letter, or only reverses mail. -/
theorem commerceStep_letters {commerce : Commerce.Event} {mail : NewMail}
    (committed : commerceStep cfg s commerce mail = .ok s') :
    Queues cfg s (.commerce commerce mail) s' ∨ MovesMail s (.commerce commerce mail) s' := by
  obtain ⟨-, after, stepped, ⟨-, rfl⟩ | ⟨letter, new, queued⟩⟩ := commerceStep_ok committed
  · refine .inr ⟨applyReversals_keys _ _, ?_⟩
    have start : Reversing s { s with commerce := after } := .start rfl rfl
    have reversing := start.applyReversals (reversals cfg s.commerce commerce)
    exact ⟨fun letterId letter found => (reversing.moved letterId letter found).imp fun _ both =>
      ⟨both.1, both.2.moves⟩, reversing.kept⟩
  · -- a transaction that reverses money queues no letter
    have none : reversals cfg s.commerce commerce = [] := by
      refine List.eq_nil_iff_forall_not_mem.mpr fun reversal member => ?_
      rw [newLetter_none (reversals_mem member stepped).1] at new
      cases new
    rw [none] at queued
    obtain ⟨freshJob, freshLetter, funds⟩ := queueMail_ok queued
    exact .inl ⟨commerce, mail, after, letter, rfl, stepped, new, freshJob, freshLetter, funds⟩

/-- What a step of a dispatch wrote besides the dispatch's own phase. -/
inductive Dispatches (cfg : Config) (s : Store) (worker : Worker) (dispatch : DispatchEvent) : Store → Prop
  | nothing : Dispatches cfg s worker dispatch s
  | marks {marked : Store} {dispatched : Bool} (phase : worker.phase = .claimed)
      (mark : markProviderDispatch s worker.claim = .ok (marked, dispatched)) : Dispatches cfg s worker dispatch marked
  | settles {settled : Store} (delay : Time) (here : dispatch = .settles delay)
      (done : settleDispatch cfg s worker delay = .ok settled) : Dispatches cfg s worker dispatch settled

theorem processClaimedJob_ok {worker : Worker} {dispatch : DispatchEvent}
    (stepped : processClaimedJob cfg s worker dispatch = .ok s') :
    worker ∈ s.workers ∧ ∃ written, Dispatches cfg s worker dispatch written ∧
      ∃ workers submissions, s' = { written with workers, submissions } := by
  unfold processClaimedJob at stepped
  split at stepped
  · cases stepped
  rename_i present
  refine ⟨by simpa using present, ?_⟩
  cases dispatch with
  | crashes =>
    cases stepped
    exact ⟨s, .nothing, _, s.submissions, rfl⟩
  | faults =>
    dsimp only at stepped
    split at stepped
    · cases stepped
    · cases stepped
      exact ⟨s, .nothing, _, s.submissions, rfl⟩
  | marks =>
    dsimp only at stepped
    split at stepped
    · cases stepped
    · rename_i phase
      obtain ⟨⟨marked, dispatched⟩, mark, rest⟩ := bind_eq_ok.mp stepped
      cases rest
      refine ⟨marked, .marks (by simpa using phase) mark, ?_⟩
      split
      · exact ⟨_, marked.submissions, rfl⟩
      · exact ⟨_, marked.submissions, rfl⟩
  | submits provider =>
    dsimp only at stepped
    split at stepped
    · cases stepped
    · unfold submitToProvider at stepped
      split at stepped
      · cases stepped
      · split at stepped
        · cases stepped
          exact ⟨s, .nothing, _, s.submissions, rfl⟩
        · cases stepped
          exact ⟨s, .nothing, _, _, rfl⟩
  | answered answer =>
    dsimp only at stepped
    split at stepped
    · cases stepped
    · cases stepped
      exact ⟨s, .nothing, _, s.submissions, rfl⟩
  | settles delay =>
    dsimp only at stepped
    split at stepped
    · cases stepped
      refine ⟨s, .nothing, ?_⟩
      split
      · exact ⟨_, s.submissions, rfl⟩
      · exact ⟨_, s.submissions, rfl⟩
    · obtain ⟨settled, done, rest⟩ := bind_eq_ok.mp stepped
      cases rest
      exact ⟨settled, .settles delay rfl done, _, settled.submissions, rfl⟩

theorem settleDispatch_letters {worker : Worker} {delay : Time} (here : event = .dispatch worker (.settles delay))
    (member : worker ∈ s.workers) (settled : settleDispatch cfg s worker delay = .ok s') : MovesMail s event s' := by
  unfold settleDispatch at settled
  split at settled
  · rcases failBeforeDispatch_ok settled with rfl | ⟨job, letter, found, atLetter, owned, ⟨-, rfl⟩ | ⟨-, funds⟩⟩
    · exact ⟨rfl, .refl _⟩
    · exact ⟨setJob_keys _ _, .refl _⟩
    · refine ⟨by rw [funds.jobs]; exact setJob_keys _ _, ?_⟩
      rw [funds.letters]
      exact .put atLetter (undispatchedLetter_letterId _ _)
        (.undispatched _ member (Table.find_key atLetter).symm found owned)
  · obtain ⟨job, found, ⟨rfl, -⟩ | ⟨letter, atLetter, -, status, funds⟩⟩ := completeJob_ok cfg settled
    · exact ⟨rfl, .refl _⟩
    · refine ⟨by rw [funds.jobs]; exact setJob_keys _ _, ?_⟩
      have here : s.jobs.find job.jobId = some job := Table.find_of_mem (Table.find_mem found)
      obtain ⟨done, stored, completed, outcome, same⟩ : ∃ done : LetterJob, s'.jobs.find done.jobId = some done ∧
          done.status = .completed ∧ done.providerOutcome = .accepted ∧ done.letterId = job.letterId := by
        refine ⟨{ job with status := .completed, providerOutcome := .accepted, lockedAt := none }, ?_, rfl, rfl, rfl⟩
        rw [funds.jobs]
        exact Table.find_put_over here rfl
      rw [funds.letters]
      exact .put atLetter rfl (.accepted stored completed outcome (same.trans (Table.find_key atLetter).symm) status)
  · rcases failOrRescheduleJob_ok settled with rfl | ⟨job, letter, found, atLetter, taken, -, funds⟩
    · exact ⟨rfl, .refl _⟩
    · refine ⟨by rw [funds.jobs]; exact setJob_keys _ _, ?_⟩
      rw [funds.letters]
      exact .put atLetter rfl (.rejected member (Table.find_key atLetter).symm found taken)
  · rename_i phase
    have funds := holdAmbiguousDispatch_ok cfg settled
    refine ⟨by rw [funds.jobs, modifyLetter_jobs]; exact modifyJob_keys _ _ _, ?_⟩
    rw [funds.letters]
    have letters : (s.modifyJob worker.claim.jobId ambiguousJob).letters = s.letters := modifyJob_letters _ _ _
    have moved : LettersMove s event s'.jobs (s.modifyJob worker.claim.jobId ambiguousJob).letters _ :=
      modifyLetter_moves quarantinedLetter_letterId fun letter found =>
        .quarantined here member (Table.find_key found).symm phase
    rwa [letters] at moved
  · cases settled

theorem step_letters (committed : step cfg s event = .ok s') : Queues cfg s event s' ∨ MovesMail s event s' := by
  cases event with
  | commerce commerce mail => exact commerceStep_letters committed
  | redeemCode userId sameAddress code =>
    simp only [step, redeemCode] at committed
    split at committed
    · cases committed
    · cases committed
      exact .inr ⟨rfl, .refl _⟩
  | claim jobId =>
    obtain ⟨job, -, -, rfl⟩ := claimJob_ok committed
    exact .inr ⟨setJob_keys _ _, .refl _⟩
  | dispatch worker dispatch =>
    refine .inr ?_
    obtain ⟨member, written, dispatches, workers, submissions, rfl⟩ := processClaimedJob_ok committed
    have moves : MovesMail s (.dispatch worker dispatch) written := by
      cases dispatches with
      | nothing => exact ⟨rfl, .refl _⟩
      | marks phase mark =>
        obtain ⟨job, letter, found, atLetter, -, owned, waiting, -, ⟨-, -, rfl⟩ | ⟨-, -, rfl⟩⟩ :=
          markProviderDispatch_ok mark
        · exact ⟨setJob_keys _ _, .refl _⟩
        · exact ⟨setJob_keys _ _, .put atLetter rfl (.marked found (Table.find_key atLetter).symm owned waiting)⟩
      | settles delay here done => exact settleDispatch_letters (congrArg (Event.dispatch worker) here) member done
    exact ⟨moves.jobs, moves.letters⟩
  | sweepDispatched jobId =>
    simp only [step, sweepDispatched] at committed
    split at committed
    · cases committed
    · split at committed
      · cases committed
        exact .inr ⟨rfl, .refl _⟩
      · cases committed
  | sweepPutBack =>
    cases committed
    exact .inr ⟨map_updateWhere _ fun _ => rfl, .refl _⟩
  | sweepUndispatched jobId =>
    simp only [step, sweepUndispatched] at committed
    split at committed
    · cases committed
    · split at committed
      · cases committed
        exact .inr ⟨rfl, .refl _⟩
      · cases committed
  | cancelScheduled letterId userId busy =>
    cases committed
    refine .inr ?_
    rcases cancelScheduledMail_ok cfg s letterId userId busy with
      same | ⟨job, letter, -, atLetter, queued, -, -, funds⟩
    · rw [same]
      exact ⟨rfl, .refl _⟩
    · refine ⟨by rw [funds.jobs]; exact setJob_keys _ _, ?_⟩
      rw [funds.letters]
      exact .put atLetter rfl (.cancelled queued)
  | cancelLeft jobId expectedUserId =>
    obtain ⟨job, letter, -, atLetter, -, queued, -, -, -, -, rfl⟩ := cancelLeftLetterJob_ok committed
    have funds : Funds cfg _ _ _ _ := returnPrepaidCredits_funds
      (cancelMail s { job with operatorResolution := some .operatorCancelled } letter) job.letterId
    refine .inr ⟨by rw [funds.jobs]; exact setJob_keys _ _, ?_⟩
    rw [funds.letters]
    exact .put atLetter rfl (.cancelled queued)
  | resolve jobId expectedUserId decision provider =>
    obtain ⟨job, letter, found, atLetter, held, -, -, -, funds⟩ := resolveAmbiguousLetterJob_ok committed
    refine .inr ⟨by rw [funds.jobs]; exact setJob_keys _ _, ?_⟩
    have stored : s'.jobs.find (resolvedJob s.now decision job).jobId = some (resolvedJob s.now decision job) := by
      rw [funds.jobs]
      have before : s.jobs.find (resolvedJob s.now decision job).jobId = some job := by
        rw [resolvedJob_jobId]
        exact Table.find_of_mem (Table.find_mem found)
      exact Table.find_put_self _ before
    rw [funds.letters]
    refine .put atLetter (resolvedLetter_letterId _ _) ?_
    cases decision with
    | accepted => exact .accepted stored rfl rfl (Table.find_key atLetter).symm (.inr held)
    | retry => exact .resolved .retry held (by decide)
    | rejected => exact .resolved .rejected held (by decide)
  | retry jobId expectedUserId =>
    obtain ⟨job, letter, -, atLetter, -, -, failed, owed, funds⟩ := retryLetterJob_ok cfg committed
    refine .inr ⟨by rw [funds.jobs]; exact setJob_keys _ _, ?_⟩
    rw [funds.letters]
    exact .put atLetter rfl (.requeued failed (by rw [Table.find_key atLetter]; exact owed))
  | release jobId expectedUserId =>
    obtain ⟨job, letter, -, -, -, -, -, rfl⟩ := releaseHeldLetterJob_ok committed
    exact .inr ⟨setJob_keys _ _, .refl _⟩
  | providerCancelled letterId =>
    simp only [step, failProviderCancelledLetter] at committed
    split at committed
    · cases committed
    · rename_i letter found
      split at committed
      · cases committed
      · rename_i guard
        simp only [Bool.or_eq_true, Bool.not_eq_true', decide_eq_true_eq, not_or, Bool.not_eq_false] at guard
        have moves : LettersMove s (.providerCancelled letterId) s.jobs s.letters
            (s.letters.put { letter with status := .failed }) := .put found rfl (.lost guard.1 guard.2)
        cases committed
        split
        · exact .inr ⟨rfl, moves⟩
        · have funds : Funds cfg _ _ _ _ :=
            returnPrepaidCredits_funds (s.setLetter { letter with status := .failed }) letterId
          refine .inr ⟨by rw [funds.jobs]; rfl, ?_⟩
          rw [funds.jobs, funds.letters]
          exact moves
  | syncStatus letterId status =>
    simp only [step, syncStatus] at committed
    split at committed
    · cases committed
    · rename_i letter found
      split at committed
      · cases committed
      · rename_i guard
        simp only [Bool.or_eq_true, Bool.not_eq_true', not_or, Bool.not_eq_false] at guard
        cases committed
        exact .inr ⟨rfl, .put found rfl (.synced status (by rw [Table.find_key found]) guard.1)⟩
  | redact letterId redacted =>
    cases committed
    exact .inr ⟨by rw [redactLetter, modifyLetter_jobs], modifyLetter_moves (fun _ => rfl) fun _ _ => .redacted redacted⟩

end LetterIRL.Mail
