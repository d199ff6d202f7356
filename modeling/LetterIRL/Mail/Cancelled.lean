import LetterIRL.Mail.Returns

namespace LetterIRL.Mail
open Lib Ledger Commerce Relation

/-! Held mail a cancel has taken: cancelled once, and never dispatched afterwards. -/

variable {cfg : Config} {s s' : Store} {event : Event} {jobId : JobId} {letterId : LetterId}

/-- A cancelled letter and its job, with no dispatch of it past the marker. -/
structure Cancelled (s : Store) (jobId : JobId) (letterId : LetterId) : Prop where
  job : ∃ job, s.jobs.find jobId = some job ∧ job.letterId = letterId ∧ job.status = .cancelled ∧
    job.providerOutcome = .notDispatched
  letter : ∃ letter, s.letters.find letterId = some letter ∧ letter.status = .cancelled
  idle : Idle s jobId

/-- A cancelled job stays cancelled: no release or retry is for it. -/
theorem JobMove.cancelled_kept {job job' : LetterJob} (move : JobMove s event job job')
    (cancelled : job.status = .cancelled) (undispatched : job.providerOutcome = .notDispatched)
    (idle : Idle s job.jobId) : job'.status = .cancelled ∧ job'.providerOutcome = .notDispatched := by
  have past : ∀ {worker : Worker}, worker ∈ s.workers → worker.claim.jobId = job.jobId →
      worker.phase ≠ .claimed → worker.phase ≠ .faulted → False := by
    intro worker member same claimed faulted
    have behind := idle worker member same
    simp [Worker.pastMarker, claimed, faulted] at behind
  cases move with
  | claimed here candidate =>
    obtain ⟨-, -, waiting⟩ := claimable_iff candidate
    simp [cancelled] at waiting
  | putBack taken => simp [cancelled] at taken
  | marked here member same phase owned free => simp [stillClaimed, cancelled] at owned
  | quarantined _ _ member same phase => exact (past member same (by simp [phase]) (by simp [phase])).elim
  | completed member same phase _ => exact (past member same (by simp [phase]) (by simp [phase])).elim
  | rejected member same phase _ _ => exact (past member same (by simp [phase]) (by simp [phase])).elim
  | undispatched delay member same phase owned free => simp [stillClaimed, cancelled] at owned
  | cancelled resolution pending => simp [cancelled] at pending
  | resolved here held => simp [cancelled] at held
  | requeued here failed => simp [cancelled] at failed
  | released here pending => simp [cancelled] at pending
  | stopped reason =>
    unfold stoppedJob
    rw [if_neg (by simp [cancelled])]
    exact ⟨rfl, undispatched⟩
  | halted reason past => simp [undispatched] at past
  | withheld funding waiting => simp [cancelled] at waiting

/-- And so does its letter. -/
theorem LetterMove.cancelled_kept {jobs : Table LetterJob.jobId} {letter letter' : MailItem} {job : LetterJob}
    (move : LetterMove s event jobs letter letter') (settled : Settled s) (status : letter.status = .cancelled)
    (member : letter ∈ s.letters.rows) (found : s.jobs.find jobId = some job) (named : job.letterId = letter.letterId)
    (cancelled : job.status = .cancelled) (undispatched : job.providerOutcome = .notDispatched)
    (idle : Idle s jobId) : letter'.status = .cancelled := by
  -- every dispatch of the letter is of that job
  have only : ∀ worker ∈ s.workers, worker.claim.letterId = letter.letterId → worker.claim.jobId = jobId := by
    intro worker inWorkers same
    obtain ⟨other, atOther, ofLetter⟩ := settled.filed.claims worker inWorkers
    have ids := settled.filed.oneJob other (Table.find_mem atOther) job (Table.find_mem found)
      (ofLetter.trans (same.trans named.symm))
    rwa [Table.find_key atOther, Table.find_key found] at ids
  have own : ∀ worker ∈ s.workers, worker.claim.letterId = letter.letterId → ∀ other,
      s.jobs.find worker.claim.jobId = some other → other.status ≠ .processing := by
    intro worker inWorkers same other atOther
    rw [only worker inWorkers same, found] at atOther
    cases atOther
    simp [cancelled]
  have ofLetter : ∀ other, s.jobOfLetter letter.letterId = some other → other = job := by
    intro other atOther
    obtain ⟨there, same⟩ := jobOfLetter_find atOther
    have ids := settled.filed.oneJob other (Table.find_mem there) job (Table.find_mem found)
      (same.trans named.symm)
    rw [ids, Table.find_key found, found] at there
    exact (Option.some.inj there).symm
  cases move with
  | marked _ _ _ waiting => simp [status] at waiting
  | quarantined _ inWorkers same phase =>
    have behind := idle _ inWorkers (only _ inWorkers same)
    simp [Worker.pastMarker, phase] at behind
  | accepted _ _ _ _ waiting => simp [status] at waiting
  | rejected inWorkers same atOther taken => exact absurd taken (own _ inWorkers same _ atOther)
  | undispatched retryable inWorkers same atOther owned =>
    exact absurd (stillClaimed_iff.mp owned).1 (own _ inWorkers same _ atOther)
  | cancelled queued => rfl
  | resolved decision held => simp [status] at held
  | requeued failed => simp [status] at failed
  | lost tracked going => simp [status, ENDED_LETTER_STATUSES] at going
  | synced _ _ tracked =>
    have delivered := settled.tracked letter member tracked job (Table.find_mem found) named
    simp [LetterJob.delivered, cancelled] at delivered
  | redacted => exact status
  | stopped =>
    unfold stoppedLetter
    split
    · exact status
    · rfl
  | halted atOther past =>
    rw [ofLetter _ atOther, undispatched] at past
    simp at past

theorem Cancelled.step (cancelled : Cancelled s jobId letterId) (settled : Settled s)
    (committed : step cfg s event = .ok s') :
    Cancelled s' jobId letterId ∧ s'.submissions.count jobId = s.submissions.count jobId := by
  obtain ⟨⟨job, found, named, status, undispatched⟩, ⟨letter, atLetter, ended⟩, idle⟩ := cancelled
  obtain ⟨job', found', moves⟩ := (step_moves committed).jobs.moved jobId job found
  have kept : job'.status = .cancelled ∧ job'.providerOutcome = .notDispatched :=
    moves.invariant (I := fun job => job.status = .cancelled ∧ job.providerOutcome = .notDispatched)
      ⟨status, undispatched⟩ fun before after same holds move => by
        rw [Table.find_key found] at same
        exact move.cancelled_kept holds.1 holds.2 (same.symm ▸ idle)
  obtain ⟨still, same⟩ := idle.step found ⟨undispatched, .inl status⟩ committed
  refine ⟨⟨⟨job', found', moves.letterId.trans named, kept⟩, ?_, still⟩, same⟩
  have key := Table.find_key atLetter
  rcases step_letters committed with ⟨commerce, mail, _, new, rfl, stepped, first, freshJob, freshLetter, funds⟩ | moved
  · refine ⟨letter, ?_, ended⟩
    rw [funds.letters]
    exact Table.find_insert_kept freshLetter atLetter
  · obtain ⟨letter', atLetter', change⟩ := moved.letters.moved letterId letter atLetter
    refine ⟨letter', atLetter', ?_⟩
    rcases change with rfl | move
    · exact ended
    · exact move.cancelled_kept settled ended (Table.find_mem atLetter) found (named.trans key.symm) status
        undispatched idle

/-- Nobody cancels it again. -/
theorem Cancelled.again (cancelled : Cancelled s jobId letterId) :
    (∀ userId busy, (cancelScheduledMail cfg s letterId userId busy).1 = s) ∧
      ∀ userId s', cancelLeftLetterJob cfg s jobId userId ≠ .ok s' := by
  obtain ⟨⟨job, found, named, status, -⟩, ⟨letter, atLetter, ended⟩, -⟩ := cancelled
  refine ⟨fun userId busy => ?_, fun userId s' committed => ?_⟩
  · rcases cancelScheduledMail_ok cfg s letterId userId busy with same | ⟨_, other, -, there, queued, -⟩
    · exact same
    · rw [atLetter] at there
      cases there
      rw [ended] at queued
      cases queued
  · obtain ⟨other, -, there, -, -, -, -, -, pending, -⟩ := cancelLeftLetterJob_ok committed
    rw [found] at there
    cases there
    rw [status] at pending
    cases pending

/-- The run lemma: a cancelled letter is never dispatched, nor cancelled again. -/
theorem Cancelled.run (cancelled : Cancelled s jobId letterId) (settled : Settled s)
    (reach : Reach (Mail.step cfg) anyStep s s') :
    Cancelled s' jobId letterId ∧ s'.submissions.count jobId = s.submissions.count jobId := by
  have all : Settled s' ∧ Cancelled s' jobId letterId ∧ s'.submissions.count jobId = s.submissions.count jobId := by
    refine reach.invariant (I := fun after => Settled after ∧ Cancelled after jobId letterId ∧
      after.submissions.count jobId = s.submissions.count jobId) ⟨settled, cancelled, rfl⟩
      fun before event after holds _ committed => ?_
    obtain ⟨settled, cancelled, same⟩ := holds
    obtain ⟨kept, unsent⟩ := cancelled.step settled committed
    exact ⟨settled.step committed, kept, unsent.trans same⟩
  exact all.2

/-! What a cancel does. -/

/-- A held letter is cancelled: what it consumed that its account can spend again is back on the
balance, and unless a dispatch of an earlier attempt is past its marker, which only a decision to
try again can leave, nothing dispatches or cancels it afterwards. -/
structure CancelsMail (cfg : Config) (s s' : Store) (jobId : JobId) (letterId : LetterId) : Prop where
  job : ∃ job, s.jobs.find jobId = some job ∧ job.letterId = letterId ∧ job.status = .pending ∧
    job.providerOutcome = .notDispatched
  letter : ∃ letter, s.letters.find letterId = some letter ∧ letter.status = .queued
  credits : s'.commerce.account.credits =
    s.commerce.account.credits + usableCredits s.now s.commerce.account letterId
  after : Idle s jobId ∨ Reach (step cfg) (fun _ event => Unretried jobId event) {} s →
    ∀ later, Reach (step cfg) anyStep s' later → Cancelled later jobId letterId ∧
      later.submissions.count jobId = s.submissions.count jobId ∧
      (∀ userId busy, (cancelScheduledMail cfg later letterId userId busy).1 = later) ∧
      ∀ userId again, cancelLeftLetterJob cfg later jobId userId ≠ .ok again

/-- What a cancel gives back of what paid for the letter, beside credits. -/
def ReturnsGift (cfg : Config) (cause : Gift.ReturnCause) (s s' : Store) (letterId : LetterId)
    (reported : Nat → GiftLetter → Prop) : Prop :=
  ∃ gift ∈ s.commerce.giftLetters.rows, gift.consumedByLetterId = some letterId ∧
    gift.userId = s.commerce.userId ∧
    ∃ returned, GiftBack cfg cause s s' letterId gift returned ∧ reported returned gift

theorem GiftBack.of_cancelled {cause : Gift.ReturnCause} {job : LetterJob} {letter : MailItem} {gift : GiftLetter}
    {returned : Nat} (back : GiftBack cfg cause (cancelMail s job letter) s' letterId gift returned) :
    GiftBack cfg cause s s' letterId gift returned := by
  cases back with
  | back stands gifts one => exact .back stands gifts one
  | kept fallen gifts none => exact .kept fallen gifts none

/-- A letter its account's gift paid for consumed no credits. -/
theorem usableCredits_gift (paid : PaidIn s.commerce) {funded : Letter}
    (found : s.commerce.letters.find letterId = some funded) (gift : funded.fundingType = .giftLetter) :
    usableCredits s.now s.commerce.account letterId = 0 := by
  have none : consumedCredits s.commerce.account letterId = 0 := by
    refine total_eq_zero fun consumption member => ?_
    obtain ⟨inRows, same⟩ := List.mem_filter.mp member
    obtain ⟨⟨letter, inLetters, named, prepaid⟩, -⟩ := paid.consumed consumption inRows
    have here : consumption.letterId = letterId := by simpa using same
    have there := Table.find_of_mem inLetters
    rw [named, here, found] at there
    cases there
    rw [gift] at prepaid
    cases prepaid
  have within := usable_lapsed_le s.now s.commerce.account letterId
  omega

/-- What the transaction of a cancel leaves, whoever asked for it. -/
theorem cancels_after (reach : Reachable cfg s) (changed : LetterJob) {job : LetterJob} {letter : MailItem}
    (found : s.jobs.find jobId = some job) (named : job.letterId = letterId)
    (atLetter : s.letters.find letterId = some letter) (undispatched : job.providerOutcome = .notDispatched) (same : changed.jobId = job.jobId)
    (ofLetter : changed.letterId = job.letterId) (kept : changed.providerOutcome = job.providerOutcome)
    {pays : Prop} (funds : Funds cfg letterId pays (cancelMail s changed letter) s')
    (committed : step cfg s event = .ok s') :
    Idle s jobId ∨ Reach (step cfg) (fun _ event => Unretried jobId event) {} s →
      ∀ later, Reach (step cfg) anyStep s' later → Cancelled later jobId letterId ∧
        later.submissions.count jobId = s.submissions.count jobId ∧
        (∀ userId busy, (cancelScheduledMail cfg later letterId userId busy).1 = later) ∧
        ∀ userId again, cancelLeftLetterJob cfg later jobId userId ≠ .ok again := by
  intro start later run
  have idle : Idle s jobId := by
    rcases start with idle | unretried
    · exact idle
    · exact idle_of_unretried unretried found undispatched
  have cancelled : Cancelled s' jobId letterId := by
    refine ⟨⟨{ changed with status := .cancelled, lockedAt := none }, ?_, ofLetter.trans named, rfl,
      kept.trans undispatched⟩, ⟨{ letter with status := .cancelled }, ?_, rfl⟩, ?_⟩
    · rw [funds.jobs]
      exact find_setJob found same
    · rw [funds.letters]
      exact Table.find_put_over atLetter rfl
    · intro worker member
      rw [funds.workers] at member
      exact idle worker member
  have settled := (reachable_settled reach).step committed
  obtain ⟨still, unsent⟩ := cancelled.run settled run
  have before : s'.submissions = s.submissions := funds.submissions
  rw [before] at unsent
  exact ⟨still, unsent, still.again.1, still.again.2⟩

theorem cancelScheduledMail_effect (reach : Reachable cfg s) {userId : UserId} {busy : Bool} :
    ((cancelScheduledMail cfg s letterId userId busy).1 = s ∧ ∀ returned shortfall,
        (cancelScheduledMail cfg s letterId userId busy).2 ≠
          .ok { alreadyCancelled := false, returned, shortfall }) ∨
      ∃ jobId funded returned shortfall,
        CancelsMail cfg s (cancelScheduledMail cfg s letterId userId busy).1 jobId letterId ∧
        (cancelScheduledMail cfg s letterId userId busy).2 =
          .ok { alreadyCancelled := false, returned, shortfall } ∧
        s.commerce.letters.find letterId = some funded ∧
        (funded.fundingType = .giftLetter ∧
            ReturnsGift cfg .cancelled s (cancelScheduledMail cfg s letterId userId busy).1 letterId
              (fun back gift => (returned, shortfall) =
                if back = 0 then (0, .refunded)
                else if gift.expiresAt.any (· ≤ s.now) then (0, .expired)
                else (1, .none)) ∨
          funded.fundingType = .prepaidBalance ∧
            returned = usableCredits s.now s.commerce.account letterId / CREDITS_PER_LETTER ∧
            ShortfallSays (usableCredits s.now s.commerce.account letterId)
              (lapsedCredits s.now s.commerce.account letterId) (consumedCredits s.commerce.account letterId)
              shortfall) := by
  have committed : step cfg s (.cancelScheduled letterId userId busy) =
      .ok (cancelScheduledMail cfg s letterId userId busy).1 := rfl
  have settled := reachable_settled reach
  rcases cancelScheduledMail_cases cfg s letterId userId busy with
    unchanged | ⟨job, letter, funded, atJob, atLetter, found, queued, pending, undispatched, back, paid, answer⟩
  · exact .inl unchanged
  obtain ⟨inJobs, named⟩ := jobOfLetter_find atJob
  -- a job still to be sent has not been paid back
  have unreturned := settled.unreturned job (Table.find_mem inJobs) (.inl pending)
  rw [named] at unreturned
  have fresh : hasReturnedCreditsForLetter s.commerce.account letterId = false := by
    by_contra returned
    exact unreturned (.inl (by simpa using returned))
  have freshGift : ∀ gift ∈ s.commerce.giftLetters.rows, gift.source ≠ .sendFailed letterId :=
    fun gift member source => unreturned (.inr ⟨gift, member, source⟩)
  refine .inr ⟨job.jobId, funded, back.2.1, back.2.2, ?_, by rw [answer], found, ?_⟩
  · have funds : Funds cfg letterId True (cancelMail s job letter)
        (cancelScheduledMail cfg s letterId userId busy).1 := by
      rw [answer]
      rcases paid with ⟨-, rfl⟩ | ⟨-, rfl⟩
      · dsimp only
        rw [giftBack_store]
        exact .single (.gift .cancelled trivial)
      · exact .single (.credits trivial)
    refine ⟨⟨job, inJobs, named, pending, undispatched⟩, ⟨letter, atLetter, queued⟩, ?_,
      cancels_after reach job inJobs named atLetter undispatched rfl rfl rfl funds committed⟩
    rw [answer]
    rcases paid with ⟨gift, rfl⟩ | ⟨-, rfl⟩
    · rw [usableCredits_gift settled.backed.paid found gift]
      dsimp only
      rw [giftBack_store]
      rfl
    · rw [creditsBack_eq (s := cancelMail s job letter) fresh]
      exact returnCredits_credits (s := cancelMail s job letter) fresh
  · rw [answer]
    rcases paid with ⟨gift, rfl⟩ | ⟨prepaid, rfl⟩
    · have gifted := settled.backed.paid.gifted funded (Table.find_mem found) gift
      rw [Table.find_key found] at gifted
      obtain ⟨paidBy, member, consumed, own, returned, back, reported⟩ :=
        giftBack_spec (s := cancelMail s job letter) cfg freshGift gifted
      exact .inl ⟨gift, paidBy, member, consumed, own, returned, back.of_cancelled, reported⟩
    · have key := Table.find_key atLetter
      have cost : letter.creditsCost = consumedCredits s.commerce.account letterId := by
        have billed := (reachable_billed reach).consumed settled.backed.paid (Table.find_mem atLetter)
          (by rw [key]; exact found) prepaid
        rwa [key] at billed
      rw [creditsBack_eq (s := cancelMail s job letter) fresh, cost]
      exact .inr ⟨prepaid, rfl, shortfallOf_says (usable_lapsed_le _ _ _)⟩

theorem returnPrepaidCredits_gift (store : Store) {funded : Letter}
    (found : store.commerce.letters.find letterId = some funded) (gift : funded.fundingType = .giftLetter) :
    store.returnPrepaidCredits cfg letterId = (store.returnGift cfg letterId .failed).1 := by
  simp only [Store.returnPrepaidCredits, found, Option.map_some, gift]

theorem returnPrepaidCredits_prepaid (store : Store) {funded : Letter}
    (found : store.commerce.letters.find letterId = some funded) (prepaid : funded.fundingType = .prepaidBalance) :
    store.returnPrepaidCredits cfg letterId = (store.returnCredits letterId).1 := by
  simp only [Store.returnPrepaidCredits, found, Option.map_some, prepaid]

/-- The operator's cancel of mail left to be decided. -/
theorem cancelLeftLetterJob_effect (reach : Reachable cfg s) {userId : UserId}
    (cancelled : cancelLeftLetterJob cfg s jobId userId = .ok s') :
    ∃ letterId funded, CancelsMail cfg s s' jobId letterId ∧ s.commerce.letters.find letterId = some funded ∧
      (funded.fundingType = .giftLetter ∧ ReturnsGift cfg .failed s s' letterId (fun _ _ => True) ∨
        funded.fundingType = .prepaidBalance) := by
  have committed : step cfg s (.cancelLeft jobId userId) = .ok s' := cancelled
  have settled := reachable_settled reach
  obtain ⟨job, letter, found, atLetter, -, queued, -, bought, pending, undispatched, rfl⟩ :=
    cancelLeftLetterJob_ok cancelled
  have unreturned := settled.unreturned job (Table.find_mem found) (.inl pending)
  have fresh : hasReturnedCreditsForLetter s.commerce.account job.letterId = false := by
    by_contra returned
    exact unreturned (.inl (by simpa using returned))
  have freshGift : ∀ gift ∈ s.commerce.giftLetters.rows, gift.source ≠ .sendFailed job.letterId :=
    fun gift member source => unreturned (.inr ⟨gift, member, source⟩)
  obtain ⟨funded, sent⟩ := Option.isSome_iff_exists.mp (settled.filed.sent letter (Table.find_mem atLetter))
  rw [Table.find_key atLetter] at sent
  have paidUp : funded.fundingType = .giftLetter ∨ funded.fundingType = .prepaidBalance := by
    rw [sent] at bought
    cases funding : funded.fundingType with
    | jitOrder => simp [funding] at bought
    | giftLetter => exact .inl rfl
    | prepaidBalance => exact .inr rfl
  have funds : Funds cfg job.letterId True
      (cancelMail s { job with operatorResolution := some .operatorCancelled } letter) _ :=
    returnPrepaidCredits_funds _ _
  refine ⟨job.letterId, funded, ⟨⟨job, found, rfl, pending, undispatched⟩, ⟨letter, atLetter, queued⟩, ?_,
    cancels_after reach { job with operatorResolution := some .operatorCancelled } found rfl atLetter undispatched rfl
      rfl rfl funds committed⟩, sent, ?_⟩
  · rcases paidUp with gift | prepaid
    · rw [usableCredits_gift settled.backed.paid sent gift, returnPrepaidCredits_gift
        (cancelMail s { job with operatorResolution := some .operatorCancelled } letter) sent gift]
      rfl
    · rw [returnPrepaidCredits_prepaid
        (cancelMail s { job with operatorResolution := some .operatorCancelled } letter) sent prepaid]
      exact returnCredits_credits
        (s := cancelMail s { job with operatorResolution := some .operatorCancelled } letter) fresh
  · rcases paidUp with gift | prepaid
    · have gifted := settled.backed.paid.gifted funded (Table.find_mem sent) gift
      rw [Table.find_key sent] at gifted
      obtain ⟨paidBy, member, consumed, own, back⟩ := returnGift_spec
        (s := cancelMail s { job with operatorResolution := some .operatorCancelled } letter) cfg .failed freshGift
        gifted
      rw [returnPrepaidCredits_gift
        (cancelMail s { job with operatorResolution := some .operatorCancelled } letter) sent gift]
      exact .inl ⟨gift, paidBy, member, consumed, own, _, back.of_cancelled, trivial⟩
    · exact .inr prepaid

/-- Held mail, in whatever order cancels, claims, holds and refunds came: a customer's cancel changes
nothing, or cancels the letter once; an operator's, where it commits, cancels it once. Either gives
back what it consumed that can be spent again, or its gift where the gift's purchase stands and no
code it printed was redeemed, and the customer is told which part of its cost did not come back. -/
theorem held_mail_cancel (reach : Reachable cfg s) :
    (∀ letterId userId busy,
      ((cancelScheduledMail cfg s letterId userId busy).1 = s ∧ ∀ returned shortfall,
          (cancelScheduledMail cfg s letterId userId busy).2 ≠
            .ok { alreadyCancelled := false, returned, shortfall }) ∨
        ∃ jobId funded returned shortfall,
          CancelsMail cfg s (cancelScheduledMail cfg s letterId userId busy).1 jobId letterId ∧
          (cancelScheduledMail cfg s letterId userId busy).2 =
            .ok { alreadyCancelled := false, returned, shortfall } ∧
          s.commerce.letters.find letterId = some funded ∧
          (funded.fundingType = .giftLetter ∧
              ReturnsGift cfg .cancelled s (cancelScheduledMail cfg s letterId userId busy).1 letterId
                (fun back gift => (returned, shortfall) =
                  if back = 0 then (0, .refunded)
                  else if gift.expiresAt.any (· ≤ s.now) then (0, .expired)
                  else (1, .none)) ∨
            funded.fundingType = .prepaidBalance ∧
              returned = usableCredits s.now s.commerce.account letterId / CREDITS_PER_LETTER ∧
              ShortfallSays (usableCredits s.now s.commerce.account letterId)
                (lapsedCredits s.now s.commerce.account letterId) (consumedCredits s.commerce.account letterId)
                shortfall)) ∧
    ∀ jobId userId s', cancelLeftLetterJob cfg s jobId userId = .ok s' →
      ∃ letterId funded, CancelsMail cfg s s' jobId letterId ∧ s.commerce.letters.find letterId = some funded ∧
        (funded.fundingType = .giftLetter ∧ ReturnsGift cfg .failed s s' letterId (fun _ _ => True) ∨
          funded.fundingType = .prepaidBalance) :=
  ⟨fun _ _ _ => cancelScheduledMail_effect reach, fun _ _ _ cancelled => cancelLeftLetterJob_effect reach cancelled⟩

/-- A ten-credit pack's letter, or its gift, is sent to be mailed nine days later. -/
def heldSend (gift : Bool) : List Event :=
  (boughtPack.map fun event => .commerce event { jobId := 0 }) ++
    [.commerce (.createDraft
        { draftId := 1, mailOption := { mailType := .letter }, expiresAt := days 30, requiredCredits := 2,
          isGiftSend := gift })
        { jobId := 0 },
      .commerce (.sendDraft 1 .letter 40) { jobId := 5, mailOn := some (days 9), generated := [7] }]

/-- The held letter is cancelled: its two credits are back, reported as one letter. -/
theorem held_mail_cancel_returns :
    ∃ s : Store, Reachable {} s ∧
      (cancelScheduledMail {} s 40 0 false).2 =
        .ok { alreadyCancelled := false, returned := 1, shortfall := .none } ∧
      (cancelScheduledMail {} s 40 0 false).1.commerce.account.credits =
        s.commerce.account.credits + usableCredits s.now s.commerce.account 40 ∧
      usableCredits s.now s.commerce.account 40 = 2 := by
  obtain ⟨s, reach, passes⟩ := exists_reach (step {}) {}
    (fun s => (cancelScheduledMail {} s 40 0 false).2 ==
        .ok { alreadyCancelled := false, returned := 1, shortfall := .none } &&
      usableCredits s.now s.commerce.account 40 == 2) (heldSend false) (by decide)
  simp only [Bool.and_eq_true, beq_iff_eq] at passes
  refine ⟨s, reach, passes.1, ?_, passes.2⟩
  rcases (held_mail_cancel reach).1 40 0 false with ⟨-, never⟩ | ⟨jobId, funded, returned, shortfall, cancels, -⟩
  · exact absurd passes.1 (never 1 .none)
  · exact cancels.credits

/-- A dispatch of the held letter, released early, that stalls past its marker. -/
def stalledClaim : LetterJob :=
  { jobId := 5, letterId := 40, status := .processing, attempts := 1, nextAttemptAt := 0, scheduledAt := 0,
    lockedAt := some 0, mailHoldUntil := some (days 9) }

/-- The sweep finds it uncertain, and an operator has the letter tried again. -/
def triedAgain : List Event :=
  heldSend false ++
    [.release 5 0, .claim 5, .dispatch { claim := stalledClaim, phase := .claimed } .marks,
      .commerce (.tick 1000) { jobId := 0 }, .sweepDispatched 5,
      .dispatch { claim := { stalledClaim with providerOutcome := .dispatching }, phase := .uncertain } (.settles 0),
      .resolve 5 0 .retry .postgrid]

/-- The gift of a pack refunded in full does not come back with its held letter; and a dispatch that
stalled before an operator had the letter tried again submits it after its cancel. -/
theorem held_mail_cancel_differs :
    (∃ s : Store, Reachable { giftLettersEnabled := true } s ∧
      (s.commerce.letters.find 40).map Letter.fundingType = some .giftLetter ∧
      (cancelScheduledMail { giftLettersEnabled := true } s 40 0 false).2 =
        .ok { alreadyCancelled := false, returned := 0, shortfall := .refunded } ∧
      (cancelScheduledMail { giftLettersEnabled := true } s 40 0 false).1.commerce.giftLetters.rows =
        s.commerce.giftLetters.rows) ∧
    ∃ s s' : Store, Reachable {} s ∧
      (cancelScheduledMail {} s 40 0 false).2 =
        .ok { alreadyCancelled := false, returned := 1, shortfall := .none } ∧
      step {} (cancelScheduledMail {} s 40 0 false).1
        (.dispatch { claim := stalledClaim, phase := .marked } (.submits {})) = .ok s' ∧
      s.submissions = [] ∧ s'.submissions = [5] := by
  constructor
  · obtain ⟨s, reach, passes⟩ := exists_reach (step { giftLettersEnabled := true }) {}
      (fun s => (s.commerce.letters.find 40).map Letter.fundingType == some .giftLetter &&
        (cancelScheduledMail { giftLettersEnabled := true } s 40 0 false).2 ==
          .ok { alreadyCancelled := false, returned := 0, shortfall := .refunded } &&
        (cancelScheduledMail { giftLettersEnabled := true } s 40 0 false).1.commerce.giftLetters.rows ==
          s.commerce.giftLetters.rows)
      (heldSend true ++ [.commerce (.refund (refundSucceeded 2 90 1000 none)) { jobId := 0 }]) (by decide)
    simp only [Bool.and_eq_true, beq_iff_eq] at passes
    exact ⟨s, reach, passes.1.1, passes.1.2, passes.2⟩
  · obtain ⟨s, reach, passes⟩ := exists_reach (step {}) {}
      (fun s => (cancelScheduledMail {} s 40 0 false).2 ==
          .ok { alreadyCancelled := false, returned := 1, shortfall := .none } &&
        s.submissions == [] &&
        commits (fun s' => s'.submissions == [5]) (step {} (cancelScheduledMail {} s 40 0 false).1
          (.dispatch { claim := stalledClaim, phase := .marked } (.submits {})))) triedAgain (by decide)
    simp only [Bool.and_eq_true, beq_iff_eq] at passes
    obtain ⟨⟨cancelled, unsent⟩, passed⟩ := passes
    obtain ⟨s', committed, submitted⟩ := commits_iff.mp passed
    exact ⟨s, s', reach, cancelled, committed, unsent, by simpa using submitted⟩

end LetterIRL.Mail
