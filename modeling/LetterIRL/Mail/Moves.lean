import LetterIRL.Mail.Funding
import LetterIRL.Commerce.AccountSteps
import LetterIRL.Commerce.OrderRows

namespace LetterIRL.Mail
open Lib Ledger Commerce Relation

/-! What one step can do to a job, to the dispatches in progress and to the calls made. -/

variable {cfg : Config} {s s' : Store} {event : Event}

/-- How mail moves the Pay & Send order that paid for it. -/
inductive OrderShift (now : Time) (order : Order) : Order → Prop
  | quarantined (waiting : order.status = .fulfillmentPending) :
      OrderShift now order (quarantinedOrder now order)
  | fulfilled (waits : waitsForMail order = true) :
      OrderShift now order { order with status := .fulfilled, lastErrorCode := none }
  | owed (code : ErrorCode) (waits : waitsForMail order = true) : OrderShift now order (owedOrder now code order)
  | resolved (decision : AmbiguousMailDecision) (held : heldWithMail order = true) :
      OrderShift now order (resolvedOrder now decision order)
  | requeued (retryable : retryableJitRefund order = true) :
      OrderShift now order
        { order with status := .fulfillmentPending, refundPendingAt := none, lastErrorCode := none }

/-- One change of what pays for a letter: its order moves, its chain code is minted, or, where the
transaction `pays` it back, its credits or its gift return. -/
inductive FundsMove (cfg : Config) (letterId : LetterId) (pays : Prop) (s : Store) : Store → Prop
  | order {order moved : Order} {commerce : Commerce.Store}
      (funds : s.fundingOrderId letterId = some order.orderId)
      (found : s.commerce.orders.find order.orderId = some order) (shift : OrderShift s.now order moved)
      (updated : s.commerce.updateOrder moved = .ok commerce) : FundsMove cfg letterId pays s { s with commerce }
  | codes (giftCodes : Table Gift.GiftCode.code) : FundsMove cfg letterId pays s { s with giftCodes }
  | credits (paid : pays) : FundsMove cfg letterId pays s (s.returnCredits letterId).1
  | gift (cause : Gift.ReturnCause) (paid : pays) :
      FundsMove cfg letterId pays s (s.returnGift cfg letterId cause).1

/-- Only what pays for a letter has changed. -/
abbrev Funds (cfg : Config) (letterId : LetterId) (pays : Prop) : Store → Store → Prop :=
  ReflTransGen (FundsMove cfg letterId pays)

theorem FundsMove.mono {letterId : LetterId} {pays more : Prop} (weaker : pays → more)
    (move : FundsMove cfg letterId pays s s') : FundsMove cfg letterId more s s' := by
  cases move with
  | order funds found shift updated => exact .order funds found shift updated
  | codes giftCodes => exact .codes giftCodes
  | credits paid => exact .credits (weaker paid)
  | gift cause paid => exact .gift cause (weaker paid)

theorem Funds.mono {letterId : LetterId} {pays more : Prop} (weaker : pays → more)
    (funds : Funds cfg letterId pays s s') : Funds cfg letterId more s s' :=
  funds.lift id fun _ _ move => move.mono weaker

/-- The mail itself stays. -/
theorem FundsMove.mail {letterId : LetterId} {pays : Prop} (move : FundsMove cfg letterId pays s s') :
    ∃ commerce giftCodes, s' = { s with commerce, giftCodes } := by
  cases move with
  | order => exact ⟨_, s.giftCodes, rfl⟩
  | codes giftCodes => exact ⟨s.commerce, giftCodes, rfl⟩
  | credits => exact ⟨_, s.giftCodes, rfl⟩
  | gift => exact ⟨_, _, rfl⟩

theorem Funds.mail {letterId : LetterId} {pays : Prop} (funds : Funds cfg letterId pays s s') :
    ∃ commerce giftCodes, s' = { s with commerce, giftCodes } := by
  induction funds with
  | refl => exact ⟨s.commerce, s.giftCodes, rfl⟩
  | tail _ move ih =>
    obtain ⟨_, _, rfl⟩ := ih
    obtain ⟨commerce, giftCodes, rfl⟩ := move.mail
    exact ⟨commerce, giftCodes, rfl⟩

theorem Funds.jobs {letterId : LetterId} {pays : Prop} (funds : Funds cfg letterId pays s s') :
    s'.jobs = s.jobs := by
  obtain ⟨_, _, rfl⟩ := funds.mail
  rfl

theorem Funds.letters {letterId : LetterId} {pays : Prop} (funds : Funds cfg letterId pays s s') :
    s'.letters = s.letters := by
  obtain ⟨_, _, rfl⟩ := funds.mail
  rfl

theorem Funds.workers {letterId : LetterId} {pays : Prop} (funds : Funds cfg letterId pays s s') :
    s'.workers = s.workers := by
  obtain ⟨_, _, rfl⟩ := funds.mail
  rfl

theorem Funds.submissions {letterId : LetterId} {pays : Prop} (funds : Funds cfg letterId pays s s') :
    s'.submissions = s.submissions := by
  obtain ⟨_, _, rfl⟩ := funds.mail
  rfl

/-- What no such change touches: the letters sent, what they consumed, and the clock. -/
structure SendsKept (s s' : Store) : Prop where
  letters : s'.commerce.letters = s.commerce.letters
  drafts : s'.commerce.drafts = s.commerce.drafts
  consumption : s'.commerce.account.creditConsumption = s.commerce.account.creditConsumption
  userId : s'.commerce.userId = s.commerce.userId
  now : s'.now = s.now

theorem FundsMove.sends {letterId : LetterId} {pays : Prop} (move : FundsMove cfg letterId pays s s') :
    SendsKept s s' := by
  cases move with
  | order funds found shift updated =>
    obtain ⟨-, -, rfl⟩ := Commerce.Store.updateOrder_ok updated
    exact ⟨rfl, rfl, rfl, rfl, rfl⟩
  | codes => exact ⟨rfl, rfl, rfl, rfl, rfl⟩
  | credits =>
    refine ⟨rfl, rfl, ?_, rfl, rfl⟩
    show (returnConsumedCreditsForLetter s.now s.commerce.account letterId).1.creditConsumption = _
    rw [returnConsumedCreditsForLetter_eq]
  | gift => exact ⟨rfl, rfl, rfl, rfl, rfl⟩

theorem Funds.sends {letterId : LetterId} {pays : Prop} (funds : Funds cfg letterId pays s s') :
    SendsKept s s' := by
  induction funds with
  | refl => exact ⟨rfl, rfl, rfl, rfl, rfl⟩
  | tail _ move ih =>
    have last := move.sends
    exact ⟨last.letters.trans ih.letters, last.drafts.trans ih.drafts, last.consumption.trans ih.consumption,
      last.userId.trans ih.userId, last.now.trans ih.now⟩

/-- The order that funds a letter is read from the letter alone. -/
theorem SendsKept.fundingOrderId (kept : SendsKept s s') (letterId : LetterId) :
    s'.fundingOrderId letterId = s.fundingOrderId letterId := by
  unfold Store.fundingOrderId
  rw [kept.letters]

theorem updateOrder_ok {order : Order} (moved : s.updateOrder order = .ok s') :
    ∃ commerce, s.commerce.updateOrder order = .ok commerce ∧ s' = { s with commerce } := by
  unfold Store.updateOrder at moved
  split at moved
  · cases moved
  · rename_i commerce updated
    cases moved
    exact ⟨commerce, updated, rfl⟩

/-- A guarded update of the letter's order is a change of what pays for it, or nothing. -/
theorem moveOrder_funds {letterId : LetterId} {pays : Prop} {orderId : OrderId} {selected : Order → Bool}
    {change : Order → Order} (funds : s.fundingOrderId letterId = some orderId)
    (shifts : ∀ order, selected order = true → OrderShift s.now order (change order))
    (moved : s.moveOrder orderId selected change = .ok s') : Funds cfg letterId pays s s' := by
  unfold Store.moveOrder at moved
  split at moved
  · cases moved
    exact .refl
  · rename_i order found
    have named := Table.find_key found
    split at moved
    · rename_i chosen
      obtain ⟨commerce, updated, rfl⟩ := updateOrder_ok moved
      rw [← named] at funds found
      exact .single (.order funds found (shifts order chosen) updated)
    · cases moved
      exact .refl

theorem returnPrepaidCredits_funds (s : Store) (letterId : LetterId) :
    Funds cfg letterId True s (s.returnPrepaidCredits cfg letterId) := by
  unfold Store.returnPrepaidCredits
  split
  · exact .single (.gift .failed trivial)
  · exact .single (.credits trivial)
  · exact .refl

theorem compensateSend_funds {letterId : LetterId} {code : ErrorCode}
    (compensated : compensateSend cfg s letterId code = .ok s') : Funds cfg letterId True s s' := by
  unfold compensateSend at compensated
  split at compensated
  · cases compensated
    exact returnPrepaidCredits_funds s letterId
  · rename_i orderId funded
    exact moveOrder_funds funded (fun _ waits => .owed code waits) compensated

theorem modifyLetter_jobs (s : Store) (letterId : LetterId) (change : MailItem → MailItem) :
    (s.modifyLetter letterId change).jobs = s.jobs := by
  unfold Store.modifyLetter
  split <;> rfl

theorem modifyLetter_workers (s : Store) (letterId : LetterId) (change : MailItem → MailItem) :
    (s.modifyLetter letterId change).workers = s.workers := by
  unfold Store.modifyLetter
  split <;> rfl

theorem modifyLetter_submissions (s : Store) (letterId : LetterId) (change : MailItem → MailItem) :
    (s.modifyLetter letterId change).submissions = s.submissions := by
  unfold Store.modifyLetter
  split <;> rfl

theorem modifyJob_workers (s : Store) (jobId : JobId) (change : LetterJob → LetterJob) :
    (s.modifyJob jobId change).workers = s.workers := by
  unfold Store.modifyJob
  split <;> rfl

theorem modifyJob_submissions (s : Store) (jobId : JobId) (change : LetterJob → LetterJob) :
    (s.modifyJob jobId change).submissions = s.submissions := by
  unfold Store.modifyJob
  split <;> rfl

theorem modifyJob_letters (s : Store) (jobId : JobId) (change : LetterJob → LetterJob) :
    (s.modifyJob jobId change).letters = s.letters := by
  unfold Store.modifyJob
  split <;> rfl

theorem modifyJob_commerce (s : Store) (jobId : JobId) (change : LetterJob → LetterJob) :
    (s.modifyJob jobId change).commerce = s.commerce := by
  unfold Store.modifyJob
  split <;> rfl

theorem modifyLetter_commerce (s : Store) (letterId : LetterId) (change : MailItem → MailItem) :
    (s.modifyLetter letterId change).commerce = s.commerce := by
  unfold Store.modifyLetter
  split <;> rfl

/-! One spec lemma for each transaction: the rows it read, and the state it left. -/

theorem claimJob_ok {jobId : JobId} (claimed : claimJob s jobId = .ok s') :
    ∃ job, s.jobs.find jobId = some job ∧ claimable s job = true ∧
      s' = { s.setJob (claimedJob s.now job) with
        workers := { claim := claimedJob s.now job, phase := .claimed } :: s.workers } := by
  unfold claimJob at claimed
  split at claimed
  · cases claimed
  · rename_i job found
    split at claimed
    · cases claimed
    · rename_i candidate
      cases claimed
      exact ⟨job, found, by simpa using candidate, rfl⟩

theorem markProviderDispatch_ok {claim : LetterJob} {dispatched : Bool}
    (marked : markProviderDispatch s claim = .ok (s', dispatched)) :
    ∃ job letter, s.jobs.find claim.jobId = some job ∧ s.letters.find job.letterId = some letter ∧
      fundingDispatchable s job.letterId = true ∧ stillClaimed job claim = true ∧
      (letter.status = .queued ∨ letter.status = .processing) ∧ letter.redacted = false ∧
      ((dispatched = false ∧ s.heldForFunding job = true ∧ s' = s.setJob (putBack job)) ∨
        (dispatched = true ∧ s.heldForFunding job = false ∧
          s' = (s.setJob { job with providerOutcome := .dispatching }).setLetter
            { letter with status := .processing })) := by
  unfold markProviderDispatch at marked
  split at marked
  · cases marked
  · rename_i job found
    split at marked
    · cases marked
    · rename_i letter atLetter
      split at marked
      · cases marked
      · rename_i funded
        split at marked
        · cases marked
        · rename_i guard
          simp only [Bool.or_eq_true, not_or, Bool.not_eq_true, decide_eq_true_eq,
            Bool.not_eq_eq_eq_not, List.mem_cons, List.not_mem_nil, or_false] at guard funded
          obtain ⟨⟨owned, status⟩, shown⟩ := guard
          refine ⟨job, letter, found, atLetter, by simpa using funded, by simpa using owned,
            or_iff_not_and_not.mpr status, shown, ?_⟩
          split at marked
          · rename_i held
            cases marked
            exact .inl ⟨rfl, held, rfl⟩
          · rename_i free
            cases marked
            exact .inr ⟨rfl, by simpa using free, rfl⟩

theorem holdAmbiguousDispatch_ok (cfg : Config) {claim : LetterJob} (quarantined : holdAmbiguousDispatch s claim = .ok s') :
    Funds cfg claim.letterId False
      ((s.modifyJob claim.jobId ambiguousJob).modifyLetter claim.letterId quarantinedLetter) s' := by
  unfold holdAmbiguousDispatch at quarantined
  split at quarantined
  · cases quarantined
    exact .refl
  · rename_i orderId funded
    have same : ((s.modifyJob claim.jobId ambiguousJob).modifyLetter claim.letterId quarantinedLetter).commerce =
        s.commerce := by rw [modifyLetter_commerce, modifyJob_commerce]
    refine moveOrder_funds ?_ (fun order waiting => ?_) quarantined
    · rw [← funded]
      unfold Store.fundingOrderId
      rw [same]
    · unfold Store.now
      rw [same]
      exact .quarantined (by simpa using waiting)

theorem completeJob_ok (cfg : Config) {claim : LetterJob} (completed : completeJob s claim = .ok s') :
    ∃ job, s.jobs.find claim.jobId = some job ∧
      ((s' = s ∧ job.status = .completed ∧ job.providerOutcome = .accepted) ∨
        ∃ letter, s.letters.find job.letterId = some letter ∧ acceptable job = true ∧
          (letter.status = .processing ∨ letter.status = .held) ∧
          Funds cfg job.letterId False ((s.setLetter { letter with status := .accepted, tracked := true }).setJob
            { job with status := .completed, providerOutcome := .accepted, lockedAt := none }) s') := by
  unfold completeJob at completed
  split at completed
  · cases completed
  · rename_i job found
    refine ⟨job, found, ?_⟩
    split at completed
    · rename_i done
      cases completed
      exact .inl ⟨rfl, done⟩
    · split at completed
      · cases completed
      · rename_i letter atLetter
        dsimp only at completed
        split at completed
        · cases completed
        · rename_i guard
          simp only [Bool.or_eq_true, not_or, Bool.not_eq_true, decide_eq_true_eq, List.mem_cons,
            List.not_mem_nil, or_false] at guard
          obtain ⟨⟨eligible, -⟩, status⟩ := guard
          refine .inr ⟨letter, atLetter, by simpa using eligible, or_iff_not_and_not.mpr status, ?_⟩
          split at completed
          · cases completed
            exact .refl
          · rename_i orderId funded
            exact moveOrder_funds funded (fun _ waits => .fulfilled waits) completed

theorem failOrRescheduleJob_ok {claim : LetterJob} (failed : failOrRescheduleJob cfg s claim = .ok s') :
    s' = s ∨ ∃ job letter, s.jobs.find claim.jobId = some job ∧ s.letters.find claim.letterId = some letter ∧
      job.status = .processing ∧ job.providerOutcome = .dispatching ∧
      Funds cfg claim.letterId True ((s.setJob { job with
          status := .failed, providerOutcome := .definiteFailure, nextAttemptAt := s.now,
          lockedAt := none }).setLetter { letter with status := .failed }) s' := by
  unfold failOrRescheduleJob at failed
  split at failed
  · rename_i job letter found atLetter
    split at failed
    · cases failed
      exact .inl rfl
    · rename_i guard
      rw [not_or, not_not, not_not] at guard
      exact .inr ⟨job, letter, found, atLetter, guard.1, guard.2, compensateSend_funds failed⟩
  · cases failed

theorem failBeforeDispatch_ok {claim : LetterJob} {delay : Time}
    (failed : failBeforeDispatch cfg s claim delay = .ok s') :
    s' = s ∨ ∃ job letter, s.jobs.find claim.jobId = some job ∧ s.letters.find claim.letterId = some letter ∧
      stillClaimed job claim = true ∧
      ((s.heldForFunding job = true ∧ s' = s.setJob (putBack job)) ∨
        (s.heldForFunding job = false ∧
          Funds cfg claim.letterId (claim.maxAttempts ≤ claim.attempts)
            ((s.setJob (undispatchedJob s.now delay (claim.attempts < claim.maxAttempts) job)).setLetter
              (undispatchedLetter (claim.attempts < claim.maxAttempts) letter)) s')) := by
  unfold failBeforeDispatch at failed
  split at failed
  · rename_i job letter found atLetter
    split at failed
    · rename_i held
      split at failed
      · rename_i owned
        cases failed
        exact .inr ⟨job, letter, found, atLetter, owned, .inl ⟨held, rfl⟩⟩
      · cases failed
        exact .inl rfl
    · rename_i free
      split at failed
      · cases failed
        exact .inl rfl
      · rename_i owned
        refine .inr ⟨job, letter, found, atLetter, by simpa using owned, .inr ⟨by simpa using free, ?_⟩⟩
        dsimp only at failed
        split at failed
        · cases failed
          exact .refl
        · rename_i spent
          exact (compensateSend_funds failed).mono fun _ => by simpa using spent
  · cases failed

theorem lockMail_ok {jobId : JobId} {expectedUserId : UserId} {foreign : AdminError} {job : LetterJob}
    {letter : MailItem} (locked : lockMail s jobId expectedUserId foreign = .ok (job, letter)) :
    s.jobs.find jobId = some job ∧ s.letters.find job.letterId = some letter ∧
      expectedUserId = s.commerce.userId := by
  unfold lockMail at locked
  split at locked
  · cases locked
  · rename_i job found
    split at locked
    · cases locked
    · rename_i letter atLetter
      split at locked
      · cases locked
      · rename_i own
        cases locked
        exact ⟨found, atLetter, by simpa using own⟩

theorem cancelLeftLetterJob_ok {jobId : JobId} {expectedUserId : UserId}
    (cancelled : cancelLeftLetterJob cfg s jobId expectedUserId = .ok s') :
    ∃ job letter, s.jobs.find jobId = some job ∧ s.letters.find job.letterId = some letter ∧
      s.heldForFunding job = true ∧ letter.status = .queued ∧ s.fundingOrderId job.letterId = none ∧
      ((s.commerce.letters.find job.letterId).map Letter.fundingType).all (· == .jitOrder) = false ∧
      job.status = .pending ∧ job.providerOutcome = .notDispatched ∧
      s' = (cancelMail s { job with operatorResolution := some .operatorCancelled } letter).returnPrepaidCredits
        cfg job.letterId := by
  unfold cancelLeftLetterJob at cancelled
  obtain ⟨⟨job, letter⟩, locked, rest⟩ := bind_eq_ok.mp cancelled
  obtain ⟨found, atLetter, -⟩ := lockMail_ok locked
  dsimp only at rest
  split at rest
  · cases rest
  · rename_i guard
    simp only [Bool.or_eq_true, not_or, Bool.not_eq_true, Bool.not_eq_false', bne_iff_ne, ne_eq,
      decide_eq_true_eq, not_not] at guard
    obtain ⟨⟨⟨⟨⟨⟨⟨held, queued⟩, unfunded⟩, bought⟩, pending⟩, undispatched⟩, -⟩, -⟩ := guard
    cases rest
    refine ⟨job, letter, found, atLetter, held, queued, ?_, bought, pending, undispatched, rfl⟩
    simpa using unfunded

theorem resolveAmbiguousLetterJob_ok {jobId : JobId} {expectedUserId : UserId}
    {decision : AmbiguousMailDecision} {provider : ProviderName}
    (resolved : resolveAmbiguousLetterJob cfg s jobId expectedUserId decision provider = .ok s') :
    ∃ job letter, s.jobs.find jobId = some job ∧ s.letters.find job.letterId = some letter ∧
      letter.status = .held ∧ job.status = .held ∧ job.providerOutcome = .ambiguous ∧
      (decision ≠ .rejected → s.isLetterAlreadyCompensated job.letterId = false) ∧
      Funds cfg job.letterId (decision = .rejected)
        ((s.setLetter (resolvedLetter decision letter)).setJob (resolvedJob s.now decision job)) s' := by
  unfold resolveAmbiguousLetterJob at resolved
  obtain ⟨⟨job, letter⟩, locked, rest⟩ := bind_eq_ok.mp resolved
  obtain ⟨found, atLetter, -⟩ := lockMail_ok locked
  dsimp only at rest
  split at rest
  · cases rest
  · rename_i held
    split at rest
    · cases rest
    · split at rest
      · cases rest
      · rename_i owed
        split at rest
        · cases rest
        · simp only [ne_eq, not_or, not_not] at held
          refine ⟨job, letter, found, atLetter, held.1, held.2.1, held.2.2.1, ?_, ?_⟩
          · intro kept
            by_contra compensated
            exact owed ⟨kept, by simpa using compensated⟩
          · have back : Funds cfg job.letterId (decision = .rejected)
                ((s.setLetter (resolvedLetter decision letter)).setJob (resolvedJob s.now decision job))
                (if decision = .rejected then
                  Store.returnPrepaidCredits cfg ((s.setLetter (resolvedLetter decision letter)).setJob
                    (resolvedJob s.now decision job)) job.letterId
                else (s.setLetter (resolvedLetter decision letter)).setJob (resolvedJob s.now decision job)) := by
              split
              · rename_i rejected
                exact (returnPrepaidCredits_funds _ _).mono fun _ => rejected
              · exact .refl
            split at rest
            · cases rest
              exact back
            · rename_i orderId funded
              refine back.trans (moveOrder_funds ?_ (fun order waiting => ?_) rest)
              · exact (back.sends.fundingOrderId _).trans funded
              · rw [back.sends.now]
                exact .resolved decision waiting

theorem retryLetterJob_ok (cfg : Config) {jobId : JobId} {expectedUserId : UserId}
    (retried : retryLetterJob s jobId expectedUserId = .ok s') :
    ∃ job letter, s.jobs.find jobId = some job ∧ s.letters.find job.letterId = some letter ∧
      job.status = .failed ∧ job.providerOutcome = .definiteFailure ∧ letter.status = .failed ∧
      s.isLetterAlreadyCompensated job.letterId = false ∧
      Funds cfg job.letterId False
        ((s.setJob (requeuedJob s.now job)).setLetter { letter with status := .queued }) s' := by
  unfold retryLetterJob at retried
  obtain ⟨⟨job, letter⟩, locked, rest⟩ := bind_eq_ok.mp retried
  obtain ⟨found, atLetter, -⟩ := lockMail_ok locked
  dsimp only at rest
  split at rest
  · cases rest
  · split at rest
    · cases rest
    · rename_i guard
      split at rest
      · cases rest
      · rename_i owed
        simp only [ne_eq, not_or, not_not] at guard
        refine ⟨job, letter, found, atLetter, guard.1, guard.2.1, guard.2.2.2.1, by simpa using owed, ?_⟩
        split at rest
        · cases rest
          exact .refl
        · rename_i orderId funded
          exact moveOrder_funds funded (fun _ retryable => .requeued retryable) rest

theorem releaseHeldLetterJob_ok {jobId : JobId} {expectedUserId : UserId}
    (released : releaseHeldLetterJob s jobId expectedUserId = .ok s') :
    ∃ job letter, s.jobs.find jobId = some job ∧ s.letters.find job.letterId = some letter ∧
      letter.status = .queued ∧ job.status = .pending ∧ job.providerOutcome = .notDispatched ∧
      s' = s.setJob (releasedJob s.now job) := by
  unfold releaseHeldLetterJob at released
  obtain ⟨⟨job, letter⟩, locked, rest⟩ := bind_eq_ok.mp released
  obtain ⟨found, atLetter, -⟩ := lockMail_ok locked
  dsimp only at rest
  split at rest
  · cases rest
  · split at rest
    · cases rest
    · rename_i guard
      simp only [Bool.or_eq_true, not_or, Bool.not_eq_true, Bool.not_eq_false', releasable,
        Bool.and_eq_true, beq_iff_eq] at guard
      obtain ⟨-, ⟨⟨⟨⟨queued, pending⟩, undispatched⟩, -⟩, -⟩, -⟩ := guard
      cases rest
      exact ⟨job, letter, found, atLetter, queued, pending, undispatched, rfl⟩

/-- A customer's cancel changes nothing, or takes held mail and gives back what paid for it. -/
theorem cancelScheduledMail_cases (cfg : Config) (s : Store) (letterId : LetterId) (userId : UserId) (busy : Bool) :
    ((cancelScheduledMail cfg s letterId userId busy).1 = s ∧ ∀ returned shortfall,
        (cancelScheduledMail cfg s letterId userId busy).2 ≠
          .ok { alreadyCancelled := false, returned, shortfall }) ∨
      ∃ job letter funded, s.jobOfLetter letterId = some job ∧ s.letters.find letterId = some letter ∧
        s.commerce.letters.find letterId = some funded ∧ letter.status = .queued ∧ job.status = .pending ∧
        job.providerOutcome = .notDispatched ∧
        ∃ back, (funded.fundingType = .giftLetter ∧ back = giftBack cfg (cancelMail s job letter) letterId ∨
            funded.fundingType = .prepaidBalance ∧
              back = creditsBack (cancelMail s job letter) letterId letter.creditsCost) ∧
          cancelScheduledMail cfg s letterId userId busy =
            (back.1, .ok { alreadyCancelled := false, returned := back.2.1, shortfall := back.2.2 }) := by
  unfold cancelScheduledMail
  split
  · rename_i letter funded atLetter found
    split
    · exact .inl ⟨rfl, by rintro _ _ ⟨⟩⟩
    · split
      · exact .inl ⟨rfl, by rintro _ _ ⟨⟩⟩
      · split
        · exact .inl ⟨rfl, by rintro _ _ ⟨⟩⟩
        · rename_i queued
          split
          · exact .inl ⟨rfl, by rintro _ _ ⟨⟩⟩
          · rename_i bought
            split
            · exact .inl ⟨rfl, by rintro _ _ ⟨⟩⟩
            · split
              · exact .inl ⟨rfl, by rintro _ _ ⟨⟩⟩
              · split
                · exact .inl ⟨rfl, by rintro _ _ ⟨⟩⟩
                · rename_i job atJob
                  split
                  · exact .inl ⟨rfl, by rintro _ _ ⟨⟩⟩
                  · rename_i waiting
                    simp only [ne_eq, not_or, not_not] at waiting
                    refine .inr ⟨job, letter, funded, atJob, atLetter, found, by simpa using queued, waiting.1,
                      waiting.2, _, ?_, rfl⟩
                    split
                    · rename_i gift
                      exact .inl ⟨gift, rfl⟩
                    · rename_i other
                      refine .inr ⟨?_, rfl⟩
                      cases funding : funded.fundingType with
                      | jitOrder => exact absurd funding bought
                      | giftLetter => exact absurd funding other
                      | prepaidBalance => rfl
  · exact .inl ⟨rfl, by rintro _ _ ⟨⟩⟩

theorem cancelScheduledMail_ok (cfg : Config) (s : Store) (letterId : LetterId) (userId : UserId) (busy : Bool) :
    (cancelScheduledMail cfg s letterId userId busy).1 = s ∨
      ∃ job letter, s.jobOfLetter letterId = some job ∧ s.letters.find letterId = some letter ∧
        letter.status = .queued ∧ job.status = .pending ∧ job.providerOutcome = .notDispatched ∧
        Funds cfg letterId True (cancelMail s job letter) (cancelScheduledMail cfg s letterId userId busy).1 := by
  rcases cancelScheduledMail_cases cfg s letterId userId busy with
    ⟨same, -⟩ | ⟨job, letter, funded, atJob, atLetter, -, queued, pending, undispatched, back, paid, answer⟩
  · exact .inl same
  · refine .inr ⟨job, letter, atJob, atLetter, queued, pending, undispatched, ?_⟩
    rw [answer]
    rcases paid with ⟨-, rfl⟩ | ⟨-, rfl⟩
    · unfold giftBack
      dsimp only
      split
      · exact .single (.gift .cancelled trivial)
      · split <;> exact .single (.gift .cancelled trivial)
    · exact .single (.credits trivial)

end LetterIRL.Mail
