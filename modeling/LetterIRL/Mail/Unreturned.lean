import LetterIRL.Mail.Filed

namespace LetterIRL.Mail
open Lib Ledger Commerce Relation

/-! A letter that may still be sent has not been paid back, and one the provider took is not sent again. -/

variable {cfg : Config} {s s' : Store} {event : Event}

/-! Attempts: a claim of a job whose limit was raised since is an old one. -/

/-- A claim never outlives the limit it was made under. -/
structure WithinBudget (claim job : LetterJob) : Prop where
  own : claim.attempts ≤ claim.maxAttempts
  limit : claim.maxAttempts ≤ job.maxAttempts
  /-- The job was claimed again since, or will be before this claim's attempt comes round. -/
  raised : claim.maxAttempts < job.maxAttempts → claim.attempts ≤ job.attempts ∧
    (job.status = .processing → job.providerOutcome = .notDispatched → claim.attempts < job.attempts)

/-- A job's attempts against its limit, and its claims'. -/
structure Budgeted (s : Store) (job : LetterJob) : Prop where
  limit : job.attempts ≤ job.maxAttempts
  counts : CountsAttempts job
  claims : ∀ worker ∈ s.workers, worker.claim.jobId = job.jobId → WithinBudget worker.claim job

theorem claimable_iff {job : LetterJob} (candidate : claimable s job = true) :
    job.attempts < job.maxAttempts ∧ job.providerOutcome = .notDispatched ∧
      (job.status = .pending ∨ job.status = .failed ∨ job.status = .processing) := by
  simp only [claimable, Bool.and_eq_true, Bool.or_eq_true, beq_iff_eq, decide_eq_true_eq] at candidate
  obtain ⟨⟨below, undispatched⟩, ⟨⟨waiting, -⟩, -⟩ | ⟨taken, -⟩⟩ := candidate
  · exact ⟨below, undispatched, waiting.imp_right .inl⟩
  · exact ⟨below, undispatched, .inr (.inr taken)⟩

/-- The step lemma: a change of a job keeps it and the claims there were within their limits. -/
theorem JobMove.budgeted {job job' : LetterJob} (move : JobMove s event job job') (budgeted : Budgeted s job) :
    Budgeted s job' := by
  refine ⟨?_, move.counts budgeted.counts, fun worker member same => ?_⟩
  · have limit := budgeted.limit
    cases move with
    | claimed here candidate => exact (claimable_iff candidate).1
    | putBack => exact (Nat.sub_le _ _).trans limit
    | quarantined =>
      unfold ambiguousJob
      split <;> exact limit
    | @resolved userId decision provider =>
      cases decision with
      | accepted => exact limit
      | retry => exact Nat.le_trans (Nat.le_succ _) (Nat.le_max_right _ _)
      | rejected => exact Nat.le_refl _
    | requeued => exact Nat.le_trans (Nat.le_succ _) (Nat.le_max_right _ _)
    | stopped =>
      unfold stoppedJob
      split <;> exact limit
    | _ => exact limit
  · rw [move.jobId] at same
    obtain ⟨claimLimit, limit, raised⟩ := budgeted.claims worker member same
    have counts := budgeted.counts
    have own := budgeted.limit
    -- raising the limit takes every attempt of the old one, and so every attempt of an old claim
    have raises : ∀ attempts, attempts = job.attempts → max job.maxAttempts (attempts + 1) = job.maxAttempts ∨
        worker.claim.attempts ≤ job.attempts := by
      intro attempts here
      omega
    cases move with
    | claimed here candidate =>
      refine ⟨claimLimit, limit, fun above => ?_⟩
      obtain ⟨low, -⟩ := raised above
      exact ⟨Nat.le_succ_of_le low, fun _ _ => Nat.lt_succ_of_le low⟩
    | putBack taken undispatched held =>
      refine ⟨claimLimit, limit, fun above => ⟨?_, fun taken => by cases taken⟩⟩
      have below := (raised above).2 taken undispatched
      exact Nat.le_sub_one_of_lt below
    | marked here there at_ phase owned free =>
      exact ⟨claimLimit, limit, fun above => ⟨(raised above).1, fun _ undispatched => by cases undispatched⟩⟩
    | quarantined =>
      unfold ambiguousJob
      split
      · exact ⟨claimLimit, limit, raised⟩
      · exact ⟨claimLimit, limit, fun above => ⟨(raised above).1, fun taken => by cases taken⟩⟩
    | undispatched delay there at_ phase owned free =>
      refine ⟨claimLimit, limit, fun above => ⟨(raised above).1, fun taken => ?_⟩⟩
      simp only [undispatchedJob] at taken
      split at taken <;> cases taken
    | @resolved userId decision provider =>
      cases decision with
      | accepted => exact ⟨claimLimit, limit, fun above => ⟨(raised above).1, fun taken => by cases taken⟩⟩
      | retry =>
        refine ⟨claimLimit, limit.trans (Nat.le_max_left _ _), fun above => ⟨?_, fun taken => by cases taken⟩⟩
        rcases raises job.attempts rfl with same | low
        · exact (raised (Nat.lt_of_lt_of_eq above same)).1
        · exact low
      | rejected =>
        exact ⟨claimLimit, limit, fun above => ⟨claimLimit.trans limit, fun taken => by cases taken⟩⟩
    | requeued =>
      refine ⟨claimLimit, limit.trans (Nat.le_max_left _ _), fun above => ⟨?_, fun taken => by cases taken⟩⟩
      rcases raises job.attempts rfl with same | low
      · exact (raised (Nat.lt_of_lt_of_eq above same)).1
      · exact low
    | released here pending undispatched =>
      refine ⟨claimLimit, limit, fun above => ⟨(raised above).1, fun taken => ?_⟩⟩
      have same : (releasedJob s.now job).status = job.status := rfl
      rw [same, pending] at taken
      cases taken
    | stopped =>
      unfold stoppedJob
      split
      · exact ⟨claimLimit, limit, raised⟩
      · exact ⟨claimLimit, limit, fun above => ⟨(raised above).1, fun taken => by cases taken⟩⟩
    | withheld => exact ⟨claimLimit, limit, raised⟩
    | _ => exact ⟨claimLimit, limit, fun above => ⟨(raised above).1, fun taken => by cases taken⟩⟩

/-- What a transaction keeps of every job while it runs. -/
theorem JobMoves.budgeted {job job' : LetterJob} (moves : JobMoves s event job job') (budgeted : Budgeted s job) :
    Budgeted s job' := by
  induction moves with
  | refl => exact budgeted
  | tail _ move ih => exact move.budgeted ih

theorem newJob_budgeted (filed : Filed s) {now : Time} {jobId : JobId} {letterId : LetterId}
    {notBefore : Option Time} {maxAttempts : Nat} (fresh : s.jobs.find jobId = none) :
    Budgeted s (newJob now jobId letterId notBefore maxAttempts) where
  limit := Nat.zero_le _
  counts taken := by cases taken
  claims worker member same := by
    obtain ⟨job, found, -⟩ := filed.claims worker member
    have here : worker.claim.jobId = jobId := same
    rw [here, fresh] at found
    cases found

/-- A job read as it is is a claim within its limit. -/
theorem claimed_within {job : LetterJob} (limit : job.attempts ≤ job.maxAttempts) : WithinBudget job job :=
  ⟨limit, le_rfl, fun above => absurd above (lt_irrefl _)⟩

theorem budgeted_step (filed : Filed s) (budgeted : ∀ job ∈ s.jobs.rows, Budgeted s job)
    (committed : step cfg s event = .ok s') : ∀ job ∈ s'.jobs.rows, Budgeted s' job := by
  have steps := step_moves committed
  intro job' member
  have found := Table.find_of_mem member
  -- within the claims there were; a new claim is of the job as the step left it
  have old : Budgeted s job' := by
    cases before : s.jobs.find job'.jobId with
    | none =>
      obtain ⟨now, letterId, notBefore, maxAttempts, moves⟩ := steps.jobs.added _ _ before found
      exact moves.budgeted (newJob_budgeted filed before)
    | some job =>
      obtain ⟨other, there, moves⟩ := steps.jobs.moved _ job before
      rw [found] at there
      cases there
      exact moves.budgeted (budgeted job (Table.find_mem before))
  refine ⟨old.limit, old.counts, fun worker inWorkers same => ?_⟩
  cases steps.workers worker inWorkers with
  | stays present => exact old.claims worker present same
  | @advances worker phase present on marks => exact old.claims worker present same
  | @claims job here atJob candidate after =>
    have named : job.jobId = job'.jobId := same
    rw [named, found] at after
    cases after
    exact claimed_within old.limit
  | @sweeps job atJob taken dispatching after =>
    have named : job.jobId = job'.jobId := same
    rw [named, found] at after
    cases after
    exact claimed_within old.limit
  | @givesUp job atJob spent free after =>
    have named : job.jobId = job'.jobId := same
    rw [named, found] at after
    cases after
    exact claimed_within old.limit

/-! Accepted mail is final. -/

/-- The provider has the letter. -/
def LetterJob.delivered (job : LetterJob) : Prop := job.status = .completed ∧ job.providerOutcome = .accepted

theorem JobMove.delivered_kept {job job' : LetterJob} (move : JobMove s event job job') (done : job.delivered) :
    job'.delivered := by
  obtain ⟨completed, accepted⟩ := done
  cases move with
  | claimed here candidate => simp [(claimable_iff candidate).2.1] at accepted
  | putBack taken _ _ => simp [taken] at completed
  | marked here member same phase owned free => simp [(stillClaimed_iff.mp owned).1] at completed
  | quarantined =>
    unfold ambiguousJob
    rw [if_pos (.inl completed)]
    exact ⟨completed, accepted⟩
  | completed => exact ⟨rfl, rfl⟩
  | rejected _ _ _ taken _ => simp [taken] at completed
  | undispatched delay member same phase owned free => simp [(stillClaimed_iff.mp owned).1] at completed
  | cancelled _ pending _ => simp [pending] at completed
  | resolved here held _ _ => simp [held] at completed
  | requeued here failed _ _ => simp [failed] at completed
  | released here pending _ => simp [pending] at completed
  | stopped reason undispatched => simp [undispatched] at accepted
  | halted reason past => simp [accepted] at past
  | withheld funding waiting _ => simp [completed] at waiting

theorem JobMoves.delivered_kept {job job' : LetterJob} (moves : JobMoves s event job job') (done : job.delivered) :
    job'.delivered := by
  induction moves with
  | refl => exact done
  | tail _ move ih => exact move.delivered_kept ih

/-- The provider has every letter there is a tracking number of. -/
def Tracked (s : Store) : Prop :=
  ∀ letter ∈ s.letters.rows, letter.tracked = true → ∀ job ∈ s.jobs.rows, job.letterId = letter.letterId →
    job.delivered

theorem queuedLetter_tracked (s : Store) (letter : Letter) (mail : NewMail) :
    (queuedLetter s letter mail).tracked = false := by
  unfold queuedLetter
  cases s.commerce.drafts.find letter.draftId <;> rfl

/-- A letter only comes to be tracked with its job completed. -/
theorem LetterMove.tracked {jobs : Table LetterJob.jobId} {letter letter' : MailItem}
    (move : LetterMove s event jobs letter letter') (tracked : letter'.tracked = true) :
    letter.tracked = true ∨ ∃ job, jobs.find job.jobId = some job ∧ job.delivered ∧ job.letterId = letter.letterId := by
  cases move with
  | accepted after completed outcome same status => exact .inr ⟨_, after, ⟨completed, outcome⟩, same⟩
  | quarantined =>
    unfold quarantinedLetter at tracked
    split at tracked <;> exact .inl tracked
  | undispatched retryable =>
    unfold undispatchedLetter at tracked
    split at tracked <;> exact .inl tracked
  | resolved decision held undelivered =>
    cases decision with
    | accepted => exact absurd rfl undelivered
    | retry => exact .inl tracked
    | rejected => exact .inl tracked
  | stopped | halted =>
    unfold stoppedLetter at tracked
    split at tracked <;> exact .inl tracked
  | _ => exact .inl tracked

theorem Tracked.step (holds : Tracked s) (after : Filed s') (committed : step cfg s event = .ok s') :
    Tracked s' := by
  have steps := step_moves committed
  intro letter' atLetter tracked job' atJob same
  rcases step_letters committed with ⟨commerce, mail, _, letter, rfl, stepped, new, freshJob, freshLetter, funds⟩ | moves
  · rw [funds.letters] at atLetter
    rw [funds.jobs] at atJob
    rcases List.mem_append.mp atLetter with old | added
    · rcases List.mem_append.mp atJob with old' | added'
      · exact holds letter' old tracked job' old' same
      · rw [List.mem_singleton.mp added'] at same
        rw [queuedLetter_letterId] at freshLetter
        exact absurd (List.mem_map.mpr ⟨letter', old, same.symm⟩) freshLetter
    · rw [List.mem_singleton.mp added, queuedLetter_tracked] at tracked
      cases tracked
  · obtain ⟨job, found, moved⟩ := moves.origin steps atJob
    obtain ⟨letter, atOld, kept⟩ := moves.letterOrigin atLetter
    have known : letter.tracked = true → job'.delivered := fun tracked =>
      moved.delivered_kept (holds letter (Table.find_mem atOld) tracked job (Table.find_mem found)
        (moved.letterId.symm.trans (same.trans (Table.find_key atOld).symm)))
    rcases kept with rfl | move
    · exact known tracked
    · rcases move.tracked tracked with before | ⟨done, stored, delivered, named⟩
      · exact known before
      · have one := after.oneJob done (Table.find_mem stored) job' atJob
          (named.trans ((Table.find_key atOld).trans same.symm))
        rw [one] at stored
        rw [Table.find_of_mem atJob] at stored
        cases stored
        exact delivered

/-! Paid back. -/

/-- The letter has given its credits or its gift back. -/
def Returned (s : Commerce.Store) (letterId : LetterId) : Prop :=
  hasReturnedCreditsForLetter s.account letterId = true ∨
    ∃ gift ∈ s.giftLetters.rows, gift.source = .sendFailed letterId

/-- A letter paid back was sent. -/
theorem Returned.sent {s : Commerce.Store} {letterId : LetterId} (paid : PaidIn s) (returned : Returned s letterId) :
    ∃ fundingType, SentBy s.letters fundingType letterId := by
  rcases returned with credits | ⟨gift, member, source⟩
  · exact ⟨_, paid.returned letterId credits⟩
  · exact ⟨_, paid.giftReturned gift member letterId source⟩

theorem unreturned_of_uncompensated {letterId : LetterId} (owed : s.isLetterAlreadyCompensated letterId = false) :
    ¬Returned s.commerce letterId := by
  simp only [Store.isLetterAlreadyCompensated, packCompensated, Bool.or_eq_false_iff] at owed
  rintro (credits | ⟨gift, member, source⟩)
  · rw [owed.1.1] at credits
    cases credits
  · have none := List.any_eq_false.mp owed.2 gift member
    simp [source] at none

theorem FundsMove.returned {letterId other : LetterId} {pays : Prop} (move : FundsMove cfg letterId pays s s')
    (returned : Returned s'.commerce other) : Returned s.commerce other ∨ other = letterId ∧ pays := by
  cases move with
  | order funds found shift updated =>
    obtain ⟨-, -, rfl⟩ := Commerce.Store.updateOrder_ok updated
    exact .inl returned
  | codes => exact .inl returned
  | credits paid =>
    rcases returned with credits | gift
    · have applied : applyAccountEvent s.now s.commerce.account (.returnCredits letterId) =
          .ok (s.returnCredits letterId).1.commerce.account := rfl
      rcases hasReturned_grows applied credits with before | ⟨same, -⟩
      · exact .inl (.inl before)
      · cases same
        exact .inr ⟨rfl, paid⟩
    · exact .inl (.inr gift)
  | gift cause paid =>
    rcases returned with credits | ⟨gift, member, source⟩
    · exact .inl (.inl credits)
    · have inTables : gift ∈ (Gift.returnGiftLetterForFailedSend cfg s.now s.giftTables s.commerce.userId letterId
          cause).1.giftLetters.rows := member
      rcases Gift.returnGiftLetter_cases cfg s.now s.giftTables s.commerce.userId letterId cause with
        same | ⟨-, same | ⟨spent, -, -, -, same⟩⟩
      · rw [same] at inTables
        exact .inl (.inr ⟨gift, inTables, source⟩)
      · rw [same] at inTables
        exact .inl (.inr ⟨gift, inTables, source⟩)
      · rw [same] at inTables
        rcases Table.mem_insertNew.mp inTables with old | ⟨rfl, -⟩
        · exact .inl (.inr ⟨gift, old, source⟩)
        · cases source
          exact .inr ⟨rfl, paid⟩

theorem Funds.returned {letterId other : LetterId} {pays : Prop} (funds : Funds cfg letterId pays s s')
    (returned : Returned s'.commerce other) : Returned s.commerce other ∨ other = letterId ∧ pays := by
  induction funds with
  | refl => exact .inl returned
  | tail _ move ih =>
    rcases move.returned returned with before | paid
    · exact ih before
    · exact .inr paid

theorem mem_granted {now : Time} {giftLetters : Table GiftLetter.grant} {gift other : GiftLetter} {quantity : Nat}
    (member : other ∈ (grantGiftLettersWithClient now giftLetters gift quantity).rows) :
    other ∈ giftLetters.rows ∨ other.source = gift.source := by
  unfold grantGiftLettersWithClient at member
  generalize List.range quantity = indices at member
  induction indices generalizing giftLetters with
  | nil => exact .inl member
  | cons grantIndex rest ih =>
    rcases ih member with inserted | source
    · rcases Table.mem_insertNew.mp inserted with old | ⟨rfl, -⟩
      · exact .inl old
      · exact .inr rfl
    · exact .inr source

/-- No gift letter of the table is one a failed send gave back, but those that were. -/
def KeepsSources (before after : Table GiftLetter.grant) : Prop :=
  ∀ gift ∈ after.rows, ∀ letterId, gift.source = .sendFailed letterId →
    ∃ old ∈ before.rows, old.source = .sendFailed letterId

theorem KeepsSources.refl (giftLetters : Table GiftLetter.grant) : KeepsSources giftLetters giftLetters :=
  fun gift member _ source => ⟨gift, member, source⟩

theorem KeepsSources.granted {now : Time} {giftLetters : Table GiftLetter.grant} {gift : GiftLetter} {quantity : Nat}
    (first : ∀ letterId, gift.source ≠ .sendFailed letterId) :
    KeepsSources giftLetters (grantGiftLettersWithClient now giftLetters gift quantity) := by
  intro other member letterId source
  rcases mem_granted member with old | same
  · exact ⟨other, old, source⟩
  · exact absurd (same.symm.trans source) (first letterId)

theorem KeepsSources.update (giftLetters : Table GiftLetter.grant) (selected : GiftLetter → Bool)
    (change : GiftLetter → GiftLetter) (kept : ∀ gift, (change gift).grant = gift.grant) :
    KeepsSources giftLetters (giftLetters.update selected change kept) := by
  intro other member letterId source
  rcases mem_updateWhere.mp member with ⟨old, -⟩ | ⟨gift, known, -, rfl⟩
  · exact ⟨other, old, source⟩
  · exact ⟨gift, known, (congrArg Prod.fst (kept gift)).symm.trans source⟩

theorem KeepsSources.spent {now : Time} {giftLetters later : Table GiftLetter.grant} {userId : UserId}
    {letterId : LetterId} {gift : GiftLetter}
    (consumed : consumeGiftLetter now giftLetters userId letterId = some (gift, later)) :
    KeepsSources giftLetters later := by
  obtain ⟨expired, rfl, offered, -, -, rfl⟩ := Gift.consumeGiftLetter_spec consumed
  intro other member letterId source
  have aged := KeepsSources.update giftLetters
    (fun gift => gift.userId == userId && gift.status == .available && gift.expiresAt.any (· ≤ now))
    (fun gift => { gift with status := .expired }) fun _ => rfl
  rcases Table.mem_put.mp member with ⟨old, -⟩ | ⟨rfl, -⟩
  · exact aged other old letterId source
  · exact aged gift offered letterId source

theorem returned_of_account {event : AccountEvent} {now : Time} {s s' : Commerce.Store} {letterId : LetterId}
    (applied : applyAccountEvent now s.account event = .ok s'.account) (gifts : s'.giftLetters = s.giftLetters)
    (returned : Returned s' letterId) : Returned s letterId ∨ event = .returnCredits letterId := by
  rcases returned with credits | gift
  · rcases hasReturned_grows applied credits with before | ⟨same, -⟩
    · exact .inl (.inl before)
    · exact .inr same
  · exact .inl (.inr (gifts ▸ gift))

theorem returned_of_gifts (s s' : Commerce.Store) {letterId : LetterId} (account : s'.account = s.account)
    (gifts : KeepsSources s.giftLetters s'.giftLetters) (returned : Returned s' letterId) : Returned s letterId := by
  rcases returned with credits | ⟨gift, member, source⟩
  · exact .inl (account ▸ credits)
  · exact .inr (gifts gift member letterId source)

/-- A write of commerce pays back only the letters it may. -/
theorem write_returned {hands : Beneficiary → Prop} {s s' : Commerce.Store} {letterId : LetterId}
    (write : Write cfg hands s s') (returned : Returned s' letterId) :
    Returned s letterId ∨ hands (.letter letterId) := by
  have operates : ∀ event : AccountEvent, applyAccountEvent s.now s.account event = .ok s'.account →
      s'.giftLetters = s.giftLetters → (∀ letterId, event = .returnCredits letterId → hands (.letter letterId)) →
      Returned s letterId ∨ hands (.letter letterId) := fun event applied gifts allowed =>
    (returned_of_account applied gifts returned).imp_right (allowed letterId)
  have regifts : s'.account = s.account → KeepsSources s.giftLetters s'.giftLetters →
      Returned s letterId ∨ hands (.letter letterId) := fun account gifts =>
    .inl (returned_of_gifts s s' account gifts returned)
  cases write with
  | account event loose allowed whole applied => exact operates event applied rfl allowed
  | @restore order current disputeId => exact operates (.compensateDisputedPacks order disputeId) rfl rfl (by rintro _ ⟨⟩)
  | gifts found pack => exact regifts rfl (.granted fun _ source => by cases source)
  | otherGifts => exact regifts rfl (.granted fun _ source => by cases source)
  | revokeGifts orderId => exact regifts rfl (.update _ _ _ GiftLetter.reverse_grant)
  | fulfilPack found pack unfunded moved status attached granted checked =>
    exact operates (.addCredits _) granted rfl (by rintro _ ⟨⟩)
  | regrantPack found pack status attached missing granted => exact operates (.addCredits _) granted rfl (by rintro _ ⟨⟩)
  | mailPrepaid drafted pending fresh deducted => exact operates (.deductCredits _ _) deducted rfl (by rintro _ ⟨⟩)
  | mailGift drafted pending fresh spent => exact regifts rfl (.spent spent)
  | @withdraw order row account exhausted found pack fulfilled named credits amount state free below fresh revoked
      checked =>
    have applied : applyAccountEvent s.now s.account (.revokeProportionally order row.credits row.packRefundId) =
        .ok account := by
      rw [applyAccountEvent, revoked]
      rfl
    exact operates (.revokeProportionally order row.credits row.packRefundId) applied rfl (by rintro _ ⟨⟩)
  | @compensate row => exact operates (.compensatePackRefund row) rfl rfl (by rintro _ ⟨⟩)
  | @compensateNothing row => exact operates (.compensatePackRefund row) rfl rfl (by rintro _ ⟨⟩)
  | _ => exact .inl returned

theorem writes_returned {hands : Beneficiary → Prop} {s s' : Commerce.Store} {letterId : LetterId}
    (writes : Writes cfg hands s s') (unpaid : ¬hands (.letter letterId)) (returned : Returned s' letterId) :
    Returned s letterId := by
  induction writes with
  | refl => exact returned
  | tail _ write ih =>
    rcases write_returned write returned with before | paid
    · exact ih before
    · exact absurd paid unpaid

theorem applyReversals_returned {reversed : List Reversal} {letterId : LetterId}
    (returned : Returned (reversed.foldl applyReversal s).commerce letterId) : Returned s.commerce letterId := by
  induction reversed generalizing s with
  | nil => exact returned
  | cons reversal reversed ih =>
    obtain ⟨giftLetters, same, gifts⟩ := applyReversal_commerce s reversal
    have later := ih returned
    rw [same] at later
    refine returned_of_gifts s.commerce { s.commerce with giftLetters } rfl ?_ later
    rcases gifts with rfl | rfl
    · exact .refl _
    · exact .update _ _ _ GiftLetter.reverse_grant

theorem CommerceFunds.returned {commerce : Commerce.Event} (money : CommerceFunds cfg s commerce s')
    (backed : Backed s.commerce) {letterId : LetterId} (returned : Returned s'.commerce letterId) :
    Returned s.commerce letterId := by
  obtain ⟨after, middle, other, funds, free, stepped, reversed⟩ := money
  have unpaid : ¬HandsBack cfg s.commerce commerce (.letter letterId) := by
    intro same
    have own : commerce = .returnCredits letterId := same
    rw [own] at free
    cases free
  rcases funds.returned returned with before | ⟨-, never⟩
  · rw [reversed] at before
    exact writes_returned (step_writes backed.regular stepped) unpaid (applyReversals_returned before)
  · exact never.elim

/-- A step pays a letter back only where it ends its mail. -/
theorem step_returned (backed : Backed s.commerce) (committed : step cfg s event = .ok s') {letterId : LetterId}
    (returned : Returned s'.commerce letterId) :
    Returned s.commerce letterId ∨ EndsMail s s'.jobs letterId ∧ EndsLetter s s'.letters letterId := by
  cases step_money committed with
  | commerce here money => exact .inl (money.returned backed returned)
  | @redeems userId code tables sameAddress redeemed after =>
    obtain ⟨row, granted⟩ := redeemChainCode_gifts redeemed
    subst after
    refine .inl (returned_of_gifts s.commerce { s.commerce with giftLetters := tables.giftLetters } rfl ?_ returned)
    show KeepsSources s.commerce.giftLetters tables.giftLetters
    rw [granted]
    exact .granted fun _ source => by cases source
  | funds settles =>
    obtain ⟨middle, other, funds, same, -⟩ := settles
    rcases funds.returned returned with before | ⟨rfl, ends⟩
    · rw [same] at before
      exact .inl before
    · exact .inr ends

/-! What may still be sent is not paid back. -/

/-- The outbox may still send the letter of the job. -/
def LetterJob.live (job : LetterJob) : Prop :=
  job.status = .pending ∨ job.status = .processing ∨
    (job.status = .failed ∧ job.providerOutcome = .notDispatched ∧ job.attempts < job.maxAttempts)

/-- A letter paid back is not sent again: what would have it sent asks first. -/
theorem JobMove.spent_kept {job job' : LetterJob} (move : JobMove s event job job')
    (returned : Returned s.commerce job.letterId) (spent : ¬job.live) : ¬job'.live := by
  intro live
  cases move with
  | claimed here candidate =>
    obtain ⟨below, undispatched, pending | failed | taken⟩ := claimable_iff candidate
    · exact spent (.inl pending)
    · exact spent (.inr (.inr ⟨failed, undispatched, below⟩))
    · exact spent (.inr (.inl taken))
  | putBack taken => exact spent (.inr (.inl taken))
  | marked here member same phase owned free => exact spent (.inr (.inl (stillClaimed_iff.mp owned).1))
  | quarantined =>
    unfold ambiguousJob at live
    split at live
    · exact spent live
    · simp [LetterJob.live] at live
  | completed => simp [LetterJob.live] at live
  | rejected => simp [LetterJob.live] at live
  | undispatched delay member same phase owned free => exact spent (.inr (.inl (stillClaimed_iff.mp owned).1))
  | cancelled resolution pending => exact spent (.inl pending)
  | @resolved userId decision provider here held ambiguous owed =>
    cases decision with
    | accepted => simp [LetterJob.live, resolvedJob] at live
    | retry => exact unreturned_of_uncompensated (owed (by rintro ⟨⟩)) returned
    | rejected => simp [LetterJob.live, resolvedJob] at live
  | requeued here failed definite owed => exact unreturned_of_uncompensated owed returned
  | released here pending => exact spent (.inl pending)
  | stopped =>
    unfold stoppedJob at live
    split at live
    · exact spent live
    · simp [LetterJob.live] at live
  | halted => simp [LetterJob.live, haltedJob] at live
  | withheld funding waiting => exact spent (waiting.imp_right .inl)

theorem JobMoves.spent_kept {job job' : LetterJob} (moves : JobMoves s event job job')
    (returned : Returned s.commerce job.letterId) (spent : ¬job.live) : ¬job'.live := by
  induction moves with
  | refl => exact spent
  | tail before move ih =>
    refine move.spent_kept ?_ ih
    rwa [JobMoves.letterId before]

/-- A letter that may still be sent has not been paid back. -/
def Unreturned (s : Store) : Prop := ∀ job ∈ s.jobs.rows, job.live → ¬Returned s.commerce job.letterId

/-- What keeps a letter's money and its mail in step. -/
structure Settled (s : Store) : Prop where
  filed : Filed s
  backed : Backed s.commerce
  budgeted : ∀ job ∈ s.jobs.rows, Budgeted s job
  tracked : Tracked s
  unreturned : Unreturned s

/-- How a step that ends a letter's mail leaves its job. -/
theorem EndsMail.outcome {letterId : LetterId} (ends : EndsMail s s'.jobs letterId) (settled : Settled s)
    (after : Filed s') (committed : step cfg s event = .ok s') {job : LetterJob} (member : job ∈ s'.jobs.rows)
    (same : job.letterId = letterId) :
    job.status = .cancelled ∨ job.delivered ∨ job.status = .failed ∧
      (job.providerOutcome = .definiteFailure ∨ job.maxAttempts ≤ job.attempts ∧ job.providerOutcome = .notDispatched) := by
  have steps := step_moves committed
  -- a letter has one job, so it is the one the step ended
  have only : ∀ other jobId, s'.jobs.find jobId = some other → other.letterId = letterId → other = job := by
    intro other jobId found named
    have ids := after.oneJob other (Table.find_mem found) job member (named.trans same.symm)
    have here := Table.find_of_mem member
    rw [← ids, Table.find_key found, found] at here
    exact Option.some.inj here
  have claimed : ∀ worker ∈ s.workers, worker.claim.letterId = letterId → ∀ other,
      s'.jobs.find worker.claim.jobId = some other → other = job := by
    intro worker inWorkers named other found
    obtain ⟨old, before, ofLetter⟩ := settled.filed.claims worker inWorkers
    obtain ⟨other', found', moves⟩ := steps.jobs.moved _ old before
    rw [found] at found'
    cases found'
    exact only other _ found (moves.letterId.trans (ofLetter.trans named))
  cases ends with
  | @dispatch worker other inWorkers named found failed definite =>
    cases claimed worker inWorkers named other found
    exact .inr (.inr ⟨failed, .inl definite⟩)
  | @undispatched worker old inWorkers named phase before owned spent delay found =>
    cases claimed worker inWorkers named _ found
    obtain ⟨taken, attempts, undispatched⟩ := stillClaimed_iff.mp owned
    have budget := (settled.budgeted old (Table.find_mem before)).claims worker inWorkers (Table.find_key before).symm
    refine .inr (.inr ⟨rfl, .inr ⟨?_, undispatched⟩⟩)
    by_contra below
    have limit : old.attempts < old.maxAttempts := Nat.lt_of_not_le below
    have raised := (budget.raised (by omega)).2 taken undispatched
    omega
  | ended found named status =>
    cases only _ _ found named
    rcases status with cancelled | ⟨failed, definite⟩
    · exact .inl cancelled
    · exact .inr (.inr ⟨failed, .inl definite⟩)
  | lost found tracked =>
    have known := Table.find_key found
    rcases step_letters committed with ⟨commerce, mail, _, letter, rfl, stepped, new, freshJob, freshLetter, funds⟩ |
      moves
    · rw [funds.jobs] at member
      rcases List.mem_append.mp member with old | added
      · exact .inr (.inl (settled.tracked _ (Table.find_mem found) tracked job old (same.trans known.symm)))
      · rw [List.mem_singleton.mp added] at same
        rw [queuedLetter_letterId] at freshLetter
        have here : letter.letterId = letterId := same
        exact absurd (List.mem_map.mpr ⟨_, Table.find_mem found, known.trans here.symm⟩) freshLetter
    · obtain ⟨old, before, moved⟩ := moves.origin steps member
      have delivered := moved.delivered_kept (settled.tracked _ (Table.find_mem found) tracked old
        (Table.find_mem before) (moved.letterId.symm.trans (same.trans known.symm)))
      exact .inr (.inl delivered)

/-- So no job would still send the letter. -/
theorem EndsMail.spent {letterId : LetterId} (ends : EndsMail s s'.jobs letterId) (settled : Settled s)
    (after : Filed s') (committed : step cfg s event = .ok s') {job : LetterJob} (member : job ∈ s'.jobs.rows)
    (same : job.letterId = letterId) : ¬job.live := by
  rcases ends.outcome settled after committed member same with cancelled | delivered | ⟨failed, definite | ⟨spent, -⟩⟩
  · simp [LetterJob.live, cancelled]
  · simp [LetterJob.live, delivered.1]
  · simp [LetterJob.live, failed, definite]
  · rintro (pending | processing | ⟨-, -, below⟩)
    · simp [failed] at pending
    · simp [failed] at processing
    · omega

theorem Unreturned.step (settled : Settled s) (after : Filed s') (committed : step cfg s event = .ok s') :
    Unreturned s' := by
  have steps := step_moves committed
  intro job' member live returned
  rcases step_letters committed with ⟨commerce, mail, stepped, letter, rfl, stepping, new, freshJob, freshLetter, funds⟩ |
    moves
  · have before := (commerceStep_money committed).returned settled.backed returned
    rw [funds.jobs] at member
    rcases List.mem_append.mp member with old | added
    · exact settled.unreturned job' old live before
    · have here : job'.letterId = letter.letterId := by
        rw [List.mem_singleton.mp added]
        rfl
      obtain ⟨fundingType, sent, inLetters, named, -⟩ := before.sent settled.backed.paid
      have unsent := List.find?_some new
      rw [← here, ← named, Table.find_of_mem inLetters] at unsent
      cases unsent
  · obtain ⟨job, found, moved⟩ := moves.origin steps member
    rcases step_returned settled.backed committed returned with before | ends
    · rw [moved.letterId] at before
      by_cases was : job.live
      · exact settled.unreturned job (Table.find_mem found) was before
      · exact moved.spent_kept before was live
    · exact ends.1.spent settled after committed member rfl live

theorem Settled.step (settled : Settled s) (committed : step cfg s event = .ok s') : Settled s' := by
  have filed := settled.filed.step settled.backed committed
  exact ⟨filed, step_backed committed settled.backed, budgeted_step settled.filed settled.budgeted committed,
    settled.tracked.step filed committed, Unreturned.step settled filed committed⟩

theorem settled_start : Settled {} where
  filed := reachable_filed (.start : Reachable {} {})
  backed := backed_start
  budgeted _ member := absurd member List.not_mem_nil
  tracked _ member := absurd member List.not_mem_nil
  unreturned _ member := absurd member List.not_mem_nil

theorem reachable_settled (reach : Reachable cfg s) : Settled s :=
  reach.invariant settled_start fun _ _ _ settled _ committed => settled.step committed

end LetterIRL.Mail
