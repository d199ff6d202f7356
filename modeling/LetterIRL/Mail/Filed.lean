import LetterIRL.Mail.Money

namespace LetterIRL.Mail
open Lib Ledger Commerce Relation

/-! Letters, jobs and dispatches belong together, and letters stay what they were sent as. -/

variable {cfg : Config} {s s' : Store} {event : Event}

/-- What no write of commerce changes: a letter sent, and a draft it consumed. -/
structure SendsStay (s s' : Commerce.Store) : Prop where
  letters : ∀ letterId letter, s.letters.find letterId = some letter → s'.letters.find letterId = some letter
  drafts : ∀ draftId draft, s.drafts.find draftId = some draft → draft.status = .consumed →
    s'.drafts.find draftId = some draft

theorem SendsStay.refl (s : Commerce.Store) : SendsStay s s := ⟨fun _ _ found => found, fun _ _ found _ => found⟩

theorem SendsStay.trans {first second third : Commerce.Store} (left : SendsStay first second)
    (right : SendsStay second third) : SendsStay first third where
  letters letterId letter found := right.letters letterId letter (left.letters letterId letter found)
  drafts draftId draft found consumed := right.drafts draftId draft (left.drafts draftId draft found consumed) consumed

theorem draft_kept {drafts : Table Draft.draftId} {old new draft : Draft} {draftId : DraftId}
    (changed : drafts.find new.draftId = some old) (pending : old.status = .pending)
    (found : drafts.find draftId = some draft) (consumed : draft.status = .consumed) :
    (drafts.put new).find draftId = some draft := by
  rw [Table.find_put_of_ne, found]
  rintro rfl
  rw [changed] at found
  cases found
  rw [pending] at consumed
  cases consumed

theorem write_sends {hands : Beneficiary → Prop} {s s' : Commerce.Store} (write : Write cfg hands s s') :
    SendsStay s s' := by
  cases write with
  | mailOrder found jit unfunded moved status checked drafted ordered pending priced paidFor fresh =>
    exact ⟨fun _ _ sent => Table.find_insert_kept fresh sent, fun _ _ drafts consumed =>
      draft_kept drafted pending drafts consumed⟩
  | mailPrepaid drafted pending fresh deducted =>
    exact ⟨fun _ _ sent => Table.find_insert_kept fresh sent, fun _ _ drafts consumed =>
      draft_kept drafted pending drafts consumed⟩
  | mailGift drafted pending fresh spent =>
    exact ⟨fun _ _ sent => Table.find_insert_kept fresh sent, fun _ _ drafts consumed =>
      draft_kept drafted pending drafts consumed⟩
  | openDraft pending fresh => exact ⟨fun _ _ sent => sent, fun _ _ drafts _ => Table.find_insert_kept fresh drafts⟩
  | changeDraft found pending unsent =>
    exact ⟨fun _ _ sent => sent, fun _ _ drafts consumed => draft_kept found pending drafts consumed⟩
  | _ => exact ⟨fun _ _ sent => sent, fun _ _ drafts _ => drafts⟩

theorem writes_sends {hands : Beneficiary → Prop} {s s' : Commerce.Store} (writes : Writes cfg hands s s') :
    SendsStay s s' := by
  induction writes with
  | refl => exact .refl s
  | tail _ write ih => exact ih.trans (write_sends write)

theorem SendsKept.stay (kept : SendsKept s s') : SendsStay s.commerce s'.commerce where
  letters _ _ found := by rw [kept.letters, found]
  drafts _ _ found _ := by rw [kept.drafts, found]

theorem applyReversals_stay (s : Store) (reversed : List Reversal) :
    SendsStay s.commerce (reversed.foldl applyReversal s).commerce := by
  induction reversed generalizing s with
  | nil => exact .refl _
  | cons reversal reversed ih =>
    obtain ⟨giftLetters, same, -⟩ := applyReversal_commerce s reversal
    have first : SendsStay s.commerce (applyReversal s reversal).commerce := by
      rw [same]
      exact ⟨fun _ _ sent => sent, fun _ _ drafts _ => drafts⟩
    exact first.trans (ih _)

theorem redeemChainCode_gifts {cfg : Config} {now : Time} {t tables : Gift.Tables} {userId : UserId}
    {sameAddress : Bool} {code : ChainCode}
    (redeemed : Gift.redeemChainCode cfg now t userId sameAddress code = .ok tables) :
    ∃ row, tables.giftLetters = grantGiftLettersWithClient now t.giftLetters (Gift.chainGift cfg now userId row) 1 := by
  unfold Gift.redeemChainCode at redeemed
  split at redeemed
  · cases redeemed
  · rename_i row _
    split at redeemed
    · cases redeemed
    · cases redeemed
      exact ⟨row, rfl⟩

theorem step_backed (committed : step cfg s event = .ok s') (backed : Backed s.commerce) : Backed s'.commerce := by
  cases step_money committed with
  | commerce here money =>
    obtain ⟨after, middle, letterId, funds, free, stepped, reversed⟩ := money
    refine funds.backed ?_
    rw [reversed]
    exact applyReversals_backed _ (stepped_backed backed stepped)
  | @redeems userId code tables sameAddress redeemed after =>
    obtain ⟨row, granted⟩ := redeemChainCode_gifts redeemed
    subst after
    refine ⟨backed.paid.withGifts ?_, backed.regular.checked, backed.regular.claimed⟩
    show GiftsPaid _ tables.giftLetters _
    rw [granted]
    exact backed.paid.gifts.grant (fun _ source => by cases source) 1
  | funds settles =>
    obtain ⟨middle, letterId, funds, same, -⟩ := settles
    refine funds.backed ?_
    rw [same]
    exact backed

theorem step_sends (committed : step cfg s event = .ok s') (backed : Backed s.commerce) :
    SendsStay s.commerce s'.commerce := by
  cases step_money committed with
  | @commerce commerce mail here money =>
    obtain ⟨after, middle, letterId, funds, free, stepped, reversed⟩ := money
    have first := writes_sends (step_writes backed.regular stepped)
    have second := applyReversals_stay { s with commerce := after } (reversals cfg s.commerce commerce)
    rw [← reversed] at second
    exact (first.trans second).trans funds.sends.stay
  | redeems sameAddress redeemed after =>
    subst after
    exact ⟨fun _ _ sent => sent, fun _ _ drafts _ => drafts⟩
  | funds settles =>
    obtain ⟨middle, letterId, funds, same, -⟩ := settles
    rw [← same]
    exact funds.sends.stay

theorem backed_start : Backed ({} : Store).commerce := by
  refine ⟨⟨?_, ?_, ?_, ?_, ?_, ?_⟩, .start⟩
  · exact fun _ member => absurd member List.not_mem_nil
  · exact fun _ member => absurd member List.not_mem_nil
  · exact fun _ member => absurd member List.not_mem_nil
  · exact fun _ member => absurd member List.not_mem_nil
  · exact fun _ none => by cases none
  · exact fun _ member => absurd member List.not_mem_nil

theorem reachable_backed (reach : Reachable cfg s) : Backed s.commerce :=
  reach.invariant (I := fun s => Backed s.commerce) backed_start fun _ _ _ backed _ committed =>
    step_backed committed backed

theorem JobMove.letterId {job job' : LetterJob} (move : JobMove s event job job') :
    job'.letterId = job.letterId := by
  cases move with
  | quarantined =>
    unfold ambiguousJob
    split <;> rfl
  | @resolved userId decision provider => cases decision <;> rfl
  | stopped reason =>
    unfold stoppedJob
    split <;> rfl
  | _ => rfl

theorem JobMoves.letterId {job job' : LetterJob} (moves : JobMoves s event job job') :
    job'.letterId = job.letterId := by
  induction moves with
  | refl => rfl
  | tail _ move ih => exact move.letterId.trans ih

/-- How letters, their jobs and the dispatches of these belong together. -/
structure Filed (s : Store) : Prop where
  letter : ∀ job ∈ s.jobs.rows, (s.letters.find job.letterId).isSome = true
  sent : ∀ letter ∈ s.letters.rows, (s.commerce.letters.find letter.letterId).isSome = true
  oneJob : ∀ first ∈ s.jobs.rows, ∀ second ∈ s.jobs.rows, first.letterId = second.letterId →
    first.jobId = second.jobId
  claims : ∀ worker ∈ s.workers, ∃ job, s.jobs.find worker.claim.jobId = some job ∧
    job.letterId = worker.claim.letterId

/-- A job after a step that queued nothing is one before it, moved. -/
theorem MovesMail.origin (moves : MovesMail s event s') (steps : StepMoves s event s') {job' : LetterJob}
    (member : job' ∈ s'.jobs.rows) :
    ∃ job, s.jobs.find job'.jobId = some job ∧ JobMoves s event job job' := by
  have found := Table.find_of_mem member
  obtain ⟨job, here⟩ := Table.find_isSome_of_key moves.jobs found
  obtain ⟨other, there, moved⟩ := steps.jobs.moved _ job here
  rw [found] at there
  cases there
  exact ⟨job, here, moved⟩

theorem MovesMail.letterOrigin (moves : MovesMail s event s') {letter' : MailItem}
    (member : letter' ∈ s'.letters.rows) :
    ∃ letter, s.letters.find letter'.letterId = some letter ∧
      (letter' = letter ∨ LetterMove s event s'.jobs letter letter') := by
  have found := Table.find_of_mem member
  cases before : s.letters.find letter'.letterId with
  | none =>
    rw [moves.letters.kept _ before] at found
    cases found
  | some letter =>
    obtain ⟨other, there, moved⟩ := moves.letters.moved _ letter before
    rw [found] at there
    cases there
    exact ⟨letter, rfl, moved⟩

/-- A dispatch after a step is of a job before it. -/
theorem Filed.claimed (filed : Filed s) (steps : StepMoves s event s') {worker : Worker}
    (member : worker ∈ s'.workers) : ∃ job, s.jobs.find worker.claim.jobId = some job ∧
      job.letterId = worker.claim.letterId := by
  cases steps.workers worker member with
  | stays old => exact filed.claims worker old
  | @advances worker phase old on marks => exact filed.claims worker old
  | claims here found candidate => exact ⟨_, found, rfl⟩
  | sweeps found taken dispatching => exact ⟨_, found, rfl⟩
  | givesUp found spent free => exact ⟨_, found, rfl⟩

theorem Filed.step (filed : Filed s) (backed : Backed s.commerce) (committed : step cfg s event = .ok s') :
    Filed s' := by
  have steps := step_moves committed
  have sends := step_sends committed backed
  have claims : ∀ worker ∈ s'.workers, ∃ job, s'.jobs.find worker.claim.jobId = some job ∧
      job.letterId = worker.claim.letterId := by
    intro worker member
    obtain ⟨job, found, same⟩ := filed.claimed steps member
    obtain ⟨job', found', moves⟩ := steps.jobs.moved _ job found
    exact ⟨job', found', moves.letterId.trans same⟩
  rcases step_letters committed with ⟨commerce, mail, after, letter, rfl, stepped, new, freshJob, freshLetter, funds⟩ |
    moves
  · have jobs := funds.jobs
    have letters := funds.letters
    have unfiled : ∀ job ∈ s.jobs.rows, job.letterId ≠ letter.letterId := by
      intro job member same
      obtain ⟨item, found⟩ := Option.isSome_iff_exists.mp (filed.letter job member)
      rw [queuedLetter_letterId, ← same] at freshLetter
      exact freshLetter (List.mem_map.mpr ⟨item, Table.find_mem found, Table.find_key found⟩)
    refine ⟨fun job member => ?_, fun item member => ?_, fun first atFirst second atSecond same => ?_, claims⟩
    · rw [jobs] at member
      rw [letters]
      rcases List.mem_append.mp member with old | added
      · obtain ⟨item, found⟩ := Option.isSome_iff_exists.mp (filed.letter job old)
        exact Option.isSome_iff_exists.mpr ⟨item, Table.find_insert_kept freshLetter found⟩
      · rw [List.mem_singleton.mp added]
        have key := queuedLetter_letterId { s with commerce := after } letter mail
        refine Option.isSome_iff_exists.mpr ⟨queuedLetter { s with commerce := after } letter mail, ?_⟩
        show (s.letters.insert _ freshLetter).find letter.letterId = _
        rw [Table.find_insert, if_pos key.symm]
    · rw [letters] at member
      rcases List.mem_append.mp member with old | added
      · obtain ⟨row, found⟩ := Option.isSome_iff_exists.mp (filed.sent item old)
        exact Option.isSome_iff_exists.mpr ⟨row, sends.letters _ row found⟩
      · have key := queuedLetter_letterId { s with commerce := after } letter mail
        have sent : after.letters.find letter.letterId = some letter :=
          Table.find_of_mem (List.mem_of_find?_eq_some new)
        rw [List.mem_singleton.mp added, key, funds.sends.letters]
        exact Option.isSome_iff_exists.mpr ⟨letter, sent⟩
    · rw [jobs] at atFirst atSecond
      rcases List.mem_append.mp atFirst with old | added
      · rcases List.mem_append.mp atSecond with old' | added'
        · exact filed.oneJob first old second old' same
        · rw [List.mem_singleton.mp added'] at same
          exact absurd same (unfiled first old)
      · rcases List.mem_append.mp atSecond with old' | added'
        · rw [List.mem_singleton.mp added] at same
          exact absurd same.symm (unfiled second old')
        · rw [List.mem_singleton.mp added, List.mem_singleton.mp added']
  · refine ⟨fun job' member => ?_, fun letter' member => ?_, fun first atFirst second atSecond same => ?_, claims⟩
    · obtain ⟨job, found, moved⟩ := moves.origin steps member
      obtain ⟨item, atItem⟩ := Option.isSome_iff_exists.mp (filed.letter job (Table.find_mem found))
      obtain ⟨item', atItem', -⟩ := moves.letters.moved _ item atItem
      rw [moved.letterId]
      exact Option.isSome_iff_exists.mpr ⟨item', atItem'⟩
    · obtain ⟨letter, found, -⟩ := moves.letterOrigin member
      obtain ⟨row, atRow⟩ := Option.isSome_iff_exists.mp (filed.sent letter (Table.find_mem found))
      rw [Table.find_key found] at atRow
      exact Option.isSome_iff_exists.mpr ⟨row, sends.letters _ row atRow⟩
    · obtain ⟨firstOld, atOld, moved⟩ := moves.origin steps atFirst
      obtain ⟨secondOld, atOld', moved'⟩ := moves.origin steps atSecond
      rw [moved.letterId, moved'.letterId] at same
      have ids := filed.oneJob firstOld (Table.find_mem atOld) secondOld (Table.find_mem atOld') same
      rwa [Table.find_key atOld, Table.find_key atOld'] at ids

theorem reachable_filed (reach : Reachable cfg s) : Filed s := by
  have both : Filed s ∧ Backed s.commerce := by
    refine reach.invariant (I := fun s => Filed s ∧ Backed s.commerce) ⟨⟨?_, ?_, ?_, ?_⟩, backed_start⟩
      fun _ _ _ both _ committed => ⟨both.1.step both.2 committed, step_backed committed both.2⟩
    · exact fun _ member => absurd member List.not_mem_nil
    · exact fun _ member => absurd member List.not_mem_nil
    · exact fun _ member => absurd member List.not_mem_nil
    · exact fun _ member => absurd member List.not_mem_nil
  exact both.1

end LetterIRL.Mail
