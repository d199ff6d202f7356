import LetterIRL.Mail.Unreturned
import LetterIRL.Balance.Spending

namespace LetterIRL.Mail
open Lib Ledger Commerce Relation

/-! What a cancel gives back of what paid for the letter, and how it reports it. -/

variable {cfg : Config} {s s' : Store} {event : Event} {letterId : LetterId}

/-- A letter paid from the balance records what its draft required. -/
def Billed (s : Store) : Prop :=
  ∀ item ∈ s.letters.rows, ∀ letter, s.commerce.letters.find item.letterId = some letter →
    letter.fundingType = .prepaidBalance →
    ∃ draft, s.commerce.drafts.find letter.draftId = some draft ∧ draft.status = .consumed ∧
      item.creditsCost = draft.requiredCredits

theorem Billed.step (billed : Billed s) (settled : Settled s) (committed : step cfg s event = .ok s') :
    Billed s' := by
  have sends := step_sends committed settled.backed
  have after := step_backed committed settled.backed
  -- a letter there was is still what it was sent as, and so is its draft
  have old : ∀ item ∈ s.letters.rows, ∀ letter, s'.commerce.letters.find item.letterId = some letter →
      letter.fundingType = .prepaidBalance →
      ∃ draft, s'.commerce.drafts.find letter.draftId = some draft ∧ draft.status = .consumed ∧
        item.creditsCost = draft.requiredCredits := by
    intro item member letter found prepaid
    obtain ⟨row, before⟩ := Option.isSome_iff_exists.mp (settled.filed.sent item member)
    have same := sends.letters _ row before
    rw [found] at same
    cases same
    obtain ⟨draft, drafted, consumed, cost⟩ := billed item member letter before prepaid
    exact ⟨draft, sends.drafts _ draft drafted consumed, consumed, cost⟩
  intro item member letter found prepaid
  rcases step_letters committed with ⟨commerce, mail, sent, new, rfl, stepped, first, freshJob, freshLetter, funds⟩ |
    moves
  · rw [funds.letters] at member
    rcases List.mem_append.mp member with known | added
    · exact old item known letter found prepaid
    · have named := queuedLetter_letterId { s with commerce := sent } new mail
      have here := List.mem_singleton.mp added
      have inSent : sent.letters.find new.letterId = some new :=
        Table.find_of_mem (List.mem_of_find?_eq_some first)
      rw [here, named, funds.sends.letters] at found
      obtain rfl : new = letter := Option.some.inj (inSent.symm.trans found)
      have stored : s'.commerce.letters.find new.letterId = some new := by
        rw [funds.sends.letters]
        exact found
      obtain ⟨draft, drafted, consumed, -⟩ := after.paid.billed new (Table.find_mem stored) prepaid
      refine ⟨draft, drafted, consumed, ?_⟩
      have atSend : sent.drafts.find new.draftId = some draft := by
        rw [← drafted, funds.sends.drafts]
      rw [here, queuedLetter]
      simp only [atSend]
  · obtain ⟨before, atBefore, kept⟩ := moves.letterOrigin member
    have same : item.letterId = before.letterId ∧ item.creditsCost = before.creditsCost := by
      rcases kept with rfl | move
      · exact ⟨rfl, rfl⟩
      · have sentAs := move.sentAs
        simp only [MailItem.sentAs, Prod.mk.injEq] at sentAs
        exact ⟨sentAs.1, sentAs.2.1⟩
    rw [same.1] at found
    rw [same.2]
    exact old before (Table.find_mem atBefore) letter found prepaid

theorem reachable_billed (reach : Reachable cfg s) : Billed s := by
  have both : Settled s ∧ Billed s := by
    refine reach.invariant (I := fun s => Settled s ∧ Billed s) ⟨settled_start, ?_⟩
      fun _ _ _ both _ committed => ⟨both.1.step committed, both.2.step both.1 committed⟩
    exact fun _ member => absurd member List.not_mem_nil
  exact both.2

/-- And so what it consumed. -/
theorem Billed.consumed (billed : Billed s) (paid : PaidIn s.commerce) {item : MailItem} {letter : Letter}
    (member : item ∈ s.letters.rows) (found : s.commerce.letters.find item.letterId = some letter)
    (prepaid : letter.fundingType = .prepaidBalance) :
    item.creditsCost = consumedCredits s.commerce.account item.letterId := by
  obtain ⟨draft, drafted, -, cost⟩ := billed item member letter found prepaid
  obtain ⟨other, there, -, consumed⟩ := paid.billed letter (Table.find_mem found) prepaid
  rw [drafted] at there
  cases there
  rw [cost, ← consumed, Table.find_key found]

/-! Credits. -/

/-- Credits of a letter's whose lots were not paid back in cash, kept where `selected`. -/
def unrevoked (account : Account) (letterId : LetterId) (selected : Lot → Bool) : Nat :=
  total Prod.snd ((consumedLots account letterId).filter fun consumed =>
    consumed.1.status != .revoked && selected consumed.1)

/-- What a letter consumed that its account could spend again. -/
def usableCredits (now : Time) (account : Account) (letterId : LetterId) : Nat :=
  unrevoked account letterId fun lot => !lapsed now lot

/-- What it consumed that ran out since. -/
def lapsedCredits (now : Time) (account : Account) (letterId : LetterId) : Nat :=
  unrevoked account letterId (lapsed now)

/-- Both are of what the letter consumed. -/
theorem usable_lapsed_le (now : Time) (account : Account) (letterId : LetterId) :
    usableCredits now account letterId + lapsedCredits now account letterId ≤ consumedCredits account letterId := by
  have joined : total Prod.snd (consumedLots account letterId) ≤ consumedCredits account letterId := by
    unfold consumedLots consumedCredits
    refine total_filterMap_le (fun consumption _ pair chosen => ?_)
    obtain ⟨lot, -, rfl⟩ := Option.map_eq_some_iff.mp chosen
    exact le_rfl
  refine le_trans ?_ joined
  unfold usableCredits lapsedCredits unrevoked
  rw [total_filter, total_filter, ← total_add]
  refine total_le fun consumed _ => ?_
  cases kept : consumed.1.status != .revoked
  · simp
  · cases past : lapsed now consumed.1
    · simp [past]
    · simp [past]

/-- The credits a return re-issues, by whether they can be spent. -/
theorem returnedLots_total {account : Account} (fresh : hasReturnedCreditsForLetter account letterId = false)
    (selected : Lot → Bool) :
    total Prod.snd ((returnedLots account letterId).filter fun consumed => selected consumed.1) =
      unrevoked account letterId selected := by
  unfold returnedLots unrevoked
  rw [fresh]
  simp only [Bool.false_eq_true, if_false, List.filter_filter]
  rw [total_filter, total_filter]
  refine total_congr fun consumed _ => ?_
  by_cases none : consumed.2 = 0
  · simp [none]
  · have some_ : 0 < consumed.2 := Nat.pos_of_ne_zero none
    simp only [some_, decide_true, Bool.true_and]
    cases selected consumed.1
    · simp
    · simp

theorem returnCredits_back (fresh : hasReturnedCreditsForLetter s.commerce.account letterId = false) :
    (s.returnCredits letterId).2 = usableCredits s.now s.commerce.account letterId +
      lapsedCredits s.now s.commerce.account letterId := by
  have count : (s.returnCredits letterId).2 = total Prod.snd (returnedLots s.commerce.account letterId) := by
    simp [Store.returnCredits, returnConsumedCreditsForLetter, returnedLots, fresh]
  rw [count]
  unfold usableCredits lapsedCredits
  rw [← returnedLots_total fresh, ← returnedLots_total fresh, total_filter, total_filter, ← total_add]
  refine total_congr fun consumed _ => ?_
  cases lapsed s.now consumed.1
  · simp
  · simp

theorem returnCredits_credits (fresh : hasReturnedCreditsForLetter s.commerce.account letterId = false) :
    (s.returnCredits letterId).1.commerce.account.credits =
      s.commerce.account.credits + usableCredits s.now s.commerce.account letterId := by
  show (returnConsumedCreditsForLetter s.now s.commerce.account letterId).1.credits = _
  rw [returnConsumedCreditsForLetter_eq]
  exact congrArg (s.commerce.account.credits + ·)
    (returnedLots_total fresh fun lot => !lapsed s.now lot)

/-- The lots posted past their expiry are the return's own: no earlier one left its mark. -/
theorem returnedExpired_back (fresh : hasReturnedCreditsForLetter s.commerce.account letterId = false) :
    returnedExpired (s.returnCredits letterId).1 letterId = lapsedCredits s.now s.commerce.account letterId := by
  have ledger : (s.returnCredits letterId).1.commerce.account.creditLedger =
      postLots ((returnedLots s.commerce.account letterId).map (returnedLot s.now letterId))
        s.commerce.account.creditLedger := by
    show (returnConsumedCreditsForLetter s.now s.commerce.account letterId).1.creditLedger = _
    rw [returnConsumedCreditsForLetter_eq]
    rfl
  have earlier : total (fun lot => if (lot.sourceType == .adjustment &&
      lot.sourceMetadata.letterId == some letterId && lot.sourceMetadata.reason == some .sendFailed) &&
        lapsed s.now lot then lot.initialAmount else 0) s.commerce.account.creditLedger.rows = 0 := by
    refine total_eq_zero fun lot member => ?_
    rw [Bool.eq_false_iff.mpr (List.any_eq_false.mp fresh lot member)]
    rfl
  have own : (s.returnCredits letterId).1.now = s.now := rfl
  unfold returnedExpired lapsedCredits
  rw [ledger, own, total_filter, total_postLots fun _ _ => rfl, earlier, total_map, Nat.zero_add,
    ← returnedLots_total fresh, total_filter]
  refine total_congr fun consumed _ => ?_
  simp only [returnedLot, beq_self_eq_true, Bool.and_true, Bool.true_and]
  rfl

/-- The credits back, and their report, when nothing of the letter's was returned before. -/
theorem creditsBack_eq {creditsCost : Nat}
    (fresh : hasReturnedCreditsForLetter s.commerce.account letterId = false) :
    creditsBack s letterId creditsCost = ((s.returnCredits letterId).1,
      usableCredits s.now s.commerce.account letterId / CREDITS_PER_LETTER,
      shortfallOf (usableCredits s.now s.commerce.account letterId)
        (lapsedCredits s.now s.commerce.account letterId) creditsCost) := by
  have count := returnCredits_back fresh
  have expired : (if 0 < (s.returnCredits letterId).2 then returnedExpired (s.returnCredits letterId).1 letterId
      else 0) = lapsedCredits s.now s.commerce.account letterId := by
    split
    · exact returnedExpired_back fresh
    · omega
  unfold creditsBack
  dsimp only
  rw [expired, count, Nat.add_sub_cancel]

/-- What a shortfall says of the credits that did not come back. -/
structure ShortfallSays (usable lapsed consumed : Nat) (shortfall : ReturnShortfall) : Prop where
  none : shortfall = .none ↔ consumed = usable
  partly : shortfall = .partly ↔ 0 < usable ∧ usable < consumed
  expired : shortfall = .expired ↔ usable = 0 ∧ 0 < lapsed
  refunded : shortfall = .refunded ↔ usable = 0 ∧ lapsed = 0 ∧ 0 < consumed

theorem shortfallOf_says {usable lapsed consumed : Nat} (within : usable + lapsed ≤ consumed) :
    ShortfallSays usable lapsed consumed (shortfallOf usable lapsed consumed) := by
  unfold shortfallOf
  split
  · constructor <;> simp <;> omega
  · split
    · constructor <;> simp <;> omega
    · split
      · constructor <;> simp <;> omega
      · constructor <;> simp <;> omega

/-! The gift. -/

/-- The gift of a letter may be returned: its purchase stands, and no code it printed was redeemed. -/
def GiftStands (s : Store) (letterId : LetterId) (gift : GiftLetter) : Prop :=
  gift.sourceReversed = false ∧ ∀ code ∈ s.giftCodes.rows, code.letterId = letterId → code.status ≠ .redeemed

/-- What became of the gift that paid for a letter. -/
inductive GiftBack (cfg : Config) (cause : Gift.ReturnCause) (s s' : Store) (letterId : LetterId)
    (gift : GiftLetter) (returned : Nat) : Prop
  | back (stands : GiftStands s letterId gift)
      (gifts : s'.commerce.giftLetters.rows =
        s.commerce.giftLetters.rows ++ [Gift.returnedGift cfg s.now cause letterId gift]) (one : returned = 1)
  | kept (fallen : ¬GiftStands s letterId gift) (gifts : s'.commerce.giftLetters = s.commerce.giftLetters)
      (none : returned = 0)

theorem returnGift_spec (cfg : Config) (cause : Gift.ReturnCause)
    (fresh : ∀ gift ∈ s.commerce.giftLetters.rows, gift.source ≠ .sendFailed letterId)
    (gifted : ∃ gift ∈ s.commerce.giftLetters.rows, gift.consumedByLetterId = some letterId ∧
      gift.userId = s.commerce.userId) :
    ∃ gift ∈ s.commerce.giftLetters.rows, gift.consumedByLetterId = some letterId ∧
      gift.userId = s.commerce.userId ∧
      GiftBack cfg cause s (s.returnGift cfg letterId cause).1 letterId gift (s.returnGift cfg letterId cause).2 := by
  have first : (s.commerce.giftLetters.rows.any fun gift => gift.source == .sendFailed letterId) = false := by
    refine List.any_eq_false.mpr fun gift member => ?_
    simpa using fresh gift member
  cases found : s.commerce.giftLetters.rows.find? fun gift =>
      gift.consumedByLetterId == some letterId && gift.userId == s.commerce.userId with
  | none =>
    obtain ⟨gift, member, consumed, own⟩ := gifted
    have missed := List.find?_eq_none.mp found gift member
    simp [consumed, own] at missed
  | some gift =>
    have paid := List.find?_some found
    simp only [Bool.and_eq_true, beq_iff_eq] at paid
    refine ⟨gift, List.mem_of_find?_eq_some found, paid.1, paid.2, ?_⟩
    have back : s.returnGift cfg letterId cause =
        (s.withGiftTables (Gift.returnGiftLetterForFailedSend cfg s.now s.giftTables s.commerce.userId letterId
          cause).1,
        (Gift.returnGiftLetterForFailedSend cfg s.now s.giftTables s.commerce.userId letterId cause).2) := rfl
    rw [back]
    by_cases used : (s.giftCodes.rows.any fun code => code.letterId == letterId && code.status == .redeemed) = true
    · have none : Gift.returnGiftLetterForFailedSend cfg s.now s.giftTables s.commerce.userId letterId cause =
          (s.giftTables, 0) := by
        simp [Gift.returnGiftLetterForFailedSend, Store.giftTables, first, found, used]
      obtain ⟨code, member, redeemed⟩ := List.any_eq_true.mp used
      simp only [Bool.and_eq_true, beq_iff_eq] at redeemed
      rw [none]
      exact .kept (fun stands => stands.2 code member redeemed.1 redeemed.2) rfl rfl
    · rw [Bool.not_eq_true] at used
      by_cases reversed : gift.sourceReversed = true
      · have none : Gift.returnGiftLetterForFailedSend cfg s.now s.giftTables s.commerce.userId letterId cause =
            ({ s.giftTables with giftCodes := Gift.voidLetterCodes letterId s.giftCodes }, 0) := by
          simp [Gift.returnGiftLetterForFailedSend, Store.giftTables, first, found, used, reversed]
        rw [none]
        refine .kept (fun stands => ?_) rfl rfl
        rw [stands.1] at reversed
        cases reversed
      · have one : Gift.returnGiftLetterForFailedSend cfg s.now s.giftTables s.commerce.userId letterId cause =
            ({ giftLetters := s.commerce.giftLetters.insertNew (Gift.returnedGift cfg s.now cause letterId gift)
               giftCodes := Gift.voidLetterCodes letterId s.giftCodes }, 1) := by
          simp [Gift.returnGiftLetterForFailedSend, Store.giftTables, first, found, used, reversed]
        have missing : (Gift.returnedGift cfg s.now cause letterId gift).grant ∉
            s.commerce.giftLetters.rows.map GiftLetter.grant := by
          intro taken
          obtain ⟨other, member, key⟩ := List.mem_map.mp taken
          exact fresh other member (congrArg Prod.fst key)
        rw [one]
        refine .back ⟨by simpa using reversed, fun code member printed redeemed => ?_⟩ ?_ rfl
        · have spared := List.any_eq_false.mp used code member
          simp [printed, redeemed] at spared
        · show (s.commerce.giftLetters.insertNew _).rows = _
          rw [Table.insertNew_of_not_mem missing]
          rfl

theorem giftBack_store (cfg : Config) (s : Store) (letterId : LetterId) :
    (giftBack cfg s letterId).1 = (s.returnGift cfg letterId .cancelled).1 := by
  unfold giftBack
  dsimp only
  split
  · rfl
  · split <;> rfl

/-- The gift back, and its report. -/
theorem giftBack_spec (cfg : Config)
    (fresh : ∀ gift ∈ s.commerce.giftLetters.rows, gift.source ≠ .sendFailed letterId)
    (gifted : ∃ gift ∈ s.commerce.giftLetters.rows, gift.consumedByLetterId = some letterId ∧
      gift.userId = s.commerce.userId) :
    ∃ gift ∈ s.commerce.giftLetters.rows, gift.consumedByLetterId = some letterId ∧
      gift.userId = s.commerce.userId ∧
      ∃ returned, GiftBack cfg .cancelled s (giftBack cfg s letterId).1 letterId gift returned ∧
        (giftBack cfg s letterId).2 =
          if returned = 0 then (0, .refunded)
          else if gift.expiresAt.any (· ≤ s.now) then (0, .expired)
          else (1, .none) := by
  obtain ⟨gift, member, consumed, own, back⟩ := returnGift_spec cfg .cancelled fresh gifted
  refine ⟨gift, member, consumed, own, (s.returnGift cfg letterId .cancelled).2, ?_, ?_⟩
  · rw [giftBack_store]
    exact back
  unfold giftBack
  dsimp only
  cases back with
  | kept fallen gifts none => simp [none]
  | back stands gifts one =>
    have expired : returnedGiftExpired (s.returnGift cfg letterId .cancelled).1 letterId =
        gift.expiresAt.any (· ≤ s.now) := by
      have earlier : (s.commerce.giftLetters.rows.any fun gift =>
          gift.source == .sendFailed letterId && gift.expiresAt.any (· ≤ s.now)) = false := by
        refine List.any_eq_false.mpr fun other inRows => ?_
        simp [fresh other inRows]
      unfold returnedGiftExpired
      rw [gifts, List.any_append]
      have now : (s.returnGift cfg letterId .cancelled).1.now = s.now := rfl
      rw [now, earlier]
      simp [Gift.returnedGift, Gift.returnedExpiry]
    rw [one, expired]
    simp only [Nat.one_ne_zero, if_false]
    split <;> rfl

end LetterIRL.Mail
