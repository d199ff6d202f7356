import LetterIRL.Mail.Letters
import LetterIRL.Commerce.StepWrites
import LetterIRL.Balance.Spending
import LetterIRL.Gift.Runs
import LetterIRL.Pack.Held

namespace LetterIRL.Mail
open Lib Ledger Commerce Relation

/-! What paid for each letter: a balance letter's consumptions, a gift letter's gift. -/

/-- Credits a letter consumed. -/
def consumedCredits (account : Account) (letterId : LetterId) : Nat :=
  total Consumption.amount (account.creditConsumption.filter fun c => c.letterId == letterId)

/-- A letter of the table, paid for that way. -/
def SentBy (letters : Table Letter.letterId) (fundingType : FundingType) (letterId : LetterId) : Prop :=
  ∃ letter ∈ letters.rows, letter.letterId = letterId ∧ letter.fundingType = fundingType

/-- What ties an account's letters to what they consumed. -/
structure Paid (account : Account) (letters : Table Letter.letterId) (drafts : Table Draft.draftId)
    (giftLetters : Table GiftLetter.grant) (userId : UserId) : Prop where
  consumed : ∀ c ∈ account.creditConsumption, SentBy letters .prepaidBalance c.letterId ∧
    (account.creditLedger.find c.ledgerId).isSome = true
  /-- A balance letter consumed what its draft required. -/
  billed : ∀ letter ∈ letters.rows, letter.fundingType = .prepaidBalance →
    ∃ draft, drafts.find letter.draftId = some draft ∧ draft.status = .consumed ∧
      consumedCredits account letter.letterId = draft.requiredCredits
  /-- A gift letter's mail was paid for by a gift of the account. -/
  gifted : ∀ letter ∈ letters.rows, letter.fundingType = .giftLetter →
    ∃ gift ∈ giftLetters.rows, gift.consumedByLetterId = some letter.letterId ∧ gift.userId = userId
  spent : ∀ gift ∈ giftLetters.rows, ∀ letterId, gift.consumedByLetterId = some letterId →
    gift.status = .consumed ∧ SentBy letters .giftLetter letterId
  returned : ∀ letterId, hasReturnedCreditsForLetter account letterId = true →
    SentBy letters .prepaidBalance letterId
  giftReturned : ∀ gift ∈ giftLetters.rows, ∀ letterId, gift.source = .sendFailed letterId →
    SentBy letters .giftLetter letterId

abbrev PaidIn (s : Commerce.Store) : Prop := Paid s.account s.letters s.drafts s.giftLetters s.userId

variable {account after : Account} {letters : Table Letter.letterId} {drafts : Table Draft.draftId}
  {giftLetters : Table GiftLetter.grant} {userId : UserId} {now : Time}

theorem consumedCredits_congr (same : after.creditConsumption = account.creditConsumption) (letterId : LetterId) :
    consumedCredits after letterId = consumedCredits account letterId := by
  unfold consumedCredits
  rw [same]

/-- Only the return of a letter's credits posts a lot for it. -/
theorem posted_sendFailed {event : AccountEvent} {lot : Lot} {letterId : LetterId}
    (posted : lot ∈ event.posted now account) (reason : lot.sourceMetadata.reason = some .sendFailed)
    (named : lot.sourceMetadata.letterId = some letterId) :
    event = .returnCredits letterId ∧ ∃ c ∈ account.creditConsumption, c.letterId = letterId := by
  cases event with
  | returnCredits other =>
    obtain ⟨consumed, inLots, rfl⟩ := List.mem_map.mp posted
    obtain ⟨c, member, of, -, -⟩ := Pack.mem_consumedLots (Pack.mem_returnedLots inLots).1
    cases named
    exact ⟨rfl, c, member, of⟩
  | addCredits params =>
    cases List.mem_singleton.mp posted
    cases reason
  | redeemPromo campaign creditsAmount expiresAt =>
    cases List.mem_singleton.mp posted
    cases reason
  | grantAdjustment amount =>
    cases List.mem_singleton.mp posted
    cases reason
  | revokeWholePack order cause =>
    obtain ⟨entry, -, rfl⟩ := List.mem_map.mp posted
    cases named
  | revokeProportionally order credits packRefundId =>
    obtain ⟨taken, -, rfl⟩ := List.mem_map.mp posted
    cases named
  | compensatePackRefund row =>
    obtain ⟨slice, -, rfl⟩ := List.mem_map.mp posted
    cases named
  | compensateDisputedPacks order disputeId =>
    simp only [AccountEvent.posted] at posted
    split at posted
    · cases posted
    · obtain ⟨entry, -, rfl⟩ := List.mem_map.mp posted
      cases named
  | _ => cases posted

theorem hasReturned_grows {event : AccountEvent} {letterId : LetterId}
    (applied : applyAccountEvent now account event = .ok after)
    (returned : hasReturnedCreditsForLetter after letterId = true) :
    hasReturnedCreditsForLetter account letterId = true ∨
      event = .returnCredits letterId ∧ ∃ c ∈ account.creditConsumption, c.letterId = letterId := by
  obtain ⟨lot, member, mark⟩ := List.any_eq_true.mp returned
  simp only [Bool.and_eq_true, beq_iff_eq] at mark
  rcases (applyAccountEvent_ledger applied).mem member with ⟨old, here, aged⟩ | ⟨new, posted, stored⟩
  · refine .inl (List.any_eq_true.mpr ⟨old, here, ?_⟩)
    rw [aged.sourceType, aged.sourceMetadata] at mark
    simpa using mark
  · rw [stored] at mark
    exact .inr (posted_sendFailed posted mark.2 mark.1.2)

/-- An operation on the account that spends nothing. -/
theorem Paid.operate (paid : Paid account letters drafts giftLetters userId) (event : AccountEvent)
    (applied : applyAccountEvent now account event = .ok after)
    (unspent : ∀ credits letterId, event ≠ .deductCredits credits letterId) :
    Paid after letters drafts giftLetters userId := by
  have same : after.creditConsumption = account.creditConsumption := by
    rw [applyAccountEvent_consumption applied]
    cases event with
    | deductCredits credits letterId => exact absurd rfl (unspent credits letterId)
    | _ => exact List.append_nil _
  refine ⟨fun c member => ?_, fun letter member kind => ?_, paid.gifted, paid.spent, fun letterId returned => ?_,
    paid.giftReturned⟩
  · rw [same] at member
    obtain ⟨sent, stored⟩ := paid.consumed c member
    obtain ⟨lot, found⟩ := Option.isSome_iff_exists.mp stored
    obtain ⟨new, still, -⟩ := (applyAccountEvent_ledger applied).find found
    exact ⟨sent, by simp [still]⟩
  · rw [consumedCredits_congr same]
    exact paid.billed letter member kind
  · rcases hasReturned_grows applied returned with before | ⟨-, c, member, rfl⟩
    · exact paid.returned letterId before
    · exact (paid.consumed c member).1

theorem SentBy.insert {letter : Letter} {fundingType : FundingType} {letterId : LetterId}
    (sent : SentBy letters fundingType letterId) (fresh : letter.letterId ∉ letters.rows.map Letter.letterId) :
    SentBy (letters.insert letter fresh) fundingType letterId := by
  obtain ⟨row, member, rest⟩ := sent
  exact ⟨row, List.mem_append_left _ member, rest⟩

/-- No letter sent has the new letter's id. -/
theorem SentBy.ne {fundingType : FundingType} {letterId fresh : LetterId} (sent : SentBy letters fundingType letterId)
    (new : fresh ∉ letters.rows.map Letter.letterId) : letterId ≠ fresh := by
  obtain ⟨row, member, rfl, -⟩ := sent
  rintro same
  exact new (same ▸ List.mem_map_of_mem member)

/-- A draft is changed only while it is pending, and a consumed one stays. -/
theorem Paid.draft {old new : Draft} (paid : Paid account letters drafts giftLetters userId)
    (found : drafts.find new.draftId = some old) (pending : old.status = .pending) :
    Paid account letters (drafts.put new) giftLetters userId := by
  refine { paid with billed := fun letter member kind => ?_ }
  obtain ⟨draft, atDraft, consumed, billed⟩ := paid.billed letter member kind
  refine ⟨draft, ?_, consumed, billed⟩
  by_cases same : letter.draftId = new.draftId
  · rw [same, found] at atDraft
    cases atDraft
    rw [pending] at consumed
    cases consumed
  · rw [Table.find_put_of_ne same, atDraft]

theorem Paid.openDraft {draft : Draft} (paid : Paid account letters drafts giftLetters userId)
    (fresh : draft.draftId ∉ drafts.rows.map Draft.draftId) :
    Paid account letters (drafts.insert draft fresh) giftLetters userId := by
  refine { paid with billed := fun letter member kind => ?_ }
  obtain ⟨other, atDraft, consumed, billed⟩ := paid.billed letter member kind
  refine ⟨other, ?_, consumed, billed⟩
  rw [Table.find_insert, if_neg, atDraft]
  rintro same
  exact fresh (same ▸ List.mem_map.mpr ⟨other, Table.find_mem atDraft, Table.find_key atDraft⟩)

/-- A letter an order paid for. -/
theorem Paid.mailOrder {letter : Letter} (paid : Paid account letters drafts giftLetters userId)
    (fresh : letter.letterId ∉ letters.rows.map Letter.letterId) (kind : letter.fundingType = .jitOrder) :
    Paid account (letters.insert letter fresh) drafts giftLetters userId where
  consumed c member := ⟨(paid.consumed c member).1.insert fresh, (paid.consumed c member).2⟩
  billed row member prepaid := by
    rcases List.mem_append.mp member with old | new
    · exact paid.billed row old prepaid
    · rw [List.mem_singleton.mp new, kind] at prepaid
      cases prepaid
  gifted row member gift := by
    rcases List.mem_append.mp member with old | new
    · exact paid.gifted row old gift
    · rw [List.mem_singleton.mp new, kind] at gift
      cases gift
  spent gift member letterId on := ⟨(paid.spent gift member letterId on).1, (paid.spent gift member letterId on).2.insert fresh⟩
  returned letterId back := (paid.returned letterId back).insert fresh
  giftReturned gift member letterId source := (paid.giftReturned gift member letterId source).insert fresh

/-- A new letter the balance paid for. -/
theorem Paid.mailPrepaid {letter : Letter} {draft : Draft} (paid : Paid account letters drafts giftLetters userId)
    (fresh : letter.letterId ∉ letters.rows.map Letter.letterId) (kind : letter.fundingType = .prepaidBalance)
    (drafted : drafts.find letter.draftId = some draft) (sent : draft.status = .consumed)
    (deducted : deductCreditsFromLedgerWithClient now account draft.requiredCredits letter.letterId = .ok after) :
    Paid after (letters.insert letter fresh) drafts giftLetters userId := by
  have applied : applyAccountEvent now account (.deductCredits draft.requiredCredits letter.letterId) = .ok after :=
    deducted
  have step := applyAccountEvent_ledger applied
  have records := (deductCreditsFromLedgerWithClient_ok deducted).2.2
  have recorded : after.creditConsumption = account.creditConsumption ++
      (drawn now (fun _ => true) account draft.requiredCredits).map fun take =>
        { letterId := letter.letterId, ledgerId := take.1.ledgerId, amount := take.2 } := by
    rw [records.2]
    rfl
  have stored : ∀ {ledgerId : LedgerId}, (account.creditLedger.find ledgerId).isSome = true →
      (after.creditLedger.find ledgerId).isSome = true := by
    intro ledgerId some_
    obtain ⟨lot, found⟩ := Option.isSome_iff_exists.mp some_
    obtain ⟨new, still, -⟩ := step.find found
    simp [still]
  have none : ∀ c ∈ account.creditConsumption, c.letterId ≠ letter.letterId := fun c member =>
    (paid.consumed c member).1.ne fresh
  have here : SentBy (letters.insert letter fresh) .prepaidBalance letter.letterId :=
    ⟨letter, List.mem_append_right _ (List.mem_singleton.mpr rfl), rfl, kind⟩
  refine ⟨fun c member => ?_, fun row member prepaid => ?_, fun row member gift => ?_, fun gift member letterId on =>
    ⟨(paid.spent gift member letterId on).1, (paid.spent gift member letterId on).2.insert fresh⟩,
    fun letterId back => ?_, fun gift member letterId source => (paid.giftReturned gift member letterId source).insert fresh⟩
  · rw [recorded] at member
    rcases List.mem_append.mp member with old | new
    · exact ⟨(paid.consumed c old).1.insert fresh, stored (paid.consumed c old).2⟩
    · obtain ⟨take, taken, rfl⟩ := List.mem_map.mp new
      refine ⟨here, stored ?_⟩
      have found := Table.find_of_mem (Pack.mem_drawn taken).1
      exact Option.isSome_iff_exists.mpr ⟨_, found⟩
  · have split : ∀ letterId, consumedCredits after letterId = consumedCredits account letterId +
        if letterId = letter.letterId then draft.requiredCredits else 0 := by
      intro letterId
      unfold consumedCredits
      rw [recorded, List.filter_append, total_append]
      congr 1
      by_cases same : letterId = letter.letterId
      · rw [if_pos same, List.filter_eq_self.mpr, total_map]
        · exact Balance.drawn_total records.1
        · intro c member
          obtain ⟨take, -, rfl⟩ := List.mem_map.mp member
          simp [same]
      · rw [if_neg same, List.filter_eq_nil_iff.mpr]
        · rfl
        · intro c member
          obtain ⟨take, -, rfl⟩ := List.mem_map.mp member
          simpa using Ne.symm same
    rcases List.mem_append.mp member with old | new
    · obtain ⟨other, atDraft, consumed, billed⟩ := paid.billed row old prepaid
      refine ⟨other, atDraft, consumed, ?_⟩
      have differ : row.letterId ≠ letter.letterId := fun same => fresh (same ▸ List.mem_map_of_mem old)
      rw [split, if_neg differ, billed]
      rfl
    · rw [List.mem_singleton.mp new]
      refine ⟨draft, drafted, sent, ?_⟩
      have before : consumedCredits account letter.letterId = 0 := by
        unfold consumedCredits
        rw [List.filter_eq_nil_iff.mpr fun c member => by simpa using none c member]
        rfl
      rw [split, if_pos rfl, before, Nat.zero_add]
  · rcases List.mem_append.mp member with old | new
    · exact paid.gifted row old gift
    · rw [List.mem_singleton.mp new, kind] at gift
      cases gift
  · rcases hasReturned_grows applied back with before | ⟨same, -⟩
    · exact (paid.returned letterId before).insert fresh
    · cases same

/-- What a gift table must tell of its letters. -/
structure GiftsPaid (letters : Table Letter.letterId) (giftLetters : Table GiftLetter.grant) (userId : UserId) :
    Prop where
  gifted : ∀ letter ∈ letters.rows, letter.fundingType = .giftLetter →
    ∃ gift ∈ giftLetters.rows, gift.consumedByLetterId = some letter.letterId ∧ gift.userId = userId
  spent : ∀ gift ∈ giftLetters.rows, ∀ letterId, gift.consumedByLetterId = some letterId →
    gift.status = .consumed ∧ SentBy letters .giftLetter letterId
  giftReturned : ∀ gift ∈ giftLetters.rows, ∀ letterId, gift.source = .sendFailed letterId →
    SentBy letters .giftLetter letterId

theorem Paid.gifts (paid : Paid account letters drafts giftLetters userId) :
    GiftsPaid letters giftLetters userId := ⟨paid.gifted, paid.spent, paid.giftReturned⟩

theorem Paid.withGifts {later : Table GiftLetter.grant} (paid : Paid account letters drafts giftLetters userId)
    (gifts : GiftsPaid letters later userId) : Paid account letters drafts later userId :=
  { paid with gifted := gifts.gifted, spent := gifts.spent, giftReturned := gifts.giftReturned }

/-- A new gift letter, unspent, that no failed send gave back but one of those sent. -/
theorem GiftsPaid.insertNew {gift : GiftLetter} (gifts : GiftsPaid letters giftLetters userId)
    (unspent : gift.consumedByLetterId = none)
    (back : ∀ letterId, gift.source = .sendFailed letterId → SentBy letters .giftLetter letterId) :
    GiftsPaid letters (giftLetters.insertNew gift) userId where
  gifted letter member kind := by
    obtain ⟨row, inRows, rest⟩ := gifts.gifted letter member kind
    exact ⟨row, Table.mem_insertNew.mpr (.inl inRows), rest⟩
  spent row member letterId on := by
    rcases Table.mem_insertNew.mp member with old | ⟨rfl, -⟩
    · exact gifts.spent row old letterId on
    · rw [unspent] at on
      cases on
  giftReturned row member letterId source := by
    rcases Table.mem_insertNew.mp member with old | ⟨rfl, -⟩
    · exact gifts.giftReturned row old letterId source
    · exact back letterId source

theorem GiftsPaid.grant {gift : GiftLetter} (gifts : GiftsPaid letters giftLetters userId)
    (first : ∀ letterId, gift.source ≠ .sendFailed letterId) (quantity : Nat) :
    GiftsPaid letters (grantGiftLettersWithClient now giftLetters gift quantity) userId := by
  unfold grantGiftLettersWithClient
  generalize List.range quantity = indices
  induction indices generalizing giftLetters with
  | nil => exact gifts
  | cons grantIndex rest ih =>
    exact ih (gifts.insertNew rfl fun letterId source => absurd source (first letterId))

/-- An update in place of gifts not spent, or one that leaves them spent. -/
theorem GiftsPaid.update (gifts : GiftsPaid letters giftLetters userId) (selected : GiftLetter → Bool)
    (change : GiftLetter → GiftLetter) (kept : ∀ gift, (change gift).grant = gift.grant)
    (owner : ∀ gift, (change gift).userId = gift.userId)
    (on : ∀ gift, (change gift).consumedByLetterId = gift.consumedByLetterId)
    (stays : ∀ gift, selected gift = true → gift.status = .consumed → (change gift).status = .consumed) :
    GiftsPaid letters (giftLetters.update selected change kept) userId where
  gifted letter member kind := by
    obtain ⟨gift, inRows, spent, own⟩ := gifts.gifted letter member kind
    by_cases hit : selected gift = true
    · exact ⟨change gift, mem_updateWhere.mpr (.inr ⟨gift, inRows, hit, rfl⟩), (on gift).trans spent,
        (owner gift).trans own⟩
    · exact ⟨gift, mem_updateWhere.mpr (.inl ⟨inRows, by simpa using hit⟩), spent, own⟩
  spent row member letterId spent := by
    rcases mem_updateWhere.mp member with ⟨old, -⟩ | ⟨gift, inRows, hit, rfl⟩
    · exact gifts.spent row old letterId spent
    · obtain ⟨status, sent⟩ := gifts.spent gift inRows letterId ((on gift).symm.trans spent)
      exact ⟨stays gift hit status, sent⟩
  giftReturned row member letterId source := by
    rcases mem_updateWhere.mp member with ⟨old, -⟩ | ⟨gift, inRows, -, rfl⟩
    · exact gifts.giftReturned row old letterId source
    · have same : gift.source = (change gift).source := congrArg Prod.fst (kept gift).symm
      exact gifts.giftReturned gift inRows letterId (same.trans source)

theorem GiftLetter.reverse_same (gift : GiftLetter) : gift.reverse.userId = gift.userId ∧
    gift.reverse.consumedByLetterId = gift.consumedByLetterId ∧
    (gift.status = .consumed → gift.reverse.status = .consumed) := by
  unfold GiftLetter.reverse
  cases status : gift.status <;> simp [status]

theorem GiftsPaid.reverse (gifts : GiftsPaid letters giftLetters userId) (selected : GiftLetter → Bool) :
    GiftsPaid letters (giftLetters.update selected GiftLetter.reverse GiftLetter.reverse_grant) userId :=
  gifts.update _ _ GiftLetter.reverse_grant (fun gift => (GiftLetter.reverse_same gift).1) (fun gift => (GiftLetter.reverse_same gift).2.1)
    fun gift _ => (GiftLetter.reverse_same gift).2.2

/-- A new letter a gift of the account paid for. -/
theorem Paid.mailGift {letter : Letter} {gift : GiftLetter} {later : Table GiftLetter.grant}
    (paid : Paid account letters drafts giftLetters userId)
    (fresh : letter.letterId ∉ letters.rows.map Letter.letterId) (kind : letter.fundingType = .giftLetter)
    (spent : consumeGiftLetter now giftLetters userId letter.letterId = some (gift, later)) :
    Paid account (letters.insert letter fresh) drafts later userId := by
  obtain ⟨expired, rfl, offered, available, own, rfl⟩ := Gift.consumeGiftLetter_spec spent
  have aged := paid.gifts.update
    (fun gift => gift.userId == userId && gift.status == .available && gift.expiresAt.any (· ≤ now))
    (fun gift => { gift with status := .expired }) (fun _ => rfl) (fun _ => rfl) (fun _ => rfl)
    (fun gift hit status => by simp [status] at hit)
  have here : SentBy (letters.insert letter fresh) .giftLetter letter.letterId :=
    ⟨letter, List.mem_append_right _ (List.mem_singleton.mpr rfl), rfl, kind⟩
  have unspent : gift.consumedByLetterId = none := by
    cases on : gift.consumedByLetterId with
    | none => rfl
    | some letterId =>
      have status := (aged.spent gift offered letterId on).1
      rw [available] at status
      cases status
  refine ⟨fun c member => ⟨(paid.consumed c member).1.insert fresh, (paid.consumed c member).2⟩,
    fun row member prepaid => ?_, fun row member gifted => ?_, fun row member letterId on => ?_,
    fun letterId back => (paid.returned letterId back).insert fresh, fun row member letterId source => ?_⟩
  · rcases List.mem_append.mp member with old | new
    · exact paid.billed row old prepaid
    · rw [List.mem_singleton.mp new, kind] at prepaid
      cases prepaid
  · rcases List.mem_append.mp member with old | new
    · obtain ⟨paidBy, inRows, on, by_⟩ := aged.gifted row old gifted
      refine ⟨paidBy, Table.mem_put.mpr (.inl ⟨inRows, ?_⟩), on, by_⟩
      intro same
      rw [eq_of_key_eq (Table.unique _) inRows offered same, unspent] at on
      cases on
    · rw [List.mem_singleton.mp new]
      exact ⟨_, Table.mem_put.mpr (.inr ⟨rfl, gift, offered, rfl⟩), rfl, own⟩
  · rcases Table.mem_put.mp member with ⟨old, -⟩ | ⟨rfl, -⟩
    · obtain ⟨status, sent⟩ := aged.spent row old letterId on
      exact ⟨status, sent.insert fresh⟩
    · cases on
      exact ⟨rfl, here⟩
  · rcases Table.mem_put.mp member with ⟨old, -⟩ | ⟨rfl, -⟩
    · exact (aged.giftReturned row old letterId source).insert fresh
    · exact (aged.giftReturned gift offered letterId source).insert fresh

/-- Every write of commerce keeps what paid for the letters. -/
theorem paid_write {hands : Beneficiary → Prop} {s s' : Commerce.Store} (paid : PaidIn s)
    (write : Write cfg hands s s') : PaidIn s' := by
  cases write with
  | account event loose returned whole applied =>
    refine paid.operate event applied fun credits letterId same => ?_
    rw [same] at loose
    cases loose
  | restore disputeId found pack disputed handed =>
    exact paid.operate (.compensateDisputedPacks _ disputeId) rfl (by rintro _ _ ⟨⟩)
  | gifts found pack => exact paid.withGifts (paid.gifts.grant (fun _ source => by cases source) _)
  | otherGifts => exact paid.withGifts (paid.gifts.grant (fun _ source => by cases source) _)
  | revokeGifts orderId => exact paid.withGifts (paid.gifts.reverse _)
  | fulfilPack found pack unfunded moved status attached granted checked =>
    exact paid.operate (.addCredits _) granted (by rintro _ _ ⟨⟩)
  | regrantPack found pack status attached missing granted =>
    exact paid.operate (.addCredits _) granted (by rintro _ _ ⟨⟩)
  | mailOrder found jit unfunded moved status checked drafted ordered pending priced paidFor fresh =>
    exact (paid.mailOrder fresh rfl).draft drafted pending
  | @mailPrepaid draft letterId account drafted pending fresh deducted =>
    have sent : Paid s.account s.letters (s.drafts.put (consumedDraft draft letterId)) s.giftLetters s.userId :=
      paid.draft drafted pending
    exact sent.mailPrepaid fresh rfl (Table.find_put_self _ drafted) rfl deducted
  | mailGift drafted pending fresh spent => exact (paid.mailGift fresh rfl spent).draft drafted pending
  | openDraft pending fresh => exact paid.openDraft fresh
  | changeDraft found pending unsent => exact paid.draft found pending
  | @withdraw order row account exhausted found pack fulfilled named credits amount state free below fresh revoked
      checked =>
    have applied : applyAccountEvent s.now s.account (.revokeProportionally order row.credits row.packRefundId) =
        .ok account := by
      rw [applyAccountEvent, revoked]
      rfl
    exact paid.operate (.revokeProportionally order row.credits row.packRefundId) applied (by rintro _ _ ⟨⟩)
  | compensate => exact paid.operate (.compensatePackRefund _) rfl (by rintro _ _ ⟨⟩)
  | compensateNothing => exact paid.operate (.compensatePackRefund _) rfl (by rintro _ _ ⟨⟩)
  | _ => exact paid

/-! The same over the mail's own steps. -/

variable {cfg : Config} {s s' : Store} {event : Event}

/-- What commerce keeps under the mail. -/
structure Backed (s : Commerce.Store) : Prop where
  paid : PaidIn s
  regular : s.Regular

theorem OrderShift.same {now : Time} {order moved : Order} (shift : OrderShift now order moved) :
    moved.orderId = order.orderId ∧ moved.orderType = order.orderType := by
  cases shift with
  | resolved decision => cases decision <;> exact ⟨rfl, rfl⟩
  | _ => exact ⟨rfl, rfl⟩

theorem FundsMove.backed {letterId : LetterId} {pays : Prop} (move : FundsMove cfg letterId pays s s')
    (backed : Backed s.commerce) : Backed s'.commerce := by
  obtain ⟨paid, regular⟩ := backed
  cases move with
  | @order order moved commerce funds found shift updated =>
    obtain ⟨checked, -, rfl⟩ := Commerce.Store.updateOrder_ok updated
    obtain ⟨named, kind⟩ := shift.same
    have here : s.commerce.orders.find (moved.stamped s.commerce.now).orderId = some order := by
      show s.commerce.orders.find moved.orderId = some order
      rw [named, found]
    refine ⟨paid, fun row member => ?_, fun claim member => ?_⟩
    · rcases Table.mem_put.mp member with ⟨old, -⟩ | ⟨rfl, -⟩
      · exact regular.checked row old
      · exact checked
    · obtain ⟨claimed, atClaim, type⟩ := regular.claimed claim member
      show ∃ row, (s.commerce.orders.put (moved.stamped s.commerce.now)).find claim.orderId = some row ∧ _
      rw [Table.find_put here]
      split
      · rename_i same
        refine ⟨_, rfl, ?_⟩
        rw [same, here] at atClaim
        cases atClaim
        exact kind.trans type
      · exact ⟨claimed, atClaim, type⟩
  | codes => exact ⟨paid, regular⟩
  | credits => exact ⟨paid.operate (.returnCredits letterId) rfl (by rintro _ _ ⟨⟩), regular.checked, regular.claimed⟩
  | gift cause =>
    refine ⟨paid.withGifts ?_, regular.checked, regular.claimed⟩
    show GiftsPaid s.commerce.letters
      (Gift.returnGiftLetterForFailedSend cfg s.now s.giftTables s.commerce.userId letterId cause).1.giftLetters
      s.commerce.userId
    rcases Gift.returnGiftLetter_cases cfg s.now s.giftTables s.commerce.userId letterId cause with
      same | ⟨-, same | ⟨gift, member, on, -, same⟩⟩
    · rw [same]
      exact paid.gifts
    · rw [same]
      exact paid.gifts
    · rw [same]
      refine paid.gifts.insertNew rfl fun other source => ?_
      have named : letterId = other := by
        cases source
        rfl
      exact named ▸ (paid.spent gift member letterId on).2

theorem Funds.backed {letterId : LetterId} {pays : Prop} (funds : Funds cfg letterId pays s s')
    (backed : Backed s.commerce) : Backed s'.commerce := by
  induction funds with
  | refl => exact backed
  | tail _ move ih => exact move.backed ih

/-- A reversal changes no more of commerce than the gifts. -/
theorem applyReversal_commerce (s : Store) (reversal : Reversal) :
    ∃ giftLetters, (applyReversal s reversal).commerce = { s.commerce with giftLetters } ∧
      (giftLetters = s.commerce.giftLetters ∨ giftLetters =
        s.commerce.giftLetters.update (fun gift => gift.sourceOrderId == some reversal.order.orderId)
          GiftLetter.reverse GiftLetter.reverse_grant) := by
  have stopped := (stopFundedMail_rest s reversal.order reversal.stop).2.2
  have held : ∀ reason, (holdMailFundedByOrder (stopFundedMail s reversal.order reversal.stop) reversal.order
      reason).commerce = s.commerce := by
    intro reason
    unfold holdMailFundedByOrder
    split
    · exact stopped
    · exact stopped
  unfold applyReversal
  dsimp only
  split
  · exact ⟨_, stopped, .inl rfl⟩
  · rename_i reason _
    split
    · refine ⟨_, ?_, .inr rfl⟩
      rw [← held reason]
      rfl
    · exact ⟨_, held reason, .inl rfl⟩

theorem applyReversal_backed (reversal : Reversal) (backed : Backed s.commerce) :
    Backed (applyReversal s reversal).commerce := by
  obtain ⟨giftLetters, same, gifts⟩ := applyReversal_commerce s reversal
  obtain ⟨paid, regular⟩ := backed
  rw [same]
  refine ⟨?_, regular.checked, regular.claimed⟩
  rcases gifts with rfl | rfl
  · exact paid
  · exact paid.withGifts (paid.gifts.reverse _)

theorem applyReversals_backed (reversed : List Reversal) (backed : Backed s.commerce) :
    Backed (reversed.foldl applyReversal s).commerce := by
  induction reversed generalizing s with
  | nil => exact backed
  | cons reversal reversed ih => exact ih (applyReversal_backed reversal backed)

/-- One transaction of commerce under the mail. -/
theorem stepped_backed {event : Commerce.Event} {before after : Commerce.Store} (backed : Backed before)
    (stepped : Commerce.step cfg before event = .ok after) : Backed after := by
  have writes := step_writes backed.regular stepped
  exact ⟨invariant_writes writes backed.paid fun _ _ paid write => paid_write paid write,
    writes.regular backed.regular⟩

end LetterIRL.Mail
