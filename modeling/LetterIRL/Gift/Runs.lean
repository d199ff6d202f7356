import LetterIRL.Gift.Chains

namespace LetterIRL.Gift
open Lib Ledger Commerce Relation

/-! Every operation keeps the ties, and they make what descends from a gift letter one path. -/

def World.mail (w : World) (letterId : LetterId) : Option MailStatus :=
  (w.letters.find letterId).map GiftMail.status

structure Sound (w : World) : Prop where
  tied : Tied (w.tables.giftLetters.rows.map core) w.tables.giftCodes.rows w.mail
  spentStatus : ∀ gift ∈ w.tables.giftLetters.rows, gift.consumedByLetterId.isSome = true → gift.status = .consumed

variable {cfg : Config} {w w' : World}

theorem core_grant (rows : List GiftLetter) : (rows.map core).map Core.grant = rows.map GiftLetter.grant := by
  rw [List.map_map]
  rfl

/-- An update in place that keeps the core of every gift letter, and those spent. -/
theorem Sound.age {selected : GiftLetter → Bool} {change : GiftLetter → GiftLetter}
    {kept : ∀ gift, (change gift).grant = gift.grant} (sound : Sound w)
    (same : ∀ gift, core (change gift) = core gift)
    (stays : ∀ gift, selected gift = true → gift.status = .consumed → (change gift).status = .consumed) :
    Sound { w with tables := { w.tables with
      giftLetters := w.tables.giftLetters.update selected change kept } } where
  tied := by
    show Tied ((updateWhere selected change w.tables.giftLetters.rows).map core) _ _
    rw [map_updateWhere _ same]
    exact sound.tied
  spentStatus gift member spent := by
    rcases mem_updateWhere.mp member with ⟨old, -⟩ | ⟨old, known, hit, rfl⟩
    · exact sound.spentStatus gift old spent
    · have before : old.consumedByLetterId = (change old).consumedByLetterId :=
        congrArg Core.consumedByLetterId (same old).symm
      exact stays old hit (sound.spentStatus old known (before ▸ spent))

theorem Sound.insert {gift : GiftLetter} (sound : Sound w)
    (fresh : gift.grant ∉ w.tables.giftLetters.rows.map GiftLetter.grant)
    (unspent : gift.consumedByLetterId = none)
    (tied : Tied (w.tables.giftLetters.rows.map core ++ [core gift]) w.tables.giftCodes.rows w.mail) :
    Sound { w with tables := { w.tables with giftLetters := w.tables.giftLetters.insert gift fresh } } where
  tied := by
    show Tied ((w.tables.giftLetters.rows ++ [gift]).map core) _ _
    rw [List.map_append]
    exact tied
  spentStatus other member spent := by
    rw [Table.insert_rows, List.mem_append, List.mem_singleton] at member
    rcases member with old | rfl
    · exact sound.spentStatus other old spent
    · rw [unspent] at spent
      cases spent

theorem Sound.codes {selected : GiftCode → Bool} {status : CodeStatus} (sound : Sound w)
    (issued : ∀ code ∈ w.tables.giftCodes.rows, selected code = true → code.status = .issued) :
    Sound { w with tables := { w.tables with
      giftCodes := w.tables.giftCodes.update selected (fun code => { code with status }) fun _ => rfl } } where
  tied := sound.tied.settleCodes issued
  spentStatus := sound.spentStatus

theorem Sound.voidLetter {letterId : LetterId} (sound : Sound w) :
    Sound { w with tables := { w.tables with
      giftCodes := voidLetterCodes letterId w.tables.giftCodes } } :=
  sound.codes fun code _ hit => by
    simp only [Bool.and_eq_true, beq_iff_eq] at hit
    exact hit.2

/-- The status of one letter changes. -/
theorem Sound.post {letter : GiftMail} {status : MailStatus} (sound : Sound w)
    (found : w.letters.find letter.letterId = some letter)
    (open_ : letter.status = .inFlight ∨ letter.status = .failed ∧
      ∀ gift ∈ w.tables.giftLetters.rows, gift.source ≠ .sendFailed letter.letterId) :
    Sound { w with letters := w.letters.put { letter with status } } where
  tied := by
    have here : w.letters.find ({ letter with status } : GiftMail).letterId = some letter := found
    have after : ∀ letterId, World.mail { w with letters := w.letters.put { letter with status } } letterId =
        if letterId = letter.letterId then some status else w.mail letterId := by
      intro letterId
      unfold World.mail
      rw [Table.find_put here]
      by_cases same : letterId = letter.letterId <;> simp [same]
    refine sound.tied.post ?_ ?_
    · intro letterId some_
      rw [after]
      split
      · rfl
      · exact some_
    · intro letterId finished
      rw [after]
      by_cases same : letterId = letter.letterId
      · right
        rintro gift member
        obtain ⟨row, inRows, rfl⟩ := List.mem_map.mp member
        rcases open_ with going | ⟨-, never⟩
        · have status : w.mail letterId = some .inFlight := by
            unfold World.mail
            rw [same, found, ← going]
            rfl
          rcases finished with failed | cancelled
          · rw [status] at failed
            cases failed
          · rw [status] at cancelled
            cases cancelled
        · rw [same]
          exact never row inRows
      · rw [if_neg same]
        exact .inl finished
  spentStatus := sound.spentStatus

/-- Grants of packs, campaigns and operators. -/
theorem Sound.grant {gift : GiftLetter} {quantity : Nat} (sound : Sound w)
    (root : ∀ code, gift.source ≠ .chainRedemption code) (first : ∀ letterId, gift.source ≠ .sendFailed letterId) :
    Sound { w with tables := { w.tables with
      giftLetters := grantGiftLettersWithClient w.now w.tables.giftLetters gift quantity } } := by
  unfold grantGiftLettersWithClient
  suffices all : ∀ indices : List Nat, ∀ w : World, Sound w → Sound { w with tables := { w.tables with
      giftLetters := indices.foldl (fun gifts grantIndex => gifts.insertNew { gift with
        grantIndex, status := .available, createdAt := w.now, consumedByLetterId := none,
        sourceReversed := false }) w.tables.giftLetters } } from all _ w sound
  intro indices
  induction indices with
  | nil => exact fun w sound => sound
  | cons grantIndex rest ih =>
    intro w sound
    let granted : GiftLetter := { gift with
      grantIndex, status := .available, createdAt := w.now, consumedByLetterId := none, sourceReversed := false }
    have one : Sound { w with tables := { w.tables with
        giftLetters := w.tables.giftLetters.insertNew granted } } := by
      by_cases taken : granted.grant ∈ w.tables.giftLetters.rows.map GiftLetter.grant
      · rw [Table.insertNew_of_mem taken]
        exact sound
      · rw [Table.insertNew_of_not_mem taken]
        refine sound.insert taken rfl (sound.tied.insert rfl ?_ ?_ (by rw [core_grant]; exact taken))
        · exact fun code source => absurd source (root code)
        · exact fun letterId source => absurd source (first letterId)
    exact ih _ one

theorem consumeGiftLetter_spec {now : Time} {giftLetters spent : Table GiftLetter.grant} {userId : UserId}
    {letterId : LetterId} {gift : GiftLetter}
    (consumed : consumeGiftLetter now giftLetters userId letterId = some (gift, spent)) :
    ∃ expired : Table GiftLetter.grant,
      expired = giftLetters.update
        (fun gift => gift.userId == userId && gift.status == .available && gift.expiresAt.any (· ≤ now))
        (fun gift => { gift with status := .expired }) (fun _ => rfl) ∧
      gift ∈ expired.rows ∧ gift.status = .available ∧ gift.userId = userId ∧
      spent = expired.put { gift with status := .consumed, consumedByLetterId := some letterId } := by
  obtain ⟨chosen, first, pair⟩ := Option.map_eq_some_iff.mp consumed
  cases pair
  refine ⟨_, rfl, ?_⟩
  have offered := List.mem_of_head? first
  rw [(List.perm_insertionSort _ _).mem_iff, List.mem_filter, Bool.and_eq_true, beq_iff_eq, beq_iff_eq] at offered
  exact ⟨offered.1, offered.2.2, offered.2.1, rfl⟩

/-- A send spends one gift letter on a new letter, and may print its code. -/
theorem Sound.send {userId : UserId} {letterId : LetterId} {mailsAt : Option Time} {campaigns : Campaigns}
    {generated : List ChainCode} (sound : Sound w)
    (sent : send cfg w userId letterId mailsAt campaigns generated = .ok w') : Sound w' := by
  unfold Gift.send at sent
  split at sent
  · rename_i fresh
    obtain ⟨tables, consumed, rest⟩ := bind_eq_ok.mp sent
    cases rest
    unfold consumeGiftLetterForSend at consumed
    split at consumed
    · cases consumed
    rename_i gift spent took
    obtain ⟨expired, shape, member, available, owner, put⟩ := consumeGiftLetter_spec took
    have aged : Sound { w with tables := { w.tables with giftLetters := expired } } := by
      rw [shape]
      refine sound.age (fun _ => rfl) fun gift hit status => ?_
      simp [status] at hit
    have free : gift.consumedByLetterId = none := by
      by_contra some_
      have used := aged.spentStatus gift member (Option.isSome_iff_ne_none.mpr some_)
      rw [available] at used
      cases used
    let posted : World := { w with
      tables := { w.tables with giftLetters := spent }
      letters := w.letters.insert { letterId, userId } fresh }
    have mail : ∀ other, posted.mail other = if other = letterId then some .inFlight else w.mail other := by
      intro other
      show ((w.letters.insert { letterId, userId } fresh).find other).map GiftMail.status = _
      rw [Table.find_insert]
      unfold World.mail
      by_cases same : other = letterId <;> simp [same]
    have unknown : w.mail letterId = none := by
      unfold World.mail
      rw [Table.find_eq_none.mpr fun row inRows same => fresh (List.mem_map.mpr ⟨row, inRows, same⟩)]
      rfl
    have spending : Sound posted := by
      refine ⟨?_, ?_⟩
      · refine aged.tied.spend gift.grant ?_ ?_ unknown mail
        · show (spent.rows).map core = _
          rw [put, Table.put_rows, updateWhere, List.map_map, List.map_map]
          refine List.map_congr_left fun other inRows => ?_
          by_cases same : other.grant = gift.grant
          · have this : other = gift := eq_of_key_eq expired.unique inRows member same
            subst this
            simp [core, GiftLetter.grant]
          · have differ : (core other).grant ≠ gift.grant := same
            refine (congrArg core (if_neg fun hit => same ?_)).trans (if_neg differ).symm
            exact of_decide_eq_true hit
        · intro other inCores same
          obtain ⟨row, inRows, rfl⟩ := List.mem_map.mp inCores
          have this : row = gift := eq_of_key_eq expired.unique inRows member same
          rw [this]
          exact free
      · intro other inRows some_
        have inSpent : other ∈ spent.rows := inRows
        rw [put, Table.mem_put] at inSpent
        rcases inSpent with ⟨old, -⟩ | ⟨rfl, -⟩
        · exact aged.spentStatus other old some_
        · rfl
    dsimp only at consumed
    split at consumed
    · cases consumed
      exact spending
    split at consumed
    · rename_i funded
      unfold mintChainCode at consumed
      dsimp only at consumed
      split at consumed
      · cases consumed
      rename_i code chosen
      unfold Tables.insertCode at consumed
      split at consumed
      · rename_i freshCode
        split at consumed
        · cases consumed
        · rename_i alone
          cases consumed
          refine ⟨spending.tied.mint ?_ ?_ ?_, spending.spentStatus⟩
          · let mailed : GiftLetter := { gift with status := .consumed, consumedByLetterId := some letterId }
            have there : mailed ∈ spent.rows := by
              rw [put]
              exact Table.mem_put.mpr (.inr ⟨rfl, gift, member, rfl⟩)
            refine ⟨core mailed, List.mem_map_of_mem there, rfl, rfl, ?_⟩
            show gift.generationsRemaining = gift.generationsRemaining - 1 + 1
            omega
          · intro other inCodes same
            refine alone (List.any_eq_true.mpr ⟨other, inCodes, ?_⟩)
            simp [same]
          · show posted.mail letterId = _
            rw [mail, if_pos rfl]
      · cases consumed
    · cases consumed
      exact spending
  · cases sent

/-- What a return does: nothing, or the code is void, or the gift letter is back as well. -/
theorem returnGiftLetter_cases (cfg : Config) (now : Time) (t : Tables) (userId : UserId) (letterId : LetterId)
    (cause : ReturnCause) :
    (returnGiftLetterForFailedSend cfg now t userId letterId cause).1 = t ∨
      (∀ code ∈ t.giftCodes.rows, code.letterId = letterId → code.status ≠ .redeemed) ∧
        ((returnGiftLetterForFailedSend cfg now t userId letterId cause).1 =
            { t with giftCodes := voidLetterCodes letterId t.giftCodes } ∨
          ∃ gift ∈ t.giftLetters.rows, gift.consumedByLetterId = some letterId ∧
            (∀ other ∈ t.giftLetters.rows, other.source ≠ .sendFailed letterId) ∧
            (returnGiftLetterForFailedSend cfg now t userId letterId cause).1 =
              { giftLetters := t.giftLetters.insertNew (returnedGift cfg now cause letterId gift)
                giftCodes := voidLetterCodes letterId t.giftCodes }) := by
  unfold returnGiftLetterForFailedSend
  split
  · exact .inl rfl
  rename_i first
  split
  · exact .inl rfl
  rename_i gift found
  split
  · exact .inl rfl
  rename_i unused
  right
  refine ⟨fun code member on used => unused (List.any_eq_true.mpr ⟨code, member, by simp [on, used]⟩), ?_⟩
  dsimp only
  split
  · exact .inl rfl
  · have spent := List.find?_some found
    simp only [Bool.and_eq_true, beq_iff_eq] at spent
    refine .inr ⟨gift, List.mem_of_find?_eq_some found, spent.1, fun other member source => ?_, rfl⟩
    exact first (List.any_eq_true.mpr ⟨other, member, by simp [source]⟩)

theorem Sound.endSend {letterId : LetterId} {status : MailStatus} {cause : ReturnCause} (sound : Sound w)
    (unmailed : status = .failed ∨ status = .cancelled)
    (settled : Gift.endSend cfg w letterId status cause = .ok w') : Sound w' := by
  unfold Gift.endSend at settled
  split at settled
  · cases settled
  rename_i letter found
  split at settled
  · cases settled
  rename_i going
  cases settled
  have named : letter.letterId = letterId := Table.find_key found
  have here : w.letters.find letter.letterId = some letter := by rw [named]; exact found
  have posted : Sound { w with letters := w.letters.put { letter with status } } :=
    sound.post here (.inl (not_not.mp going))
  rcases returnGiftLetter_cases cfg w.now w.tables letter.userId letterId cause with
    same | ⟨unused, same | ⟨gift, member, on, first, same⟩⟩
  · rw [same]
    exact posted
  · rw [same]
    exact posted.voidLetter
  · rw [same]
    have void : Sound { w with
        letters := w.letters.put { letter with status }
        tables := { w.tables with giftCodes := voidLetterCodes letterId w.tables.giftCodes } } :=
      posted.voidLetter
    have fresh : (returnedGift cfg w.now cause letterId gift).grant ∉
        w.tables.giftLetters.rows.map GiftLetter.grant := by
      intro taken
      obtain ⟨other, inRows, key⟩ := List.mem_map.mp taken
      exact first other inRows (congrArg Prod.fst key)
    rw [Table.insertNew_of_not_mem fresh]
    refine void.insert fresh rfl (void.tied.insert rfl (fun code source => by cases source) ?_
      (by rw [core_grant]; exact fresh))
    intro other source
    cases source
    refine ⟨rfl, ⟨core gift, List.mem_map_of_mem member, on, rfl⟩, fun code inCodes printed => ?_, ?_⟩
    · rcases mem_updateWhere.mp inCodes with ⟨old, spared⟩ | ⟨old, known, hit, rfl⟩
      · have notIssued : code.status ≠ .issued := fun issued => by simp [printed, issued] at spared
        have notRedeemed := unused code old printed
        cases status_ : code.status with
        | issued => exact absurd status_ notIssued
        | redeemed => exact absurd status_ notRedeemed
        | void => rfl
      · rfl
    · have mail : World.mail { w with
          letters := w.letters.put { letter with status }
          tables := { w.tables with giftCodes := voidLetterCodes letterId w.tables.giftCodes } } letterId =
          some status := by
        have key : w.letters.find ({ letter with status } : GiftMail).letterId = some letter := here
        show ((w.letters.put { letter with status }).find letterId).map GiftMail.status = _
        rw [Table.find_put key, if_pos named.symm]
        rfl
      unfold ended
      rw [mail]
      rcases unmailed with rfl | rfl
      · exact .inl rfl
      · exact .inr rfl

theorem Sound.redeem {userId : UserId} {sameAddress : Bool} {code : ChainCode} {tables : Tables} (sound : Sound w)
    (redeemed : redeemChainCode cfg w.now w.tables userId sameAddress code = .ok tables) :
    Sound { w with tables } := by
  unfold redeemChainCode at redeemed
  split at redeemed
  · cases redeemed
  rename_i row found
  split at redeemed
  · cases redeemed
  rename_i allowed
  cases redeemed
  have issued : row.status = .issued := by
    simp only [codeRefused, Bool.or_eq_true, not_or, beq_iff_eq] at allowed
    cases status : row.status with
    | issued => rfl
    | redeemed => exact absurd status allowed.1.1.2.1.1
    | void => exact absurd status allowed.1.1.2.1.2
  have named : row.code = code := Table.find_key found
  have only : ∀ other ∈ w.tables.giftCodes.rows, (other.code == row.code) = true → other = row :=
    fun other member same => eq_of_key_eq w.tables.giftCodes.unique member (Table.find_mem found)
      (by simpa using same)
  let redeem : GiftCode → GiftCode := fun other => { other with status := .redeemed }
  have put : w.tables.giftCodes.put (redeem row) =
      w.tables.giftCodes.update (fun other => other.code == row.code) redeem (fun _ => rfl) :=
    (Table.update_eq_put (Table.find_mem found) (beq_self_eq_true row.code) fun other member same => by
      rw [only other member same]).symm
  have used : Sound { w with tables := { w.tables with
      giftCodes := w.tables.giftCodes.put (redeem row) } } := by
    rw [put]
    exact sound.codes fun other member same => by rw [only other member same]; exact issued
  have fresh : (chainGift cfg w.now userId row).grant ∉ w.tables.giftLetters.rows.map GiftLetter.grant := by
    intro taken
    obtain ⟨gift, member, key⟩ := List.mem_map.mp taken
    obtain ⟨-, other, inCodes, same, status, -⟩ :=
      sound.tied.redeemed (core gift) (List.mem_map_of_mem member) row.code (congrArg Prod.fst key)
    rw [only other inCodes (by simp [same]), issued] at status
    cases status
  have one : grantGiftLettersWithClient w.now w.tables.giftLetters (chainGift cfg w.now userId row) 1 =
      w.tables.giftLetters.insert (chainGift cfg w.now userId row) fresh :=
    Table.insertNew_of_not_mem fresh
  rw [one]
  refine used.insert fresh rfl (used.tied.insert rfl ?_ (fun letterId source => by cases source)
    (by rw [core_grant]; exact fresh))
  intro other source
  cases source
  have here : w.tables.giftCodes.find ({ row with status := .redeemed } : GiftCode).code = some row := by
    rw [show ({ row with status := .redeemed } : GiftCode).code = code from named]
    exact found
  exact ⟨rfl, _, Table.find_mem (Table.find_put_self _ here), rfl, rfl, rfl⟩

theorem Sound.reverse {orderId : OrderId} {disputed : Bool} (sound : Sound w) :
    Sound { w with tables := revokeGiftLettersForOrder w.tables orderId disputed } := by
  have reversed : Sound { w with tables := { w.tables with
      giftLetters := w.tables.giftLetters.update (fun gift => gift.sourceOrderId == some orderId)
        GiftLetter.reverse GiftLetter.reverse_grant } } := by
    refine sound.age (fun gift => ?_) fun gift _ status => ?_
    · unfold GiftLetter.reverse
      split <;> rfl
    · simp [GiftLetter.reverse, status]
  unfold revokeGiftLettersForOrder
  cases disputed with
  | false => exact reversed
  | true =>
    refine reversed.codes fun code _ hit => ?_
    simp only [Bool.and_eq_true, beq_iff_eq] at hit
    exact hit.1

theorem Sound.step {event : Event} (sound : Sound w) (committed : step cfg w event = .ok w') : Sound w' := by
  cases event with
  | tick elapsed =>
    cases committed
    exact ⟨sound.tied, sound.spentStatus⟩
  | grant grant =>
    simp only [Gift.step] at committed
    split at committed
    · cases committed
    · rename_i root
      cases committed
      refine sound.grant (fun code source => root ?_) fun letterId source => root ?_
      · simp [Grant.rootSource, show grant.source = _ from source]
      · simp [Grant.rootSource, show grant.source = _ from source]
  | send userId letterId mailsAt campaigns generated => exact sound.send committed
  | deliver letterId =>
    simp only [Gift.step, deliverSend] at committed
    split at committed
    · cases committed
    rename_i letter found
    split at committed
    · cases committed
    rename_i going
    cases committed
    exact sound.post (Table.find_of_mem (Table.find_mem found)) (.inl (not_not.mp going))
  | fail letterId => exact sound.endSend (.inl rfl) committed
  | cancel letterId byCustomer => exact sound.endSend (.inr rfl) committed
  | retry letterId =>
    simp only [Gift.step, retrySend] at committed
    split at committed
    · cases committed
    rename_i letter found
    split at committed
    · cases committed
    rename_i open_
    rw [not_or, not_not] at open_
    cases committed
    have named : letter.letterId = letterId := Table.find_key found
    refine sound.post (Table.find_of_mem (Table.find_mem found)) (.inr ⟨open_.1, fun gift member source => ?_⟩)
    refine open_.2 (List.any_eq_true.mpr ⟨gift, member, ?_⟩)
    simp [source, named]
  | redeem userId sameAddress code =>
    obtain ⟨tables, redeemed, rfl⟩ := map_eq_ok committed
    exact sound.redeem redeemed
  | reverse orderId disputed =>
    cases committed
    exact sound.reverse
  | voidCode letterId =>
    simp only [Gift.step] at committed
    split at committed
    · cases committed
      exact sound.voidLetter
    · cases committed

theorem Sound.of_reachable (reach : Reachable cfg w) : Sound w := by
  refine reach.invariant (I := Sound) ?_ fun _ _ _ sound _ committed => sound.step committed
  refine ⟨⟨?_, ?_, ?_, ?_, ?_, ?_⟩, ?_⟩ <;> intro row member <;> cases member

/-- The code a gift letter printed was redeemed. -/
def Redeemed (t : Tables) (gift : GiftLetter) : Prop :=
  ∃ code ∈ t.giftCodes.rows, code.gift = gift.grant ∧ code.status = .redeemed

/-- A gift letter came back to its giver. -/
def Returned (t : Tables) (gift : GiftLetter) : Prop :=
  ∃ next ∈ t.giftLetters.rows, ∃ letterId, gift.consumedByLetterId = some letterId ∧
    next.source = .sendFailed letterId

/-- The letter a gift was spent on was delivered. -/
def World.delivered (w : World) (gift : GiftLetter) : Bool :=
  match gift.consumedByLetterId with
  | none => false
  | some letterId => w.mail letterId == some .delivered

/-- The free letters of a chain that were delivered. -/
def World.deliveredOn (w : World) (path : List GiftLetter) : List GiftMail :=
  w.letters.rows.filter fun letter =>
    letter.status == .delivered && path.any fun gift => gift.consumedByLetterId == some letter.letterId

variable {first second : GiftLetter}

theorem Sound.chained {gift next : GiftLetter} {code : GiftCode} (sound : Sound w)
    (member : next ∈ w.tables.giftLetters.rows) (known : code ∈ w.tables.giftCodes.rows)
    (printed : code.gift = gift.grant) (source : next.source = .chainRedemption code.code) :
    code.status = .redeemed ∧ next.grantIndex = 0 ∧
      next.generationsRemaining = code.grantsGenerationsRemaining ∧
      precedes (w.tables.giftLetters.rows.map core) gift.grant next.grant := by
  obtain ⟨index, row, inCodes, named, status, budget, before⟩ :=
    sound.tied.redeemed (core next) (List.mem_map_of_mem member) code.code source
  have same : row = code := eq_of_key_eq w.tables.giftCodes.unique inCodes known named
  subst same
  exact ⟨status, index, budget, printed ▸ before⟩

theorem Sound.spentOn {gift : GiftLetter} {code : GiftCode} (sound : Sound w)
    (member : gift ∈ w.tables.giftLetters.rows) (known : code ∈ w.tables.giftCodes.rows)
    (printed : code.gift = gift.grant) :
    gift.consumedByLetterId = some code.letterId ∧
      gift.generationsRemaining = code.grantsGenerationsRemaining + 1 := by
  obtain ⟨spent, inCores, named, on, budget⟩ := sound.tied.printed code known
  obtain ⟨row, inRows, rfl⟩ := List.mem_map.mp inCores
  have same : row = gift := eq_of_key_eq w.tables.giftLetters.unique inRows member (named.trans printed)
  subst same
  exact ⟨on, budget⟩

theorem Sound.back {gift next : GiftLetter} {letterId : LetterId} (sound : Sound w)
    (member : gift ∈ w.tables.giftLetters.rows) (inNext : next ∈ w.tables.giftLetters.rows)
    (on : gift.consumedByLetterId = some letterId) (source : next.source = .sendFailed letterId) :
    next.grantIndex = 0 ∧ next.generationsRemaining = gift.generationsRemaining ∧
      precedes (w.tables.giftLetters.rows.map core) gift.grant next.grant ∧
      (∀ code ∈ w.tables.giftCodes.rows, code.letterId = letterId → code.status = .void) ∧
      ended (w.mail letterId) := by
  obtain ⟨index, ⟨spent, inCores, spentOn, budget, before⟩, void, finished⟩ :=
    sound.tied.returned (core next) (List.mem_map_of_mem inNext) letterId source
  have same : spent.grant = gift.grant :=
    sound.tied.oneGift spent inCores (core gift) (List.mem_map_of_mem member) letterId spentOn on
  obtain ⟨row, inRows, rfl⟩ := List.mem_map.mp inCores
  have here : row = gift := eq_of_key_eq w.tables.giftLetters.unique inRows member same
  subst here
  exact ⟨index, budget.symm, before, void, finished⟩

/-- A gift letter that came back has no redeemed code, and its letter was not delivered. -/
theorem Sound.not_both {gift : GiftLetter} (sound : Sound w) (member : gift ∈ w.tables.giftLetters.rows) :
    ¬(Returned w.tables gift ∧ Redeemed w.tables gift) := by
  rintro ⟨⟨next, inNext, letterId, on, source⟩, code, known, printed, status⟩
  obtain ⟨-, -, -, void, -⟩ := sound.back member inNext on source
  have same := (sound.spentOn member known printed).1
  rw [on] at same
  rw [void code known (Option.some.inj same).symm] at status
  cases status

theorem Sound.link_rises (sound : Sound w) (linked : Link w.tables first second) :
    precedes (w.tables.giftLetters.rows.map core) first.grant second.grant := by
  obtain ⟨left, right, ⟨code, known, printed, source⟩ | ⟨letterId, on, source⟩⟩ := linked
  · exact (sound.chained right known printed source).2.2.2
  · exact (sound.back left right on source).2.2.1

theorem Sound.link_single {third : GiftLetter} (sound : Sound w) (linked : Link w.tables first second)
    (other : Link w.tables first third) : second = third := by
  obtain ⟨left, right, ⟨code, known, printed, source⟩ | ⟨letterId, on, source⟩⟩ := linked
  · obtain ⟨status, index, -⟩ := sound.chained right known printed source
    obtain ⟨-, inThird, ⟨code', known', printed', source'⟩ | ⟨letterId, on, source'⟩⟩ := other
    · obtain ⟨-, index', -⟩ := sound.chained inThird known' printed' source'
      have same := sound.tied.oneCode code known code' known' (printed.trans printed'.symm)
      refine eq_of_key_eq w.tables.giftLetters.unique right inThird ?_
      unfold GiftLetter.grant
      rw [source, source', same, index, index']
    · exact absurd ⟨⟨third, inThird, letterId, on, source'⟩, code, known, printed, status⟩ (sound.not_both left)
  · obtain ⟨index, -⟩ := sound.back left right on source
    obtain ⟨-, inThird, ⟨code, known, printed, source'⟩ | ⟨letterId', on', source'⟩⟩ := other
    · have status := (sound.chained inThird known printed source').1
      exact absurd ⟨⟨second, right, letterId, on, source⟩, code, known, printed, status⟩ (sound.not_both left)
    · obtain ⟨index', -⟩ := sound.back left inThird on' source'
      have same : letterId = letterId' := Option.some.inj (on.symm.trans on')
      refine eq_of_key_eq w.tables.giftLetters.unique right inThird ?_
      unfold GiftLetter.grant
      rw [source, source', same, index, index']

/-- Along a link the budget falls by one if a code was redeemed, and stays if the gift came back. -/
theorem Sound.link_budget (sound : Sound w) (linked : Link w.tables first second) :
    (Redeemed w.tables first → second.generationsRemaining + 1 = first.generationsRemaining) ∧
      (Returned w.tables first → second.generationsRemaining = first.generationsRemaining) ∧
      (w.delivered first = true → second.generationsRemaining + 1 = first.generationsRemaining) := by
  obtain ⟨left, right, ⟨code, known, printed, source⟩ | ⟨letterId, on, source⟩⟩ := linked
  · obtain ⟨status, -, budget, -⟩ := sound.chained right known printed source
    have falls : second.generationsRemaining + 1 = first.generationsRemaining := by
      rw [budget, (sound.spentOn left known printed).2]
    exact ⟨fun _ => falls,
      fun returned => absurd ⟨returned, code, known, printed, status⟩ (sound.not_both left), fun _ => falls⟩
  · obtain ⟨-, budget, -, -, finished⟩ := sound.back left right on source
    refine ⟨fun redeemed => absurd ⟨⟨second, right, letterId, on, source⟩, redeemed⟩ (sound.not_both left),
      fun _ => budget, fun arrived => ?_⟩
    simp only [World.delivered, on, beq_iff_eq] at arrived
    unfold ended at finished
    rw [arrived] at finished
    rcases finished with failed | cancelled
    · cases failed
    · cases cancelled

/-- Each letter delivered on a chain was paid for by a gift letter of its own. -/
theorem deliveredOn_le (w : World) (path : List GiftLetter) :
    (w.deliveredOn path).length ≤ (path.filter w.delivered).length := by
  have ids : ((w.deliveredOn path).map GiftMail.letterId).Nodup :=
    w.letters.unique.sublist (List.filter_sublist.map _)
  have paid : ∀ letterId ∈ (w.deliveredOn path).map GiftMail.letterId,
      letterId ∈ (path.filter w.delivered).filterMap GiftLetter.consumedByLetterId := by
    intro letterId member
    obtain ⟨letter, kept, rfl⟩ := List.mem_map.mp member
    obtain ⟨inLetters, arrived⟩ := List.mem_filter.mp kept
    simp only [Bool.and_eq_true, List.any_eq_true, beq_iff_eq] at arrived
    obtain ⟨status, gift, inPath, on⟩ := arrived
    have mail : w.mail letter.letterId = some .delivered := by
      unfold World.mail
      rw [Table.find_of_mem inLetters, ← status]
      rfl
    refine List.mem_filterMap.mpr ⟨gift, List.mem_filter.mpr ⟨inPath, ?_⟩, on⟩
    simp [World.delivered, on, mail]
  have fewer := (List.subperm_of_subset ids paid).length_le
  rw [List.length_map] at fewer
  exact fewer.trans (List.length_filterMap_le _ _)

end LetterIRL.Gift
