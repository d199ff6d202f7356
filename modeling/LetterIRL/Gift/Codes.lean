import LetterIRL.Commerce.Sends

namespace LetterIRL.Gift
open Lib Ledger Commerce

/-! Gift letters and the codes they print: `giftLetterService`, over the tables of every account. -/

inductive CodeStatus
  | issued
  | redeemed
  | void
  deriving DecidableEq

/-- A row of `gift_codes`; `gift` is its `gift_id`. -/
structure GiftCode where
  code : ChainCode
  gift : GiftSource × Nat
  letterId : LetterId
  issuedToUserId : UserId
  grantsGenerationsRemaining : Nat
  status : CodeStatus := .issued
  expiresAt : Time
  deriving DecidableEq

structure Tables where
  giftLetters : Table GiftLetter.grant := Table.empty
  giftCodes : Table GiftCode.code := Table.empty

/-- `INSERT INTO gift_codes`: a gift letter prints one code, and so does a letter. -/
def Tables.insertCode (t : Tables) (row : GiftCode) : Except Abort Tables :=
  if fresh : row.code ∉ t.giftCodes.rows.map GiftCode.code then
    if t.giftCodes.rows.any fun other => other.gift == row.gift || other.letterId == row.letterId then
      .error .uniqueIndex
    else .ok { t with giftCodes := t.giftCodes.insert row fresh }
  else .error .uniqueIndex

/-- What a send reads of the promo campaigns: whether a campaign's code prints, and whether one
reads as a chain code. -/
structure Campaigns where
  seedCodePrints : CampaignId → Bool := fun _ => false
  readsAs : ChainCode → Bool := fun _ => false

/-- `mintChainCode`: the first of five generated codes that is free. -/
def mintChainCode (cfg : Config) (now : Time) (campaigns : Campaigns) (t : Tables) (gift : GiftLetter)
    (letterId : LetterId) (mailsAt : Option Time) (generated : List ChainCode) : Except Abort Tables :=
  let expiresAt := mailsAt.getD now + days cfg.giftCodeTtlDays
  match (generated.take 5).find? fun code => !campaigns.readsAs code && (t.giftCodes.find code).isNone with
  | none => .error .refused
  | some code => t.insertCode
    { code, gift := gift.grant, letterId, issuedToUserId := gift.userId,
      grantsGenerationsRemaining := gift.generationsRemaining - 1, expiresAt }

/-- `consumeGiftLetterForSendWithClient`, once `letters` has the letter. -/
def consumeGiftLetterForSend (cfg : Config) (now : Time) (campaigns : Campaigns) (t : Tables) (userId : UserId)
    (letterId : LetterId) (mailsAt : Option Time) (generated : List ChainCode) : Except Abort Tables :=
  match consumeGiftLetter now t.giftLetters userId letterId with
  | none => .error .refused
  | some (gift, giftLetters) =>
    let consumed := { t with giftLetters }
    if gift.cardCampaignId.any campaigns.seedCodePrints then .ok consumed
    else if 0 < gift.generationsRemaining then
      mintChainCode cfg now campaigns consumed gift letterId mailsAt generated
    else .ok consumed

/-- `codeState`: a code that cannot be redeemed. -/
def codeRefused (now : Time) (code : GiftCode) : Bool :=
  code.status == .redeemed || code.status == .void || code.expiresAt ≤ now

/-- The gift letter a chain code is worth. -/
def chainGift (cfg : Config) (now : Time) (userId : UserId) (code : GiftCode) : GiftLetter :=
  { source := .chainRedemption code.code, userId, generationsRemaining := code.grantsGenerationsRemaining,
    parentCode := some code.code, expiresAt := some (now + days cfg.giftLetterTtlDays), createdAt := now }

/-- `redeemChainCode`. The redeemer must not be the account the code was printed for, by id or
by address. -/
def redeemChainCode (cfg : Config) (now : Time) (t : Tables) (userId : UserId) (sameAddress : Bool)
    (code : ChainCode) : Except Abort Tables :=
  match t.giftCodes.find code with
  | none => .error .refused
  | some row =>
    if !cfg.giftLettersEnabled || codeRefused now row || row.issuedToUserId == userId || sameAddress then
      .error .refused
    else .ok
      { giftLetters := grantGiftLettersWithClient now t.giftLetters (chainGift cfg now userId row) 1
        giftCodes := t.giftCodes.put { row with status := .redeemed } }

/-- Why a gift letter comes back. -/
inductive ReturnCause
  | failed
  | cancelled
  deriving DecidableEq

/-- When a returned gift letter expires: a failed send gives it a fresh lifetime at least, a
cancel gives it back as it was. -/
def returnedExpiry (cfg : Config) (now : Time) (cause : ReturnCause) (gift : GiftLetter) : Option Time :=
  match cause, gift.expiresAt with
  | .cancelled, at_ => at_
  | .failed, none => none
  | .failed, some at_ => some (max at_ (now + days cfg.giftLetterTtlDays))

/-- The gift letter a send that did not go out gives back. -/
def returnedGift (cfg : Config) (now : Time) (cause : ReturnCause) (letterId : LetterId) (gift : GiftLetter) :
    GiftLetter :=
  { gift with
    source := .sendFailed letterId, grantIndex := 0, status := .available,
    expiresAt := returnedExpiry cfg now cause gift, createdAt := now, consumedByLetterId := none,
    sourceReversed := false }

/-- The codes with those a letter printed voided, unless redeemed. -/
def voidLetterCodes (letterId : LetterId) (giftCodes : Table GiftCode.code) : Table GiftCode.code :=
  giftCodes.update (fun code => code.letterId == letterId && code.status == .issued)
    (fun code => { code with status := .void }) fun _ => rfl

/-- `returnGiftLetterForFailedSendWithClient`: the tables, and how many gift letters came back. -/
def returnGiftLetterForFailedSend (cfg : Config) (now : Time) (t : Tables) (userId : UserId)
    (letterId : LetterId) (cause : ReturnCause) : Tables × Nat :=
  if t.giftLetters.rows.any fun gift => gift.source == .sendFailed letterId then (t, 0)
  else
    match t.giftLetters.rows.find? fun gift =>
        gift.consumedByLetterId == some letterId && gift.userId == userId with
    | none => (t, 0)
    | some gift =>
      if t.giftCodes.rows.any fun code => code.letterId == letterId && code.status == .redeemed then (t, 0)
      else
        let voided := { t with giftCodes := voidLetterCodes letterId t.giftCodes }
        if gift.sourceReversed then (voided, 0)
        else ({ voided with
          giftLetters := voided.giftLetters.insertNew (returnedGift cfg now cause letterId gift) }, 1)

/-- `isGiftLetterCompensated`. -/
def isGiftLetterCompensated (t : Tables) (letterId : LetterId) : Bool :=
  t.giftLetters.rows.any fun gift =>
    gift.source == .sendFailed letterId ||
      (gift.consumedByLetterId == some letterId && gift.sourceReversed)

/-- `revokeGiftLettersForOrderWithClient`: a dispute also voids the codes its gift letters printed. -/
def revokeGiftLettersForOrder (t : Tables) (orderId : OrderId) (disputed : Bool) : Tables :=
  { giftLetters := t.giftLetters.update (fun gift => gift.sourceOrderId == some orderId)
      GiftLetter.reverse GiftLetter.reverse_grant
    giftCodes :=
      if disputed then
        t.giftCodes.update
          (fun code => code.status == .issued && t.giftLetters.rows.any fun gift =>
            gift.grant == code.gift && gift.sourceOrderId == some orderId)
          (fun code => { code with status := .void }) fun _ => rfl
      else t.giftCodes }

end LetterIRL.Gift
