import LetterIRL.Gift.Codes
import LetterIRL.Lib.Runs

namespace LetterIRL.Gift
open Lib Ledger Commerce

/-! Every account's gift letters, with the mail they pay for. -/

/-- Where a gift-funded letter is. One that failed or was cancelled was not mailed. -/
inductive MailStatus
  | inFlight
  | delivered
  | failed
  | cancelled
  deriving DecidableEq

/-- A row of `letters` whose funding is a gift letter. -/
structure GiftMail where
  letterId : LetterId
  userId : UserId
  status : MailStatus := .inFlight
  deriving DecidableEq

structure World where
  now : Time := 0
  tables : Tables := {}
  letters : Table GiftMail.letterId := Table.empty

/-- A pack's gift letters, a seed campaign's, or an operator's. -/
structure Grant where
  source : GiftSource
  userId : UserId
  generationsRemaining : Nat
  sourceOrderId : Option OrderId := none
  cardCampaignId : Option CampaignId := none
  expiresAt : Option Time
  quantity : Nat

/-- `Exclude<GiftLetterSource, 'send_failed'>`, less the redemption of a code. -/
def Grant.rootSource (grant : Grant) : Bool :=
  match grant.source with
  | .packPurchase _ | .other _ => true
  | .chainRedemption _ | .sendFailed _ => false

def Grant.gift (now : Time) (grant : Grant) : GiftLetter :=
  { source := grant.source, userId := grant.userId, generationsRemaining := grant.generationsRemaining,
    sourceOrderId := grant.sourceOrderId, cardCampaignId := grant.cardCampaignId, expiresAt := grant.expiresAt,
    createdAt := now }

inductive Event
  | tick (elapsed : Time)
  | grant (grant : Grant)
  | send (userId : UserId) (letterId : LetterId) (mailsAt : Option Time) (campaigns : Campaigns)
      (generated : List ChainCode)
  | deliver (letterId : LetterId)
  | fail (letterId : LetterId)
  | cancel (letterId : LetterId) (byCustomer : Bool)
  | retry (letterId : LetterId)
  | redeem (userId : UserId) (sameAddress : Bool) (code : ChainCode)
  | reverse (orderId : OrderId) (disputed : Bool)
  | voidCode (letterId : LetterId)

/-- A gift-funded send: the letter, then its gift. -/
def send (cfg : Config) (w : World) (userId : UserId) (letterId : LetterId) (mailsAt : Option Time)
    (campaigns : Campaigns) (generated : List ChainCode) : Except Abort World :=
  if fresh : letterId ∉ w.letters.rows.map GiftMail.letterId then do
    let tables ← consumeGiftLetterForSend cfg w.now campaigns w.tables userId letterId mailsAt generated
    .ok { w with tables, letters := w.letters.insert { letterId, userId } fresh }
  else .error .uniqueIndex

/-- A send that ends without its mail: it failed for good, or its held mail was cancelled. What
paid for it goes back in the same transaction. -/
def endSend (cfg : Config) (w : World) (letterId : LetterId) (status : MailStatus) (cause : ReturnCause) :
    Except Abort World :=
  match w.letters.find letterId with
  | none => .error .refused
  | some letter =>
    if letter.status ≠ .inFlight then .error .refused
    else .ok { w with
      letters := w.letters.put { letter with status }
      tables := (returnGiftLetterForFailedSend cfg w.now w.tables letter.userId letterId cause).1 }

/-- `retryLetterJobAsAdmin` on a failed gift letter: never one that was made good. -/
def retrySend (w : World) (letterId : LetterId) : Except Abort World :=
  match w.letters.find letterId with
  | none => .error .refused
  | some letter =>
    if letter.status ≠ .failed ∨ isGiftLetterCompensated w.tables letterId then .error .refused
    else .ok { w with letters := w.letters.put { letter with status := .inFlight } }

def deliverSend (w : World) (letterId : LetterId) : Except Abort World :=
  match w.letters.find letterId with
  | none => .error .refused
  | some letter =>
    if letter.status ≠ .inFlight then .error .refused
    else .ok { w with letters := w.letters.put { letter with status := .delivered } }

/-- One transaction; an error is a rollback. -/
def step (cfg : Config) (w : World) : Event → Except Abort World
  | .tick elapsed => .ok { w with now := w.now + elapsed }
  | .grant grant =>
    if !grant.rootSource then .error .refused
    else .ok { w with tables := { w.tables with
      giftLetters := grantGiftLettersWithClient w.now w.tables.giftLetters (grant.gift w.now) grant.quantity } }
  | .send userId letterId mailsAt campaigns generated => send cfg w userId letterId mailsAt campaigns generated
  | .deliver letterId => deliverSend w letterId
  | .fail letterId => endSend cfg w letterId .failed .failed
  | .cancel letterId byCustomer =>
    endSend cfg w letterId .cancelled (if byCustomer then .cancelled else .failed)
  | .retry letterId => retrySend w letterId
  | .redeem userId sameAddress code =>
    (redeemChainCode cfg w.now w.tables userId sameAddress code).map fun tables => { w with tables }
  | .reverse orderId disputed => .ok { w with tables := revokeGiftLettersForOrder w.tables orderId disputed }
  | .voidCode letterId =>
    if w.tables.giftCodes.rows.any fun code => code.letterId == letterId && code.status == .issued then
      .ok { w with tables := { w.tables with giftCodes := voidLetterCodes letterId w.tables.giftCodes } }
    else .error .refused

abbrev Reachable (cfg : Config) : World → Prop := Reach (step cfg) anyStep {}

/-- `next` was granted by the code `gift` printed, or given back for the letter it was spent on. -/
def Link (t : Tables) (gift next : GiftLetter) : Prop :=
  gift ∈ t.giftLetters.rows ∧ next ∈ t.giftLetters.rows ∧
    ((∃ code ∈ t.giftCodes.rows, code.gift = gift.grant ∧ next.source = .chainRedemption code.code) ∨
      ∃ letterId, gift.consumedByLetterId = some letterId ∧ next.source = .sendFailed letterId)

end LetterIRL.Gift
