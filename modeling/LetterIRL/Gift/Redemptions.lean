import LetterIRL.Gift.Seeds
import LetterIRL.Lib.Runs

namespace LetterIRL.Gift
open Lib Ledger Commerce

/-! Redemptions in flight: `redeemPromoCode` validates by separate queries, and counts and grants in one transaction. -/

/-- A promo lot of `credit_ledger`, as a redemption inserts it. -/
structure PromoLot where
  userId : UserId
  campaignId : CampaignId
  initialAmount : Nat
  expirationPolicy : ExpirationPolicy
  expirationDays : Option Nat
  expiresAt : Option Time
  deriving DecidableEq

structure PromoStore extends PromoTables where
  lots : List PromoLot := []

/-- How far a call has come, with the campaign row it read. -/
inductive RedeemPhase
  | begun
  | selected (campaign : PromoCampaign)
  | unredeemed (campaign : PromoCampaign)
  | accountFound (campaign : PromoCampaign)
  | validated (campaign : PromoCampaign)
  | ready (campaign : PromoCampaign) (emailNormalized : Option Email) (expiresAt : Option Time)
  | refused (refusal : RedeemRefusal)
  | redeemed (result : RedeemPromoResult)
  deriving DecidableEq

def RedeemPhase.campaign : RedeemPhase → Option PromoCampaign
  | .selected campaign | .unredeemed campaign | .accountFound campaign | .validated campaign
  | .ready campaign _ _ => some campaign
  | _ => none

/-- Before the reads that decide whether the account is new. -/
def RedeemPhase.early : RedeemPhase → Bool
  | .begun | .selected _ | .unredeemed _ | .accountFound _ => true
  | _ => false

/-- Past them. -/
def RedeemPhase.decided : RedeemPhase → Bool
  | .validated _ | .ready _ _ _ => true
  | _ => false

/-- A call of `redeemPromoCode`. `overtaken` is the model's own: a transaction of the account has committed
since the call was decided. -/
structure RedeemCall where
  userId : UserId
  email : Option Email := none
  promoCode : List Char
  phase : RedeemPhase := .begun
  overtaken : Bool := false
  deriving DecidableEq

/-- `validatePromoCode`, its first query: the campaign by its code. -/
def readCampaign (now : Time) (t : PromoTables) (promoCode : List Char) : RedeemPhase :=
  match getCampaignByCode t promoCode with
  | none => .refused (.promo .notFound)
  | some campaign =>
    if campaign.status ≠ .active then .refused (.promo .inactive)
    else if now < campaign.startsAt then .refused (.promo .notStarted)
    else if campaign.endsAt.any (· < now) then .refused (.promo .expired)
    else if campaign.maxTotalRedemptions.any fun cap => cap ≠ 0 && cap ≤ campaign.currentRedemptions then
      .refused (.promo .limitReached)
    else .selected campaign

/-- The account's redemptions of it. -/
def readRedemptions (t : PromoTables) (userId : UserId) (campaign : PromoCampaign) : RedeemPhase :=
  if campaign.maxPerUser ≤ ((t.redemptions.filter fun row =>
      row.campaignId == campaign.campaignId && row.userId == userId).length : Int) then
    .refused (.promo .alreadyRedeemed)
  else if campaign.requiresNewUser then .unredeemed campaign
  else .validated campaign

/-- `findUser`: an account with no row is new. -/
def readAccount (t : PromoTables) (userId : UserId) (campaign : PromoCampaign) : RedeemPhase :=
  if t.users.any fun user => user.userId == userId then .accountFound campaign else .validated campaign

def readTransactions (t : PromoTables) (userId : UserId) (campaign : PromoCampaign) : RedeemPhase :=
  if userId ∈ t.transactions then .refused (.promo .newUsersOnly) else .validated campaign

/-- What `redeemPromoCode` checks between validation and its transaction. -/
def checkGrant (cfg : Config) (now : Time) (t : PromoTables) (email : Option Email) (campaign : PromoCampaign) :
    RedeemPhase :=
  let isSeed := isSeedCampaign campaign
  let emailNormalized := if isSeed then email.bind normalizeEmail else none
  if isSeed && !cfg.giftLettersEnabled then .refused .giftsUnavailable
  else if !isSeed && campaign.creditsAmount = 0 then .refused .noLetters
  else if emailNormalized.isSome && t.redemptions.any fun row =>
      row.campaignId == campaign.campaignId && row.emailNormalized == emailNormalized then
    .refused .seedEmailAlreadyUsed
  else .ready campaign emailNormalized (promoExpiresAt now campaign)

def grantsCredits (campaign : PromoCampaign) : Bool := !isSeedCampaign campaign || 0 < campaign.creditsAmount

/-- `grantPromoCreditsWithClient`: a lot and its transaction row. -/
def grantPromoCredits (store : PromoStore) (userId : UserId) (campaign : PromoCampaign) (expiresAt : Option Time) :
    PromoStore :=
  { store with
    lots := store.lots ++ [{
      userId, campaignId := campaign.campaignId, initialAmount := campaign.creditsAmount, expiresAt
      expirationPolicy := campaign.expirationPolicy, expirationDays := campaign.expirationDays.filter (· ≠ 0) }]
    transactions := userId :: store.transactions }

/-- `grantGiftLettersWithClient` for a seed claim, `ON CONFLICT DO NOTHING`, and whether it inserted a letter. -/
def grantSeedGift (store : PromoStore) (userId : UserId) (campaign : PromoCampaign) : PromoStore × Bool :=
  if store.seedGifts.contains (campaign.campaignId, userId) then (store, false)
  else ({ store with seedGifts := (campaign.campaignId, userId) :: store.seedGifts }, true)

/-- The grant: letters from the ledger, a gift letter, or both. -/
def grantLetters (store : PromoStore) (userId : UserId) (campaign : PromoCampaign) (expiresAt : Option Time) :
    PromoStore × Bool :=
  let credited := if grantsCredits campaign then grantPromoCredits store userId campaign expiresAt else store
  if isSeedCampaign campaign then grantSeedGift credited userId campaign else (credited, false)

/-- `INSERT INTO promo_redemptions`: its CHECK, then its two unique indexes. -/
def recordRedemption (store : PromoStore) (row : PromoRedemption) (grantsSomething : Bool) :
    Except RedeemRefusal PromoStore :=
  if !grantsSomething then .error .thrown
  else if store.redemptions.any fun other => other.campaignId == row.campaignId && other.userId == row.userId then
    .error .thrown
  else if row.emailNormalized.isSome && store.redemptions.any fun other =>
      other.campaignId == row.campaignId && other.emailNormalized == row.emailNormalized then
    .error .seedEmailAlreadyUsed
  else .ok { store with redemptions := row :: store.redemptions }

/-- The body of the transaction: what it wrote and what it answers, or what it threw. The increment reads the
row as it stands; the grant is of the row as validated. -/
def redeemWithClient (store : PromoStore) (userId : UserId) (email : Option Email) (campaign : PromoCampaign)
    (emailNormalized : Option Email) (expiresAt : Option Time) :
    Except RedeemRefusal (PromoStore × Except RedeemRefusal RedeemPromoResult) :=
  match store.campaigns.find campaign.campaignId with
  | none => .ok (store, .error (.promo .limitReached))
  | some current =>
    if current.status ≠ .active ∨ current.maxTotalRedemptions.any fun cap => cap ≤ current.currentRedemptions then
      -- No row is updated, so what this commits is nothing.
      .ok (store, .error (.promo .limitReached))
    else
      let counted := { store with
        campaigns := store.campaigns.put { current with currentRedemptions := current.currentRedemptions + 1 } }
      match ensureAccountRow counted.users userId email with
      | .error refusal => .error refusal
      | .ok users =>
        let granted := grantLetters { counted with users } userId campaign expiresAt
        match recordRedemption granted.1 { campaignId := campaign.campaignId, userId, emailNormalized }
            (grantsCredits campaign || granted.2) with
        | .error refusal => .error refusal
        | .ok written =>
          .ok (written, .ok
            { credits := if grantsCredits campaign then campaign.creditsAmount else 0
              giftLetters := if isSeedCampaign campaign then some (if granted.2 then 1 else 0) else none
              expiresAt })

/-- `transaction`: what the body throws rolls back, and what it returns commits. -/
def transaction {α : Type} (store : PromoStore)
    (body : Except RedeemRefusal (PromoStore × Except RedeemRefusal α)) : PromoStore × Except RedeemRefusal α :=
  match body with
  | .error reason => (store, .error reason)
  | .ok (written, answer) => (written, answer)

/-- The next statement of a call, and the transaction as one: the campaign row it increments stays locked to its end. -/
def RedeemCall.proceed (cfg : Config) (now : Time) (store : PromoStore) (call : RedeemCall) :
    Option (PromoStore × RedeemPhase) :=
  match call.phase with
  | .begun => some (store, readCampaign now store.toPromoTables call.promoCode)
  | .selected campaign => some (store, readRedemptions store.toPromoTables call.userId campaign)
  | .unredeemed campaign => some (store, readAccount store.toPromoTables call.userId campaign)
  | .accountFound campaign => some (store, readTransactions store.toPromoTables call.userId campaign)
  | .validated campaign => some (store, checkGrant cfg now store.toPromoTables call.email campaign)
  | .ready campaign emailNormalized expiresAt =>
    let done := transaction store (redeemWithClient store call.userId call.email campaign emailNormalized expiresAt)
    match done.2 with
    | .ok result => some (done.1, .redeemed result)
    | .error refusal => some (done.1, .refused refusal)
  | .refused _ | .redeemed _ => none

variable {cfg : Config} {now : Time} {store : PromoStore} {userId : UserId} {email emailNormalized : Option Email}
  {campaign : PromoCampaign} {call : RedeemCall}

/-- A call with the database to itself: `fuel` statements of it, at one instant. -/
def RedeemCall.finish (cfg : Config) (now : Time) : Nat → PromoStore → RedeemCall → PromoStore × RedeemPhase
  | 0, store, call => (store, call.phase)
  | fuel + 1, store, call =>
    match call.proceed cfg now store with
    | none => (store, call.phase)
    | some (store', phase) => RedeemCall.finish cfg now fuel store' { call with phase }

theorem grantLetters_eq (store : PromoStore) (userId : UserId) (campaign : PromoCampaign) (expiresAt : Option Time) :
    (grantLetters store userId campaign expiresAt).1.toPromoTables =
      { store.toPromoTables with
        transactions := if grantsCredits campaign then userId :: store.transactions else store.transactions
        seedGifts := if isSeedCampaign campaign && (campaign.campaignId, userId) ∉ store.seedGifts then
          (campaign.campaignId, userId) :: store.seedGifts else store.seedGifts } ∧
      (grantLetters store userId campaign expiresAt).2 =
        (isSeedCampaign campaign && (campaign.campaignId, userId) ∉ store.seedGifts) := by
  unfold grantLetters grantSeedGift
  by_cases credits : grantsCredits campaign = true <;> by_cases seed : isSeedCampaign campaign = true <;>
    by_cases here : (campaign.campaignId, userId) ∈ store.seedGifts <;>
    simp [credits, seed, here, grantPromoCredits]

/-- The transaction over the row as validated. -/
theorem transaction_alone (now : Time) (found : store.campaigns.find campaign.campaignId = some campaign) :
    let done := transaction store
      (redeemWithClient store userId email campaign emailNormalized (promoExpiresAt now campaign))
    (done.1.toPromoTables, done.2) =
      match grantRedemption now store.toPromoTables campaign userId email emailNormalized with
      | .error refusal => (store.toPromoTables, .error refusal)
      | .ok (t, result) => (t, .ok result) := by
  unfold grantRedemption redeemWithClient
  rw [found]
  dsimp only
  by_cases open_ : campaign.status ≠ .active ∨
      campaign.maxTotalRedemptions.any fun cap => cap ≤ campaign.currentRedemptions
  · rw [if_pos open_, if_pos open_]
    rfl
  · rw [if_neg open_, if_neg open_]
    cases ensureAccountRow store.users userId email with
    | error refusal => rfl
    | ok users =>
      dsimp only
      let counted := { campaign with currentRedemptions := campaign.currentRedemptions + 1 }
      obtain ⟨tables, flag⟩ := grantLetters_eq { store with campaigns := store.campaigns.put counted, users } userId
        campaign (promoExpiresAt now campaign)
      generalize (grantLetters _ userId campaign (promoExpiresAt now campaign)) = granted at tables flag ⊢
      obtain ⟨written, newGift⟩ := granted
      obtain ⟨t, lots⟩ := written
      dsimp only at tables flag
      subst tables flag
      unfold recordRedemption grantsCredits
      dsimp only
      generalize (isSeedCampaign campaign && decide ((campaign.campaignId, userId) ∉ store.seedGifts)) = newGift
      generalize (!isSeedCampaign campaign || decide (0 < campaign.creditsAmount)) = credits
      rw [Bool.not_or]
      cases (!credits && !newGift)
      · cases store.redemptions.any fun row => row.campaignId == campaign.campaignId && row.userId == userId
        · cases emailNormalized.isSome && store.redemptions.any fun row =>
              row.campaignId == campaign.campaignId && row.emailNormalized == emailNormalized
          · rfl
          · rfl
        · rfl
      · rfl

theorem finish_refused (fuel : Nat) (refusal : RedeemRefusal) :
    RedeemCall.finish cfg now fuel store { call with phase := .refused refusal } = (store, .refused refusal) := by
  cases fuel <;> rfl

theorem finish_redeemed (fuel : Nat) (result : RedeemPromoResult) :
    RedeemCall.finish cfg now fuel store { call with phase := .redeemed result } = (store, .redeemed result) := by
  cases fuel <;> rfl

/-- A call's tables and answer, as `redeemPromoCode` gives them. -/
def answered (t : PromoTables) : Except RedeemRefusal (PromoTables × RedeemPromoResult) → PromoTables × RedeemPhase
  | .error refusal => (t, .refused refusal)
  | .ok (after, result) => (after, .redeemed result)

def outcome (done : PromoStore × RedeemPhase) : PromoTables × RedeemPhase := (done.1.toPromoTables, done.2)

theorem finish_ready (fuel : Nat) (found : store.campaigns.find campaign.campaignId = some campaign) :
    outcome (RedeemCall.finish cfg now (fuel + 1) store
        { call with phase := .ready campaign emailNormalized (promoExpiresAt now campaign) }) =
      answered store.toPromoTables
        (grantRedemption now store.toPromoTables campaign call.userId call.email emailNormalized) := by
  have alone := @transaction_alone store call.userId call.email emailNormalized campaign now found
  unfold RedeemCall.finish RedeemCall.proceed
  dsimp only
  generalize transaction store _ = done at alone ⊢
  obtain ⟨written, answer⟩ := done
  cases granted : grantRedemption now store.toPromoTables campaign call.userId call.email emailNormalized with
  | error refusal =>
    rw [granted] at alone
    obtain ⟨same, rfl⟩ := Prod.mk.inj alone
    dsimp only
    rw [finish_refused]
    exact congrArg (·, _) same
  | ok done =>
    rw [granted] at alone
    obtain ⟨same, rfl⟩ := Prod.mk.inj alone
    dsimp only
    rw [finish_redeemed]
    exact congrArg (·, _) same

theorem finish_validated (call : RedeemCall) (fuel : Nat) (found : store.campaigns.find campaign.campaignId = some campaign) :
    outcome (RedeemCall.finish cfg now (fuel + 2) store { call with phase := .validated campaign }) =
      answered store.toPromoTables
        (let isSeed := isSeedCampaign campaign
        let emailNormalized := if isSeed then call.email.bind normalizeEmail else none
        if isSeed && !cfg.giftLettersEnabled then .error .giftsUnavailable
        else if !isSeed && campaign.creditsAmount = 0 then .error .noLetters
        else if emailNormalized.isSome && store.redemptions.any fun row =>
            row.campaignId == campaign.campaignId && row.emailNormalized == emailNormalized then
          .error .seedEmailAlreadyUsed
        else grantRedemption now store.toPromoTables campaign call.userId call.email emailNormalized) := by
  rw [RedeemCall.finish]
  dsimp only [RedeemCall.proceed]
  unfold checkGrant
  dsimp only
  generalize (if isSeedCampaign campaign = true then call.email.bind normalizeEmail else none) = emailNormalized
  split
  · rw [finish_refused]
    rfl
  · split
    · rw [finish_refused]
      rfl
    · split
      · rw [finish_refused]
        rfl
      · exact finish_ready fuel found

/-- Alone, a call comes to what `redeemPromoCode` says it does. -/
theorem redeemPromoCode_alone (cfg : Config) (now : Time) (store : PromoStore) (userId : UserId) (email : Option Email)
    (promoCode : List Char) :
    outcome (RedeemCall.finish cfg now 6 store { userId, email, promoCode }) =
      answered store.toPromoTables (redeemPromoCode cfg now store.toPromoTables userId email promoCode) := by
  unfold redeemPromoCode validatePromoCode
  rw [RedeemCall.finish]
  dsimp only [RedeemCall.proceed]
  unfold readCampaign
  cases at_ : getCampaignByCode store.toPromoTables promoCode with
  | none => rfl
  | some campaign =>
    have found : store.campaigns.find campaign.campaignId = some campaign :=
      Table.find_of_mem (List.mem_of_find?_eq_some at_)
    dsimp only
    split
    · rfl
    · split
      · rfl
      · split
        · rfl
        · split
          · rfl
          · rw [RedeemCall.finish]
            dsimp only [RedeemCall.proceed]
            unfold readRedemptions
            split
            · rfl
            · cases campaign.requiresNewUser
              · exact finish_validated { userId, email, promoCode } 2 found
              · rw [if_pos rfl, RedeemCall.finish]
                dsimp only [RedeemCall.proceed]
                unfold readAccount
                rw [Bool.true_and]
                cases store.users.any fun user => user.userId == userId
                · exact finish_validated { userId, email, promoCode } 1 found
                · rw [if_pos rfl, RedeemCall.finish, Bool.true_and]
                  dsimp only [RedeemCall.proceed]
                  unfold readTransactions
                  split
                  · rename_i here
                    rw [if_pos (by simpa using here)]
                    rfl
                  · rename_i here
                    rw [if_neg (by simpa using here)]
                    exact finish_validated { userId, email, promoCode } 0 found

/-! Calls and the other writers of the same tables. -/

structure PromoDesk where
  now : Time := 0
  store : PromoStore := {}
  calls : List RedeemCall := []

/-- A transaction of `userId` commits. -/
def RedeemCall.overtakenBy (userId : UserId) (call : RedeemCall) : RedeemCall :=
  if call.userId = userId ∧ call.phase.decided = true then { call with overtaken := true } else call

def overtake (userId : UserId) (calls : List RedeemCall) : List RedeemCall := calls.map (·.overtakenBy userId)

/-- `PROMO_STATUS_TRANSITIONS`. -/
def promoStatusTransitions : PromoCampaignStatus → List PromoCampaignStatus
  | .draft => [.active, .ended]
  | .active => [.paused, .ended]
  | .paused => [.active, .ended]
  | .ended | .expired => []

/-- What the operator's form accepts of a new campaign. -/
def promoInputValid (campaign : PromoCampaign) : Bool :=
  campaign.creditsAmount ≤ 1000 && (campaign.expirationDays.all fun n => 1 ≤ n && n ≤ 3650) &&
    (campaign.maxTotalRedemptions.all fun cap => 1 ≤ cap && cap ≤ 100000) &&
    (1 ≤ campaign.maxPerUser && campaign.maxPerUser ≤ 10) &&
    (campaign.giftGenerationsRemaining.all fun n => n ≤ 20) &&
    !(campaign.creditsAmount = 0 && campaign.giftGenerationsRemaining.isNone)

inductive PromoAbort
  | invalid
  | taken
  | notFound
  | invalidState
  | ended
  | account (refusal : RedeemRefusal)
  deriving DecidableEq

inductive PromoEvent
  | tick (elapsed : Nat)
  | createCampaign (campaign : PromoCampaign)
  | transitionStatus (campaignId : CampaignId) (status : PromoCampaignStatus)
  | openAccount (userId : UserId) (email : Option Email)
  /-- A purchase, or any other writer of `credit_transactions`. -/
  | recordTransaction (userId : UserId) (email : Option Email)
  | redeem (userId : UserId) (email : Option Email) (promoCode : List Char)
  | proceed (index : Nat)
  deriving DecidableEq

/-- The call at `index` is in a new phase, over the store its statement left. -/
def PromoDesk.moveCall (s : PromoDesk) (index : Nat) (call : RedeemCall) (store : PromoStore) (phase : RedeemPhase) :
    PromoDesk :=
  let moved := s.calls.set index { call with phase }
  { s with
    store
    calls := if store.transactions = s.store.transactions then moved else overtake call.userId moved }

def promoStep (cfg : Config) (s : PromoDesk) : PromoEvent → Except PromoAbort PromoDesk
  | .tick elapsed => .ok { s with now := s.now + elapsed }
  | .createCampaign campaign =>
    if !promoInputValid campaign then .error .invalid
    else if s.store.campaigns.rows.any fun other => other.code == campaign.code then .error .taken
    else if fresh : campaign.campaignId ∈ s.store.campaigns.rows.map PromoCampaign.campaignId then .error .taken
    else .ok { s with store := { s.store with
      campaigns := s.store.campaigns.insert { campaign with currentRedemptions := 0, status := .draft } fresh } }
  | .transitionStatus campaignId status =>
    match s.store.campaigns.find campaignId with
    | none => .error .notFound
    | some campaign =>
      if status ∈ promoStatusTransitions campaign.status then
        .ok { s with store := { s.store with campaigns := s.store.campaigns.put { campaign with status } } }
      else .error .invalidState
  | .openAccount userId email =>
    match ensureAccountRow s.store.users userId email with
    | .error refusal => .error (.account refusal)
    | .ok users => .ok { s with store := { s.store with users } }
  | .recordTransaction userId email =>
    match ensureAccountRow s.store.users userId email with
    | .error refusal => .error (.account refusal)
    | .ok users =>
      .ok { s with
        store := { s.store with users, transactions := userId :: s.store.transactions }
        calls := overtake userId s.calls }
  | .redeem userId email promoCode => .ok { s with calls := s.calls ++ [{ userId, email, promoCode }] }
  | .proceed index =>
    match s.calls[index]? with
    | none => .error .notFound
    | some call =>
      match call.proceed cfg s.now s.store with
      | none => .error .ended
      | some (store, phase) => .ok (s.moveCall index call store phase)

end LetterIRL.Gift
