import LetterIRL.Gift.Codes
import LetterIRL.Commerce.Store

namespace LetterIRL.Gift
open Lib Ledger Commerce

/-! Seed codes: promo campaigns that grant a gift letter, looked up as printed codes and redeemed as promo codes. -/

inductive PromoCampaignStatus
  | draft
  | active
  | paused
  | ended
  | expired
  deriving DecidableEq

inductive ExpirationPolicy
  | fixedDate
  | daysFromActivation
  | never
  deriving DecidableEq

/-- An address, trimmed and in lower case. -/
abbrev Email := List Char

/-- A row of `promo_campaigns`; its code in upper case, as both services look it up. -/
structure PromoCampaign where
  campaignId : CampaignId
  code : List Char
  creditsAmount : Nat := 0
  expirationPolicy : ExpirationPolicy := .daysFromActivation
  expirationDays : Option Nat := some 90
  fixedExpirationDate : Option Time := none
  maxTotalRedemptions : Option Int := none
  maxPerUser : Int := 1
  currentRedemptions : Int := 0
  startsAt : Time
  endsAt : Option Time := none
  requiresNewUser : Bool := false
  status : PromoCampaignStatus := .draft
  giftGenerationsRemaining : Option Nat := none
  deriving DecidableEq

/-- A row of `promo_redemptions`. -/
structure PromoRedemption where
  campaignId : CampaignId
  userId : UserId
  emailNormalized : Option Email := none
  deriving DecidableEq

structure User where
  userId : UserId
  email : Email
  deriving DecidableEq

/-- What both services read: chain codes, campaigns, redemptions, accounts with their transactions,
and the gift letters seed redemptions granted. -/
structure PromoTables where
  gifts : Tables := {}
  campaigns : Table PromoCampaign.campaignId := Table.empty
  redemptions : List PromoRedemption := []
  users : List User := []
  transactions : List UserId := []
  seedGifts : List (CampaignId × UserId) := []

/-- A code as typed: the chain code `normalizeGiftCode` reads in it, and its trimmed text in upper case. -/
structure TypedCode where
  chain : Option ChainCode := none
  text : List Char
  deriving DecidableEq

def isSeedCampaign (campaign : PromoCampaign) : Bool := campaign.giftGenerationsRemaining.isSome

/-- Why a gift letter bound to a campaign would not print the campaign's code. -/
inductive SeedCodeHold
  | notSeed
  | notLive
  | notStarted
  | ended
  | atCap
  deriving DecidableEq

def seedCodeHold (row : PromoCampaign) (now : Time) : Option SeedCodeHold :=
  if row.giftGenerationsRemaining = none then some .notSeed
  else if row.status ≠ .active then some .notLive
  else if now < row.startsAt then some .notStarted
  else if row.endsAt.any (· ≤ now) then some .ended
  else if row.maxTotalRedemptions.any fun cap => !decide (row.currentRedemptions < cap) then some .atCap
  else none

inductive CodeKind
  | chain
  | seed
  deriving DecidableEq

inductive LookupReason
  | notAvailable
  | redeemed
  | void
  | expired
  | notFound
  | limitReached
  deriving DecidableEq

structure PublicGiftCodeLookup where
  valid : Bool
  kind : Option CodeKind := none
  reason : Option LookupReason := none
  /-- `isoDay` of this instant. -/
  redeemBy : Option Time := none
  newCustomersOnly : Bool := false
  deriving DecidableEq

/-- `codeState`: why a chain code cannot be redeemed; see `codeRefused`. -/
def codeState (now : Time) (code : GiftCode) : Option LookupReason :=
  match code.status with
  | .redeemed => some .redeemed
  | .void => some .void
  | .issued => if code.expiresAt ≤ now then some .expired else none

/-- `WHERE UPPER(code) = $1`. -/
def getCampaignByCode (t : PromoTables) (text : List Char) : Option PromoCampaign :=
  t.campaigns.rows.find? fun campaign => campaign.code == text

/-- What the claim page may know of a code before sign-in: a chain code first, then a seed campaign's. -/
def lookupGiftCodePublic (cfg : Config) (now : Time) (t : PromoTables) (typed : TypedCode) : PublicGiftCodeLookup :=
  if !cfg.giftLettersEnabled then { valid := false, reason := some .notAvailable }
  else
    match typed.chain.bind t.gifts.giftCodes.find with
    | some row =>
      match codeState now row with
      | some refusal => { valid := false, kind := some .chain, reason := some refusal }
      | none => { valid := true, kind := some .chain, redeemBy := some row.expiresAt }
    | none =>
      if typed.text = [] then { valid := false, reason := some .notFound }
      else
        match getCampaignByCode t typed.text with
        | none => { valid := false, reason := some .notFound }
        | some row =>
          match seedCodeHold row now with
          | some .notSeed => { valid := false, reason := some .notFound }
          | some .atCap => { valid := false, kind := some .seed, reason := some .limitReached }
          | some _ => { valid := false, kind := some .seed, reason := some .expired }
          | none =>
            { valid := true, kind := some .seed, redeemBy := row.endsAt, newCustomersOnly := row.requiresNewUser }

inductive PromoRefusalCode
  | notFound
  | inactive
  | notStarted
  | expired
  | limitReached
  | alreadyRedeemed
  | newUsersOnly
  deriving DecidableEq

/-- The reasons of `validatePromoCode`. -/
def PromoRefusalCode.reason : PromoRefusalCode → String
  | .notFound => "Promo code not found"
  | .inactive => "Promo code is not active"
  | .notStarted => "Promo code is not yet active"
  | .expired => "Promo code has expired"
  | .limitReached => "Promo code redemption limit reached"
  | .alreadyRedeemed => "You have already redeemed this promo code"
  | .newUsersOnly => "This promo code is for new users only"

/-- `SEED_REFUSALS`, and for a code not found the reason itself. -/
def PromoRefusalCode.seedReason : PromoRefusalCode → String
  | .notFound => PromoRefusalCode.notFound.reason
  | .inactive => "This gift code is no longer valid."
  | .notStarted => "This gift code isn't active yet."
  | .expired => "This gift code has expired."
  | .limitReached => "This gift code has been claimed as many times as it allows."
  | .alreadyRedeemed => "You have already claimed this gift code."
  | .newUsersOnly => "This gift code is for new Letter IRL customers."

/-- `validatePromoCode`. A cap of zero is no cap here: `max_total_redemptions &&`. -/
def validatePromoCode (now : Time) (t : PromoTables) (text : List Char) (userId : UserId) :
    Except PromoRefusalCode PromoCampaign :=
  match getCampaignByCode t text with
  | none => .error .notFound
  | some campaign =>
    if campaign.status ≠ .active then .error .inactive
    else if now < campaign.startsAt then .error .notStarted
    else if campaign.endsAt.any (· < now) then .error .expired
    else if campaign.maxTotalRedemptions.any fun cap => cap ≠ 0 && cap ≤ campaign.currentRedemptions then
      .error .limitReached
    else if campaign.maxPerUser ≤ ((t.redemptions.filter fun row =>
        row.campaignId == campaign.campaignId && row.userId == userId).length : Int) then
      .error .alreadyRedeemed
    else if campaign.requiresNewUser && (t.users.any fun user => user.userId == userId) &&
        userId ∈ t.transactions then .error .newUsersOnly
    else .ok campaign

/-- `normalizeEmail`: the part before the `@` without a `+tag`, and for Gmail without dots. -/
def normalizeEmail (email : Email) : Option Email :=
  let backwards := email.reverse
  let domain := (backwards.takeWhile (· ≠ '@')).reverse
  let rest := backwards.dropWhile (· ≠ '@')
  let address := (rest.drop 1).reverse
  if rest = [] ∨ address = [] ∨ domain = [] then none
  else
    let untagged := address.takeWhile (· ≠ '+')
    let domain := if domain = "googlemail.com".toList then "gmail.com".toList else domain
    let name := if domain = "gmail.com".toList then untagged.filter (· ≠ '.') else untagged
    if name = [] then none else some (name ++ '@' :: domain)

/-- Why `redeemPromoCode` gave nothing. -/
inductive RedeemRefusal
  | promo (code : PromoRefusalCode)
  | giftsUnavailable
  | noLetters
  | seedEmailAlreadyUsed
  | verifiedEmailRequired
  | emailCollision
  /-- A unique index or a CHECK. -/
  | thrown
  deriving DecidableEq

/-- `ensureAccountRowWithClient`: an account with no row needs an address no other account has. -/
def ensureAccountRow (users : List User) (userId : UserId) (email : Option Email) : Except RedeemRefusal (List User) :=
  if users.any fun user => user.userId == userId then .ok users
  else
    match email with
    | none => .error .verifiedEmailRequired
    | some email =>
      if users.any fun user => user.email == email then .error .emailCollision else .ok (users ++ [{ userId, email }])

structure RedeemPromoResult where
  credits : Nat
  giftLetters : Option Nat
  expiresAt : Option Time
  deriving DecidableEq

/-- When the credits of a campaign redeemed now expire. -/
def promoExpiresAt (now : Time) (campaign : PromoCampaign) : Option Time :=
  match campaign.expirationPolicy with
  | .fixedDate => campaign.fixedExpirationDate
  | .daysFromActivation => (campaign.expirationDays.filter (· ≠ 0)).map fun n => now + days n
  | .never => none

/-- The transaction of `redeemPromoCode`: the claim is counted first, and only below the cap. -/
def grantRedemption (now : Time) (t : PromoTables) (campaign : PromoCampaign) (userId : UserId)
    (email emailNormalized : Option Email) : Except RedeemRefusal (PromoTables × RedeemPromoResult) :=
  if campaign.status ≠ .active ∨ campaign.maxTotalRedemptions.any fun cap => cap ≤ campaign.currentRedemptions then
    .error (.promo .limitReached)
  else
    let isSeed := isSeedCampaign campaign
    let grantsCredits := !isSeed || 0 < campaign.creditsAmount
    match ensureAccountRow t.users userId email with
    | .error refusal => .error refusal
    | .ok users =>
      let newGift := isSeed && (campaign.campaignId, userId) ∉ t.seedGifts
      if !grantsCredits && !newGift then .error .thrown
      else if t.redemptions.any fun row => row.campaignId == campaign.campaignId && row.userId == userId then
        .error .thrown
      else if emailNormalized.isSome && t.redemptions.any fun row =>
          row.campaignId == campaign.campaignId && row.emailNormalized == emailNormalized then
        .error .seedEmailAlreadyUsed
      else .ok
        ({ t with
            campaigns := t.campaigns.put { campaign with currentRedemptions := campaign.currentRedemptions + 1 }
            users
            transactions := if grantsCredits then userId :: t.transactions else t.transactions
            seedGifts := if newGift then (campaign.campaignId, userId) :: t.seedGifts else t.seedGifts
            redemptions := { campaignId := campaign.campaignId, userId, emailNormalized } :: t.redemptions },
          { credits := if grantsCredits then campaign.creditsAmount else 0
            giftLetters := if isSeed then some (if newGift then 1 else 0) else none
            expiresAt := promoExpiresAt now campaign })

def redeemPromoCode (cfg : Config) (now : Time) (t : PromoTables) (userId : UserId) (email : Option Email)
    (text : List Char) : Except RedeemRefusal (PromoTables × RedeemPromoResult) :=
  match validatePromoCode now t text userId with
  | .error code => .error (.promo code)
  | .ok campaign =>
    let isSeed := isSeedCampaign campaign
    let emailNormalized := if isSeed then email.bind normalizeEmail else none
    if isSeed && !cfg.giftLettersEnabled then .error .giftsUnavailable
    else if !isSeed && campaign.creditsAmount = 0 then .error .noLetters
    else if emailNormalized.isSome && t.redemptions.any fun row =>
        row.campaignId == campaign.campaignId && row.emailNormalized == emailNormalized then
      .error .seedEmailAlreadyUsed
    else grantRedemption now t campaign userId email emailNormalized

/-! When the two agree. -/

variable {cfg : Config} {now : Time} {t : PromoTables} {typed : TypedCode} {row : PromoCampaign} {userId : UserId}
  {email : Option Email}

/-- An account nothing was done with yet, by a person whose address claimed nothing of the campaign. -/
structure NewAccount (t : PromoTables) (row : PromoCampaign) (userId : UserId) (email : Option Email) : Prop where
  unredeemed : ∀ redemption ∈ t.redemptions, redemption.userId ≠ userId
  unused : userId ∉ t.transactions
  unclaimed : ∀ redemption ∈ t.redemptions, redemption.campaignId = row.campaignId →
    ∀ address, email.bind normalizeEmail = some address → redemption.emailNormalized ≠ some address
  ungifted : (row.campaignId, userId) ∉ t.seedGifts
  opens : ∃ users, ensureAccountRow t.users userId email = .ok users

/-- The campaign is live, begun and below its cap, and gift letters are on. -/
structure Claimable (cfg : Config) (now : Time) (row : PromoCampaign) : Prop where
  enabled : cfg.giftLettersEnabled = true
  live : row.status = .active
  begun : row.startsAt ≤ now
  below : ∀ cap, row.maxTotalRedemptions = some cap → row.currentRedemptions < cap

/-- The lookup says the seed code can be claimed. -/
def PublicGiftCodeLookup.seedUsable (lookup : PublicGiftCodeLookup) : Bool := lookup.valid && lookup.kind == some .seed

theorem seedCodeHold_none (row : PromoCampaign) (now : Time) :
    seedCodeHold row now = none ↔ isSeedCampaign row = true ∧ row.status = .active ∧ row.startsAt ≤ now ∧
      (∀ cap, row.maxTotalRedemptions = some cap → row.currentRedemptions < cap) ∧
      ∀ end_, row.endsAt = some end_ → now < end_ := by
  have ends : row.endsAt.any (· ≤ now) = false ↔ ∀ end_, row.endsAt = some end_ → now < end_ := by
    cases row.endsAt <;> simp
  have caps : (row.maxTotalRedemptions.any fun cap => !decide (row.currentRedemptions < cap)) = false ↔
      ∀ cap, row.maxTotalRedemptions = some cap → row.currentRedemptions < cap := by
    cases row.maxTotalRedemptions <;> simp
  rw [← ends, ← caps, isSeedCampaign]
  unfold seedCodeHold
  cases row.giftGenerationsRemaining with
  | none => simp
  | some remaining =>
    by_cases live : row.status = .active
    · by_cases early : now < row.startsAt
      · simp [live, early]
      · cases row.endsAt.any (· ≤ now)
        · simp [live, early, Nat.le_of_not_lt early]
        · simp [live, early]
    · simp [live]

/-- Nobody's claim of the campaign has the new account's address. -/
theorem claim_free (account : NewAccount t row userId email) :
    ((email.bind normalizeEmail).isSome && t.redemptions.any fun redemption =>
      redemption.campaignId == row.campaignId && redemption.emailNormalized == email.bind normalizeEmail) = false := by
  cases claim : email.bind normalizeEmail with
  | none => rfl
  | some address =>
    refine List.any_eq_false.mpr fun redemption member => ?_
    by_cases same : redemption.campaignId = row.campaignId
    · simp [account.unclaimed redemption member same address claim]
    · simp [same]

/-- The lookup answers for the campaign, not for a chain code its text also reads as. -/
structure Reached (t : PromoTables) (typed : TypedCode) : Prop where
  text : typed.text ≠ []
  unchained : typed.chain.bind t.gifts.giftCodes.find = none

/-- The lookup's answer: before its end. -/
theorem lookup_usable (found : getCampaignByCode t typed.text = some row) (seed : isSeedCampaign row = true) :
    (lookupGiftCodePublic cfg now t typed).seedUsable = true ↔
      Claimable cfg now row ∧ Reached t typed ∧ ∀ end_, row.endsAt = some end_ → now < end_ := by
  have printed := seedCodeHold_none row now
  unfold lookupGiftCodePublic
  split
  · rename_i off
    refine iff_of_false (by simp [PublicGiftCodeLookup.seedUsable]) fun usable => ?_
    rw [usable.1.enabled] at off
    cases off
  · rename_i on
    have enabled : cfg.giftLettersEnabled = true := by simpa using on
    split
    · rename_i code chained
      refine iff_of_false ?_ fun usable => ?_
      · split <;> simp [PublicGiftCodeLookup.seedUsable]
      · rw [usable.2.1.unchained] at chained
        cases chained
    · rename_i unchained
      split
      · rename_i empty
        exact iff_of_false (by simp [PublicGiftCodeLookup.seedUsable]) fun usable => usable.2.1.text empty
      · rename_i text
        simp only [found]
        cases hold : seedCodeHold row now with
        | none =>
          obtain ⟨-, live, begun, below, open_⟩ := printed.mp hold
          exact iff_of_true rfl ⟨⟨enabled, live, begun, below⟩, ⟨text, unchained⟩, open_⟩
        | some reason =>
          refine iff_of_false ?_ fun usable => ?_
          · cases reason <;> simp [PublicGiftCodeLookup.seedUsable]
          · obtain ⟨claimable, -, open_⟩ := usable
            rw [printed.mpr ⟨seed, claimable.live, claimable.begun, claimable.below, open_⟩] at hold
            cases hold

theorem validatePromoCode_new (now : Time) (found : getCampaignByCode t typed.text = some row)
    (account : NewAccount t row userId email) :
    validatePromoCode now t typed.text userId = .ok row ↔
      row.status = .active ∧ row.startsAt ≤ now ∧ (∀ end_, row.endsAt = some end_ → now ≤ end_) ∧
        (∀ cap, row.maxTotalRedemptions = some cap → cap = 0 ∨ row.currentRedemptions < cap) ∧ 0 < row.maxPerUser := by
  have none : (t.redemptions.filter fun redemption =>
      redemption.campaignId == row.campaignId && redemption.userId == userId) = [] := by
    refine List.filter_eq_nil_iff.mpr fun redemption member => ?_
    simp [account.unredeemed redemption member]
  have ends : row.endsAt.any (· < now) = false ↔ ∀ end_, row.endsAt = some end_ → now ≤ end_ := by
    cases row.endsAt <;> simp
  have caps : (row.maxTotalRedemptions.any fun cap => cap ≠ 0 && cap ≤ row.currentRedemptions) = false ↔
      ∀ cap, row.maxTotalRedemptions = some cap → cap = 0 ∨ row.currentRedemptions < cap := by
    cases row.maxTotalRedemptions with
    | none => simp
    | some cap => by_cases zero : cap = 0 <;> simp [zero]
  rw [← ends, ← caps]
  unfold validatePromoCode
  simp only [found, none, List.length_nil, Nat.cast_zero]
  by_cases live : row.status = .active
  · by_cases early : now < row.startsAt
    · simp [live, early]
    · cases row.endsAt.any (· < now)
      · cases row.maxTotalRedemptions.any fun cap => cap ≠ 0 && cap ≤ row.currentRedemptions
        · by_cases some_ : row.maxPerUser ≤ 0
          · simp [live, early, some_]
          · simp [live, early, some_, account.unused, Int.lt_of_not_ge some_, Nat.le_of_not_lt early]
        · simp [live, early]
      · simp [live, early]
  · simp [live]

/-- A new account's redemption commits wherever the campaign is live and below its cap. -/
theorem grantRedemption_new (now : Time) (seed : isSeedCampaign row = true) (account : NewAccount t row userId email) :
    (∃ done, grantRedemption now t row userId email (email.bind normalizeEmail) = .ok done) ↔
      row.status = .active ∧ ∀ cap, row.maxTotalRedemptions = some cap → row.currentRedemptions < cap := by
  obtain ⟨users, opened⟩ := account.opens
  have caps : (row.maxTotalRedemptions.any fun cap => cap ≤ row.currentRedemptions) = false ↔
      ∀ cap, row.maxTotalRedemptions = some cap → row.currentRedemptions < cap := by
    cases row.maxTotalRedemptions <;> simp
  have unredeemed : (t.redemptions.any fun redemption =>
      redemption.campaignId == row.campaignId && redemption.userId == userId) = false := by
    refine List.any_eq_false.mpr fun redemption member => ?_
    simp [account.unredeemed redemption member]
  have unclaimed := claim_free account
  rw [← caps]
  unfold grantRedemption
  by_cases live : row.status = .active
  · cases row.maxTotalRedemptions.any fun cap => cap ≤ row.currentRedemptions
    · simp only [live, seed, opened, account.ungifted, unredeemed, unclaimed]
      simp
    · simp [live]
  · simp [live]

/-- Redemption's answer to a new account: up to and including its end, if anyone may redeem at all. -/
theorem redeem_accepts (found : getCampaignByCode t typed.text = some row) (seed : isSeedCampaign row = true)
    (account : NewAccount t row userId email) :
    (∃ done, redeemPromoCode cfg now t userId email typed.text = .ok done) ↔
      Claimable cfg now row ∧ 0 < row.maxPerUser ∧ ∀ end_, row.endsAt = some end_ → now ≤ end_ := by
  have validates := validatePromoCode_new now found account
  have grants := grantRedemption_new now seed account
  constructor
  · rintro ⟨done, redeemed⟩
    unfold redeemPromoCode at redeemed
    split at redeemed
    · cases redeemed
    · rename_i campaign validated
      have same : campaign = row := by
        unfold validatePromoCode at validated
        rw [found] at validated
        dsimp only at validated
        repeat' split at validated
        all_goals first
          | exact (Except.ok.inj validated).symm
          | cases validated
      subst same
      obtain ⟨live, begun, open_, -, some_⟩ := validates.mp validated
      simp only [seed, Bool.true_and, if_true] at redeemed
      split at redeemed
      · cases redeemed
      · rename_i on
        split at redeemed
        · cases redeemed
        · split at redeemed
          · cases redeemed
          · exact ⟨⟨by simpa using on, live, begun, (grants.mp ⟨done, redeemed⟩).2⟩, some_, open_⟩
  · rintro ⟨claimable, some_, open_⟩
    obtain ⟨done, granted⟩ := grants.mpr ⟨claimable.live, claimable.below⟩
    have validated := validates.mpr ⟨claimable.live, claimable.begun, open_,
      fun cap capped => .inr (claimable.below cap capped), some_⟩
    refine ⟨done, ?_⟩
    unfold redeemPromoCode
    rw [validated]
    simp only [seed, claimable.enabled, claim_free account, if_true, Bool.not_true, Bool.and_false, Bool.false_and,
      Bool.false_eq_true, if_false]
    exact granted

/-- Where the two part: redemption accepts at the exact end, and refuses everyone where no account
may redeem; and the lookup does not reach a campaign whose text is a chain code's. -/
def SeedCodeParts (cfg : Config) (now : Time) (t : PromoTables) (typed : TypedCode) (row : PromoCampaign) : Prop :=
  Claimable cfg now row ∧
    (0 < row.maxPerUser ∧ row.endsAt = some now ∨
      0 < row.maxPerUser ∧ ¬Reached t typed ∧ (∀ end_, row.endsAt = some end_ → now < end_) ∨
      row.maxPerUser ≤ 0 ∧ Reached t typed ∧ ∀ end_, row.endsAt = some end_ → now < end_)

/-- For every seed campaign, new account and instant, and whatever its cap: the printed code's lookup
and its redemption agree exactly where they do not part. -/
theorem seed_code_agreement (found : getCampaignByCode t typed.text = some row) (seed : isSeedCampaign row = true)
    (account : NewAccount t row userId email) :
    ((lookupGiftCodePublic cfg now t typed).seedUsable = true ↔
        ∃ done, redeemPromoCode cfg now t userId email typed.text = .ok done) ↔
      ¬SeedCodeParts cfg now t typed row := by
  rw [lookup_usable found seed, redeem_accepts found seed account]
  have ends : (∀ end_, row.endsAt = some end_ → now ≤ end_) ↔
      (∀ end_, row.endsAt = some end_ → now < end_) ∨ row.endsAt = some now := by
    cases row.endsAt with
    | none => simp
    | some end_ => simp [Nat.le_iff_lt_or_eq, eq_comm]
  have exact_ : row.endsAt = some now → ¬∀ end_, row.endsAt = some end_ → now < end_ :=
    fun at_ open_ => lt_irrefl _ (open_ now at_)
  rw [ends]
  unfold SeedCodeParts
  have anyone : row.maxPerUser ≤ 0 ↔ ¬0 < row.maxPerUser := Int.not_lt.symm
  rw [anyone]
  by_cases claimable : Claimable cfg now row
  · tauto
  · tauto

/-- A campaign with a gift letter to grant, until instant 100. -/
def seedUntil100 : PromoTables :=
  { campaigns := Table.empty.insert
      { campaignId := 1, code := ['S', 'E', 'E', 'D'], startsAt := 0, endsAt := some 100, status := .active,
        giftGenerationsRemaining := some 4 } List.not_mem_nil }

theorem seedUntil100_new : NewAccount seedUntil100
    { campaignId := 1, code := ['S', 'E', 'E', 'D'], startsAt := 0, endsAt := some 100, status := .active,
      giftGenerationsRemaining := some 4 } 7 (some "a@b.c".toList) where
  unredeemed _ member := absurd member List.not_mem_nil
  unused := List.not_mem_nil
  unclaimed _ member := absurd member List.not_mem_nil
  ungifted := List.not_mem_nil
  opens := ⟨_, rfl⟩

/-- Before its end they agree. -/
theorem seed_code_agreement_before :
    (lookupGiftCodePublic { giftLettersEnabled := true } 99 seedUntil100 { text := ['S', 'E', 'E', 'D'] }).seedUsable =
        true ↔
      ∃ done, redeemPromoCode { giftLettersEnabled := true } 99 seedUntil100 7 (some "a@b.c".toList)
        ['S', 'E', 'E', 'D'] = .ok done := by
  refine Iff.mpr (seed_code_agreement rfl rfl seedUntil100_new) ?_
  rintro ⟨-, ⟨-, at_⟩ | ⟨-, unreached, -⟩ | ⟨none, -⟩⟩
  · cases at_
  · exact unreached ⟨by decide, rfl⟩
  · exact absurd none (by decide)

/-- At the instant it ends the lookup calls it over, and redemption accepts it. -/
theorem seed_code_ends :
    (lookupGiftCodePublic { giftLettersEnabled := true } 100 seedUntil100 { text := ['S', 'E', 'E', 'D'] }).seedUsable =
        false ∧
      ∃ done, redeemPromoCode { giftLettersEnabled := true } 100 seedUntil100 7 (some "a@b.c".toList)
        ['S', 'E', 'E', 'D'] = .ok done :=
  ⟨rfl, _, rfl⟩

end LetterIRL.Gift
