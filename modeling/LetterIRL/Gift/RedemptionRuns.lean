import LetterIRL.Gift.Redemptions

namespace LetterIRL.Gift
open Lib Commerce
variable {cfg : Config} {now : Time} {store store' : PromoStore} {userId : UserId} {email emailNormalized : Option Email}
  {campaign : PromoCampaign} {expiresAt : Option Time} {s s' : PromoDesk} {event : PromoEvent} {call : RedeemCall}

/-! What one redemption writes. -/

/-- The transaction counted the claim below the cap, and no row it adds was there. -/
structure Granted (store store' : PromoStore) (userId : UserId) (email : Option Email) (campaign : PromoCampaign)
    (emailNormalized : Option Email) (current : PromoCampaign) : Prop where
  found : store.campaigns.find campaign.campaignId = some current
  below : ∀ cap, current.maxTotalRedemptions = some cap → current.currentRedemptions < cap
  campaigns : store'.campaigns =
    store.campaigns.put { current with currentRedemptions := current.currentRedemptions + 1 }
  users : ensureAccountRow store.users userId email = .ok store'.users
  transactions : store'.transactions = if grantsCredits campaign then userId :: store.transactions else store.transactions
  redemptions : store'.redemptions = { campaignId := campaign.campaignId, userId, emailNormalized } :: store.redemptions
  unredeemed : ∀ row ∈ store.redemptions, row.campaignId = campaign.campaignId → row.userId ≠ userId
  unclaimed : ∀ row ∈ store.redemptions, row.campaignId = campaign.campaignId →
    ∀ address, emailNormalized = some address → row.emailNormalized ≠ some address

/-- The grant itself counts nothing and records no redemption. -/
theorem grantLetters_kept (store : PromoStore) (userId : UserId) (campaign : PromoCampaign) (expiresAt : Option Time) :
    (grantLetters store userId campaign expiresAt).1.campaigns = store.campaigns ∧
      (grantLetters store userId campaign expiresAt).1.users = store.users ∧
      (grantLetters store userId campaign expiresAt).1.redemptions = store.redemptions ∧
      (grantLetters store userId campaign expiresAt).1.transactions =
        if grantsCredits campaign then userId :: store.transactions else store.transactions := by
  have tables := (grantLetters_eq store userId campaign expiresAt).1
  exact ⟨congrArg (·.campaigns) tables, congrArg (·.users) tables, congrArg (·.redemptions) tables,
    congrArg (·.transactions) tables⟩

theorem recordRedemption_ok {row : PromoRedemption} {something : Bool}
    (recorded : recordRedemption store row something = .ok store') :
    store' = { store with redemptions := row :: store.redemptions } ∧
      (∀ other ∈ store.redemptions, other.campaignId = row.campaignId → other.userId ≠ row.userId) ∧
      ∀ other ∈ store.redemptions, other.campaignId = row.campaignId →
        ∀ address, row.emailNormalized = some address → other.emailNormalized ≠ some address := by
  unfold recordRedemption at recorded
  split at recorded
  · cases recorded
  · split at recorded
    · cases recorded
    · rename_i unredeemed
      split at recorded
      · cases recorded
      · rename_i unclaimed
        have none := List.any_eq_false.mp ((Bool.not_eq_true _).mp unredeemed)
        refine ⟨(Except.ok.inj recorded).symm, fun other member same user => ?_, fun other member same address claimed taken => ?_⟩
        · exact none other member (by simp [same, user])
        · rw [claimed, Option.isSome_some, Bool.true_and] at unclaimed
          exact List.any_eq_false.mp ((Bool.not_eq_true _).mp unclaimed) other member (by simp [same, taken])

/-- A redemption's transaction leaves the tables as they were and answers a refusal, or it grants. -/
theorem transaction_cases (store : PromoStore) (userId : UserId) (email : Option Email) (campaign : PromoCampaign)
    (emailNormalized : Option Email) (expiresAt : Option Time) :
    (∃ refusal, transaction store (redeemWithClient store userId email campaign emailNormalized expiresAt) =
      (store, .error refusal)) ∨
    ∃ store' result current,
      transaction store (redeemWithClient store userId email campaign emailNormalized expiresAt) = (store', .ok result) ∧
      Granted store store' userId email campaign emailNormalized current := by
  unfold redeemWithClient
  split
  · exact .inl ⟨_, rfl⟩
  · rename_i current found
    split
    · exact .inl ⟨_, rfl⟩
    · rename_i open_
      obtain ⟨-, below⟩ := not_or.mp open_
      dsimp only
      split
      · exact .inl ⟨_, rfl⟩
      · rename_i users opened
        split
        · exact .inl ⟨_, rfl⟩
        · rename_i written recorded
          obtain ⟨wrote, unredeemed, unclaimed⟩ := recordRedemption_ok recorded
          have below' : ∀ cap, current.maxTotalRedemptions = some cap → current.currentRedemptions < cap := by
            intro cap capped
            rw [capped] at below
            simpa using below
          obtain ⟨campaigns, accounts, redemptions, transactions⟩ := grantLetters_kept (_ : PromoStore) userId campaign expiresAt
          rw [redemptions] at unredeemed unclaimed
          refine .inr ⟨written, _, current, rfl, found, below', ?_, ?_, ?_, ?_, unredeemed, unclaimed⟩
          all_goals subst wrote
          · exact campaigns
          · exact opened.trans (congrArg Except.ok accounts.symm)
          · exact transactions
          · rw [redemptions]

/-! The rules of a campaign, over every run. -/

def byCampaign (campaignId : CampaignId) (row : PromoRedemption) : Bool := row.campaignId = campaignId

def byAccount (campaignId : CampaignId) (userId : UserId) (row : PromoRedemption) : Bool :=
  row.campaignId = campaignId ∧ row.userId = userId

def byAddress (campaignId : CampaignId) (address : Email) (row : PromoRedemption) : Bool :=
  row.campaignId = campaignId ∧ row.emailNormalized = some address

structure PromoRules (store : PromoStore) : Prop where
  counted : ∀ campaign ∈ store.campaigns.rows,
    campaign.currentRedemptions = store.redemptions.countP (byCampaign campaign.campaignId)
  capped : ∀ campaign ∈ store.campaigns.rows, ∀ cap, campaign.maxTotalRedemptions = some cap →
    campaign.currentRedemptions ≤ cap
  perUser : ∀ campaign ∈ store.campaigns.rows, ∀ userId,
    (store.redemptions.countP (byAccount campaign.campaignId userId) : Int) ≤ campaign.maxPerUser
  perAddress : ∀ campaign ∈ store.campaigns.rows, isSeedCampaign campaign = true → ∀ address,
    store.redemptions.countP (byAddress campaign.campaignId address) ≤ 1

/-- The rules as the indexes and the row lock keep them, with what redemptions of a later campaign rest on. -/
structure Tallied (store : PromoStore) : Prop where
  counted : ∀ campaign ∈ store.campaigns.rows,
    campaign.currentRedemptions = store.redemptions.countP (byCampaign campaign.campaignId)
  capped : ∀ campaign ∈ store.campaigns.rows, ∀ cap, campaign.maxTotalRedemptions = some cap →
    campaign.currentRedemptions ≤ cap
  some_ : ∀ campaign ∈ store.campaigns.rows, 1 ≤ campaign.maxPerUser
  once : ∀ campaignId userId, store.redemptions.countP (byAccount campaignId userId) ≤ 1
  claimed : ∀ campaignId address, store.redemptions.countP (byAddress campaignId address) ≤ 1
  listed : ∀ row ∈ store.redemptions, row.campaignId ∈ store.campaigns.rows.map PromoCampaign.campaignId
  /-- `credit_transactions.user_id` references the account. -/
  known : ∀ userId ∈ store.transactions, ∃ user ∈ store.users, user.userId = userId

theorem Tallied.rules (tallied : Tallied store) : PromoRules store where
  counted := tallied.counted
  capped := tallied.capped
  perUser := by
    intro campaign member userId
    have once := tallied.once campaign.campaignId userId
    have some_ := tallied.some_ campaign member
    omega
  perAddress := fun campaign _ _ address => tallied.claimed campaign.campaignId address

theorem countP_none {selected : PromoRedemption → Bool} {rows : List PromoRedemption} {row : PromoRedemption}
    (atMost : rows.countP selected ≤ 1) (absent : selected row = true → ∀ other ∈ rows, selected other = false) :
    (row :: rows).countP selected ≤ 1 := by
  rw [List.countP_cons]
  by_cases here : selected row = true
  · have none : rows.countP selected = 0 := List.countP_eq_zero.mpr fun other member => by
      simp [absent here other member]
    rw [if_pos here, none]
  · rw [if_neg here]
    exact atMost

theorem ensureAccountRow_keeps {users after : List User} (opened : ensureAccountRow users userId email = .ok after) :
    (∀ user ∈ users, user ∈ after) ∧ ∃ user ∈ after, user.userId = userId := by
  unfold ensureAccountRow at opened
  split at opened
  · rename_i here
    cases opened
    obtain ⟨user, member, same⟩ := List.any_eq_true.mp here
    exact ⟨fun _ member => member, user, member, by simpa using same⟩
  · split at opened
    · cases opened
    · split at opened
      · cases opened
      · cases opened
        exact ⟨fun user member => List.mem_append_left _ member, _, List.mem_append_right _ (List.mem_singleton.mpr rfl),
          rfl⟩

theorem known_opened {users after : List User} {transactions : List UserId}
    (known : ∀ userId ∈ transactions, ∃ user ∈ users, user.userId = userId)
    (opened : ensureAccountRow users userId email = .ok after) :
    ∀ other ∈ userId :: transactions, ∃ user ∈ after, user.userId = other := by
  obtain ⟨kept, self⟩ := ensureAccountRow_keeps opened
  intro other member
  rcases List.mem_cons.mp member with rfl | old
  · exact self
  · obtain ⟨user, there, same⟩ := known other old
    exact ⟨user, kept user there, same⟩

theorem Tallied.granted {current : PromoCampaign} (tallied : Tallied store)
    (granted : Granted store store' userId email campaign emailNormalized current) : Tallied store' := by
  obtain ⟨inTable, sameId⟩ := Table.find_eq_some.mp granted.found
  have count (row : PromoCampaign) : store'.redemptions.countP (byCampaign row.campaignId) =
      store.redemptions.countP (byCampaign row.campaignId) + if row.campaignId = campaign.campaignId then 1 else 0 := by
    rw [granted.redemptions, List.countP_cons]
    by_cases same : row.campaignId = campaign.campaignId
    · simp [byCampaign, same]
    · simp [byCampaign, same, Ne.symm same]
  have rows : ∀ row ∈ store'.campaigns.rows,
      (row ∈ store.campaigns.rows ∧ row.campaignId ≠ campaign.campaignId) ∨
        row = { current with currentRedemptions := current.currentRedemptions + 1 } := by
    intro row member
    rw [granted.campaigns] at member
    rcases Table.mem_put.mp member with ⟨old, differ⟩ | ⟨new, -⟩
    · exact .inl ⟨old, by rw [← sameId]; exact differ⟩
    · exact .inr new
  refine ⟨?_, ?_, ?_, ?_, ?_, ?_, ?_⟩
  · intro row member
    rw [count]
    rcases rows row member with ⟨old, differ⟩ | rfl
    · rw [if_neg differ]
      exact tallied.counted row old
    · have before := tallied.counted current inTable
      rw [if_pos sameId]
      show current.currentRedemptions + 1 = _
      push_cast
      omega
  · intro row member cap capped
    rcases rows row member with ⟨old, -⟩ | rfl
    · exact tallied.capped row old cap capped
    · exact granted.below cap capped
  · intro row member
    rcases rows row member with ⟨old, -⟩ | rfl
    · exact tallied.some_ row old
    · exact tallied.some_ current inTable
  · intro campaignId user
    rw [granted.redemptions]
    refine countP_none (tallied.once campaignId user) fun here other member => ?_
    simp only [byAccount, decide_eq_true_eq] at here
    have differ := granted.unredeemed other member
    simp only [byAccount, decide_eq_false_iff_not, not_and]
    exact fun same => here.2 ▸ differ (same.trans here.1.symm)
  · intro campaignId address
    rw [granted.redemptions]
    refine countP_none (tallied.claimed campaignId address) fun here other member => ?_
    simp only [byAddress, decide_eq_true_eq] at here
    simp only [byAddress, decide_eq_false_iff_not, not_and]
    exact fun same => granted.unclaimed other member (same.trans here.1.symm) address here.2
  · intro row member
    rw [granted.campaigns, Table.put_keys]
    rw [granted.redemptions] at member
    rcases List.mem_cons.mp member with rfl | old
    · exact List.mem_map.mpr ⟨current, inTable, sameId⟩
    · exact tallied.listed row old
  · have known := known_opened tallied.known granted.users
    rw [granted.transactions]
    by_cases credits : grantsCredits campaign = true
    · rw [if_pos credits]
      exact known
    · rw [if_neg credits]
      exact fun other member => known other (List.mem_cons_of_mem _ member)

/-! A call in flight. -/

/-- Once decided, an account it took for new has a transaction exactly where it was overtaken. -/
structure Followed (store : PromoStore) (call : RedeemCall) : Prop where
  early : call.phase.early = true → call.overtaken = false
  decided : call.phase.decided = true → ∀ campaign, call.phase.campaign = some campaign →
    campaign.requiresNewUser = true → (call.userId ∈ store.transactions ↔ call.overtaken = true)
  snapshot : ∀ campaign, call.phase.campaign = some campaign → ∃ current ∈ store.campaigns.rows,
    current.campaignId = campaign.campaignId ∧ current.requiresNewUser = campaign.requiresNewUser

/-- No campaign is lost or changes whom it is for. -/
def Carries (store store' : PromoStore) : Prop :=
  ∀ row ∈ store.campaigns.rows, ∃ after ∈ store'.campaigns.rows,
    after.campaignId = row.campaignId ∧ after.requiresNewUser = row.requiresNewUser

theorem Carries.of_eq (same : store'.campaigns = store.campaigns) : Carries store store' :=
  fun row member => ⟨row, same ▸ member, rfl, rfl⟩

theorem Carries.put {row after : PromoCampaign} (found : store.campaigns.find row.campaignId = some row)
    (sameId : after.campaignId = row.campaignId) (same : after.requiresNewUser = row.requiresNewUser)
    (wrote : store'.campaigns = store.campaigns.put after) : Carries store store' := by
  intro other member
  rw [wrote]
  by_cases here : other.campaignId = after.campaignId
  · have this : other = row := by
      have there := Table.find_of_mem member
      rw [here, sameId, found] at there
      exact (Option.some.inj there).symm
    subst this
    exact ⟨after, Table.mem_put.mpr (.inr ⟨rfl, other, member, here⟩), sameId, same⟩
  · exact ⟨other, Table.mem_put.mpr (.inl ⟨member, here⟩), rfl, rfl⟩

theorem Granted.carries {current : PromoCampaign}
    (granted : Granted store store' userId email campaign emailNormalized current) : Carries store store' := by
  have sameId := Table.find_key granted.found
  have found : store.campaigns.find current.campaignId = some current := by
    rw [sameId]
    exact granted.found
  exact Carries.put found (by rfl) (by rfl) granted.campaigns

theorem Followed.carried (followed : Followed store call) (carries : Carries store store')
    (same : store'.transactions = store.transactions) : Followed store' call where
  early := followed.early
  decided := fun decided campaign read new => same ▸ followed.decided decided campaign read new
  snapshot := by
    intro campaign read
    obtain ⟨current, member, sameId, sameNew⟩ := followed.snapshot campaign read
    obtain ⟨after, there, afterId, afterNew⟩ := carries current member
    exact ⟨after, there, afterId.trans sameId, afterNew.trans sameNew⟩

theorem overtakenBy_phase (userId : UserId) (call : RedeemCall) : (call.overtakenBy userId).phase = call.phase := by
  unfold RedeemCall.overtakenBy
  split <;> rfl

theorem overtakenBy_userId (userId : UserId) (call : RedeemCall) : (call.overtakenBy userId).userId = call.userId := by
  unfold RedeemCall.overtakenBy
  split <;> rfl

theorem undecided_of_early {phase : RedeemPhase} (early : phase.early = true) : phase.decided = false := by
  cases phase <;> first | rfl | cases early

/-- A transaction of the account commits. -/
theorem Followed.overtaken (followed : Followed store call) (carries : Carries store store')
    (recorded : store'.transactions = userId :: store.transactions) : Followed store' (call.overtakenBy userId) where
  early := by
    intro early
    rw [overtakenBy_phase] at early
    have undecided := undecided_of_early early
    unfold RedeemCall.overtakenBy
    rw [if_neg (by simp [undecided])]
    exact followed.early early
  decided := by
    intro decided campaign read new
    rw [overtakenBy_phase] at decided read
    rw [overtakenBy_userId, recorded, List.mem_cons]
    have before := followed.decided decided campaign read new
    unfold RedeemCall.overtakenBy
    by_cases same : call.userId = userId
    · rw [if_pos ⟨same, decided⟩]
      exact ⟨fun _ => rfl, fun _ => .inl same⟩
    · rw [if_neg (fun both => same both.1)]
      exact ⟨fun here => before.mp (here.resolve_left same), fun here => .inr (before.mpr here)⟩
  snapshot := by
    intro campaign read
    rw [overtakenBy_phase] at read
    obtain ⟨current, member, sameId, sameNew⟩ := followed.snapshot campaign read
    obtain ⟨after, there, afterId, afterNew⟩ := carries current member
    exact ⟨after, there, afterId.trans sameId, afterNew.trans sameNew⟩

theorem Followed.ended {phase : RedeemPhase} (early : phase.early = false) (decided : phase.decided = false)
    (read : phase.campaign = none) : Followed store { call with phase } where
  early := fun here => by rw [show phase.early = true from here] at early; cases early
  decided := fun here => by rw [show phase.decided = true from here] at decided; cases decided
  snapshot := fun campaign here => by rw [show phase.campaign = some campaign from here] at read; cases read

theorem Followed.next {phase : RedeemPhase} (early : phase.early = true → call.overtaken = false)
    (decided : phase.decided = true → campaign.requiresNewUser = true →
      (call.userId ∈ store.transactions ↔ call.overtaken = true))
    (only : phase.campaign = some campaign) (listed : ∃ current ∈ store.campaigns.rows,
      current.campaignId = campaign.campaignId ∧ current.requiresNewUser = campaign.requiresNewUser) :
    Followed store { call with phase } where
  early := early
  decided := fun here other read new => by
    have same : phase.campaign = some other := read
    rw [only] at same
    cases same
    exact decided here new
  snapshot := fun other read => by
    have same : phase.campaign = some other := read
    rw [only] at same
    cases same
    exact listed

/-- What a statement that grants nothing leaves of its call. -/
structure Reads (store : PromoStore) (call : RedeemCall) (phase : RedeemPhase) : Prop where
  ungranted : ∀ result, phase ≠ .redeemed result
  followed : Followed store { call with phase }

theorem reads_refused (refusal : RedeemRefusal) : Reads store call (.refused refusal) :=
  ⟨fun _ same => RedeemPhase.noConfusion same, Followed.ended rfl rfl rfl⟩

theorem reads_early {phase : RedeemPhase} (free : call.overtaken = false) (early : phase.early = true)
    (only : phase.campaign = some campaign) (listed : ∃ current ∈ store.campaigns.rows,
      current.campaignId = campaign.campaignId ∧ current.requiresNewUser = campaign.requiresNewUser) :
    Reads store call phase := by
  refine ⟨fun result same => ?_, Followed.next (fun _ => free) (fun decided => ?_) only listed⟩
  · rw [same] at early
    cases early
  · rw [undecided_of_early early] at decided
    cases decided

theorem reads_validated (decided : campaign.requiresNewUser = true →
      (call.userId ∈ store.transactions ↔ call.overtaken = true))
    (listed : ∃ current ∈ store.campaigns.rows,
      current.campaignId = campaign.campaignId ∧ current.requiresNewUser = campaign.requiresNewUser) :
    Reads store call (.validated campaign) :=
  ⟨fun _ same => RedeemPhase.noConfusion same,
    Followed.next (fun none => by cases none) (fun _ => decided) rfl listed⟩

theorem reads_readCampaign (free : call.overtaken = false) :
    Reads store call (readCampaign now store.toPromoTables call.promoCode) := by
  unfold readCampaign
  split
  · exact reads_refused _
  · rename_i campaign found
    have member : campaign ∈ store.campaigns.rows := List.mem_of_find?_eq_some found
    repeat' split
    all_goals first
      | exact reads_refused _
      | exact reads_early free rfl rfl ⟨campaign, member, rfl, rfl⟩

theorem reads_readRedemptions (free : call.overtaken = false) (listed : ∃ current ∈ store.campaigns.rows,
      current.campaignId = campaign.campaignId ∧ current.requiresNewUser = campaign.requiresNewUser) :
    Reads store call (readRedemptions store.toPromoTables call.userId campaign) := by
  unfold readRedemptions
  split
  · exact reads_refused _
  · by_cases new : campaign.requiresNewUser = true
    · rw [if_pos new]
      exact reads_early free rfl rfl listed
    · rw [if_neg new]
      exact reads_validated (fun here => absurd here new) listed

/-- An account with no row has no transaction either. -/
theorem reads_readAccount (tallied : Tallied store) (free : call.overtaken = false)
    (listed : ∃ current ∈ store.campaigns.rows,
      current.campaignId = campaign.campaignId ∧ current.requiresNewUser = campaign.requiresNewUser) :
    Reads store call (readAccount store.toPromoTables call.userId campaign) := by
  unfold readAccount
  split
  · exact reads_early free rfl rfl listed
  · rename_i unknown
    have none : call.userId ∉ store.transactions := by
      intro here
      obtain ⟨user, member, same⟩ := tallied.known _ here
      exact unknown (List.any_eq_true.mpr ⟨user, member, by simpa using same⟩)
    exact reads_validated (fun _ => by simp [none, free]) listed

theorem reads_readTransactions (free : call.overtaken = false) (listed : ∃ current ∈ store.campaigns.rows,
      current.campaignId = campaign.campaignId ∧ current.requiresNewUser = campaign.requiresNewUser) :
    Reads store call (readTransactions store.toPromoTables call.userId campaign) := by
  unfold readTransactions
  split
  · exact reads_refused _
  · rename_i none
    exact reads_validated (fun _ => by simp [none, free]) listed

theorem reads_checkGrant (decided : campaign.requiresNewUser = true →
      (call.userId ∈ store.transactions ↔ call.overtaken = true))
    (listed : ∃ current ∈ store.campaigns.rows,
      current.campaignId = campaign.campaignId ∧ current.requiresNewUser = campaign.requiresNewUser) :
    Reads store call (checkGrant cfg now store.toPromoTables call.email campaign) := by
  unfold checkGrant
  dsimp only
  repeat' split
  all_goals first
    | exact reads_refused _
    | exact ⟨fun _ same => RedeemPhase.noConfusion same,
        Followed.next (fun none => by cases none) (fun _ => decided) rfl listed⟩

/-- A statement that grants nothing leaves the store, and its call still decided by what it read. -/
theorem proceed_cases {phase : RedeemPhase} (tallied : Tallied store) (followed : Followed store call)
    (went : call.proceed cfg now store = some (store', phase)) :
    (store' = store ∧ Reads store call phase) ∨
    ∃ campaign emailNormalized expiresAt current result,
      call.phase = .ready campaign emailNormalized expiresAt ∧ phase = .redeemed result ∧
      Granted store store' call.userId call.email campaign emailNormalized current := by
  have free {here : RedeemPhase} (at_ : call.phase = here) (early : here.early = true) : call.overtaken = false :=
    followed.early (at_ ▸ early)
  have listed {here : RedeemPhase} {campaign : PromoCampaign} (at_ : call.phase = here)
      (read : here.campaign = some campaign) := followed.snapshot campaign (at_ ▸ read)
  unfold RedeemCall.proceed at went
  split at went
  · rename_i at_
    obtain ⟨rfl, rfl⟩ := Prod.mk.inj (Option.some.inj went)
    exact .inl ⟨rfl, reads_readCampaign (free at_ rfl)⟩
  · rename_i campaign at_
    obtain ⟨rfl, rfl⟩ := Prod.mk.inj (Option.some.inj went)
    exact .inl ⟨rfl, reads_readRedemptions (free at_ rfl) (listed at_ rfl)⟩
  · rename_i campaign at_
    obtain ⟨rfl, rfl⟩ := Prod.mk.inj (Option.some.inj went)
    exact .inl ⟨rfl, reads_readAccount tallied (free at_ rfl) (listed at_ rfl)⟩
  · rename_i campaign at_
    obtain ⟨rfl, rfl⟩ := Prod.mk.inj (Option.some.inj went)
    exact .inl ⟨rfl, reads_readTransactions (free at_ rfl) (listed at_ rfl)⟩
  · rename_i campaign at_
    obtain ⟨rfl, rfl⟩ := Prod.mk.inj (Option.some.inj went)
    have decided := followed.decided (by rw [at_]; rfl) campaign (by rw [at_]; rfl)
    exact .inl ⟨rfl, reads_checkGrant decided (listed at_ rfl)⟩
  · rename_i campaign emailNormalized expiresAt at_
    dsimp only at went
    rcases transaction_cases store call.userId call.email campaign emailNormalized expiresAt with
      ⟨refusal, refused⟩ | ⟨written, result, current, answered, granted⟩
    · rw [refused] at went
      obtain ⟨rfl, rfl⟩ := Prod.mk.inj (Option.some.inj went)
      exact .inl ⟨rfl, reads_refused refusal⟩
    · rw [answered] at went
      obtain ⟨rfl, rfl⟩ := Prod.mk.inj (Option.some.inj went)
      exact .inr ⟨campaign, emailNormalized, expiresAt, current, result, at_, rfl, granted⟩
  · cases went
  · cases went

/-! Every run. -/

structure DeskSound (s : PromoDesk) : Prop where
  tallied : Tallied s.store
  followed : ∀ call ∈ s.calls, Followed s.store call

theorem DeskSound.calls (sound : DeskSound s) (tallied : Tallied store) (carries : Carries s.store store)
    (same : store.transactions = s.store.transactions) : DeskSound { s with store } where
  tallied := tallied
  followed := fun call member => (sound.followed call member).carried carries same

theorem DeskSound.step (sound : DeskSound s) (committed : promoStep cfg s event = .ok s') : DeskSound s' := by
  have tallied := sound.tallied
  have followed := sound.followed
  cases event with
  | tick elapsed => cases committed; exact ⟨tallied, followed⟩
  | createCampaign campaign =>
    simp only [promoStep] at committed
    split at committed
    · cases committed
    · rename_i valid
      split at committed
      · cases committed
      · split at committed
        · cases committed
        · rename_i fresh
          cases committed
          simp only [promoInputValid, Bool.not_eq_true', Bool.not_eq_false, Bool.and_eq_true, decide_eq_true_eq] at valid
          obtain ⟨⟨⟨⟨-, caps⟩, perUser, -⟩, -⟩, -⟩ := valid
          refine sound.calls ⟨?_, ?_, ?_, tallied.once, tallied.claimed, ?_, tallied.known⟩
            (fun row member => ⟨row, List.mem_append_left _ member, rfl, rfl⟩) rfl
          · intro row member
            rcases List.mem_append.mp member with old | new
            · exact tallied.counted row old
            · rw [List.mem_singleton.mp new]
              have none : s.store.redemptions.countP (byCampaign campaign.campaignId) = 0 :=
                List.countP_eq_zero.mpr fun other there => by
                  simp only [byCampaign, decide_eq_true_eq]
                  exact fun same => fresh (same ▸ tallied.listed other there)
              show (0 : Int) = _
              rw [none]
              rfl
          · intro row member cap capped
            rcases List.mem_append.mp member with old | new
            · exact tallied.capped row old cap capped
            · rw [List.mem_singleton.mp new] at capped ⊢
              have capped : campaign.maxTotalRedemptions = some cap := capped
              rw [capped] at caps
              simp only [Option.all_some, Bool.and_eq_true, decide_eq_true_eq] at caps
              show (0 : Int) ≤ cap
              omega
          · intro row member
            rcases List.mem_append.mp member with old | new
            · exact tallied.some_ row old
            · rw [List.mem_singleton.mp new]
              exact perUser
          · intro row member
            rw [Table.insert_rows, List.map_append]
            exact List.mem_append_left _ (tallied.listed row member)
  | transitionStatus campaignId status =>
    simp only [promoStep] at committed
    split at committed
    · cases committed
    · rename_i campaign found
      split at committed
      · cases committed
        obtain ⟨member, sameId⟩ := Table.find_eq_some.mp found
        have rows : ∀ row ∈ (s.store.campaigns.put { campaign with status }).rows,
            ∃ old ∈ s.store.campaigns.rows, row = { old with status := row.status } := by
          intro row there
          rcases Table.mem_put.mp there with ⟨old, -⟩ | ⟨rfl, -⟩
          · exact ⟨row, old, rfl⟩
          · exact ⟨campaign, member, rfl⟩
        refine sound.calls ⟨?_, ?_, ?_, tallied.once, tallied.claimed, ?_, tallied.known⟩
          (Carries.put (Table.find_of_mem member) (by rfl) (by rfl) rfl) rfl
        · intro row there
          obtain ⟨old, before, same⟩ := rows row there
          rw [same]
          exact tallied.counted old before
        · intro row there
          obtain ⟨old, before, same⟩ := rows row there
          rw [same]
          exact tallied.capped old before
        · intro row there
          obtain ⟨old, before, same⟩ := rows row there
          rw [same]
          exact tallied.some_ old before
        · intro row there
          rw [Table.put_keys]
          exact tallied.listed row there
      · cases committed
  | openAccount userId email =>
    simp only [promoStep] at committed
    split at committed
    · cases committed
    · rename_i users opened
      cases committed
      have known := known_opened tallied.known opened
      exact sound.calls ⟨tallied.counted, tallied.capped, tallied.some_, tallied.once, tallied.claimed, tallied.listed,
        fun other member => known other (List.mem_cons_of_mem _ member)⟩ (Carries.of_eq rfl) rfl
  | recordTransaction userId email =>
    simp only [promoStep] at committed
    split at committed
    · cases committed
    · rename_i users opened
      cases committed
      refine ⟨⟨tallied.counted, tallied.capped, tallied.some_, tallied.once, tallied.claimed, tallied.listed,
        known_opened tallied.known opened⟩, fun call member => ?_⟩
      obtain ⟨before, there, rfl⟩ := List.mem_map.mp member
      exact (followed before there).overtaken (Carries.of_eq rfl) rfl
  | redeem userId email promoCode =>
    cases committed
    refine ⟨tallied, fun call member => ?_⟩
    rcases List.mem_append.mp member with old | new
    · exact followed call old
    · rw [List.mem_singleton.mp new]
      exact ⟨fun _ => rfl, fun none => (by cases none), fun _ read => (by cases read)⟩
  | proceed index =>
    simp only [promoStep] at committed
    split at committed
    · cases committed
    · rename_i call found
      split at committed
      · cases committed
      · rename_i store phase went
        cases committed
        have member := List.mem_of_getElem? found
        rcases proceed_cases tallied (followed call member) went with ⟨rfl, reads⟩ |
          ⟨campaign, emailNormalized, expiresAt, current, result, at_, rfl, granted⟩
        · refine ⟨tallied, fun other there => ?_⟩
          rw [PromoDesk.moveCall, if_pos rfl] at there
          rcases List.mem_or_eq_of_mem_set there with old | rfl
          · exact followed other old
          · exact reads.followed
        · have moved : ∀ other ∈ s.calls.set index { call with phase := .redeemed result }, Followed s.store other := by
            intro other there
            rcases List.mem_or_eq_of_mem_set there with old | rfl
            · exact followed other old
            · exact Followed.ended rfl rfl rfl
          refine ⟨tallied.granted granted, fun other there => ?_⟩
          have transactions := granted.transactions
          by_cases same : store.transactions = s.store.transactions
          · rw [PromoDesk.moveCall, if_pos same] at there
            exact (moved other there).carried granted.carries same
          · rw [PromoDesk.moveCall, if_neg same] at there
            obtain ⟨before, here, rfl⟩ := List.mem_map.mp there
            split at transactions
            · exact (moved before here).overtaken granted.carries transactions
            · exact absurd transactions same

theorem reachable_deskSound (reach : Reach (promoStep cfg) anyStep {} s) : DeskSound s := by
  induction reach with
  | start =>
    have none : ∀ {α : Type} {P : α → Prop}, ∀ row ∈ ([] : List α), P row := fun _ member => (nomatch member)
    exact ⟨⟨none, none, none, fun _ _ => Nat.zero_le 1, fun _ _ => Nat.zero_le 1, none, none⟩, none⟩
  | next previous _ committed ih => exact ih.step committed

/-- The step grants a campaign for new users to no account with a committed transaction. -/
def GrantsNewOnly (s s' : PromoDesk) : Prop :=
  ∀ row ∈ s'.store.redemptions, row ∉ s.store.redemptions → ∀ campaign ∈ s'.store.campaigns.rows,
    campaign.campaignId = row.campaignId → campaign.requiresNewUser = true → row.userId ∉ s.store.transactions

/-- A call about to commit on a campaign for new users was not overtaken. -/
def InTime (s : PromoDesk) (event : PromoEvent) : Prop :=
  ∀ index call campaign emailNormalized expiresAt, event = .proceed index → s.calls[index]? = some call →
    call.phase = .ready campaign emailNormalized expiresAt → campaign.requiresNewUser = true → call.overtaken = false

theorem redemptions_kept (committed : promoStep cfg s event = .ok s') (other : ∀ index, event ≠ .proceed index) :
    s'.store.redemptions = s.store.redemptions := by
  cases event with
  | proceed index => exact absurd rfl (other index)
  | tick | redeem => cases committed; rfl
  | createCampaign | transitionStatus | openAccount | recordTransaction =>
    simp only [promoStep] at committed
    repeat' split at committed
    all_goals first
      | (cases committed; rfl)
      | cases committed

/-- A call that commits adds the one redemption of its account, and one that does not adds nothing. -/
theorem proceed_step {index : Nat} (sound : DeskSound s) (committed : promoStep cfg s (.proceed index) = .ok s') :
    ∃ call, s.calls[index]? = some call ∧
      ((s'.store = s.store ∧ ∀ after result, s'.calls[index]? = some after → after.phase ≠ .redeemed result) ∨
      ∃ campaign emailNormalized expiresAt current,
        call.phase = .ready campaign emailNormalized expiresAt ∧
        (∃ after result, s'.calls[index]? = some after ∧ after.phase = .redeemed result) ∧
        Granted s.store s'.store call.userId call.email campaign emailNormalized current) := by
  simp only [promoStep] at committed
  split at committed
  · cases committed
  · rename_i call found
    split at committed
    · cases committed
    · rename_i store phase went
      cases committed
      have inRange := (List.getElem?_eq_some_iff.mp found).1
      have self : (s.calls.set index { call with phase })[index]? = some { call with phase } := by
        rw [List.getElem?_set_self inRange]
      refine ⟨call, found, ?_⟩
      rcases proceed_cases sound.tallied (sound.followed call (List.mem_of_getElem? found)) went with
        ⟨rfl, reads⟩ | ⟨campaign, emailNormalized, expiresAt, current, result, at_, rfl, granted⟩
      · refine .inl ⟨rfl, fun after result there => ?_⟩
        rw [PromoDesk.moveCall, if_pos rfl, self] at there
        cases there
        exact reads.ungranted result
      · refine .inr ⟨campaign, emailNormalized, expiresAt, current, at_, ?_, granted⟩
        by_cases same : store.transactions = s.store.transactions
        · rw [PromoDesk.moveCall, if_pos same]
          exact ⟨_, result, self, rfl⟩
        · rw [PromoDesk.moveCall, if_neg same]
          refine ⟨_, result, ?_, overtakenBy_phase call.userId { call with phase := .redeemed result }⟩
          show (overtake call.userId _)[index]? = _
          rw [overtake, List.getElem?_map, self]
          rfl

/-- A grant is to a new account exactly where its call was not overtaken. -/
theorem Granted.newOnly_iff {index : Nat} {current : PromoCampaign} (sound : DeskSound s)
    (found : s.calls[index]? = some call) (at_ : call.phase = .ready campaign emailNormalized expiresAt)
    (granted : Granted s.store s'.store call.userId call.email campaign emailNormalized current) :
    GrantsNewOnly s s' ↔ (campaign.requiresNewUser = true → call.overtaken = false) := by
  have followed := sound.followed call (List.mem_of_getElem? found)
  have decided := followed.decided (by rw [at_]; rfl) campaign (by rw [at_]; rfl)
  obtain ⟨listed, there, listedId, listedNew⟩ := followed.snapshot campaign (by rw [at_]; rfl)
  obtain ⟨after, inTable, afterId, afterNew⟩ := granted.carries listed there
  constructor
  · intro newOnly requires
    have fresh : { campaignId := campaign.campaignId, userId := call.userId, emailNormalized } ∉ s.store.redemptions :=
      fun member => granted.unredeemed _ member rfl rfl
    have unknown := newOnly _ (by rw [granted.redemptions]; exact List.mem_cons_self) fresh after inTable
      (afterId.trans listedId) (afterNew.trans (listedNew.trans requires))
    by_contra overtaken
    exact unknown ((decided requires).mpr ((Bool.not_eq_false _).mp overtaken))
  · intro inTime row member new other otherIn sameId requires known
    rw [granted.redemptions] at member
    rcases List.mem_cons.mp member with rfl | old
    · -- One row per campaign: the one redeemed is the one the call read.
      have same : other = after := by
        have one := Table.find_of_mem otherIn
        have two := Table.find_of_mem inTable
        rw [sameId, ← listedId, ← afterId, two] at one
        exact (Option.some.inj one).symm
      have requires : campaign.requiresNewUser = true := by rw [← listedNew, ← afterNew, ← same, requires]
      have overtaken := (decided requires).mp known
      rw [inTime requires] at overtaken
      cases overtaken
    · exact new old

theorem promo_redemptions_keep_rules (reach : Reach (promoStep cfg) anyStep {} s)
    (committed : promoStep cfg s event = .ok s') :
    PromoRules s'.store ∧
      (∀ index, event = .proceed index →
        (∀ after result, s'.calls[index]? = some after → after.phase ≠ .redeemed result) → s'.store = s.store) ∧
      (InTime s event → GrantsNewOnly s s') ∧
      (s'.store.redemptions ≠ s.store.redemptions → GrantsNewOnly s s' → InTime s event) := by
  have sound := reachable_deskSound reach
  refine ⟨(sound.step committed).tallied.rules, ?_⟩
  by_cases proceeds : ∃ index, event = .proceed index
  · obtain ⟨index, rfl⟩ := proceeds
    obtain ⟨call, found, ⟨kept, -⟩ | ⟨campaign, emailNormalized, expiresAt, current, at_, ended, granted⟩⟩ :=
      proceed_step sound committed
    · refine ⟨fun _ _ _ => kept, fun _ row member new => absurd (kept ▸ member) new, fun added => ?_⟩
      exact absurd (congrArg (·.redemptions) kept) added
    · have iff := granted.newOnly_iff sound found at_
      refine ⟨fun other same unredeemed => ?_, fun inTime => ?_, fun _ newOnly => ?_⟩
      · cases same
        obtain ⟨after, result, there, redeemed⟩ := ended
        exact absurd redeemed (unredeemed after result there)
      · exact iff.mpr fun requires => inTime index call campaign emailNormalized expiresAt rfl found at_ requires
      · intro other row offered address expires same here there requires
        cases same
        rw [found] at here
        cases here
        rw [at_] at there
        cases there
        exact iff.mp newOnly requires
  · have other : ∀ index, event ≠ .proceed index := fun index same => proceeds ⟨index, same⟩
    have kept := redemptions_kept committed other
    refine ⟨fun index same => absurd same (other index), fun _ row member new => ?_, fun added => absurd kept added⟩
    exact absurd (kept ▸ member) new

def welcomeCampaign (campaignId : CampaignId) (code : List Char) : PromoCampaign :=
  { campaignId, code, creditsAmount := 2, startsAt := 0, requiresNewUser := true }

/-- Two live campaigns for new users and an account with no transaction. -/
def twoWelcomeCodes : List PromoEvent :=
  [.createCampaign (welcomeCampaign 1 ['A']), .createCampaign (welcomeCampaign 2 ['B']), .transitionStatus 1 .active,
    .transitionStatus 2 .active, .openAccount 7 (some ['a'])]

/-- The reads of a call, up to its transaction. -/
def validates (index : Nat) : List PromoEvent := List.replicate 5 (.proceed index)

theorem welcome_code_redeemed : ∃ s s', Reach (promoStep {}) anyStep {} s ∧
    promoStep {} s (.proceed 0) = .ok s' ∧ s'.store.redemptions.length = 1 ∧ PromoRules s'.store ∧
    GrantsNewOnly s s' := by
  obtain ⟨s, s', reach, committed, passes⟩ := exists_step (promoStep {}) {}
    (fun s s' => (s.calls.all fun call => !call.overtaken) && s'.store.redemptions.length == 1)
    (twoWelcomeCodes ++ [.redeem 7 (some ['a']) ['A']] ++ validates 0) (.proceed 0) (by decide)
  simp only [Bool.and_eq_true, List.all_eq_true, Bool.not_eq_true', beq_iff_eq] at passes
  have rules := promo_redemptions_keep_rules reach committed
  exact ⟨s, s', reach, committed, passes.2, rules.1,
    rules.2.2.1 fun _ call _ _ _ _ found _ _ => passes.1 call (List.mem_of_getElem? found)⟩

/-- Both codes are validated while the account is new; the second is granted after the first one's transaction. -/
theorem second_welcome_code : ∃ s s', Reach (promoStep {}) anyStep {} s ∧
    promoStep {} s (.proceed 1) = .ok s' ∧ ¬ GrantsNewOnly s s' := by
  obtain ⟨s, s', reach, committed, passes⟩ := exists_step (promoStep {}) {}
    (fun s s' => s'.store.redemptions.any fun row => row ∉ s.store.redemptions &&
      (s'.store.campaigns.rows.any fun campaign => campaign.campaignId == row.campaignId && campaign.requiresNewUser) &&
      row.userId ∈ s.store.transactions)
    (twoWelcomeCodes ++ [.redeem 7 (some ['a']) ['A'], .redeem 7 (some ['a']) ['B']] ++ validates 0 ++ validates 1 ++
      [.proceed 0]) (.proceed 1) (by decide)
  refine ⟨s, s', reach, committed, fun newOnly => ?_⟩
  obtain ⟨row, member, holds⟩ := List.any_eq_true.mp passes
  simp only [Bool.and_eq_true, decide_eq_true_eq, List.any_eq_true, beq_iff_eq] at holds
  obtain ⟨⟨new, campaign, there, same, requires⟩, known⟩ := holds
  exact newOnly row member new campaign there same requires known

end LetterIRL.Gift
