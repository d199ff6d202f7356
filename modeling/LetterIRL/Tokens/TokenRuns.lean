import LetterIRL.Tokens.AccessTokens

namespace LetterIRL.Tokens

open Lib

/-! What a run keeps. -/

/-- A row later on: it stays revoked, and keeps its hash once it has one. -/
structure Changed (token token' : PersonalAccessToken) : Prop where
  revoked : token.status = .revoked → token'.status = .revoked
  filled : token.tokenLookup ≠ none → token'.tokenLookup = token.tokenLookup

theorem Changed.refl (token : PersonalAccessToken) : Changed token token := ⟨id, fun _ => rfl⟩

theorem Changed.trans {token token' token'' : PersonalAccessToken} (first : Changed token token') (second : Changed token' token'') :
    Changed token token'' := by
  refine ⟨fun revoked => second.revoked (first.revoked revoked), fun filled => ?_⟩
  have same := first.filled filled
  exact (second.filled (same ▸ filled)).trans same

/-- No id is used twice: a row with an old id is the one that was there. -/
structure World.Later (w w' : World) : Prop where
  now : w.now ≤ w'.now
  made : ∀ result ∈ w.made, result ∈ w'.made
  next : w.nextTokenId ≤ w'.nextTokenId
  tokens : ∀ {tokenId token'}, tokenId < w.nextTokenId → w'.tokens.find tokenId = some token' →
    ∃ token, w.tokens.find tokenId = some token ∧ Changed token token'

/-- The token is revoked, or its row was deleted. -/
def World.Ended (w : World) (tokenId : TokenId) : Prop :=
  tokenId < w.nextTokenId ∧ ∀ token, w.tokens.find tokenId = some token → token.status = .revoked

section
variable {hashing : Hashing} {w w' w'' : World} {event : Event} {at_ : Nat} {call : Call} {raw : Text} {tokenId : TokenId}
  {token : PersonalAccessToken} {result : CreateTokenResult}

theorem World.Later.of_tokens (now : w.now ≤ w'.now) (tokens : w'.tokens = w.tokens) (next : w'.nextTokenId = w.nextTokenId)
    (made : w'.made = w.made) : w.Later w' := by
  refine ⟨now, fun result member => made ▸ member, next.ge, fun {tokenId token'} _ found => ?_⟩
  rw [tokens] at found
  exact ⟨token', found, .refl token'⟩

theorem World.Later.refl (w : World) : w.Later w := .of_tokens le_rfl rfl rfl rfl

theorem World.Later.trans (first : w.Later w') (second : w'.Later w'') : w.Later w'' := by
  refine ⟨first.now.trans second.now, fun result member => second.made result (first.made result member),
    first.next.trans second.next, ?_⟩
  intro tokenId token'' old found
  obtain ⟨token', found', changed'⟩ := second.tokens (old.trans_le first.next) found
  obtain ⟨token, found, changed⟩ := first.tokens old found'
  exact ⟨token, found, changed.trans changed'⟩

theorem World.Ended.later (ended : w.Ended tokenId) (later : w.Later w') : w'.Ended tokenId := by
  refine ⟨ended.1.trans_le later.next, fun token' found => ?_⟩
  obtain ⟨token, there, changed⟩ := later.tokens ended.1 found
  exact changed.revoked (ended.2 token there)

theorem setRevoked_later (w : World) (tokenId : TokenId) : w.Later (setRevoked w tokenId) := by
  refine ⟨le_rfl, fun _ member => member, le_rfl, fun {other token'} _ found => ?_⟩
  dsimp only [setRevoked] at found
  rw [Table.find_update] at found
  obtain ⟨token, there, rfl⟩ := Option.map_eq_some_iff.mp found
  refine ⟨token, there, ?_⟩
  split
  · exact ⟨fun _ => rfl, fun _ => rfl⟩
  · exact .refl token

theorem fill_later (hashing : Hashing) (w : World) (raw : Text) (tokenId : TokenId) : w.Later (fill hashing w raw tokenId) := by
  unfold fill
  split
  · exact .refl w
  · refine ⟨le_rfl, fun _ member => member, le_rfl, fun {other token'} _ found => ?_⟩
    dsimp only at found
    rw [Table.find_update] at found
    obtain ⟨token, there, rfl⟩ := Option.map_eq_some_iff.mp found
    refine ⟨token, there, ?_⟩
    split
    · rename_i selected
      simp only [Bool.and_eq_true, beq_iff_eq] at selected
      exact ⟨id, fun filled => absurd selected.2 filled⟩
    · exact .refl token

theorem insertToken_later (hashing : Hashing) (w : World) (raw salt : Text) (lookup : Option Text) (userId : UserId) (name : Text)
    (expiresAt askedAt : Int) (bounded : Bool) :
    w.Later (insertToken hashing w raw salt lookup userId name expiresAt askedAt bounded).1 := by
  refine ⟨le_rfl, fun result member => List.mem_append_left _ member, Nat.le_succ _, fun {tokenId token'} old found => ?_⟩
  dsimp only [insertToken] at found
  rw [Table.find_insertNew, if_neg old.ne, Option.or_none] at found
  exact ⟨token', found, .refl token'⟩

theorem World.Later.setCall (later : w.Later w') (at_ : Nat) (call : Call) : w.Later (w'.setCall at_ call) :=
  later.trans (.of_tokens le_rfl rfl rfl rfl)

theorem Move.later (move : Move hashing w w') : w.Later w' := by
  cases move with
  | wait ms => exact .of_tokens (show w.now ≤ w.now + ms by omega) rfl rfl rfl
  | openAccount => exact .of_tokens le_rfl rfl rfl rfl
  | begins => exact .of_tokens le_rfl rfl rfl rfl
  | turns => exact (World.Later.refl w).setCall _ _
  | revokes => exact (setRevoked_later w _).setCall _ _
  | fills => exact (fill_later hashing w _ _).setCall _ _
  | inserts => exact (insertToken_later hashing w ..).setCall _ _
  | insertsBefore => exact insertToken_later hashing w ..
  | deletes userId =>
    refine ⟨le_rfl, fun _ member => member, le_rfl, fun {tokenId token'} _ found => ?_⟩
    dsimp only at found
    rw [Table.find_filter] at found
    exact ⟨token', (Option.filter_eq_some_iff.mp found).1, .refl token'⟩

theorem later_of_reach (reach : Reach (step hashing) anyStep w w') : w.Later w' := by
  induction reach with
  | start => exact .refl w
  | next _ _ committed ih => exact ih.trans (step_moves committed).later

/-- The row stored for a token that was made. -/
structure StoredFor (hashing : Hashing) (result : CreateTokenResult) (token : PersonalAccessToken) : Prop where
  tokenId : token.tokenId = result.tokenId
  userId : token.userId = result.userId
  expiresAt : token.expiresAt = result.expiresAt
  scopes : token.scopes = DEFAULT_SCOPES
  tokenPrefix : token.tokenPrefix = lastFour result.token
  tokenHash : ∃ salt, token.tokenHash = hashing.hash salt result.token
  tokenLookup : token.tokenLookup = none ∨ token.tokenLookup = some (hashing.sha256 result.token)

/-- A token found for the text sent was made as that text. -/
def World.Stores (hashing : Hashing) (w : World) (raw : Text) (token : PersonalAccessToken) : Prop :=
  ∃ result ∈ w.made, result.token = raw ∧ StoredFor hashing result token

/-- What is known of a call at any time. -/
def Call.Known (hashing : Hashing) (w : World) : Call → Prop
  | .checksUser _ _ expiresAt askedAt => expiresAt ≤ askedAt + MAX_TOKEN_LIFETIME_DAYS * DAY_MS
  | .inserts _ _ expiresAt askedAt => expiresAt ≤ askedAt + MAX_TOKEN_LIFETIME_DAYS * DAY_MS
  | .revokes tokenId => tokenId < w.nextTokenId
  | .looksUp raw => isValidTokenFormat raw = true
  | .looksBefore raw => isValidTokenFormat raw = true
  | .fills raw token => w.Stores hashing raw token
  | .judges raw token => w.Stores hashing raw token
  | .revoked tokenId _ => w.Ended tokenId
  | .validated raw (.valid userId tokenId scopes) answeredAt => ∃ result ∈ w.made, result.token = raw ∧ result.userId = userId ∧
      result.tokenId = tokenId ∧ scopes = DEFAULT_SCOPES ∧ answeredAt < result.expiresAt
  | _ => True

theorem World.Stores.later (stores : w.Stores hashing raw token) (later : w.Later w') : w'.Stores hashing raw token := by
  obtain ⟨result, member, same, stored⟩ := stores
  exact ⟨result, later.made result member, same, stored⟩

theorem Call.Known.later (known : call.Known hashing w) (later : w.Later w') : call.Known hashing w' := by
  cases call with
  | checksUser | inserts | looksUp | looksBefore => exact known
  | revokes tokenId => exact Nat.lt_of_lt_of_le known later.next
  | fills raw token => exact World.Stores.later known later
  | judges raw token => exact World.Stores.later known later
  | revoked tokenId already => exact World.Ended.later known later
  | validated raw answer answeredAt =>
    cases answer with
    | valid userId tokenId scopes =>
      obtain ⟨result, member, rest⟩ := known
      exact ⟨result, later.made result member, rest⟩
    | invalidFormat | notFound | revoked | expired => trivial
  | finds | created | notCreated | notRevoked => trivial

/-- A token that was made, by whom and for how long. -/
structure World.Made (w : World) (result : CreateTokenResult) : Prop where
  old : result.tokenId < w.nextTokenId
  format : isValidTokenFormat result.token = true
  bounded : result.bounded = true → result.expiresAt ≤ result.askedAt + MAX_TOKEN_LIFETIME_DAYS * DAY_MS

structure World.Inv (hashing : Hashing) (w : World) : Prop where
  rows : ∀ token ∈ w.tokens.rows, ∃ result ∈ w.made, StoredFor hashing result token
  made : ∀ result ∈ w.made, w.Made result
  unique : (w.made.map (·.tokenId)).Nodup
  calls : ∀ call ∈ w.calls, call.Known hashing w

end

section
variable {hashing : Hashing} {w w' : World} {at_ : Nat} {before after call : Call} {raw : Text} {tokenId : TokenId}
  {token : PersonalAccessToken} {result : CreateTokenResult}

theorem rawTokenOf_format (bytes : Vector UInt8 32) : isValidTokenFormat (rawTokenOf bytes) = true := by
  have body : ∀ c ∈ generateTokenBody bytes, isBodyCharacter c = true := by
    intro c member
    obtain ⟨byte, -, rfl⟩ := List.mem_map.mp member
    have all : TOKEN_CHARACTERS.all isBodyCharacter = true := by decide +kernel
    have inside : byte.toNat % TOKEN_CHARACTERS.length < TOKEN_CHARACTERS.length := Nat.mod_lt _ (by decide)
    rw [List.getD_eq_getElem?_getD, List.getElem?_eq_getElem inside, Option.getD_some]
    exact List.all_eq_true.mp all _ (List.getElem_mem inside)
  have length : (generateTokenBody bytes).length = TOKEN_BODY_LENGTH := by
    rw [generateTokenBody, List.length_map, Vector.length_toList]
    rfl
  have dropped : (rawTokenOf bytes).drop TOKEN_PREFIX.length = generateTokenBody bytes := List.drop_left
  have lead : TOKEN_PREFIX.isPrefixOf (rawTokenOf bytes) = true := List.isPrefixOf_iff_prefix.mpr (List.prefix_append _ _)
  rw [isValidTokenFormat, dropped, lead, length, List.all_eq_true.mpr body]
  rfl

theorem resolveTokenExpiry_le {requested : Option (Option Int)} {now expiresAt : Int}
    (resolved : resolveTokenExpiry requested now = .ok expiresAt) : expiresAt ≤ now + MAX_TOKEN_LIFETIME_DAYS * DAY_MS := by
  unfold resolveTokenExpiry at resolved
  split at resolved
  · cases resolved
    unfold DEFAULT_TOKEN_LIFETIME_DAYS MAX_TOKEN_LIFETIME_DAYS DAY_MS
    omega
  · cases resolved
  · split_ifs at resolved with past tooFar
    cases resolved
    omega

theorem Begins.known (begun : Begins w call) : call.Known hashing w := by
  cases begun with
  | createToken userId name requested =>
    unfold Tokens.createToken
    split_ifs
    · trivial
    · split
      · trivial
      · rename_i resolved
        exact resolveTokenExpiry_le resolved
  | revokeToken => trivial
  | validateToken raw =>
    unfold Tokens.validateToken
    split_ifs with format
    · exact format
    · trivial

theorem judge_valid {userId : UserId} {scopes : List Text} {now : Int} (judged : judge token now = .valid userId tokenId scopes) :
    token.status = .active ∧ now < token.expiresAt ∧ token.userId = userId ∧ token.tokenId = tokenId ∧ token.scopes = scopes := by
  unfold judge at judged
  split_ifs at judged with active expired
  cases judged
  exact ⟨of_not_not active, lt_of_not_ge expired, rfl, rfl, rfl⟩

/-- A row with the hash of what was sent is that token's. -/
theorem World.Inv.hashed (inv : w.Inv hashing) (sound : hashing.Sound) (format : isValidTokenFormat raw = true)
    (member : token ∈ w.tokens.rows) (found : token.tokenLookup = some (hashing.sha256 raw)) : w.Stores hashing raw token := by
  obtain ⟨result, made, stored⟩ := inv.rows token member
  rcases stored.tokenLookup with none | some
  · rw [none] at found
    cases found
  · have same := sound.sha256 (inv.made result made).format format (Option.some.inj (some.symm.trans found))
    exact ⟨result, made, same, stored⟩

/-- So is a row whose bcrypt hash matches it. -/
theorem World.Inv.compared (inv : w.Inv hashing) (sound : hashing.Sound) (format : isValidTokenFormat raw = true)
    (member : token ∈ w.tokens.rows) (matched : hashing.compare raw token.tokenHash = true) : w.Stores hashing raw token := by
  obtain ⟨result, made, stored⟩ := inv.rows token member
  obtain ⟨salt, hashed⟩ := stored.tokenHash
  rw [hashed] at matched
  exact ⟨result, made, ((sound.compare salt format (inv.made result made).format).mp matched).symm, stored⟩

theorem lookedUp_some (found : (w.tokens.rows.find? fun token => token.tokenLookup == some (hashing.sha256 raw)) = some token) :
    token ∈ w.tokens.rows ∧ token.tokenLookup = some (hashing.sha256 raw) := by
  have hashed := List.find?_some found
  exact ⟨List.mem_of_find?_eq_some found, beq_iff_eq.mp hashed⟩

theorem lookedBefore_some {now : Int}
    (found : ((w.tokens.rows.filter (madeBefore raw now)).find? fun token => hashing.compare raw token.tokenHash) = some token) :
    token ∈ w.tokens.rows ∧ madeBefore raw now token = true ∧ hashing.compare raw token.tokenHash = true := by
  obtain ⟨member, chosen⟩ := List.mem_filter.mp (List.mem_of_find?_eq_some found)
  have matched := List.find?_some found
  exact ⟨member, chosen, matched⟩

theorem Turn.known (turn : Turn hashing w before after) (inv : w.Inv hashing) (sound : hashing.Sound)
    (known : before.Known hashing w) : after.Known hashing w := by
  cases turn with
  | user => exact known
  | noUser | duplicate => trivial
  | found =>
    rename_i userId tokenId
    unfold revokeFound
    split
    · trivial
    · rename_i token found
      obtain ⟨result, made, stored⟩ := inv.rows token (Table.find_mem found)
      have old : tokenId < w.nextTokenId := Table.find_key found ▸ stored.tokenId ▸ (inv.made result made).old
      split_ifs with other revoked
      · trivial
      · refine ⟨old, fun token' found' => ?_⟩
        rw [found] at found'
        cases found'
        exact revoked
      · exact old
  | lookedUp =>
    unfold Tokens.lookedUp
    split
    · rename_i token found
      obtain ⟨member, hashed⟩ := lookedUp_some found
      exact inv.hashed sound known member hashed
    · exact known
  | lookedBefore =>
    unfold findTokenMadeBeforeLookup
    split
    · rename_i token found
      obtain ⟨member, -, matched⟩ := lookedBefore_some found
      exact inv.compared sound known member matched
    · trivial
  | judged =>
    rename_i raw token
    cases judged : judge token w.now with
    | valid userId tokenId scopes =>
      obtain ⟨-, unexpired, rfl, rfl, rfl⟩ := judge_valid judged
      obtain ⟨result, made, same, stored⟩ := known
      exact ⟨result, made, same, stored.userId.symm, stored.tokenId.symm, stored.scopes, stored.expiresAt ▸ unexpired⟩
    | invalidFormat | notFound | revoked | expired => trivial

theorem World.Made.later (made : w.Made result) (later : w.Later w') : w'.Made result :=
  ⟨made.old.trans_le later.next, made.format, made.bounded⟩

/-- A step that makes no token. -/
theorem World.Inv.moved (inv : w.Inv hashing) (later : w.Later w') (made : w'.made = w.made)
    (rows : ∀ token ∈ w'.tokens.rows, ∃ result ∈ w.made, StoredFor hashing result token)
    (calls : ∀ call ∈ w'.calls, call ∈ w.calls ∨ call.Known hashing w') : w'.Inv hashing := by
  refine ⟨fun token member => ?_, fun result member => ?_, made ▸ inv.unique, fun call member => ?_⟩
  · rw [made]
    exact rows token member
  · rw [made] at member
    exact (inv.made result member).later later
  · rcases calls call member with there | known
    · exact (inv.calls call there).later later
    · exact known

theorem World.Inv.setCall (inv : w.Inv hashing) (known : call.Known hashing w) : (w.setCall at_ call).Inv hashing := by
  have later := (World.Later.refl w).setCall at_ call
  refine inv.moved later rfl inv.rows fun other member => ?_
  rcases List.mem_or_eq_of_mem_set member with there | rfl
  · exact .inl there
  · exact .inr (known.later later)

theorem StoredFor.update {token' : PersonalAccessToken} (stored : StoredFor hashing result token) (tokenId : token'.tokenId = token.tokenId)
    (userId : token'.userId = token.userId) (expiresAt : token'.expiresAt = token.expiresAt) (scopes : token'.scopes = token.scopes)
    (tokenPrefix : token'.tokenPrefix = token.tokenPrefix) (tokenHash : token'.tokenHash = token.tokenHash)
    (tokenLookup : token'.tokenLookup = none ∨ token'.tokenLookup = some (hashing.sha256 result.token)) :
    StoredFor hashing result token' :=
  ⟨tokenId.trans stored.tokenId, userId.trans stored.userId, expiresAt.trans stored.expiresAt, scopes.trans stored.scopes,
    tokenPrefix.trans stored.tokenPrefix, tokenHash ▸ stored.tokenHash, tokenLookup⟩

theorem setRevoked_inv (inv : w.Inv hashing) : (setRevoked w tokenId).Inv hashing := by
  refine inv.moved (setRevoked_later w tokenId) rfl (fun token member => ?_) fun call member => .inl member
  rcases mem_updateWhere.mp member with ⟨there, -⟩ | ⟨old, there, -, rfl⟩
  · exact inv.rows token there
  · obtain ⟨result, made, stored⟩ := inv.rows old there
    exact ⟨result, made, stored.update rfl rfl rfl rfl rfl rfl stored.tokenLookup⟩

theorem setRevoked_ended (old : tokenId < w.nextTokenId) : (setRevoked w tokenId).Ended tokenId := by
  refine ⟨old, fun token found => ?_⟩
  dsimp only [setRevoked] at found
  rw [Table.find_update] at found
  obtain ⟨row, there, rfl⟩ := Option.map_eq_some_iff.mp found
  rw [if_pos (beq_iff_eq.mpr (Table.find_key there))]

theorem fill_inv (inv : w.Inv hashing) (stores : w.Stores hashing raw token) : (fill hashing w raw token.tokenId).Inv hashing := by
  have later := fill_later hashing w raw token.tokenId
  unfold fill at later ⊢
  split
  · exact inv
  · rename_i taken
    rw [if_neg taken] at later
    refine inv.moved later rfl (fun row member => ?_) fun call member => .inl member
    rcases mem_updateWhere.mp member with ⟨there, -⟩ | ⟨old, there, selected, rfl⟩
    · exact inv.rows row there
    · obtain ⟨result, made, stored⟩ := inv.rows old there
      obtain ⟨other, made', rfl, stored'⟩ := stores
      rw [Bool.and_eq_true, beq_iff_eq] at selected
      -- the row filled is the one that was matched
      have same : result = other := eq_of_key_eq inv.unique made made'
        (stored.tokenId.symm.trans (selected.1.trans stored'.tokenId))
      subst same
      exact ⟨result, made, stored.update rfl rfl rfl rfl rfl rfl (.inr rfl)⟩

theorem insertToken_inv {salt name : Text} {lookup : Option Text} {userId : UserId} {expiresAt askedAt : Int} {bounded : Bool}
    (inv : w.Inv hashing) (format : isValidTokenFormat raw = true) (hashed : lookup = none ∨ lookup = some (hashing.sha256 raw))
    (within : bounded = true → expiresAt ≤ askedAt + MAX_TOKEN_LIFETIME_DAYS * DAY_MS) :
    (insertToken hashing w raw salt lookup userId name expiresAt askedAt bounded).1.Inv hashing := by
  have later := insertToken_later hashing w raw salt lookup userId name expiresAt askedAt bounded
  refine ⟨fun token member => ?_, fun result made => ?_, ?_, fun call member => (inv.calls call member).later later⟩
  · rcases Table.mem_insertNew.mp member with old | ⟨rfl, -⟩
    · obtain ⟨result, made, stored⟩ := inv.rows token old
      exact ⟨result, later.made result made, stored⟩
    · exact ⟨_, List.mem_append_right _ (List.mem_singleton_self _), ⟨rfl, rfl, rfl, rfl, rfl, ⟨salt, rfl⟩, hashed⟩⟩
  · rcases List.mem_append.mp made with old | new
    · exact (inv.made result old).later later
    · cases List.mem_singleton.mp new
      exact ⟨Nat.lt_succ_self _, format, within⟩
  · show ((w.made ++ [_]).map CreateTokenResult.tokenId).Nodup
    rw [List.map_append, List.nodup_append]
    refine ⟨inv.unique, List.nodup_singleton _, fun tokenId old tokenId' new => ?_⟩
    obtain ⟨result, made, rfl⟩ := List.mem_map.mp old
    cases List.mem_singleton.mp new
    exact (inv.made result made).old.ne

theorem Move.inv (move : Move hashing w w') (sound : hashing.Sound) (inv : w.Inv hashing) : w'.Inv hashing := by
  have later := move.later
  cases move with
  | wait | openAccount => exact inv.moved later rfl inv.rows fun call member => .inl member
  | begins begun =>
    refine inv.moved later rfl inv.rows fun call member => ?_
    rcases List.mem_append.mp member with there | new
    · exact .inl there
    · cases List.mem_singleton.mp new
      exact .inr (begun.known.later later)
  | turns calling turn => exact inv.setCall (turn.known inv sound (inv.calls _ (List.mem_of_getElem? calling)))
  | revokes calling =>
    have old := inv.calls _ (List.mem_of_getElem? calling)
    exact (setRevoked_inv inv).setCall (setRevoked_ended old)
  | fills calling =>
    have stores : w.Stores hashing _ _ := inv.calls _ (List.mem_of_getElem? calling)
    exact (fill_inv inv stores).setCall (stores.later (fill_later hashing w _ _))
  | inserts calling =>
    have within := inv.calls _ (List.mem_of_getElem? calling)
    exact (insertToken_inv inv (rawTokenOf_format _) (.inr rfl) fun _ => within).setCall trivial
  | insertsBefore => exact insertToken_inv inv (rawTokenOf_format _) (.inl rfl) (fun bounded => by cases bounded)
  | deletes userId =>
    exact inv.moved later rfl (fun token member => inv.rows token (List.mem_filter.mp member).1) fun call member => .inl member

theorem inv_of_reach {initial : World} (reach : Reach (step hashing) anyStep initial w) (sound : hashing.Sound)
    (start : initial.Inv hashing) : w.Inv hashing :=
  reach.invariant start fun _ _ _ inv _ committed => (step_moves committed).inv sound inv

theorem initial_inv (now : Int) : (World.Inv hashing { now }) := by
  refine ⟨?_, ?_, List.nodup_nil, ?_⟩
  · intro token member
    cases member
  · intro result made
    cases made
  · intro call member
    cases member

end

/-! Runs of one token: sent twice before it has a hash, and revoked while it is read. -/

def plainHashing : Hashing := ⟨id, fun _ raw => raw, fun raw stored => raw == stored⟩

theorem plainHashing_sound : plainHashing.Sound := ⟨fun _ _ same => same, fun _ _ _ => beq_iff_eq⟩

def worldAfter (w : World) (events : List Event) : World :=
  match runAll (step plainHashing) w events with
  | .ok after => after
  | .error _ => w

theorem worldAfter_reach {w : World} {events : List Event} (ran : (runAll (step plainHashing) w events).toBool = true) :
    Reach (step plainHashing) anyStep w (worldAfter w events) := by
  unfold worldAfter
  cases committed : runAll (step plainHashing) w events with
  | ok after => exact reach_of_runAll committed fun _ _ _ => trivial
  | error reason =>
    rw [committed] at ran
    cases ran

def cliBytes : Vector UInt8 32 := .replicate 32 0

def cliToken : Text := rawTokenOf cliBytes

/-- A token of an older image is sent twice. -/
def sentTwice : World :=
  worldAfter { now := 0 } [.openAccount 7, .insertBefore 7 ['c', 'l', 'i'] cliBytes [] 1000, .validateToken cliToken,
    .validateToken cliToken]

theorem sentTwice_reach : Reach (step plainHashing) anyStep { now := 0 } sentTwice := worldAfter_reach rfl

/-- The second request is answered between the first one's reads. -/
def overtaken : World := worldAfter sentTwice [.proceed 0, .proceed 1, .proceed 1, .proceed 1, .proceed 1, .proceed 0]

theorem overtaken_reach : Reach (step plainHashing) anyStep sentTwice overtaken := worldAfter_reach rfl

/-- A token is revoked after a request has read it, and before it has judged it. -/
def revokedMidway : World :=
  worldAfter { now := 0 } [.openAccount 7, .createToken 7 ['c', 'l', 'i'] none, .proceed 0, .insert 0 cliBytes [],
    .validateToken cliToken, .proceed 1, .revokeToken 7 1, .proceed 2, .proceed 2]

theorem revokedMidway_reach : Reach (step plainHashing) anyStep { now := 0 } revokedMidway := worldAfter_reach rfl

def acceptedLate : World := worldAfter revokedMidway [.proceed 1]

theorem acceptedLate_reach : Reach (step plainHashing) anyStep revokedMidway acceptedLate := worldAfter_reach rfl

theorem acceptedLate_answer : acceptedLate.calls[1]? = some (.validated cliToken (.valid 7 1 DEFAULT_SCOPES) 0) := rfl

/-! What a validation answers. -/

section
variable {hashing : Hashing} {w w' w'' : World} {at_ i : Nat} {before after call : Call} {raw : Text} {tokenId : TokenId} {userId : UserId}
  {scopes : List Text} {answeredAt : Int} {token : PersonalAccessToken} {result : CreateTokenResult} {answer : ValidateTokenResult}

/-- However calls overlap, a text that is accepted was made as a token of that account, and has not run out; this image's run out
within the most that may be asked. -/
theorem validated_made {now : Int} (sound : hashing.Sound) (reach : Reach (step hashing) anyStep { now } w)
    (answered : Call.validated raw (.valid userId tokenId scopes) answeredAt ∈ w.calls) :
    ∃ result ∈ w.made, result.token = raw ∧ result.userId = userId ∧ result.tokenId = tokenId ∧ scopes = DEFAULT_SCOPES ∧
      answeredAt < result.expiresAt ∧
        (result.bounded = true → answeredAt < result.askedAt + MAX_TOKEN_LIFETIME_DAYS * DAY_MS) := by
  have inv := inv_of_reach reach sound (initial_inv now)
  obtain ⟨result, made, same, user, id, granted, unexpired⟩ := inv.calls _ answered
  exact ⟨result, made, same, user, id, granted, unexpired, fun bounded => unexpired.trans_le ((inv.made result made).bounded bounded)⟩

theorem validated_made_cli : ∃ result ∈ acceptedLate.made, result.token = cliToken ∧ result.userId = 7 ∧ result.tokenId = 1 ∧
    DEFAULT_SCOPES = DEFAULT_SCOPES ∧ 0 < result.expiresAt ∧
      (result.bounded = true → 0 < result.askedAt + MAX_TOKEN_LIFETIME_DAYS * DAY_MS) :=
  validated_made plainHashing_sound (revokedMidway_reach.trans acceptedLate_reach) (List.mem_of_getElem? acceptedLate_answer)

/-- The call has read the token as active, or has accepted it. -/
def Call.holds (tokenId : TokenId) : Call → Bool
  | .fills _ token => token.tokenId == tokenId && token.status == .active
  | .judges _ token => token.tokenId == tokenId && token.status == .active
  | .validated _ (.valid _ accepted _) _ => accepted == tokenId
  | _ => false

theorem Begins.not_holds (begun : Begins w call) : call.holds tokenId = false := by
  cases begun with
  | createToken =>
    unfold Tokens.createToken
    split_ifs
    · rfl
    · split <;> rfl
  | revokeToken => rfl
  | validateToken =>
    unfold Tokens.validateToken
    split_ifs <;> rfl

theorem World.Ended.not_active (ended : w.Ended tokenId) (member : token ∈ w.tokens.rows) :
    (token.tokenId == tokenId && token.status == .active) = false := by
  by_cases same : token.tokenId = tokenId
  · have revoked := ended.2 token (Table.find_eq_some.mpr ⟨member, same⟩)
    rw [revoked, Bool.and_eq_false_iff]
    exact .inr rfl
  · rw [beq_false_of_ne same, Bool.false_and]

/-- A turn reads no ended token as active. -/
theorem Turn.holds (turn : Turn hashing w before after) (ended : w.Ended tokenId) (holds : after.holds tokenId = true) :
    before.holds tokenId = true := by
  cases turn with
  | user | noUser | duplicate => exact holds
  | found =>
    unfold revokeFound at holds
    split at holds
    · cases holds
    · split_ifs at holds <;> cases holds
  | lookedUp =>
    unfold Tokens.lookedUp at holds
    split at holds
    · rename_i token found
      rw [Call.holds, ended.not_active (lookedUp_some found).1] at holds
      cases holds
    · cases holds
  | lookedBefore =>
    unfold findTokenMadeBeforeLookup at holds
    split at holds
    · rename_i token found
      rw [Call.holds, ended.not_active (lookedBefore_some found).1] at holds
      cases holds
    · cases holds
  | judged =>
    rename_i raw token
    cases judged : judge token w.now with
    | valid userId accepted scopes =>
      rw [judged] at holds
      obtain ⟨active, -, -, rfl, -⟩ := judge_valid judged
      rw [Call.holds, Bool.and_eq_true, active]
      exact ⟨holds, rfl⟩
    | invalidFormat | notFound | revoked | expired =>
      rw [judged] at holds
      cases holds

/-- A step leaves every call that holds an ended token one that held it. -/
theorem Move.holds (move : Move hashing w w') (ended : w.Ended tokenId) (there : w'.calls[i]? = some call)
    (holds : call.holds tokenId = true) : ∃ before, w.calls[i]? = some before ∧ before.holds tokenId = true := by
  rcases move.calls i with same | ⟨before, after, was, is_, next⟩ | ⟨-, after, is_, begun⟩
  · exact ⟨call, same ▸ there, holds⟩
  · rw [is_] at there
    cases there
    refine ⟨before, was, ?_⟩
    cases next with
    | turn turn => exact turn.holds ended holds
    | fills => exact holds
    | revokes | inserts => cases holds
  · rw [is_] at there
    cases there
    rw [begun.not_holds] at holds
    cases holds

/-- A token that `revokeToken` reported revoked, or whose row is deleted, is accepted later only by a call that had read it before. -/
theorem revoked_refused {now : Int} (sound : hashing.Sound) (reach : Reach (step hashing) anyStep { now } w)
    (ended : (∃ already, Call.revoked tokenId already ∈ w.calls) ∨
      (∃ result ∈ w.made, result.tokenId = tokenId) ∧ w.tokens.find tokenId = none)
    (later : Reach (step hashing) anyStep w w')
    (answered : w'.calls[i]? = some (.validated raw (.valid userId tokenId scopes) answeredAt)) :
    ∃ call, w.calls[i]? = some call ∧ call.holds tokenId = true := by
  have inv := inv_of_reach reach sound (initial_inv now)
  have ended : w.Ended tokenId := by
    rcases ended with ⟨already, told⟩ | ⟨⟨result, made, rfl⟩, gone⟩
    · exact inv.calls _ told
    · refine ⟨(inv.made result made).old, fun token found => ?_⟩
      rw [gone] at found
      cases found
  have back : ∀ (i : Nat) (call : Call), w'.calls[i]? = some call → call.holds tokenId = true →
      ∃ before : Call, w.calls[i]? = some before ∧ before.holds tokenId = true := by
    clear answered
    induction later with
    | start => exact fun i call there holds => ⟨call, there, holds⟩
    | next previous _ committed ih =>
      intro i call there holds
      obtain ⟨before, there, holds⟩ := (step_moves committed).holds (ended.later (later_of_reach previous)) there holds
      exact ih i before there holds
  exact back i _ answered (beq_self_eq_true _)

theorem revoked_refused_midway : ∃ call, revokedMidway.calls[1]? = some call ∧ call.holds 1 = true :=
  revoked_refused plainHashing_sound revokedMidway_reach
    (.inl ⟨false, List.mem_of_getElem? (show revokedMidway.calls[2]? = some (.revoked 1 false) from rfl)⟩) acceptedLate_reach
    acceptedLate_answer

end

/-! A token that lives is accepted. -/

/-- The token's row stands, and is not revoked. -/
def World.Live (w : World) (tokenId : TokenId) : Prop := ∃ token, w.tokens.find tokenId = some token ∧ token.status = .active

/-- The token's row stands without a lookup hash. -/
def World.Unfilled (w : World) (tokenId : TokenId) : Prop := ∃ token, w.tokens.find tokenId = some token ∧ token.tokenLookup = none

/-- The token's row stands with its lookup hash. -/
def World.Filled (hashing : Hashing) (w : World) (result : CreateTokenResult) : Prop :=
  ∃ token, w.tokens.find result.tokenId = some token ∧ token.tokenLookup = some (hashing.sha256 result.token)

/-- Where a validation of the token is while it lives: it had no hash when the validation first missed it, and had one when the
validation missed it again. -/
def Call.Heads (hashing : Hashing) (start w : World) (result : CreateTokenResult) : Call → Prop
  | .looksUp raw => raw = result.token
  | .looksBefore raw => raw = result.token ∧ start.Unfilled result.tokenId
  | .fills raw token => raw = result.token ∧ StoredFor hashing result token ∧ token.status = .active
  | .judges raw token => raw = result.token ∧ StoredFor hashing result token ∧ token.status = .active
  | .validated raw answer answeredAt => raw = result.token ∧ (answeredAt < result.expiresAt →
      answer = .valid result.userId result.tokenId DEFAULT_SCOPES ∨
        answer = .notFound ∧ start.Unfilled result.tokenId ∧ w.Filled hashing result)
  | _ => False

section
variable {hashing : Hashing} {start w w' : World} {i : Nat} {before after call : Call} {raw : Text} {tokenId : TokenId}
  {answeredAt : Int} {token : PersonalAccessToken} {result : CreateTokenResult} {answer : ValidateTokenResult}

theorem World.Live.earlier (live : w'.Live tokenId) (later : w.Later w') (old : tokenId < w.nextTokenId) : w.Live tokenId := by
  obtain ⟨token', found', active⟩ := live
  obtain ⟨token, found, changed⟩ := later.tokens old found'
  refine ⟨token, found, ?_⟩
  cases status : token.status with
  | active => rfl
  | revoked =>
    rw [changed.revoked status] at active
    cases active

theorem World.Unfilled.earlier (unfilled : w'.Unfilled tokenId) (later : w.Later w') (old : tokenId < w.nextTokenId) :
    w.Unfilled tokenId := by
  obtain ⟨token', found', none'⟩ := unfilled
  obtain ⟨token, found, changed⟩ := later.tokens old found'
  refine ⟨token, found, ?_⟩
  by_contra some
  exact some ((changed.filled some).symm.trans none')

theorem World.Filled.later (filled : w.Filled hashing result) (later : w.Later w') (old : result.tokenId < w.nextTokenId)
    (live : w'.Live result.tokenId) : w'.Filled hashing result := by
  obtain ⟨token, found, hashed⟩ := filled
  obtain ⟨token', found', -⟩ := live
  obtain ⟨token₁, found₁, changed⟩ := later.tokens old found'
  rw [found] at found₁
  cases found₁
  refine ⟨token', found', (changed.filled ?_).trans hashed⟩
  rw [hashed]
  exact Option.some_ne_none _

theorem Call.Heads.later (heads : call.Heads hashing start w result) (later : w.Later w') (old : result.tokenId < w.nextTokenId)
    (live : w'.Live result.tokenId) : call.Heads hashing start w' result := by
  cases call with
  | validated raw answer answeredAt =>
    obtain ⟨same, answers⟩ := heads
    refine ⟨same, fun unexpired => (answers unexpired).imp_right fun missed => ?_⟩
    exact ⟨missed.1, missed.2.1, missed.2.2.later later old live⟩
  | looksUp | looksBefore | fills | judges => exact heads
  | checksUser | inserts | finds | revokes | created | notCreated | revoked | notRevoked => cases heads

/-- The row of a token that lives, as it was stored for it. -/
theorem World.Inv.live_row (inv : w.Inv hashing) (made : result ∈ w.made) (live : w.Live result.tokenId) :
    ∃ token ∈ w.tokens.rows, w.tokens.find result.tokenId = some token ∧ StoredFor hashing result token ∧
      token.status = .active := by
  obtain ⟨token, found, active⟩ := live
  obtain ⟨other, made', stored⟩ := inv.rows token (Table.find_mem found)
  have same : other = result := eq_of_key_eq inv.unique made' made (stored.tokenId.symm.trans (Table.find_key found))
  exact ⟨token, Table.find_mem found, found, same ▸ stored, active⟩

theorem lookedUp_heads (inv : w.Inv hashing) (sound : hashing.Sound) (made : result ∈ w.made)
    (alone : ∀ other ∈ w.made, other.token = result.token → other = result) (live : w.Live result.tokenId) (later : start.Later w)
    (old : result.tokenId < start.nextTokenId) : (lookedUp hashing w result.token).Heads hashing start w result := by
  obtain ⟨row, member, found, stored, active⟩ := inv.live_row made live
  unfold lookedUp
  split
  · rename_i token hit
    obtain ⟨there, hashed⟩ := lookedUp_some hit
    obtain ⟨other, made', same, stored'⟩ := inv.hashed sound (inv.made result made).format there hashed
    cases alone other made' same
    have row_ : token = row := eq_of_key_eq w.tokens.unique there member (stored'.tokenId.trans stored.tokenId.symm)
    exact ⟨rfl, stored', row_ ▸ active⟩
  · rename_i miss
    refine ⟨rfl, World.Unfilled.earlier ⟨row, found, ?_⟩ later old⟩
    rcases stored.tokenLookup with none | hashed
    · exact none
    · have missed := List.find?_eq_none.mp miss row member
      rw [hashed, beq_self_eq_true] at missed
      exact absurd rfl missed

theorem lookedBefore_heads (inv : w.Inv hashing) (sound : hashing.Sound) (made : result ∈ w.made)
    (alone : ∀ other ∈ w.made, other.token = result.token → other = result) (live : w.Live result.tokenId)
    (unfilled : start.Unfilled result.tokenId) : (findTokenMadeBeforeLookup hashing w result.token).Heads hashing start w result := by
  obtain ⟨row, member, found, stored, active⟩ := inv.live_row made live
  have format := (inv.made result made).format
  unfold findTokenMadeBeforeLookup
  split
  · rename_i token hit
    obtain ⟨there, live_, matched⟩ := lookedBefore_some hit
    obtain ⟨other, made', same, stored'⟩ := inv.compared sound format there matched
    cases alone other made' same
    have row_ : token = row := eq_of_key_eq w.tokens.unique there member (stored'.tokenId.trans stored.tokenId.symm)
    exact ⟨rfl, stored', row_ ▸ active⟩
  · rename_i miss
    refine ⟨rfl, fun unexpired => .inr ⟨rfl, unfilled, row, found, ?_⟩⟩
    rcases stored.tokenLookup with none | hashed
    · -- a live row without a hash would have been read, and matched
      have chosen : madeBefore result.token w.now row = true := by
        rw [madeBefore, stored.tokenPrefix, none, active, stored.expiresAt, decide_eq_true unexpired, beq_self_eq_true]
        rfl
      obtain ⟨salt, hash⟩ := stored.tokenHash
      have missed := List.find?_eq_none.mp miss row (List.mem_filter.mpr ⟨member, chosen⟩)
      rw [hash] at missed
      exact absurd ((sound.compare salt format format).mpr rfl) missed
    · exact hashed

theorem judge_active (stored : StoredFor hashing result token) (active : token.status = .active) {now : Int}
    (unexpired : now < result.expiresAt) : judge token now = .valid result.userId result.tokenId DEFAULT_SCOPES := by
  rw [judge, if_neg (not_not_intro active), if_neg (by rw [stored.expiresAt]; omega), stored.userId, stored.tokenId, stored.scopes]

theorem Next.heads (next : Next hashing w before after) (inv : w.Inv hashing) (sound : hashing.Sound) (made : result ∈ w.made)
    (alone : ∀ other ∈ w.made, other.token = result.token → other = result) (live : w.Live result.tokenId) (later : start.Later w)
    (old : result.tokenId < start.nextTokenId) (heads : before.Heads hashing start w result) : after.Heads hashing start w result := by
  cases next with
  | turn turn =>
    cases turn with
    | lookedUp =>
      cases (show _ = result.token from heads)
      exact lookedUp_heads inv sound made alone live later old
    | lookedBefore =>
      obtain ⟨rfl, unfilled⟩ := heads
      exact lookedBefore_heads inv sound made alone live unfilled
    | judged =>
      obtain ⟨same, stored, active⟩ := heads
      exact ⟨same, fun unexpired => .inl (judge_active stored active unexpired)⟩
    | user | noUser | duplicate | found => cases heads
  | fills => exact heads
  | revokes | inserts => cases heads

/-- A token that still lives when its validation is answered is accepted, unless it had no hash when the validation began and another
request gave it one between the two reads: then the validation finds nothing. -/
theorem live_accepted {now : Int} {row : PersonalAccessToken} (sound : hashing.Sound) (reach : Reach (step hashing) anyStep { now } w)
    (made : result ∈ w.made) (called : w.calls[i]? = some (.looksUp result.token)) (run : Reach (step hashing) anyStep w w')
    (answered : w'.calls[i]? = some (.validated raw answer answeredAt))
    (alone : ∀ other ∈ w'.made, other.token = result.token → other = result)
    (found : w'.tokens.find result.tokenId = some row) (active : row.status = .active) (unexpired : answeredAt < result.expiresAt) :
    answer = .valid result.userId result.tokenId DEFAULT_SCOPES ∨
      answer = .notFound ∧ w.Unfilled result.tokenId ∧ w'.Filled hashing result := by
  have start := inv_of_reach reach sound (initial_inv now)
  have old := (start.made result made).old
  have heads : ∀ w', Reach (step hashing) anyStep w w' → w'.Live result.tokenId →
      (∀ other ∈ w'.made, other.token = result.token → other = result) →
        ∃ call : Call, w'.calls[i]? = some call ∧ call.Heads hashing w w' result := by
    intro w' run live alone
    induction run with
    | start => exact ⟨_, called, rfl⟩
    | @next before after event previous _ committed ih =>
      have move := step_moves committed
      have later := later_of_reach previous
      have old' := old.trans_le later.next
      have live' := live.earlier move.later old'
      have alone' : ∀ other ∈ before.made, other.token = result.token → other = result := fun other member =>
        alone other (move.later.made other member)
      obtain ⟨call, there, heads⟩ := ih live' alone'
      rcases move.calls i with same | ⟨call', call'', was, is_, next⟩ | ⟨none, -⟩
      · exact ⟨call, same.trans there, heads.later move.later old' live⟩
      · rw [there] at was
        cases was
        have inv := inv_of_reach (reach.trans previous) sound (initial_inv now)
        exact ⟨call'', is_, (next.heads inv sound (later.made result made) alone' live' later old heads).later move.later old' live⟩
      · rw [there] at none
        cases none
  obtain ⟨call, there, heads⟩ := heads w' run ⟨row, found, active⟩ alone
  rw [answered] at there
  cases there
  exact heads.2 unexpired

-- The first request finds nothing, though the token lives.
theorem live_accepted_overtaken : ValidateTokenResult.notFound = .valid 7 1 DEFAULT_SCOPES ∨
    ValidateTokenResult.notFound = .notFound ∧ sentTwice.Unfilled 1 ∧
      overtaken.Filled plainHashing ⟨1, 7, ['c', 'l', 'i'], cliToken, 1000, 0, false⟩ :=
  live_accepted plainHashing_sound sentTwice_reach (List.mem_singleton_self _)
    (show sentTwice.calls[0]? = some (.looksUp cliToken) from rfl)
    overtaken_reach (show overtaken.calls[0]? = some (.validated cliToken .notFound 0) from rfl)
    (fun other member _ => List.mem_singleton.mp member)
    (show overtaken.tokens.find 1 =
      some ⟨1, 7, ['c', 'l', 'i'], cliToken, lastFour cliToken, .active, 1000, DEFAULT_SCOPES, some cliToken⟩ from rfl) rfl (by decide)

end

end LetterIRL.Tokens
