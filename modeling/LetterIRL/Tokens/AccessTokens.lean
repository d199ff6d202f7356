import LetterIRL.Lib.Runs
import LetterIRL.Lib.Table

namespace LetterIRL.Tokens

open Lib

/-! Personal access tokens: made, found by their hash, given one on first use, revoked and erased. -/

abbrev Text := List Char

abbrev UserId := Nat

abbrev TokenId := Nat

def TOKEN_PREFIX : Text := ['l', 'i', 'r', 'l', '_', 'p', 'a', 't', '_']

def TOKEN_BODY_LENGTH : Nat := 32

def DAY_MS : Int := 24 * 60 * 60 * 1000

def DEFAULT_TOKEN_LIFETIME_DAYS : Int := 90

def MAX_TOKEN_LIFETIME_DAYS : Int := 365

/-- The column's default. -/
def DEFAULT_SCOPES : List Text := ["mail:read".toList, "mail:draft".toList]

/-- `[a-z0-9]` -/
def isBodyCharacter (c : Char) : Bool := (97 ≤ c.toNat && c.toNat ≤ 122) || (48 ≤ c.toNat && c.toNat ≤ 57)

def isValidTokenFormat (token : Text) : Bool :=
  TOKEN_PREFIX.isPrefixOf token && ((token.drop TOKEN_PREFIX.length).length == TOKEN_BODY_LENGTH &&
    (token.drop TOKEN_PREFIX.length).all isBodyCharacter)

/-- `slice(-4)` -/
def lastFour (token : Text) : Text := token.drop (token.length - 4)

def TOKEN_CHARACTERS : List Char :=
  ['a', 'b', 'c', 'd', 'e', 'f', 'g', 'h', 'i', 'j', 'k', 'l', 'm', 'n', 'o', 'p', 'q', 'r', 's', 't', 'u', 'v', 'w', 'x', 'y', 'z',
    '0', '1', '2', '3', '4', '5', '6', '7', '8', '9']

def generateTokenBody (bytes : Vector UInt8 32) : Text :=
  bytes.toList.map fun byte => TOKEN_CHARACTERS.getD (byte.toNat % TOKEN_CHARACTERS.length) 'a'

def rawTokenOf (bytes : Vector UInt8 32) : Text := TOKEN_PREFIX ++ generateTokenBody bytes

inductive TokenExpiryError
  | notADate
  | past
  | tooFar
  deriving DecidableEq

/-- `requested` is a date if there is one, and no time if it is not a valid date. -/
def resolveTokenExpiry (requested : Option (Option Int)) (now : Int) : Except TokenExpiryError Int :=
  match requested with
  | none => .ok (now + DEFAULT_TOKEN_LIFETIME_DAYS * DAY_MS)
  | some none => .error .notADate
  | some (some time) =>
    if time ≤ now then .error .past
    else if time > now + MAX_TOKEN_LIFETIME_DAYS * DAY_MS then .error .tooFar
    else .ok time

/-- What the code asks of SHA-256 and bcrypt. -/
structure Hashing where
  sha256 : Text → Text
  hash : Text → Text → Text
  compare : Text → Text → Bool

/-- No two tokens of the format share a digest, and bcrypt matches a token with its own hashes alone. -/
structure Hashing.Sound (hashing : Hashing) : Prop where
  sha256 : ∀ {raw other}, isValidTokenFormat raw = true → isValidTokenFormat other = true →
    hashing.sha256 raw = hashing.sha256 other → raw = other
  compare : ∀ {raw other} salt, isValidTokenFormat raw = true → isValidTokenFormat other = true →
    (hashing.compare raw (hashing.hash salt other) = true ↔ raw = other)

inductive PatStatus
  | active
  | revoked
  deriving DecidableEq

/-- A row of `personal_access_tokens`. -/
structure PersonalAccessToken where
  tokenId : TokenId
  userId : UserId
  name : Text
  tokenHash : Text
  tokenPrefix : Text
  status : PatStatus := .active
  expiresAt : Int
  scopes : List Text := DEFAULT_SCOPES
  tokenLookup : Option Text := none

/-- What `createToken` answers, with the account it was asked for and when. An older image answers the same. -/
structure CreateTokenResult where
  tokenId : TokenId
  userId : UserId
  name : Text
  token : Text
  expiresAt : Int
  askedAt : Int
  /-- By this image, which bounds what may be asked. -/
  bounded : Bool

inductive CreateTokenError
  | nameLength
  | expiry (error : TokenExpiryError)
  | userNotFound
  /-- `token_lookup` is unique. -/
  | duplicate
  deriving DecidableEq

inductive ValidateTokenResult
  | invalidFormat
  | notFound
  | revoked
  | expired
  | valid (userId : UserId) (tokenId : TokenId) (scopes : List Text)
  deriving DecidableEq

/-- A call, by the statement it makes next; the last ones are answered. -/
inductive Call
  | checksUser (userId : UserId) (name : Text) (expiresAt askedAt : Int)
  | inserts (userId : UserId) (name : Text) (expiresAt askedAt : Int)
  | finds (userId : UserId) (tokenId : TokenId)
  | revokes (tokenId : TokenId)
  /-- `WHERE token_lookup = $1` -/
  | looksUp (raw : Text)
  /-- `findTokenMadeBeforeLookup` -/
  | looksBefore (raw : Text)
  | fills (raw : Text) (token : PersonalAccessToken)
  | judges (raw : Text) (token : PersonalAccessToken)
  | created (result : CreateTokenResult)
  | notCreated (error : CreateTokenError)
  | revoked (tokenId : TokenId) (alreadyRevoked : Bool)
  | notRevoked
  | validated (raw : Text) (result : ValidateTokenResult) (answeredAt : Int)

structure World where
  now : Int
  users : List UserId := []
  tokens : Table PersonalAccessToken.tokenId := .empty
  /-- The column's sequence, which uses no id twice. -/
  nextTokenId : TokenId := 1
  calls : List Call := []
  made : List CreateTokenResult := []

inductive Event
  | wait (ms : Nat)
  | openAccount (userId : UserId)
  | createToken (userId : UserId) (name : Text) (requested : Option (Option Int))
  | revokeToken (userId : UserId) (tokenId : TokenId)
  | validateToken (raw : Text)
  /-- The next statement of a call that draws nothing. -/
  | proceed (call : Nat)
  | insert (call : Nat) (bytes : Vector UInt8 32) (salt : Text)
  /-- An older image's, with no lookup hash. -/
  | insertBefore (userId : UserId) (name : Text) (bytes : Vector UInt8 32) (salt : Text) (expiresAt : Int)
  /-- The erasure of an account. -/
  | deleteTokens (userId : UserId)

inductive Refused
  | impossible

namespace World

def begin_ (w : World) (call : Call) : World := { w with calls := w.calls ++ [call] }

def setCall (w : World) (at_ : Nat) (call : Call) : World := { w with calls := w.calls.set at_ call }

end World

def createToken (userId : UserId) (name : Text) (requested : Option (Option Int)) (now : Int) : Call :=
  if name.length < 1 ∨ name.length > 100 then .notCreated .nameLength
  else
    match resolveTokenExpiry requested now with
    | .error error => .notCreated (.expiry error)
    | .ok expiresAt => .checksUser userId name expiresAt now

def validateToken (raw : Text) (now : Int) : Call :=
  if isValidTokenFormat raw then .looksUp raw else .validated raw .invalidFormat now

/-- The checks of the token found. -/
def judge (token : PersonalAccessToken) (now : Int) : ValidateTokenResult :=
  if token.status ≠ .active then .revoked
  else if token.expiresAt ≤ now then .expired
  else .valid token.userId token.tokenId token.scopes

def revokeFound (w : World) (userId : UserId) (tokenId : TokenId) : Call :=
  match w.tokens.find tokenId with
  | none => .notRevoked
  | some token =>
    if token.userId ≠ userId then .notRevoked
    else if token.status = .revoked then .revoked tokenId true
    else .revokes tokenId

def setRevoked (w : World) (tokenId : TokenId) : World :=
  { w with tokens := w.tokens.update (fun token => token.tokenId == tokenId) (fun token => { token with status := .revoked }) fun _ => rfl }

section
variable (hashing : Hashing)

def lookedUp (w : World) (raw : Text) : Call :=
  match w.tokens.rows.find? fun token => token.tokenLookup == some (hashing.sha256 raw) with
  | some token => .judges raw token
  | none => .looksBefore raw

/-- `token_prefix = $1 AND token_lookup IS NULL AND status = 'active' AND expires_at > NOW()` -/
def madeBefore (raw : Text) (now : Int) (token : PersonalAccessToken) : Bool :=
  token.tokenPrefix == lastFour raw && (token.tokenLookup == none && (decide (token.status = .active) && decide (now < token.expiresAt)))

def findTokenMadeBeforeLookup (w : World) (raw : Text) : Call :=
  match (w.tokens.rows.filter (madeBefore raw w.now)).find? fun token => hashing.compare raw token.tokenHash with
  | some token => .fills raw token
  | none => .validated raw .notFound w.now

/-- The hash is filled once, and not where another row has it: the error is caught. -/
def fill (w : World) (raw : Text) (tokenId : TokenId) : World :=
  if w.tokens.rows.any fun token => token.tokenLookup == some (hashing.sha256 raw) then w
  else
    { w with
      tokens := w.tokens.update (fun token => token.tokenId == tokenId && token.tokenLookup == none)
        (fun token => { token with tokenLookup := some (hashing.sha256 raw) }) fun _ => rfl }

/-- The row that is inserted for a token, and what its maker is told. -/
def insertToken (w : World) (raw salt : Text) (lookup : Option Text) (userId : UserId) (name : Text) (expiresAt askedAt : Int)
    (bounded : Bool) : World × CreateTokenResult :=
  let result : CreateTokenResult := ⟨w.nextTokenId, userId, name, raw, expiresAt, askedAt, bounded⟩
  ({ w with
      tokens := w.tokens.insertNew {
        tokenId := w.nextTokenId
        userId
        name
        tokenHash := hashing.hash salt raw
        tokenPrefix := lastFour raw
        expiresAt
        tokenLookup := lookup }
      nextTokenId := w.nextTokenId + 1
      made := w.made ++ [result] }, result)

def proceed (w : World) (at_ : Nat) : Call → Except Refused World
  | .checksUser userId name expiresAt askedAt =>
    .ok (w.setCall at_ (if w.users.contains userId then .inserts userId name expiresAt askedAt else .notCreated .userNotFound))
  | .finds userId tokenId => .ok (w.setCall at_ (revokeFound w userId tokenId))
  | .revokes tokenId => .ok ((setRevoked w tokenId).setCall at_ (.revoked tokenId false))
  | .looksUp raw => .ok (w.setCall at_ (lookedUp hashing w raw))
  | .looksBefore raw => .ok (w.setCall at_ (findTokenMadeBeforeLookup hashing w raw))
  | .fills raw token => .ok ((fill hashing w raw token.tokenId).setCall at_ (.judges raw token))
  | .judges raw token => .ok (w.setCall at_ (.validated raw (judge token w.now) w.now))
  | _ => .error .impossible

def step (w : World) : Event → Except Refused World
  | .wait ms => .ok { w with now := w.now + ms }
  | .openAccount userId => .ok { w with users := userId :: w.users }
  | .createToken userId name requested => .ok (w.begin_ (createToken userId name requested w.now))
  | .revokeToken userId tokenId => .ok (w.begin_ (.finds userId tokenId))
  | .validateToken raw => .ok (w.begin_ (validateToken raw w.now))
  | .proceed at_ =>
    match w.calls[at_]? with
    | none => .error .impossible
    | some call => proceed hashing w at_ call
  | .insert at_ bytes salt =>
    match w.calls[at_]? with
    | some (.inserts userId name expiresAt askedAt) =>
      let raw := rawTokenOf bytes
      if w.tokens.rows.any fun token => token.tokenLookup == some (hashing.sha256 raw) then .ok (w.setCall at_ (.notCreated .duplicate))
      else
        let (inserted, result) := insertToken hashing w raw salt (some (hashing.sha256 raw)) userId name expiresAt askedAt true
        .ok (inserted.setCall at_ (.created result))
    | _ => .error .impossible
  | .insertBefore userId name bytes salt expiresAt =>
    if w.users.contains userId then .ok (insertToken hashing w (rawTokenOf bytes) salt none userId name expiresAt w.now false).1
    else .error .impossible
  | .deleteTokens userId => .ok { w with tokens := w.tokens.filter fun token => token.userId != userId }

end

/-! What one step can do. -/

/-- The turns of a call that write nothing. -/
inductive Turn (hashing : Hashing) (w : World) : Call → Call → Prop
  | user {userId name expiresAt askedAt} :
      Turn hashing w (.checksUser userId name expiresAt askedAt) (.inserts userId name expiresAt askedAt)
  | noUser {userId name expiresAt askedAt} : Turn hashing w (.checksUser userId name expiresAt askedAt) (.notCreated .userNotFound)
  | duplicate {userId name expiresAt askedAt} : Turn hashing w (.inserts userId name expiresAt askedAt) (.notCreated .duplicate)
  | found {userId tokenId} : Turn hashing w (.finds userId tokenId) (revokeFound w userId tokenId)
  | lookedUp {raw} : Turn hashing w (.looksUp raw) (lookedUp hashing w raw)
  | lookedBefore {raw} : Turn hashing w (.looksBefore raw) (findTokenMadeBeforeLookup hashing w raw)
  | judged {raw token} : Turn hashing w (.judges raw token) (.validated raw (judge token w.now) w.now)

inductive Begins (w : World) : Call → Prop
  | createToken (userId name requested) : Begins w (createToken userId name requested w.now)
  | revokeToken (userId tokenId) : Begins w (.finds userId tokenId)
  | validateToken (raw) : Begins w (validateToken raw w.now)

inductive Move (hashing : Hashing) (w : World) : World → Prop
  | wait (ms : Nat) : Move hashing w { w with now := w.now + ms }
  | openAccount (userId : UserId) : Move hashing w { w with users := userId :: w.users }
  | begins {call : Call} (begun : Begins w call) : Move hashing w (w.begin_ call)
  | turns {at_ : Nat} {before after : Call} (calling : w.calls[at_]? = some before) (turn : Turn hashing w before after) :
      Move hashing w (w.setCall at_ after)
  | revokes {at_ : Nat} {tokenId : TokenId} (calling : w.calls[at_]? = some (.revokes tokenId)) :
      Move hashing w ((setRevoked w tokenId).setCall at_ (.revoked tokenId false))
  | fills {at_ : Nat} {raw : Text} {token : PersonalAccessToken} (calling : w.calls[at_]? = some (.fills raw token)) :
      Move hashing w ((fill hashing w raw token.tokenId).setCall at_ (.judges raw token))
  | inserts {at_ : Nat} {userId : UserId} {name : Text} {expiresAt askedAt : Int} {bytes : Vector UInt8 32} {salt : Text}
      (calling : w.calls[at_]? = some (.inserts userId name expiresAt askedAt)) :
      Move hashing w ((insertToken hashing w (rawTokenOf bytes) salt (some (hashing.sha256 (rawTokenOf bytes))) userId name expiresAt
        askedAt true).1.setCall at_ (.created ⟨w.nextTokenId, userId, name, rawTokenOf bytes, expiresAt, askedAt, true⟩))
  | insertsBefore {userId : UserId} {name : Text} {bytes : Vector UInt8 32} {salt : Text} {expiresAt : Int} :
      Move hashing w (insertToken hashing w (rawTokenOf bytes) salt none userId name expiresAt w.now false).1
  | deletes (userId : UserId) : Move hashing w { w with tokens := w.tokens.filter fun token => token.userId != userId }

/-- The next of a call, whether it writes or not. -/
inductive Next (hashing : Hashing) (w : World) : Call → Call → Prop
  | turn {before after : Call} (turn : Turn hashing w before after) : Next hashing w before after
  | revokes {tokenId} : Next hashing w (.revokes tokenId) (.revoked tokenId false)
  | fills {raw token} : Next hashing w (.fills raw token) (.judges raw token)
  | inserts {userId name expiresAt askedAt result} : Next hashing w (.inserts userId name expiresAt askedAt) (.created result)

section
variable {hashing : Hashing} {w w' : World} {event : Event} {at_ i : Nat} {call before after : Call}

theorem proceed_moves (calling : w.calls[at_]? = some call) (committed : proceed hashing w at_ call = .ok w') : Move hashing w w' := by
  cases call with
  | checksUser userId name expiresAt askedAt =>
    cases committed
    split
    · exact .turns calling .user
    · exact .turns calling .noUser
  | finds userId tokenId =>
    cases committed
    exact .turns calling .found
  | revokes tokenId =>
    cases committed
    exact .revokes calling
  | looksUp raw =>
    cases committed
    exact .turns calling .lookedUp
  | looksBefore raw =>
    cases committed
    exact .turns calling .lookedBefore
  | fills raw token =>
    cases committed
    exact .fills calling
  | judges raw token =>
    cases committed
    exact .turns calling .judged
  | inserts | created | notCreated | revoked | notRevoked | validated => cases committed

theorem step_moves (committed : step hashing w event = .ok w') : Move hashing w w' := by
  cases event with
  | wait ms =>
    cases committed
    exact .wait ms
  | openAccount userId =>
    cases committed
    exact .openAccount userId
  | createToken userId name requested =>
    cases committed
    exact .begins (.createToken userId name requested)
  | revokeToken userId tokenId =>
    cases committed
    exact .begins (.revokeToken userId tokenId)
  | validateToken raw =>
    cases committed
    exact .begins (.validateToken raw)
  | proceed at_ =>
    dsimp only [step] at committed
    split at committed
    · cases committed
    · rename_i calling
      exact proceed_moves calling committed
  | insert at_ bytes salt =>
    dsimp only [step] at committed
    split at committed
    · rename_i userId name expiresAt askedAt calling
      split at committed
      · cases committed
        exact .turns calling .duplicate
      · cases committed
        exact .inserts calling
    · cases committed
  | insertBefore userId name bytes salt expiresAt =>
    dsimp only [step] at committed
    split at committed
    · cases committed
      exact .insertsBefore
    · cases committed
  | deleteTokens userId =>
    cases committed
    exact .deletes userId

theorem fill_calls (hashing : Hashing) (w : World) (raw : Text) (tokenId : TokenId) : (fill hashing w raw tokenId).calls = w.calls := by
  unfold fill
  split <;> rfl

theorem setCall_calls (was : w.calls[at_]? = some before) (next : Next hashing w before after) {w₁ : World}
    (same : w₁.calls = w.calls) (i : Nat) : (w₁.setCall at_ after).calls[i]? = w.calls[i]? ∨
      ∃ before after', w.calls[i]? = some before ∧ (w₁.setCall at_ after).calls[i]? = some after' ∧
        Next hashing w before after' := by
  by_cases here : at_ = i
  · subst here
    refine .inr ⟨before, after, was, ?_, next⟩
    rw [World.setCall, same, List.getElem?_set_self (List.getElem?_eq_some_iff.mp was).1]
  · left
    rw [World.setCall, same, List.getElem?_set_ne here]

/-- What a step does to one call. -/
theorem Move.calls (move : Move hashing w w') (i : Nat) : w'.calls[i]? = w.calls[i]? ∨
    (∃ before after, w.calls[i]? = some before ∧ w'.calls[i]? = some after ∧ Next hashing w before after) ∨
      w.calls[i]? = none ∧ ∃ after, w'.calls[i]? = some after ∧ Begins w after := by
  cases move with
  | wait | openAccount | insertsBefore | deletes => exact .inl rfl
  | begins begun =>
    rename_i call
    rcases Nat.lt_trichotomy i w.calls.length with old | rfl | beyond
    · exact .inl (List.getElem?_append_left old)
    · exact .inr (.inr ⟨List.getElem?_eq_none le_rfl, call, List.getElem?_concat_length, begun⟩)
    · left
      rw [World.begin_, List.getElem?_eq_none beyond.le, List.getElem?_eq_none]
      rw [List.length_append, List.length_singleton]
      omega
  | turns calling turn => exact (setCall_calls calling (.turn turn) rfl i).imp_right .inl
  | revokes calling => exact (setCall_calls calling (show Next hashing w _ _ from .revokes) rfl i).imp_right .inl
  | fills calling => exact (setCall_calls calling (show Next hashing w _ _ from .fills) (fill_calls hashing w _ _) i).imp_right .inl
  | inserts calling => exact (setCall_calls calling (show Next hashing w _ _ from .inserts) rfl i).imp_right .inl

end

end LetterIRL.Tokens
