import LetterIRL.Content.Drafts
import LetterIRL.Lib.FixedWindow

namespace LetterIRL.Limiter
open Content Lib.FixedWindow

/-! The in-memory rate limiter: one map holds each identifier's windows and the backstops that bound everyone at once. -/

inductive Endpoint
  | auth
  | sendLetter
  | api
  | apiAccount
  | checkout
  | purchaseStart
  | checkoutAccount
  | admin
  | mcp
  | mcpAccount
  | promoAuthenticated
  | promoPublic
  | addressPublic
  deriving DecidableEq

def Endpoint.name : Endpoint → Text
  | auth => "auth".toList
  | sendLetter => "send_letter".toList
  | api => "api".toList
  | apiAccount => "api_account".toList
  | checkout => "checkout".toList
  | purchaseStart => "purchase_start".toList
  | checkoutAccount => "checkout_account".toList
  | admin => "admin".toList
  | mcp => "mcp".toList
  | mcpAccount => "mcp_account".toList
  | promoAuthenticated => "promo_authenticated".toList
  | promoPublic => "promo_public".toList
  | addressPublic => "address_public".toList

def ENDPOINTS : List Endpoint :=
  [.auth, .sendLetter, .api, .apiAccount, .checkout, .purchaseStart, .checkoutAccount, .admin, .mcp, .mcpAccount,
    .promoAuthenticated, .promoPublic, .addressPublic]

structure RateLimitConfig where
  windowMs : Int
  maxRequests : Nat

def RATE_LIMITS : Endpoint → RateLimitConfig
  | .auth => ⟨60 * 1000, 10⟩
  | .sendLetter => ⟨60 * 60 * 1000, 20⟩
  | .api => ⟨60 * 1000, 600⟩
  | .apiAccount => ⟨60 * 1000, 60⟩
  | .checkout => ⟨60 * 1000, 60⟩
  | .purchaseStart => ⟨60 * 1000, 30⟩
  | .checkoutAccount => ⟨60 * 1000, 10⟩
  | .admin => ⟨60 * 1000, 50⟩
  | .mcp => ⟨60 * 1000, 600⟩
  | .mcpAccount => ⟨60 * 1000, 60⟩
  | .promoAuthenticated => ⟨60 * 1000, 10⟩
  | .promoPublic => ⟨60 * 1000, 10⟩
  | .addressPublic => ⟨60 * 1000, 20⟩

/-- The routes with a backstop. -/
def GLOBAL_RATE_LIMITS : Endpoint → Option RateLimitConfig
  | .promoPublic => some ⟨60 * 1000, 100⟩
  | .addressPublic => some ⟨60 * 1000, 200⟩
  | .mcp => some ⟨60 * 1000, 1200⟩
  | .api => some ⟨60 * 1000, 2000⟩
  | .checkout => some ⟨60 * 1000, 200⟩
  | .purchaseStart => some ⟨60 * 1000, 3000⟩
  | .promoAuthenticated => some ⟨60 * 1000, 100⟩
  | _ => none

inductive UserTier
  | standard
  | trusted
  deriving DecidableEq

def TIER_RATE_MULTIPLIERS : UserTier → Endpoint → Option ℚ
  | .trusted, .auth => some (3 / 2)
  | .trusted, .sendLetter => some (5 / 2)
  | .trusted, .api => some 2
  | .trusted, .apiAccount => some 2
  | .trusted, .checkout => some 2
  | .trusted, .checkoutAccount => some 2
  | .trusted, .mcp => some 2
  | .trusted, .mcpAccount => some 2
  | _, _ => none

def getTierMultiplier (tier : UserTier) (endpointType : Endpoint) : ℚ := (TIER_RATE_MULTIPLIERS tier endpointType).getD 1

def getEffectiveRateLimit (endpointType : Endpoint) (tier : UserTier) : Int :=
  ⌊((RATE_LIMITS endpointType).maxRequests : ℚ) * getTierMultiplier tier endpointType⌋

/-- What the limiter reads of a request: the lines of `X-Forwarded-For`, the socket's address, and the account that
authentication attached. -/
structure Request where
  forwardedFor : List Text
  remoteAddress : Option Text
  userId : Option Text

def forwardedForHops (lines : List Text) : List Text :=
  ((lines.flatMap (·.splitOn ',')).map trim).filter (· != [])

/-- The hop just before the trusted ones, and the first where there are no more. -/
def clientAddressFromHops (hops : List Text) (trustedProxyHops : Nat) : Option Text :=
  hops[hops.length - 1 - trustedProxyHops]?

section
-- `TRUSTED_PROXY_HOPS`
variable (trustedProxyHops : Nat)

def getClientIdentifier (req : Request) : Text :=
  ((clientAddressFromHops (forwardedForHops req.forwardedFor) trustedProxyHops).or req.remoteAddress).getD "unknown".toList

def getUserIdentifier (req : Request) : Option Text := req.userId.filter (· != [])

def identifier (req : Request) : Text := (getUserIdentifier req).getD (getClientIdentifier trustedProxyHops req)

/-- `${identifier}:${endpointType}` -/
def keyOf (identifier : Text) (endpointType : Endpoint) : Text := identifier ++ ':' :: endpointType.name

def GLOBAL : Text := "global".toList

/-- A call of the limiter, at the time it reads. -/
inductive Call
  | checkRateLimit (req : Request) (endpointType : Endpoint) (now : Int)
  /-- With the tier that `getCachedUserTier` answers of the account, unless it throws. -/
  | checkRateLimitWithTier (req : Request) (endpointType : Endpoint) (cached : Option UserTier) (now : Int)
  | checkGlobalRateLimit (endpointType : Endpoint) (now : Int)
  | cleanupExpiredEntries (now : Int)

def Call.now : Call → Int
  | checkRateLimit _ _ now => now
  | checkRateLimitWithTier _ _ _ now => now
  | checkGlobalRateLimit _ now => now
  | cleanupExpiredEntries now => now

/-- The tier looked up for an account, and `standard` for an address. -/
def lookedUpTier (req : Request) (cached : Option UserTier) : UserTier :=
  if (getUserIdentifier req).isSome then cached.getD .standard else .standard

def maxWindowMs : Int := (ENDPOINTS.map fun endpointType => (RATE_LIMITS endpointType).windowMs).foldl max 0

/-- The place in the map each call asks for; none for a route without a backstop. -/
def Call.op : Call → Option (Op Text)
  | checkRateLimit req endpointType now =>
    some (.take (keyOf (identifier trustedProxyHops req) endpointType) (RATE_LIMITS endpointType).windowMs
      (RATE_LIMITS endpointType).maxRequests now)
  | checkRateLimitWithTier req endpointType cached now =>
    some (.take (keyOf (identifier trustedProxyHops req) endpointType) (RATE_LIMITS endpointType).windowMs
      (getEffectiveRateLimit endpointType (lookedUpTier req cached)) now)
  | checkGlobalRateLimit endpointType now =>
    (GLOBAL_RATE_LIMITS endpointType).map fun config =>
      .take (keyOf GLOBAL endpointType) config.windowMs config.maxRequests now
  | cleanupExpiredEntries now => some (.sweep (maxWindowMs * 2) now)

structure Answer where
  verdict : Verdict
  tier : Option UserTier
  deriving DecidableEq

/-- What a call answers, with the verdict on the place it asked for. -/
def Call.answer : Call → Option Verdict → Option Answer
  | checkRateLimit _ _ _, verdict => verdict.map (⟨·, none⟩)
  | checkRateLimitWithTier req _ cached _, verdict => verdict.map (⟨·, some (lookedUpTier req cached)⟩)
  | checkGlobalRateLimit _ _, verdict => some ⟨verdict.getD ⟨true, 0, 0, 0⟩, none⟩
  | cleanupExpiredEntries _, _ => none

/-- The answers of calls that reach the map in their order. -/
def answers (store : Store Text) (calls : List Call) : List (Call × Answer) :=
  (verdicts (Call.op trustedProxyHops) store calls).filterMap fun got => (got.1.answer got.2).map (got.1, ·)

/-- The identifier and the endpoint whose limit the call is held to. -/
def Call.heldTo : Call → Option (Text × Endpoint)
  | checkRateLimit req endpointType _ => some (identifier trustedProxyHops req, endpointType)
  | checkRateLimitWithTier req endpointType _ _ => some (identifier trustedProxyHops req, endpointType)
  | _ => none

def Call.madeBy (identifier : Text) (call : Call) : Bool := (call.heldTo trustedProxyHops).any (·.1 == identifier)

/-- The effective maximum of the call. -/
def Call.maximum : Call → Int
  | checkRateLimit _ endpointType _ => (RATE_LIMITS endpointType).maxRequests
  | checkRateLimitWithTier req endpointType cached _ => getEffectiveRateLimit endpointType (lookedUpTier req cached)
  | _ => 0

def Call.cleansUp : Call → Bool
  | cleanupExpiredEntries _ => true
  | _ => false

/-- The calls for an identifier and an endpoint, from `start` on and within the endpoint's window from there. -/
def Call.inside (identifier : Text) (endpointType : Endpoint) (start : Int) (call : Call) : Bool :=
  call.heldTo trustedProxyHops == some (identifier, endpointType) && decide (start ≤ call.now) &&
    decide (call.now < start + (RATE_LIMITS endpointType).windowMs)

/-- How many of them are admitted, from an empty map on. -/
def admitted (identifier : Text) (endpointType : Endpoint) (start : Int) (calls : List Call) : Nat :=
  (answers trustedProxyHops (fun _ => none) calls).countP fun got =>
    got.1.inside trustedProxyHops identifier endpointType start && got.2.verdict.allowed

end

end LetterIRL.Limiter
