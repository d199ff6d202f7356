import LetterIRL.Commerce.Rows
import LetterIRL.Lib.Runs

namespace LetterIRL.Prices
open Lib Commerce

/-! The resolved price catalog, of one process. -/

abbrev Text := List Char

/-- The flags that sell a Pay & Send option. -/
inductive Flag
  | roomToWrite
  | postcardSizes
  | certifiedMail
  deriving DecidableEq

/-- `JitProductDefinition.enabledBy`. -/
def enabledBy : JitProductCode → Option Flag
  | .jitLetter | .jitPostcard => none
  | .jitLetter2Pages | .jitLetter3Pages => some .roomToWrite
  | .jitPostcard4x6 | .jitPostcard11x6 => some .postcardSizes
  | .jitLetterCertified | .jitLetterCertifiedReceipt => some .certifiedMail

/-- The environment variables read here; an unset one reads as empty. -/
structure Env where
  stripeSecretKey : Text := []
  stripeCurrency : Text := []
  jitCurrency : Text := []
  /-- `JIT_PURCHASE_ENABLED === 'true'`. -/
  jitPurchaseEnabled : Bool := false
  flag : Flag → Bool := fun _ => false
  /-- The variable a product's `priceEnv` names. -/
  priceId : ProductCode → Text := fun _ => []

def trim (text : Text) : Text :=
  ((text.dropWhile Char.isWhitespace).reverse.dropWhile Char.isWhitespace).reverse

/-- `normalizedCurrency`, with its fallback. -/
def currencyOr (value fallback : Text) : Text :=
  if normalizedCurrency value = [] then fallback else normalizedCurrency value

def packCurrency (env : Env) : Text := currencyOr env.stripeCurrency ['u', 's', 'd']

def jitCurrency (env : Env) : Text := currencyOr env.jitCurrency (packCurrency env)

structure ConfiguredProduct where
  credential : Text
  productCode : ProductCode
  priceId : Text
  expectedAmountCents : Cents
  expectedCurrency : Text
  deriving DecidableEq

/-- `digest` is the first sixteen hex digits of a key's SHA-256. -/
def credentialFingerprint (digest : Text → Text) (env : Env) : Text :=
  if trim env.stripeSecretKey = [] then ['u', 'n', 's', 'e', 't'] else digest (trim env.stripeSecretKey)

def configuredRow (digest : Text → Text) (env : Env) (productCode : ProductCode) (expectedAmountCents : Cents)
    (currency : Text) : ConfiguredProduct where
  credential := credentialFingerprint digest env
  productCode := productCode
  priceId := trim (env.priceId productCode)
  expectedAmountCents := expectedAmountCents
  expectedCurrency := currency

def isJitProductSold (env : Env) (product : JitProduct) : Bool := (enabledBy product.productCode).all env.flag

def packRow (digest : Text → Text) (env : Env) (product : PackProduct) : ConfiguredProduct :=
  configuredRow digest env (.pack product.productCode) product.expectedAmountCents (packCurrency env)

def jitRow (digest : Text → Text) (env : Env) (product : JitProduct) : ConfiguredProduct :=
  configuredRow digest env (.jit product.productCode) product.expectedAmountCents (jitCurrency env)

def getConfiguredProducts (digest : Text → Text) (env : Env) : List ConfiguredProduct :=
  PACK_PRODUCTS.map (packRow digest env) ++
    if env.jitPurchaseEnabled then (JIT_PRODUCTS.filter (isJitProductSold env)).map (jitRow digest env) else []

/-- One product's row, without the table. -/
def getConfiguredProduct (digest : Text → Text) (env : Env) : ProductCode → Option ConfiguredProduct
  | .pack code => (PACK_PRODUCTS.find? fun product => product.productCode == code).map (packRow digest env)
  | .jit code =>
    if !env.jitPurchaseEnabled then none
    else
      match JIT_PRODUCTS.find? fun product => product.productCode == code with
      | none => none
      | some product => if isJitProductSold env product then some (jitRow digest env product) else none

def isConfiguredProductCode (env : Env) : ProductCode → Bool
  | .pack code => PACK_PRODUCTS.any fun product => product.productCode == code
  | .jit code =>
    env.jitPurchaseEnabled && JIT_PRODUCTS.any fun product => product.productCode == code && isJitProductSold env product

structure ResolvedPrice where
  productCode : ProductCode
  priceId : Text
  unitAmount : Cents
  currency : Text
  credential : Text
  deriving DecidableEq

inductive Rule
  | notResolved
  | unreadable
  | inactive
  | notOneTime
  | noCurrency
  | noUnitAmount
  | amountMismatch
  | currencyMismatch
  | idNotConfigured
  | lookupFailed
  deriving DecidableEq

inductive DiagnosticClass
  | configurationError
  | providerError
  | resourceMissing
  | apiKeyExpired
  | testmodeChargesOnly
  | stripeAuthenticationError
  | stripePermissionError
  | amountTooSmall
  | amountTooLarge
  | parameterMissing
  | parameterInvalidInteger
  | other (serial : Nat)
  deriving DecidableEq

/-- `TERMINAL_ERROR_CLASSES`: a human must act on them. -/
def isTerminalDiagnosticClass : DiagnosticClass → Bool
  | .providerError | .other _ => false
  | _ => true

/-- What disagreed: `expected … / stripe …`. -/
inductive Detail
  | amounts (expected stripe : Cents)
  | currencies (expected stripe : Text)
  deriving DecidableEq

structure PriceResolutionFailure where
  productCode : ProductCode
  rule : Rule
  diagnosticClass : DiagnosticClass
  detail : Option Detail := none
  deriving DecidableEq

structure AttemptState where
  productCode : ProductCode
  transientFailures : Nat
  terminalFailures : Nat
  nextAttemptAt : Time
  signature : Text
  deriving DecidableEq

/-- An entry of `inFlight`: the promise it holds, and what it was started for. -/
structure InFlight where
  productCode : ProductCode
  flightId : Nat
  signature : Text
  deriving DecidableEq

/-- A `resolveOne` not over yet; `settled` once it has committed, with its `finally` to run. -/
structure Flight where
  flightId : Nat
  product : ConfiguredProduct
  startedGen : Nat
  settled : Bool := false
  deriving DecidableEq

structure Catalog where
  resolved : Table ResolvedPrice.productCode := Table.empty
  failures : Table PriceResolutionFailure.productCode := Table.empty
  attempts : Table AttemptState.productCode := Table.empty
  inFlight : Table InFlight.productCode := Table.empty
  generation : Nat := 0

/-- The process: its environment, the clock in milliseconds, the catalog and the lookups under way. -/
structure World where
  env : Env
  now : Time := 0
  catalog : Catalog := {}
  flights : Table Flight.flightId := Table.empty
  nextFlight : Nat := 0

/-- The text both `configSignature` and a memo's comparison with it spell out. -/
def signatureText (priceId : Text) (amount : Cents) (currency credential : Text) : Text :=
  priceId ++ '|' :: ((toString amount).toList ++ '|' :: (currency ++ '|' :: credential))

def configSignature (product : ConfiguredProduct) : Text :=
  signatureText product.priceId product.expectedAmountCents product.expectedCurrency product.credential

def memoMatchesConfiguration (memo : ResolvedPrice) (product : ConfiguredProduct) : Bool :=
  signatureText memo.priceId memo.unitAmount memo.currency memo.credential == configSignature product

def notResolvedFailure (productCode : ProductCode) : PriceResolutionFailure :=
  { productCode, rule := .notResolved, diagnosticClass := .providerError }

def getResolvedPriceForProduct (digest : Text → Text) (w : World) (productCode : ProductCode) : Option ResolvedPrice :=
  match w.catalog.resolved.find productCode, getConfiguredProduct digest w.env productCode with
  | some memo, some product => if memoMatchesConfiguration memo product then some memo else none
  | _, _ => none

def storedFailureIfCurrent (catalog : Catalog) (productCode : ProductCode) (product : Option ConfiguredProduct) :
    Option PriceResolutionFailure :=
  match catalog.failures.find productCode, product with
  | some stored, some product =>
    if (catalog.attempts.find productCode).any fun state => state.signature != configSignature product then none
    else some stored
  | _, _ => none

/-- `env` is the caller's. -/
def describeUnpriced (digest : Text → Text) (catalog : Catalog) (productCode : ProductCode) (env : Env) :
    PriceResolutionFailure :=
  (storedFailureIfCurrent catalog productCode (getConfiguredProduct digest env productCode)).getD
    (notResolvedFailure productCode)

def getUnpricedProducts (digest : Text → Text) (catalog : Catalog) (env : Env) : List PriceResolutionFailure :=
  (getConfiguredProducts digest env).filterMap fun product =>
    if (catalog.resolved.find product.productCode).any fun memo => memoMatchesConfiguration memo product then none
    else some ((storedFailureIfCurrent catalog product.productCode (some product)).getD
      (notResolvedFailure product.productCode))

/-- A Stripe Price; `unitAmount` is none where it is null or no integer. -/
structure StripePrice where
  active : Bool
  recurring : Bool := false
  /-- `type`, where there is one: whether it is `one_time`. -/
  oneTime : Option Bool := some true
  currency : Text
  unitAmount : Option Cents
  deriving DecidableEq

structure Refusal where
  rule : Rule
  diagnosticClass : DiagnosticClass := .configurationError
  detail : Option Detail := none
  deriving DecidableEq

def validate (product : ConfiguredProduct) : Option StripePrice → Except Refusal ResolvedPrice
  | none => .error { rule := .unreadable, diagnosticClass := .providerError }
  | some price =>
    if !price.active then .error { rule := .inactive }
    else if price.recurring || price.oneTime == some false then .error { rule := .notOneTime }
    else if normalizedCurrency price.currency = [] then .error { rule := .noCurrency }
    else
      match price.unitAmount with
      | none => .error { rule := .noUnitAmount }
      | some unitAmount =>
        if unitAmount ≠ product.expectedAmountCents then
          .error { rule := .amountMismatch, detail := some (.amounts product.expectedAmountCents unitAmount) }
        else if normalizedCurrency price.currency ≠ product.expectedCurrency then
          .error { rule := .currencyMismatch
                   detail := some (.currencies product.expectedCurrency (normalizedCurrency price.currency)) }
        else .ok { productCode := product.productCode, priceId := product.priceId, unitAmount,
                   currency := normalizedCurrency price.currency, credential := product.credential }

def byCode (products : List ConfiguredProduct) (code : ProductCode) : Option ConfiguredProduct :=
  products.find? fun product => product.productCode == code

/-- An attempt recorded under a configuration that is not the product's now. -/
def staleAttempt (products : List ConfiguredProduct) (state : AttemptState) : Bool :=
  (byCode products state.productCode).all fun product => configSignature product != state.signature

def pruneStale (products : List ConfiguredProduct) (catalog : Catalog) : Catalog :=
  { catalog with
    attempts := catalog.attempts.filter fun state => !staleAttempt products state
    failures := catalog.failures.filter fun failure =>
      (byCode products failure.productCode).isSome &&
        !(catalog.attempts.find failure.productCode).any (staleAttempt products)
    resolved := catalog.resolved.filter fun memo =>
      (byCode products memo.productCode).any (memoMatchesConfiguration memo) }

def TRANSIENT_COOLDOWN_BASE_MS : Time := 2000
def TRANSIENT_COOLDOWN_MAX_MS : Time := 2 * 60000
def TERMINAL_COOLDOWN_BASE_MS : Time := 30000
def TERMINAL_COOLDOWN_MAX_MS : Time := 15 * 60000

/-- `boundedExponentialDelayMs`; `jitter` is what it draws, below a second. -/
def cooldown (terminal : Bool) (consecutive jitter : Nat) : Time :=
  let base := if terminal then TERMINAL_COOLDOWN_BASE_MS else TRANSIENT_COOLDOWN_BASE_MS
  let ceiling := if terminal then TERMINAL_COOLDOWN_MAX_MS else TRANSIENT_COOLDOWN_MAX_MS
  min (base * 2 ^ (consecutive - 1)) ceiling + jitter

def recordFailure (now : Time) (catalog : Catalog) (productCode : ProductCode) (signature : Text) (refusal : Refusal)
    (jitter : Nat) : Catalog :=
  let terminal := isTerminalDiagnosticClass refusal.diagnosticClass
  -- Counters carry over only within one configuration.
  let prior := (catalog.attempts.find productCode).filter fun state => state.signature == signature
  let transientFailures := (prior.elim 0 AttemptState.transientFailures) + if terminal then 0 else 1
  let terminalFailures := (prior.elim 0 AttemptState.terminalFailures) + if terminal then 1 else 0
  let consecutive := if terminal then terminalFailures else transientFailures
  { catalog with
    failures := catalog.failures.set
      { productCode, rule := refusal.rule, diagnosticClass := refusal.diagnosticClass, detail := refusal.detail }
    attempts := catalog.attempts.set
      { productCode, transientFailures, terminalFailures, signature
        nextAttemptAt := now + cooldown terminal consecutive jitter } }

/-- What a lookup committed, with the row it was started for. -/
inductive Commit
  | resolved (product : ConfiguredProduct) (memo : ResolvedPrice)
  | failed (product : ConfiguredProduct) (failure : PriceResolutionFailure)
  deriving DecidableEq

/-- `stale`: a reset, or any change of the configuration since the lookup began. -/
def stale (digest : Text → Text) (w : World) (product : ConfiguredProduct) (startedGen : Nat) : Bool :=
  w.catalog.generation != startedGen ||
    (getConfiguredProduct digest w.env product.productCode).all fun current =>
      configSignature current != configSignature product

def commitFailure (digest : Text → Text) (w : World) (product : ConfiguredProduct) (startedGen : Nat)
    (refusal : Refusal) (jitter : Nat) : World × List Commit :=
  if stale digest w product startedGen then (w, [])
  else
    ({ w with
        catalog := recordFailure w.now w.catalog product.productCode (configSignature product) refusal jitter },
      [.failed product { productCode := product.productCode, rule := refusal.rule,
                         diagnosticClass := refusal.diagnosticClass, detail := refusal.detail }])

def commitPrice (digest : Text → Text) (w : World) (product : ConfiguredProduct) (startedGen : Nat)
    (memo : ResolvedPrice) : World × List Commit :=
  if stale digest w product startedGen then (w, [])
  else
    ({ w with catalog := { w.catalog with
        resolved := w.catalog.resolved.set memo
        failures := w.catalog.failures.erase product.productCode
        attempts := w.catalog.attempts.erase product.productCode } },
      [.resolved product memo])

/-- What `retrievePrice` comes to; `missing` is `PriceRetrieverMissingError`, which is rethrown. -/
inductive Answer
  | price (price : Option StripePrice)
  | fault (diagnosticClass : DiagnosticClass)
  | missing
  deriving DecidableEq

/-- The rest of `resolveOne` once `retrievePrice` is through. -/
def resolveAnswer (digest : Text → Text) (w : World) (product : ConfiguredProduct) (startedGen : Nat)
    (answer : Answer) (jitter : Nat) : World × List Commit :=
  match answer with
  | .missing => (w, [])
  | .fault diagnosticClass =>
    commitFailure digest w product startedGen { rule := .lookupFailed, diagnosticClass } jitter
  | .price price =>
    match validate product price with
    | .error refusal => commitFailure digest w product startedGen refusal jitter
    | .ok memo => commitPrice digest w product startedGen memo

/-- How the retriever takes a call: what it throws at once for a price id, if anything, and the jitter drawn. -/
structure Retriever where
  throws : Text → Option Answer := fun _ => none
  jitter : ProductCode → Nat := fun _ => 0

/-- `resolveOne` up to its first `await`, and its entry in `inFlight`. -/
def startLookup (digest : Text → Text) (retriever : Retriever) (w : World) (product : ConfiguredProduct) :
    World × List Commit :=
  let jitter := retriever.jitter product.productCode
  let startedGen := w.catalog.generation
  let first : Option (World × List Commit) :=
    if product.priceId = [] then some (commitFailure digest w product startedGen { rule := .idNotConfigured } jitter)
    else (retriever.throws product.priceId).map fun answer => resolveAnswer digest w product startedGen answer jitter
  let begun := (first.getD (w, [])).1
  let entry : InFlight :=
    { productCode := product.productCode, flightId := w.nextFlight, signature := configSignature product }
  ({ begun with
      catalog := { begun.catalog with inFlight := begun.catalog.inFlight.set entry }
      flights := begun.flights.set { flightId := w.nextFlight, product, startedGen, settled := first.isSome }
      nextFlight := w.nextFlight + 1 },
    (first.getD (w, [])).2)

def startLookups (digest : Text → Text) (retriever : Retriever) (w : World) :
    List ConfiguredProduct → World × List Commit
  | [] => (w, [])
  | product :: due =>
    let begun := startLookup digest retriever w product
    let rest := startLookups digest retriever begun.1 due
    (rest.1, begun.2 ++ rest.2)

/-- A lookup under way for the product as it is configured. -/
def currentFlight (catalog : Catalog) (product : ConfiguredProduct) : Bool :=
  (catalog.inFlight.find product.productCode).any fun flight => flight.signature == configSignature product

/-- Not resolved, and nothing under way: due for an attempt, or cooling down. -/
def unresolved (catalog : Catalog) (product : ConfiguredProduct) : Bool :=
  (catalog.resolved.find product.productCode).isNone && !currentFlight catalog product

def coolingDown (now : Time) (catalog : Catalog) (product : ConfiguredProduct) : Option AttemptState :=
  (catalog.attempts.find product.productCode).filter fun state => now < state.nextAttemptAt

/-- What a call of `ensurePriceCatalog` does and commits, and the cooldowns it leaves the caller with. -/
structure Ensured where
  world : World
  commits : List Commit := []
  cooldowns : List AttemptState := []

/-- The part of `ensurePriceCatalog` past its fast paths. -/
def ensureDue (digest : Text → Text) (retriever : Retriever) (w : World) (productCode : Option ProductCode) : Ensured :=
  let products := getConfiguredProducts digest w.env
  let catalog := pruneStale products w.catalog
  let pruned := { w with catalog }
  let mine := fun product : ConfiguredProduct => productCode.all (· == product.productCode)
  if (productCode.bind (getConfiguredProduct digest w.env)).any (currentFlight catalog) then { world := pruned }
  else
    let due := products.filter fun product =>
      unresolved catalog product && (coolingDown w.now catalog product).isNone
    let begun := startLookups digest retriever pruned due
    { world := begun.1, commits := begun.2
      cooldowns := (products.filter fun product => mine product && unresolved catalog product).filterMap
        (coolingDown w.now catalog) }

/-- A code no longer sold has left state behind. -/
def holdsUnsoldState (env : Env) (catalog : Catalog) : Bool :=
  (catalog.resolved.rows.map ResolvedPrice.productCode ++ catalog.failures.rows.map PriceResolutionFailure.productCode ++
    catalog.attempts.rows.map AttemptState.productCode).any fun code => !isConfiguredProductCode env code

def ensurePriceCatalog (digest : Text → Text) (retriever : Retriever) (w : World) (productCode : Option ProductCode) :
    Ensured :=
  match productCode with
  | none => ensureDue digest retriever w none
  | some code =>
    if !isConfiguredProductCode w.env code then
      if holdsUnsoldState w.env w.catalog then
        { world := { w with catalog := pruneStale (getConfiguredProducts digest w.env) w.catalog } }
      else { world := w }
    else
      match getConfiguredProduct digest w.env code with
      | none => ensureDue digest retriever w (some code)
      | some product =>
        if (w.catalog.resolved.find code).any fun memo => memoMatchesConfiguration memo product then { world := w }
        else
          match (w.catalog.attempts.find code).filter fun state =>
              state.signature == configSignature product && decide (w.now < state.nextAttemptAt) &&
                (w.catalog.inFlight.find code).isNone with
          | some state => { world := w, cooldowns := [state] }
          | none => ensureDue digest retriever w (some code)

/-- `resetPriceCatalog`. -/
def resetPriceCatalog (catalog : Catalog) : Catalog := { generation := catalog.generation + 1 }

/-- What happens next, in any order. -/
inductive Event
  | configure (env : Env)
  | tick (elapsed : Time)
  | reset
  | ensure (productCode : Option ProductCode) (retriever : Retriever)
  | answers (flightId : Nat) (answer : Answer) (jitter : Nat)
  | finishes (flightId : Nat)

/-- A lookup's `finally`: only its own entry is deleted. -/
def finishes (w : World) (flight : Flight) : World :=
  let mine := (w.catalog.inFlight.find flight.product.productCode).any fun entry => entry.flightId == flight.flightId
  { w with
    catalog := { w.catalog with
      inFlight := if mine then w.catalog.inFlight.erase flight.product.productCode else w.catalog.inFlight }
    flights := w.flights.erase flight.flightId }

def step (digest : Text → Text) (w : World) : Event → World × List Commit
  | .configure env => ({ w with env }, [])
  | .tick elapsed => ({ w with now := w.now + elapsed }, [])
  | .reset => ({ w with catalog := resetPriceCatalog w.catalog }, [])
  | .ensure productCode retriever =>
    let ensured := ensurePriceCatalog digest retriever w productCode
    (ensured.world, ensured.commits)
  | .answers flightId answer jitter =>
    match w.flights.find flightId with
    | none => (w, [])
    | some flight =>
      if flight.settled then (w, [])
      else
        let answered := resolveAnswer digest w flight.product flight.startedGen answer jitter
        ({ answered.1 with flights := answered.1.flights.put { flight with settled := true } }, answered.2)
  | .finishes flightId =>
    match w.flights.find flightId with
    | none => (w, [])
    | some flight => if flight.settled then (finishes w flight, []) else (w, [])

/-- A run from a cold catalog: where it leads, and all it committed. -/
structure History where
  world : World
  commits : List Commit := []

def History.next (digest : Text → Text) (history : History) (event : Event) : History :=
  let stepped := step digest history.world event
  { world := stepped.1, commits := history.commits ++ stepped.2 }

def after (digest : Text → Text) (env : Env) (events : List Event) : History :=
  events.foldl (History.next digest) { world := { env } }

end LetterIRL.Prices
