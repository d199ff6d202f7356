import LetterIRL.Prices.Catalog

namespace LetterIRL.Prices
open Lib Commerce

variable {digest : Text → Text} {catalog : Catalog} {commits more : List Commit} {product : ConfiguredProduct}
  {memo : ResolvedPrice} {w : World} {env : Env} {code : ProductCode}

/-! The table of products and the one-product accessor agree. -/

def jitTable : Table JitProduct.productCode := ⟨JIT_PRODUCTS, by decide⟩

theorem byCode_jit (rows : List JitProduct) (code : JitProductCode) :
    byCode (rows.map (jitRow digest env)) (.jit code) =
      (rows.find? fun product => product.productCode == code).map (jitRow digest env) := by
  unfold byCode
  rw [List.find?_map]
  congr 2
  funext product
  exact decide_eq_decide.mpr ⟨fun same => by injection same, fun same => congrArg _ same⟩

theorem byCode_products (code : ProductCode) :
    byCode (getConfiguredProducts digest env) code = getConfiguredProduct digest env code := by
  cases code with
  | pack code => cases code <;> rfl
  | jit code =>
    unfold getConfiguredProducts getConfiguredProduct
    cases env.jitPurchaseEnabled with
    | false => rfl
    | true =>
      have sold : (jitTable.filter (isJitProductSold env)).find code =
          (jitTable.find code).filter (isJitProductSold env) := Table.find_filter
      have apart : byCode (PACK_PRODUCTS.map (packRow digest env)) (.jit code) = none := rfl
      have jits : byCode ((JIT_PRODUCTS.filter (isJitProductSold env)).map (jitRow digest env)) (.jit code) =
          ((jitTable.filter (isJitProductSold env)).find code).map (jitRow digest env) := byCode_jit _ code
      unfold byCode at apart jits ⊢
      rw [if_pos rfl, List.find?_append, apart, jits, sold]
      dsimp only
      rw [if_neg (by decide)]
      have looked : JIT_PRODUCTS.find? (fun product => product.productCode == code) = jitTable.find code := rfl
      rw [looked]
      cases jitTable.find code with
      | none => rfl
      | some product =>
        rw [Option.none_or, Option.filter_some]
        dsimp only
        split <;> rfl

theorem getConfiguredProduct_code (found : getConfiguredProduct digest env code = some product) :
    product.productCode = code := by
  rw [← byCode_products] at found
  simpa using List.find?_some found

theorem configured_unique : ((getConfiguredProducts digest env).map ConfiguredProduct.productCode).Nodup := by
  have sold : (PACK_PRODUCTS.map (fun product => ProductCode.pack product.productCode) ++
      JIT_PRODUCTS.map fun product => ProductCode.jit product.productCode).Nodup := by decide
  refine sold.sublist ?_
  unfold getConfiguredProducts
  rw [List.map_append, List.map_map]
  refine List.Sublist.append (List.Sublist.refl _) ?_
  split
  · rw [List.map_map]
    exact List.filter_sublist.map _
  · exact List.nil_sublist _

theorem byCode_mem (here : product ∈ getConfiguredProducts digest env) :
    byCode (getConfiguredProducts digest env) product.productCode = some product :=
  (Table.find_of_mem here : (⟨_, configured_unique⟩ : Table ConfiguredProduct.productCode).find _ = _)

/-! What the catalog holds, a lookup committed. -/

/-- Every price, failure and cooldown was committed by a lookup of its product, the last two under the signature
the attempt kept. -/
structure Recorded (catalog : Catalog) (commits : List Commit) : Prop where
  prices : ∀ memo ∈ catalog.resolved.rows, ∃ product, .resolved product memo ∈ commits ∧
    product.productCode = memo.productCode ∧ memoMatchesConfiguration memo product = true
  attempts : ∀ state ∈ catalog.attempts.rows, ∃ product failure, .failed product failure ∈ commits ∧
    product.productCode = state.productCode ∧ configSignature product = state.signature
  failures : ∀ failure ∈ catalog.failures.rows, ∃ state, catalog.attempts.find failure.productCode = some state ∧
    ∃ product, .failed product failure ∈ commits ∧ product.productCode = failure.productCode ∧
      configSignature product = state.signature

theorem Recorded.mono (recorded : Recorded catalog commits) (kept : commits ⊆ more) : Recorded catalog more where
  prices memo member := by
    obtain ⟨product, here, rest⟩ := recorded.prices memo member
    exact ⟨product, kept here, rest⟩
  attempts state member := by
    obtain ⟨product, failure, here, rest⟩ := recorded.attempts state member
    exact ⟨product, failure, kept here, rest⟩
  failures failure member := by
    obtain ⟨state, found, product, here, rest⟩ := recorded.failures failure member
    exact ⟨state, found, product, kept here, rest⟩

theorem Recorded.empty {generation : Nat} : Recorded { generation } commits where
  prices _ member := absurd member List.not_mem_nil
  attempts _ member := absurd member List.not_mem_nil
  failures _ member := absurd member List.not_mem_nil

theorem Recorded.prune (recorded : Recorded catalog commits) (products : List ConfiguredProduct) :
    Recorded (pruneStale products catalog) commits where
  prices memo member := recorded.prices memo (List.mem_filter.mp member).1
  attempts state member := recorded.attempts state (List.mem_filter.mp member).1
  failures failure member := by
    obtain ⟨old, chosen⟩ := List.mem_filter.mp member
    obtain ⟨state, found, rest⟩ := recorded.failures failure old
    refine ⟨state, ?_, rest⟩
    show (catalog.attempts.filter _).find _ = _
    rw [found, Option.any_some, Bool.and_eq_true] at chosen
    rw [Table.find_filter, found, Option.filter_some, if_pos chosen.2]

theorem recordFailure_attempt (now : Time) (catalog : Catalog) (signature : Text) (refusal : Refusal) (jitter : Nat) :
    ∃ state, (recordFailure now catalog code signature refusal jitter).attempts.find code = some state ∧
      state.signature = signature :=
  ⟨_, Table.find_set_self _ _, rfl⟩

/-- A failure and its attempt are written together. -/
theorem Recorded.recordFailure (recorded : Recorded catalog commits) (now : Time) (refusal : Refusal) (jitter : Nat) :
    Recorded (recordFailure now catalog product.productCode (configSignature product) refusal jitter)
      (commits ++ [.failed product { productCode := product.productCode, rule := refusal.rule,
                                     diagnosticClass := refusal.diagnosticClass, detail := refusal.detail }]) := by
  have before := recorded.mono (List.subset_append_left commits
    [.failed product { productCode := product.productCode, rule := refusal.rule,
                       diagnosticClass := refusal.diagnosticClass, detail := refusal.detail }])
  refine ⟨before.prices, fun state member => ?_, fun failure member => ?_⟩
  · rcases Table.mem_set.mp member with ⟨old, -⟩ | rfl
    · exact before.attempts state old
    · exact ⟨product, _, List.mem_append_right _ List.mem_cons_self, rfl, rfl⟩
  · rcases Table.mem_set.mp member with ⟨old, apart⟩ | rfl
    · obtain ⟨state, found, rest⟩ := before.failures failure old
      refine ⟨state, ?_, rest⟩
      unfold Prices.recordFailure
      rw [Table.find_set, if_neg apart, found]
    · obtain ⟨state, found, signature⟩ :=
        recordFailure_attempt now catalog (configSignature product) refusal jitter
      exact ⟨state, found, product, List.mem_append_right _ List.mem_cons_self, rfl, signature.symm⟩

theorem Recorded.commitFailure {startedGen : Nat} (recorded : Recorded w.catalog commits) (refusal : Refusal)
    (jitter : Nat) : Recorded (commitFailure digest w product startedGen refusal jitter).1.catalog
      (commits ++ (commitFailure digest w product startedGen refusal jitter).2) := by
  unfold Prices.commitFailure
  split
  · rwa [List.append_nil]
  · exact recorded.recordFailure w.now refusal jitter

/-- A price that passes has the row's id, pinned amount, currency and credential. -/
theorem validate_ok {price : Option StripePrice} (valid : validate product price = .ok memo) :
    memo = { productCode := product.productCode, priceId := product.priceId, unitAmount := product.expectedAmountCents,
             currency := product.expectedCurrency, credential := product.credential } := by
  unfold validate at valid
  split at valid
  · cases valid
  · repeat' split at valid
    all_goals cases valid
    rename_i amount currency
    rw [not_not.mp amount, not_not.mp currency]

theorem Recorded.commitPrice {startedGen : Nat} {price : Option StripePrice} (recorded : Recorded w.catalog commits)
    (valid : validate product price = .ok memo) :
    Recorded (commitPrice digest w product startedGen memo).1.catalog
      (commits ++ (commitPrice digest w product startedGen memo).2) := by
  unfold Prices.commitPrice
  split
  · rwa [List.append_nil]
  · have before := recorded.mono (List.subset_append_left commits [.resolved product memo])
    have row := validate_ok valid
    refine ⟨fun other member => ?_, fun state member => ?_, fun failure member => ?_⟩
    · rcases Table.mem_set.mp member with ⟨old, -⟩ | rfl
      · exact before.prices other old
      · refine ⟨product, List.mem_append_right _ List.mem_cons_self, ?_, ?_⟩
        · rw [row]
        · rw [row]
          exact beq_self_eq_true _
    · exact before.attempts state (Table.mem_erase.mp member).1
    · obtain ⟨old, apart⟩ := Table.mem_erase.mp member
      obtain ⟨state, found, rest⟩ := before.failures failure old
      exact ⟨state, (Table.find_erase_of_ne apart).trans found, rest⟩

theorem Recorded.resolveAnswer {startedGen : Nat} (recorded : Recorded w.catalog commits) (answer : Answer)
    (jitter : Nat) : Recorded (resolveAnswer digest w product startedGen answer jitter).1.catalog
      (commits ++ (resolveAnswer digest w product startedGen answer jitter).2) := by
  unfold Prices.resolveAnswer
  split
  · rwa [List.append_nil]
  · exact recorded.commitFailure _ jitter
  · split
    · exact recorded.commitFailure _ jitter
    · rename_i valid
      exact recorded.commitPrice valid

/-- An entry of `inFlight` records nothing. -/
theorem Recorded.inFlight {inFlight : Table InFlight.productCode} (recorded : Recorded catalog commits) :
    Recorded { catalog with inFlight } commits :=
  ⟨recorded.prices, recorded.attempts, recorded.failures⟩

theorem Recorded.startLookup (recorded : Recorded w.catalog commits) (retriever : Retriever) :
    Recorded (startLookup digest retriever w product).1.catalog
      (commits ++ (startLookup digest retriever w product).2) := by
  unfold Prices.startLookup
  refine Recorded.inFlight ?_
  split
  · exact recorded.commitFailure _ _
  · cases retriever.throws product.priceId with
    | none =>
      have same : Recorded w.catalog (commits ++ []) := by rwa [List.append_nil]
      exact same
    | some answer => exact recorded.resolveAnswer answer _

theorem Recorded.startLookups (recorded : Recorded w.catalog commits) (retriever : Retriever)
    (due : List ConfiguredProduct) : Recorded (startLookups digest retriever w due).1.catalog
      (commits ++ (startLookups digest retriever w due).2) := by
  induction due generalizing w commits with
  | nil =>
    unfold Prices.startLookups
    rwa [List.append_nil]
  | cons product due ih =>
    have first : Recorded (Prices.startLookup digest retriever w product).1.catalog _ := recorded.startLookup retriever
    have rest := ih first
    rw [List.append_assoc] at rest
    exact rest

/-! What a caller is served. -/

theorem Recorded.ensureDue (recorded : Recorded w.catalog commits) (retriever : Retriever)
    (productCode : Option ProductCode) : Recorded (ensureDue digest retriever w productCode).world.catalog
      (commits ++ (ensureDue digest retriever w productCode).commits) := by
  have pruned := recorded.prune (getConfiguredProducts digest w.env)
  unfold Prices.ensureDue
  dsimp only
  split
  · rwa [List.append_nil]
  · exact Recorded.startLookups pruned retriever _

theorem Recorded.ensurePriceCatalog (recorded : Recorded w.catalog commits) (retriever : Retriever)
    (productCode : Option ProductCode) : Recorded (ensurePriceCatalog digest retriever w productCode).world.catalog
      (commits ++ (ensurePriceCatalog digest retriever w productCode).commits) := by
  have same : Recorded w.catalog (commits ++ []) := by rwa [List.append_nil]
  unfold Prices.ensurePriceCatalog
  split
  · exact recorded.ensureDue retriever none
  · split
    · split
      · rw [List.append_nil]
        exact recorded.prune _
      · exact same
    · split
      · exact recorded.ensureDue retriever _
      · split
        · exact same
        · split
          · exact same
          · exact recorded.ensureDue retriever _

theorem Recorded.step (recorded : Recorded w.catalog commits) (event : Event) :
    Recorded (step digest w event).1.catalog (commits ++ (step digest w event).2) := by
  have same : Recorded w.catalog (commits ++ []) := by rwa [List.append_nil]
  unfold Prices.step
  split
  · exact same
  · exact same
  · exact .empty
  · exact recorded.ensurePriceCatalog _ _
  · split
    · exact same
    · split
      · exact same
      · exact recorded.resolveAnswer _ _
  · split
    · exact same
    · split
      · exact same.inFlight
      · exact same

theorem after_recorded (env : Env) (events : List Event) :
    Recorded (after digest env events).world.catalog (after digest env events).commits := by
  refine foldl_invariant (I := fun _ (history : History) => Recorded history.world.catalog history.commits) .empty ?_ events
  intro _ history event recorded
  exact recorded.step event

/-- A failure a caller is served under an environment: nothing has been tried yet, or a lookup committed it under the
signature that environment's row has. -/
def FailedUnder (digest : Text → Text) (env : Env) (commits : List Commit) (failure : PriceResolutionFailure) : Prop :=
  failure = notResolvedFailure failure.productCode ∨
    ∃ current product, getConfiguredProduct digest env failure.productCode = some current ∧
      .failed product failure ∈ commits ∧ product.productCode = failure.productCode ∧
      configSignature product = configSignature current

theorem Recorded.served (recorded : Recorded catalog commits) {failure : PriceResolutionFailure}
    (current : getConfiguredProduct digest env code = some product)
    (served : failure = (storedFailureIfCurrent catalog code (some product)).getD (notResolvedFailure code)) :
    FailedUnder digest env commits failure := by
  unfold storedFailureIfCurrent at served
  split at served
  · rename_i stored product found same
    cases same
    split at served
    · rw [served]
      exact .inl rfl
    · rename_i agrees
      rw [Option.getD_some] at served
      subst served
      have at_ := Table.find_key found
      obtain ⟨state, kept, other, here, ofCode, signature⟩ := recorded.failures failure (Table.find_mem found)
      rw [at_] at kept
      refine .inr ⟨product, other, at_ ▸ current, here, ofCode, ?_⟩
      rw [kept] at agrees
      simpa [signature] using agrees
  · rw [served]
    exact .inl rfl

theorem Recorded.describeUnpriced (recorded : Recorded catalog commits) (code : ProductCode) (env : Env) :
    FailedUnder digest env commits (describeUnpriced digest catalog code env) := by
  unfold Prices.describeUnpriced
  cases current : getConfiguredProduct digest env code with
  | none =>
    refine .inl ?_
    unfold storedFailureIfCurrent
    split
    · rename_i none
      cases none
    · rfl
  | some product => exact recorded.served current rfl

theorem Recorded.getUnpricedProducts (recorded : Recorded catalog commits) {failure : PriceResolutionFailure}
    (member : failure ∈ getUnpricedProducts digest catalog env) : FailedUnder digest env commits failure := by
  obtain ⟨product, here, served⟩ := List.mem_filterMap.mp member
  split at served
  · cases served
  · have current : getConfiguredProduct digest env product.productCode = some product := by
      rw [← byCode_products]
      exact byCode_mem here
    exact recorded.served current (Option.some.inj served).symm

/-- A cooldown a caller is left with was earned under the signature its product has now. -/
def CoolingUnder (digest : Text → Text) (env : Env) (commits : List Commit) (state : AttemptState) : Prop :=
  ∃ current product failure, getConfiguredProduct digest env state.productCode = some current ∧
    .failed product failure ∈ commits ∧ product.productCode = state.productCode ∧
    configSignature product = configSignature current ∧ state.signature = configSignature current

theorem Recorded.cooling (recorded : Recorded catalog commits) {state : AttemptState} (member : state ∈ catalog.attempts.rows)
    (current : getConfiguredProduct digest env state.productCode = some product)
    (signature : state.signature = configSignature product) : CoolingUnder digest env commits state := by
  obtain ⟨other, failure, here, ofCode, same⟩ := recorded.attempts state member
  exact ⟨product, other, failure, current, here, ofCode, same.trans signature, signature⟩

theorem Recorded.ensureDue_cooldowns (recorded : Recorded w.catalog commits) {retriever : Retriever}
    {productCode : Option ProductCode} {state : AttemptState}
    (served : state ∈ (Prices.ensureDue digest retriever w productCode).cooldowns) :
    CoolingUnder digest w.env commits state := by
  unfold Prices.ensureDue at served
  dsimp only at served
  split at served
  · exact absurd served List.not_mem_nil
  · obtain ⟨product, -, cools⟩ := List.mem_filterMap.mp served
    obtain ⟨found, -⟩ := Option.filter_eq_some_iff.mp cools
    -- What the prune left is of the configuration it was given.
    obtain ⟨old, fresh⟩ := List.mem_filter.mp (Table.find_mem found)
    unfold staleAttempt at fresh
    rw [byCode_products] at fresh
    cases current : getConfiguredProduct digest w.env state.productCode with
    | none => simp [current] at fresh
    | some row =>
      have signature : configSignature row = state.signature := by simpa [current] using fresh
      exact recorded.cooling old current signature.symm

theorem Recorded.cooldowns (recorded : Recorded w.catalog commits) {retriever : Retriever}
    {productCode : Option ProductCode} {state : AttemptState}
    (served : state ∈ (Prices.ensurePriceCatalog digest retriever w productCode).cooldowns) :
    CoolingUnder digest w.env commits state := by
  unfold Prices.ensurePriceCatalog at served
  split at served
  · exact recorded.ensureDue_cooldowns served
  · split at served
    · split at served <;> exact absurd served List.not_mem_nil
    · split at served
      · exact recorded.ensureDue_cooldowns served
      · rename_i code _ product current
        split at served
        · exact absurd served List.not_mem_nil
        · split at served
          · rename_i found
            cases List.mem_singleton.mp served
            obtain ⟨there, cools⟩ := Option.filter_eq_some_iff.mp found
            simp only [Bool.and_eq_true, beq_iff_eq] at cools
            exact recorded.cooling (Table.find_mem there) ((Table.find_key there) ▸ current) cools.1.1
          · exact recorded.ensureDue_cooldowns served

/-- Whatever the lookups, the changes of the configuration, the resets and Stripe's answers, in any order: a price
returned was resolved under the signature its product has now, with that row's id, amount, currency and credential;
and so was a failure or a cooldown, of the caller's environment, recorded. -/
theorem served_under_current_signature (digest : Text → Text) (env : Env) (events : List Event) :
    let run := after digest env events
    (∀ code memo, getResolvedPriceForProduct digest run.world code = some memo →
      ∃ current product, getConfiguredProduct digest run.world.env code = some current ∧
        .resolved product memo ∈ run.commits ∧ product.productCode = code ∧
        configSignature product = configSignature current) ∧
    (∀ callerEnv code, FailedUnder digest callerEnv run.commits
      (describeUnpriced digest run.world.catalog code callerEnv)) ∧
    (∀ callerEnv, ∀ failure ∈ getUnpricedProducts digest run.world.catalog callerEnv,
      FailedUnder digest callerEnv run.commits failure) ∧
    ∀ code retriever, ∀ state ∈ (ensurePriceCatalog digest retriever run.world code).cooldowns,
      CoolingUnder digest run.world.env run.commits state := by
  have recorded : Recorded (after digest env events).world.catalog (after digest env events).commits :=
    after_recorded env events
  refine ⟨fun code memo served => ?_, fun callerEnv code => recorded.describeUnpriced code callerEnv,
    fun callerEnv failure member => recorded.getUnpricedProducts member,
    fun code retriever state served => recorded.cooldowns served⟩
  unfold getResolvedPriceForProduct at served
  split at served
  · rename_i stored current found configured
    split at served
    · rename_i agrees
      cases served
      obtain ⟨product, here, ofCode, own⟩ := recorded.prices memo (Table.find_mem found)
      refine ⟨current, product, configured, here, ofCode.trans (Table.find_key found), ?_⟩
      exact (beq_iff_eq.mp own).symm.trans (beq_iff_eq.mp agrees)
    · cases served
  · cases served

/-- A lookup answered after its product was repointed commits nothing; one begun afterwards does. -/
example :
    let repointed : Env := { priceId := fun _ => ['b'] }
    let price : StripePrice := { active := true, currency := ['u', 's', 'd'], unitAmount := some 500 }
    let late : List Event := [.ensure (some (.pack .creditPack4)) {}, .configure repointed, .answers 0 (.price price) 0]
    let served := fun events =>
      getResolvedPriceForProduct id (after id { priceId := fun _ => ['a'] } events).world (.pack .creditPack4)
    served late = none ∧
      (served (late ++ [.ensure (some (.pack .creditPack4)) {}, .answers 3 (.price price) 0])).map
        ResolvedPrice.priceId = some ['b'] := by
  decide

end LetterIRL.Prices
