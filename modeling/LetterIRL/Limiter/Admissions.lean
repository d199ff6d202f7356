import LetterIRL.Limiter.RateLimit

namespace LetterIRL.Limiter
open Content Lib.FixedWindow

variable {trustedProxyHops : Nat} {id other : Text} {endpointType endpointType' : Endpoint} {req : Request} {cached : Option UserTier}
  {call : Call} {calls : List Call} {store : Store Text} {start most now : Int} {asked : Op Text} {tier : UserTier}

theorem Endpoint.name_injective : Function.Injective Endpoint.name := by
  have found : ∀ endpointType, ENDPOINTS.find? (fun other => other.name == Endpoint.name endpointType) = some endpointType := by
    intro endpointType
    cases endpointType <;> decide
  intro endpointType endpointType' same
  have := found endpointType
  rw [same, found] at this
  exact (Option.some.inj this).symm

theorem Endpoint.name_plain (endpointType : Endpoint) : ':' ∉ endpointType.name := by
  cases endpointType <;> decide

/-- A key is cut at its last colon only. -/
theorem keyOf_injective (same : keyOf id endpointType = keyOf other endpointType') : id = other ∧ endpointType = endpointType' := by
  have cut : ∀ id endpointType, (keyOf id endpointType).reverse.takeWhile (· != ':') = (Endpoint.name endpointType).reverse := by
    intro id endpointType
    have plain : ∀ c ∈ (Endpoint.name endpointType).reverse, (c != ':') = true := by
      intro c member
      rw [bne_iff_ne]
      rintro rfl
      exact endpointType.name_plain (List.mem_reverse.mp member)
    rw [keyOf, List.reverse_append, List.reverse_cons, List.append_assoc, List.takeWhile_append_of_pos plain]
    simp
  have names := cut id endpointType
  rw [same, cut other endpointType'] at names
  obtain rfl := Endpoint.name_injective (List.reverse_injective names)
  exact ⟨List.append_cancel_right same, rfl⟩

theorem mem_ENDPOINTS (endpointType : Endpoint) : endpointType ∈ ENDPOINTS := by
  cases endpointType <;> decide

theorem windowMs_within (endpointType : Endpoint) :
    1 < (RATE_LIMITS endpointType).windowMs ∧ (RATE_LIMITS endpointType).windowMs ≤ maxWindowMs := by
  cases endpointType <;> decide

/-- A backstop runs over the same window as the limits it stands behind. -/
theorem backstop_windowMs {config : RateLimitConfig} (backstop : GLOBAL_RATE_LIMITS endpointType = some config) :
    config.windowMs = (RATE_LIMITS endpointType).windowMs ∧ 0 < config.maxRequests := by
  cases endpointType <;> first | (cases backstop; exact ⟨rfl, by decide⟩) | cases backstop

theorem maxRequests_positive (endpointType : Endpoint) : 0 < (RATE_LIMITS endpointType).maxRequests := by
  cases endpointType <;> decide

theorem effective_positive (endpointType : Endpoint) (tier : UserTier) : 0 < getEffectiveRateLimit endpointType tier := by
  unfold getEffectiveRateLimit
  refine Int.floor_pos.mpr ?_
  cases endpointType <;> cases tier <;> norm_num [RATE_LIMITS, getTierMultiplier, TIER_RATE_MULTIPLIERS]

/-- What a call asks for: a place under its identifier, one of a backstop, or a sweep. -/
theorem Call.op_cases (asks : call.op trustedProxyHops = some asked) :
    (∃ id endpointType, call.heldTo trustedProxyHops = some (id, endpointType) ∧ call.cleansUp = false ∧
        0 < call.maximum ∧ asked = .take (keyOf id endpointType) (RATE_LIMITS endpointType).windowMs call.maximum call.now) ∨
      (∃ endpointType config, call.heldTo trustedProxyHops = none ∧ call.cleansUp = false ∧ GLOBAL_RATE_LIMITS endpointType = some config ∧
        asked = .take (keyOf GLOBAL endpointType) config.windowMs config.maxRequests call.now) ∨
      call.heldTo trustedProxyHops = none ∧ call.cleansUp = true ∧ asked = .sweep (maxWindowMs * 2) call.now := by
  cases call with
  | checkRateLimit req endpointType now =>
    obtain rfl := Option.some.inj asks
    exact .inl ⟨_, endpointType, rfl, rfl, Int.natCast_pos.mpr (maxRequests_positive endpointType), rfl⟩
  | checkRateLimitWithTier req endpointType cached now =>
    obtain rfl := Option.some.inj asks
    exact .inl ⟨_, endpointType, rfl, rfl, effective_positive _ _, rfl⟩
  | checkGlobalRateLimit endpointType now =>
    obtain ⟨config, backstop, rfl⟩ := Option.map_eq_some_iff.mp asks
    exact .inr (.inl ⟨endpointType, config, rfl, rfl, backstop, rfl⟩)
  | cleanupExpiredEntries now =>
    obtain rfl := Option.some.inj asks
    exact .inr (.inr ⟨rfl, rfl, rfl⟩)

theorem Call.op_now (asks : call.op trustedProxyHops = some asked) : asked.now = call.now := by
  rcases Call.op_cases asks with ⟨_, _, _, _, _, rfl⟩ | ⟨_, _, _, _, _, rfl⟩ | ⟨_, _, rfl⟩ <;> rfl

/-- No sweep reaches an entry whose window may still run. -/
theorem Call.op_within (asks : call.op trustedProxyHops = some asked) : asked.Within maxWindowMs := by
  rcases Call.op_cases asks with ⟨_, endpointType, _, _, _, rfl⟩ | ⟨endpointType, config, _, _, backstop, rfl⟩ | ⟨_, _, rfl⟩
  · exact (windowMs_within endpointType).2
  · show config.windowMs ≤ maxWindowMs
    rw [(backstop_windowMs backstop).1]
    exact (windowMs_within endpointType).2
  · show maxWindowMs ≤ maxWindowMs * 2
    decide

/-- Only what is asked about a key asks for it. -/
theorem op_window {length limit : Int}
    (asks : call.op trustedProxyHops = some (.take (keyOf id endpointType) length limit now)) :
    length = (RATE_LIMITS endpointType).windowMs ∧ 0 < limit := by
  rcases Call.op_cases asks with ⟨id', endpointType', _, _, positive, same⟩ | ⟨endpointType', config, _, _, backstop, same⟩ | ⟨_, _, same⟩
  · injection same with key length limit
    obtain ⟨-, rfl⟩ := keyOf_injective key
    exact ⟨length, by omega⟩
  · injection same with key length limit
    obtain ⟨-, rfl⟩ := keyOf_injective key
    have := backstop_windowMs backstop
    exact ⟨length.trans this.1, by omega⟩
  · cases same

/-- The answers kept by a test are those of the calls it keeps. -/
theorem answers_filter (test : Call → Bool) (store : Store Text) (calls : List Call) :
    (answers trustedProxyHops store calls).filter (fun got => test got.1) =
      ((verdicts (Call.op trustedProxyHops) store calls).filter fun got => test got.1).filterMap
        fun got => (got.1.answer got.2).map (got.1, ·) := by
  rw [answers, List.filter_filterMap, List.filterMap_filter]
  refine List.filterMap_congr fun got _ => ?_
  cases got.1.answer got.2 with
  | none => simp
  | some answer => by_cases kept : test got.1 = true <;> simp [kept]

/-- Answers are changed by no clean-up, of a map in any state. -/
theorem answers_cleanup (store : Store Text) (ordered : Ordered (Call.op trustedProxyHops) calls) :
    answers trustedProxyHops store calls = answers trustedProxyHops store (calls.filter fun call => !call.cleansUp) := by
  have own := verdicts_own (fun _ => true) (fun call => !call.cleansUp) store store ordered
    (fun call _ asked asks => Call.op_within asks) (fun call _ asked asks => by
      rcases Call.op_cases asks with ⟨_, _, _, keeps, _, rfl⟩ | ⟨_, _, _, keeps, _, rfl⟩ | ⟨_, keeps, rfl⟩ <;>
      · rw [keeps]
        rfl) fun _ _ _ _ _ _ => rfl
  rw [answers, answers, ← own, List.filterMap_filter]
  refine List.filterMap_congr fun got _ => ?_
  cases call : got.1 <;> simp [Call.cleansUp, Call.answer]

theorem answers_cleanup_run : answers 1 (fun _ => none) [.checkRateLimit ⟨[], none, none⟩ .admin 0, .cleanupExpiredEntries 7200001,
      .checkRateLimit ⟨[], none, none⟩ .admin 7200001] =
    answers 1 (fun _ => none) [.checkRateLimit ⟨[], none, none⟩ .admin 0, .checkRateLimit ⟨[], none, none⟩ .admin 7200001] :=
  answers_cleanup _ (by simp [Ordered, Call.op, Op.now])

/-- A key of the identifier. -/
def keyOfOne (id key : Text) : Bool := ENDPOINTS.any fun endpointType => key == keyOf id endpointType

theorem keyOfOne_keyOf : keyOfOne id (keyOf other endpointType) = (other == id) := by
  rw [Bool.eq_iff_iff, keyOfOne, List.any_eq_true, beq_iff_eq]
  constructor
  · rintro ⟨endpointType', -, same⟩
    exact (keyOf_injective (eq_of_beq same)).1
  · rintro rfl
    exact ⟨endpointType, mem_ENDPOINTS endpointType, beq_self_eq_true _⟩

/-- A request whose address reads as the word that keys the backstops. -/
def globalRequest : Request := ⟨[GLOBAL], none, none⟩

theorem identifier_globalRequest : identifier trustedProxyHops globalRequest = GLOBAL := by
  have hops : forwardedForHops [GLOBAL] = [GLOBAL] := by decide
  simp [identifier, getUserIdentifier, getClientIdentifier, globalRequest, hops, clientAddressFromHops]

/-- The answers of one identifier are those of its own calls alone, unless it is the word that keys the backstops. -/
theorem answers_isolated : (∀ store calls, Ordered (Call.op trustedProxyHops) calls →
      (answers trustedProxyHops store calls).filter (fun got => got.1.madeBy trustedProxyHops id) =
        answers trustedProxyHops store (calls.filter (·.madeBy trustedProxyHops id))) ↔
    id ≠ GLOBAL := by
  constructor
  · rintro isolated rfl
    have backstop : Call.op trustedProxyHops (.checkGlobalRateLimit .promoPublic 0) =
        some (.take (keyOf GLOBAL .promoPublic) 60000 100 0) := rfl
    have check : Call.op trustedProxyHops (.checkRateLimit globalRequest .promoPublic 0) =
        some (.take (keyOf GLOBAL .promoPublic) 60000 10 0) := by
      rw [Call.op, identifier_globalRequest]
      rfl
    -- the backstop's count leaves one place fewer
    have shared := isolated (fun _ => none) [.checkGlobalRateLimit .promoPublic 0, .checkRateLimit globalRequest .promoPublic 0]
      (by simp [Ordered, backstop, check, Op.now])
    simp [answers, verdicts, backstop, check, Op.run, takePlace, standing, Option.filter, Call.answer, Call.madeBy, Call.heldTo,
      identifier_globalRequest] at shared
  · intro apart store calls ordered
    rw [answers_filter (·.madeBy trustedProxyHops id), answers]
    refine congrArg _ (verdicts_own (keyOfOne id) _ _ _ ordered (fun call _ asked asks => Call.op_within asks)
      (fun call _ asked asks => ?_) fun _ _ _ _ _ _ => rfl)
    unfold Call.madeBy
    rcases Call.op_cases asks with ⟨id', endpointType, held, _, _, rfl⟩ | ⟨endpointType, _, held, _, _, rfl⟩ | ⟨held, _, rfl⟩
    · rw [held]
      exact keyOfOne_keyOf
    · rw [held]
      exact keyOfOne_keyOf.trans (beq_eq_false_iff_ne.mpr (Ne.symm apart))
    · rw [held]
      rfl

theorem takesOf_heldTo (held : call.heldTo trustedProxyHops = some (id, endpointType)) :
    takesOf (Call.op trustedProxyHops) (keyOf id endpointType) call = true := by
  cases call with
  | checkRateLimit req endpointType' now =>
    cases held
    simp [takesOf, Call.op, Op.takes]
  | checkRateLimitWithTier req endpointType' cached now =>
    cases held
    simp [takesOf, Call.op, Op.takes]
  | checkGlobalRateLimit endpointType' now => cases held
  | cleanupExpiredEntries now => cases held

theorem Call.heldTo_of_inside (inside : call.inside trustedProxyHops id endpointType start = true) :
    call.heldTo trustedProxyHops = some (id, endpointType) := by
  simp only [Call.inside, Bool.and_eq_true, beq_iff_eq] at inside
  exact inside.1.1

theorem Call.answer_heldTo (verdict : Option Verdict) (held : call.heldTo trustedProxyHops = some (id, endpointType)) :
    (call.answer verdict).map (·.verdict) = verdict := by
  cases call with
  | checkRateLimit req endpointType' now => cases verdict <;> rfl
  | checkRateLimitWithTier req endpointType' cached now => cases verdict <;> rfl
  | checkGlobalRateLimit endpointType' now => cases held
  | cleanupExpiredEntries now => cases held

/-- The calls admitted are those whose windows let them take a place. -/
theorem admitted_slots (ordered : Ordered (Call.op trustedProxyHops) calls) :
    admitted trustedProxyHops id endpointType start calls =
      ((slots (RATE_LIMITS endpointType).windowMs none (asksOf (Call.op trustedProxyHops) (keyOf id endpointType) calls)).filter
        fun slot => slot.call.inside trustedProxyHops id endpointType start).length := by
  have taken := verdicts_slots (keyOf id endpointType) (fun _ => none) none ordered
    (fun call _ asked asks => Call.op_within asks) (fun call _ length limit now asks => (op_window asks).1) fun _ _ _ _ => rfl
  have counted := congrArg (List.countP (·.inside trustedProxyHops id endpointType start)) taken
  rw [List.countP_map, List.countP_map, List.countP_filter] at counted
  rw [← List.countP_eq_length_filter]
  refine Eq.trans ?_ counted
  rw [admitted, answers, List.countP_filterMap]
  refine List.countP_congr fun got _ => ?_
  by_cases inside : got.1.inside trustedProxyHops id endpointType start = true
  · have held := Call.heldTo_of_inside inside
    have said := Call.answer_heldTo got.2 held
    cases answer : got.1.answer got.2 with
    | none =>
      rw [answer] at said
      simp [← said]
    | some answer =>
      rw [answer] at said
      simp [← said, inside, takesOf_heldTo held]
  · cases got.1.answer got.2 with
    | none => simp [inside]
    | some answer => simp [inside]

/-- Never more than twice the maximum less one in any interval as long as the window. -/
theorem admitted_le (ordered : Ordered (Call.op trustedProxyHops) calls)
    (maxima : ∀ call ∈ calls, call.inside trustedProxyHops id endpointType start = true → call.maximum ≤ most) (least : 1 ≤ most) :
    (admitted trustedProxyHops id endpointType start calls : Int) ≤ 2 * most - 1 := by
  rw [admitted_slots ordered]
  have packed := slots_packed (zero_lt_one.trans (windowMs_within endpointType).1) (fun ask member => by
    obtain ⟨-, length, asks⟩ := mem_asksOf.mp member
    exact (op_window asks).2) (asksOf_ordered (keyOf id endpointType) ordered)
  refine packed.interval _ start least fun slot member inside => ?_
  obtain ⟨member, length, asks⟩ := mem_asksOf.mp (slots_asked member)
  have maximum := maxima slot.call member inside
  have held := Call.heldTo_of_inside inside
  rcases Call.op_cases asks with ⟨_, _, _, _, _, same⟩ | ⟨_, _, other, _⟩ | ⟨other, _⟩
  · injection same with _ _ limit now
    simp only [Call.inside, Bool.and_eq_true, decide_eq_true_eq] at inside
    omega
  · rw [held] at other
    cases other
  · rw [held] at other
    cases other

/-- As many as that are admitted to each request and tier, of calls no earlier than the last place of a window. -/
theorem admitted_burst (trustedProxyHops : Nat) (req : Request) (endpointType : Endpoint) (cached : Option UserTier) :
    ∃ calls start, Ordered (Call.op trustedProxyHops) calls ∧
      (∀ call ∈ calls, ∃ now, call = .checkRateLimitWithTier req endpointType cached now) ∧
      (admitted trustedProxyHops (identifier trustedProxyHops req) endpointType start calls : Int) =
        2 * getEffectiveRateLimit endpointType (lookedUpTier req cached) - 1 := by
  have long := (windowMs_within endpointType).1
  obtain ⟨number, maximum⟩ : ∃ number : Nat, getEffectiveRateLimit endpointType (lookedUpTier req cached) = number + 1 :=
    ⟨(getEffectiveRateLimit endpointType (lookedUpTier req cached) - 1).toNat, by
      have := effective_positive endpointType (lookedUpTier req cached)
      omega⟩
  have asks : ∀ now, Call.op trustedProxyHops (.checkRateLimitWithTier req endpointType cached now) =
      some (.take (keyOf (identifier trustedProxyHops req) endpointType) (RATE_LIMITS endpointType).windowMs (number + 1) now) := by
    intro now
    rw [Call.op, maximum]
  have asked : ∀ times : List Int, asksOf (Call.op trustedProxyHops) (keyOf (identifier trustedProxyHops req) endpointType)
      (times.map fun now => .checkRateLimitWithTier req endpointType cached now) =
        times.map fun now => ⟨.checkRateLimitWithTier req endpointType cached now, number + 1, now⟩ := by
    intro times
    rw [asksOf, List.filterMap_map, ← List.filterMap_eq_map]
    refine List.filterMap_congr fun now _ => ?_
    exact askOf_some.mpr ⟨rfl, _, asks now⟩
  have ordered : Ordered (Call.op trustedProxyHops)
      ((burst (RATE_LIMITS endpointType).windowMs number).map fun now => .checkRateLimitWithTier req endpointType cached now) := by
    have ops : Call.op trustedProxyHops ∘ (fun now => .checkRateLimitWithTier req endpointType cached now) =
        fun now => some (.take (keyOf (identifier trustedProxyHops req) endpointType) (RATE_LIMITS endpointType).windowMs
          (number + 1) now) := funext asks
    rw [Ordered, List.filterMap_map, ops, List.filterMap_eq_map', List.pairwise_map]
    exact burst_ordered number (zero_lt_one.trans long)
  refine ⟨(burst (RATE_LIMITS endpointType).windowMs number).map fun now => .checkRateLimitWithTier req endpointType cached now,
    (RATE_LIMITS endpointType).windowMs - 1, ordered, ?_, ?_⟩
  · intro call member
    obtain ⟨now, -, rfl⟩ := List.mem_map.mp member
    exact ⟨now, rfl⟩
  · rw [admitted_slots ordered, asked, ← List.countP_eq_length_filter, maximum]
    have all := slots_interval number (fun now => Call.checkRateLimitWithTier req endpointType cached now) long
    refine (congrArg Nat.cast (Eq.trans (List.countP_congr fun slot member => ?_) all)).trans (by push_cast; omega)
    obtain ⟨now, -, same⟩ := List.mem_map.mp (slots_asked member)
    obtain ⟨⟨call, limit, now'⟩, windowStart⟩ := slot
    cases same
    simp only [Call.inside, Call.heldTo, Call.now, beq_self_eq_true, Bool.true_and]
    exact Iff.rfl

/-- Twice the effective maximum less one is the most that is admitted in an interval as long as the window: a burst at the end of a
window and one at the start of the next. -/
theorem admitted_most (trustedProxyHops : Nat) :
    (∀ id endpointType start calls (most : Int), Ordered (Call.op trustedProxyHops) calls → 1 ≤ most →
      (∀ call ∈ calls, call.inside trustedProxyHops id endpointType start = true → call.maximum ≤ most) →
        (admitted trustedProxyHops id endpointType start calls : Int) ≤ 2 * most - 1) ∧
    ∀ req endpointType cached, ∃ calls start, Ordered (Call.op trustedProxyHops) calls ∧
      (∀ call ∈ calls, ∃ now, call = .checkRateLimitWithTier req endpointType cached now) ∧
        (admitted trustedProxyHops (identifier trustedProxyHops req) endpointType start calls : Int) =
          2 * getEffectiveRateLimit endpointType (lookedUpTier req cached) - 1 :=
  ⟨fun _ _ _ _ _ ordered least maxima => admitted_le ordered maxima least, admitted_burst trustedProxyHops⟩

end LetterIRL.Limiter
