import LetterIRL.Lib.Table
import LetterIRL.Limiter.Admissions

namespace LetterIRL.Limiter
open Content Lib Lib.FixedWindow

/-! The tokens verified recently, whose accounts' requests the shared backstops leave alone. -/

def verifiedForMs : Int := 10 * 60 * 1000

def maxVerified : Nat := 20000

def exemptPerAccountPerMinute : Nat := 120

def exemptWindowMs : Int := 60 * 1000

structure VerifiedToken where
  key : Text
  until_ : Int
  userId : Text

structure Exemption extends Entry where
  userId : Text

structure Pool where
  verified : Table VerifiedToken.key
  exemptions : Table Exemption.userId

/-- The oldest rows go while there are more than `most`. -/
def keepNewest {α : Type} {key : α → Text} (most : Nat) (table : Table key) : Table key :=
  ⟨table.rows.drop (table.rows.length - most), table.unique.sublist ((List.drop_sublist _ _).map key)⟩

def isLineTerminator (c : Char) : Bool := [10, 13, 0x2028, 0x2029].contains c.toNat

/-- `/^Bearer\s+(.+)$/i`, and the trim of its group. -/
def bearerOf (authorization : Option Text) : Option Text :=
  authorization.bind fun header =>
    let rest := (header.drop 6).dropWhile isSpace
    if (header.take 6).map Char.toLower == "bearer".toList && (header.drop 6).head?.any isSpace && !rest.isEmpty &&
        !rest.any isLineTerminator then
      some (trim rest)
    else none

section
-- SHA-256, in base64url
variable (digest : Text → Text)

def verifiedUntil (expiresAtMs : Option Int) (now : Int) : Int :=
  match expiresAtMs with
  | none => now + verifiedForMs
  | some expiresAtMs => min (now + verifiedForMs) expiresAtMs

def rememberVerifiedToken (token userId : Text) (expiresAtMs : Option Int) (now : Int) (pool : Pool) : Pool :=
  if verifiedUntil expiresAtMs now ≤ now then pool
  else { pool with verified := keepNewest maxVerified (pool.verified.set ⟨digest (trim token), verifiedUntil expiresAtMs now, userId⟩) }

def verifiedAccount (authorization : Option Text) (now : Int) (pool : Pool) : Option Text × Pool :=
  match bearerOf authorization with
  | none => (none, pool)
  | some token =>
    match pool.verified.find (digest token) with
    | none => (none, pool)
    | some entry =>
      if entry.until_ ≤ now then (none, { pool with verified := pool.verified.erase (digest token) })
      else (some entry.userId, pool)

/-- The account's exemption of the minute that runs, or a new one put last. -/
def openExemption (userId : Text) (now : Int) (exemptions : Table Exemption.userId) : Exemption × Table Exemption.userId :=
  match (exemptions.find userId).filter fun entry => decide (now - entry.windowStart < exemptWindowMs) with
  | some entry => (entry, exemptions)
  | none => (⟨⟨0, now⟩, userId⟩, keepNewest maxVerified (exemptions.set ⟨⟨0, now⟩, userId⟩))

def takeExemption (authorization : Option Text) (now : Int) (pool : Pool) : Bool × Pool :=
  match verifiedAccount digest authorization now pool with
  | (none, pool) => (false, pool)
  | (some userId, pool) =>
    let opened := openExemption userId now pool.exemptions
    if opened.1.count ≥ exemptPerAccountPerMinute then (false, { pool with exemptions := opened.2 })
    else (true, { pool with exemptions := opened.2.put { opened.1 with count := opened.1.count + 1 } })

def VERIFIED_SKIP_GLOBAL : List Endpoint := [.mcp, .api]

/-- The exemption asked for, on the routes that skip the backstop for it. -/
def spare (authorization : Option Text) (endpointType : Endpoint) (now : Int) (pool : Pool) : Bool × Pool :=
  if VERIFIED_SKIP_GLOBAL.contains endpointType then takeExemption digest authorization now pool else (false, pool)

/-- What the process holds in memory. -/
structure Memory where
  rateLimitStore : Store Text
  pool : Pool

def Memory.initial : Memory := ⟨fun _ => none, ⟨.empty, .empty⟩⟩

/-- The stage of `rateLimitMiddlewareWithTier` that everyone shares: an exemption taken, or a place of the backstop. -/
def sharedStage (authorization : Option Text) (endpointType : Endpoint) (now : Int) (memory : Memory) : Bool × Memory :=
  let exempted := spare digest authorization endpointType now memory.pool
  if exempted.1 then (true, { memory with pool := exempted.2 })
  else
    match GLOBAL_RATE_LIMITS endpointType with
    | none => (true, { memory with pool := exempted.2 })
    | some config =>
      let key := keyOf GLOBAL endpointType
      let taken := takePlace config.windowMs config.maxRequests now (memory.rateLimitStore key)
      (taken.1.allowed, ⟨Function.update memory.rateLimitStore key taken.2, exempted.2⟩)

/-- What happens to the memory, one at a time. -/
inductive Event
  | limiter (call : Call)
  | rememberVerifiedToken (token userId : Text) (expiresAtMs : Option Int) (now : Int)
  | sharedStage (authorization : Option Text) (endpointType : Endpoint) (now : Int)

def Event.now : Event → Int
  | limiter call => call.now
  | rememberVerifiedToken _ _ _ now => now
  | sharedStage _ _ now => now

variable (trustedProxyHops : Nat)

def Call.after (call : Call) (store : Store Text) : Store Text :=
  match call.op trustedProxyHops with
  | none => store
  | some op => (op.run store).2

/-- A request that passes the shared stage, and the memory then. -/
def Event.run (memory : Memory) : Event → Bool × Memory
  | limiter call => (false, { memory with rateLimitStore := call.after trustedProxyHops memory.rateLimitStore })
  | rememberVerifiedToken token userId expiresAtMs now =>
    (false, { memory with pool := Limiter.rememberVerifiedToken digest token userId expiresAtMs now memory.pool })
  | sharedStage authorization endpointType now => Limiter.sharedStage digest authorization endpointType now memory

/-- Events run in their order, each with whether it let a request pass, and the memory after them. -/
def runEvents (memory : Memory) : List Event → List (Event × Bool) × Memory
  | [] => ([], memory)
  | event :: rest =>
    let ran := event.run digest trustedProxyHops memory
    let after := runEvents ran.2 rest
    ((event, ran.1) :: after.1, after.2)

end

/-! Nobody signed in is refused by the shared stage for what others send, and no flood passes it unbounded. -/

section
variable {digest : Text → Text} {trustedProxyHops : Nat} {memory : Memory} {pool : Pool} {event : Event} {all past : List Event}
  {endpointType : Endpoint} {config : RateLimitConfig} {authorization : Option Text} {userId token : Text} {now last : Int}
  {shared : List (Slot Event)} {exempt : Text → List (Slot Event)}

theorem keepNewest_fits {α : Type} {key : α → Text} {most : Nat} {table : Table key} {names : List Text}
    (named : ∀ row ∈ table.rows, key row ∈ names) (few : names.dedup.length ≤ most) : keepNewest most table = table := by
  have fits : table.rows.length ≤ names.dedup.length := by
    rw [← List.length_map (f := key)]
    refine (List.subperm_of_subset table.unique fun name member => ?_).length_le
    obtain ⟨row, there, rfl⟩ := List.mem_map.mp member
    exact List.mem_dedup.mpr (named row there)
  have none_ : table.rows.length - most = 0 := by omega
  refine Table.ext_rows ?_
  show table.rows.drop (table.rows.length - most) = table.rows
  rw [none_, List.drop_zero]

/-- An account is answered for a token that it holds still. -/
theorem verifiedAccount_cases (digest : Text → Text) (authorization : Option Text) (now : Int) (pool : Pool) :
    ((verifiedAccount digest authorization now pool).1 = none ∧
        (verifiedAccount digest authorization now pool).2.exemptions = pool.exemptions ∧
        ∀ token, bearerOf authorization = some token → ∀ row, pool.verified.find (digest token) = some row → row.until_ ≤ now) ∨
      ∃ token row, bearerOf authorization = some token ∧ pool.verified.find (digest token) = some row ∧ now < row.until_ ∧
        verifiedAccount digest authorization now pool = (some row.userId, pool) := by
  unfold verifiedAccount
  cases bearer : bearerOf authorization with
  | none => exact .inl ⟨rfl, rfl, by rintro _ ⟨⟩⟩
  | some token =>
    dsimp only
    cases found : pool.verified.find (digest token) with
    | none =>
      refine .inl ⟨rfl, rfl, ?_⟩
      rintro _ ⟨⟩ row present
      rw [found] at present
      cases present
    | some row =>
      dsimp only
      by_cases over_ : row.until_ ≤ now
      · rw [if_pos over_]
        refine .inl ⟨rfl, rfl, ?_⟩
        rintro _ ⟨⟩ _ present
        rw [found] at present
        cases present
        exact over_
      · rw [if_neg over_]
        exact .inr ⟨token, row, rfl, found, by omega, rfl⟩

/-- What stays of the tokens held after one is asked about: all but one that is over. -/
theorem verifiedAccount_find (digest : Text → Text) (authorization : Option Text) (now : Int) (pool : Pool) (key : Text) :
    (verifiedAccount digest authorization now pool).2.verified.find key = pool.verified.find key ∨
      (verifiedAccount digest authorization now pool).2.verified.find key = none ∧
        ∀ row, pool.verified.find key = some row → row.until_ ≤ now := by
  unfold verifiedAccount
  cases bearer : bearerOf authorization with
  | none => exact .inl rfl
  | some token =>
    dsimp only
    cases found : pool.verified.find (digest token) with
    | none => exact .inl rfl
    | some row =>
      dsimp only
      by_cases over_ : row.until_ ≤ now
      · rw [if_pos over_]
        by_cases same : key = digest token
        · subst same
          refine .inr ⟨Table.find_erase_self _ _, fun row' present => ?_⟩
          rw [found] at present
          cases present
          exact over_
        · exact .inl (Table.find_erase_of_ne same)
      · rw [if_neg over_]
        exact .inl rfl

theorem verifiedAccount_rows {row : VerifiedToken}
    (member : row ∈ (verifiedAccount digest authorization now pool).2.verified.rows) : row ∈ pool.verified.rows := by
  unfold verifiedAccount at member
  cases bearer : bearerOf authorization with
  | none =>
    rw [bearer] at member
    exact member
  | some token =>
    rw [bearer] at member
    dsimp only at member
    cases found : pool.verified.find (digest token) with
    | none =>
      rw [found] at member
      exact member
    | some entry =>
      rw [found] at member
      dsimp only at member
      by_cases over_ : entry.until_ ≤ now
      · rw [if_pos over_] at member
        exact (Table.mem_erase.mp member).1
      · rw [if_neg over_] at member
        exact member

def Pool.window (pool : Pool) (userId : Text) : Option Entry := (pool.exemptions.find userId).map (·.toEntry)

theorem window_put {exemptions : Table Exemption.userId} {entry old : Exemption} (found : exemptions.find entry.userId = some old)
    (pool : Pool) : ({ pool with exemptions := exemptions.put entry } : Pool).window =
      Function.update (fun userId => (exemptions.find userId).map (·.toEntry)) entry.userId (some entry.toEntry) := by
  funext userId
  show ((exemptions.put entry).find userId).map (·.toEntry) = _
  rw [Table.find_put found]
  by_cases same : userId = entry.userId
  · rw [if_pos same, same, Function.update_self]
    rfl
  · rw [if_neg same, Function.update_of_ne same]

/-- The minute opened is the account's own, which counts nothing yet where it is new. -/
theorem openExemption_spec (now : Int) {users : List Text} (named : ∀ row ∈ pool.exemptions.rows, row.userId ∈ users) (own : userId ∈ users)
    (few : users.dedup.length ≤ maxVerified) :
    (openExemption userId now pool.exemptions).1.userId = userId ∧
      (openExemption userId now pool.exemptions).2.find userId = some (openExemption userId now pool.exemptions).1 ∧
      (∀ other, other ≠ userId → (openExemption userId now pool.exemptions).2.find other = pool.exemptions.find other) ∧
      (∀ row ∈ (openExemption userId now pool.exemptions).2.rows, row.userId ∈ users) ∧
      standing exemptWindowMs now (some (openExemption userId now pool.exemptions).1.toEntry) =
        some (openExemption userId now pool.exemptions).1.toEntry ∧
      takePlace exemptWindowMs exemptPerAccountPerMinute now (pool.window userId) =
        takePlace exemptWindowMs exemptPerAccountPerMinute now (some (openExemption userId now pool.exemptions).1.toEntry) := by
  unfold openExemption
  cases running : (pool.exemptions.find userId).filter fun entry => decide (now - entry.windowStart < exemptWindowMs) with
  | some entry =>
    obtain ⟨found, runs⟩ := Option.filter_eq_some_iff.mp running
    refine ⟨Table.find_key found, found, fun _ _ => rfl, named, standing_some.mpr ⟨rfl, of_decide_eq_true runs⟩, ?_⟩
    rw [Pool.window, found]
    rfl
  | none =>
    have named' : ∀ row ∈ (pool.exemptions.set ⟨⟨0, now⟩, userId⟩).rows, Exemption.userId row ∈ users := by
      intro row member
      rcases Table.mem_set.mp member with ⟨there, -⟩ | rfl
      · exact named row there
      · exact own
    have fresh : standing exemptWindowMs now (some ⟨0, now⟩) = some ⟨0, now⟩ :=
      standing_some.mpr ⟨rfl, by rw [sub_self]; decide⟩
    dsimp only
    rw [keepNewest_fits named' few]
    refine ⟨rfl, Table.find_set_self _ _, fun other different => ?_, named', fresh, ?_⟩
    · rw [Table.find_set, if_neg different]
    · have none_ : standing exemptWindowMs now (pool.window userId) = none := by
        rw [Pool.window]
        cases found : pool.exemptions.find userId with
        | none => rfl
        | some entry =>
          rw [found] at running
          by_cases runs : now - entry.windowStart < exemptWindowMs
          · simp [Option.filter, runs] at running
          · simp [standing, Option.filter, runs]
      rw [takePlace, none_, takePlace, fresh]
      simp [exemptPerAccountPerMinute]

/-- An exemption is a place of the account's minute. -/
theorem takeExemption_take {users : List Text} {row : VerifiedToken} (named : ∀ row ∈ pool.exemptions.rows, row.userId ∈ users)
    (own : row.userId ∈ users) (few : users.dedup.length ≤ maxVerified)
    (answered : verifiedAccount digest authorization now pool = (some row.userId, pool)) :
    (takeExemption digest authorization now pool).1 =
        (takePlace exemptWindowMs exemptPerAccountPerMinute now (pool.window row.userId)).1.allowed ∧
      (takeExemption digest authorization now pool).2.verified = pool.verified ∧
      (takeExemption digest authorization now pool).2.window = Function.update pool.window row.userId
        (takePlace exemptWindowMs exemptPerAccountPerMinute now (pool.window row.userId)).2 ∧
      ∀ row ∈ (takeExemption digest authorization now pool).2.exemptions.rows, row.userId ∈ users := by
  obtain ⟨entryOwn, found, others, named', running, places⟩ := openExemption_spec now named own few
  have stays : (fun other => ((openExemption row.userId now pool.exemptions).2.find other).map (·.toEntry)) =
      Function.update pool.window row.userId (some (openExemption row.userId now pool.exemptions).1.toEntry) := by
    funext other
    by_cases same : other = row.userId
    · rw [same, Function.update_self, found]
      rfl
    · rw [Function.update_of_ne same, others other same]
      rfl
  unfold takeExemption
  rw [answered, places]
  dsimp only
  generalize openExemption row.userId now pool.exemptions = opened at *
  by_cases full : opened.1.count ≥ exemptPerAccountPerMinute
  · have full' : (opened.1.count : Int) ≥ (exemptPerAccountPerMinute : Nat) := by exact_mod_cast full
    rw [if_pos full, takePlace, running]
    dsimp only
    rw [if_pos full']
    exact ⟨rfl, rfl, stays, named'⟩
  · have more : ¬ (opened.1.count : Int) ≥ (exemptPerAccountPerMinute : Nat) := by exact_mod_cast full
    rw [if_neg full, takePlace, running]
    dsimp only
    rw [if_neg more]
    refine ⟨rfl, rfl, ?_, ?_⟩
    · have found' : opened.2.find ({ opened.1 with count := opened.1.count + 1 } : Exemption).userId = some opened.1 := by
        rw [← found]
        exact congrArg _ entryOwn
      rw [window_put found' pool, stays, ← entryOwn, Function.update_idem]
    · intro other member
      rcases Table.mem_put.mp member with ⟨there, -⟩ | ⟨rfl, -⟩
      · exact named' other there
      · show opened.1.userId ∈ users
        rw [entryOwn]
        exact own

/-- The token's digest and the account that an event remembers it for. -/
def Event.remembers (digest : Text → Text) : Event → Option (Text × Text)
  | rememberVerifiedToken token userId _ _ => some (digest (trim token), userId)
  | _ => none

def holders (digest : Text → Text) (events : List Event) : List (Text × Text) := events.filterMap (·.remembers digest)

/-- A request that carries a token ever remembered for the account, on a route that spares it. -/
def Event.requestOf (digest : Text → Text) (events : List Event) (userId : Text) : Event → Bool
  | sharedStage authorization endpointType _ => VERIFIED_SKIP_GLOBAL.contains endpointType &&
      (bearerOf authorization).any fun token => (holders digest events).contains (digest token, userId)
  | _ => false

def Event.shares (endpointType : Endpoint) : Event → Bool
  | sharedStage _ shared _ => shared == endpointType
  | _ => false

def Event.renews (digest : Text → Text) (key : Text) (last : Option (Int × Text)) : Event → Option (Int × Text)
  | rememberVerifiedToken token userId expiresAtMs now =>
    if digest (trim token) = key ∧ now < verifiedUntil expiresAtMs now then some (verifiedUntil expiresAtMs now, userId) else last
  | _ => last

/-- Until when, and for whom, a token was remembered last. -/
def remembered (digest : Text → Text) (key : Text) (events : List Event) : Option (Int × Text) :=
  events.foldl (fun last event => event.renews digest key last) none

theorem remembered_append {next : Event} {key : Text} :
    remembered digest key (past ++ [next]) = next.renews digest key (remembered digest key past) := by
  rw [remembered, List.foldl_append, List.foldl_cons, List.foldl_nil, remembered]

/-- What the pool knows after the events, and the places its accounts took of their minutes. -/
structure PoolKept (digest : Text → Text) (all past : List Event) (pool : Pool) (last : Int) (exempt : Text → List (Slot Event)) :
    Prop where
  windows : ∀ userId, Counts exemptWindowMs last (pool.window userId) (exempt userId)
  exemptOf : ∀ userId, ∀ slot ∈ exempt userId, slot.now = slot.call.now ∧ slot.limit = (exemptPerAccountPerMinute : Nat)
  own : ∀ userId, ((exempt userId).map (·.call)).Sublist (past.filter (·.requestOf digest all userId))
  holds : ∀ row ∈ pool.verified.rows, (row.key, row.userId) ∈ holders digest all
  exempted : ∀ row ∈ pool.exemptions.rows, row.userId ∈ (holders digest all).map (·.2)
  held : ∀ key until_ userId, remembered digest key past = some (until_, userId) → last < until_ →
    ∃ row, pool.verified.find key = some row ∧ row.until_ = until_ ∧ row.userId = userId

/-- A backstop's entry after the calls, and the places taken of its windows. -/
structure BackstopKept (endpointType : Endpoint) (config : RateLimitConfig) (store : Store Text) (last : Int)
    (shared : List (Slot Event)) : Prop where
  backstop : Counts config.windowMs last (store (keyOf GLOBAL endpointType)) shared
  sharedOf : ∀ slot ∈ shared, slot.now = slot.call.now ∧ (slot.call.shares endpointType = true → slot.limit = config.maxRequests)

theorem BackstopKept.mono {store : Store Text} (kept : BackstopKept endpointType config store last shared) (ordered : last ≤ now) :
    BackstopKept endpointType config store now shared := ⟨kept.backstop.mono ordered, kept.sharedOf⟩

/-- A place asked of a key: one of the backstop's, or of another. -/
theorem BackstopKept.place {store : Store Text} (kept : BackstopKept endpointType config store last shared)
    (event : Event) (id : Text) (placed : Endpoint) (limit : Int) (backstop : GLOBAL_RATE_LIMITS endpointType = some config) (some_ : 0 < limit) (ordered : last ≤ event.now)
    (shares : event.shares endpointType = true → limit = config.maxRequests) :
    ∃ shared', BackstopKept endpointType config (Function.update store (keyOf id placed)
        (takePlace (RATE_LIMITS placed).windowMs limit event.now (store (keyOf id placed))).2) event.now shared' ∧
      shared'.map (·.call) = shared.map (·.call) ++ if id = GLOBAL ∧ placed = endpointType ∧
        (takePlace (RATE_LIMITS placed).windowMs limit event.now (store (keyOf id placed))).1.allowed = true then [event] else [] := by
  by_cases same : keyOf id placed = keyOf GLOBAL endpointType
  · obtain ⟨rfl, rfl⟩ := keyOf_injective same
    have counts : Counts config.windowMs event.now
        (takePlace config.windowMs limit event.now (store (keyOf GLOBAL placed))).2
        (shared ++ slots config.windowMs (store (keyOf GLOBAL placed)) [⟨event, limit, event.now⟩]) := by
      refine kept.backstop.take ⟨event, limit, event.now⟩ ?_ some_ ordered
      rw [(backstop_windowMs backstop).1]
      exact zero_lt_one.trans (windowMs_within placed).1
    rw [← (backstop_windowMs backstop).1]
    refine ⟨shared ++ slots config.windowMs (store (keyOf GLOBAL placed)) [⟨event, limit, event.now⟩], ⟨?_, fun slot member => ?_⟩, ?_⟩
    · rw [Function.update_self]
      exact counts
    · rcases List.mem_append.mp member with old | new
      · exact kept.sharedOf slot old
      · have asked := List.mem_singleton.mp (slots_asked new)
        obtain ⟨⟨call, limit', now'⟩, windowStart⟩ := slot
        cases asked
        exact ⟨rfl, shares⟩
    · rw [List.map_append]
      rcases slots_single config.windowMs (store (keyOf GLOBAL placed)) ⟨event, limit, event.now⟩ with ⟨full, none_⟩ | ⟨room, begun, one⟩
      · rw [none_, if_neg (by rw [full]; simp)]
        rfl
      · rw [one, if_pos ⟨rfl, rfl, room⟩]
        rfl
  · refine ⟨shared, ⟨?_, kept.sharedOf⟩, ?_⟩
    · rw [Function.update_of_ne (Ne.symm same)]
      exact kept.backstop.mono ordered
    · rw [if_neg (by rintro ⟨rfl, rfl, -⟩; exact same rfl), List.append_nil]

/-- A call of the limiter leaves the backstop's places in their windows. -/
theorem BackstopKept.after {store : Store Text} {call : Call} (kept : BackstopKept endpointType config store last shared)
    (trustedProxyHops : Nat) (backstop : GLOBAL_RATE_LIMITS endpointType = some config) (ordered : last ≤ call.now) :
    ∃ shared' taken, BackstopKept endpointType config (call.after trustedProxyHops store) call.now shared' ∧
      shared'.map (·.call) = shared.map (·.call) ++ taken := by
  unfold Call.after
  cases asks : call.op trustedProxyHops with
  | none => exact ⟨shared, [], kept.mono ordered, (List.append_nil _).symm⟩
  | some asked =>
    have place : ∀ id placed limit, 0 < limit → asked = .take (keyOf id placed) (RATE_LIMITS placed).windowMs limit call.now →
        ∃ shared' taken, BackstopKept endpointType config (asked.run store).2 call.now shared' ∧
          shared'.map (·.call) = shared.map (·.call) ++ taken := by
      rintro id placed limit some_ rfl
      obtain ⟨shared', kept', calls⟩ := kept.place (.limiter call) id placed limit backstop some_ ordered (by rintro ⟨⟩)
      exact ⟨shared', _, kept', calls⟩
    rcases Call.op_cases asks with ⟨id, placed, _, _, some_, same⟩ | ⟨placed, other, _, _, present, same⟩ | ⟨_, _, rfl⟩
    · exact place id placed _ some_ same
    · obtain ⟨window, some_⟩ := backstop_windowMs present
      rw [window] at same
      exact place GLOBAL placed _ (Int.natCast_pos.mpr some_) same
    · refine ⟨shared, [], ⟨?_, kept.sharedOf⟩, (List.append_nil _).symm⟩
      refine kept.backstop.sweep ?_ ordered
      rw [(backstop_windowMs backstop).1]
      have := windowMs_within endpointType
      omega

theorem PoolKept.apart {next : Event} (kept : PoolKept digest all past pool last exempt) (ordered : last ≤ now)
    (forgets : ∀ key, remembered digest key (past ++ [next]) = remembered digest key past) :
    PoolKept digest all (past ++ [next]) pool now exempt where
  windows userId := (kept.windows userId).mono ordered
  exemptOf := kept.exemptOf
  own userId := by
    rw [List.filter_append]
    exact (kept.own userId).trans (List.sublist_append_left _ _)
  holds := kept.holds
  exempted := kept.exempted
  held key until_ userId known later := kept.held key until_ userId (by rwa [forgets] at known) (ordered.trans_lt later)

theorem PoolKept.remember {expiresAtMs : Option Int} (kept : PoolKept digest all past pool last exempt) (ordered : last ≤ now)
    (member : Event.rememberVerifiedToken token userId expiresAtMs now ∈ all)
    (few : ((holders digest all).map (·.1)).dedup.length ≤ maxVerified) :
    PoolKept digest all (past ++ [.rememberVerifiedToken token userId expiresAtMs now])
      (rememberVerifiedToken digest token userId expiresAtMs now pool) now exempt := by
  have holder : (digest (trim token), userId) ∈ holders digest all := List.mem_filterMap.mpr ⟨_, member, rfl⟩
  unfold rememberVerifiedToken
  by_cases over_ : verifiedUntil expiresAtMs now ≤ now
  · rw [if_pos over_]
    refine kept.apart ordered fun key => ?_
    rw [remembered_append, Event.renews, if_neg (by omega)]
  · rw [if_neg over_]
    have holds : ∀ row ∈ (pool.verified.set ⟨digest (trim token), verifiedUntil expiresAtMs now, userId⟩).rows,
        (row.key, row.userId) ∈ holders digest all := by
      intro row member
      rcases Table.mem_set.mp member with ⟨there, -⟩ | rfl
      · exact kept.holds row there
      · exact holder
    have named : ∀ row ∈ (pool.verified.set ⟨digest (trim token), verifiedUntil expiresAtMs now, userId⟩).rows,
        VerifiedToken.key row ∈ (holders digest all).map (·.1) :=
      fun row member => List.mem_map.mpr ⟨_, holds row member, rfl⟩
    rw [keepNewest_fits named few]
    refine ⟨fun userId => (kept.windows userId).mono ordered, kept.exemptOf, fun userId => ?_, holds, kept.exempted, ?_⟩
    · rw [List.filter_append]
      exact (kept.own userId).trans (List.sublist_append_left _ _)
    · intro key until_ userId' known later
      rw [remembered_append, Event.renews] at known
      rw [Table.find_set]
      by_cases same : digest (trim token) = key
      · rw [if_pos ⟨same, by omega⟩] at known
        cases known
        rw [if_pos same.symm]
        exact ⟨_, rfl, rfl, rfl⟩
      · rw [if_neg fun both => same both.1] at known
        rw [if_neg fun back => same back.symm]
        exact kept.held key until_ userId' known (ordered.trans_lt later)

theorem takeExemption_none (none_ : (verifiedAccount digest authorization now pool).1 = none) :
    takeExemption digest authorization now pool = (false, (verifiedAccount digest authorization now pool).2) := by
  unfold takeExemption
  generalize verifiedAccount digest authorization now pool = answered at *
  obtain ⟨account, pool'⟩ := answered
  cases none_
  rfl

/-- An exemption asked for: none, or a place of the minute of the account whose token the request carries. -/
theorem PoolKept.spare (kept : PoolKept digest all past pool last exempt) (ordered : last ≤ now)
    (few : ((holders digest all).map (·.2)).dedup.length ≤ maxVerified) (skips : VERIFIED_SKIP_GLOBAL.contains endpointType = true) :
    ∃ exempt', PoolKept digest all (past ++ [.sharedStage authorization endpointType now]) (takeExemption digest authorization now pool).2
        now exempt' ∧
      ((takeExemption digest authorization now pool).1 = false ∧ exempt' = exempt ∨
        (takeExemption digest authorization now pool).1 = true ∧ ∃ userId ∈ (holders digest all).map (·.2), ∃ slot : Slot Event,
          slot.call = .sharedStage authorization endpointType now ∧
            exempt' = Function.update exempt userId (exempt userId ++ [slot])) := by
  have forgets : ∀ key, remembered digest key (past ++ [.sharedStage authorization endpointType now]) = remembered digest key past :=
    fun key => remembered_append
  have longer : ∀ userId, (past.filter (·.requestOf digest all userId)).Sublist
      ((past ++ [Event.sharedStage authorization endpointType now]).filter (·.requestOf digest all userId)) := by
    intro userId
    rw [List.filter_append]
    exact List.sublist_append_left _ _
  rcases verifiedAccount_cases digest authorization now pool with ⟨none_, exemptions, over_⟩ | ⟨token, row, bearer, found, valid, answered⟩
  · rw [takeExemption_none none_]
    have windows : (verifiedAccount digest authorization now pool).2.window = pool.window := by
      unfold Pool.window
      rw [exemptions]
    refine ⟨exempt, ⟨fun userId => ?_, kept.exemptOf, fun userId => (kept.own userId).trans (longer userId), fun row member => ?_, ?_,
      fun key until_ userId known later => ?_⟩, .inl ⟨rfl, rfl⟩⟩
    · rw [windows]
      exact (kept.windows userId).mono ordered
    · exact kept.holds row (verifiedAccount_rows member)
    · rw [exemptions]
      exact kept.exempted
    · rw [forgets] at known
      obtain ⟨row, found, valid, own⟩ := kept.held key until_ userId known (ordered.trans_lt later)
      rcases verifiedAccount_find digest authorization now pool key with same | ⟨-, old⟩
      · exact ⟨row, same.trans found, valid, own⟩
      · have := old row found
        omega
  · have own : row.userId ∈ (holders digest all).map (·.2) := List.mem_map.mpr ⟨_, kept.holds row (Table.find_mem found), rfl⟩
    obtain ⟨allowed, verified, window, named⟩ := takeExemption_take kept.exempted own few answered
    have counts : Counts exemptWindowMs now (takePlace exemptWindowMs exemptPerAccountPerMinute now (pool.window row.userId)).2
        (exempt row.userId ++ slots exemptWindowMs (pool.window row.userId)
          [⟨.sharedStage authorization endpointType now, (exemptPerAccountPerMinute : Nat), now⟩]) :=
      (kept.windows row.userId).take ⟨.sharedStage authorization endpointType now, (exemptPerAccountPerMinute : Nat), now⟩
        (by decide) (Int.natCast_pos.mpr (by decide)) ordered
    have requested : (Event.sharedStage authorization endpointType now).requestOf digest all row.userId = true := by
      have holder := kept.holds row (Table.find_mem found)
      rw [Table.find_key found] at holder
      rw [Event.requestOf, skips, bearer]
      simpa using holder
    have known : ∀ key until_ userId, remembered digest key (past ++ [.sharedStage authorization endpointType now]) = some (until_, userId) →
        now < until_ → ∃ row, (takeExemption digest authorization now pool).2.verified.find key = some row ∧ row.until_ = until_ ∧
          row.userId = userId := by
      intro key until_ userId known later
      rw [forgets] at known
      rw [verified]
      exact kept.held key until_ userId known (ordered.trans_lt later)
    have holds : ∀ row ∈ (takeExemption digest authorization now pool).2.verified.rows, (row.key, row.userId) ∈ holders digest all := by
      rw [verified]
      exact kept.holds
    rcases slots_single exemptWindowMs (pool.window row.userId)
        ⟨Event.sharedStage authorization endpointType now, (exemptPerAccountPerMinute : Nat), now⟩ with ⟨full, none_⟩ | ⟨room, begun, one⟩
    · rw [none_, List.append_nil] at counts
      refine ⟨exempt, ⟨fun userId => ?_, kept.exemptOf, fun userId => (kept.own userId).trans (longer userId), holds, named, known⟩,
        .inl ⟨allowed.trans full, rfl⟩⟩
      rw [window]
      by_cases same : userId = row.userId
      · rw [same, Function.update_self]
        exact counts
      · rw [Function.update_of_ne same]
        exact (kept.windows userId).mono ordered
    · rw [one] at counts
      refine ⟨Function.update exempt row.userId (exempt row.userId ++
          [⟨⟨.sharedStage authorization endpointType now, (exemptPerAccountPerMinute : Nat), now⟩, begun⟩]), ⟨fun userId => ?_, fun userId => ?_, fun userId => ?_,
        holds, named, known⟩, .inr ⟨allowed.trans room, row.userId, own, _, rfl, rfl⟩⟩
      · rw [window]
        by_cases same : userId = row.userId
        · rw [same, Function.update_self, Function.update_self]
          exact counts
        · rw [Function.update_of_ne same, Function.update_of_ne same]
          exact (kept.windows userId).mono ordered
      · by_cases same : userId = row.userId
        · rw [same, Function.update_self]
          intro slot member
          rcases List.mem_append.mp member with old | new
          · exact kept.exemptOf _ slot old
          · rw [List.mem_singleton.mp new]
            exact ⟨rfl, rfl⟩
        · rw [Function.update_of_ne same]
          exact kept.exemptOf userId
      · by_cases same : userId = row.userId
        · rw [same, Function.update_self, List.map_append, List.filter_append, List.filter_cons_of_pos requested]
          exact (kept.own _).append (List.Sublist.refl _)
        · rw [Function.update_of_ne same]
          exact (kept.own userId).trans (longer userId)

/-- No more digests and accounts than the pool holds are remembered. -/
structure Fits (digest : Text → Text) (events : List Event) : Prop where
  digests : ((holders digest events).map (·.1)).dedup.length ≤ maxVerified
  accounts : ((holders digest events).map (·.2)).dedup.length ≤ maxVerified

/-- How many places were taken by the events of a test. -/
def placesOf (accounts : List Text) (test : Event → Bool) (shared : List (Slot Event)) (exempt : Text → List (Slot Event)) : Nat :=
  (shared.map (·.call)).countP test + ∑ userId ∈ accounts.toFinset, ((exempt userId).map (·.call)).countP test

theorem sharedStage_spared (spared : (spare digest authorization endpointType now memory.pool).1 = true) :
    sharedStage digest authorization endpointType now memory =
      (true, { memory with pool := (spare digest authorization endpointType now memory.pool).2 }) := by
  unfold sharedStage
  dsimp only
  rw [if_pos spared]

theorem sharedStage_open (none_ : (spare digest authorization endpointType now memory.pool).1 = false)
    (free : GLOBAL_RATE_LIMITS endpointType = none) : sharedStage digest authorization endpointType now memory =
      (true, { memory with pool := (spare digest authorization endpointType now memory.pool).2 }) := by
  unfold sharedStage
  dsimp only
  rw [if_neg (by rw [none_]; exact Bool.false_ne_true), free]

theorem sharedStage_place (none_ : (spare digest authorization endpointType now memory.pool).1 = false)
    (backstop : GLOBAL_RATE_LIMITS endpointType = some config) : sharedStage digest authorization endpointType now memory =
      let taken := takePlace config.windowMs config.maxRequests now (memory.rateLimitStore (keyOf GLOBAL endpointType))
      (taken.1.allowed, ⟨Function.update memory.rateLimitStore (keyOf GLOBAL endpointType) taken.2,
        (spare digest authorization endpointType now memory.pool).2⟩) := by
  unfold sharedStage
  dsimp only
  rw [if_neg (by rw [none_]; exact Bool.false_ne_true), backstop]

theorem placesOf_update {accounts : List Text} {slot : Slot Event} (test : Event → Bool) (own : userId ∈ accounts) :
    placesOf accounts test shared (Function.update exempt userId (exempt userId ++ [slot])) =
      placesOf accounts test shared exempt + if test slot.call then 1 else 0 := by
  have each : ∀ other, ((Function.update exempt userId (exempt userId ++ [slot]) other).map (·.call)).countP test =
      ((exempt other).map (·.call)).countP test + if other = userId then if test slot.call then 1 else 0 else 0 := by
    intro other
    by_cases same : other = userId
    · rw [same, Function.update_self, if_pos rfl, List.map_append, List.countP_append, List.map_singleton, List.countP_singleton]
    · rw [Function.update_of_ne same, if_neg same, Nat.add_zero]
  unfold placesOf
  rw [Finset.sum_congr rfl fun other _ => each other, Finset.sum_add_distrib, Finset.sum_ite_eq', if_pos (List.mem_toFinset.mpr own),
    Nat.add_assoc]

/-- A request passes with a place of the backstop, or with one of its account's minute. -/
theorem Event.run_kept (event : Event) (trustedProxyHops : Nat) (kept : PoolKept digest all past memory.pool last exempt)
    (kept' : BackstopKept endpointType config memory.rateLimitStore last shared) (backstop : GLOBAL_RATE_LIMITS endpointType = some config)
    (fits : Fits digest all) (ordered : last ≤ event.now) (member : event ∈ all) :
    ∃ shared' exempt', PoolKept digest all (past ++ [event]) (event.run digest trustedProxyHops memory).2.pool event.now exempt' ∧
      BackstopKept endpointType config (event.run digest trustedProxyHops memory).2.rateLimitStore event.now shared' ∧
      ∀ test : Event → Bool, (∀ event, test event = true → event.shares endpointType = true) →
        (if (event.run digest trustedProxyHops memory).1 && test event then 1 else 0) +
            placesOf ((holders digest all).map (·.2)) test shared exempt ≤
          placesOf ((holders digest all).map (·.2)) test shared' exempt' := by
  cases event with
  | limiter call =>
    obtain ⟨shared', taken, after, calls⟩ := kept'.after trustedProxyHops backstop ordered
    refine ⟨shared', exempt, kept.apart ordered fun key => remembered_append, after, fun test _ => ?_⟩
    unfold placesOf
    rw [calls, List.countP_append]
    simp only [Event.run, Bool.false_and, Bool.false_eq_true, if_false]
    omega
  | rememberVerifiedToken token userId expiresAtMs now =>
    refine ⟨shared, exempt, kept.remember ordered member fits.digests, kept'.mono ordered, fun test _ => ?_⟩
    simp [Event.run]
  | sharedStage authorization placed now =>
    have spared : ∃ exempt', PoolKept digest all (past ++ [.sharedStage authorization placed now])
          (spare digest authorization placed now memory.pool).2 now exempt' ∧
        ((spare digest authorization placed now memory.pool).1 = false ∧ exempt' = exempt ∨
          (spare digest authorization placed now memory.pool).1 = true ∧ ∃ userId ∈ (holders digest all).map (·.2), ∃ slot : Slot Event,
            slot.call = .sharedStage authorization placed now ∧
              exempt' = Function.update exempt userId (exempt userId ++ [slot])) := by
      unfold spare
      by_cases skips : VERIFIED_SKIP_GLOBAL.contains placed = true
      · rw [if_pos skips]
        exact kept.spare ordered fits.accounts skips
      · rw [if_neg skips]
        exact ⟨exempt, kept.apart ordered fun key => remembered_append, .inl ⟨rfl, rfl⟩⟩
    obtain ⟨exempt', after, cases_⟩ := spared
    rw [Event.run]
    rcases cases_ with ⟨none_, rfl⟩ | ⟨passes, userId, own, slot, same, rfl⟩
    · cases present : GLOBAL_RATE_LIMITS placed with
      | none =>
        rw [sharedStage_open none_ present]
        refine ⟨shared, exempt', after, kept'.mono ordered, fun test within => ?_⟩
        have other : test (.sharedStage authorization placed now) = false := by
          refine Bool.eq_false_iff.mpr fun tested => ?_
          have := eq_of_beq (within _ tested)
          rw [this, backstop] at present
          cases present
        rw [other]
        simp
      | some config' =>
        obtain ⟨window, some_⟩ := backstop_windowMs present
        rw [sharedStage_place none_ present, window]
        obtain ⟨shared', kept'', calls⟩ := kept'.place (.sharedStage authorization placed now) GLOBAL placed config'.maxRequests backstop (Int.natCast_pos.mpr some_) ordered fun shares => by
            have := eq_of_beq shares
            rw [this, backstop] at present
            cases present
            rfl
        refine ⟨shared', exempt', after, kept'', fun test within => ?_⟩
        unfold placesOf
        rw [calls, List.countP_append]
        by_cases both : ((takePlace (RATE_LIMITS placed).windowMs config'.maxRequests now
            (memory.rateLimitStore (keyOf GLOBAL placed))).1.allowed && test (.sharedStage authorization placed now)) = true
        · obtain ⟨allowed, tested⟩ := Bool.and_eq_true_iff.mp both
          rw [if_pos both, if_pos ⟨rfl, eq_of_beq (within _ tested), allowed⟩, List.countP_singleton, if_pos tested]
          omega
        · rw [if_neg both]
          omega
    · rw [sharedStage_spared passes]
      refine ⟨shared, _, after, kept'.mono ordered, fun test _ => ?_⟩
      rw [placesOf_update test own, same, Bool.true_and]
      omega

theorem runEvents_kept {events : List Event} (trustedProxyHops : Nat) (kept : PoolKept digest all past memory.pool last exempt)
    (kept' : BackstopKept endpointType config memory.rateLimitStore last shared) (backstop : GLOBAL_RATE_LIMITS endpointType = some config)
    (fits : Fits digest all) (ordered : events.Pairwise (·.now ≤ ·.now)) (after : ∀ event ∈ events, last ≤ event.now)
    (members : ∀ event ∈ events, event ∈ all) :
    ∃ last' shared' exempt', PoolKept digest all (past ++ events) (runEvents digest trustedProxyHops memory events).2.pool last' exempt' ∧
      BackstopKept endpointType config (runEvents digest trustedProxyHops memory events).2.rateLimitStore last' shared' ∧
      (∀ now, last ≤ now → (∀ event ∈ events, event.now ≤ now) → last' ≤ now) ∧
      ∀ test : Event → Bool, (∀ event, test event = true → event.shares endpointType = true) →
        ((runEvents digest trustedProxyHops memory events).1.countP fun got => got.2 && test got.1) +
            placesOf ((holders digest all).map (·.2)) test shared exempt ≤
          placesOf ((holders digest all).map (·.2)) test shared' exempt' := by
  induction events generalizing memory past last shared exempt with
  | nil =>
    rw [List.append_nil]
    exact ⟨last, shared, exempt, kept, kept', fun now ordered _ => ordered, fun test _ => by simp [runEvents]⟩
  | cons event rest ih =>
    obtain ⟨first, sorted⟩ := List.pairwise_cons.mp ordered
    obtain ⟨shared', exempt', pool, store, counted⟩ := event.run_kept trustedProxyHops kept kept' backstop fits
      (after event List.mem_cons_self) (members event List.mem_cons_self)
    obtain ⟨last', shared'', exempt'', pool', store', latest, counted'⟩ := ih pool store sorted first
      fun later member => members later (List.mem_cons_of_mem _ member)
    rw [List.append_assoc, List.singleton_append] at pool'
    refine ⟨last', shared'', exempt'', pool', store', fun now _ bound => ?_, fun test within => ?_⟩
    · exact latest now (bound event List.mem_cons_self) fun later member => bound later (List.mem_cons_of_mem _ member)
    · have one := counted test within
      have others := counted' test within
      rw [runEvents]
      dsimp only
      rw [List.countP_cons]
      dsimp only
      omega

/-- What a run from empty memory leaves. -/
theorem runEvents_initial {events : List Event} (trustedProxyHops : Nat) (backstop : GLOBAL_RATE_LIMITS endpointType = some config) (fits : Fits digest events)
    (ordered : events.Pairwise (·.now ≤ ·.now)) :
    ∃ last shared exempt, PoolKept digest events events (runEvents digest trustedProxyHops .initial events).2.pool last exempt ∧
      BackstopKept endpointType config (runEvents digest trustedProxyHops .initial events).2.rateLimitStore last shared ∧
      (∀ now, (∀ event ∈ events, event.now ≤ now) → events ≠ [] → last ≤ now) ∧
      ∀ test : Event → Bool, (∀ event, test event = true → event.shares endpointType = true) →
        ((runEvents digest trustedProxyHops .initial events).1.countP fun got => got.2 && test got.1) ≤
          placesOf ((holders digest events).map (·.2)) test shared exempt := by
  obtain ⟨begun, first, early⟩ : ∃ begun, (∀ event ∈ events, begun ≤ event.now) ∧
      ∀ now, (∀ event ∈ events, event.now ≤ now) → events ≠ [] → begun ≤ now := by
    cases events with
    | nil => exact ⟨0, by simp, fun _ _ some_ => absurd rfl some_⟩
    | cons event rest =>
      refine ⟨event.now, fun other member => ?_, fun now bound _ => bound event List.mem_cons_self⟩
      rcases List.mem_cons.mp member with rfl | later
      · exact le_rfl
      · exact (List.pairwise_cons.mp ordered).1 other later
  have pool : PoolKept digest events [] Memory.initial.pool begun fun _ => [] :=
    ⟨fun _ => Counts.empty _ _, by simp, fun _ => .slnil, by rintro _ ⟨⟩, by rintro _ ⟨⟩, by rintro _ _ _ ⟨⟩⟩
  have store : BackstopKept endpointType config Memory.initial.rateLimitStore begun [] := ⟨Counts.empty _ _, by simp⟩
  obtain ⟨last, shared, exempt, pool', store', latest, counted⟩ :=
    runEvents_kept trustedProxyHops pool store backstop fits ordered first fun _ member => member
  refine ⟨last, shared, exempt, pool', store', fun now bound some_ => latest now (early now bound some_) bound, fun test within => ?_⟩
  have := counted test within
  omega

/-- A request that comes to the shared stage of a route, from `start` on and no later than `windowMs` after it. -/
def Event.within (endpointType : Endpoint) (start windowMs : Int) (event : Event) : Bool :=
  event.shares endpointType && decide (start ≤ event.now) && decide (event.now < start + windowMs)

theorem within_iff {start windowMs : Int} : event.within endpointType start windowMs = true ↔
    event.shares endpointType = true ∧ start ≤ event.now ∧ event.now < start + windowMs := by
  simp [Event.within, and_assoc]

/-- However many requests come, those that pass the shared stage of a route within its window are bounded: by the backstop, and for
each account signed in by its exemptions. -/
theorem shared_passes {events : List Event} (start : Int) (backstop : GLOBAL_RATE_LIMITS endpointType = some config)
    (fits : Fits digest events) (ordered : events.Pairwise (·.now ≤ ·.now)) :
    ((runEvents digest trustedProxyHops .initial events).1.countP fun got => got.2 && got.1.within endpointType start config.windowMs) ≤
      2 * config.maxRequests - 1 + if VERIFIED_SKIP_GLOBAL.contains endpointType then
        ((holders digest events).map (·.2)).dedup.length * (2 * exemptPerAccountPerMinute - 1) else 0 := by
  obtain ⟨last, shared, exempt, pool, store, -, counted⟩ := runEvents_initial trustedProxyHops backstop fits ordered
  obtain ⟨window, some_⟩ := backstop_windowMs backstop
  have minute : config.windowMs = exemptWindowMs := by
    rw [window]
    cases endpointType <;> first | rfl | cases backstop
  refine (counted _ fun event tested => (within_iff.mp tested).1).trans (Nat.add_le_add ?_ ?_)
  · rw [List.countP_map, List.countP_eq_length_filter]
    show (shared.filter fun slot => slot.call.within endpointType start config.windowMs).length ≤ _
    have bound := store.backstop.packed.interval (fun slot => slot.call.within endpointType start config.windowMs) start
      (show (1 : Int) ≤ config.maxRequests by omega) fun slot member tested => by
        obtain ⟨same, limit⟩ := store.sharedOf slot member
        obtain ⟨shares, early, late⟩ := within_iff.mp tested
        rw [same]
        exact ⟨early, late, (limit shares).le⟩
    omega
  · by_cases skips : VERIFIED_SKIP_GLOBAL.contains endpointType = true
    · rw [if_pos skips, ← List.card_toFinset, ← smul_eq_mul]
      refine Finset.sum_le_card_nsmul _ _ _ fun userId _ => ?_
      rw [List.countP_map, List.countP_eq_length_filter]
      show ((exempt userId).filter fun slot => slot.call.within endpointType start config.windowMs).length ≤ _
      have bound := (pool.windows userId).packed.interval (fun slot => slot.call.within endpointType start config.windowMs) start
        (show (1 : Int) ≤ (exemptPerAccountPerMinute : Nat) by decide) fun slot member tested => by
          obtain ⟨same, limit⟩ := pool.exemptOf userId slot member
          obtain ⟨-, early, late⟩ := within_iff.mp tested
          rw [minute] at late
          rw [same]
          exact ⟨early, late, limit.le⟩
      have most : (2 * (exemptPerAccountPerMinute : Nat) - 1 : Int) = (2 * exemptPerAccountPerMinute - 1 : Nat) := rfl
      rw [most] at bound
      exact_mod_cast bound
    · rw [if_neg skips]
      refine (Finset.sum_eq_zero fun userId _ => List.countP_eq_zero.mpr fun event member tested => ?_).le
      obtain ⟨shares, -⟩ := within_iff.mp tested
      have request := (List.mem_filter.mp ((pool.own userId).subset member)).2
      cases event with
      | limiter call => cases shares
      | rememberVerifiedToken token userId expiresAtMs now => cases shares
      | sharedStage authorization placed now =>
        rw [Event.requestOf, eq_of_beq shares, Bool.and_eq_true] at request
        exact skips request.1

def signedIn : List Event :=
  [.rememberVerifiedToken "token".toList "user".toList none 0, .sharedStage (some "Bearer token".toList) .mcp 1]

theorem signedIn_fits : Fits id signedIn := ⟨by decide, by decide⟩

theorem signedIn_ordered : signedIn.Pairwise (·.now ≤ ·.now) := by simp [signedIn, Event.now]

theorem shared_passes_signedIn : ((runEvents id 1 .initial signedIn).1.countP fun got => got.2 && got.1.within .mcp 0 (60 * 1000)) ≤
    2 * 1200 - 1 + 1 * (2 * 120 - 1) :=
  shared_passes 0 (show GLOBAL_RATE_LIMITS .mcp = some ⟨60 * 1000, 1200⟩ from rfl) signedIn_fits signedIn_ordered

/-- An account with places left of its minute takes one. -/
theorem PoolKept.allowed (kept : PoolKept digest all past pool last exempt)
    (few : (past.countP fun event => event.requestOf digest all userId && decide (now - exemptWindowMs < event.now)) <
      exemptPerAccountPerMinute) :
    (takePlace exemptWindowMs exemptPerAccountPerMinute now (pool.window userId)).1.allowed = true := by
  unfold takePlace
  cases stands : standing exemptWindowMs now (pool.window userId) with
  | none => rfl
  | some running =>
    obtain ⟨present, runs⟩ := standing_some.mp stands
    have counted := (kept.windows userId).counted running present
    have recent : ((exempt userId).filter fun slot => slot.windowStart = running.windowStart).length ≤
        ((exempt userId).map (·.call)).countP fun event => decide (now - exemptWindowMs < event.now) := by
      rw [← List.countP_eq_length_filter, List.countP_map]
      refine List.countP_mono_left fun slot member same => ?_
      have window := ((kept.windows userId).packed.inWindow slot member).1
      have at_ := (kept.exemptOf userId slot member).1
      have begun := of_decide_eq_true same
      exact decide_eq_true (show now - exemptWindowMs < slot.call.now by omega)
    have own := (kept.own userId).countP_le (p := fun event => decide (now - exemptWindowMs < event.now))
    rw [List.countP_filter] at own
    have same : (past.countP fun event => decide (now - exemptWindowMs < event.now) && event.requestOf digest all userId) =
        past.countP fun event => event.requestOf digest all userId && decide (now - exemptWindowMs < event.now) :=
      List.countP_congr fun event _ => by rw [Bool.and_comm]
    have room : ¬ (running.count : Int) ≥ (exemptPerAccountPerMinute : Nat) := by omega
    dsimp only
    rw [if_neg room]

/-- A request with a token that was verified passes, unless its own account made as many as it may within the minute before. -/
theorem sharedStage_passes {events : List Event} {until_ : Int} (fits : Fits digest events) (ordered : events.Pairwise (·.now ≤ ·.now))
    (after : ∀ event ∈ events, event.now ≤ now) (skips : VERIFIED_SKIP_GLOBAL.contains endpointType = true)
    (bearer : bearerOf authorization = some token) (known : remembered digest (digest token) events = some (until_, userId))
    (valid : now < until_)
    (few : (events.countP fun event => event.requestOf digest events userId && decide (now - exemptWindowMs < event.now)) <
      exemptPerAccountPerMinute) :
    (sharedStage digest authorization endpointType now (runEvents digest trustedProxyHops .initial events).2).1 = true := by
  obtain ⟨config, backstop⟩ : ∃ config, GLOBAL_RATE_LIMITS endpointType = some config := by
    cases endpointType <;> first | exact ⟨_, rfl⟩ | cases skips
  have some_ : events ≠ [] := by
    rintro rfl
    cases known
  obtain ⟨last, shared, exempt, pool, store, latest, -⟩ := runEvents_initial trustedProxyHops backstop fits ordered
  have latest := latest now after some_
  obtain ⟨row, found, until_, own⟩ := pool.held _ _ _ known (latest.trans_lt valid)
  generalize (runEvents digest trustedProxyHops .initial events).2 = memory at *
  have answered : verifiedAccount digest authorization now memory.pool = (some row.userId, memory.pool) := by
    rw [verifiedAccount, bearer]
    dsimp only
    rw [found]
    dsimp only
    rw [if_neg (by omega)]
  have holder : row.userId ∈ (holders digest events).map (·.2) := List.mem_map.mpr ⟨_, pool.holds row (Table.find_mem found), rfl⟩
  obtain ⟨allowed, -⟩ := takeExemption_take pool.exempted holder fits.accounts answered
  have spared : (spare digest authorization endpointType now memory.pool).1 = true := by
    rw [spare, if_pos skips, allowed, own]
    exact pool.allowed few
  rw [sharedStage_spared spared]

theorem sharedStage_passes_signedIn :
    (sharedStage id (some "bearer  token".toList) .api 2 (runEvents id 1 .initial signedIn).2).1 = true :=
  sharedStage_passes signedIn_fits signedIn_ordered (by simp [signedIn, Event.now]) (by decide)
    (show bearerOf (some "bearer  token".toList) = some "token".toList by decide)
    (show remembered id "token".toList signedIn = some (600000, "user".toList) by decide) (by decide) (by decide)

end

end LetterIRL.Limiter
