import LetterIRL.Limits.Daily
import LetterIRL.Commerce.StepWrites

namespace LetterIRL.Limits
open Lib Ledger Commerce Relation

/-! `assertChargeWithinDailyCap`, and the checkouts of one account that call it. -/

/-- The deployment's settings, with its limits. -/
structure Config extends Commerce.Config where
  configuredDailyLimit : DailyLimitKey → Nat := BETA_CAP_DEFAULTS

/-- A checkout between its charge check and its order's insert. -/
structure CheckoutCall where
  callId : Nat
  amountCents : Nat
  /-- The limit in force when it asked. -/
  capCents : Nat
  /-- The orders the account had when the call read what they come to. -/
  seen : Option Nat := none
  deriving DecidableEq

/-- One account's commerce, and the checkouts it has under way. -/
structure Checkouts where
  commerce : Store := {}
  overrides : List LimitOverride := []
  calls : Table CheckoutCall.callId := Table.empty

/-- The sum of `amount_cents` of the orders created since an instant, whatever their status. -/
def chargedSince (since : Time) (orders : List Order) : Nat :=
  total (fun order => if since ≤ order.createdAt then order.amountCents else 0) orders

def chargedToday (s : Checkouts) : Nat := chargedSince (utcDayStart s.commerce.now) s.commerce.orders.rows

/-- The account's limit in force. -/
def chargeCap (cfg : Config) (s : Checkouts) : Nat :=
  effectiveDailyLimit cfg.configuredDailyLimit s.overrides s.commerce.now .accountDailyChargeCents
    (some s.commerce.userId)

/-- The first read of `assertChargeWithinDailyCap`: one purchase above the whole day's limit is refused. -/
def readChargeCap (cfg : Config) (s : Checkouts) (callId amountCents : Nat) : Except Abort Checkouts :=
  if fresh : callId ∉ s.calls.rows.map CheckoutCall.callId then
    if chargeCap cfg s < amountCents then .error .refused
    else .ok { s with calls := s.calls.insert { callId, amountCents, capCents := chargeCap cfg s } fresh }
  else .error .refused

/-- The second: the day's total, against the limit the first one read. -/
def readCharged (s : Checkouts) (callId : Nat) : Except Abort Checkouts :=
  match s.calls.find callId with
  | none => .error .refused
  | some call =>
    if call.capCents < chargedToday s + call.amountCents then .error .refused
    else .ok { s with calls := s.calls.put { call with seen := some s.commerce.orders.rows.length } }

/-- A transaction's outcome, back in the account. -/
def Checkouts.commits (s : Checkouts) (result : Except Abort Store) : Except Abort Checkouts :=
  match result with
  | .error abort => .error abort
  | .ok commerce => .ok { s with commerce }

/-- The call that passed its check. -/
def Checkouts.checked (s : Checkouts) (callId : Nat) : Option CheckoutCall :=
  (s.calls.find callId).filter fun call => call.seen.isSome

/-- What happens to the account: the statements of its checkouts, in any order, between any
other transactions of its commerce and any change of the limits. -/
inductive CheckoutEvent
  | commerce (event : Commerce.Event)
  | overrides (overrides : List LimitOverride)
  | readChargeCap (callId amountCents : Nat)
  | readCharged (callId : Nat)
  /-- `createPackCheckout`, from its transaction on. -/
  | createPackCheckout (callId number : Nat) (product : PackProduct)
  /-- `createJitCheckout`, from `prepareJitOrder` on: an order for the price checked, or none. -/
  | createJitCheckout (callId : Nat) (request : JitCheckoutRequest)
  | abandon (callId : Nat)

/-- The orders of checkouts are opened by checkouts only. -/
def opensCheckout : Commerce.Event → Bool
  | .createPackCheckout .. => true
  | .prepareJitOrder .. => true
  | _ => false

def step (cfg : Config) (s : Checkouts) : CheckoutEvent → Except Abort Checkouts
  | .commerce event =>
    if opensCheckout event then .error .refused else s.commits (Commerce.step cfg.toConfig s.commerce event)
  | .overrides overrides => .ok { s with overrides }
  | .readChargeCap callId amountCents => readChargeCap cfg s callId amountCents
  | .readCharged callId => readCharged s callId
  | .createPackCheckout callId number product =>
    match s.checked callId with
    | none => .error .refused
    | some call =>
      { s with calls := s.calls.erase callId }.commits
        (Commerce.createPackCheckout cfg.toConfig s.commerce number product call.amountCents)
  | .createJitCheckout callId request =>
    match s.checked callId with
    | none => .error .refused
    | some call =>
      -- `DRAFT_CHANGED`: the price is no longer the one the check was made at.
      if request.amountCents ≠ call.amountCents then .error .refused
      else { s with calls := s.calls.erase callId }.commits (prepareJitOrder cfg.toConfig s.commerce request)
  | .abandon callId => .ok { s with calls := s.calls.erase callId }

/-- No other order of the account is opened between a checkout's reading of the day's total and the
insert of its own, none but by checkouts, and the limit in force does not fall. -/
def alone (cfg : Config) (s : Checkouts) : CheckoutEvent → Bool
  | .commerce event => (Commerce.step cfg.toConfig s.commerce event).toOption.all fun after =>
      after.orders.rows.length == s.commerce.orders.rows.length &&
        decide (chargeCap cfg s ≤ chargeCap cfg { s with commerce := after })
  | .overrides overrides => chargeCap cfg s ≤ chargeCap cfg { s with overrides }
  | .createPackCheckout callId _ _ | .createJitCheckout callId _ =>
    (s.calls.find callId).all fun call => call.seen == some s.commerce.orders.rows.length
  | _ => true

abbrev Alone (cfg : Config) (s : Checkouts) (event : CheckoutEvent) : Prop := alone cfg s event = true

variable {cfg : Config} {s s' : Checkouts} {before after : Store}

/-! What a transaction does to the day's total. -/

theorem chargedSince_append (since : Time) (orders : List Order) (order : Order) :
    chargedSince since (orders ++ [order]) ≤ chargedSince since orders + order.amountCents := by
  unfold chargedSince
  rw [total_append]
  by_cases counted : since ≤ order.createdAt
  · simp [counted]
  · simp [counted]

theorem chargedSince_later {earlier later : Time} (before : earlier ≤ later) (orders : List Order) :
    chargedSince later orders ≤ chargedSince earlier orders := by
  refine total_le fun order _ => ?_
  split
  · rename_i counted
    rw [if_pos (before.trans counted)]
  · exact Nat.zero_le _

theorem chargedSince_put {orders : Orders} {old new : Order} (found : orders.find new.orderId = some old)
    (moved : old.Moves new) (since : Time) :
    chargedSince since (orders.put new).rows = chargedSince since orders.rows := by
  have sum := Table.total_put (fun order => if since ≤ order.createdAt then order.amountCents else 0) found
  rw [moved.createdAt, moved.amountCents] at sum
  exact Nat.add_right_cancel sum

/-- The orders are those there were, at the same amounts, or more. -/
def Kept (before after : Orders) : Prop :=
  (after.rows.length = before.rows.length ∧ ∀ since, chargedSince since after.rows = chargedSince since before.rows) ∨
    before.rows.length < after.rows.length

theorem Kept.refl (orders : Orders) : Kept orders orders := .inl ⟨rfl, fun _ => rfl⟩

theorem Kept.trans {first second third : Orders} (left : Kept first second) (right : Kept second third) :
    Kept first third := by
  rcases left with ⟨length, same⟩ | more
  · rcases right with ⟨length', same'⟩ | more'
    · exact .inl ⟨length'.trans length, fun since => (same' since).trans (same since)⟩
    · exact .inr (by omega)
  · rcases right with ⟨length', -⟩ | more'
    · exact .inr (by omega)
    · exact .inr (by omega)

theorem Kept.put {orders : Orders} {old new : Order} (found : orders.find new.orderId = some old)
    (moved : old.Moves new) : Kept orders (orders.put new) :=
  .inl ⟨by rw [Table.put_rows, length_updateWhere], chargedSince_put found moved⟩

theorem write_kept {hands : Beneficiary → Prop} (write : Write cfg.toConfig hands before after) :
    Kept before.orders after.orders := by
  rcases write.orders with same | ⟨old, new, found, moved, put⟩ | ⟨order, -, fresh, inserted⟩
  · rw [same]
    exact .refl _
  · rw [put]
    exact .put found moved
  · rw [inserted]
    refine .inr ?_
    rw [Table.insert_rows, List.length_append, List.length_singleton]
    omega

theorem writes_kept {hands : Beneficiary → Prop} (writes : Writes cfg.toConfig hands before after) :
    Kept before.orders after.orders := by
  induction writes with
  | refl => exact .refl _
  | tail _ write ih => exact ih.trans (write_kept write)

theorem write_now {hands : Beneficiary → Prop} (write : Write cfg.toConfig hands before after) :
    before.now ≤ after.now := by
  cases write with
  | tick elapsed => exact Nat.le_add_right _ _
  | _ => exact le_rfl

theorem writes_now {hands : Beneficiary → Prop} (writes : Writes cfg.toConfig hands before after) :
    before.now ≤ after.now := by
  induction writes with
  | refl => exact le_rfl
  | tail _ write ih => exact ih.trans (write_now write)

/-- A checkout's transaction: its order's amount at most, with the order, and nothing else of the account. -/
structure Opens (before after : Store) (amountCents : Nat) : Prop where
  now : after.now = before.now
  userId : after.userId = before.userId
  orders : (after.orders.rows.length = before.orders.rows.length ∧
      ∀ since, chargedSince since after.orders.rows = chargedSince since before.orders.rows) ∨
    before.orders.rows.length < after.orders.rows.length ∧
      ∀ since, chargedSince since after.orders.rows ≤ chargedSince since before.orders.rows + amountCents

theorem insertOrder_opens {order : Order} (inserted : before.insertOrder order = .ok after) :
    Opens before after order.amountCents := by
  obtain ⟨-, -, fresh, rfl⟩ := Store.insertOrder_ok inserted
  refine ⟨rfl, rfl, .inr ⟨?_, fun since => chargedSince_append since _ _⟩⟩
  dsimp only
  rw [Table.insert_rows, List.length_append, List.length_singleton]
  omega

theorem createPackCheckout_opens {number : Nat} {product : PackProduct} {amountCents : Cents}
    (committed : Commerce.createPackCheckout cfg.toConfig before number product amountCents = .ok after) :
    Opens before after amountCents := by
  unfold Commerce.createPackCheckout at committed
  split at committed
  · cases committed
  · exact insertOrder_opens committed

theorem openJitOrder_opens {draft : Draft} {product : JitProduct} {request : JitCheckoutRequest}
    (committed : openJitOrder cfg.toConfig before draft product request = .ok after) :
    Opens before after request.amountCents := by
  unfold openJitOrder at committed
  split at committed
  · cases committed
  · split at committed
    · cases committed
    · split at committed
      · cases committed
      · split at committed
        · cases committed
        · exact insertOrder_opens committed

/-- The orders are the same but for the status of one. -/
structure Cancels (before after : Store) : Prop where
  now : after.now = before.now
  userId : after.userId = before.userId
  orders : after.orders.rows.length = before.orders.rows.length ∧
    ∀ since, chargedSince since after.orders.rows = chargedSince since before.orders.rows

theorem updateOrder_cancels {order : Order} {draftId : DraftId} (active : before.activeJitOrder draftId = some order)
    (committed : before.updateOrder { order with status := .cancelled } = .ok after) : Cancels before after := by
  obtain ⟨-, -, rfl⟩ := Store.updateOrder_ok committed
  have found : before.orders.find (({ order with status := .cancelled } : Order).stamped before.now).orderId =
      some order := activeJitOrder_find active
  refine ⟨rfl, rfl, by rw [Table.put_rows, length_updateWhere], fun since => ?_⟩
  have sum := Table.total_put (fun order => if since ≤ order.createdAt then order.amountCents else 0) found
  exact Nat.add_right_cancel sum

theorem Cancels.opens {amountCents : Nat} (cancels : Cancels before after) : Opens before after amountCents :=
  ⟨cancels.now, cancels.userId, .inl cancels.orders⟩

theorem Cancels.trans {middle : Store} {amountCents : Nat} (cancels : Cancels before middle)
    (opens : Opens middle after amountCents) : Opens before after amountCents := by
  obtain ⟨length, same⟩ := cancels.orders
  refine ⟨opens.now.trans cancels.now, opens.userId.trans cancels.userId, ?_⟩
  rw [← length]
  rcases opens.orders with ⟨length', same'⟩ | ⟨more, bound⟩
  · exact .inl ⟨length', fun since => (same' since).trans (same since)⟩
  · refine .inr ⟨more, fun since => ?_⟩
    rw [← same since]
    exact bound since

theorem prepareJitOrder_opens {request : JitCheckoutRequest}
    (committed : prepareJitOrder cfg.toConfig before request = .ok after) : Opens before after request.amountCents := by
  have unchanged : Opens before before request.amountCents := ⟨rfl, rfl, .inl ⟨rfl, fun _ => rfl⟩⟩
  unfold prepareJitOrder at committed
  split at committed
  · cases committed
  · split at committed
    · cases committed
    · split at committed
      · cases committed
      · split at committed
        · cases committed
        · split at committed
          · split at committed
            · cases committed
            · exact openJitOrder_opens committed
          · rename_i existing active
            have replaced : ∀ {draft : Draft} {product : JitProduct}, (do
                let cancelled ← before.updateOrder { existing with status := .cancelled }
                openJitOrder cfg.toConfig cancelled draft product request) = .ok after →
                Opens before after request.amountCents := by
              intro draft product committed
              obtain ⟨middle, cancelled, opened⟩ := bind_eq_ok.mp committed
              exact (updateOrder_cancels active cancelled).trans (openJitOrder_opens opened)
            split at committed
            · exact (updateOrder_cancels active committed).opens
            · split at committed
              · exact replaced committed
              · split at committed
                · split at committed
                  · cases committed
                  · cases committed
                    exact unchanged
                · split at committed
                  · cases committed
                    exact unchanged
                  · split at committed
                    · cases committed
                    · split at committed
                      · cases committed
                        exact unchanged
                      · exact replaced committed

/-! What holds of a run whose checkouts are alone. -/

/-- A checkout that passed its check, and no order since: its amount still fits. -/
structure CheckoutCall.Fits (cfg : Config) (s : Checkouts) (call : CheckoutCall) : Prop where
  cap : call.capCents ≤ chargeCap cfg s
  seen : ∀ orders, call.seen = some orders → orders ≤ s.commerce.orders.rows.length
  room : call.seen = some s.commerce.orders.rows.length → chargedToday s + call.amountCents ≤ call.capCents

structure Charged (cfg : Config) (s : Checkouts) : Prop where
  regular : s.commerce.Regular
  calls : ∀ call ∈ s.calls.rows, call.Fits cfg s
  within : chargedToday s ≤ chargeCap cfg s

/-- A limit that does not fall, and orders that are those there were, or more. -/
theorem CheckoutCall.Fits.kept {call : CheckoutCall} (fits : call.Fits cfg s) (cap : chargeCap cfg s ≤ chargeCap cfg s')
    (length : s.commerce.orders.rows.length ≤ s'.commerce.orders.rows.length)
    (same : s'.commerce.orders.rows.length = s.commerce.orders.rows.length → chargedToday s' ≤ chargedToday s) :
    call.Fits cfg s' where
  cap := fits.cap.trans cap
  seen orders at_ := (fits.seen orders at_).trans length
  room at_ := by
    have bound := fits.seen _ at_
    have equal : s'.commerce.orders.rows.length = s.commerce.orders.rows.length := by omega
    have room := fits.room (by rw [at_, equal])
    have less := same equal
    omega

theorem commerce_charged {event : Commerce.Event} (charged : Charged cfg s)
    (committed : Commerce.step cfg.toConfig s.commerce event = .ok after)
    (length : after.orders.rows.length = s.commerce.orders.rows.length)
    (cap : chargeCap cfg s ≤ chargeCap cfg { s with commerce := after }) :
    Charged cfg { s with commerce := after } := by
  have writes := step_writes charged.regular committed
  have less : chargedToday { s with commerce := after } ≤ chargedToday s := by
    rcases writes_kept writes with ⟨-, same⟩ | more
    · have later := chargedSince_later (utcDayStart_mono (writes_now writes)) s.commerce.orders.rows
      unfold chargedToday
      dsimp only
      rw [same]
      exact later
    · omega
  refine ⟨writes.regular charged.regular, fun call member => ?_, (less.trans charged.within).trans cap⟩
  exact (charged.calls call member).kept cap length.ge fun _ => less

theorem readChargeCap_charged {callId amountCents : Nat} (charged : Charged cfg s)
    (committed : readChargeCap cfg s callId amountCents = .ok s') : Charged cfg s' := by
  unfold readChargeCap at committed
  split at committed
  · split at committed
    · cases committed
    · cases committed
      refine ⟨charged.regular, fun call member => ?_, charged.within⟩
      rcases List.mem_append.mp member with old | new
      · exact (charged.calls call old).kept le_rfl le_rfl fun _ => le_rfl
      · rw [List.mem_singleton.mp new]
        exact ⟨le_rfl, by rintro _ ⟨⟩, by rintro ⟨⟩⟩
  · cases committed

theorem readCharged_charged {callId : Nat} (charged : Charged cfg s) (committed : readCharged s callId = .ok s') :
    Charged cfg s' := by
  unfold readCharged at committed
  split at committed
  · cases committed
  · rename_i call found
    split at committed
    · cases committed
    · rename_i room
      cases committed
      have fits := charged.calls call (Table.find_mem found)
      refine ⟨charged.regular, fun other member => ?_, charged.within⟩
      rcases Table.mem_put.mp member with ⟨old, -⟩ | ⟨rfl, -⟩
      · exact (charged.calls other old).kept le_rfl le_rfl fun _ => le_rfl
      · refine ⟨fits.cap, fun orders at_ => ?_, fun _ => Nat.le_of_not_lt room⟩
        cases at_
        exact le_rfl

theorem checked_eq {callId : Nat} {call : CheckoutCall} (checked : s.checked callId = some call) :
    s.calls.find callId = some call := by
  unfold Checkouts.checked at checked
  exact (Option.filter_eq_some_iff.mp checked).1

/-- The order of a checkout that is alone. -/
theorem opens_charged {callId : Nat} {call : CheckoutCall} (charged : Charged cfg s)
    (found : s.calls.find callId = some call) (alone : call.seen = some s.commerce.orders.rows.length)
    (opens : Opens s.commerce after call.amountCents) (regular : after.Regular) :
    Charged cfg { s with commerce := after, calls := s.calls.erase callId } := by
  have fits := charged.calls call (Table.find_mem found)
  have room := fits.room alone
  have cap : chargeCap cfg { s with commerce := after, calls := s.calls.erase callId } = chargeCap cfg s := by
    unfold chargeCap
    dsimp only
    rw [opens.now, opens.userId]
  have today : chargedToday { s with commerce := after, calls := s.calls.erase callId } =
      chargedSince (utcDayStart s.commerce.now) after.orders.rows := by
    unfold chargedToday
    dsimp only
    rw [opens.now]
  have length : s.commerce.orders.rows.length ≤ after.orders.rows.length := by
    rcases opens.orders with ⟨length, -⟩ | ⟨more, -⟩
    · exact length.ge
    · exact more.le
  refine ⟨regular, fun other member => ?_, ?_⟩
  · refine (charged.calls other (Table.mem_erase.mp member).1).kept cap.ge length fun equal => ?_
    rcases opens.orders with ⟨-, same⟩ | ⟨more, -⟩
    · rw [today, same]
      exact le_rfl
    · dsimp only at equal
      omega
  · rw [today, cap]
    have limit := fits.cap
    have within := charged.within
    unfold chargedToday at room within
    rcases opens.orders with ⟨-, same⟩ | ⟨-, bound⟩
    · rw [same]
      exact within
    · have bound := bound (utcDayStart s.commerce.now)
      omega

theorem commits_ok {result : Except Abort Store} (committed : s.commits result = .ok s') :
    ∃ after, result = .ok after ∧ s' = { s with commerce := after } := by
  unfold Checkouts.commits at committed
  split at committed
  · cases committed
  · cases committed
    exact ⟨_, rfl, rfl⟩

theorem alone_seen {callId : Nat} {call : CheckoutCall}
    (alone : ((s.calls.find callId).all fun call => call.seen == some s.commerce.orders.rows.length) = true)
    (found : s.calls.find callId = some call) : call.seen = some s.commerce.orders.rows.length := by
  rw [found] at alone
  simpa using alone

theorem step_charged {event : CheckoutEvent} (charged : Charged cfg s) (alone : Alone cfg s event)
    (committed : step cfg s event = .ok s') : Charged cfg s' := by
  cases event with
  | commerce event =>
    unfold step at committed
    dsimp only at committed
    split at committed
    · cases committed
    · obtain ⟨after, stepped, rfl⟩ := commits_ok committed
      simp only [Alone, Limits.alone, stepped, Except.toOption, Option.all_some, Bool.and_eq_true, beq_iff_eq,
        decide_eq_true_eq] at alone
      obtain ⟨length, cap⟩ := alone
      exact commerce_charged charged stepped length cap
  | overrides overrides =>
    cases committed
    have cap := of_decide_eq_true alone
    refine ⟨charged.regular, fun call member => ?_, charged.within.trans cap⟩
    exact (charged.calls call member).kept cap le_rfl fun _ => le_rfl
  | readChargeCap callId amountCents => exact readChargeCap_charged charged committed
  | readCharged callId => exact readCharged_charged charged committed
  | createPackCheckout callId number product =>
    unfold step at committed
    dsimp only at committed
    split at committed
    · cases committed
    · rename_i call checked
      obtain ⟨after, created, rfl⟩ := commits_ok committed
      have found := checked_eq checked
      have stepped : Commerce.step cfg.toConfig s.commerce (.createPackCheckout number product call.amountCents) =
          .ok after := created
      have regular := (step_writes charged.regular stepped).regular charged.regular
      exact opens_charged charged found (alone_seen alone found) (createPackCheckout_opens created) regular
  | createJitCheckout callId request =>
    unfold step at committed
    dsimp only at committed
    split at committed
    · cases committed
    · rename_i call checked
      split at committed
      · cases committed
      · rename_i price
        obtain ⟨after, prepared, rfl⟩ := commits_ok committed
        have found := checked_eq checked
        have stepped : Commerce.step cfg.toConfig s.commerce (.prepareJitOrder request) = .ok after := prepared
        have regular := (step_writes charged.regular stepped).regular charged.regular
        have opens := prepareJitOrder_opens prepared
        rw [not_not.mp price] at opens
        exact opens_charged charged found (alone_seen alone found) opens regular
  | abandon callId =>
    cases committed
    refine ⟨charged.regular, fun call member => ?_, charged.within⟩
    exact (charged.calls call (Table.mem_erase.mp member).1).kept le_rfl le_rfl fun _ => le_rfl

/-- From any account, with no checkout under way and its orders of the day within its limit: over any
interleaving of its checkouts with whatever else happens, in which each inserts its order before any other
order of the account and the limit does not fall, the day's orders stay within the limit. -/
theorem charges_within_cap {start : Checkouts} {allowed : Store → Commerce.Event → Prop}
    (opened : Commerce.Reachable cfg.toConfig allowed start.commerce) (idle : start.calls = Table.empty)
    (within : chargedToday start ≤ chargeCap cfg start) (reach : Reach (step cfg) (Alone cfg) start s) :
    chargedToday s ≤ chargeCap cfg s := by
  have charged : Charged cfg start := by
    refine ⟨opened.regular, fun call member => ?_, within⟩
    rw [idle] at member
    exact absurd member List.not_mem_nil
  have run := reach.invariant charged fun _ _ _ charged alone committed => step_charged charged alone committed
  exact run.within

/-- An account an operator allows a hundred dollars a day. -/
def hundredADay : Checkouts :=
  { overrides := [{ limitKey := .accountDailyChargeCents, userId := some 0, value := 10000 }] }

/-- The ninety-dollar pack, on sale. -/
def powerPack : PackProduct := { productCode := .creditPack100, credits := 100, expectedAmountCents := 9000, giftLetters := 1 }

/-- Its one checkout fits. -/
theorem charges_within_cap_once :
    ∃ s, Reach (step {}) (Alone {}) hundredADay s ∧ chargedToday s = 9000 ∧ 9000 ≤ chargeCap {} s := by
  obtain ⟨s, reach, spent⟩ := exists_reach (checkedStep (step {}) (Alone {})) hundredADay
    (fun s => chargedToday s == 9000) [.readChargeCap 1 9000, .readCharged 1, .createPackCheckout 1 1 powerPack]
    (by decide)
  rw [beq_iff_eq] at spent
  have run := reach_of_checked reach
  have within := charges_within_cap (.start : Commerce.Reachable {} anyStep {}) rfl (by decide) run
  exact ⟨s, run, spent, spent ▸ within⟩

/-- Two of them at once, each checked before either's order is there: a hundred and eighty dollars in a day. -/
theorem charges_over_cap :
    ∃ s, Reach (step {}) anyStep hundredADay s ∧ chargedToday hundredADay ≤ chargeCap {} hundredADay ∧
      chargeCap {} s < chargedToday s := by
  obtain ⟨s, reach, above⟩ := exists_reach (step {}) hundredADay (fun s => decide (chargeCap {} s < chargedToday s))
    [.readChargeCap 1 9000, .readChargeCap 2 9000, .readCharged 1, .readCharged 2,
     .createPackCheckout 1 1 powerPack, .createPackCheckout 2 2 powerPack] (by decide)
  exact ⟨s, reach, by decide, by simpa using above⟩

end LetterIRL.Limits
