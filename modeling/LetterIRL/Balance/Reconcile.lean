import LetterIRL.Balance.Sweeps

namespace LetterIRL.Balance
open Lib Ledger Commerce

/-! `reconcileBalances` as it runs: one query over every account, then one `UPDATE` for each mismatch it found. -/

/-- Every account, and the reconciliation under way. -/
structure Books where
  now : Time := 0
  users : List UserId := []
  accounts : UserId → Account := fun _ => {}
  /-- When the query ran, and the mismatches it found that are still to be written. -/
  queriedAt : Option Time := none
  mismatches : List (UserId × Nat) := []

inductive BooksEvent
  | wait (elapsed : Time)
  | open_ (userId : UserId)
  | apply (userId : UserId) (event : AccountEvent)
  | query
  | fix

namespace Books

def setAccount (s : Books) (userId : UserId) (account : Account) : Books :=
  { s with accounts := Function.update s.accounts userId account }

/-- The rows the query returns: the accounts whose cached balance is not what the ledger holds. -/
def found (s : Books) : List (UserId × Nat) :=
  s.users.filterMap fun userId =>
    let account := s.accounts userId
    let actual := spendable s.now account.creditLedger
    if account.credits ≠ actual then some (userId, actual) else none

/-- `UPDATE users SET credits`, with the value the query found. -/
def write (s : Books) (userId : UserId) (actual : Nat) (rest : List (UserId × Nat)) : Books :=
  { s with
    accounts := Function.update s.accounts userId { s.accounts userId with credits := actual }
    mismatches := rest }

def step (s : Books) : BooksEvent → Except Abort Books
  | .wait elapsed => .ok { s with now := s.now + elapsed }
  | .open_ userId => .ok { s with users := userId :: s.users }
  | .apply userId event =>
    if userId ∉ s.users then .error .refused
    else
      match event with
      | .reconcileBalances => .error .refused
      | event => (applyAccountEvent s.now (s.accounts userId) event).map (s.setAccount userId)
  | .query =>
    if s.mismatches ≠ [] then .error .refused
    else .ok { s with queriedAt := some s.now, mismatches := s.found }
  | .fix =>
    match s.mismatches with
    | [] => .error .refused
    | (userId, actual) :: rest => .ok (s.write userId actual rest)

/-- The operation changes no balance. -/
def quiet : AccountEvent → Bool
  | .markExpiredEntries | .blockSends _ => true
  | _ => false

/-- From the query on, every operation meets the condition under which the cache follows it, and one that changes a
balance finds no mismatch of the account waiting to be written. -/
def undisturbed (s : Books) : BooksEvent → Prop
  | .apply userId event => s.queriedAt.isSome →
    CacheFollows s.now (s.accounts userId) event ∧
      (quiet event = true ∨ userId ∉ s.mismatches.map Prod.fst)
  | _ => True

end Books

variable {s s' : Books} {userId : UserId} {event : AccountEvent} {now swept : Time} {account after : Account}

/-- An account as the last query's law sees it. -/
def Books.view (s : Books) (userId : UserId) : Swept :=
  { wallet := { now := s.now, account := s.accounts userId }, swept := s.queriedAt.getD 0 }

/-- What the law has `users.credits` be: what can be spent, and what lapsed since the query. -/
def Books.lawful (s : Books) (userId : UserId) : Nat :=
  spendable s.now (s.accounts userId).creditLedger +
    lapsedTotal (s.queriedAt.getD 0) s.now (s.accounts userId).creditLedger

/-- Each account is lawful, or its mismatch is about to be written with a value that still is. -/
structure Books.Sound (s : Books) : Prop where
  dated : ∀ userId, Dated (s.view userId)
  queried : s.mismatches ≠ [] → s.queriedAt.isSome
  opened : ∀ userId actual, (userId, actual) ∈ s.mismatches → userId ∈ s.users
  unopened : ∀ userId ∉ s.users, s.accounts userId = {}
  waiting : ∀ userId actual, (userId, actual) ∈ s.mismatches → actual = s.lawful userId
  lawful : s.queriedAt.isSome → ∀ userId, (∀ actual, (userId, actual) ∉ s.mismatches) →
    (s.accounts userId).credits = s.lawful userId

/-- An operation the cache follows keeps the law of an account that has it. -/
theorem lawful_apply (applied : applyAccountEvent now account event = .ok after)
    (condition : CacheFollows now account event)
    (counted : account.credits = spendable now account.creditLedger + lapsedTotal swept now account.creditLedger) :
    after.credits = spendable now after.creditLedger + lapsedTotal swept now after.creditLedger := by
  have follows := (follows_iff applied).mpr condition
  have same := lapsedTotal_apply applied condition counted
  unfold Follows at follows
  rw [same]
  omega

/-- One that changes no balance leaves what can be spent and what has lapsed. -/
theorem quiet_apply (applied : applyAccountEvent now account event = .ok after) (quiet : Books.quiet event = true) :
    after.credits = account.credits ∧ spendable now after.creditLedger = spendable now account.creditLedger ∧
      lapsedTotal swept now after.creditLedger = lapsedTotal swept now account.creditLedger := by
  cases event with
  | markExpiredEntries =>
    cases applied
    have follows : Follows now account (markExpiredEntries now account) := follows_markExpiredEntries
    unfold Follows at follows
    have credits : (markExpiredEntries now account).credits = account.credits := rfl
    exact ⟨rfl, by omega, lapsedTotal_markExpiredEntries⟩
  | blockSends reason =>
    cases applied
    exact ⟨rfl, rfl, rfl⟩
  | _ => cases quiet

theorem lawful_wait {elapsed : Time} (sound : s.Sound) (userId : UserId) :
    ({ s with now := s.now + elapsed } : Books).lawful userId = s.lawful userId :=
  wait_conserves (sound.dated userId)

theorem Books.Sound.wait (sound : s.Sound) (elapsed : Time) : Books.Sound { s with now := s.now + elapsed } where
  dated userId := (sound.dated userId).wait
  queried := sound.queried
  opened := sound.opened
  unopened := sound.unopened
  waiting userId actual member := by
    rw [lawful_wait sound]
    exact sound.waiting userId actual member
  lawful queried userId free := by
    rw [lawful_wait sound]
    exact sound.lawful queried userId free

theorem Books.Sound.apply (sound : s.Sound) (opened : userId ∈ s.users)
    (applied : applyAccountEvent s.now (s.accounts userId) event = .ok after)
    (permitted : s.undisturbed (.apply userId event)) : Books.Sound (s.setAccount userId after) := by
  have other : ∀ {user : UserId}, user ≠ userId → (s.setAccount userId after).accounts user = s.accounts user :=
    fun differ => Function.update_of_ne differ _ _
  have self : (s.setAccount userId after).accounts userId = after := Function.update_self _ _ _
  refine ⟨fun user => ?_, sound.queried, sound.opened, fun user closed => ?_, fun user actual member => ?_,
    fun queried user free => ?_⟩
  · by_cases same : user = userId
    · subst same
      have dated := (sound.dated user).apply applied (sound.dated user).sweptBefore
      unfold Books.view
      rw [self]
      exact dated
    · unfold Books.view
      rw [other same]
      exact sound.dated user
  · rw [other (fun same => closed (same ▸ opened))]
    exact sound.unopened user closed
  · by_cases same : user = userId
    · subst same
      have quietly : Books.quiet event = true := by
        by_cases queried : s.queriedAt.isSome = true
        · exact (permitted queried).2.resolve_right fun free => free (List.mem_map_of_mem member)
        · -- Nothing waits to be written before the first query.
          exact absurd (sound.queried (List.ne_nil_of_mem member)) queried
      have before := sound.waiting user actual member
      unfold Books.lawful at before ⊢
      rw [self]
      show actual = spendable s.now after.creditLedger + lapsedTotal (s.queriedAt.getD 0) s.now after.creditLedger
      obtain ⟨-, spent, lapsed⟩ := quiet_apply applied quietly
      rw [spent, lapsed]
      exact before
    · have before := sound.waiting user actual member
      unfold Books.lawful at before ⊢
      rw [other same]
      exact before
  · by_cases same : user = userId
    · subst same
      have before := sound.lawful queried user free
      have after' := lawful_apply applied (permitted queried).1 before
      unfold Books.lawful
      rw [self]
      exact after'
    · have before := sound.lawful queried user free
      unfold Books.lawful at before ⊢
      rw [other same]
      exact before

theorem Books.mem_found {actual : Nat} : (userId, actual) ∈ s.found ↔ userId ∈ s.users ∧
    (s.accounts userId).credits ≠ spendable s.now (s.accounts userId).creditLedger ∧
      actual = spendable s.now (s.accounts userId).creditLedger := by
  unfold Books.found
  simp only [List.mem_filterMap, Option.ite_none_right_eq_some, Option.some.injEq, Prod.mk.injEq]
  constructor
  · rintro ⟨user, member, mismatch, rfl, rfl⟩
    exact ⟨member, mismatch, rfl⟩
  · rintro ⟨member, mismatch, rfl⟩
    exact ⟨userId, member, mismatch, rfl, rfl⟩

/-- The query finds every account that is not lawful from then on. -/
theorem Books.Sound.query (sound : s.Sound) :
    Books.Sound { s with queriedAt := some s.now, mismatches := s.found } := by
  have lawful : ∀ user, ({ s with queriedAt := some s.now, mismatches := s.found } : Books).lawful user =
      spendable s.now (s.accounts user).creditLedger := by
    intro user
    show _ + lapsedTotal s.now s.now (s.accounts user).creditLedger = _
    rw [lapsedTotal_now, add_zero]
  refine ⟨fun user => ?_, fun _ => rfl, fun user actual member => (Books.mem_found.mp member).1, sound.unopened,
    fun user actual member => ?_, fun _ user free => ?_⟩
  · obtain ⟨-, created, expired⟩ := sound.dated user
    exact ⟨le_rfl, created, expired⟩
  · rw [lawful]
    exact (Books.mem_found.mp member).2.2
  · rw [lawful]
    show (s.accounts user).credits = _
    by_cases opened : user ∈ s.users
    · by_contra mismatch
      exact free _ (Books.mem_found.mpr ⟨opened, mismatch, rfl⟩)
    · rw [sound.unopened user opened]
      rfl

theorem Books.write_self (s : Books) (userId : UserId) (actual : Nat) (rest : List (UserId × Nat)) :
    (s.write userId actual rest).accounts userId = { s.accounts userId with credits := actual } :=
  Function.update_self _ _ _

theorem Books.write_other {user : UserId} (s : Books) (actual : Nat) (rest : List (UserId × Nat))
    (apart : user ≠ userId) : (s.write userId actual rest).accounts user = s.accounts user :=
  Function.update_of_ne apart _ _

/-- A mismatch is written over: the account is lawful, or another waits to be written. -/
theorem Books.Sound.fix {actual : Nat} {rest : List (UserId × Nat)} (sound : s.Sound)
    (here : s.mismatches = (userId, actual) :: rest) :
    Books.Sound (s.write userId actual rest) := by
  have ledger : ∀ user, ((s.write userId actual rest).accounts user).creditLedger = (s.accounts user).creditLedger := by
    intro user
    by_cases same : user = userId
    · rw [same, Books.write_self]
    · rw [Books.write_other s actual rest same]
  have lawful : ∀ user, (s.write userId actual rest).lawful user = s.lawful user := by
    intro user
    unfold Books.lawful
    rw [ledger user]
    rfl
  have queried : s.queriedAt.isSome := sound.queried fun none => by rw [none] at here; cases here
  have opened : userId ∈ s.users := sound.opened userId actual (here ▸ List.mem_cons_self)
  refine ⟨fun user => ?_, fun _ => queried, fun user value member => ?_, fun user closed => ?_,
    fun user value member => ?_, fun queried user free => ?_⟩
  · obtain ⟨before, created, expired⟩ := sound.dated user
    refine ⟨before, fun lot member => ?_, fun lot member => ?_⟩
    · exact created lot (show lot ∈ (s.accounts user).creditLedger.rows from ledger user ▸ member)
    · exact expired lot (show lot ∈ (s.accounts user).creditLedger.rows from ledger user ▸ member)
  · exact sound.opened user value (here ▸ List.mem_cons_of_mem _ member)
  · have apart : user ≠ userId := by
      rintro rfl
      exact closed opened
    rw [Books.write_other s actual rest apart]
    exact sound.unopened user closed
  · rw [lawful user]
    exact sound.waiting user value (here ▸ List.mem_cons_of_mem _ member)
  · rw [lawful user]
    by_cases same : user = userId
    · rw [same, Books.write_self]
      exact sound.waiting userId actual (here ▸ List.mem_cons_self)
    · rw [Books.write_other s actual rest same]
      refine sound.lawful queried user fun value member => ?_
      rw [here] at member
      rcases List.mem_cons.mp member with first | later
      · exact same (congrArg Prod.fst first)
      · exact free value later

theorem Books.Sound.open_ (sound : s.Sound) (userId : UserId) : Books.Sound { s with users := userId :: s.users } where
  dated := sound.dated
  queried := sound.queried
  opened user actual member := List.mem_cons_of_mem _ (sound.opened user actual member)
  unopened user closed := sound.unopened user fun member => closed (List.mem_cons_of_mem _ member)
  waiting := sound.waiting
  lawful := sound.lawful

theorem Books.Sound.step {event : BooksEvent} (sound : s.Sound) (permitted : s.undisturbed event)
    (committed : s.step event = .ok s') : s'.Sound := by
  cases event with
  | wait elapsed =>
    cases committed
    exact sound.wait elapsed
  | open_ userId =>
    cases committed
    exact sound.open_ userId
  | apply userId event =>
    simp only [Books.step] at committed
    split at committed
    · cases committed
    · rename_i opened
      split at committed
      · cases committed
      · obtain ⟨after, applied, rfl⟩ := map_eq_ok committed
        exact sound.apply (Decidable.not_not.mp opened) applied permitted
  | query =>
    simp only [Books.step] at committed
    split at committed
    · cases committed
    · cases committed
      exact sound.query
  | fix =>
    simp only [Books.step] at committed
    split at committed
    · cases committed
    · rename_i userId actual rest here
      cases committed
      exact sound.fix here

/-- Once the last of the mismatches is written, every account's cached balance is what can be spent and what lapsed
since the query, in every run in which, from the query on, each operation meets the condition under which the cache
follows it, and none that changes a balance finds a mismatch of its account waiting to be written. -/
theorem reconcile_settles (reach : Reach Books.step Books.undisturbed {} s) {queriedAt : Time}
    (queried : s.queriedAt = some queriedAt) (settled : s.mismatches = []) (userId : UserId) :
    (s.accounts userId).credits = spendable s.now (s.accounts userId).creditLedger +
      lapsedTotal queriedAt s.now (s.accounts userId).creditLedger := by
  have sound := reach.invariant (I := fun s => s.Sound)
    { dated := fun _ => ⟨le_rfl, fun _ member => (nomatch member), fun _ member => (nomatch member)⟩
      queried := fun some => absurd rfl some
      opened := fun _ _ member => (nomatch member)
      unopened := fun _ _ => rfl
      waiting := fun _ _ member => (nomatch member)
      lawful := fun queried => (nomatch queried) }
    fun _ _ _ sound permitted committed => sound.step permitted committed
  have lawful := sound.lawful (by rw [queried]; rfl) userId fun actual member => by
    rw [settled] at member
    cases member
  rwa [Books.lawful, queried] at lawful

instance (s : Books) (event : BooksEvent) : Decidable (s.undisturbed event) := by
  unfold Books.undisturbed
  split <;> infer_instance

/-- A pack that runs out before the query: the account's balance is written down, and grows again after. -/
theorem expired_pack_reconciled :
    ∃ s : Books, s.mismatches = [] ∧ (s.accounts 1).credits = 3 ∧
      3 = spendable s.now (s.accounts 1).creditLedger + lapsedTotal (days 2) s.now (s.accounts 1).creditLedger := by
  obtain ⟨s, reach, written⟩ := exists_reach (checkedStep Books.step Books.undisturbed) {}
    (fun s => s.mismatches.isEmpty && (s.accounts 1).credits == 3 && s.queriedAt == some (days 2))
    [.open_ 1, .apply 1 grantExpiring, .wait (days 2), .query, .fix, .apply 1 (.grantAdjustment 3)] (by decide)
  simp only [Bool.and_eq_true, beq_iff_eq, List.isEmpty_iff] at written
  obtain ⟨⟨settled, credits⟩, queried⟩ := written
  exact ⟨s, settled, credits, credits ▸ reconcile_settles (reach_of_checked reach) queried settled 1⟩

/-- Granted between the query and the write, the three credits are lost to the cache. -/
theorem grant_lost_to_reconcile :
    ∃ s : Books, Reach Books.step anyStep {} s ∧ s.queriedAt = some (days 2) ∧ s.mismatches = [] ∧
      (s.accounts 1).credits ≠ spendable s.now (s.accounts 1).creditLedger +
        lapsedTotal (days 2) s.now (s.accounts 1).creditLedger := by
  obtain ⟨s, reach, lost⟩ := exists_reach Books.step {}
    (fun s => s.mismatches.isEmpty && (s.accounts 1).credits == 0 && s.queriedAt == some (days 2) &&
      spendable s.now (s.accounts 1).creditLedger == 3)
    [.open_ 1, .apply 1 grantExpiring, .wait (days 2), .query, .apply 1 (.grantAdjustment 3), .fix] (by decide)
  simp only [Bool.and_eq_true, beq_iff_eq, List.isEmpty_iff] at lost
  obtain ⟨⟨⟨settled, credits⟩, queried⟩, spent⟩ := lost
  exact ⟨s, reach, queried, settled, by omega⟩

end LetterIRL.Balance
