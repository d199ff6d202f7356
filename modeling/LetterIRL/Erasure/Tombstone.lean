import LetterIRL.Erasure.Records

namespace LetterIRL.Erasure
open Lib Content Commerce

/-! A tombstone among the calls that passed sign-in before it. -/

variable {cfg : Config} {s s' : Records}

inductive Event
  | tick (elapsed : Time)
  /-- A call passes sign-in, which reads the account as committed. -/
  | signIn (call : Call)
  | commit (call : Call) (serial : Nat)
  /-- A call ends without its write: a refusal of its own, or a fault. -/
  | abandon (call : Call)
  /-- `eraseAccountWithClient` takes the account's row, and its gate lets the account go. -/
  | eraseLock
  | eraseCommit (serial : Nat)
  /-- The erasure's transaction rolls back. -/
  | eraseAbort
  deriving DecidableEq

inductive RecordsError
  | refused
  /-- The write waits for the erasure's lock. -/
  | waits
  deriving DecidableEq

def step (cfg : Config) (s : Records) : Event → Except RecordsError Records
  | .tick elapsed => .ok { s with now := s.now + elapsed }
  | .signIn call => if s.erased then .error .refused else .ok { s with calls := s.calls ++ [call] }
  | .commit call serial =>
    if call ∉ s.calls then .error .refused
    else if s.erasing then .error .waits
    else .ok { s.write cfg serial call with calls := s.calls.erase call }
  | .abandon call => .ok { s with calls := s.calls.erase call }
  | .eraseLock =>
    if s.erasing then .error .waits
    else if s.erased then .error .refused
    else .ok { s with erasing := true }
  | .eraseCommit serial => if s.erasing then .ok (s.tombstone serial) else .error .refused
  | .eraseAbort => if s.erasing then .ok { s with erasing := false } else .error .refused

/-- Nothing of the person is left in the account's records. -/
structure Tombstone (s : Records) : Prop where
  email : ∃ serial, s.user.email = .placeholder serial
  returnAddress : s.user.returnAddress = none
  stationeryTheme : s.user.stationeryTheme = none
  stationeryDesignId : s.user.stationeryDesignId = none
  recentUpload : s.recentUpload = none
  signature : s.signature = none
  designs : s.designs = []
  addressRequests : s.addressRequests = []

theorem tombstone_tombstone (s : Records) (serial : Nat) : Tombstone (s.tombstone serial) :=
  ⟨⟨serial, rfl⟩, rfl, rfl, rfl, rfl, rfl, rfl, rfl⟩

/-- What a call that does not look at `erased_at` leaves, whatever is written after it. -/
def Revived (s : Records) : Prop :=
  (∃ email, s.user.email = .address email) ∨ s.user.returnAddress.isSome ∨ s.recentUpload.isSome

theorem Revived.not_tombstone (revived : Revived s) : ¬ Tombstone s := by
  intro tombstone
  rcases revived with ⟨email, here⟩ | address | upload
  · obtain ⟨serial, there⟩ := tombstone.email
    rw [here] at there
    cases there
  · rw [tombstone.returnAddress] at address
    cases address
  · rw [tombstone.recentUpload] at upload
    cases upload

/-- A call that checks `erased_at` writes nothing on a tombstone. -/
theorem write_of_checks {call : Call} {serial : Nat} (erased : s.erased = true) (checks : call.checksErasure = true) :
    s.write cfg serial call = s := by
  cases call with
  | updateUserEmail email => cases checks
  | saveReturnAddress address => cases checks
  | setRecentUploadedImage imageUrl context => cases checks
  | _ => simp only [Records.write, erased, or_true, if_true]

/-- One that does not revives the account. -/
theorem revived_of_unchecked {call : Call} {serial : Nat} (unchecked : call.checksErasure = false) :
    Revived (s.write cfg serial call) := by
  cases call with
  | updateUserEmail email => exact .inl ⟨email, rfl⟩
  | saveReturnAddress address => exact .inr (.inl rfl)
  | setRecentUploadedImage imageUrl context => exact .inr (.inr rfl)
  | _ => cases unchecked

theorem Revived.write {call : Call} {serial : Nat} (revived : Revived s) (erased : s.erased = true) :
    Revived (s.write cfg serial call) := by
  by_cases checks : call.checksErasure = true
  · rw [write_of_checks erased checks]
    exact revived
  · exact revived_of_unchecked ((Bool.not_eq_true _).mp checks)

theorem erased_write {call : Call} {serial : Nat} (erased : s.erased = true) :
    (s.write cfg serial call).erased = true := by
  by_cases checks : call.checksErasure = true
  · rw [write_of_checks erased checks]
    exact erased
  · cases call with
    | updateUserEmail email => exact erased
    | saveReturnAddress address => exact erased
    | setRecentUploadedImage imageUrl context => exact erased
    | _ => exact absurd rfl checks

/-- The step lemma: an erased account stays erased, a revived one revived, and a tombstone is revived by a call that
does not look at `erased_at`, and by nothing else. -/
theorem erased_step {event : Event} (erased : s.erased = true) (settled : s.erasing = false)
    (committed : step cfg s event = .ok s') :
    s'.erased = true ∧ s'.erasing = false ∧ (Revived s → Revived s') ∧
      ((∀ call serial, event = .commit call serial → call.checksErasure = true) → Tombstone s → Tombstone s') ∧
      ∀ call serial, event = .commit call serial → call.checksErasure = false → Revived s' := by
  have sameRecords : ∀ {calls : List Call} {now : Time}, (∀ call serial, event ≠ .commit call serial) →
      s' = { s with calls, now } → s'.erased = true ∧ s'.erasing = false ∧ (Revived s → Revived s') ∧
        ((∀ call serial, event = .commit call serial → call.checksErasure = true) → Tombstone s → Tombstone s') ∧
        ∀ call serial, event = .commit call serial → call.checksErasure = false → Revived s' := by
    rintro calls now other rfl
    refine ⟨erased, settled, fun revived => revived, fun _ tombstone => ?_, fun call serial here =>
      absurd here (other call serial)⟩
    exact ⟨tombstone.email, tombstone.returnAddress, tombstone.stationeryTheme, tombstone.stationeryDesignId,
      tombstone.recentUpload, tombstone.signature, tombstone.designs, tombstone.addressRequests⟩
  cases event with
  | tick elapsed => exact sameRecords (fun _ _ same => Event.noConfusion same) (Except.ok.inj committed).symm
  | signIn call =>
    simp only [step, erased, if_true] at committed
    cases committed
  | commit call serial =>
    simp only [step, settled] at committed
    split at committed
    · cases committed
    · have same := (Except.ok.inj committed).symm
      have revives : ∀ other : Records, Revived other → Revived { other with calls := s.calls.erase call } :=
        fun _ revived => revived
      subst same
      refine ⟨erased_write erased, ?_, fun revived => revives _ (revived.write erased), ?_, ?_⟩
      · show (s.write cfg serial call).erasing = false
        by_cases checks : call.checksErasure = true
        · rw [write_of_checks erased checks, settled]
        · cases call <;> first | exact settled | exact absurd rfl checks
      · intro checks tombstone
        rw [write_of_checks erased (checks call serial rfl)]
        exact ⟨tombstone.email, tombstone.returnAddress, tombstone.stationeryTheme, tombstone.stationeryDesignId,
          tombstone.recentUpload, tombstone.signature, tombstone.designs, tombstone.addressRequests⟩
      · rintro _ _ ⟨⟩ unchecked
        exact revives _ (revived_of_unchecked unchecked)
  | abandon call => exact sameRecords (fun _ _ same => Event.noConfusion same) (Except.ok.inj committed).symm
  | eraseLock =>
    simp only [step, settled, erased, if_true] at committed
    cases committed
  | eraseCommit serial =>
    simp only [step, settled] at committed
    cases committed
  | eraseAbort =>
    simp only [step, settled] at committed
    cases committed

/-- Every call committed in the history checks `erased_at`. -/
def OnlyChecked (events : List Event) : Prop := ∀ call serial, .commit call serial ∈ events → call.checksErasure = true

theorem revived_runAll {events : List Event} (erased : s.erased = true) (settled : s.erasing = false)
    (revived : Revived s) (ran : runAll (step cfg) s events = .ok s') : Revived s' := by
  induction events generalizing s with
  | nil =>
    cases ran
    exact revived
  | cons event events ih =>
    unfold runAll at ran
    split at ran
    · rename_i after committed
      obtain ⟨stays, still, keeps, -, -⟩ := erased_step erased settled committed
      exact ih stays still (keeps revived) ran
    · cases ran

def livingAccount : Records := { user := { email := .address ['a', '@', 'b'] } }

def homeAddress : ReturnAddress :=
  { name := ['A'], addressLine1 := ['1'], addressLine2 := none, city := ['C'], state := ['S'], postalCode := ['0']
    country := ['U', 'S'] }

/-- A call that passes sign-in before the erasure and commits after it. -/
def overtaken (call : Call) : List Event :=
  [.signIn call, .eraseLock, .eraseCommit 1, .commit call 2]

/-- The erasure has committed, the call after it, and no tombstone is left. -/
def OutlivesErasure (call : Call) : Prop :=
  ∃ after, Reach (step {}) anyStep livingAccount after ∧ runAll (step {}) livingAccount (overtaken call) = .ok after ∧
    after.erased = true ∧ ¬ Tombstone after

theorem outlivesErasure_of {call : Call} (passes : (match runAll (step {}) livingAccount (overtaken call) with
      | .ok after => after.erased && ((match after.user.email with | .address _ => true | .placeholder _ => false) ||
          after.user.returnAddress.isSome || after.recentUpload.isSome)
      | .error _ => false) = true) : OutlivesErasure call := by
  cases ran : runAll (step {}) livingAccount (overtaken call) with
  | error reason =>
    rw [ran] at passes
    cases passes
  | ok after =>
    rw [ran] at passes
    have reach : Reach (step {}) anyStep livingAccount after := reach_of_runAll ran fun _ _ _ => trivial
    simp only [Bool.and_eq_true, Bool.or_eq_true] at passes
    obtain ⟨erased, (email | address) | upload⟩ := passes
    · refine ⟨after, reach, ran, erased, Revived.not_tombstone (.inl ?_)⟩
      split at email
      · exact ⟨_, by assumption⟩
      · cases email
    · exact ⟨after, reach, ran, erased, Revived.not_tombstone (.inr (.inl address))⟩
    · exact ⟨after, reach, ran, erased, Revived.not_tombstone (.inr (.inr upload))⟩

end LetterIRL.Erasure
