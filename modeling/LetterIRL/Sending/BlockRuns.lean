import LetterIRL.Sending.Blocks
import LetterIRL.Commerce.Settlements

namespace LetterIRL.Sending
open Lib Ledger Commerce Mail

variable {cfg : SendConfig} {w w' start : World} {tx : Tx} {event : Event} {txId : Nat}

/-- A transaction past the account's row has it locked. -/
def Locked (w : World) : Prop := ∀ tx ∈ w.txs.rows, tx.phase = .accountLocked → w.locks.Holds tx.txId .account

/-- The event that ends a transaction. -/
def Event.ends (txId : Nat) : Event → Prop
  | .commits id => id = txId
  | .rollsBack id => id = txId
  | _ => False

/-- What a step leaves a transaction past the account's row: the lock it holds, and the block as it was. -/
structure Keeps (w w' : World) (tx : Tx) (event : Event) : Prop where
  holds : w'.locks.Holds tx.txId .account
  blocked : w'.blocked = w.blocked
  earlier : (event = .locksAccount tx.txId ∧ ∃ before ∈ w.txs.rows, before.txId = tx.txId ∧ before.work = tx.work) ∨
    tx ∈ w.txs.rows ∧ ¬event.ends tx.txId

theorem run_ok {statement : Tx → Except Mail.Abort World} (ran : w.run txId statement = .ok w') :
    ∃ tx ∈ w.txs.rows, txId = tx.txId ∧ statement tx = .ok w' := by
  unfold World.run at ran
  split at ran
  · cases ran
  · rename_i tx found
    exact ⟨tx, Table.find_mem found, (Table.find_key found).symm, ran⟩

theorem commit_ok {own : Option Nat} {mail : Mail.Store} (committed : w.commit own mail = .ok w') :
    w' = { w with mail } ∧ ∀ other, some other ≠ own → w.locks.Holds other .account → w'.blocked = w.blocked := by
  unfold World.commit at committed
  split at committed
  · cases committed
  · rename_i free
    cases committed
    refine ⟨rfl, fun other apart holds => ?_⟩
    have unwritten : untouched w.mail mail .account = true := by
      have none := Bool.eq_false_of_not_eq_true free
      have this := List.any_eq_false.mp none _ (Table.find_mem holds)
      simpa [apart] using this
    have same := of_decide_eq_true unwritten
    unfold usersRow at same
    simp only [Prod.mk.injEq] at same
    show mail.commerce.account.sendsBlockedReason.isSome = w.mail.commerce.account.sendsBlockedReason.isSome
    rw [same.2.2.2]

/-- A transaction that goes on, with what it has locked. -/
theorem Locked.goesOn {locks : Locks RowLock Nat} {runs : Tx} {phase : Phase} (locked : Locked w)
    (kept : ∀ other, w.locks.Holds other .account → locks.Holds other .account)
    (new : phase = .accountLocked →
      event = .locksAccount runs.txId ∧ runs ∈ w.txs.rows ∧ locks.Holds runs.txId .account)
    (alive : ∀ id, ¬event.ends id) (member : tx ∈ ({ w with locks }.goesOn runs phase).txs.rows)
    (here : tx.phase = .accountLocked) : Keeps w ({ w with locks }.goesOn runs phase) tx event := by
  rcases Table.mem_put.mp member with ⟨old, -⟩ | ⟨rfl, -⟩
  · exact ⟨kept _ (locked tx old here), rfl, .inr ⟨old, alive _⟩⟩
  · obtain ⟨takes, before, holds⟩ := new here
    exact ⟨holds, rfl, .inl ⟨takes, runs, before, rfl, rfl⟩⟩

theorem locksDrafts_keeps {runs : Tx} (locked : Locked w) (committed : locksDrafts w runs = .ok w')
    (alive : ∀ id, ¬event.ends id) (member : tx ∈ w'.txs.rows) (here : tx.phase = .accountLocked) :
    Keeps w w' tx event := by
  unfold locksDrafts at committed
  split at committed
  · split at committed
    · cases committed
    · split at committed
      · cases committed
      · rename_i locks acquired
        split at committed
        · cases committed
        · cases committed
          refine locked.goesOn (fun _ => Locks.acquire_kept acquired) (fun past => ?_) alive member here
          split at past <;> cases past
  · cases committed
  · split at committed
    · cases committed
    · rename_i locks acquired
      cases committed
      exact locked.goesOn (fun _ => Locks.acquireAll_kept acquired) nofun alive member here

theorem readsBlock_keeps {runs : Tx} (locked : Locked w) (committed : readsBlock cfg w runs = .ok w')
    (alive : ∀ id, ¬event.ends id) (member : tx ∈ w'.txs.rows) (here : tx.phase = .accountLocked) :
    Keeps w w' tx event := by
  unfold readsBlock at committed
  split at committed
  · split at committed
    · cases committed
    · cases committed
      exact locked.goesOn (fun _ holds => holds) nofun alive member here
  · cases committed

theorem locksAccount_keeps {runs : Tx} (locked : Locked w) (before : runs ∈ w.txs.rows) (committed : locksAccount w runs = .ok w')
    (member : tx ∈ w'.txs.rows) (here : tx.phase = .accountLocked) :
    Keeps w w' tx (.locksAccount runs.txId) := by
  unfold locksAccount at committed
  split at committed
  · cases committed
  · split at committed
    · cases committed
    · rename_i locks acquired
      cases committed
      exact locked.goesOn (fun _ => Locks.acquire_kept acquired) (fun _ => ⟨rfl, before, Locks.acquire_holds acquired⟩)
        (fun _ ended => ended) member here

/-- A transaction that ends, with what it wrote. -/
theorem Locked.ends {mail : Mail.Store} {erased : Bool} {runs : Tx} (locked : Locked w)
    (unwritten : ∀ other, some other ≠ some runs.txId → w.locks.Holds other .account →
      ({ w with mail } : World).blocked = w.blocked)
    (member : tx ∈ ({ { w with mail }.ends runs.txId with erased } : World).txs.rows)
    (here : tx.phase = .accountLocked) :
    Keeps w { { w with mail }.ends runs.txId with erased } tx (.commits runs.txId) := by
  obtain ⟨old, apart⟩ := Table.mem_erase.mp member
  have holds := locked tx old here
  have differ : some tx.txId ≠ some runs.txId := fun same => apart (Option.some.inj same)
  exact ⟨holds.release apart, unwritten tx.txId differ holds, .inr ⟨old, fun ended => apart ended.symm⟩⟩

theorem commits_keeps {runs : Tx} (locked : Locked w) (committed : commits cfg w runs = .ok w')
    (member : tx ∈ w'.txs.rows) (here : tx.phase = .accountLocked) : Keeps w w' tx (.commits runs.txId) := by
  have kept : ∀ {after : World} {mail : Mail.Store} {erased : Bool},
      w.commit (some runs.txId) mail = .ok after → { after.ends runs.txId with erased } = w' →
        Keeps w w' tx (.commits runs.txId) := by
    intro after mail erased wrote same
    obtain ⟨rfl, unwritten⟩ := commit_ok wrote
    subst same
    exact locked.ends unwritten member here
  unfold commits at committed
  dsimp only at committed
  split at committed
  · cases committed
    exact locked.ends (fun _ _ _ => rfl) member here
  · obtain ⟨mailed, -, committed⟩ := bind_eq_ok.mp committed
    obtain ⟨after, wrote, committed⟩ := bind_eq_ok.mp committed
    cases committed
    exact kept wrote rfl
  · obtain ⟨written, -, committed⟩ := bind_eq_ok.mp committed
    obtain ⟨after, wrote, committed⟩ := bind_eq_ok.mp committed
    cases committed
    exact kept wrote rfl
  · split at committed
    · cases committed
      exact locked.ends (fun _ _ _ => rfl) member here
    · obtain ⟨after, wrote, committed⟩ := bind_eq_ok.mp committed
      cases committed
      exact kept wrote rfl
  · cases committed

/-- Over one step, a transaction past the account's row keeps its lock, and the block stays as it was. -/
theorem step_keeps (locked : Locked w) (committed : step cfg w event = .ok w') (member : tx ∈ w'.txs.rows)
    (here : tx.phase = .accountLocked) : Keeps w w' tx event := by
  unfold step at committed
  split at committed
  · rename_i txId work
    split at committed
    · cases committed
    · split at committed
      · cases committed
        rcases List.mem_append.mp member with old | new
        · exact ⟨locked tx old here, rfl, .inr ⟨old, fun ended => ended⟩⟩
        · rw [List.mem_singleton.mp new] at here
          cases here
      · cases committed
  · obtain ⟨runs, -, -, committed⟩ := run_ok committed
    split at committed
    · cases committed
    · exact locksDrafts_keeps locked committed (fun _ ended => ended) member here
  · obtain ⟨runs, -, -, committed⟩ := run_ok committed
    split at committed
    · cases committed
    · exact readsBlock_keeps locked committed (fun _ ended => ended) member here
  · obtain ⟨runs, before, rfl, taken⟩ := run_ok committed
    exact locksAccount_keeps locked before taken member here
  · obtain ⟨runs, -, rfl, ended⟩ := run_ok committed
    exact commits_keeps locked ended member here
  · rename_i txId
    cases committed
    obtain ⟨old, apart⟩ := Table.mem_erase.mp member
    exact ⟨(locked tx old here).release apart, rfl, .inr ⟨old, fun ended => apart ended.symm⟩⟩
  · split at committed
    · cases committed
    · obtain ⟨mail, -, committed⟩ := bind_eq_ok.mp committed
      obtain ⟨rfl, unwritten⟩ := commit_ok committed
      have holds := locked tx member here
      exact ⟨holds, unwritten tx.txId (by rintro ⟨⟩) holds, .inr ⟨member, fun ended => ended⟩⟩

theorem step_locked (locked : Locked w) (committed : step cfg w event = .ok w') : Locked w' :=
  fun _ member here => (step_keeps locked committed member here).holds

/-- A send as against a transaction that may set the block or lift it. -/
def Work.isSend : Work → Bool
  | .send _ => true
  | _ => false

/-- The state a transaction took the account's row in, to hold it to now. -/
structure TookAccount (cfg : SendConfig) (allowed : World → Event → Prop) (start w p : World) (tx : Tx) : Prop where
  reached : Reach (step cfg) allowed start p
  permitted : allowed p (.locksAccount tx.txId)
  there : ∃ before ∈ p.txs.rows, before.txId = tx.txId ∧ before.work = tx.work
  since : ∃ after, step cfg p (.locksAccount tx.txId) = .ok after ∧
    Reach (step cfg) (fun _ event => ¬event.ends tx.txId) after w

/-- Since a transaction took the account's row, nobody has set the block or lifted it. -/
theorem reach_took {allowed : World → Event → Prop} (idle : start.txs = Table.empty)
    (reach : Reach (step cfg) allowed start w) :
    Locked w ∧ ∀ tx ∈ w.txs.rows, tx.phase = .accountLocked →
      ∃ p, TookAccount cfg allowed start w p tx ∧ w.blocked = p.blocked := by
  induction reach with
  | start =>
    have none : ∀ tx, tx ∉ start.txs.rows := by
      intro tx member
      rw [idle] at member
      exact absurd member List.not_mem_nil
    exact ⟨fun tx member => absurd member (none tx), fun tx member => absurd member (none tx)⟩
  | @next before after event previous permitted committed ih =>
    obtain ⟨locked, took⟩ := ih
    refine ⟨step_locked locked committed, fun tx member here => ?_⟩
    obtain ⟨-, blocked, ⟨rfl, there⟩ | ⟨old, alive⟩⟩ := step_keeps locked committed member here
    · exact ⟨before, ⟨previous, permitted, there, after, committed, .start⟩, blocked⟩
    · obtain ⟨p, ⟨reached, permittedThen, there, first, taken, since⟩, same⟩ := took tx old here
      exact ⟨p, ⟨reached, permittedThen, there, first, taken, .next since alive committed⟩, blocked.trans same⟩

/-- A letter is created, or a letter's job. -/
def Mails (before after : World) : Prop :=
  (∃ letterId, before.mail.letters.find letterId = none ∧ after.mail.letters.find letterId ≠ none) ∨
    ∃ jobId, before.mail.jobs.find jobId = none ∧ after.mail.jobs.find jobId ≠ none

/-- A send that commits while its account is blocked creates neither. -/
def Honours (before after : World) : Prop := before.blocked = true → ¬Mails before after

/-- A send that creates mail has the account's row locked. -/
theorem mails_locked (here : tx ∈ w.txs.rows) (sends : tx.work.isSend = true)
    (committed : step cfg w (.commits tx.txId) = .ok w') (mails : Mails w w') : tx.phase = .accountLocked := by
  obtain ⟨runs, there, same, ran⟩ := run_ok committed
  have one : runs = tx := by
    have first := Table.find_of_mem there
    rw [← same, Table.find_of_mem here] at first
    exact (Option.some.inj first).symm
  subst one
  unfold commits at ran
  dsimp only at ran
  split at ran
  · cases ran
    rcases mails with ⟨letterId, none, some⟩ | ⟨jobId, none, some⟩
    · exact absurd none some
    · exact absurd none some
  · assumption
  · assumption
  · assumption
  · cases ran

/-- No block stands as a send takes its account's row: none has committed since the send read that there was
none, or it was lifted again. -/
def unblockedAtLock (w : World) : Event → Bool
  | .locksAccount txId => w.txs.rows.all fun tx => tx.txId != txId || !tx.work.isSend || !w.blocked
  | _ => true

theorem unblockedAtLock_blocked {p : World} {before : Tx} (there : before ∈ p.txs.rows)
    (sends : before.work.isSend = true) (permitted : unblockedAtLock p (.locksAccount before.txId) = true) :
    p.blocked = false := by
  have found := List.all_eq_true.mp permitted before there
  simpa [sends] using found

/-- The send block is honoured in every run in which no send takes its account's row while a block stands; and
in any run a send that creates mail honours the block just where none stood as it took that row. -/
theorem send_honours_block (idle : start.txs = Table.empty) :
    (∀ {w w' tx}, Reach (step cfg) (fun w event => unblockedAtLock w event = true) start w → tx ∈ w.txs.rows →
      tx.work.isSend = true → step cfg w (.commits tx.txId) = .ok w' → Honours w w') ∧
    ∀ {w w' tx}, Reach (step cfg) anyStep start w → tx ∈ w.txs.rows → tx.work.isSend = true →
      step cfg w (.commits tx.txId) = .ok w' → Mails w w' →
        ∃ p, TookAccount cfg anyStep start w p tx ∧ (Honours w w' ↔ p.blocked = false) := by
  refine ⟨fun reach here sends committed blocked mails => ?_, fun reach here sends committed mails => ?_⟩
  · have phase := mails_locked here sends committed mails
    obtain ⟨p, ⟨-, permitted, ⟨before, there, same, work⟩, -⟩, kept⟩ := (reach_took idle reach).2 _ here phase
    rw [← work] at sends
    rw [← same] at permitted
    have free := unblockedAtLock_blocked there sends permitted
    rw [kept, free] at blocked
    cases blocked
  · have phase := mails_locked here sends committed mails
    obtain ⟨p, took, kept⟩ := (reach_took idle reach).2 _ here phase
    refine ⟨p, took, fun honours => ?_, fun free blocked => ?_⟩
    · rw [← kept]
      exact Bool.eq_false_of_not_eq_true fun blocked => honours blocked mails
    · rw [kept, free] at blocked
      cases blocked

/-- A pack and an operator's credits, a draft, and its send up to its read of the block. -/
def sendUnblocked : List Event :=
  (boughtPack.map fun event => .other (.commerce event { jobId := 0 })) ++
    [.other (.commerce (.grantAdjustment 4) { jobId := 0 }),
      .other (.commerce (.createDraft
        { draftId := 1, mailOption := { mailType := .letter }, expiresAt := days 30, requiredCredits := 2 })
        { jobId := 0 }),
      .begins 1 (.send { draftId := 1, mailType := .letter, letterId := 40, mail := { jobId := 5 } }),
      .locksDrafts 1, .readsBlock 1, .begins 2 (.commerce (.dispute (disputeOpened 2 1)) { jobId := 0 })]

/-- The letter of that send, created by its commit. -/
def mailsLetter (before after : World) : Bool :=
  (before.mail.letters.find 40).isNone && (after.mail.letters.find 40).isSome &&
    (before.txs.find 1).any fun tx => tx.work.isSend

theorem mailsLetter_mails (mails : mailsLetter w w' = true) :
    ∃ tx ∈ w.txs.rows, tx.txId = 1 ∧ tx.work.isSend = true ∧ Mails w w' := by
  unfold mailsLetter at mails
  simp only [Bool.and_eq_true, Option.any_eq_true, Option.isNone_iff_eq_none] at mails
  obtain ⟨⟨none, some⟩, tx, found, sends⟩ := mails
  refine ⟨tx, Table.find_mem found, Table.find_key found, sends, .inl ⟨40, none, ?_⟩⟩
  exact Option.isSome_iff_ne_none.mp some

/-- A dispute that waits for the send to end. -/
theorem send_honours_block_waiting :
    ∃ w w', step {} w (.commits 1) = .ok w' ∧ Mails w w' ∧ Honours w w' := by
  obtain ⟨w, w', reach, committed, passes⟩ := exists_step
    (checkedStep (step {}) fun w event => unblockedAtLock w event = true) {} mailsLetter
    (sendUnblocked ++ [.locksAccount 1]) (.commits 1) (by decide)
  obtain ⟨tx, here, same, sends, mails⟩ := mailsLetter_mails passes
  obtain ⟨-, done⟩ := checkedStep_ok committed
  refine ⟨w, w', done, mails, ?_⟩
  rw [← same] at done
  exact (send_honours_block rfl).1 (reach_of_checked reach) here sends done

/-- A dispute is opened between the send's read and its lock: the letter is created all the same. -/
theorem send_under_block :
    ∃ w w' tx, Reach (step {}) anyStep {} w ∧ tx ∈ w.txs.rows ∧ tx.work.isSend = true ∧
      step {} w (.commits tx.txId) = .ok w' ∧ ¬Honours w w' := by
  obtain ⟨w, w', reach, committed, passes⟩ := exists_step (step {}) {}
    (fun before after => before.blocked && mailsLetter before after)
    (sendUnblocked ++ [.locksAccount 2, .commits 2, .locksAccount 1]) (.commits 1) (by decide)
  rw [Bool.and_eq_true] at passes
  obtain ⟨tx, here, same, sends, mails⟩ := mailsLetter_mails passes.2
  rw [← same] at committed
  exact ⟨w, w', tx, reach, here, sends, committed, fun honours => honours passes.1 mails⟩

end LetterIRL.Sending
